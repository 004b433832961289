import EvidenceRank.Text.Normal
import Mathlib.Logic.Relation

/-!
# Texts that differ in spacing

Normalising trims a text and deletes the ASCII spaces afterwards. That brings no other blank to an
end: a space is a blank itself, so those at an end, alone or among other blanks, are gone by then.
The two steps may as well be done in the other order (`normalize_eq`).

`Spaced s t` says that `t` is `s` with one more ASCII space, anywhere, or with one more blank at an
end; texts that such steps join, in both directions, are `Respaced`.

Results:
* `exists_trimChars`, `head?_trimChars`, `getLast?_trimChars`: trimming takes the blanks away from
  both ends, all of them and nothing else.
* `normalize_compact`, `normalize_eq_self`: which texts are in normal form.
* `Spaced.normalize_eq`, `respaced_normalize`: a step keeps the normal form, and steps lead from it
  to the text.
* `normalize_identifies`: so texts have one normal form exactly if they differ in spacing alone.
-/

namespace EvidenceRank.Text

open Relation (EqvGen)

/-! ## Trimming -/

section

variable {cs : List Char} {c : Char}

/-- What is cut off at the end are blanks. -/
theorem exists_trimChars_append (cs : List Char) : ∃ back,
    cs.dropWhile isBlank = trimChars cs ++ back ∧ ∀ c ∈ back, isBlank c = true := by
  let rest := cs.dropWhile isBlank
  refine ⟨(rest.reverse.takeWhile isBlank).reverse, ?_, fun c hc => ?_⟩
  · unfold trimChars
    rw [← List.reverse_append, List.takeWhile_append_dropWhile, List.reverse_reverse]
  · exact List.all_eq_true.mp List.all_takeWhile c (List.mem_reverse.mp hc)

/-- **Trimming takes away blanks at both ends**, and nothing else. -/
theorem exists_trimChars (cs : List Char) : ∃ front back, cs = front ++ trimChars cs ++ back ∧
    (∀ c ∈ front, isBlank c = true) ∧ ∀ c ∈ back, isBlank c = true := by
  obtain ⟨back, hrest, hback⟩ := exists_trimChars_append cs
  refine ⟨cs.takeWhile isBlank, back, ?_, List.all_eq_true.mp List.all_takeWhile, hback⟩
  rw [List.append_assoc, ← hrest, List.takeWhile_append_dropWhile]

theorem head?_trimChars (h : (trimChars cs).head? = some c) : isBlank c = false := by
  obtain ⟨back, hrest, -⟩ := exists_trimChars_append cs
  have hfirst := List.head?_dropWhile_not isBlank cs
  rw [hrest, List.head?_append, h] at hfirst
  exact hfirst

theorem getLast?_trimChars (h : (trimChars cs).getLast? = some c) : isBlank c = false := by
  have hfirst := List.head?_dropWhile_not isBlank (cs.dropWhile isBlank).reverse
  rw [trimChars, List.getLast?_reverse] at h
  rw [h] at hfirst
  exact hfirst

theorem dropWhile_isBlank (h : ∀ c, cs.head? = some c → isBlank c = false) :
    cs.dropWhile isBlank = cs := by
  cases cs with
  | nil => rfl
  | cons c cs => exact List.dropWhile_cons_of_neg (by rw [h c rfl]; exact Bool.false_ne_true)

/-- What has no blank at an end is left as it is. -/
theorem trimChars_eq_self (hhead : ∀ c, cs.head? = some c → isBlank c = false)
    (hlast : ∀ c, cs.getLast? = some c → isBlank c = false) : trimChars cs = cs := by
  rw [trimChars, dropWhile_isBlank hhead, dropWhile_isBlank, List.reverse_reverse]
  intro c hc
  rw [List.head?_reverse] at hc
  exact hlast c hc

theorem trimChars_cons (hc : isBlank c = true) (cs : List Char) :
    trimChars (c :: cs) = trimChars cs := by
  rw [trimChars, List.dropWhile_cons_of_pos hc, trimChars]

theorem trimChars_concat (hc : isBlank c = true) (cs : List Char) :
    trimChars (cs ++ [c]) = trimChars cs := by
  unfold trimChars
  rw [List.dropWhile_append]
  split
  · rename_i hnone
    rw [List.isEmpty_iff.mp hnone, List.dropWhile_cons_of_pos hc]
    rfl
  · rw [List.reverse_concat, List.dropWhile_cons_of_pos hc]

/-- **Spaces can be deleted before blanks are trimmed, or afterwards.** -/
theorem trimChars_filter (cs : List Char) :
    trimChars (cs.filter (· != ' ')) = (trimChars cs).filter (· != ' ') := by
  have hblank : (fun c => !(c != ' ') || isBlank c) = isBlank := by
    funext c
    by_cases hc : c = ' '
    · rw [hc]
      rfl
    · simp [hc]
  unfold trimChars
  rw [List.dropWhile_filter, hblank, ← List.filter_reverse, List.dropWhile_filter, hblank,
    List.filter_reverse]

end

/-! ## Normal forms -/

/-- **The normal form is the text without its spaces, trimmed.** -/
theorem normalize_eq (s : String) : normalize s = trim (withoutSpaces s) := by
  rw [← String.toList_inj, normalize, withoutSpaces_eq, trim_eq, trim_eq,
    withoutSpaces_eq, trimChars_filter]

/-- A text without ASCII spaces that neither starts nor ends with a blank. -/
structure Compact (s : String) : Prop where
  spaceless : ' ' ∉ s.toList
  head : ∀ c, s.toList.head? = some c → isBlank c = false
  last : ∀ c, s.toList.getLast? = some c → isBlank c = false

theorem normalize_compact (s : String) : Compact (normalize s) where
  spaceless := by simp [normalize]
  head c hc := by
    rw [normalize_eq, trim_eq] at hc
    exact head?_trimChars hc
  last c hc := by
    rw [normalize_eq, trim_eq] at hc
    exact getLast?_trimChars hc

theorem Compact.normalize_eq_self {s : String} (h : Compact s) : normalize s = s := by
  have hkept : s.toList.filter (· != ' ') = s.toList := by
    refine List.filter_eq_self.mpr fun c hc => bne_iff_ne.mpr ?_
    rintro rfl
    exact h.spaceless hc
  rw [← String.toList_inj, normalize, withoutSpaces_eq, trim_eq,
    trimChars_eq_self h.head h.last, hkept]

/-! ## Steps between texts -/

/-- The second text is the first with one more ASCII space, or with one more blank at an end. -/
inductive Spaced : String → String → Prop
  | space (s t : String) : Spaced (s ++ t) (s ++ " " ++ t)
  | front {c : Char} (hc : isBlank c = true) (s : String) : Spaced s (String.singleton c ++ s)
  | back {c : Char} (hc : isBlank c = true) (s : String) : Spaced s (s ++ String.singleton c)

/-- Texts that differ in ASCII spaces, and in blanks at the ends. -/
def Respaced : String → String → Prop := EqvGen Spaced

/-- **A step keeps the normal form.** -/
theorem Spaced.normalize_eq {s t : String} (h : Spaced s t) : normalize s = normalize t := by
  rw [← String.toList_inj]
  cases h with
  | space s t =>
    rw [Text.normalize_eq, Text.normalize_eq]
    simp
  | front hc s => simp [normalize, trimChars_cons hc]
  | back hc s => simp [normalize, trimChars_concat hc]

theorem Spaced.respaced {s t : String} (h : Spaced s t) : Respaced s t := .rel s t h

namespace Respaced

variable {s t u : String}

theorem symm (h : Respaced s t) : Respaced t s := EqvGen.symm s t h

theorem trans (h : Respaced s t) (h' : Respaced t u) : Respaced s u := EqvGen.trans s t u h h'

theorem normalize_eq (h : Respaced s t) : normalize s = normalize t := by
  induction h with
  | rel s t h => exact h.normalize_eq
  | refl s => rfl
  | symm s t _ ih => exact ih.symm
  | trans s t u _ _ ih ih' => exact ih.trans ih'

end Respaced

theorem respaced_front (s : String) {front : List Char} (h : ∀ c ∈ front, isBlank c = true) :
    Respaced s (String.ofList front ++ s) := by
  induction front with
  | nil =>
    rw [String.ofList_nil, String.empty_append]
    exact .refl s
  | cons c front ih =>
    obtain ⟨hc, hfront⟩ := List.forall_mem_cons.mp h
    have hstep := Spaced.front hc (String.ofList front ++ s)
    rw [← String.append_assoc, String.singleton_eq_ofList, ← String.ofList_append] at hstep
    exact (ih hfront).trans hstep.respaced

theorem respaced_back (s : String) {back : List Char} (h : ∀ c ∈ back, isBlank c = true) :
    Respaced s (s ++ String.ofList back) := by
  induction back generalizing s with
  | nil =>
    rw [String.ofList_nil, String.append_empty]
    exact .refl s
  | cons c back ih =>
    obtain ⟨hc, hback⟩ := List.forall_mem_cons.mp h
    have hrest := ih (s ++ String.singleton c) hback
    rw [String.append_assoc, String.singleton_eq_ofList, ← String.ofList_append] at hrest
    exact (Spaced.back hc s).respaced.trans hrest

/-- Steps lead from a trimmed text back to the whole. -/
theorem respaced_trim (s : String) : Respaced (trim s) s := by
  obtain ⟨front, back, hs, hfront, hback⟩ := exists_trimChars s.toList
  have hwhole : String.ofList front ++ trim s ++ String.ofList back = s := by
    rw [← String.toList_inj]
    simpa using hs.symm
  have h := (respaced_front (trim s) hfront).trans
    (respaced_back (String.ofList front ++ trim s) hback)
  rwa [hwhole] at h

/-- Deleted spaces are put back one by one, behind whatever is in front of them. -/
theorem respaced_filter (front cs : List Char) :
    Respaced (String.ofList (front ++ cs.filter (· != ' '))) (String.ofList (front ++ cs)) := by
  induction cs generalizing front with
  | nil => exact .refl _
  | cons c cs ih =>
    by_cases hc : c = ' '
    · have hstep : Spaced (String.ofList (front ++ cs)) (String.ofList (front ++ ' ' :: cs)) := by
        have h := Spaced.space (String.ofList front) (String.ofList cs)
        have hspace : " " = String.ofList [' '] := rfl
        rwa [hspace, ← String.ofList_append, ← String.ofList_append, ← String.ofList_append,
          List.append_assoc] at h
      rw [hc]
      exact (ih front).trans hstep.respaced
    · rw [List.filter_cons_of_pos (by simpa using hc)]
      simpa using ih (front ++ [c])

/-- **Steps lead from the normal form to the text.** -/
theorem respaced_normalize (s : String) : Respaced (normalize s) s := by
  have h := respaced_filter [] (trim s).toList
  rw [List.nil_append, List.nil_append, String.ofList_toList] at h
  exact h.trans (respaced_trim s)

theorem normalize_eq_iff_respaced {s t : String} : normalize s = normalize t ↔ Respaced s t := by
  constructor
  · intro h
    have ht := respaced_normalize t
    rw [← h] at ht
    exact (respaced_normalize s).symm.trans ht
  · exact Respaced.normalize_eq

/-- **Normalising tells texts apart up to their spacing.** Texts have one normal form exactly if
they are equal once spaces are deleted and ends are trimmed, and exactly if they differ in spaces
and outer blanks alone, so that their digests are the same; and a normal form is its own. -/
theorem normalize_identifies (s t : String) :
    (normalize s = normalize t ↔ trim (withoutSpaces s) = trim (withoutSpaces t)) ∧
      (normalize s = normalize t ↔ Respaced s t) ∧ (Respaced s t → hash s = hash t) ∧
      normalize (normalize s) = normalize s ∧ Compact (normalize s) := by
  refine ⟨?_, normalize_eq_iff_respaced, fun h => ?_, (normalize_compact s).normalize_eq_self,
    normalize_compact s⟩
  · rw [normalize_eq, normalize_eq]
  · rw [hash, hash, h.normalize_eq]

/-- Spaces between words and at the ends. -/
theorem hello_world_respaced : Respaced "  hello world " "helloworld" ∧
    hash "  hello world " = hash "helloworld" := by
  obtain ⟨-, hsame, hhash, -⟩ := normalize_identifies "  hello world " "helloworld"
  have h : Respaced "  hello world " "helloworld" := hsame.mp (by decide +kernel)
  exact ⟨h, hhash h⟩

/-- Other blanks stay where they are between words. -/
example : normalize " a b\nc " = "ab\nc" := by decide +kernel

end EvidenceRank.Text
