import EvidenceRank.Citation
import EvidenceRank.Proofs.Row
import EvidenceRank.Proofs.Sample

/-!
# Retained rows

Which rows are cited if the budget allows, said row by row: `Retains rows kept` goes through `rows`
in order and keeps each one that repeats neither the place nor the text of one kept before.

Results:
* `retained_retains`, `Retains.unique`: `retained` keeps exactly these rows.
* `retained_pairwise`: no two retained rows repeat each other, so a place or a key names one of
  them (`eq_of_repeats`).
* `retained_append`: what is retained of a prefix is a prefix of what is retained.
* `retained_snoc_of_repeats`, `retained_snoc_of_not`: a row is dropped exactly if it repeats one
  retained before.
-/

namespace EvidenceRank.Citation

variable {σ : Type}

/-! ## Repeats -/

/-- The rows stand at one place of one document. -/
def SamePlace (s r : Row σ) : Prop :=
  s.document.docId = r.document.docId ∧ s.candidate.segment = r.candidate.segment

/-- `r` is not retained behind `s`: it has its place, or its text. -/
def Repeats (s r : Row σ) : Prop := SamePlace s r ∨ s.key = r.key

theorem samePlace_iff {s r : Row σ} : samePlace s r = true ↔ SamePlace s r := by
  unfold samePlace SamePlace
  rw [Bool.and_eq_true, beq_iff_eq, beq_iff_eq]

theorem repeats_iff {s r : Row σ} : (samePlace s r || s.key == r.key) = true ↔ Repeats s r := by
  unfold Repeats
  rw [Bool.or_eq_true, samePlace_iff, beq_iff_eq]

theorem Repeats.symm {s r : Row σ} (h : Repeats s r) : Repeats r s := by
  rcases h with ⟨hdoc, hseg⟩ | hkey
  · exact Or.inl ⟨hdoc.symm, hseg.symm⟩
  · exact Or.inr hkey.symm

/-- Going through `rows` in order, `kept` are the rows that repeat none kept before. -/
inductive Retains : List (Row σ) → List (Row σ) → Prop
  | nil : Retains [] []
  | keep {rows kept : List (Row σ)} {r : Row σ} (h : Retains rows kept)
      (hr : ∀ s ∈ kept, ¬ Repeats s r) : Retains (rows ++ [r]) (kept ++ [r])
  | drop {rows kept : List (Row σ)} {r : Row σ} (h : Retains rows kept)
      (hr : ∃ s ∈ kept, Repeats s r) : Retains (rows ++ [r]) kept

/-! ## Going through the rows -/

theorem any_repeats_iff {kept : List (Row σ)} {r : Row σ} :
    (kept.any fun s => samePlace s r || s.key == r.key) = true ↔ ∃ s ∈ kept, Repeats s r := by
  rw [List.any_eq_true]
  constructor
  · rintro ⟨s, hs, h⟩
    exact ⟨s, hs, repeats_iff.mp h⟩
  · rintro ⟨s, hs, h⟩
    exact ⟨s, hs, repeats_iff.mpr h⟩

theorem retainFrom_cons_of_repeats {kept rows : List (Row σ)} {r : Row σ}
    (h : ∃ s ∈ kept, Repeats s r) : retainFrom kept (r :: rows) = retainFrom kept rows := by
  rw [retainFrom, if_pos (any_repeats_iff.mpr h)]

theorem retainFrom_cons_of_not {kept rows : List (Row σ)} {r : Row σ}
    (h : ¬ ∃ s ∈ kept, Repeats s r) :
    retainFrom kept (r :: rows) = r :: retainFrom (r :: kept) rows := by
  rw [retainFrom, if_neg fun hany => h (any_repeats_iff.mp hany)]

theorem retainFrom_sublist (kept rows : List (Row σ)) : (retainFrom kept rows).Sublist rows := by
  induction rows generalizing kept with
  | nil => exact List.Sublist.refl _
  | cons r rows ih =>
    by_cases h : ∃ s ∈ kept, Repeats s r
    · rw [retainFrom_cons_of_repeats h]
      exact (ih kept).cons r
    · rw [retainFrom_cons_of_not h]
      exact (ih (r :: kept)).cons_cons r

/-- What is retained repeats neither a row kept before nor one retained ahead of it. -/
theorem retainFrom_fresh (kept rows : List (Row σ)) :
    (∀ r ∈ retainFrom kept rows, ∀ s ∈ kept, ¬ Repeats s r) ∧
      (retainFrom kept rows).Pairwise fun s r => ¬ Repeats s r := by
  induction rows generalizing kept with
  | nil => exact ⟨fun r hr => absurd hr List.not_mem_nil, List.Pairwise.nil⟩
  | cons r rows ih =>
    by_cases h : ∃ s ∈ kept, Repeats s r
    · rw [retainFrom_cons_of_repeats h]
      exact ih kept
    · obtain ⟨hkept, hpair⟩ := ih (r :: kept)
      rw [retainFrom_cons_of_not h, List.pairwise_cons]
      refine ⟨fun x hx s hs hrep => ?_, fun x hx => hkept x hx r List.mem_cons_self, hpair⟩
      rcases List.mem_cons.mp hx with rfl | hx
      · exact h ⟨s, hs, hrep⟩
      · exact hkept x hx s (List.mem_cons_of_mem r hs) hrep

theorem retainFrom_append (kept xs ys : List (Row σ)) : retainFrom kept (xs ++ ys) =
    retainFrom kept xs ++ retainFrom ((retainFrom kept xs).reverse ++ kept) ys := by
  induction xs generalizing kept with
  | nil => rfl
  | cons x xs ih =>
    rw [List.cons_append]
    by_cases h : ∃ s ∈ kept, Repeats s x
    · rw [retainFrom_cons_of_repeats h, retainFrom_cons_of_repeats h, ih]
    · rw [retainFrom_cons_of_not h, retainFrom_cons_of_not h, ih, List.reverse_cons,
        List.append_assoc, List.singleton_append, List.cons_append]

/-! ## Retained rows -/

variable {rows : List (Row σ)}

theorem mem_of_mem_retained {r : Row σ} (h : r ∈ retained rows) : r ∈ rows :=
  (retainFrom_sublist [] rows).mem h

theorem length_retained_le (rows : List (Row σ)) : (retained rows).length ≤ rows.length :=
  (retainFrom_sublist [] rows).length_le

/-- **No two retained rows repeat each other.** -/
theorem retained_pairwise (rows : List (Row σ)) :
    (retained rows).Pairwise fun s r => ¬ Repeats s r :=
  (retainFrom_fresh [] rows).2

theorem eq_of_repeats {s r : Row σ} (hs : s ∈ retained rows) (hr : r ∈ retained rows)
    (h : Repeats s r) : s = r :=
  Lists.eq_of_pairwise_not Repeats.symm (retained_pairwise rows) hs hr h

theorem eq_of_key_eq {s r : Row σ} (hs : s ∈ retained rows) (hr : r ∈ retained rows)
    (h : s.key = r.key) : s = r :=
  eq_of_repeats hs hr (Or.inr h)

theorem retained_append (xs ys : List (Row σ)) :
    retained (xs ++ ys) = retained xs ++ retainFrom (retained xs).reverse ys := by
  unfold retained
  rw [retainFrom_append, List.append_nil]

theorem mem_retained_append {xs ys : List (Row σ)} {r : Row σ} (h : r ∈ retained xs) :
    r ∈ retained (xs ++ ys) := by
  rw [retained_append]
  exact List.mem_append_left _ h

theorem retained_snoc_of_repeats {r : Row σ} (h : ∃ s ∈ retained rows, Repeats s r) :
    retained (rows ++ [r]) = retained rows := by
  obtain ⟨s, hs, hrep⟩ := h
  rw [retained_append, retainFrom_cons_of_repeats ⟨s, List.mem_reverse.mpr hs, hrep⟩]
  exact List.append_nil _

theorem retained_snoc_of_not {r : Row σ} (h : ¬ ∃ s ∈ retained rows, Repeats s r) :
    retained (rows ++ [r]) = retained rows ++ [r] := by
  rw [retained_append, retainFrom_cons_of_not fun ⟨s, hs, hrep⟩ =>
    h ⟨s, List.mem_reverse.mp hs, hrep⟩]
  rfl

/-- One more row is kept or dropped as `Retains` says. -/
theorem Retains.snoc (h : Retains rows (retained rows)) (r : Row σ) :
    Retains (rows ++ [r]) (retained (rows ++ [r])) := by
  by_cases hrep : ∃ s ∈ retained rows, Repeats s r
  · rw [retained_snoc_of_repeats hrep]
    exact Retains.drop h hrep
  · rw [retained_snoc_of_not hrep]
    exact Retains.keep h fun s hs hsr => hrep ⟨s, hs, hsr⟩

/-- **`retained` keeps the rows that repeat none kept before.** -/
theorem retained_retains (rows : List (Row σ)) : Retains rows (retained rows) := by
  have h : ∀ done : List (Row σ), Retains done (retained done) →
      Retains (done ++ rows) (retained (done ++ rows)) := by
    induction rows with
    | nil =>
      intro done hdone
      rw [List.append_nil]
      exact hdone
    | cons r rows ih =>
      intro done hdone
      have hsnoc := ih (done ++ [r]) (hdone.snoc r)
      rw [List.append_assoc, List.singleton_append] at hsnoc
      exact hsnoc
  exact h [] Retains.nil

/-- What is retained is determined by the rows. -/
theorem Retains.unique {kept : List (Row σ)} (h : Retains rows kept) : kept = retained rows := by
  induction h with
  | nil => rfl
  | keep _ hr ih =>
    subst ih
    exact (retained_snoc_of_not fun ⟨s, hs, hrep⟩ => hr s hs hrep).symm
  | drop _ hr ih =>
    subst ih
    exact (retained_snoc_of_repeats hr).symm

/-! ## Three rows -/

/-- Two rows of one document. -/
def ownRows : List (Row Float) := [sampleRow "A" "m" "a" 1, sampleRow "A" "m" "b" 5]

/-- A row of another document, with the text of the second of them. -/
def repeatingRow : Row Float := sampleRow "B" "m" "b" 1

theorem retained_ownRows : retained ownRows = ownRows := by
  have hne : Text.hash "a" ≠ Text.hash "b" := by
    have h := hash_nodup
    simp only [List.nodup_cons, List.mem_cons, not_or] at h
    exact h.1.1
  simp [ownRows, retained, retainFrom, samePlace, sampleRow, sample, Row.ofCandidate, Row.document,
    Row.key, Row.md5, hne]

/-- A text that another document has cited is not retained again. -/
theorem retained_repeating : retained (ownRows ++ [repeatingRow]) = ownRows := by
  have hmem : sampleRow "A" "m" "b" 5 ∈ retained ownRows := by
    rw [retained_ownRows]
    exact List.mem_cons_of_mem _ List.mem_cons_self
  have hrep : Repeats (sampleRow "A" "m" "b" 5) repeatingRow := Or.inr rfl
  rw [retained_snoc_of_repeats ⟨_, hmem, hrep⟩, retained_ownRows]

end EvidenceRank.Citation
