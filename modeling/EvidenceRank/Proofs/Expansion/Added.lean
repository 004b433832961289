import EvidenceRank.Lists.Adjacent
import EvidenceRank.Proofs.Expansion.Calls
import EvidenceRank.Proofs.Row
import EvidenceRank.Proofs.Sample

/-!
# Rows that expansion adds

Fetched rows are put one by one behind the top rows, each compared with all the rows that are there
by then; lower rows that follow a top row are kept without comparing them to anything. So a fetched
row repeats neither a text nor a place, while a kept lower row repeats no text, because its table
does not, and repeats a place exactly if the table has an earlier row there.

Results:
* `exists_appendNew`, `not_repeats_of_appendNew`: appending leaves the rows that are there, and what
  it puts behind them repeats nothing in front.
* `appendNew_eq_self_iff`: nothing is appended exactly if every row repeats one that is there.
* `exists_of_keepNeighbours`: where in the table a kept lower row comes from.
* `expand_added_new`: which rows in front an added row may repeat, for every method.
-/

namespace EvidenceRank.Expansion

variable {σ : Type}

/-! ## Appending rows -/

theorem repeats_iff {rows : List (Row σ)} {r : Row σ} :
    repeats rows r = true ↔ ∃ s ∈ rows, s.key = r.key ∨ s.position = r.position := by
  simp [repeats]

theorem not_repeats_iff {rows : List (Row σ)} {r : Row σ} :
    repeats rows r = false ↔ ∀ s ∈ rows, s.key ≠ r.key ∧ s.position ≠ r.position := by
  simp [repeats]

theorem appendNew_cons (kept rows : List (Row σ)) (r : Row σ) :
    appendNew kept (r :: rows) =
      appendNew (if repeats kept r then kept else kept ++ [r]) rows := rfl

theorem appendNew_append (kept rows others : List (Row σ)) :
    appendNew kept (rows ++ others) = appendNew (appendNew kept rows) others :=
  List.foldl_append

/-- Appending puts some of the rows behind those that are there, in their order. -/
theorem exists_appendNew (kept rows : List (Row σ)) :
    ∃ added, appendNew kept rows = kept ++ added ∧ added.Sublist rows := by
  induction rows generalizing kept with
  | nil => exact ⟨[], (List.append_nil kept).symm, List.Sublist.refl []⟩
  | cons r rows ih =>
    rw [appendNew_cons]
    split
    · obtain ⟨added, heq, hsub⟩ := ih kept
      exact ⟨added, heq, hsub.cons r⟩
    · obtain ⟨added, heq, hsub⟩ := ih (kept ++ [r])
      refine ⟨r :: added, ?_, hsub.cons_cons r⟩
      rw [heq, List.append_assoc, List.singleton_append]

theorem prefix_appendNew (kept rows : List (Row σ)) : kept <+: appendNew kept rows := by
  obtain ⟨added, heq, -⟩ := exists_appendNew kept rows
  exact ⟨added, heq.symm⟩

/-- **An appended row repeats none in front of it.** -/
theorem not_repeats_of_appendNew {kept rows before after : List (Row σ)} {r : Row σ}
    (h : appendNew kept rows = before ++ r :: after) (hlen : kept.length ≤ before.length) :
    repeats before r = false := by
  induction rows generalizing kept with
  | nil =>
    have hl := congrArg List.length h
    rw [List.length_append, List.length_cons] at hl
    change kept.length = _ at hl
    omega
  | cons x rows ih =>
    rw [appendNew_cons] at h
    by_cases hx : repeats kept x = true
    · rw [if_pos hx] at h
      exact ih h hlen
    · rw [if_neg hx] at h
      by_cases hlt : kept.length < before.length
      · refine ih h ?_
        rw [List.length_append, List.length_singleton]
        exact hlt
      · -- `x` stands right behind the kept rows, so it is `r`
        have hpre := prefix_appendNew (kept ++ [x]) rows
        rw [h] at hpre
        have hpre' : before ++ [r] <+: before ++ r :: after := by simp
        have heq : kept ++ [x] = before ++ [r] := by
          refine (List.prefix_of_prefix_length_le hpre hpre' ?_).eq_of_length ?_ <;>
            simp only [List.length_append, List.length_singleton] <;> omega
        obtain ⟨rfl, hxr⟩ := List.append_inj' heq rfl
        obtain rfl := (List.cons.inj hxr).1
        exact Bool.eq_false_iff.mpr hx

/-- **Nothing is appended exactly if every row repeats one that is there.** -/
theorem appendNew_eq_self_iff {kept rows : List (Row σ)} :
    appendNew kept rows = kept ↔ ∀ r ∈ rows, repeats kept r = true := by
  induction rows with
  | nil => simp [appendNew]
  | cons x rows ih =>
    rw [appendNew_cons, List.forall_mem_cons]
    by_cases hx : repeats kept x = true
    · rw [if_pos hx, ih]
      exact ⟨fun h => ⟨hx, h⟩, fun h => h.2⟩
    · rw [if_neg hx]
      refine ⟨fun h => ?_, fun h => absurd h.1 hx⟩
      have hlen := (prefix_appendNew (kept ++ [x]) rows).length_le
      rw [h, List.length_append, List.length_singleton] at hlen
      omega

/-! ## Rows of records -/

section
variable [Score σ]

@[simp] theorem successorRow_key (rows : List (Row σ)) (id : String) (record : SliceRecord) :
    (successorRow rows id record).key =
      ((documentOf rows record).md5, Text.hash record.text) := rfl

@[simp] theorem successorRow_position (rows : List (Row σ)) (id : String) (record : SliceRecord) :
    (successorRow rows id record).position =
      ((documentOf rows record).md5, record.segment.toInt) := rfl

theorem rows_appendSuccessors (top : List (Row σ)) (records : List (String × SliceRecord)) :
    (appendSuccessors top records).rows =
      appendNew top (records.map fun x => successorRow top x.1 x.2) := rfl

end

/-! ## Keeping lower rows -/

theorem follows_iff {r s : Row σ} : follows r s = true ↔
    s.md5 = r.md5 ∧ s.candidate.segment.toInt + 1 = r.candidate.segment.toInt := by
  unfold follows
  rw [Bool.and_eq_true, beq_iff_eq, beq_iff_eq]

/-- Whether a row follows another is a matter of its place. -/
theorem follows_congr {r t : Row σ} (h : r.position = t.position) (s : Row σ) :
    follows r s = follows t s := by
  obtain ⟨hmd5, hsegment⟩ := Prod.mk.inj h
  unfold follows
  rw [hmd5, hsegment]

/-- **A kept lower row follows a top row**, and what stands in front of it are the top rows and
those of the lower rows in front of it in the table that follow a top row too. -/
theorem exists_of_keepNeighbours {top : Nat} {rows before after : List (Row σ)} {r : Row σ}
    (h : (keepNeighbours top rows).rows = before ++ r :: after)
    (hlen : (rows.take top).length ≤ before.length) :
    ∃ between later, rows = rows.take top ++ between ++ r :: later ∧
      (rows.take top).any (follows r) = true ∧
      before = rows.take top ++ between.filter fun t => (rows.take top).any (follows t) := by
  unfold keepNeighbours at h
  simp only at h
  have hsplit : ∃ front, before = rows.take top ++ front ∧
      ((rows.drop top).filter fun t => (rows.take top).any (follows t)) = front ++ r :: after := by
    rcases List.append_eq_append_iff.mp h with ⟨front, hfront, hrest⟩ | ⟨back, hback, hrest⟩
    · exact ⟨front, hfront, hrest⟩
    · have hnil : back = [] := by
        have hl := congrArg List.length hback
        rw [List.length_append] at hl
        exact List.length_eq_zero_iff.mp (by omega)
      subst hnil
      rw [List.append_nil] at hback
      exact ⟨[], by rw [hback, List.append_nil], hrest.symm⟩
  obtain ⟨front, hbefore, hfilter⟩ := hsplit
  obtain ⟨l₁, l₂, hdrop, hl₁, hl₂⟩ := List.filter_eq_append_iff.mp hfilter
  obtain ⟨skipped, later, rfl, hskipped, hr, -⟩ := List.filter_eq_cons_iff.mp hl₂
  refine ⟨l₁ ++ skipped, later, ?_, hr, ?_⟩
  · rw [List.append_assoc, List.append_assoc, ← hdrop, List.take_append_drop]
  · have hnone : skipped.filter (fun t => (rows.take top).any (follows t)) = [] :=
      List.filter_eq_nil_iff.mpr hskipped
    rw [List.filter_append, hl₁, hnone, List.append_nil, hbefore]

/-- **What a kept lower row repeats**: no text, and a place exactly if the table has an earlier row
there. -/
theorem keepNeighbours_repeats {top : Nat} {rows before after : List (Row σ)} {r : Row σ}
    (hkeys : rows.Pairwise fun r s => r.key ≠ s.key)
    (h : (keepNeighbours top rows).rows = before ++ r :: after)
    (hlen : (rows.take top).length ≤ before.length) :
    (∀ s ∈ before, s.key ≠ r.key) ∧
      ((∃ s ∈ before, s.position = r.position) ↔
        ∃ s, [s, r].Sublist rows ∧ s.position = r.position) := by
  obtain ⟨between, later, hrows, hfollows, rfl⟩ := exists_of_keepNeighbours h hlen
  generalize hkept : rows.take top = kept at *
  have hsub : (kept ++ between.filter fun t => kept.any (follows t)).Sublist (kept ++ between) :=
    List.Sublist.append (List.Sublist.refl kept) List.filter_sublist
  subst hrows
  refine ⟨fun s hs => ?_, ?_, ?_⟩
  · exact (List.pairwise_append.mp hkeys).2.2 s (hsub.mem hs) r List.mem_cons_self
  · rintro ⟨s, hs, hpos⟩
    refine ⟨s, ?_, hpos⟩
    have hs' : [s].Sublist (kept ++ between) := List.singleton_sublist.mpr (hsub.mem hs)
    exact hs'.append (List.singleton_sublist.mpr List.mem_cons_self)
  · rintro ⟨s, hs, hpos⟩
    refine ⟨s, ?_, hpos⟩
    have hnodup : (kept ++ between ++ r :: later).Nodup :=
      hkeys.imp fun hne heq => hne (congrArg Row.key heq)
    rcases List.mem_append.mp (Lists.mem_of_pair_sublist hnodup hs) with hs | hs
    · exact List.mem_append_left _ hs
    · -- a row at the place of `r` follows the same top row
      refine List.mem_append_right _ (List.mem_filter.mpr ⟨hs, ?_⟩)
      rw [← hfollows]
      exact congrArg kept.any (funext fun t => follows_congr hpos t)

/-! ## Every method -/

variable [Score σ] {m : Type → Type} [Monad m] [LawfulMonad m]

/-- Fetching puts rows of the fetcher's records behind the top rows. -/
theorem fetchSuccessors_records {fetcher : SliceFetcher m} {top : Nat} {rows : List (Row σ)}
    {P : SliceRecord → Prop}
    (h : Ensures (fetcher.fetch ((rows.take top).map (·.document.docId))
      ((rows.take top).map (·.candidate.segment))) fun answer =>
        ∀ records, answer = .ok records → ∀ x ∈ records, P x) :
    Ensures (fetchSuccessors fetcher top rows) fun e => ∃ named : List (String × SliceRecord),
      (∀ x ∈ named, P x.2) ∧ e.rows = appendNew (rows.take top)
        (named.map fun x => successorRow (rows.take top) x.1 x.2) := by
  rw [fetchSuccessors_eq]
  split
  · exact Ensures.pure ⟨[], fun x hx => absurd hx List.not_mem_nil, rfl⟩
  · refine h.bind fun answer hanswer => (ofAnswer_ensures fetcher _ answer).imp ?_
    intro e he
    cases answer with
    | error err =>
      exact ⟨[], fun x hx => absurd hx List.not_mem_nil, congrArg Expansion.rows he⟩
    | ok records =>
      obtain ⟨named, rfl, rfl⟩ := he
      exact ⟨named, fun x hx => hanswer _ rfl x.2 (List.mem_map.mpr ⟨x, hx, rfl⟩), rfl⟩

theorem fetchSuccessors_ensures (fetcher : SliceFetcher m) (top : Nat) (rows : List (Row σ)) :
    Ensures (fetchSuccessors fetcher top rows) fun e => ∃ named : List (String × SliceRecord),
      e.rows = appendNew (rows.take top)
        (named.map fun x => successorRow (rows.take top) x.1 x.2) := by
  refine (fetchSuccessors_records (P := fun _ => True) ?_).imp fun e ⟨named, _, he⟩ => ⟨named, he⟩
  exact (Ensures.trivial _).imp fun _ _ _ _ _ _ => True.intro

/-- **What an added row repeats of the rows in front of it**: never a text; a place only where lower
rows are kept, and there exactly if the table has an earlier row at the place. -/
theorem expand_added_new (config : ExpansionConfig) (fetcher : SliceFetcher m)
    {rows : List (Row σ)} (hkeys : rows.Pairwise fun r s => r.key ≠ s.key) :
    Ensures (expand config fetcher rows) fun e => ∀ before r after,
      e.rows = before ++ r :: after → min config.topRows rows.length ≤ before.length →
      (∀ s ∈ before, s.key ≠ r.key) ∧
      ((∃ s ∈ before, s.position = r.position) ↔ config.method = .neighbours ∧
        ∃ s, [s, r].Sublist rows ∧ s.position = r.position) := by
  have hmin : (rows.take config.topRows).length = min config.topRows rows.length :=
    List.length_take
  rw [← hmin]
  unfold expand
  cases hmethod : config.method with
  | truncate =>
    refine Ensures.pure fun before r after h hlen => ?_
    have hl := congrArg List.length h
    rw [List.length_append, List.length_cons] at hl
    change (rows.take config.topRows).length = _ at hl
    omega
  | neighbours =>
    refine Ensures.pure fun before r after h hlen => ?_
    simpa using keepNeighbours_repeats hkeys h hlen
  | fetch =>
    refine (fetchSuccessors_ensures fetcher _ rows).imp fun e he before r after h hlen => ?_
    obtain ⟨named, he⟩ := he
    have hnew := not_repeats_iff.mp (not_repeats_of_appendNew (he ▸ h) hlen)
    refine ⟨fun s hs => (hnew s hs).1, ?_⟩
    simpa using fun s hs => (hnew s hs).2

/-- A record with nothing but a document, a text and a segment, which follows the segment 1. -/
def sampleRecord (md5 text : String) (segment : Int64) : SliceRecord :=
  ⟨md5, segment, text, "", md5, [], 1⟩

/-- Of three records the second has the place of the first, the third its text: one row is added. -/
theorem expand_added_new_records :
    ([sampleRow "A" "A" "a" 1].Pairwise fun r s => r.key ≠ s.key) ∧
      ∃ r, (expand ⟨1, .fetch⟩ (SliceFetcher.answering (m := Id)
          [sampleRecord "A" "b" 2, sampleRecord "A" "c" 2, sampleRecord "A" "b" 3])
          [sampleRow "A" "A" "a" 1]).run.rows = [sampleRow "A" "A" "a" 1] ++ r :: [] ∧
        r.candidate.text = "b" ∧ (sampleRow "A" "A" "a" 1).key ≠ r.key ∧
        ¬ ∃ s ∈ [sampleRow "A" "A" "a" 1], s.position = r.position := by
  let added (text : String) (segment : Int64) : Row Float :=
    successorRow [sampleRow "A" "A" "a" 1] "" (sampleRecord "A" text segment)
  have hkeys : [sampleRow "A" "A" "a" 1].Pairwise fun r s => r.key ≠ s.key :=
    List.pairwise_singleton _ _
  have hfirst : repeats [sampleRow "A" "A" "a" 1] (added "b" 2) = false := by
    have hne : Text.hash "a" ≠ Text.hash "b" := by
      have h := hash_nodup
      simp only [List.nodup_cons, List.mem_cons, not_or] at h
      exact h.1.1
    rw [not_repeats_iff, List.forall_mem_singleton, successorRow_key, successorRow_position]
    exact ⟨fun h => hne (Prod.mk.inj h).2, fun h => absurd (Prod.mk.inj h).2 (by decide)⟩
  have hsecond : repeats [sampleRow "A" "A" "a" 1, added "b" 2] (added "c" 2) = true :=
    repeats_iff.mpr ⟨added "b" 2, by simp, Or.inr rfl⟩
  have hthird : repeats [sampleRow "A" "A" "a" 1, added "b" 2] (added "b" 3) = true :=
    repeats_iff.mpr ⟨added "b" 2, by simp, Or.inl rfl⟩
  have happend : appendNew [sampleRow "A" "A" "a" 1] [added "b" 2, added "c" 2, added "b" 3] =
      [sampleRow "A" "A" "a" 1] ++ added "b" 2 :: [] := by
    rw [appendNew_cons, hfirst, if_neg Bool.false_ne_true, List.singleton_append, appendNew_cons,
      hsecond, if_pos rfl, appendNew_cons, hthird, if_pos rfl]
    rfl
  have hexpand := expand_answering (m := Id) [sampleRecord "A" "b" 2, sampleRecord "A" "c" 2,
    sampleRecord "A" "b" 3] 1 [sampleRow "A" "A" "a" 1] (List.cons_ne_nil _ _)
  have hrows := congrArg (fun x : Id (Expansion Float) => x.run.rows) hexpand
  simp only [Id.run_pure, rows_appendSuccessors, List.map_cons, List.map_nil,
    List.take_succ_cons, List.take_zero] at hrows
  rw [happend] at hrows
  obtain ⟨htext, hplace⟩ := Ensures.id_iff.mp (expand_added_new ⟨1, .fetch⟩ _ hkeys)
    _ _ _ hrows (by decide)
  refine ⟨hkeys, _, hrows, rfl, htext _ List.mem_cons_self, fun h => ?_⟩
  exact absurd (hplace.mp h).1 (by decide)

/-- Two lower rows at the place behind one top row are both kept, and a third one at the place of a
top row too. -/
theorem lower_row_repeats_place :
    ([sampleRow "A" "A" "a" 1, sampleRow "A" "A" "b" 2, sampleRow "A" "A" "c" 2].Pairwise
        fun r s => r.key ≠ s.key) ∧
      (expand ⟨2, .neighbours⟩ (SliceFetcher.silent (m := Id) (pure ""))
          [sampleRow "A" "A" "a" 1, sampleRow "A" "A" "b" 2, sampleRow "A" "A" "c" 2]).run.rows =
        [sampleRow "A" "A" "a" 1, sampleRow "A" "A" "b" 2] ++ sampleRow "A" "A" "c" 2 :: [] ∧
      (sampleRow "A" "A" "b" 2).position = (sampleRow "A" "A" "c" 2).position := by
  have hne := hash_nodup
  refine ⟨?_, rfl, rfl⟩
  simp [sampleRow, sample, Row.ofCandidate, Row.key, Row.md5] at hne ⊢
  exact hne

end EvidenceRank.Expansion
