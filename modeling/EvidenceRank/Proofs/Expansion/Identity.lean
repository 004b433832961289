import EvidenceRank.Proofs.Expansion.Origin
import EvidenceRank.Proofs.Row

/-!
# Identities of added rows

A fused table has one identity for each content hash (`Row.Uniform`). A fetched row takes the
identity of the top row with the record's address. If no top row has that address it is a
`Stranger`, and its identity is made of what the record says, whether or not the rows have one for
its content hash already; so a fetched slice of a file that is known under another address brings up
a second identity.

Results:
* `documentOf_of_lastAt`, `documentOf_of_unknown`: the last top row with the address of a record
  decides on its document.
* `identity_of_origin`: an added row has the identity of a top row, or is a stranger with that of
  its record.
* `uniform_append_iff`: what strangers must keep to for one identity to be left for each hash.
* `expand_uniform_iff`: this is all that can go wrong, and only where rows are fetched.
-/

namespace EvidenceRank.Expansion

open SliceFetcher (Call)

variable {σ : Type}

/-! ## The document of a record -/

/-- The identity that a record tells of. -/
def claimed (record : SliceRecord) : Document :=
  { docId := record.docId, name := record.docName, md5 := record.docMd5 }

/-- `s` is the last of the rows with the address. -/
def LastAt (rows : List (Row σ)) (docId : String) (s : Row σ) : Prop :=
  ∃ before after, rows = before ++ s :: after ∧ s.document.docId = docId ∧
    ∀ t ∈ after, t.document.docId ≠ docId

theorem LastAt.mem {rows : List (Row σ)} {docId : String} {s : Row σ} (h : LastAt rows docId s) :
    s ∈ rows := by
  obtain ⟨before, after, rfl, -⟩ := h
  exact List.mem_append_right before List.mem_cons_self

theorem find?_reverse_eq_some_iff {rows : List (Row σ)} {docId : String} {s : Row σ} :
    rows.reverse.find? (·.document.docId == docId) = some s ↔ LastAt rows docId s := by
  rw [List.find?_eq_some_iff_append]
  constructor
  · rintro ⟨hdoc, after, before, hrows, hafter⟩
    refine ⟨before.reverse, after.reverse, ?_, beq_iff_eq.mp hdoc, fun t ht => ?_⟩
    · rw [← List.reverse_reverse rows, hrows, List.reverse_append, List.reverse_cons,
        List.append_assoc, List.singleton_append]
    · simpa using hafter t (List.mem_reverse.mp ht)
  · rintro ⟨before, after, rfl, hdoc, hafter⟩
    refine ⟨beq_iff_eq.mpr hdoc, after.reverse, before.reverse, by simp, fun t ht => ?_⟩
    simpa using hafter t (List.mem_reverse.mp ht)

theorem find?_reverse_eq_none_iff {rows : List (Row σ)} {docId : String} :
    rows.reverse.find? (·.document.docId == docId) = none ↔
      ∀ s ∈ rows, s.document.docId ≠ docId := by
  simp

theorem documentOf_of_lastAt {rows : List (Row σ)} {record : SliceRecord} {s : Row σ}
    (h : LastAt rows record.docId s) : documentOf rows record = s.document := by
  unfold documentOf
  rw [find?_reverse_eq_some_iff.mpr h]

theorem documentOf_of_unknown {rows : List (Row σ)} {record : SliceRecord}
    (h : ∀ s ∈ rows, s.document.docId ≠ record.docId) :
    documentOf rows record = claimed record := by
  unfold documentOf
  rw [find?_reverse_eq_none_iff.mpr h]
  rfl

theorem exists_lastAt_or (rows : List (Row σ)) (docId : String) :
    (∃ s, LastAt rows docId s) ∨ ∀ s ∈ rows, s.document.docId ≠ docId := by
  cases hfind : rows.reverse.find? (·.document.docId == docId) with
  | some s => exact Or.inl ⟨s, find?_reverse_eq_some_iff.mp hfind⟩
  | none => exact Or.inr (find?_reverse_eq_none_iff.mp hfind)

/-- The document of a fetched slice is that of a row with the record's address, if there is one. -/
theorem documentOf_cases (rows : List (Row σ)) (record : SliceRecord) :
    (∃ s ∈ rows, documentOf rows record = s.document) ∨
      documentOf rows record = claimed record ∧ ∀ s ∈ rows, s.document.docId ≠ record.docId := by
  rcases exists_lastAt_or rows record.docId with ⟨s, hs⟩ | hnone
  · exact Or.inl ⟨s, hs.mem, documentOf_of_lastAt hs⟩
  · exact Or.inr ⟨documentOf_of_unknown hnone, hnone⟩

/-! ## Strangers -/

/-- No kept row has the address of `r`. -/
def Stranger (kept : List (Row σ)) (r : Row σ) : Prop :=
  ∀ s ∈ kept, s.document.docId ≠ r.document.docId

/-- What strangers must keep to for one identity to be left for each content hash. -/
structure Consistent (kept added : List (Row σ)) : Prop where
  /-- No stranger has the hash of a kept row. -/
  apart : ∀ r ∈ added, Stranger kept r → ∀ s ∈ kept, s.md5 ≠ r.md5
  /-- Strangers with one hash have one identity. -/
  agree : ∀ r ∈ added, ∀ s ∈ added, Stranger kept r → Stranger kept s → r.md5 = s.md5 →
    r.document = s.document

/-- **Rows put behind kept ones** leave one identity for each content hash exactly if the strangers
among them are consistent. -/
theorem uniform_append_iff {kept added : List (Row σ)} (hkept : Row.Uniform kept)
    (hknown : ∀ r ∈ added, ¬ Stranger kept r → ∃ s ∈ kept, r.document = s.document) :
    Row.Uniform (kept ++ added) ↔ Consistent kept added := by
  constructor
  · intro hu
    refine ⟨fun r hr hstranger s hs hmd5 => hstranger s hs ?_, fun r hr s hs _ _ => ?_⟩
    · rw [hu s (List.mem_append_left _ hs) r (List.mem_append_right _ hr) hmd5]
    · exact hu r (List.mem_append_right _ hr) s (List.mem_append_right _ hs)
  · rintro ⟨hapart, hagree⟩
    -- each row has the identity of a kept one, or is a stranger
    have hcases : ∀ r ∈ kept ++ added, (∃ t ∈ kept, r.document = t.document) ∨
        r ∈ added ∧ Stranger kept r := by
      intro r hr
      rcases List.mem_append.mp hr with hr | hr
      · exact Or.inl ⟨r, hr, rfl⟩
      · by_cases hstranger : Stranger kept r
        · exact Or.inr ⟨hr, hstranger⟩
        · exact Or.inl (hknown r hr hstranger)
    have hmixed : ∀ {r s t : Row σ}, r ∈ added → Stranger kept r → t ∈ kept →
        s.document = t.document → s.md5 ≠ r.md5 := by
      intro r s t hr hstranger ht hst hmd5
      exact hapart r hr hstranger t ht ((congrArg Document.md5 hst).symm.trans hmd5)
    intro r hr s hs hmd5
    rcases hcases r hr with ⟨t, ht, hrt⟩ | ⟨hr, hrs⟩ <;>
      rcases hcases s hs with ⟨u, hu, hsu⟩ | ⟨hs, hss⟩
    · have htu : t.md5 = u.md5 :=
        (congrArg Document.md5 hrt).symm.trans (hmd5.trans (congrArg Document.md5 hsu))
      rw [hrt, hsu, hkept t ht u hu htu]
    · exact absurd hmd5 (hmixed hs hss ht hrt)
    · exact absurd hmd5.symm (hmixed hr hrs hu hsu)
    · exact hagree r hr s hs hrs hss hmd5

/-! ## Added rows -/

variable [Score σ] {config : ExpansionConfig} {rows : List (Row σ)} {calls : List Call}

/-- **An added row has the identity of a top row**, or it is a stranger, which was fetched and has
the identity that its record tells of. -/
theorem identity_of_origin (hu : Row.Uniform rows) {r : Row σ} (h : Origin config rows calls r) :
    (∃ s ∈ rows.take config.topRows, r.document = s.document) ∨
      Stranger (rows.take config.topRows) r ∧ config.method = .fetch ∧
        ∃ record, Answered calls record ∧ r.document = claimed record := by
  cases h with
  | lower _ hlower hfollows =>
    obtain ⟨s, hs, hsr⟩ := hfollows
    have hmd5 := (follows_iff.mp hsr).1.symm
    exact Or.inl ⟨s, hs, hu r (List.mem_of_mem_drop hlower) s (List.mem_of_mem_take hs) hmd5⟩
  | @fetched id record hmethod hrecord hrow =>
    have hdoc : r.document = documentOf (rows.take config.topRows) record := by
      rw [hrow]
      rfl
    rcases documentOf_cases (rows.take config.topRows) record with ⟨s, hs, heq⟩ | ⟨heq, hne⟩
    · exact Or.inl ⟨s, hs, hdoc.trans heq⟩
    · refine Or.inr ⟨fun s hs => ?_, hmethod, record, hrecord, hdoc.trans heq⟩
      rw [hdoc, heq]
      exact hne s hs

/-- What becomes of the identities of kept rows and the rows put behind them: whether one is left
for each content hash is up to the strangers, of which there are none unless rows are fetched. -/
structure Identified (config : ExpansionConfig) (calls : List Call) (kept added : List (Row σ)) :
    Prop where
  known : ∀ r ∈ added, ¬ Stranger kept r → ∃ s ∈ kept, r.document = s.document
  strangers : ∀ r ∈ added, Stranger kept r → config.method = .fetch ∧
    ∃ record, Answered calls record ∧ r.document = claimed record
  uniform_iff : Row.Uniform (kept ++ added) ↔ Consistent kept added
  unless_fetched : config.method ≠ .fetch → Row.Uniform (kept ++ added)

theorem Padded.identified (hu : Row.Uniform rows) {e : Expansion σ}
    (h : Padded config rows e calls) : ∃ added, e.rows = rows.take config.topRows ++ added ∧
      Identified config calls (rows.take config.topRows) added := by
  obtain ⟨added, hrows, -, horigin⟩ := h
  have hcases := fun r hr => identity_of_origin hu (horigin r hr)
  have hkept : Row.Uniform (rows.take config.topRows) := fun r hr s hs =>
    hu r (List.mem_of_mem_take hr) s (List.mem_of_mem_take hs)
  have hknown : ∀ r ∈ added, ¬ Stranger (rows.take config.topRows) r →
      ∃ s ∈ rows.take config.topRows, r.document = s.document := fun r hr hno =>
    (hcases r hr).resolve_right fun h => hno h.1
  have hiff := uniform_append_iff hkept hknown
  have hfetched : ∀ r ∈ added, Stranger (rows.take config.topRows) r → config.method = .fetch ∧
      ∃ record, Answered calls record ∧ r.document = claimed record := by
    intro r hr hstranger
    refine ((hcases r hr).resolve_left ?_).2
    rintro ⟨s, hs, heq⟩
    exact hstranger s hs (congrArg Document.docId heq).symm
  refine ⟨added, hrows, hknown, hfetched, hiff, fun hmethod => hiff.mpr ?_⟩
  exact ⟨fun r hr h => absurd (hfetched r hr h).1 hmethod,
    fun r hr _ _ h => absurd (hfetched r hr h).1 hmethod⟩

/-! ## Every method -/

variable {m : Type → Type} [Monad m] [LawfulMonad m]

/-- **When one identity per content hash survives an expansion**: always but where rows are fetched,
and there exactly if no fetched row under an address that no top row has brings up the hash of a top
row, or one identity for a hash and a fetched row of this kind another. -/
theorem expand_uniform_iff (config : ExpansionConfig) (fetcher : SliceFetcher m)
    {rows : List (Row σ)} (hu : Row.Uniform rows) :
    Prod.fst <$> (expand config fetcher.recorded rows).run [] = expand config fetcher rows ∧
      Ensures ((expand config fetcher.recorded rows).run []) fun (e, calls) =>
        ∃ added, e.rows = rows.take config.topRows ++ added ∧
          Identified config calls (rows.take config.topRows) added :=
  ⟨fst_expand_recorded config fetcher rows [],
    (expand_origin config fetcher rows).imp fun _ h => h.identified hu⟩

/-- The record of a slice under an address, which claims the content hash "A". -/
def recordAt (docId : String) : SliceRecord := ⟨docId, 2, "b", "", "A", [], 1⟩

/-- A record under the address of the top row brings up no identity, whatever hash it claims. -/
theorem known_address_keeps_identity : Row.Uniform [sampleRow "B" "B" "a" 1] ∧ ∃ e calls,
    (expand ⟨1, .fetch⟩ (SliceFetcher.answering (m := Id) [recordAt "B"]).recorded
      [sampleRow "B" "B" "a" 1]).run [] = pure (e, calls) ∧ Row.Uniform e.rows := by
  have hu : Row.Uniform [sampleRow "B" "B" "a" 1] := by
    intro r hr s hs _
    rw [List.mem_singleton.mp hr, List.mem_singleton.mp hs]
  have hcalls : ∃ e, (expand ⟨1, .fetch⟩
      (SliceFetcher.answering (m := Id) [recordAt "B"]).recorded [sampleRow "B" "B" "a" 1]).run [] =
        pure (e, [⟨["B"], [1], .ok [recordAt "B"]⟩]) := ⟨_, rfl⟩
  obtain ⟨e, he⟩ := hcalls
  obtain ⟨-, hensures⟩ := expand_uniform_iff ⟨1, .fetch⟩
    (SliceFetcher.answering (m := Id) [recordAt "B"]) hu
  rw [he] at hensures
  obtain ⟨added, hrows, hadded⟩ := Ensures.id_iff.mp hensures
  have hnone : ∀ r ∈ added, ¬ Stranger [sampleRow "B" "B" "a" 1] r := by
    intro r hr hstranger
    obtain ⟨-, record, ⟨c, hc, records, hok, hrecord⟩, hdoc⟩ := hadded.strangers r hr hstranger
    obtain rfl := List.mem_singleton.mp hc
    obtain rfl := Except.ok.inj hok
    obtain rfl := List.mem_singleton.mp hrecord
    exact hstranger _ List.mem_cons_self (congrArg Document.docId hdoc).symm
  refine ⟨hu, e, _, he, ?_⟩
  rw [hrows]
  exact hadded.uniform_iff.mpr ⟨fun r hr h => absurd h (hnone r hr),
    fun r hr _ _ h => absurd h (hnone r hr)⟩

/-- A record under another address brings up a second identity for the hash of the top row. -/
theorem other_address_splits_identity :
    Row.Uniform [sampleRow "A" "A" "a" 1] ∧ ¬ Row.Uniform (expand ⟨1, .fetch⟩
      (SliceFetcher.answering (m := Id) [recordAt "B"]) [sampleRow "A" "A" "a" 1]).run.rows := by
  have hu : Row.Uniform [sampleRow "A" "A" "a" 1] := by
    intro r hr s hs _
    rw [List.mem_singleton.mp hr, List.mem_singleton.mp hs]
  let added : Row Float := successorRow [sampleRow "A" "A" "a" 1] "" (recordAt "B")
  have hnew : repeats [sampleRow "A" "A" "a" 1] added = false := by
    have hne := hash_nodup
    simp only [List.nodup_cons, List.mem_cons, not_or] at hne
    rw [not_repeats_iff, List.forall_mem_singleton, successorRow_key, successorRow_position]
    exact ⟨fun h => hne.1.1 (Prod.mk.inj h).2, fun h => absurd (Prod.mk.inj h).2 (by decide)⟩
  have hrows : (expand ⟨1, .fetch⟩ (SliceFetcher.answering (m := Id) [recordAt "B"])
      [sampleRow "A" "A" "a" 1]).run.rows = [sampleRow "A" "A" "a" 1, added] := by
    have hexpand := expand_answering (m := Id) [recordAt "B"] 1 [sampleRow "A" "A" "a" 1]
      (List.cons_ne_nil _ _)
    rw [hexpand, Id.run_pure, rows_appendSuccessors]
    show appendNew [sampleRow "A" "A" "a" 1] [added] = _
    rw [appendNew_cons, hnew, if_neg Bool.false_ne_true]
    rfl
  refine ⟨hu, fun h => ?_⟩
  rw [hrows] at h
  have hdoc := h (sampleRow "A" "A" "a" 1) List.mem_cons_self added
    (List.mem_cons_of_mem _ List.mem_cons_self) rfl
  exact absurd (congrArg Document.docId hdoc) (by decide)

end EvidenceRank.Expansion
