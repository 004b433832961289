import EvidenceRank.Proofs.Citation.Coverage
import EvidenceRank.Proofs.Expansion.Origin
import EvidenceRank.Proofs.Fusion.Attribution
import EvidenceRank.Proofs.Pipeline.State
import EvidenceRank.Proofs.Sample

/-!
# What a report accounts for

A report counts the rows of a source at each stage and holds the citations that are left at the end.
`Accounts` says that the counts agree, and that each cited slice is a candidate of the pools or a
record that the fetcher answered with. It is put together from what fusion says of a row (`Traced`),
what expansion says of an added one (`Origin`), and what is cited of a document (`arranged`).

Results:
* `sourced_of_traced`, `sourced_of_origin`: where the slices of fused and of added rows come from.
* `processSource_accounts`: every report accounts for its rows, with any services.
-/

namespace EvidenceRank

open Expansion (Answered Origin Padded)
open SliceFetcher (Call)

variable {σ : Type}

/-! ## Where slices come from -/

/-- The slice holds what the candidate does. -/
structure CitedSlice.OfCandidate (s : CitedSlice σ) (c : Candidate σ) : Prop where
  id : s.id = c.uuid
  no : s.no = c.segment
  content : s.content = c.text
  pages : s.pages = c.pages

/-- The slice holds what the record does, which has no uuid. -/
structure CitedSlice.OfRecord (s : CitedSlice σ) (record : SliceRecord) : Prop where
  no : s.no = record.segment
  content : s.content = record.text
  pages : s.pages = record.pages

/-- The slice is that of a candidate of the pools, or of a record that was fetched. -/
def CitedSlice.Sourced (config : ExpansionConfig) (pools : Pools σ) (calls : List Call)
    (s : CitedSlice σ) : Prop :=
  (∃ c ∈ pools.dense ++ pools.sparse, s.OfCandidate c) ∨
    config.method = .fetch ∧ ∃ record, Answered calls record ∧ s.OfRecord record

variable [Score σ] {pools : Pools σ} {calls : List Call} {r : Row σ}

open Citation (sliceOf)

theorem sourced_of_traced (config : ExpansionConfig)
    (h : Fusion.Traced pools.dense pools.sparse r) :
    (sliceOf r).Sourced config pools calls := by
  obtain ⟨c, hc, hrow⟩ := h.exists_from
  refine Or.inl ⟨c, hc, ?_⟩
  constructor
  all_goals
    unfold sliceOf
    rw [hrow.candidate]

theorem sourced_of_origin {config : ExpansionConfig} {rows : List (Row σ)}
    (htraced : ∀ s ∈ rows, Fusion.Traced pools.dense pools.sparse s)
    (h : Origin config rows calls r) : (sliceOf r).Sourced config pools calls := by
  cases h with
  | lower _ hlower => exact sourced_of_traced config (htraced r (List.mem_of_mem_drop hlower))
  | fetched hmethod hrecord hrow =>
    refine Or.inr ⟨hmethod, _, hrecord, ?_⟩
    rw [hrow]
    exact ⟨rfl, rfl, rfl⟩

/-! ## Reports -/

/-- The counts of the report agree, and it cites nothing that was not hit or fetched. -/
structure Accounts (config : RankingConfig σ) (pools : Pools σ) (calls : List Call)
    (report : SourceReport σ) : Prop where
  hits : report.hitCounts.allHit + report.hitCounts.onlyDense + report.hitCounts.onlySparse =
    report.fusedRows
  expanded : report.expandedRows =
    min config.expansion.topRows report.fusedRows + report.expansion.added
  cited : (report.citations.map (·.slices.length)).sum ≤ report.expandedRows
  sized : ∀ c ∈ report.citations,
    1 ≤ c.slices.length ∧ c.slices.length ≤ config.citation.maxSlices
  sourced : ∀ c ∈ report.citations, ∀ s ∈ c.slices, s.Sourced config.expansion pools calls

/-- **A report accounts for its rows** if those of the table are traced, and the table is padded. -/
theorem accounts_of {config : RankingConfig σ} {table : FusedTable σ} {e : Expansion σ}
    (hcounts : table.hitCounts = .ofRows table.rows)
    (htraced : ∀ r ∈ table.rows, Fusion.Traced pools.dense pools.sparse r)
    (hpadded : Padded config.expansion table.rows e calls) (name : String)
    (scope : Option String) : Accounts config pools calls (.of name config scope table e) := by
  constructor
  case hits =>
    show table.hitCounts.allHit + table.hitCounts.onlyDense + table.hitCounts.onlySparse =
      table.rows.length
    rw [hcounts]
    exact HitCounts.total_ofRows fun r hr => (htraced r hr).exists_kind
  case expanded => exact hpadded.length
  case cited =>
    exact (Citation.sum_length_slices_le _ _ _).trans (Citation.length_retained_le e.rows)
  case sized =>
    intro c hc
    obtain ⟨-, hne, hslices, -⟩ := Citation.exists_of_mem_assemble hc
    refine ⟨List.length_pos_iff.mpr hne, ?_⟩
    rw [hslices, Citation.length_arranged]
    exact Nat.min_le_left _ _
  case sourced =>
    intro c hc s hs
    obtain ⟨r, hr, rfl⟩ := Citation.exists_row_of_slice hc hs
    have hrow : r ∈ e.rows := Citation.mem_of_mem_retained (Citation.mem_retainedOf.mp hr).1
    obtain ⟨added, hrows, -, horigin⟩ := hpadded
    rw [hrows] at hrow
    rcases List.mem_append.mp hrow with htop | hadded
    · exact sourced_of_traced _ (htraced r (List.mem_of_mem_take htop))
    · exact sourced_of_origin htraced (horigin r hadded)

/-! ## Every source -/

variable {m : Type → Type} [Monad m]

/-- The same pipeline, with a fetcher that also writes down its calls. -/
def Pipeline.recorded (p : Pipeline m σ) : Pipeline (StateT (List Call) m) σ :=
  ⟨p.config, p.reranker.beside (List Call), p.fetcher.recorded, p.turns⟩

variable [LawfulMonad m]

/-- Writing the calls down does not change what comes of a source. -/
theorem fst_processSource_recorded (p : Pipeline m σ) (name query : String)
    (scope : Option String) (pools : Pools σ) (calls : List Call) :
    Prod.fst <$> (p.recorded.processSource name query scope pools).run.run calls =
      (p.processSource name query scope pools).run := by
  unfold Pipeline.recorded
  rw [run_processSource_beside, map_bind]
  unfold Pipeline.processSource
  rw [ExceptT.run_bind]
  refine bind_congr fun result => ?_
  cases result with
  | error e => simp
  | ok table =>
    simp only [bind_pure_comp, Functor.map_map, liftM_map, ExceptT.run_map, ExceptT.run_liftM,
      ← Expansion.fst_expand_recorded p.config.expansion p.fetcher table.rows calls]
    rfl

/-- **A report accounts for its rows and invents nothing**, whatever the services answer. -/
theorem processSource_accounts (p : Pipeline m σ) (name query : String) (scope : Option String)
    (pools : Pools σ) :
    Prod.fst <$> (p.recorded.processSource name query scope pools).run.run [] =
        (p.processSource name query scope pools).run ∧
      Ensures ((p.recorded.processSource name query scope pools).run.run []) fun (result, calls) =>
        ∀ report, result = .ok report → Accounts p.config pools calls report := by
  refine ⟨fst_processSource_recorded p name query scope pools [], ?_⟩
  unfold Pipeline.recorded
  rw [run_processSource_beside]
  refine (Fusion.fuse_traced _ _ _ _ _ _).bind fun result hresult => ?_
  cases result with
  | error halt => exact Ensures.pure fun report hok => by cases hok
  | ok table =>
    obtain ⟨htable, htraced⟩ := hresult table rfl
    refine (Expansion.expand_origin _ _ _).bind fun x hx => Ensures.pure fun report hok => ?_
    obtain rfl := Except.ok.inj hok
    have hcounts : table.hitCounts = .ofRows table.rows := by
      rw [htable]
      rfl
    exact accounts_of hcounts htraced hx name scope

/-- A pipeline whose fetcher has one record, which follows the segment 1 of the document "A". -/
def oneRecord : Pipeline Id Float :=
  ⟨.default, .flat 1.0, .answering [⟨"A", 2, "b", "", "A", [], 1⟩], fun _ => .atOnce⟩

/-- One hit of the dense channel, which has this segment. -/
def oneHit : Pools Float := ⟨[{ sample "u" "A" "a" 1.0 with segment := 1 }], []⟩

/-- With one hit, and a record for what follows it, there is a report. -/
theorem one_hit_accounted : ∃ report calls,
    (oneRecord.recorded.processSource "s" "q" none oneHit).run.run [] =
      pure (.ok report, calls) ∧
    Accounts oneRecord.config oneHit calls report := by
  obtain ⟨-, h⟩ := processSource_accounts oneRecord "s" "q" none oneHit
  exact ⟨_, _, rfl, Ensures.id_iff.mp h _ rfl⟩

end EvidenceRank
