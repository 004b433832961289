import EvidenceRank.Proofs.Expansion.Naming
import EvidenceRank.Proofs.Fusion.Table
import EvidenceRank.Proofs.Pipeline.State

/-!
# Services that answer by the call

A reranker and a fetcher may answer a call by nothing but its arguments (`Services`). Whether a
source can be ranked is then settled by its pools, the query and the configuration, and so is its
report, but for the ids of fetched slices. These are new in each run: they are drawn from an endless
supply, as a run cannot tell what random source its ids come from.

When the calls end is not settled by their arguments. It only tells which of two errors is reported.

Results:
* `process_draws`: ranking a source draws ids, and does nothing else to the supply.
* `outcome_error`: a source that ends without a report does so with any ids, and in one way.
* `outcome_disordered_iff`: it takes the run with it exactly if its rows are `Unordered`.
* `outcome_unnamed`: without the ids of slices, there is one report.
* `process_turns`: the turns of the calls tell no more than which error is reported.
-/

namespace EvidenceRank

variable {σ : Type}

/-! ## Supplies of ids -/

/-- The ids that will be drawn, in their order. -/
def Supply := Nat → String

namespace Supply

/-- What is left after `n` draws. -/
def after (ids : Supply) (n : Nat) : Supply := fun i => ids (n + i)

@[simp] theorem after_zero (ids : Supply) : ids.after 0 = ids :=
  funext fun i => congrArg ids (Nat.zero_add i)

@[simp] theorem after_after (ids : Supply) (n k : Nat) :
    (ids.after n).after k = ids.after (n + k) :=
  funext fun i => congrArg ids (Nat.add_assoc n k i).symm

/-- Draw the next id. -/
def draw : StateM Supply String := modifyGet fun ids => (ids 0, ids.after 1)

end Supply

/-- The action draws ids, and does nothing else to the supply. -/
def Draws {α : Type} (x : StateM Supply α) : Prop :=
  ∀ ids, ∃ n, (x.run ids).run.2 = ids.after n

namespace Draws

variable {α β : Type}

theorem pure (a : α) : Draws (Pure.pure a) := fun ids => ⟨0, ids.after_zero.symm⟩

theorem draw : Draws Supply.draw := fun _ => ⟨1, rfl⟩

theorem bind {x : StateM Supply α} {f : α → StateM Supply β} (hx : Draws x)
    (hf : ∀ a, Draws (f a)) : Draws (x >>= f) := by
  intro ids
  obtain ⟨n, hn⟩ := hx ids
  obtain ⟨k, hk⟩ := hf (x.run ids).run.1 (x.run ids).run.2
  refine ⟨n + k, ?_⟩
  rw [← Supply.after_after, ← hn]
  exact hk

theorem map {x : StateM Supply α} (hx : Draws x) (f : α → β) : Draws (f <$> x) := hx

end Draws

/-! ## Services -/

/-- A reranker and a fetcher whose answers depend on the call alone. -/
structure Services (σ : Type) where
  reranker : Reranker Id σ
  fetch : List String → List Int64 → Except RankError (List SliceRecord)

namespace Services

variable (s : Services σ)

def fetcher : SliceFetcher (StateM Supply) :=
  ⟨fun docIds segments => pure (s.fetch docIds segments), Supply.draw⟩

def pipeline (config : RankingConfig σ) (turns : String → Turns) : Pipeline (StateM Supply) σ :=
  ⟨config, s.reranker.beside Supply, s.fetcher, turns⟩

theorem withIds_draws (records : List SliceRecord) :
    Draws (Expansion.withIds s.fetcher records) := by
  unfold Expansion.withIds
  induction records with
  | nil => exact Draws.pure []
  | cons record records ih =>
    rw [List.mapM_cons]
    exact (Draws.draw.map (·, record)).bind fun named => ih.bind fun rest => Draws.pure _

/-- Expansion draws ids, and does nothing else to the supply. -/
theorem expand_draws [Score σ] (config : ExpansionConfig) (rows : List (Row σ)) :
    Draws (Expansion.expand config s.fetcher rows) := by
  unfold Expansion.expand
  split
  · exact Draws.pure _
  · exact Draws.pure _
  · rw [Expansion.fetchSuccessors_eq]
    split
    · exact Draws.pure _
    · refine (Draws.pure _).bind fun answer => ?_
      cases answer with
      | error e => exact Draws.pure _
      | ok records => exact (s.withIds_draws records).bind fun named => Draws.pure _

end Services

/-! ## What comes of a source -/

/-- The report without the ids of slices. -/
def SourceReport.unnamed (r : SourceReport σ) : SourceReport σ :=
  { r with citations := r.citations.map fun c =>
      { c with slices := c.slices.map CitedSlice.unnamed } }

theorem SourceReport.unnamed_of [Score σ] (name : String) (config : RankingConfig σ)
    (scope : Option String) (table : FusedTable σ) (e : Expansion σ) :
    (SourceReport.of name config scope table e).unnamed =
      .of name config scope table e.unnamed := by
  unfold SourceReport.of SourceReport.unnamed Expansion.unnamed
  rw [Expansion.unnamed_unread.assemble_map, List.length_map]

namespace Services

variable [Score σ] (s : Services σ) (config : RankingConfig σ) (turns : String → Turns)
  (request : RankRequest σ) (source : String × List (Pools σ))

/-- Ranking one source of a request. -/
def process : StateM Supply (Except Halt (SourceReport σ)) :=
  ((s.pipeline config turns).processSource source.1 request.query.effective request.scope
    (.concat source.2)).run

/-- What comes of one source of a request. -/
def outcome (ids : Supply) : Except Halt (SourceReport σ) :=
  ((s.process config turns request source).run ids).run.1

/-- The rows of one source before they are ordered. -/
def joined : Except RankError (List (Row σ)) :=
  (Fusion.joinedRows config.fusion s.reranker (turns source.1) request.query.effective
    (Pools.concat source.2).dense (Pools.concat source.2).sparse).run.run

/-- The rows of the source are joined, and have no order. -/
def Unordered : Prop :=
  ∃ rows, s.joined config turns request source = .ok rows ∧ Row.ranked rows = none

/-- What comes of a source with its table, if there is one. -/
def reportOn : Except Halt (FusedTable σ) → StateM Supply (Except Halt (SourceReport σ))
  | .error halt => pure (.error halt)
  | .ok table => (fun e => .ok (.of source.1 config request.scope table e)) <$>
      Expansion.expand config.expansion s.fetcher table.rows

/-- **Ranking a source is joining its rows and reporting on their table**, and the joining draws no
ids. -/
theorem process_eq : s.process config turns request source =
    s.reportOn config request source
      (Fusion.tabled (s.joined config turns request source)) := by
  have hrun := run_processSource_beside s.reranker request.query.effective config s.fetcher turns
    source.1 request.scope (.concat source.2)
  refine StateT.ext fun ids => (hrun ids).trans ?_
  rw [Fusion.fuse_eq_tableFrom, Fusion.run_tableFrom, bind_map_left]
  unfold joined
  obtain ⟨result, hresult⟩ : ∃ result, (Fusion.joinedRows config.fusion s.reranker (turns source.1)
      request.query.effective (Pools.concat source.2).dense (Pools.concat source.2).sparse).run =
        pure result := ⟨_, rfl⟩
  rw [hresult, pure_bind, Id.run_pure]
  cases Fusion.tabled result <;> rfl

/-- **Either there is no table, or it is expanded and reported**, and which of the two does not
depend on the ids. -/
theorem process_cases :
    (∃ halt, s.process config turns request source = pure (.error halt)) ∨
      ∃ table, s.process config turns request source =
        (fun e => .ok (.of source.1 config request.scope table e)) <$>
          Expansion.expand config.expansion s.fetcher table.rows := by
  rw [process_eq]
  cases Fusion.tabled (s.joined config turns request source) with
  | error halt => exact .inl ⟨halt, rfl⟩
  | ok table => exact .inr ⟨table, rfl⟩

theorem process_draws : Draws (s.process config turns request source) := by
  rcases s.process_cases config turns request source with ⟨halt, heq⟩ | ⟨table, heq⟩
  · rw [heq]
    exact Draws.pure _
  · rw [heq]
    exact (s.expand_draws config.expansion table.rows).map _

variable {request source} {ids : Supply}

/-- A report carries the name of its source. -/
theorem outcome_ok {report : SourceReport σ}
    (h : s.outcome config turns request source ids = .ok report) :
    report.dataSource = source.1 := by
  unfold outcome at h
  rcases s.process_cases config turns request source with ⟨halt, heq⟩ | ⟨table, heq⟩
  · rw [heq] at h
    cases h
  · rw [heq] at h
    obtain rfl := Except.ok.inj h
    rfl

/-- **A source that ends without a report does so with any ids.** -/
theorem outcome_error {halt : Halt} (h : s.outcome config turns request source ids = .error halt)
    (ids' : Supply) : s.outcome config turns request source ids' = .error halt := by
  unfold outcome at h ⊢
  rcases s.process_cases config turns request source with ⟨halt', heq⟩ | ⟨table, heq⟩
  · rw [heq] at h ⊢
    exact h
  · rw [heq] at h
    cases h

/-- **A source takes the run with it exactly if its rows have no order.** -/
theorem outcome_disordered_iff : s.outcome config turns request source ids = .error .disordered ↔
    s.Unordered config turns request source := by
  unfold outcome Unordered
  rw [process_eq, ← Fusion.tabled_eq_disordered_iff]
  cases Fusion.tabled (s.joined config turns request source) with
  | error halt =>
    exact ⟨fun h => congrArg Except.error (Except.error.inj h),
      fun h => congrArg Except.error (Except.error.inj h)⟩
  | ok table => exact iff_of_false (fun h => nomatch h) fun h => nomatch h

/-- Rows that are left without an order are many, and not all of their scores are numbers. -/
theorem Unordered.many (h : s.Unordered config turns request source) :
    Lists.insertionLength <
        (Pools.concat source.2).dense.length + (Pools.concat source.2).sparse.length ∧
      ∃ rows, s.joined config turns request source = .ok rows ∧ ¬ Row.Numbered rows := by
  obtain ⟨rows, hrows, hnone⟩ := h
  obtain ⟨hmany, hnumbers⟩ := Row.of_ranked_eq_none hnone
  obtain ⟨d, t, hd, ht, rfl⟩ := Ensures.id_iff.mp (Fusion.joinedRows_ensures config.fusion
    s.reranker (turns source.1) request.query.effective _ _) rows hrows
  exact ⟨Nat.lt_of_lt_of_le hmany (Fusion.length_merge_le hd ht), _, hrows, hnumbers⟩

/-- **Without the ids of slices there is one report**, whatever ids are drawn. -/
theorem outcome_unnamed (ids ids' : Supply) :
    (s.outcome config turns request source ids).map SourceReport.unnamed =
      (s.outcome config turns request source ids').map SourceReport.unnamed := by
  unfold outcome
  rcases s.process_cases config turns request source with ⟨halt, heq⟩ | ⟨table, heq⟩
  · rw [heq]
    rfl
  · have hfetch (docIds : List String) (segments : List Int64) :
        s.fetcher.fetch docIds segments = pure (s.fetch docIds segments) := rfl
    obtain ⟨fixed, hfixed⟩ := Expansion.expand_unnamed config.expansion hfetch table.rows
    have hreport (ids : Supply) :
        (((s.process config turns request source).run ids).run.1).map SourceReport.unnamed =
          .ok (.of source.1 config request.scope table fixed) := by
      rw [heq, ← hfixed.run_state ids, ← SourceReport.unnamed_of]
      rfl
    rw [hreport, hreport]

variable (request source) in
/-- **The turns of the calls tell no more than which error is reported.** -/
theorem process_turns (turns' : String → Turns) :
    s.process config turns request source = s.process config turns' request source ∨
      ∃ e e', s.process config turns request source = pure (.error (.failed e)) ∧
        s.process config turns' request source = pure (.error (.failed e')) := by
  rw [process_eq, process_eq]
  unfold joined Fusion.joinedRows
  simp only [ExceptT.run_bind, Id.run_bind, run_tryJoin_id]
  rcases Turns.outcome_alike (turns source.1) (turns' source.1) _ _ with heq | ⟨e, e', he, he'⟩
  · rw [heq]
    exact .inl rfl
  · rw [he, he']
    exact .inr ⟨e, e', rfl, rfl⟩

end Services
end EvidenceRank
