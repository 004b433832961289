import EvidenceRank.Lists.Distinct
import EvidenceRank.Proofs.Fusion.Disorder
import EvidenceRank.Proofs.Pipeline.Services
import Mathlib.Data.List.Forall2

/-!
# Isolation of data sources

The data sources of a request share nothing but the query, the scope and the services. With services
that answer by the call, what comes of a source is what comes of it when it is ranked alone,
whatever the other sources are and whichever of them fail. A source that is ranked behind others
draws its ids from where these left off: a run for it alone that draws the same ids has the same
report, and one that draws others has the same report without the ids.

One thing is shared all the same. A source whose rows have no order unwinds the whole run, and the
entries of the others are lost with it.

Results:
* `processAll_own`: of the sources in a row, each is left to itself.
* `only_congr`: requests that agree on a source have the same entries of it.
* `run_isolated`: where a source is listed, when it fails, that its entry is its own, and when there
  is no entry at all.
* `lost_beside_unordered`: a source that is lost beside another one.
-/

namespace EvidenceRank

variable {σ : Type}

/-! ## Listing results -/

namespace RankOutput

/-- The entries of one source. -/
def only (o : RankOutput σ) (name : String) : RankOutput σ where
  reports := o.reports.filter (·.dataSource == name)
  failures := o.failures.filter (·.dataSource == name)

/-- The entries without the wording of errors. -/
def unworded (o : RankOutput σ) : RankOutput σ :=
  { o with failures := o.failures.map fun f => { f with error := "" } }

/-- The entries without the ids of slices. -/
def unnamed (o : RankOutput σ) : RankOutput σ :=
  { o with reports := o.reports.map SourceReport.unnamed }

/-- Sources are listed once each, in order within the reports and within the failures. -/
structure Listing (o : RankOutput σ) (names : List String) : Prop where
  perm : (o.reports.map (·.dataSource) ++ o.failures.map (·.dataSource)).Perm names
  reports : (o.reports.map (·.dataSource)).Sublist names
  failures : (o.failures.map (·.dataSource)).Sublist names

theorem listing_empty : Listing (σ := σ) empty [] :=
  ⟨.refl [], .refl [], .refl []⟩

/-- A report carries the name that its result is listed under. -/
def Named (result : String × Except RankError (SourceReport σ)) : Prop :=
  ∀ report, result.2 = .ok report → report.dataSource = result.1

variable {o : RankOutput σ} {names : List String} {name : String}
  {result : Except RankError (SourceReport σ)}
  {results : List (String × Except RankError (SourceReport σ))}

theorem Listing.add (h : Listing o names) (hnamed : Named (name, result)) :
    Listing (o.add name result) (names ++ [name]) := by
  cases result with
  | ok report =>
    have hname : report.dataSource = name := hnamed report rfl
    have hreports : ((o.add name (.ok report)).reports.map (·.dataSource)) =
        o.reports.map (·.dataSource) ++ [name] := by
      rw [RankOutput.add, List.map_append, List.map_singleton, hname]
    constructor
    case perm =>
      rw [hreports, List.append_assoc]
      refine (List.perm_append_comm.append_left _).trans ?_
      rw [← List.append_assoc]
      exact h.perm.append_right [name]
    case reports =>
      rw [hreports]
      exact h.reports.append (.refl [name])
    case failures => exact h.failures.trans (List.sublist_append_left names [name])
  | error e =>
    have hfailures : ((o.add name (.error e)).failures.map (·.dataSource)) =
        o.failures.map (·.dataSource) ++ [name] := by
      rw [RankOutput.add, List.map_append, List.map_singleton]
    constructor
    case perm =>
      rw [hfailures, ← List.append_assoc]
      exact h.perm.append_right [name]
    case reports => exact h.reports.trans (List.sublist_append_left names [name])
    case failures =>
      rw [hfailures]
      exact h.failures.append (.refl [name])

/-- **All results are listed.** -/
theorem Listing.foldl (h : Listing o names) (hnamed : ∀ r ∈ results, Named r) :
    Listing (results.foldl (fun o r => o.add r.1 r.2) o) (names ++ results.map (·.1)) := by
  induction results generalizing o names with
  | nil =>
    rw [List.map_nil, List.append_nil]
    exact h
  | cons r results ih =>
    obtain ⟨hr, hrest⟩ := List.forall_mem_cons.mp hnamed
    have hadd := ih (h.add hr) hrest
    rw [List.append_assoc, List.singleton_append] at hadd
    exact hadd

theorem mem_failures_only {text : String} :
    ⟨name, text⟩ ∈ (o.only name).failures ↔ ⟨name, text⟩ ∈ o.failures := by
  unfold only
  simp

/-- The one result of a list is listed as a failure if it is one. -/
theorem mem_failures_single {text : String} :
    ⟨name, text⟩ ∈ (empty.add name result).failures ↔
      ∃ e, result = .error e ∧ text = e.message := by
  cases result with
  | ok report => simp [RankOutput.add, empty]
  | error e => simp [RankOutput.add, empty]

theorem unnamed_single : (empty.add name result).unnamed =
    empty.add name (result.map SourceReport.unnamed) := by
  cases result with
  | ok report => rfl
  | error e => rfl

theorem only_add (hnamed : Named (name, result)) (other : String) :
    (o.add name result).only other =
      if name == other then (o.only other).add name result else o.only other := by
  cases result with
  | ok report =>
    have hname : report.dataSource = name := hnamed report rfl
    by_cases h : name == other
    · simp [only, RankOutput.add, hname, h]
    · simp [only, RankOutput.add, hname, h]
  | error e =>
    by_cases h : name == other
    · simp [only, RankOutput.add, h]
    · simp [only, RankOutput.add, h]

/-- **The entries of one source are those of the results under its name.** -/
theorem only_foldl (hnamed : ∀ r ∈ results, Named r) (name : String) :
    (results.foldl (fun o r => o.add r.1 r.2) o).only name =
      (results.filter (·.1 == name)).foldl (fun o r => o.add r.1 r.2) (o.only name) := by
  induction results generalizing o with
  | nil => rfl
  | cons r results ih =>
    obtain ⟨hr, hrest⟩ := List.forall_mem_cons.mp hnamed
    rw [List.foldl_cons, ih hrest, only_add hr, List.filter_cons]
    split
    · rfl
    · rfl

end RankOutput

/-! ## Requests -/

/-- The request for one of the sources alone. -/
def RankRequest.only (request : RankRequest σ) (source : String × List (Pools σ)) :
    RankRequest σ where
  query := request.query
  dataSources := ⟨[source], List.pairwise_singleton _ _⟩
  scope := request.scope

namespace Services

variable [Score σ]

/-- What comes of a request: nothing if it is unwound. -/
def output (s : Services σ) (config : RankingConfig σ) (turns : String → Turns)
    (request : RankRequest σ) (ids : Supply) : Option (RankOutput σ) :=
  (((s.pipeline config turns).run request).run.run ids).run.1

variable {s : Services σ} {config : RankingConfig σ} {turns : String → Turns}
  {request : RankRequest σ} {ids : Supply} {source : String × List (Pools σ)}
  {sources : List (String × List (Pools σ))}
  {result : String × Except RankError (SourceReport σ)}
  {results : List (String × Except RankError (SourceReport σ))}

/-- The result is what comes of the source with the ids that are left when its turn comes. -/
def Own (s : Services σ) (config : RankingConfig σ) (turns : String → Turns)
    (request : RankRequest σ) (ids : Supply) (source : String × List (Pools σ))
    (result : String × Except RankError (SourceReport σ)) : Prop :=
  result.1 = source.1 ∧
    ∃ n, s.outcome config turns request source (ids.after n) = result.2.mapError .failed

theorem Own.later {n : Nat} (h : Own s config turns request (ids.after n) source result) :
    Own s config turns request ids source result := by
  obtain ⟨hname, k, hresult⟩ := h
  rw [Supply.after_after] at hresult
  exact ⟨hname, n + k, hresult⟩

theorem Own.named (h : Own s config turns request ids source result) :
    RankOutput.Named result := by
  obtain ⟨hname, n, hresult⟩ := h
  intro report hok
  rw [hok] at hresult
  rw [hname]
  exact s.outcome_ok config turns hresult

theorem Own.not_unordered (h : Own s config turns request ids source result) :
    ¬ s.Unordered config turns request source := by
  obtain ⟨-, n, hresult⟩ := h
  intro hunordered
  rw [(s.outcome_disordered_iff config turns).mpr hunordered] at hresult
  cases hreport : result.2 <;> rw [hreport] at hresult <;> cases hresult

/-- The first source is reported on, and then the others, unless it ends the run. -/
theorem run_processAll_cons (ids : Supply) :
    (((s.pipeline config turns).processAll request.query.effective request.scope
        (source :: sources)).run.run ids).run =
      (Halt.report? (s.outcome config turns request source ids)).elim
        (none, ((s.process config turns request source).run ids).run.2) fun result =>
          Prod.map (Option.map ((source.1, result) :: ·)) id
            (((s.pipeline config turns).processAll request.query.effective request.scope
              sources).run.run ((s.process config turns request source).run ids).run.2).run := by
  have hprocess : ((s.pipeline config turns).processSource source.1 request.query.effective
      request.scope (.concat source.2)).run = s.process config turns request source := rfl
  rw [Pipeline.processAll, OptionT.run_bind, Halt.reported, OptionT.run_mk, hprocess, outcome]
  unfold Option.elimM
  rw [StateT.run_bind, StateT.run_map]
  obtain ⟨⟨result, left⟩, hrun⟩ : ∃ x, (s.process config turns request source).run ids = pure x :=
    ⟨_, rfl⟩
  rw [hrun, map_pure, pure_bind, Id.run_pure]
  cases Halt.report? result with
  | none => rfl
  | some reported =>
    rw [Option.elim_some, bind_pure_comp, OptionT.run_map, StateT.run_map]
    rfl

variable (s config turns request) in
/-- **Sources one after another**: each is left to itself, unless the rows of one have no order. -/
theorem processAll_own (sources : List (String × List (Pools σ))) (ids : Supply) :
    (∃ results, List.Forall₂ (Own s config turns request ids) sources results ∧
        (((s.pipeline config turns).processAll request.query.effective request.scope
          sources).run.run ids).run.1 = some results) ∨
      (∃ source ∈ sources, s.Unordered config turns request source) ∧
        (((s.pipeline config turns).processAll request.query.effective request.scope
          sources).run.run ids).run.1 = none := by
  induction sources generalizing ids with
  | nil => exact .inl ⟨[], .nil, rfl⟩
  | cons source sources ih =>
    rw [run_processAll_cons]
    cases hreport : Halt.report? (s.outcome config turns request source ids) with
    | none =>
      have hunordered :=
        (s.outcome_disordered_iff config turns).mp (Halt.report?_eq_none.mp hreport)
      exact .inr ⟨⟨source, List.mem_cons_self, hunordered⟩, rfl⟩
    | some result =>
      have hown : Own s config turns request ids source (source.1, result) :=
        ⟨rfl, 0, by rw [ids.after_zero]; exact Halt.report?_eq_some.mp hreport⟩
      obtain ⟨n, hn⟩ := s.process_draws config turns request source ids
      rw [hn]
      rcases ih (ids.after n) with ⟨results, hrest, hrun⟩ | ⟨⟨other, hother, hunordered⟩, hrun⟩
      · refine .inl ⟨(source.1, result) :: results, .cons hown (hrest.imp fun _ _ h => h.later), ?_⟩
        exact congrArg (Option.map _) hrun
      · exact .inr ⟨⟨other, List.mem_cons_of_mem _ hother, hunordered⟩,
          congrArg (Option.map _) hrun⟩

variable (s config turns) in
/-- A request is the list of the results of its sources, each left to itself, unless the rows of one
have no order. -/
theorem exists_results (request : RankRequest σ) (ids : Supply) :
    (∃ results,
        List.Forall₂ (Own s config turns request ids) request.dataSources.entries results ∧
        s.output config turns request ids =
          some (results.foldl (fun o r => o.add r.1 r.2) .empty)) ∨
      (∃ source ∈ request.dataSources.entries, s.Unordered config turns request source) ∧
        s.output config turns request ids = none := by
  unfold output Pipeline.run
  rw [bind_pure_comp, OptionT.run_map, StateT.run_map]
  rcases processAll_own s config turns request request.dataSources.entries ids with
    ⟨results, hown, hrun⟩ | ⟨hunordered, hrun⟩
  · exact .inl ⟨results, hown, congrArg (Option.map _) hrun⟩
  · exact .inr ⟨hunordered, congrArg (Option.map _) hrun⟩

theorem names_of_own (h : List.Forall₂ (Own s config turns request ids) sources results) :
    results.map (·.1) = sources.map (·.1) := by
  induction h with
  | nil => rfl
  | cons hown _ ih => rw [List.map_cons, List.map_cons, hown.1, ih]

theorem named_of_own (h : List.Forall₂ (Own s config turns request ids) sources results) :
    ∀ r ∈ results, RankOutput.Named r :=
  ((List.forall₂_and_left _ _).mp (h.flip.imp fun _ _ hown => ⟨Own.named hown, hown⟩)).1

theorem not_unordered_of_own (h : List.Forall₂ (Own s config turns request ids) sources results) :
    ∀ source ∈ sources, ¬ s.Unordered config turns request source :=
  ((List.forall₂_and_left _ _).mp (h.imp fun _ _ hown => ⟨hown.not_unordered, hown⟩)).1

variable (s config turns) in
/-- **A request is unwound exactly if the rows of a source have no order.** -/
theorem output_eq_none_iff (request : RankRequest σ) (ids : Supply) :
    s.output config turns request ids = none ↔
      ∃ source ∈ request.dataSources.entries, s.Unordered config turns request source := by
  rcases exists_results s config turns request ids with ⟨results, hown, hout⟩ | ⟨hunordered, hout⟩
  · rw [hout]
    refine iff_of_false (fun h => nomatch h) ?_
    rintro ⟨source, hsource, h⟩
    exact not_unordered_of_own hown source hsource h
  · exact iff_of_true hout hunordered

/-- **One result is that of the source.** -/
theorem exists_own_result (h : List.Forall₂ (Own s config turns request ids) sources results)
    (hnames : sources.Pairwise (·.1 < ·.1)) (hsource : source ∈ sources) :
    ∃ result, Own s config turns request ids source result ∧
      results.filter (·.1 == source.1) = [result] := by
  have hdistinct : sources.Pairwise (·.1 ≠ ·.1) := hnames.imp fun hlt heq => by
    rw [heq] at hlt
    exact String.lt_irrefl _ hlt
  have hone : sources.filter (·.1 == source.1) = [source] :=
    Lists.filter_key_of_mem hdistinct hsource
  have hname {a b} (hab : Own s config turns request ids a b) :
      (a.1 == source.1) = true ↔ (b.1 == source.1) = true := by rw [hab.1]
  have hfilter := List.rel_filter (fun _ _ hab => hname hab) h
  rw [hone] at hfilter
  obtain ⟨result, rest, hown, hrest, heq⟩ := List.forall₂_cons_left_iff.mp hfilter
  obtain rfl := List.forall₂_nil_left_iff.mp hrest
  exact ⟨result, hown, heq⟩

/-- **A source that is ranked alone has the one entry**, unless its rows have no order. -/
theorem output_only (source : String × List (Pools σ)) (ids : Supply) :
    s.output config turns (request.only source) ids =
      (Halt.report? (s.outcome config turns request source ids)).map
        (RankOutput.empty.add source.1) := by
  unfold output Pipeline.run
  rw [bind_pure_comp, OptionT.run_map, StateT.run_map]
  show Option.map _ (((s.pipeline config turns).processAll request.query.effective request.scope
    [source]).run.run ids).run.1 = _
  rw [run_processAll_cons]
  cases Halt.report? (s.outcome config turns request source ids) <;> rfl

/-- Without the ids of slices, a source alone has the one entry with any ids. -/
theorem unnamed_output_only (source : String × List (Pools σ)) (ids ids' : Supply) :
    (s.output config turns (request.only source) ids).map RankOutput.unnamed =
      (s.output config turns (request.only source) ids').map RankOutput.unnamed := by
  have hadd (ids : Supply) :
      (s.output config turns (request.only source) ids).map RankOutput.unnamed =
        (Halt.report? ((s.outcome config turns request source ids).map
          SourceReport.unnamed)).map (RankOutput.empty.add source.1) := by
    rw [output_only, Halt.report?_map, Option.map_map, Option.map_map]
    exact congrArg (Option.map · _) (funext fun result => RankOutput.unnamed_single)
  rw [hadd, hadd, s.outcome_unnamed config turns ids ids']

/-- Without the wording of errors, a source alone has the one entry with any turns. -/
theorem unworded_output_only (source : String × List (Pools σ)) (turns' : String → Turns)
    (ids : Supply) :
    (s.output config turns (request.only source) ids).map RankOutput.unworded =
      (s.output config turns' (request.only source) ids).map RankOutput.unworded := by
  rw [output_only, output_only]
  unfold outcome
  rcases s.process_turns config turns request source turns' with
    heq | ⟨e, e', he, he'⟩
  · rw [heq]
  · rw [he, he']
    rfl

variable {o : RankOutput σ}

/-- The entries of a source in an output are those of the request for it alone. -/
theorem output_only_eq (ho : s.output config turns request ids = some o)
    (hsource : source ∈ request.dataSources.entries) :
    ∃ n, s.output config turns (request.only source) (ids.after n) = some (o.only source.1) := by
  rcases exists_results s config turns request ids with ⟨results, hown, hout⟩ | ⟨-, hout⟩
  · obtain ⟨result, ⟨hname, n, hresult⟩, hone⟩ :=
      exists_own_result hown request.dataSources.ascending hsource
    obtain rfl := Option.some.inj (ho.symm.trans hout)
    refine ⟨n, ?_⟩
    rw [output_only, hresult, Halt.report?_eq_some.mpr rfl, Option.map_some,
      RankOutput.only_foldl (named_of_own hown), hone, ← hname]
    rfl
  · rw [ho] at hout
    cases hout

/-- Without the ids of slices, they are those of every run for it alone. -/
theorem unnamed_only_eq (ho : s.output config turns request ids = some o)
    (hsource : source ∈ request.dataSources.entries) (ids' : Supply) :
    (s.output config turns (request.only source) ids').map RankOutput.unnamed =
      some (o.only source.1).unnamed := by
  obtain ⟨n, hn⟩ := output_only_eq ho hsource
  rw [unnamed_output_only source ids' (ids.after n), hn]
  rfl

/-- And without the wording of errors, whatever turns the calls take there. -/
theorem unworded_only_eq (ho : s.output config turns request ids = some o)
    (hsource : source ∈ request.dataSources.entries) (turns' : String → Turns) (ids' : Supply) :
    (s.output config turns' (request.only source) ids').map (·.unnamed.unworded) =
      some (o.only source.1).unnamed.unworded := by
  have hcomm (turns : String → Turns) :
      (s.output config turns (request.only source) ids').map (·.unnamed.unworded) =
        ((s.output config turns (request.only source) ids').map RankOutput.unworded).map
          RankOutput.unnamed := by
    rw [Option.map_map]
    rfl
  rw [hcomm, unworded_output_only source turns ids', ← hcomm]
  have hunnamed := congrArg (Option.map RankOutput.unworded) (unnamed_only_eq ho hsource ids')
  rwa [Option.map_map] at hunnamed

/-- **Other sources change nothing**: requests that agree on the query, the scope and a source, and
that are not unwound, have the same entries of it, without the ids of slices. -/
theorem only_congr {request' : RankRequest σ} {o' : RankOutput σ} {ids' : Supply}
    (hquery : request.query = request'.query) (hscope : request.scope = request'.scope)
    (hsource : source ∈ request.dataSources.entries)
    (hsource' : source ∈ request'.dataSources.entries)
    (ho : s.output config turns request ids = some o)
    (ho' : s.output config turns request' ids' = some o') :
    (o.only source.1).unnamed = (o'.only source.1).unnamed := by
  have halone : request.only source = request'.only source := by
    unfold RankRequest.only
    rw [hquery, hscope]
  have h := unnamed_only_eq ho hsource ids
  rw [halone, unnamed_only_eq ho' hsource' ids] at h
  exact (Option.some.inj h).symm

/-- Each source is listed once, and in order; which ones fail, and with which error, is their own
matter; and the entries of a source are those of the request for it alone. -/
structure Isolated (s : Services σ) (config : RankingConfig σ) (turns : String → Turns)
    (request : RankRequest σ) (ids : Supply) (o : RankOutput σ) : Prop where
  once : (o.reports.map (·.dataSource) ++ o.failures.map (·.dataSource)).Perm
    (request.dataSources.entries.map (·.1))
  reports_ascending : (o.reports.map (·.dataSource)).Pairwise (· < ·)
  failures_ascending : (o.failures.map (·.dataSource)).Pairwise (· < ·)
  failure_iff : ∀ source ∈ request.dataSources.entries, ∀ text,
    ⟨source.1, text⟩ ∈ o.failures ↔ ∃ e : RankError, text = e.message ∧
      ∀ ids, s.outcome config turns request source ids = .error (.failed e)
  /-- With the ids that are left when its turn comes. -/
  only : ∀ source ∈ request.dataSources.entries, ∃ n,
    s.output config turns (request.only source) (ids.after n) = some (o.only source.1)
  /-- With any ids, but for the ids of slices. -/
  unnamed : ∀ source ∈ request.dataSources.entries, ∀ ids',
    (s.output config turns (request.only source) ids').map RankOutput.unnamed =
      some (o.only source.1).unnamed
  /-- And with any turns of the calls, but for the wording of an error. -/
  unworded : ∀ source ∈ request.dataSources.entries, ∀ turns' ids',
    (s.output config turns' (request.only source) ids').map (·.unnamed.unworded) =
      some (o.only source.1).unnamed.unworded

theorem isolated_of_output (ho : s.output config turns request ids = some o) :
    Isolated s config turns request ids o := by
  rcases exists_results s config turns request ids with ⟨results, hown, hout⟩ | ⟨-, hout⟩
  · obtain rfl := Option.some.inj (ho.symm.trans hout)
    have hlisting := RankOutput.listing_empty.foldl (named_of_own hown)
    rw [names_of_own hown, List.nil_append] at hlisting
    have hnames : (request.dataSources.entries.map (·.1)).Pairwise (· < ·) :=
      List.pairwise_map.mpr request.dataSources.ascending
    constructor
    case once => exact hlisting.perm
    case reports_ascending => exact hnames.sublist hlisting.reports
    case failures_ascending => exact hnames.sublist hlisting.failures
    case only => exact fun source hsource => output_only_eq ho hsource
    case unnamed => exact fun source hsource ids' => unnamed_only_eq ho hsource ids'
    case unworded =>
      exact fun source hsource turns' ids' => unworded_only_eq ho hsource turns' ids'
    case failure_iff =>
      intro source hsource text
      obtain ⟨n, honly⟩ := output_only_eq ho hsource
      rw [output_only] at honly
      obtain ⟨result, hresult, hadd⟩ := Option.map_eq_some_iff.mp honly
      rw [Halt.report?_eq_some] at hresult
      rw [← RankOutput.mem_failures_only, ← hadd, RankOutput.mem_failures_single]
      constructor
      · rintro ⟨e, rfl, htext⟩
        exact ⟨e, htext, fun ids' => s.outcome_error config turns hresult ids'⟩
      · rintro ⟨e, htext, hfails⟩
        refine ⟨e, ?_, htext⟩
        rw [hfails] at hresult
        cases result with
        | ok report => cases hresult
        | error e' => rw [Halt.failed.inj (Except.error.inj hresult)]
  · rw [ho] at hout
    cases hout

variable (s config turns) in
/-- **Running a request isolates its sources**, unless it is unwound; and that happens exactly if a
source has rows without an order, which are many and not all score numbers. -/
theorem run_isolated (request : RankRequest σ) (ids : Supply) :
    (s.output config turns request ids = none ↔
        ∃ source ∈ request.dataSources.entries, s.Unordered config turns request source) ∧
      (∀ source, s.Unordered config turns request source →
        Lists.insertionLength <
            (Pools.concat source.2).dense.length + (Pools.concat source.2).sparse.length ∧
          ∃ rows, s.joined config turns request source = .ok rows ∧ ¬ Row.Numbered rows) ∧
      ∀ o, s.output config turns request ids = some o →
        Isolated s config turns request ids o :=
  ⟨output_eq_none_iff s config turns request ids,
    fun _ h => Unordered.many s config turns h, fun _ ho => isolated_of_output ho⟩

/-! ## Two sources -/

/-- Services that score texts by their places in a call and have nothing to fetch. -/
def placing (score : Nat → Float) : Services Float := ⟨.placed score, fun _ _ => .ok []⟩

/-- The defaults, but ranked by relevance. -/
def byRelevance : RankingConfig Float :=
  { RankingConfig.default with fusion := { FusionConfig.default with method := .relevance } }

/-- A source with these hits, and one with a single hit. -/
def twoSources (hits : List (Candidate Float)) : RankRequest Float where
  query := .ofText "q"
  dataSources := ⟨[("a", [⟨hits, []⟩]), ("b", [⟨[sample "u" "A" "a" 1.0], []⟩])],
    List.pairwise_pair.mpr (show "a" < "b" by decide)⟩
  scope := none

/-- Ids that tell how many were drawn before. -/
def counted : Supply := fun i => toString i

/-- A source with one hit has rows with an order. -/
theorem not_unordered_of_single (s : Services Float) (config : RankingConfig Float)
    (turns : String → Turns) (request : RankRequest Float) (name : String) (c : Candidate Float) :
    ¬ s.Unordered config turns request (name, [⟨[c], []⟩]) := fun h =>
  absurd (Unordered.many s config turns h).1 (show ¬ Lists.insertionLength < 1 by decide)

/-- Two sources with one hit each are isolated. -/
theorem single_hits_isolated :
    ∃ o, (placing fun _ => 1.0).output byRelevance (fun _ => .atOnce)
        (twoSources [sample "v" "B" "b" 1.0]) counted = some o ∧
      Isolated (placing fun _ => 1.0) byRelevance (fun _ => .atOnce)
        (twoSources [sample "v" "B" "b" 1.0]) counted o := by
  obtain ⟨hnone, -, hsome⟩ := run_isolated (placing fun _ => 1.0) byRelevance (fun _ => .atOnce)
    (twoSources [sample "v" "B" "b" 1.0]) counted
  cases ho : (placing fun _ => 1.0).output byRelevance (fun _ => .atOnce)
      (twoSources [sample "v" "B" "b" 1.0]) counted with
  | some o => exact ⟨o, rfl, hsome o ho⟩
  | none =>
    obtain ⟨source, hsource, h⟩ := hnone.mp ho
    rcases List.mem_pair.mp hsource with rfl | rfl
    · exact absurd h (not_unordered_of_single _ _ _ _ _ _)
    · exact absurd h (not_unordered_of_single _ _ _ _ _ _)

/-- 21 slices that are answered without an order have none. -/
theorem unordered_slices (request : RankRequest Float) :
    (placing Fusion.unorderable).Unordered byRelevance (fun _ => .atOnce) request
      ("a", [⟨Fusion.slices, []⟩]) := by
  have hmethod : byRelevance.fusion.method = .relevance := rfl
  have hfuse := Fusion.fuse_unorderable (m := Id) hmethod
    (congrArg List.length Fusion.firsts_slices) .atOnce request.query.effective
  rw [Fusion.fuse_eq_tableFrom, Fusion.run_tableFrom] at hfuse
  exact Fusion.tabled_eq_disordered_iff.mp hfuse

/-- The source with one hit is ranked where it is alone, and lost beside one that has no order. -/
theorem lost_beside_unordered :
    (placing Fusion.unorderable).output byRelevance (fun _ => .atOnce) (twoSources Fusion.slices)
        counted = none ∧
      ∃ o, (placing Fusion.unorderable).output byRelevance (fun _ => .atOnce)
          ((twoSources Fusion.slices).only ("b", [⟨[sample "u" "A" "a" 1.0], []⟩])) counted =
        some o := by
  refine ⟨(output_eq_none_iff _ _ _ _ _).mpr ⟨_, List.mem_cons_self, unordered_slices _⟩, ?_⟩
  refine Option.ne_none_iff_exists'.mp fun hnone => ?_
  obtain ⟨source, hsource, h⟩ := (output_eq_none_iff _ _ _ _ _).mp hnone
  obtain rfl := List.mem_singleton.mp hsource
  exact not_unordered_of_single _ _ _ _ _ _ h

end Services
end EvidenceRank
