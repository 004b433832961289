import EvidenceRank.Reranker

/-!
# Calls of a reranker

A reranker is asked by actions of some monad, which may keep state, take turns with other
programs, or answer the same call differently the next time. `Ensures x p` is what can be said of
such an action in every lawful monad: whatever it returns has the property `p`.

* `Ensures.bind`, `Ensures.bindExcept`: properties of results are carried along a sequence of
  actions, and of actions that may fail.
* `Ensures.bind_congr`, `Ensures.bindExcept_congr`: what comes after an action matters only on the
  results that it has.
* `Ensures.ordered`: properties of what is ordered last, where there may be no order.
* `Reranker.scoreAll_ensures`: scores that pass the check are as many as the texts, whoever gave
  them; `Reranker.Answers.scoreAll`: a reranker that answers with one score per text passes it.
* `Reranker.scoreAll_unchecked`: where no answer has a wrong number of scores, the check can be
  left out.
-/

namespace EvidenceRank

variable {m : Type → Type} [Monad m] {α β : Type}

/-! ## Results of actions -/

/-- Whatever the action returns has the property: the action can hand out its results together
with a proof of it. -/
def Ensures (x : m α) (p : α → Prop) : Prop := ∃ y : m {a // p a}, Subtype.val <$> y = x

namespace Ensures

variable [LawfulMonad m] {p : α → Prop} {q : β → Prop}

/-- The only result of an action without effects is its value. -/
theorem id_iff {x : Id α} : Ensures x p ↔ p x.run := by
  constructor
  · rintro ⟨y, rfl⟩
    exact y.run.property
  · intro h
    exact ⟨(⟨x.run, h⟩ : {a // p a}), rfl⟩

/-- The result of an action on a state has the property, whatever the state. -/
theorem run_state {S : Type} {x : StateM S α} (h : Ensures x p) (s : S) : p (x.run s).run.1 := by
  obtain ⟨y, rfl⟩ := h
  exact (y.run s).run.1.property

theorem pure {a : α} (h : p a) : Ensures (m := m) (Pure.pure a) p :=
  ⟨Pure.pure ⟨a, h⟩, map_pure _ _⟩

theorem bind {x : m α} {f : α → m β} (hx : Ensures x p) (hf : ∀ a, p a → Ensures (f a) q) :
    Ensures (x >>= f) q := by
  obtain ⟨y, rfl⟩ := hx
  refine ⟨y >>= fun a => (hf a.1 a.2).choose, ?_⟩
  rw [map_bind, bind_map_left]
  exact bind_congr fun a => (hf a.1 a.2).choose_spec

/-- After an action only its results matter. -/
theorem bind_congr {x : m α} {f g : α → m β} (hx : Ensures x p) (h : ∀ a, p a → f a = g a) :
    x >>= f = x >>= g := by
  obtain ⟨y, rfl⟩ := hx
  rw [bind_map_left, bind_map_left]
  exact congrArg (y >>= ·) (funext fun a => h a.1 a.2)

theorem trivial (x : m α) : Ensures x fun _ => True := by
  refine ⟨(fun a => ⟨a, True.intro⟩) <$> x, ?_⟩
  rw [← comp_map]
  exact id_map x

theorem imp {x : m α} {p' : α → Prop} (h : Ensures x p) (hp : ∀ a, p a → p' a) :
    Ensures x p' := by
  have hb := h.bind (f := Pure.pure) fun a ha => Ensures.pure (hp a ha)
  rwa [bind_pure] at hb

theorem map {x : m α} {f : α → β} (h : Ensures x p) (hf : ∀ a, p a → q (f a)) :
    Ensures (f <$> x) q := by
  rw [← bind_pure_comp]
  exact h.bind fun a ha => Ensures.pure (hf a ha)

/-- After an action that may fail comes `f` on its result, or nothing. -/
theorem bindExcept {ε : Type} {x : ExceptT ε m α} {f : α → ExceptT ε m β}
    {p : Except ε α → Prop} {q : Except ε β → Prop} (hx : Ensures x.run p)
    (hok : ∀ a, p (.ok a) → Ensures (f a).run q) (herror : ∀ e, p (.error e) → q (.error e)) :
    Ensures (x >>= f).run q := by
  rw [ExceptT.run_bind]
  refine hx.bind fun result hr => ?_
  cases result with
  | ok a => exact hok a hr
  | error e => exact Ensures.pure (herror e hr)

/-- After an action that may fail only the results that it has matter. -/
theorem bindExcept_congr {ε : Type} {x : ExceptT ε m α} {f g : α → ExceptT ε m β}
    {p : Except ε α → Prop} (hx : Ensures x.run p) (h : ∀ a, p (.ok a) → f a = g a) :
    x >>= f = x >>= g := by
  refine ExceptT.ext ?_
  rw [ExceptT.run_bind, ExceptT.run_bind]
  refine hx.bind_congr fun result hr => ?_
  cases result with
  | ok a => exact congrArg ExceptT.run (h a hr)
  | error e => rfl

theorem mapExcept {ε : Type} {x : ExceptT ε m α} {f : α → β} {p : Except ε α → Prop}
    {q : Except ε β → Prop} (hx : Ensures x.run p) (hok : ∀ a, p (.ok a) → q (.ok (f a)))
    (herror : ∀ e, p (.error e) → q (.error e)) : Ensures (f <$> x).run q := by
  rw [← bind_pure_comp]
  exact hx.bindExcept (fun a ha => Ensures.pure (hok a ha)) herror

end Ensures

/-! ## Halting -/

namespace Halt

@[simp] theorem mapError_ok (a : α) : (Except.ok a).mapError failed = .ok a := rfl

@[simp] theorem mapError_error (e : RankError) :
    (Except.error e : Except RankError α).mapError failed = .error (.failed e) := rfl

@[simp] theorem run_failing (step : ExceptT RankError m α) :
    (failing step).run = Except.mapError failed <$> step.run := rfl

@[simp] theorem run_ordering (order : Option α) :
    (ordering order : ExceptT Halt m α).run = pure (ordered order) := rfl

theorem ordered_eq_ok_iff {order : Option α} {a : α} : ordered order = .ok a ↔ order = some a := by
  cases order <;> simp [ordered]

theorem ordered_ne_failed (order : Option α) (e : RankError) :
    ordered order ≠ .error (.failed e) := by
  cases order <;> simp [ordered]

theorem ordered_eq_disordered_iff {order : Option α} :
    ordered order = .error disordered ↔ order = none := by
  cases order <;> simp [ordered]

theorem report?_eq_some {x : Except Halt α} {result : Except RankError α} :
    report? x = some result ↔ x = result.mapError failed := by
  cases x with
  | ok a => cases result <;> simp [report?]
  | error halt => cases halt <;> cases result <;> simp [report?]

theorem report?_eq_none {x : Except Halt α} : report? x = none ↔ x = .error disordered := by
  cases x with
  | ok a => simp [report?]
  | error halt => cases halt <;> simp [report?]

theorem report?_map (f : α → β) (x : Except Halt α) :
    report? (x.map f) = (report? x).map (Except.map f) := by
  cases x with
  | ok a => rfl
  | error halt => cases halt <;> rfl

theorem ordered_map (f : α → β) (order : Option α) :
    ordered (order.map f) = f <$> ordered order := by
  cases order <;> rfl

variable [LawfulMonad m]

theorem map_ordering (f : α → β) (order : Option α) :
    f <$> (ordering order : ExceptT Halt m α) = ordering (order.map f) := by
  refine ExceptT.ext ?_
  rw [ExceptT.run_map, run_ordering, run_ordering, map_pure, ordered_map]
  rfl

theorem failing_map (f : α → β) (step : ExceptT RankError m α) :
    failing (f <$> step) = f <$> failing step := by
  refine ExceptT.ext ?_
  rw [run_failing, ExceptT.run_map, ExceptT.run_map, run_failing, ← comp_map, ← comp_map]
  refine congrArg (· <$> step.run) (funext fun result => ?_)
  cases result <;> rfl

end Halt

/-- What results of a step that may report an error have, they have where it is part of what may
halt. -/
theorem Ensures.failing [LawfulMonad m] {step : ExceptT RankError m α} {p : α → Prop}
    (h : Ensures step.run fun result => ∀ a, result = .ok a → p a) :
    Ensures (Halt.failing step).run fun result => ∀ a, result = .ok a → p a := by
  rw [Halt.run_failing]
  refine h.map fun result hr a ha => ?_
  cases result with
  | ok b => exact hr a (congrArg _ (Except.ok.inj ha))
  | error e => cases ha

theorem Ensures.ordering [LawfulMonad m] (order : Option α) :
    Ensures (Halt.ordering order : ExceptT Halt m α).run fun result =>
      ∀ a, result = .ok a → order = some a :=
  Ensures.pure fun _ => Halt.ordered_eq_ok_iff.mp

/-- A step that may report an error, and then an order of what it gives. -/
theorem Ensures.ordered [LawfulMonad m] {step : ExceptT RankError m α} {order : α → Option β}
    {p : Except RankError α → Prop} {q : Except Halt β → Prop} (h : Ensures step.run p)
    (hok : ∀ a, p (.ok a) → q (Halt.ordered (order a)))
    (herror : ∀ e, p (.error e) → q (.error (.failed e))) :
    Ensures (Halt.failing step >>= fun a => Halt.ordering (order a)).run q := by
  rw [ExceptT.run_bind, Halt.run_failing, bind_map_left]
  refine h.bind fun result hr => ?_
  cases result with
  | ok a => exact Ensures.pure (hok a hr)
  | error e => exact Ensures.pure (herror e hr)

/-! ## Checked scores -/

namespace Reranker

variable {σ : Type}

/-- Every call is answered with one score per text. -/
def Answers (r : Reranker m σ) : Prop :=
  ∀ query texts, Ensures (r.score query texts) fun answer =>
    ∃ scores, answer = .ok scores ∧ scores.length = texts.length

theorem scoreAll_nil (r : Reranker m σ) (query : String) : r.scoreAll query [] = Pure.pure [] := by
  unfold scoreAll
  rfl

variable [LawfulMonad m]

/-- Scores that pass the check are as many as the texts. -/
theorem scoreAll_ensures (r : Reranker m σ) (query : String) (texts : List String) :
    Ensures (r.scoreAll query texts).run fun result =>
      ∀ scores, result = .ok scores → scores.length = texts.length := by
  unfold scoreAll
  split
  · rename_i h
    refine Ensures.pure fun scores hs => ?_
    rw [← Except.ok.inj hs, List.isEmpty_iff.mp h]
    rfl
  · refine Ensures.bindExcept (Ensures.trivial _) (fun scores _ => ?_)
      fun e _ scores hs => by cases hs
    split
    · rename_i hlen
      refine Ensures.pure fun scores' hs => ?_
      rw [← Except.ok.inj hs, hlen]
    · exact Ensures.pure fun scores' hs => by cases hs

/-- A reranker that answers passes the check. -/
theorem Answers.scoreAll {r : Reranker m σ} (hr : r.Answers) (query : String)
    (texts : List String) :
    Ensures (r.scoreAll query texts).run fun result =>
      ∃ scores, result = .ok scores ∧ scores.length = texts.length := by
  unfold Reranker.scoreAll
  split
  · rename_i h
    exact Ensures.pure ⟨[], rfl, by rw [List.isEmpty_iff.mp h]; rfl⟩
  · refine Ensures.bindExcept (hr query texts) (fun scores hs => ?_) fun e he => ?_
    · obtain ⟨scores', heq, hlen⟩ := hs
      rw [← Except.ok.inj heq] at hlen
      rw [if_pos hlen]
      exact Ensures.pure ⟨scores, rfl, hlen⟩
    · obtain ⟨scores, heq, -⟩ := he
      cases heq

/-- A reranker that never answers with a wrong number of scores. -/
def Counts (r : Reranker m σ) : Prop :=
  ∀ query texts, Ensures (r.score query texts) fun answer =>
    ∀ scores, answer = .ok scores → scores.length = texts.length

/-- The check refuses no answer that has the right number of scores. -/
theorem scoreAll_unchecked {r : Reranker m σ} (hr : r.Counts) (query : String)
    (texts : List String) : r.scoreAll query texts =
      if texts.isEmpty then Pure.pure [] else ExceptT.mk (r.score query texts) := by
  unfold scoreAll
  split
  · rfl
  · calc _ = ExceptT.mk (r.score query texts) >>= Pure.pure :=
          Ensures.bindExcept_congr (hr query texts) fun scores hcount => if_pos (hcount scores rfl)
      _ = ExceptT.mk (r.score query texts) := bind_pure _

/-- The reranker that scores every text alike. -/
def flat (score : σ) : Reranker m σ where
  model := "flat"
  score _ texts := pure (.ok (texts.map fun _ => score))

theorem flat_answers (score : σ) : (flat (m := m) score).Answers :=
  fun _ texts => Ensures.pure ⟨texts.map fun _ => score, rfl, List.length_map _⟩

theorem scoreAll_flat (score : σ) (query : String) (texts : List String) :
    (flat (m := m) score).scoreAll query texts = Pure.pure (texts.map fun _ => score) := by
  have hcounts : (flat (m := m) score).Counts := fun _ _ => Ensures.pure fun scores hs => by
    rw [← Except.ok.inj hs, List.length_map]
  rw [scoreAll_unchecked hcounts]
  cases texts <;> rfl

/-- The reranker that scores each text by its place in the call. -/
def placed (score : Nat → σ) : Reranker m σ where
  model := "placed"
  score _ texts := pure (.ok ((List.range texts.length).map score))

theorem placed_answers (score : Nat → σ) : (placed (m := m) score).Answers :=
  fun _ texts => Ensures.pure ⟨_, rfl, by rw [List.length_map, List.length_range]⟩

theorem scoreAll_placed (score : Nat → σ) (query : String) (texts : List String) :
    (placed (m := m) score).scoreAll query texts =
      Pure.pure ((List.range texts.length).map score) := by
  have hcounts : (placed (m := m) score).Counts := fun _ texts => Ensures.pure fun scores hs => by
    rw [← Except.ok.inj hs, List.length_map, List.length_range]
  rw [scoreAll_unchecked hcounts]
  cases texts <;> rfl

end Reranker
end EvidenceRank
