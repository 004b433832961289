import EvidenceRank.Proofs.Reranker
import EvidenceRank.Service.Rerank
import Mathlib.Data.List.Duplicate
import Mathlib.Data.List.Perm.Subperm

/-!
# Scores in the order of the documents

The rerank service answers in the order of relevance. Its scores are put into slots, one for each
document, and an answer is refused at the first result that names no slot or a slot that has a
score already. `Fills` says what a walk through the results has done to the slots when it comes to
its end, and `Misplaced` why one was broken off.

As many results as slots, each in a slot of its own, leave no slot empty. So what stands for a slot
without a score is never seen, and the order of the results does not matter.

Results:
* `fills_of_fillSlots`, `exists_fillSlots`, `misplaced_of_fillSlots`: the walk ends well exactly if
  the results name free slots, no slot twice.
* `perm_range_iff`: so many results name so many slots exactly if they name each slot once.
* `InOrder.unique`: scores in order are told by the results alone.
* `RerankClient.reranker_counts`: the client never returns a wrong number of scores.
* `scores_put_back`: when an answer is taken, what is made of it, and that its length needs no
  second check.
-/

namespace EvidenceRank.Service

variable {α : Type}

/-! ## One result after another -/

theorem fillSlots_cons_free {slots : List (Option α)} {r : RerankResult α}
    (h : slots[r.index]? = some none) (rs : List (RerankResult α)) :
    fillSlots slots (r :: rs) = fillSlots (slots.set r.index (some r.score)) rs := by
  rw [fillSlots, h]

/-- A result that has no free slot is told by its index. -/
theorem fillSlots_cons_error {slots : List (Option α)} {r : RerankResult α}
    (h : slots[r.index]? ≠ some none) (rs : List (RerankResult α)) :
    slots.length ≤ r.index ∧
        fillSlots slots (r :: rs) = .error (.indexOutOfRange r.index slots.length) ∨
      (∃ score, slots[r.index]? = some (some score)) ∧
        fillSlots slots (r :: rs) = .error (.indexRepeated r.index) := by
  rw [fillSlots]
  cases hslot : slots[r.index]? with
  | none => exact Or.inl ⟨List.getElem?_eq_none_iff.mp hslot, rfl⟩
  | some slot =>
    cases slot with
    | none => exact absurd hslot h
    | some score => exact Or.inr ⟨⟨score, rfl⟩, rfl⟩

/-! ## All results -/

/-- What putting all results into slots has done: each stands in a slot of its own, which was free,
and the other slots are as they were. -/
structure Fills (slots filled : List (Option α)) (results : List (RerankResult α)) : Prop where
  length : filled.length = slots.length
  free : ∀ r ∈ results, slots[r.index]? = some none
  distinct : (results.map (·.index)).Nodup
  placed : ∀ r ∈ results, filled[r.index]? = some (some r.score)
  kept : ∀ i, i ∉ results.map (·.index) → filled[i]? = slots[i]?

theorem Fills.nil (slots : List (Option α)) : Fills slots slots [] where
  length := rfl
  free _ hr := absurd hr List.not_mem_nil
  distinct := List.nodup_nil
  placed _ hr := absurd hr List.not_mem_nil
  kept _ _ := rfl

/-- The first result takes its slot, which no later one names. -/
theorem Fills.cons {slots filled : List (Option α)} {r : RerankResult α}
    {rs : List (RerankResult α)} (hr : slots[r.index]? = some none)
    (h : Fills (slots.set r.index (some r.score)) filled rs) : Fills slots filled (r :: rs) := by
  have hlt : r.index < slots.length := (List.getElem?_eq_some_iff.mp hr).1
  have hown : (slots.set r.index (some r.score))[r.index]? = some (some r.score) := by
    rw [List.getElem?_set_self hlt]
  -- the slot is taken from now on, so a later result that is placed has another one
  have hother : ∀ s ∈ rs, r.index ≠ s.index := by
    intro s hs heq
    have hfree := h.free s hs
    rw [← heq, hown] at hfree
    cases hfree
  have hnew : r.index ∉ rs.map (·.index) := by
    intro hmem
    obtain ⟨s, hs, heq⟩ := List.mem_map.mp hmem
    exact hother s hs heq.symm
  constructor
  case length => rw [h.length, List.length_set]
  case free =>
    intro s hs
    rcases List.mem_cons.mp hs with rfl | hs
    · exact hr
    · rw [← List.getElem?_set_ne (hother s hs), h.free s hs]
  case distinct => exact List.nodup_cons.mpr ⟨hnew, h.distinct⟩
  case placed =>
    intro s hs
    rcases List.mem_cons.mp hs with rfl | hs
    · rw [h.kept _ hnew, hown]
    · exact h.placed s hs
  case kept =>
    intro i hi
    rw [List.map_cons, List.mem_cons, not_or] at hi
    rw [h.kept i hi.2, List.getElem?_set_ne (Ne.symm hi.1)]

theorem fills_of_fillSlots {slots filled : List (Option α)} {results : List (RerankResult α)}
    (h : fillSlots slots results = .ok filled) : Fills slots filled results := by
  induction results generalizing slots with
  | nil =>
    rw [← Except.ok.inj h]
    exact Fills.nil slots
  | cons r rs ih =>
    by_cases hr : slots[r.index]? = some none
    · rw [fillSlots_cons_free hr] at h
      exact (ih h).cons hr
    · rcases fillSlots_cons_error hr rs with ⟨-, he⟩ | ⟨-, he⟩ <;>
        · rw [he] at h
          cases h

/-- Results that name free slots, no slot twice, can all be placed. -/
theorem exists_fillSlots {slots : List (Option α)} {results : List (RerankResult α)}
    (hfree : ∀ r ∈ results, slots[r.index]? = some none)
    (hdistinct : (results.map (·.index)).Nodup) :
    ∃ filled, fillSlots slots results = .ok filled := by
  induction results generalizing slots with
  | nil => exact ⟨slots, rfl⟩
  | cons r rs ih =>
    rw [List.map_cons, List.nodup_cons] at hdistinct
    rw [fillSlots_cons_free (hfree r List.mem_cons_self)]
    refine ih (fun s hs => ?_) hdistinct.2
    have hne : r.index ≠ s.index := by
      intro heq
      exact hdistinct.1 (List.mem_map.mpr ⟨s, hs, heq.symm⟩)
    rw [List.getElem?_set_ne hne]
    exact hfree s (List.mem_cons_of_mem r hs)

/-- Why results are refused that should fill so many slots: an index behind the last slot, or one
that comes twice. -/
def Misplaced (count : Nat) (results : List (RerankResult α)) : AnswerFault → Prop
  | .indexOutOfRange index n => n = count ∧ count ≤ index ∧ index ∈ results.map (·.index)
  | .indexRepeated index => List.Duplicate index (results.map (·.index))
  | _ => False

/-- A walk that is broken off tells an index that has no slot, or whose slot was taken before the
walk or on it. -/
theorem misplaced_of_fillSlots {slots : List (Option α)} {results : List (RerankResult α)}
    {fault : AnswerFault} (h : fillSlots slots results = .error fault) :
    Misplaced slots.length results fault ∨
      ∃ r ∈ results, fault = .indexRepeated r.index ∧
        ∃ score, slots[r.index]? = some (some score) := by
  induction results generalizing slots with
  | nil => cases h
  | cons r rs ih =>
    by_cases hr : slots[r.index]? = some none
    · rw [fillSlots_cons_free hr] at h
      rcases ih h with hmis | ⟨s, hs, rfl, score, hscore⟩
      · left
        rw [List.length_set] at hmis
        cases fault with
        | indexOutOfRange index n =>
          exact ⟨hmis.1, hmis.2.1, List.mem_cons_of_mem _ hmis.2.2⟩
        | indexRepeated index => exact List.Duplicate.duplicate_cons hmis r.index
        | tooManyGroups _ _ => exact hmis
        | stated _ => exact hmis
      · by_cases heq : r.index = s.index
        · left
          have hmem : r.index ∈ rs.map (·.index) := List.mem_map.mpr ⟨s, hs, heq.symm⟩
          rw [← heq]
          exact List.duplicate_cons_self_iff.mpr hmem
        · right
          rw [List.getElem?_set_ne heq] at hscore
          exact ⟨s, List.mem_cons_of_mem r hs, rfl, score, hscore⟩
    · rcases fillSlots_cons_error hr rs with ⟨hle, he⟩ | ⟨⟨score, hscore⟩, he⟩
      · rw [he] at h
        rw [← Except.error.inj h]
        exact Or.inl ⟨rfl, hle, List.mem_cons_self⟩
      · rw [he] at h
        rw [← Except.error.inj h]
        exact Or.inr ⟨r, List.mem_cons_self, rfl, score, hscore⟩

/-! ## As many results as slots -/

theorem getElem?_replicate_none {n i : Nat} :
    (List.replicate n (none : Option α))[i]? = some none ↔ i < n := by
  rw [List.getElem?_replicate]
  split
  · rename_i h
    exact iff_of_true rfl h
  · rename_i h
    exact iff_of_false (by simp) h

/-- **Each of `n` results has a slot of its own exactly if each of `n` slots has a result.** -/
theorem perm_range_iff {n : Nat} {is : List Nat} (hlen : is.length = n) :
    is.Perm (List.range n) ↔ is.Nodup ∧ ∀ i ∈ is, i < n := by
  constructor
  · intro h
    refine ⟨h.nodup_iff.mpr List.nodup_range, fun i hi => ?_⟩
    exact List.mem_range.mp (h.mem_iff.mp hi)
  · rintro ⟨hnodup, hlt⟩
    have hsub : is ⊆ List.range n := fun i hi => List.mem_range.mpr (hlt i hi)
    refine (List.subperm_of_subset hnodup hsub).perm_of_length_le ?_
    exact Nat.le_of_eq (by rw [List.length_range, hlen])

/-- The scores of `n` documents in their order: every result's score stands at its index. -/
structure InOrder (n : Nat) (results : List (RerankResult α)) (scores : List α) : Prop where
  length : scores.length = n
  placed : ∀ r ∈ results, scores[r.index]? = some r.score

/-- Where every document has a result, the results alone tell the scores. -/
theorem InOrder.unique {n : Nat} {results : List (RerankResult α)} {scores scores' : List α}
    (hperm : (results.map (·.index)).Perm (List.range n)) (h : InOrder n results scores)
    (h' : InOrder n results scores') : scores = scores' := by
  refine List.ext_getElem? fun i => ?_
  by_cases hi : i < n
  · obtain ⟨r, hr, rfl⟩ := List.mem_map.mp (hperm.mem_iff.mpr (List.mem_range.mpr hi))
    rw [h.placed r hr, h'.placed r hr]
  · rw [List.getElem?_eq_none (by rw [h.length]; omega),
      List.getElem?_eq_none (by rw [h'.length]; omega)]

/-! ## Answers of the service -/

section
variable {model : String} {unfilled : α} {n : Nat} {results : List (RerankResult α)}
  {scores : List α}

theorem scoresInInputOrder_of_length_ne (h : results.length ≠ n) :
    scoresInInputOrder model unfilled n results =
      .error (.lengthMismatch model n results.length) := by
  rw [scoresInInputOrder, if_neg h]

/-- Every document has a result in an answer that is taken, and no slot is left. -/
theorem inOrder_of_ok (h : scoresInInputOrder model unfilled n results = .ok scores) :
    (results.map (·.index)).Perm (List.range n) ∧ InOrder n results scores := by
  rw [scoresInInputOrder] at h
  split at h
  · rename_i hlen
    cases hfill : fillSlots (List.replicate n none) results with
    | error fault =>
      rw [hfill] at h
      cases h
    | ok filled =>
      rw [hfill] at h
      have hf := fills_of_fillSlots hfill
      rw [← Except.ok.inj h]
      refine ⟨(perm_range_iff (by rw [List.length_map, hlen])).mpr ⟨hf.distinct, ?_⟩, ?_, ?_⟩
      · intro i hi
        obtain ⟨r, hr, rfl⟩ := List.mem_map.mp hi
        exact getElem?_replicate_none.mp (hf.free r hr)
      · rw [List.length_map, hf.length, List.length_replicate]
      · intro r hr
        rw [List.getElem?_map, hf.placed r hr]
        rfl
  · cases h

theorem exists_ok_of_perm (model : String) (unfilled : α)
    (h : (results.map (·.index)).Perm (List.range n)) :
    ∃ scores, scoresInInputOrder model unfilled n results = .ok scores := by
  have hlen : (results.map (·.index)).length = n := by rw [h.length_eq, List.length_range]
  obtain ⟨hdistinct, hlt⟩ := (perm_range_iff hlen).mp h
  have hfree : ∀ r ∈ results, (List.replicate n (none : Option α))[r.index]? = some none :=
    fun r hr => getElem?_replicate_none.mpr (hlt r.index (List.mem_map.mpr ⟨r, hr, rfl⟩))
  obtain ⟨filled, hfill⟩ := exists_fillSlots hfree hdistinct
  rw [List.length_map] at hlen
  exact ⟨filled.map (·.getD unfilled), by rw [scoresInInputOrder, if_pos hlen, hfill]⟩

/-- A refused answer with the right number of results names an index that is to blame. -/
theorem exists_misplaced (model : String) (unfilled : α) (hlen : results.length = n)
    (h : (∃ r ∈ results, n ≤ r.index) ∨ ¬ (results.map (·.index)).Nodup) :
    ∃ fault, scoresInInputOrder model unfilled n results =
      .error (.invalidResponse .rerank fault) ∧ Misplaced n results fault := by
  rw [scoresInInputOrder, if_pos hlen]
  cases hfill : fillSlots (List.replicate n none) results with
  | ok filled =>
    have hf := fills_of_fillSlots hfill
    rcases h with ⟨r, hr, hle⟩ | hrepeat
    · have hlt := getElem?_replicate_none.mp (hf.free r hr)
      omega
    · exact absurd hf.distinct hrepeat
  | error fault =>
    refine ⟨fault, rfl, ?_⟩
    rcases misplaced_of_fillSlots hfill with hmis | ⟨r, -, -, score, hscore⟩
    · rwa [List.length_replicate] at hmis
    · rw [List.getElem?_replicate] at hscore
      split at hscore <;> cases hscore

end

/-! ## The client -/

namespace RerankClient

variable {m : Type → Type} [Monad m] [LawfulMonad m]

theorem scores_ensures (client : RerankClient m) (query : String) (documents : List String) :
    Ensures (client.scores query documents).run fun result =>
      ∀ scores, result = .ok scores → scores.length = documents.length := by
  unfold scores
  split
  · rename_i h
    refine Ensures.pure fun scores hs => ?_
    rw [← Except.ok.inj hs, List.isEmpty_iff.mp h]
    rfl
  · refine Ensures.bindExcept (Ensures.trivial _) (fun text _ => ?_)
      fun e _ scores hs => by cases hs
    cases readRerankAnswer? text with
    | none => exact Ensures.pure fun scores hs => by cases hs
    | some results => exact Ensures.pure fun scores hs => (inOrder_of_ok hs).2.length

/-- The client never returns a wrong number of scores. -/
theorem reranker_counts (client : RerankClient m) : client.reranker.Counts := by
  intro query texts
  refine (client.scores_ensures query texts).bind fun result hresult => ?_
  cases result with
  | error e => exact Ensures.pure fun scores hs => by cases hs
  | ok scores =>
    refine Ensures.pure fun scores' hs => ?_
    rw [← Except.ok.inj hs, List.length_map]
    exact hresult scores rfl

end RerankClient

/-! ## Scores put back -/

/-- What becomes of an answer that should score `n` documents. -/
structure PutBack (model : String) (unfilled : α) (n : Nat) (results : List (RerankResult α)) :
    Prop where
  /-- An answer is taken exactly if it scores each document once. -/
  taken_iff : (∃ scores, scoresInInputOrder model unfilled n results = .ok scores) ↔
    (results.map (·.index)).Perm (List.range n)
  inOrder : ∀ scores, scoresInInputOrder model unfilled n results = .ok scores →
    InOrder n results scores
  /-- Neither the order of the results nor what stands for an unfilled slot matters. -/
  reordered : ∀ scores, scoresInInputOrder model unfilled n results = .ok scores →
    ∀ results' unfilled', results'.Perm results →
      scoresInInputOrder model unfilled' n results' = .ok scores
  wrongLength : results.length ≠ n → scoresInInputOrder model unfilled n results =
    .error (.lengthMismatch model n results.length)
  wrongIndex : results.length = n →
    ((∃ r ∈ results, n ≤ r.index) ∨ ¬ (results.map (·.index)).Nodup) →
    ∃ fault, scoresInInputOrder model unfilled n results =
      .error (.invalidResponse .rerank fault) ∧ Misplaced n results fault

/-- **Scores are put back exactly, and a client's answers need no check of their length.** -/
theorem scores_put_back :
    (∀ (α : Type) (model : String) (unfilled : α) (n : Nat) (results : List (RerankResult α)),
      PutBack model unfilled n results) ∧
    ∀ (m : Type → Type) [Monad m] [LawfulMonad m] (client : RerankClient m) (query : String)
      (texts : List String), client.reranker.scoreAll query texts =
        if texts.isEmpty then pure [] else ExceptT.mk (client.reranker.score query texts) := by
  refine ⟨fun α model unfilled n results => ?_, fun m _ _ client =>
    Reranker.scoreAll_unchecked client.reranker_counts⟩
  constructor
  case taken_iff =>
    constructor
    · rintro ⟨scores, h⟩
      exact (inOrder_of_ok h).1
    · exact exists_ok_of_perm model unfilled
  case inOrder => exact fun scores h => (inOrder_of_ok h).2
  case reordered =>
    intro scores h results' unfilled' hperm
    obtain ⟨hall, horder⟩ := inOrder_of_ok h
    have hall' := (hperm.map (·.index)).trans hall
    obtain ⟨scores', h'⟩ := exists_ok_of_perm model unfilled' hall'
    have horder' : InOrder n results scores' := by
      obtain ⟨hlen, hplaced⟩ := (inOrder_of_ok h').2
      exact ⟨hlen, fun r hr => hplaced r (hperm.mem_iff.mpr hr)⟩
    rw [h', horder.unique hall horder']
  case wrongLength => exact scoresInInputOrder_of_length_ne
  case wrongIndex => exact exists_misplaced model unfilled

/-- Two scores in the order of relevance, the second document first. -/
theorem two_scores_put_back :
    scoresInInputOrder "reranker" 0 2 [⟨1, 7⟩, ⟨0, 9⟩] = .ok [9, 7] ∧
      scoresInInputOrder "reranker" 1 2 [⟨0, 9⟩, ⟨1, 7⟩] = .ok [9, 7] ∧
      (RerankClient.reranker (m := Id) ⟨.default, .unreachable, id⟩).scoreAll "q" ["a", "b"] =
        ExceptT.mk ((RerankClient.reranker (m := Id) ⟨.default, .unreachable, id⟩).score "q"
          ["a", "b"]) := by
  obtain ⟨hback, hclient⟩ := scores_put_back
  have h : scoresInInputOrder "reranker" 0 2 [⟨1, 7⟩, ⟨0, 9⟩] = .ok [9, 7] := rfl
  have hswap := (hback Nat "reranker" 0 2 [⟨1, 7⟩, ⟨0, 9⟩]).reordered [9, 7] h
    [⟨0, 9⟩, ⟨1, 7⟩] 1 (List.Perm.swap _ _ [])
  exact ⟨h, hswap, hclient Id ⟨.default, .unreachable, id⟩ "q" ["a", "b"]⟩

end EvidenceRank.Service
