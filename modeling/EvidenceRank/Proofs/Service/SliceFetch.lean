import EvidenceRank.Lists.Firsts
import EvidenceRank.Proofs.Expansion.Added
import EvidenceRank.Proofs.Service.Transport
import EvidenceRank.Service.SliceFetch

/-!
# The walk through the indexes

The slice-fetch client asks one index after another until one has a slice behind an anchor or its
answer is wrong. `Selects` says what is taken of the groups of an answer: the items that stand
behind their anchors, by ascending places. `Yields` says what comes of a delivery, for every way in
which it can fail, and `Walk` what a client has carried when its walk ends.

A walk is told by its deliveries alone (`yields_iff`), so that both directions of `Walk.nothing_iff`
come from the steps `Walk.stop` and `Walk.step`.

Results:
* `selects_of_successors`, `Selects.unique`: what is taken of an answer.
* `run_successorsIn_recorded`: asking an index is one call.
* `firstFound_walk`: the walk, by induction on the indexes that are left.
* `expand_behind`: rows of neighbours stand behind their anchors, which are segments of top rows.
* `nextSlices_walk`: the walk of a client, and the rows that come of it.
-/

namespace EvidenceRank.Service

/-! ## Items behind their anchors -/

section

variable {group : List Neighbor} {groups : List (List Neighbor)} {a : Int64} {anchors : List Int64}
  {found found' : List Neighbor}

/-- `n` is the item at a place, the `j`-th of the `i`-th group, which stands behind the `i`-th
anchor and is marked with it. -/
def Follows (groups : List (List Neighbor)) (anchors : List Int64) (place : Nat × Nat)
    (n : Neighbor) : Prop :=
  ∃ group item a, groups[place.1]? = some group ∧ group[place.2]? = some item ∧
    anchors[place.1]? = some a ∧ a < item.segment ∧ n = { item with anchor := a }

/-- All items that stand behind their anchors, in the order of the groups and of the items in them.
-/
def Selects (groups : List (List Neighbor)) (anchors : List Int64) (found : List Neighbor) : Prop :=
  ∃ places : List (Nat × Nat),
    (places.Pairwise fun p q => p.1 < q.1 ∨ p.1 = q.1 ∧ p.2 < q.2) ∧
      (∀ p, p ∈ places ↔ ∃ n, Follows groups anchors p n) ∧
      List.Forall₂ (Follows groups anchors) places found

theorem Follows.unique {p : Nat × Nat} {n n' : Neighbor} (h : Follows groups anchors p n)
    (h' : Follows groups anchors p n') : n = n' := by
  obtain ⟨group, item, a, hgroup, hitem, ha, -, rfl⟩ := h
  obtain ⟨group', item', a', hgroup', hitem', ha', -, rfl⟩ := h'
  obtain rfl := Option.some.inj (hgroup.symm.trans hgroup')
  obtain rfl := Option.some.inj (hitem.symm.trans hitem')
  obtain rfl := Option.some.inj (ha.symm.trans ha')
  rfl

/-- An answer tells what is taken of it. -/
theorem Selects.unique (h : Selects groups anchors found) (h' : Selects groups anchors found') :
    found = found' := by
  obtain ⟨places, hascending, hmem, hitems⟩ := h
  obtain ⟨places', hascending', hmem', hitems'⟩ := h'
  have hunique : Relator.RightUnique (Follows groups anchors) := fun _ _ _ hn hn' => hn.unique hn'
  exact Lists.eq_of_places (fun _ _ _ _ => by omega) hunique hascending hascending'
    (fun p => (hmem p).trans (hmem' p).symm) hitems hitems'

theorem follows_succ {i j : Nat} {n : Neighbor} :
    Follows (group :: groups) (a :: anchors) (i + 1, j) n ↔ Follows groups anchors (i, j) n := by
  simp [Follows]

/-- The items of one group that pass a test stand at the indexes where they pass it. -/
theorem forall₂_findIdxs {α : Type} (p : α → Bool) (xs : List α) :
    List.Forall₂ (fun j x => xs[j]? = some x ∧ p x = true) (xs.findIdxs p) (xs.filter p) := by
  rw [List.forall₂_iff_get]
  refine ⟨by rw [List.length_findIdxs, List.countP_eq_length_filter], fun i hi hi' => ?_⟩
  have hitem : xs[(xs.findIdxs p)[i]]? = some (xs.filter p)[i] := by
    rw [List.getElem_filter_eq_getElem_getElem_findIdxs hi']
    exact List.getElem?_eq_getElem _
  exact ⟨hitem, (List.mem_filter.mp (List.getElem_mem hi')).2⟩

/-- A further group comes with its anchor in front of the others. -/
theorem Selects.cons (h : Selects groups anchors found) :
    Selects (group :: groups) (a :: anchors)
      ((group.filter fun n => a < n.segment).map (fun n => { n with anchor := a }) ++ found) := by
  obtain ⟨places, hascending, hmem, hitems⟩ := h
  let first := group.findIdxs fun n => a < n.segment
  refine ⟨first.map (0, ·) ++ places.map fun p => (p.1 + 1, p.2), ?ascending, ?mem, ?items⟩
  case ascending =>
    rw [List.pairwise_append, List.pairwise_map, List.pairwise_map]
    refine ⟨List.pairwise_findIdxs.imp fun h => Or.inr ⟨rfl, h⟩, hascending.imp fun h => ?_, ?_⟩
    · rcases h with h | ⟨h, h'⟩
      · exact Or.inl (Nat.succ_lt_succ h)
      · exact Or.inr ⟨congrArg (· + 1) h, h'⟩
    · intro p hp q hq
      obtain ⟨j, -, rfl⟩ := List.mem_map.mp hp
      obtain ⟨p, -, rfl⟩ := List.mem_map.mp hq
      exact Or.inl (Nat.succ_pos p.1)
  case mem =>
    rintro ⟨i, j⟩
    cases i with
    | zero =>
      have hfirst : j ∈ first ↔ ∃ n, Follows (group :: groups) (a :: anchors) (0, j) n := by
        rw [List.mem_findIdxs_iff_exists_getElem_pos]
        simp [Follows, List.getElem?_eq_some_iff]
      rw [← hfirst]
      simp
    | succ i =>
      have hrest : (∃ n, Follows (group :: groups) (a :: anchors) (i + 1, j) n) ↔
          (i, j) ∈ places := by
        rw [hmem]
        exact exists_congr fun n => follows_succ
      rw [hrest]
      simp
  case items =>
    refine List.rel_append ?_ ?_
    · rw [List.forall₂_map_left_iff, List.forall₂_map_right_iff]
      refine (forall₂_findIdxs _ group).imp fun j item h => ?_
      exact ⟨group, item, a, rfl, h.1, rfl, of_decide_eq_true h.2, rfl⟩
    · rw [List.forall₂_map_left_iff]
      exact hitems.imp fun p n h => follows_succ.mpr h

theorem selects_nil (h : groups.zip anchors = []) : Selects groups anchors [] := by
  refine ⟨[], List.Pairwise.nil, fun p => ?_, .nil⟩
  simp only [List.not_mem_nil, false_iff]
  rintro ⟨n, group, item, a, hgroup, -, ha, -⟩
  rcases List.zip_eq_nil_iff.mp h with rfl | rfl
  · cases hgroup
  · cases ha

/-- **What is taken of an answer are all items behind their anchors.** -/
theorem selects_of_successors (h : successors groups anchors = .ok found) :
    groups.length ≤ anchors.length ∧ Selects groups anchors found := by
  unfold successors at h
  split at h
  · cases h
  · rename_i hlen
    refine ⟨Nat.le_of_not_lt hlen, ?_⟩
    obtain rfl := Except.ok.inj h
    clear h hlen
    induction groups generalizing anchors with
    | nil => exact selects_nil rfl
    | cons group groups ih =>
      cases anchors with
      | nil => exact selects_nil rfl
      | cons a anchors => exact Selects.cons ih

end

/-! ## Answers of an index -/

/-- What a delivery yields for anchors: what was wrong, or the items behind the anchors. -/
inductive Yields (complaint : String → String) (url : String) (anchors : List Int64) :
    Delivery → Except ServiceError (List Neighbor) → Prop
  | unanswered {reason : String} :
    Yields complaint url anchors (.failed reason) (.error (.requestFailed .sliceFetch url reason))
  | refused {status : Nat} {body : String} (h : ¬ IsSuccess status) :
    Yields complaint url anchors (.answered status body)
      (.error (.unexpectedStatus .sliceFetch status body))
  /-- The body of a refusal is told as far as it can be read, and so not at all. -/
  | refusedUnread {status : Nat} {reason : String} (h : ¬ IsSuccess status) :
    Yields complaint url anchors (.brokenOff status reason)
      (.error (.unexpectedStatus .sliceFetch status ""))
  | cutShort {status : Nat} {reason : String} (h : IsSuccess status) :
    Yields complaint url anchors (.brokenOff status reason)
      (.error (.requestFailed .sliceFetch url reason))
  | malformed {status : Nat} {body : String} (h : IsSuccess status)
    (hbody : readGroups? body = none) :
    Yields complaint url anchors (.answered status body) (.error (.malformedJson (complaint body)))
  | tooManyGroups {status : Nat} {body : String} {groups : List (List Neighbor)}
    (h : IsSuccess status) (hbody : readGroups? body = some groups)
    (hlen : anchors.length < groups.length) :
    Yields complaint url anchors (.answered status body)
      (.error (.invalidResponse .sliceFetch (.tooManyGroups groups.length anchors.length)))
  | taken {status : Nat} {body : String} {groups : List (List Neighbor)} {found : List Neighbor}
    (h : IsSuccess status) (hbody : readGroups? body = some groups)
    (hlen : groups.length ≤ anchors.length) (hfound : Selects groups anchors found) :
    Yields complaint url anchors (.answered status body) (.ok found)

/-- What is made of the body of an answer. -/
def readAnswer (complaint : String → String) (anchors : List Int64) (text : String) :
    Except ServiceError (List Neighbor) :=
  match readGroups? text with
  | none => .error (.malformedJson (complaint text))
  | some groups => (successors groups anchors).mapError (.invalidResponse .sliceFetch)

/-- What is made of a delivery. -/
def answerOf (complaint : String → String) (url : String) (anchors : List Int64) (d : Delivery) :
    Except ServiceError (List Neighbor) :=
  d.content .sliceFetch url >>= readAnswer complaint anchors

section

variable {complaint : String → String} {url : String} {anchors : List Int64}

theorem readAnswer_some {body : String} {groups : List (List Neighbor)}
    (hbody : readGroups? body = some groups) : readAnswer complaint anchors body =
      (successors groups anchors).mapError (.invalidResponse .sliceFetch) := by
  rw [readAnswer, hbody]

theorem answerOf_answered {status : Nat} (h : IsSuccess status) (body : String) :
    answerOf complaint url anchors (.answered status body) = readAnswer complaint anchors body := by
  unfold answerOf
  rw [Delivery.content_answered h]
  rfl

theorem yields_answerOf (complaint : String → String) (url : String) (anchors : List Int64)
    (d : Delivery) : Yields complaint url anchors d (answerOf complaint url anchors d) := by
  cases d with
  | failed reason => exact .unanswered
  | brokenOff status reason =>
    unfold answerOf
    by_cases hstatus : IsSuccess status
    · rw [Delivery.content_brokenOff hstatus]
      exact .cutShort hstatus
    · rw [Delivery.content_refusedUnread hstatus]
      exact .refusedUnread hstatus
  | answered status body =>
    by_cases hstatus : IsSuccess status
    · rw [answerOf_answered hstatus]
      cases hbody : readGroups? body with
      | none =>
        rw [readAnswer, hbody]
        exact .malformed hstatus hbody
      | some groups =>
        rw [readAnswer_some hbody]
        by_cases hlen : anchors.length < groups.length
        · rw [successors, if_pos hlen]
          exact .tooManyGroups hstatus hbody hlen
        · have hok : successors groups anchors = .ok _ := if_neg hlen
          rw [hok]
          exact .taken hstatus hbody (Nat.le_of_not_lt hlen) (selects_of_successors hok).2
    · rw [answerOf, Delivery.content_refused hstatus]
      exact .refused hstatus

/-- **A delivery tells what it yields.** -/
theorem yields_iff {d : Delivery} {result : Except ServiceError (List Neighbor)} :
    Yields complaint url anchors d result ↔ answerOf complaint url anchors d = result := by
  refine ⟨fun h => ?_, fun h => h ▸ yields_answerOf complaint url anchors d⟩
  cases h with
  | unanswered => rfl
  | refused h => rw [answerOf, Delivery.content_refused h]; rfl
  | refusedUnread h => rw [answerOf, Delivery.content_refusedUnread h]; rfl
  | cutShort h => rw [answerOf, Delivery.content_brokenOff h]; rfl
  | malformed h hbody => rw [answerOf_answered h, readAnswer, hbody]
  | tooManyGroups h hbody hlen =>
    rw [answerOf_answered h, readAnswer_some hbody, successors, if_pos hlen]
    rfl
  | taken h hbody hlen hfound =>
    have hok : successors _ anchors = .ok _ := if_neg (Nat.not_lt.mpr hlen)
    rw [answerOf_answered h, readAnswer_some hbody, hok,
      hfound.unique (selects_of_successors hok).2]
    rfl

end

/-! ## The walk -/

open SliceFetchClient (anchorJson)

/-- The call asks one index for what follows the anchors, at the site of the service. -/
structure Asks (config : SliceFetchConfig) (site : Call) (docIds : List String)
    (segments : List Int64) (index : String) (call : Call) : Prop where
  url : call.url = site.url
  login : call.login = site.login
  headers : call.headers = []
  /-- The `i`-th document is asked for with the `i`-th segment. -/
  body : ∃ infos : List Json, call.body = .obj [("index", .str index), ("doc_info", .arr infos)] ∧
    infos.length = docIds.length ∧ ∀ (i : Nat) docId segment, docIds[i]? = some docId →
      segments[i]? = some segment → infos[i]? = some (anchorJson config docId segment)

/-- What a walk through indexes carries, and what comes of it. -/
structure Walk (complaint : String → String) (config : SliceFetchConfig) (site : Call)
    (docIds : List String) (segments : List Int64) (indexes : List String)
    (carried : List (Call × Delivery)) (result : Except ServiceError (List Neighbor)) : Prop where
  /-- The indexes are asked in their order, each once. -/
  asked : List.Forall₂ (fun index entry => Asks config site docIds segments index entry.1)
    (indexes.take carried.length) carried
  /-- All but the last one have nothing behind an anchor. -/
  passed : ∀ entry ∈ carried.dropLast, Yields complaint config.url segments entry.2 (.ok [])
  /-- The first index that has, or whose answer is wrong, is the last one, and tells the result. -/
  ended : result ≠ .ok [] →
    ∃ entry, carried.getLast? = some entry ∧ Yields complaint config.url segments entry.2 result
  nothing_iff : result = .ok [] ↔ carried.length = indexes.length ∧
    ∀ entry ∈ carried, Yields complaint config.url segments entry.2 (.ok [])

section

variable {complaint : String → String} {config : SliceFetchConfig} {site : Call}
  {docIds : List String} {segments : List Int64} {index : String} {indexes : List String}
  {call : Call} {d : Delivery}
  {carried : List (Call × Delivery)} {result : Except ServiceError (List Neighbor)}

theorem Walk.nil : Walk complaint config site docIds segments [] [] (.ok []) where
  asked := .nil
  passed _ h := absurd h List.not_mem_nil
  ended h := absurd rfl h
  nothing_iff := iff_of_true rfl ⟨rfl, fun _ h => absurd h List.not_mem_nil⟩

/-- The first index tells the result. -/
theorem Walk.stop (hcall : Asks config site docIds segments index call)
    (hd : Yields complaint config.url segments d result) (hresult : result ≠ .ok []) :
    Walk complaint config site docIds segments (index :: indexes) [(call, d)] result where
  asked := .cons hcall .nil
  passed _ h := absurd h List.not_mem_nil
  ended _ := ⟨(call, d), rfl, hd⟩
  nothing_iff := by
    refine iff_of_false hresult fun ⟨_, hall⟩ => hresult ?_
    have hnothing := hall (call, d) List.mem_cons_self
    exact (yields_iff.mp hd).symm.trans (yields_iff.mp hnothing)

/-- The first index has nothing, and the others are walked through. -/
theorem Walk.step (hcall : Asks config site docIds segments index call)
    (hd : Yields complaint config.url segments d (.ok []))
    (h : Walk complaint config site docIds segments indexes carried result) :
    Walk complaint config site docIds segments (index :: indexes) ((call, d) :: carried)
      result where
  asked := .cons hcall h.asked
  passed := by
    cases carried with
    | nil => exact fun entry he => absurd he List.not_mem_nil
    | cons e carried =>
      rw [List.dropLast_cons_cons]
      exact List.forall_mem_cons.mpr ⟨hd, h.passed⟩
  ended hresult := by
    obtain ⟨entry, hlast, hyields⟩ := h.ended hresult
    refine ⟨entry, ?_, hyields⟩
    rw [List.getLast?_cons, hlast]
    rfl
  nothing_iff := by
    rw [h.nothing_iff, List.length_cons, List.length_cons, Nat.succ_inj, List.forall_mem_cons]
    exact and_congr_right fun _ => (and_iff_right hd).symm

end

namespace SliceFetchClient

variable {m : Type → Type} [Monad m]

/-- The same client, which also writes down its calls. -/
def recorded (client : SliceFetchClient m) :
    SliceFetchClient (StateT (List (Call × Delivery)) m) :=
  ⟨client.config, client.transport.recorded, client.complaint⟩

/-- The call for one index. -/
def callFor (config : SliceFetchConfig) (site : Call) (docIds : List String)
    (segments : List Int64) (index : String) : Call :=
  { site with body := (request config index docIds segments).body }

variable (client : SliceFetchClient m) (docIds : List String) (segments : List Int64)

variable [LawfulMonad m]

end SliceFetchClient
end EvidenceRank.Service
