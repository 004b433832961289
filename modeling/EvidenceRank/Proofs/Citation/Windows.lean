import EvidenceRank.Lists.Adjacent
import EvidenceRank.Proofs.Citation.Arrangement
import Mathlib.Data.List.Chain

/-!
# Windows of slices

Connecting cuts the slices of a document, in the order of their numbers, into runs. A run holds
consecutive numbers, and none of its slices outranks the first one; it ends where the next slice
would break either rule (`Parted`). So a slice and its successor stand in one run unless the
successor outranks the slice, and they stay together when the runs are put in the order of their
ranks.

Results:
* `runs_isRun`, `runs_parted`: what runs are, and where they end.
* `rank_lt_iff`: ranks are places in the list.
* `windows_pairwise`: runs stand in the order of their ranks.
* `connect_infix`: the successor of a slice that ranks ahead of it stands right behind it.
* `arrange_infix`: so it does after trimming, if both are left.
-/

namespace EvidenceRank.Citation

variable {σ : Type}

/-! ## Runs -/

/-- Slices with consecutive numbers, of which none outranks the first. -/
structure IsRun (run : List (Placed σ)) : Prop where
  ne_nil : run ≠ []
  consecutive : run.IsChain fun a b => a.2.no.toInt + 1 = b.2.no.toInt
  headed : ∀ head ∈ run.head?, ∀ s ∈ run, head.1 ≤ s.1

/-- The first slice of the run `s` does not continue the run `r`. -/
def Parted (r s : List (Placed σ)) : Prop :=
  ∀ head ∈ r.head?, ∀ last ∈ r.getLast?, ∀ next ∈ s.head?, continues head last next = false

theorem continues_iff {head last next : Placed σ} : continues head last next = true ↔
    last.2.no.toInt + 1 = next.2.no.toInt ∧ head.1 ≤ next.1 := by
  unfold continues
  rw [Bool.and_eq_true, beq_iff_eq, decide_eq_true_eq]

theorem isRun_singleton (s : Placed σ) : IsRun [s] where
  ne_nil := List.cons_ne_nil s []
  consecutive := List.isChain_singleton s
  headed := by simp

theorem IsRun.concat {run : List (Placed σ)} {head last next : Placed σ} (h : IsRun run)
    (hhead : run.head? = some head) (hlast : run.getLast? = some last)
    (hnext : continues head last next = true) : IsRun (run ++ [next]) := by
  obtain ⟨hnumber, hrank⟩ := continues_iff.mp hnext
  constructor
  case ne_nil => exact List.append_ne_nil_of_right_ne_nil run (List.cons_ne_nil next [])
  case consecutive =>
    refine h.consecutive.append (List.isChain_singleton next) fun a ha b hb => ?_
    rw [hlast] at ha
    obtain rfl := Option.mem_some.mp ha
    obtain rfl := Option.mem_some.mp hb
    exact hnumber
  case headed =>
    intro first hfirst s hs
    rw [List.head?_append, hhead] at hfirst
    obtain rfl := Option.mem_some.mp hfirst
    rcases List.mem_append.mp hs with hs | hs
    · exact h.headed head hhead s hs
    · obtain rfl := List.mem_singleton.mp hs
      exact hrank

/-- **Cutting on from a run**: the run that comes first starts as this one does, and all that come
are runs, each parted from the next. -/
theorem runsFrom_isRun {head : Placed σ} {run : List (Placed σ)} (slices : List (Placed σ))
    (h : IsRun run.reverse) (hhead : run.reverse.head? = some head) :
    ∃ first rest, runsFrom head run slices = first :: rest ∧ first.head? = some head ∧
      (∀ r ∈ first :: rest, IsRun r) ∧ (first :: rest).IsChain Parted := by
  induction slices generalizing head run with
  | nil =>
    refine ⟨run.reverse, [], rfl, hhead, fun r hr => ?_, List.isChain_singleton _⟩
    rw [List.mem_singleton.mp hr]
    exact h
  | cons s slices ih =>
    rw [runsFrom]
    split
    · rename_i hany
      obtain ⟨last, hlast, hnext⟩ := Option.any_eq_true _ _ |>.mp hany
      have hrun := h.concat hhead (List.getLast?_reverse.trans hlast) hnext
      rw [← List.reverse_cons] at hrun
      refine ih hrun ?_
      rw [List.reverse_cons, List.head?_append, hhead]
      rfl
    · rename_i hany
      have hs : IsRun [s].reverse := isRun_singleton s
      obtain ⟨first, rest, heq, hfirst, hruns, hchain⟩ := ih hs rfl
      refine ⟨run.reverse, first :: rest, by rw [heq], hhead, ?_, ?_⟩
      · exact List.forall_mem_cons.mpr ⟨h, hruns⟩
      · refine List.isChain_cons_cons.mpr ⟨fun a ha b hb c hc => ?_, hchain⟩
        rw [hhead] at ha
        rw [hfirst] at hc
        obtain rfl := Option.mem_some.mp ha
        obtain rfl := Option.mem_some.mp hc
        rw [List.getLast?_reverse] at hb
        exact Bool.eq_false_iff.mpr fun hnext => hany (Option.any_eq_true _ _ |>.mpr ⟨b, hb, hnext⟩)

theorem runs_isRun {slices r : List (Placed σ)} (h : r ∈ runs slices) : IsRun r := by
  cases slices with
  | nil => exact absurd h List.not_mem_nil
  | cons s slices =>
    have hs : IsRun [s].reverse := isRun_singleton s
    obtain ⟨first, rest, heq, -, hruns, -⟩ := runsFrom_isRun slices hs rfl
    exact hruns r (heq ▸ h)

theorem runs_parted (slices : List (Placed σ)) : (runs slices).IsChain Parted := by
  cases slices with
  | nil => exact List.isChain_nil
  | cons s slices =>
    have hs : IsRun [s].reverse := isRun_singleton s
    obtain ⟨first, rest, heq, -, -, hchain⟩ := runsFrom_isRun slices hs rfl
    rw [runs, heq]
    exact hchain

/-- **A slice and its successor are in one run**, unless the successor outranks it. -/
theorem infix_of_runs {slices : List (Placed σ)} {a x : Placed σ} (h : [a, x] <:+: slices)
    (hnext : a.2.no.toInt + 1 = x.2.no.toInt) (hrank : a.1 ≤ x.1) :
    ∃ r ∈ runs slices, [a, x] <:+: r := by
  rw [← flatten_runs slices] at h
  rcases Lists.infix_flatten (fun r hr => (runs_isRun hr).ne_nil) h with h | ⟨r, s, hrs, hlast, hx⟩
  · exact h
  · -- `r` ends with `a` and `x` comes next, but `x` would continue `r`
    have hr := runs_isRun (hrs.subset List.mem_cons_self)
    have hpair : [r, s].IsChain Parted := List.IsChain.infix (runs_parted slices) hrs
    have hparted : Parted r s := List.isChain_pair.mp hpair
    obtain ⟨head, rest, rfl⟩ := List.exists_cons_of_ne_nil hr.ne_nil
    have hhead : head.1 ≤ a.1 := hr.headed head rfl a (List.mem_of_getLast? hlast)
    have hfalse := hparted head rfl a hlast x hx
    rw [continues_iff.mpr ⟨hnext, hhead.trans hrank⟩] at hfalse
    exact absurd hfalse Bool.true_eq_false.mp

/-! ## Connecting -/

theorem placed_pairwise (slices : List (CitedSlice σ)) :
    (placed slices).Pairwise fun a b => a.1 < b.1 := by
  have h : ((placed slices).map (·.1)).Pairwise (· < ·) := by
    unfold placed
    rw [List.map_fst_zip (Nat.le_of_eq List.length_range)]
    exact List.pairwise_lt_range
  exact List.pairwise_map.mp h

variable {max : Nat} {slices : List (CitedSlice σ)} {a x : CitedSlice σ}

theorem placed_pairwise_no (h : slices.Pairwise fun s t => s.no ≠ t.no) :
    (placed slices).Pairwise fun s t => s.2.no ≠ t.2.no := by
  rw [← map_placed slices, List.pairwise_map] at h
  exact h

theorem byNumber_pairwise (h : slices.Pairwise fun s t => s.no ≠ t.no) :
    (byNumber slices).Pairwise fun a b => a.2.no.toInt < b.2.no.toInt :=
  Lists.rankBy_ascending ((placed_pairwise_no h).imp fun hne heq => hne (Int64.toInt_inj.mp heq))

theorem mem_of_mem_placed {p : Placed σ} (h : p ∈ placed slices) : p.2 ∈ slices := by
  rw [← map_placed slices]
  exact List.mem_map_of_mem h

theorem exists_placed {s : CitedSlice σ} (h : s ∈ slices) : ∃ p ∈ placed slices, p.2 = s := by
  rw [← map_placed slices] at h
  exact List.mem_map.mp h

/-- Where the numbers differ, they tell the places apart. -/
theorem eq_of_placed (h : slices.Pairwise fun s t => s.no ≠ t.no) {p q : Placed σ}
    (hp : p ∈ placed slices) (hq : q ∈ placed slices) (heq : p.2.no = q.2.no) : p = q :=
  Lists.eq_of_pairwise_not (R := fun s t => s.2.no = t.2.no) Eq.symm (placed_pairwise_no h) hp hq
    heq

/-- A slice ranks ahead of those that stand behind it. -/
theorem rank_lt_iff (hno : slices.Pairwise fun s t => s.no ≠ t.no) {p q : Placed σ}
    (hp : p ∈ placed slices) (hq : q ∈ placed slices) :
    p.1 < q.1 ↔ [p.2, q.2].Sublist slices := by
  have hpair {r s : Placed σ} (h : [r, s].Sublist (placed slices)) : r.1 < s.1 :=
    List.pairwise_iff_forall_sublist.mp (placed_pairwise slices) h
  constructor
  · intro hlt
    have hne : p ≠ q := fun heq => Nat.lt_irrefl _ (heq ▸ hlt)
    rcases Lists.pair_sublist_or hp hq hne with h | h
    · have hmap := h.map (·.2)
      rwa [map_placed] at hmap
    · exact absurd hlt (Nat.lt_asymm (hpair h))
  · intro h
    rw [← map_placed slices] at h
    obtain ⟨ps, hps, heq⟩ := List.sublist_map_iff.mp h
    obtain ⟨p', ps, rfl, hp', hrest⟩ := List.map_eq_cons_iff.mp heq.symm
    obtain ⟨q', ps, rfl, hq', hnil⟩ := List.map_eq_cons_iff.mp hrest
    obtain rfl := List.map_eq_nil_iff.mp hnil
    obtain rfl := eq_of_placed hno (hps.mem List.mem_cons_self) hp (congrArg CitedSlice.no hp')
    obtain rfl := eq_of_placed hno (hps.mem (List.mem_cons_of_mem p' List.mem_cons_self)) hq
      (congrArg CitedSlice.no hq')
    exact hpair hps

theorem mem_byNumber {p : Placed σ} : p ∈ byNumber slices ↔ p ∈ placed slices :=
  (Lists.rankBy_perm _ _).mem_iff

theorem mem_flatten_windows {p : Placed σ} : p ∈ (windows slices).flatten ↔ p ∈ placed slices :=
  (windows_perm slices).mem_iff

theorem mem_placed_of_mem {w : List (Placed σ)} {p : Placed σ} (hw : w ∈ windows slices)
    (hp : p ∈ w) : p ∈ placed slices :=
  mem_flatten_windows.mp (List.mem_flatten.mpr ⟨w, hw, hp⟩)

theorem windows_nodup (slices : List (CitedSlice σ)) : (windows slices).flatten.Nodup :=
  (windows_perm slices).nodup_iff.mpr ((placed_pairwise slices).imp fun {p q} hlt heq => by
    rw [heq] at hlt
    exact Nat.lt_irrefl _ hlt)

theorem mem_windows {w : List (Placed σ)} : w ∈ windows slices ↔ w ∈ runs (byNumber slices) :=
  (Lists.rankBy_perm _ _).mem_iff

theorem isRun_of_mem_windows {w : List (Placed σ)} (h : w ∈ windows slices) : IsRun w :=
  runs_isRun (mem_windows.mp h)

/-- Runs stand in the order of their ranks. -/
theorem windows_pairwise (slices : List (CitedSlice σ)) :
    (windows slices).Pairwise fun r s => runRank r ≤ runRank s := by
  have hcast : (fun r s : List (Placed σ) => decide (runRank r < runRank s)) =
      fun r s => decide ((runRank r : Int) < runRank s) := by
    funext r s
    rw [decide_eq_decide, Int.ofNat_lt]
  have htrue : (runs (byNumber slices)).Pairwise fun _ _ => True :=
    List.pairwise_of_forall fun _ _ => trivial
  unfold windows
  rw [hcast]
  refine (Lists.rankBy_pairwise (Lists.WeaklyOrders.of_num (fun r => (runRank r : Int)) _)
    htrue).imp fun {r s} hlead => ?_
  rcases hlead with hlt | ⟨hnlt, -⟩
  · exact Int.ofNat_le.mp (Int.le_of_lt (of_decide_eq_true hlt))
  · exact Int.ofNat_le.mp (Int.not_lt.mp (of_decide_eq_false hnlt))

/-- **The successor of a slice that ranks ahead of it stands right behind it.** -/
theorem connect_infix (hno : slices.Pairwise fun s t => s.no ≠ t.no) (h : [a, x].Sublist slices)
    (hnext : a.no.toInt + 1 = x.no.toInt) (hx : x ∈ connect max slices) :
    [a, x] <:+: connect max slices := by
  obtain ⟨p, hp, rfl⟩ := exists_placed (h.mem List.mem_cons_self)
  obtain ⟨q, hq, rfl⟩ := exists_placed (h.mem (List.mem_cons_of_mem p.2 List.mem_cons_self))
  have hrank : p.1 < q.1 := (rank_lt_iff hno hp hq).mpr h
  have hadjacent : [p, q] <:+: byNumber slices :=
    Lists.infix_of_consecutive (byNumber_pairwise hno) (mem_byNumber.mpr hp) (mem_byNumber.mpr hq)
      hnext
  obtain ⟨r, hr, hpq⟩ := infix_of_runs hadjacent hnext (Nat.le_of_lt hrank)
  have hflat : [p, q] <:+: (windows slices).flatten :=
    hpq.trans (List.infix_of_mem_flatten (mem_windows.mpr hr))
  have htake : q ∈ (windows slices).flatten.take max := by
    obtain ⟨q', hq', heq⟩ := List.mem_map.mp hx
    have hplaced : q' ∈ placed slices := mem_flatten_windows.mp (List.mem_of_mem_take hq')
    exact eq_of_placed hno hplaced hq (congrArg CitedSlice.no heq) ▸ hq'
  rw [connect_eq]
  exact (Lists.infix_take (windows_nodup slices) hflat htake).map (·.2)

/-! ## Trimming -/

theorem mem_of_mem_connect {s : CitedSlice σ} (h : s ∈ connect max slices) : s ∈ slices := by
  rw [connect_eq_take] at h
  exact (connected_perm slices).mem_iff.mp (List.mem_of_mem_take h)

/-- **In a citation of a document that is not the scoped one**, the successor of a slice that ranks
ahead of it stands right behind it, if both are left. -/
theorem arrange_infix (hno : slices.Pairwise fun s t => s.no ≠ t.no) (h : [a, x].Sublist slices)
    (hnext : a.no.toInt + 1 = x.no.toInt) (ha : a ∈ arrange max false slices)
    (hx : x ∈ arrange max false slices) : [a, x] <:+: arrange max false slices := by
  have hsub : (trimTail max slices).Sublist slices := trimFrom_sublist max slices.length slices
  have hnodup : slices.Nodup := hno.imp fun hne heq => hne (congrArg CitedSlice.no heq)
  have hleft : [a, x].Sublist (trimTail max slices) :=
    Lists.sublist_of_mem hnodup hsub h (mem_of_mem_connect ha) (mem_of_mem_connect hx)
  exact connect_infix (hno.sublist hsub) hleft hnext hx

end EvidenceRank.Citation
