import EvidenceRank.Proofs.Citation.Windows

/-!
# The order of connected slices

Slices from which consecutive numbers lead up to that of `x` are below it in its stretch. `x` heads
a run exactly if it ranks ahead of all of these (`HeadsRun`), although the cut compares it with the
head of the run in front alone: that run was itself cut off because its head outranks the run before
it, and so on down the stretch.

Slices are in order (`Windowed`) if those that head no run stand right behind their predecessors and
those that do in the order of their ranks. Slices with different numbers have one such order, and
what a budget leaves of it is in order itself; so connecting it again changes nothing.

Results:
* `outranks_of_meets`, `outranks_of_parted`: a run outranks the one that it meets, so its head
  outranks all that is below it in its stretch.
* `mem_heads_iff`: which slices head runs.
* `connected_windowed`, `Windowed.unique`: connecting puts the slices in the one order in windows.
* `Windowed.take`: what the budget leaves of that order is in order itself.
* `connect_windowed`: so connecting takes a part of that order, and changes nothing the second time.
-/

namespace EvidenceRank.Citation

variable {σ : Type}

/-! ## Stretches -/

/-- `s` is below `x` in one stretch: its number is smaller, and all numbers from it to that of `x`
are numbers of slices. -/
structure Reaches (slices : List (CitedSlice σ)) (s x : CitedSlice σ) : Prop where
  below : s.no.toInt < x.no.toInt
  taken : ∀ n, s.no.toInt ≤ n → n ≤ x.no.toInt → ∃ t ∈ slices, t.no.toInt = n

/-- The predecessor of `s` is below `x` too. -/
theorem Reaches.pred {slices : List (CitedSlice σ)} {a s x : CitedSlice σ}
    (h : Reaches slices s x) (ha : a ∈ slices) (hnext : a.no.toInt + 1 = s.no.toInt) :
    Reaches slices a x := by
  have hbelow := h.below
  refine ⟨by omega, fun n hn hle => ?_⟩
  by_cases heq : n = a.no.toInt
  · exact ⟨a, ha, heq.symm⟩
  · exact h.taken n (by omega) hle

theorem Reaches.mono {slices others : List (CitedSlice σ)} {s x : CitedSlice σ}
    (h : Reaches slices s x) (hsub : ∀ t ∈ slices, t ∈ others) : Reaches others s x :=
  ⟨h.below, fun n hn hle => (h.taken n hn hle).imp fun t ht => ⟨hsub t ht.1, ht.2⟩⟩

/-- `x` ranks ahead of every slice below it in its stretch. -/
def HeadsRun (slices : List (CitedSlice σ)) (x : CitedSlice σ) : Prop :=
  ∀ s ∈ slices, Reaches slices s x → [x, s].Sublist slices

/-- The first slice of a stretch heads a run. -/
theorem headsRun_of_first {slices : List (CitedSlice σ)} {x : CitedSlice σ}
    (h : ∀ s ∈ slices, s.no.toInt + 1 ≠ x.no.toInt) : HeadsRun slices x := by
  intro s _ hreach
  have hbelow := hreach.below
  obtain ⟨t, ht, hno⟩ := hreach.taken (x.no.toInt - 1) (by omega) (by omega)
  exact absurd (by omega) (h t ht)

/-! ## Heads of runs -/

/-- The numbers from that of the first slice of a run to that of any other are all in the run. -/
theorem taken_of_isChain {head x : Placed σ} {run : List (Placed σ)}
    (h : (head :: run).IsChain fun a b => a.2.no.toInt + 1 = b.2.no.toInt)
    (hx : x ∈ head :: run) : head.2.no.toInt ≤ x.2.no.toInt ∧
      ∀ n, head.2.no.toInt ≤ n → n ≤ x.2.no.toInt → ∃ t ∈ head :: run, t.2.no.toInt = n := by
  induction run generalizing head with
  | nil =>
    obtain rfl := List.mem_singleton.mp hx
    exact ⟨Int.le_refl _, fun n hle hge => ⟨x, List.mem_cons_self, Int.le_antisymm hle hge⟩⟩
  | cons next run ih =>
    obtain ⟨hnext, hrest⟩ := List.isChain_cons_cons.mp h
    rcases List.mem_cons.mp hx with rfl | hx
    · exact ⟨Int.le_refl _, fun n hle hge => ⟨x, List.mem_cons_self, Int.le_antisymm hle hge⟩⟩
    · obtain ⟨hle, htaken⟩ := ih hrest hx
      refine ⟨by omega, fun n hn hnx => ?_⟩
      by_cases heq : n = head.2.no.toInt
      · exact ⟨head, List.mem_cons_self, heq.symm⟩
      · obtain ⟨t, ht, hno⟩ := htaken n (by omega) hnx
        exact ⟨t, List.mem_cons_of_mem head ht, hno⟩

/-- In the order of their numbers, no slice of a run comes behind its last one. -/
theorem le_getLast {run : List (Placed σ)} {s last : Placed σ}
    (hsorted : run.Pairwise fun a b => a.2.no.toInt < b.2.no.toInt)
    (hlast : run.getLast? = some last) (hs : s ∈ run) : s.2.no.toInt ≤ last.2.no.toInt := by
  obtain ⟨init, rfl⟩ := List.getLast?_eq_some_iff.mp hlast
  rcases List.mem_append.mp hs with hs | hs
  · exact Int.le_of_lt ((List.pairwise_append.mp hsorted).2.2 s hs last List.mem_cons_self)
  · obtain rfl := List.mem_singleton.mp hs
    exact Int.le_refl _

/-- **A run outranks the one before it**, if no number is missing between a slice of that run and
its own head: the two runs meet then, and it was cut off because its head outranks the other. -/
theorem outranks_of_meets {before rest run next : List (Placed σ)} {head s : Placed σ}
    (hrun : IsRun run) (hparted : Parted run next) (hhead : next.head? = some head)
    (hsorted : (before ++ run ++ head :: rest).Pairwise fun a b => a.2.no.toInt < b.2.no.toInt)
    (hs : s ∈ run) (htaken : ∀ n, s.2.no.toInt ≤ n → n ≤ head.2.no.toInt →
      ∃ t ∈ before ++ run ++ head :: rest, t.2.no.toInt = n) : head.1 < s.1 := by
  obtain ⟨first, tail, hfirst⟩ := List.exists_cons_of_ne_nil hrun.ne_nil
  obtain ⟨last, hlast⟩ := Option.isSome_iff_exists.mp (List.getLast?_isSome.mpr hrun.ne_nil)
  obtain ⟨init, hinit⟩ := List.getLast?_eq_some_iff.mp hlast
  obtain ⟨hfront, -, hbetween⟩ := List.pairwise_append.mp hsorted
  have hle : s.2.no.toInt ≤ last.2.no.toInt :=
    le_getLast (List.pairwise_append.mp hfront).2.1 hlast hs
  have hlt : last.2.no.toInt < head.2.no.toInt :=
    hbetween last (by simp [hinit]) head List.mem_cons_self
  have hmeet : last.2.no.toInt + 1 = head.2.no.toInt := by
    have hpart : [last, head] <:+: before ++ run ++ head :: rest :=
      ⟨before ++ init, rest, by simp [hinit]⟩
    obtain ⟨t, ht, hno⟩ := htaken (last.2.no.toInt + 1) (by omega) (by omega)
    have hnone := Lists.le_or_le_of_infix hsorted hpart ht
    omega
  have hhead? : first ∈ run.head? := by
    rw [hfirst]
    rfl
  have hcut := hparted first hhead? last hlast head hhead
  have hfirstLe : first.1 ≤ s.1 := hrun.headed first hhead? s hs
  by_contra hge
  rw [continues_iff.mpr ⟨hmeet, by omega⟩] at hcut
  exact Bool.true_eq_false.mp hcut

/-- **The head of a run outranks all that is below it in its stretch**, in whichever run in front
that is. By induction on the runs between: each outranks the one before. -/
theorem outranks_of_parted {before run later : List (Placed σ)} {runs : List (List (Placed σ))}
    {head s : Placed σ} (hruns : ∀ r ∈ run :: runs, IsRun r)
    (hparted : (run :: runs).IsChain Parted)
    (hsorted : (before ++ (run :: runs).flatten).Pairwise fun a b => a.2.no.toInt < b.2.no.toInt)
    (hlater : later ∈ runs) (hhead : later.head? = some head) (hs : s ∈ run)
    (htaken : ∀ n, s.2.no.toInt ≤ n → n ≤ head.2.no.toInt →
      ∃ t ∈ before ++ (run :: runs).flatten, t.2.no.toInt = n) : head.1 < s.1 := by
  induction runs generalizing run before s with
  | nil => exact absurd hlater List.not_mem_nil
  | cons next runs ih =>
    obtain ⟨hpart, hchain⟩ := List.isChain_cons_cons.mp hparted
    obtain ⟨first, tail, rfl⟩ := List.exists_cons_of_ne_nil (hruns next (by simp)).ne_nil
    rw [List.flatten_cons, ← List.append_assoc] at hsorted htaken
    obtain ⟨-, hrest, hbetween⟩ := List.pairwise_append.mp hsorted
    have hstep (htaken : ∀ n, s.2.no.toInt ≤ n → n ≤ first.2.no.toInt → ∃ t ∈
        before ++ run ++ first :: (tail ++ runs.flatten), t.2.no.toInt = n) : first.1 < s.1 :=
      outranks_of_meets (hruns run List.mem_cons_self) hpart rfl hsorted hs htaken
    rcases List.mem_cons.mp hlater with rfl | hlater
    · obtain rfl := Option.some.inj hhead
      exact hstep htaken
    · have hmem : head ∈ tail ++ runs.flatten := List.mem_append_right tail
        (List.mem_flatten.mpr ⟨later, hlater, List.mem_of_mem_head? hhead⟩)
      have hlt : first.2.no.toInt < head.2.no.toInt := (List.pairwise_cons.mp hrest).1 head hmem
      have hbelow : s.2.no.toInt < first.2.no.toInt :=
        hbetween s (List.mem_append_right before hs) first List.mem_cons_self
      refine Nat.lt_trans ?_ (hstep fun n hn hle => htaken n hn (by omega))
      exact ih (fun r hr => hruns r (List.mem_cons_of_mem run hr)) hchain hsorted hlater
        List.mem_cons_self fun n hn => htaken n (by omega)

/-! ## Which slices head runs -/

variable {slices : List (CitedSlice σ)}

/-- The first slices of the runs, those of the best runs first. -/
def heads (slices : List (CitedSlice σ)) : List (Placed σ) :=
  (windows slices).filterMap List.head?

theorem mem_heads {p : Placed σ} :
    p ∈ heads slices ↔ ∃ w ∈ windows slices, w.head? = some p :=
  List.mem_filterMap

theorem heads_pairwise (slices : List (CitedSlice σ)) :
    (heads slices).Pairwise fun p q => p.1 ≤ q.1 := by
  have hrank {w : List (Placed σ)} {p : Placed σ} (h : w.head? = some p) : runRank w = p.1 := by
    unfold runRank
    rw [h]
    rfl
  refine List.pairwise_filterMap.mpr ((windows_pairwise slices).imp fun {v w} hle p hp q hq => ?_)
  rwa [hrank hp, hrank hq] at hle

theorem headsRun_of_mem_heads (hno : slices.Pairwise fun s t => s.no ≠ t.no) {p : Placed σ}
    (h : p ∈ heads slices) : HeadsRun slices p.2 := by
  intro s hs hreach
  obtain ⟨q, hq, rfl⟩ := exists_placed hs
  obtain ⟨w, hw, hhead⟩ := mem_heads.mp h
  have hpw : p ∈ w := List.mem_of_mem_head? hhead
  refine (rank_lt_iff hno (mem_placed_of_mem hw hpw) hq).mp ?_
  have hflatten : q ∈ (runs (byNumber slices)).flatten := by
    rw [flatten_runs]
    exact mem_byNumber.mpr hq
  obtain ⟨r, hr, hqr⟩ := List.mem_flatten.mp hflatten
  obtain ⟨front, later, heq⟩ := List.append_of_mem hr
  have hnumbers : front.flatten ++ (r :: later).flatten = byNumber slices := by
    rw [← List.flatten_append, ← heq, flatten_runs]
  have hsorted := byNumber_pairwise hno
  rw [← hnumbers] at hsorted
  have hruns : ∀ v ∈ r :: later, IsRun v := fun v hv =>
    runs_isRun (heq ▸ List.mem_append_right front hv)
  have hparted : (r :: later).IsChain Parted :=
    (heq ▸ runs_parted (byNumber slices)).right_of_append
  have hbelow := hreach.below
  -- the run of `q` comes first, as `q` has the smaller number
  rcases List.mem_append.mp (heq ▸ mem_windows.mp hw) with hfront | hlater
  · have hlt := (List.pairwise_append.mp hsorted).2.2 p (List.mem_flatten.mpr ⟨w, hfront, hpw⟩) q
      (List.mem_flatten.mpr ⟨r, List.mem_cons_self, hqr⟩)
    omega
  rcases List.mem_cons.mp hlater with rfl | hlater
  · obtain ⟨tail, rfl⟩ : ∃ tail, w = p :: tail := List.head?_eq_some_iff.mp hhead
    have hle := (taken_of_isChain (hruns _ List.mem_cons_self).consecutive hqr).1
    omega
  · refine outranks_of_parted hruns hparted hsorted hlater hhead hqr fun n hn hle => ?_
    obtain ⟨t, ht, rfl⟩ := hreach.taken n hn hle
    obtain ⟨u, hu, rfl⟩ := exists_placed ht
    exact ⟨u, hnumbers ▸ mem_byNumber.mpr hu, rfl⟩

theorem mem_heads_of_headsRun (hno : slices.Pairwise fun s t => s.no ≠ t.no) {p : Placed σ}
    (hp : p ∈ placed slices) (h : HeadsRun slices p.2) : p ∈ heads slices := by
  obtain ⟨w, hw, hpw⟩ := List.mem_flatten.mp (mem_flatten_windows.mpr hp)
  have hrun := isRun_of_mem_windows hw
  obtain ⟨head, tail, rfl⟩ := List.exists_cons_of_ne_nil hrun.ne_nil
  by_cases heq : p = head
  · exact mem_heads.mpr ⟨_, hw, congrArg some heq.symm⟩
  · -- otherwise the head of its run is below it and outranks it
    have hhead : head ∈ placed slices := mem_placed_of_mem hw List.mem_cons_self
    obtain ⟨hle, htaken⟩ := taken_of_isChain hrun.consecutive hpw
    have hreach : Reaches slices head.2 p.2 := by
      constructor
      case below =>
        have hne : head.2.no.toInt ≠ p.2.no.toInt := fun hsame =>
          heq (eq_of_placed hno hhead hp (Int64.toInt_inj.mp hsame)).symm
        omega
      case taken =>
        intro n hn hnp
        obtain ⟨t, ht, hno⟩ := htaken n hn hnp
        exact ⟨t.2, mem_of_mem_placed (mem_placed_of_mem hw ht), hno⟩
    have hlt := (rank_lt_iff hno hp hhead).mpr (h head.2 (mem_of_mem_placed hhead) hreach)
    exact absurd hlt (Nat.not_lt_of_le (hrun.headed head rfl p hpw))

/-- **Which slices head runs**: those that rank ahead of all below them in their stretch. -/
theorem mem_heads_iff (hno : slices.Pairwise fun s t => s.no ≠ t.no) {x : CitedSlice σ}
    (hx : x ∈ slices) : x ∈ (heads slices).map (·.2) ↔ HeadsRun slices x := by
  constructor
  · intro h
    obtain ⟨p, hp, rfl⟩ := List.mem_map.mp h
    exact headsRun_of_mem_heads hno hp
  · intro h
    obtain ⟨p, hp, rfl⟩ := exists_placed hx
    exact List.mem_map_of_mem (mem_heads_of_headsRun hno hp h)

/-! ## The order in windows -/

/-- The slices stand in windows: those that head no run right behind their predecessors, those that
do in the order of their ranks. -/
structure Windowed (slices arranged : List (CitedSlice σ)) : Prop where
  perm : arranged.Perm slices
  joined : ∀ x ∈ slices, ¬ HeadsRun slices x →
    ∃ a ∈ slices, a.no.toInt + 1 = x.no.toInt ∧ [a, x] <:+: arranged
  ordered : ∀ x y, HeadsRun slices x → HeadsRun slices y → [x, y].Sublist slices →
    [x, y].Sublist arranged

/-- A slice that is not the first of its run stands right behind its predecessor. -/
theorem exists_infix_of_not_head {run : List (Placed σ)} {x : Placed σ} (hrun : IsRun run)
    (hx : x ∈ run) (hne : run.head? ≠ some x) :
    ∃ a, a.2.no.toInt + 1 = x.2.no.toInt ∧ [a, x] <:+: run := by
  obtain ⟨front, back, rfl⟩ := List.append_of_mem hx
  rcases List.eq_nil_or_concat front with rfl | ⟨init, a, rfl⟩
  · exact absurd rfl hne
  · have hpart : [a, x] <:+: init.concat a ++ x :: back := ⟨init, back, by simp⟩
    have hchain := List.IsChain.infix hrun.consecutive hpart
    have hnext := List.isChain_pair.mp hchain
    exact ⟨a, hnext, hpart⟩

/-- **Connecting puts slices in the order in windows.** -/
theorem connected_windowed (hno : slices.Pairwise fun s t => s.no ≠ t.no) :
    Windowed slices (connected slices) := by
  constructor
  case perm => exact connected_perm slices
  case joined =>
    intro x hx hnot
    obtain ⟨p, hp, rfl⟩ := exists_placed hx
    obtain ⟨w, hw, hpw⟩ := List.mem_flatten.mp (mem_flatten_windows.mpr hp)
    have hne : w.head? ≠ some p := fun hhead =>
      hnot (headsRun_of_mem_heads hno (mem_heads.mpr ⟨w, hw, hhead⟩))
    obtain ⟨a, hnext, hpart⟩ := exists_infix_of_not_head (isRun_of_mem_windows hw) hpw hne
    have ha : a ∈ w := hpart.subset List.mem_cons_self
    have hmap := (hpart.trans (List.infix_of_mem_flatten hw)).map (fun q : Placed σ => q.2)
    exact ⟨a.2, mem_of_mem_placed (mem_placed_of_mem hw ha), hnext, hmap⟩
  case ordered =>
    intro x y hx hy hxy
    obtain ⟨p, hp, rfl⟩ := exists_placed (hxy.mem List.mem_cons_self)
    obtain ⟨q, hq, rfl⟩ := exists_placed (hxy.mem (List.mem_cons_of_mem p.2 List.mem_cons_self))
    have hlt : p.1 < q.1 := (rank_lt_iff hno hp hq).mpr hxy
    have hne : p ≠ q := fun heq => Nat.lt_irrefl _ (heq ▸ hlt)
    have hheads : [p, q].Sublist (heads slices) := by
      refine (Lists.pair_sublist_or (mem_heads_of_headsRun hno hp hx)
        (mem_heads_of_headsRun hno hq hy) hne).resolve_right fun h => ?_
      exact Nat.not_le_of_lt hlt (List.pairwise_iff_forall_sublist.mp (heads_pairwise slices) h)
    exact (hheads.trans (Lists.heads_sublist_flatten _)).map (·.2)

namespace Windowed

variable {arranged other front back rest : List (CitedSlice σ)} {x y : CitedSlice σ}

theorem pairwise_no (hno : slices.Pairwise fun s t => s.no ≠ t.no)
    (h : Windowed slices arranged) : arranged.Pairwise fun s t => s.no ≠ t.no :=
  h.perm.symm.pairwise hno Ne.symm

theorem nodup (hno : slices.Pairwise fun s t => s.no ≠ t.no) (h : Windowed slices arranged) :
    arranged.Nodup :=
  (h.pairwise_no hno).imp fun hne heq => hne (congrArg CitedSlice.no heq)

/-- What stands in front of a slice that heads no run ends with its predecessor. -/
theorem exists_front (hno : slices.Pairwise fun s t => s.no ≠ t.no)
    (h : Windowed slices (front ++ x :: back)) (hx : ¬ HeadsRun slices x) :
    ∃ init a, front = init ++ [a] ∧ a ∈ slices ∧ a.no.toInt + 1 = x.no.toInt := by
  obtain ⟨a, ha, hnext, hpart⟩ := h.joined x (h.perm.mem_iff.mp (by simp)) hx
  obtain ⟨init, hfront⟩ := Lists.exists_front_of_infix (h.nodup hno) hpart
  exact ⟨init, a, hfront, ha, hnext⟩

/-- What comes behind the same slices is told by the last of them, if it heads no run. -/
theorem eq_of_not_headsRun (hno : slices.Pairwise fun s t => s.no ≠ t.no)
    (h : Windowed slices (front ++ x :: back)) (h' : Windowed slices (front ++ y :: rest))
    (hx : ¬ HeadsRun slices x) : x = y := by
  obtain ⟨init, a, rfl, ha, hnext⟩ := exists_front hno h hx
  obtain ⟨a', ha', hnext', hpart⟩ := h'.joined x (h.perm.mem_iff.mp (by simp)) hx
  obtain rfl : a = a' := by
    refine Lists.eq_of_pairwise_not (R := fun s t => s.no = t.no) Eq.symm hno ha ha' ?_
    exact Int64.toInt_inj.mp (by omega)
  have hy : [a, y] <:+: init ++ [a] ++ y :: rest := ⟨init, rest, by simp⟩
  exact Lists.eq_of_infix (h'.nodup hno) hpart hy

/-- Of two slices that head runs, the one that ranks ahead comes first. -/
theorem not_ahead (hno : slices.Pairwise fun s t => s.no ≠ t.no)
    (h : Windowed slices (front ++ x :: back)) (h' : Windowed slices (front ++ y :: rest))
    (hx : HeadsRun slices x) (hy : HeadsRun slices y) : ¬ [x, y].Sublist slices := by
  intro hxy
  have hfront : x ∈ front := Lists.mem_of_pair_sublist (h'.nodup hno) (h'.ordered x y hx hy hxy)
  exact (List.nodup_append.mp (h.nodup hno)).2.2 x hfront x List.mem_cons_self rfl

/-- What comes behind the same slices is the same. -/
theorem next_unique (hno : slices.Pairwise fun s t => s.no ≠ t.no)
    (h : Windowed slices (front ++ x :: back)) (h' : Windowed slices (front ++ y :: rest)) :
    x = y := by
  by_cases hx : HeadsRun slices x
  · by_cases hy : HeadsRun slices y
    · by_contra hne
      have hmem : x ∈ slices := h.perm.mem_iff.mp (by simp)
      have hmem' : y ∈ slices := h'.perm.mem_iff.mp (by simp)
      rcases Lists.pair_sublist_or hmem hmem' hne with hxy | hyx
      · exact not_ahead hno h h' hx hy hxy
      · exact not_ahead hno h' h hy hx hyx
    · exact (eq_of_not_headsRun hno h' h hy).symm
  · exact eq_of_not_headsRun hno h h' hx

/-- **There is one order in windows.** -/
theorem unique (hno : slices.Pairwise fun s t => s.no ≠ t.no) (h : Windowed slices arranged)
    (h' : Windowed slices other) : arranged = other := by
  have hrest (front back rest : List (CitedSlice σ)) (h : Windowed slices (front ++ back))
      (h' : Windowed slices (front ++ rest)) : back = rest := by
    induction back generalizing front rest with
    | nil =>
      have hlen := (h.perm.trans h'.perm.symm).length_eq
      rw [List.length_append, List.length_append, List.length_nil] at hlen
      exact (List.length_eq_zero_iff.mp (by omega)).symm
    | cons x back ih =>
      cases rest with
      | nil =>
        have hlen := (h.perm.trans h'.perm.symm).length_eq
        simp at hlen
      | cons y rest =>
        obtain rfl := next_unique hno h h'
        rw [List.append_cons] at h h'
        rw [ih (front ++ [x]) rest h h']
  exact hrest [] arranged other h h'

/-! ## Parts of the order -/

/-- A slice that heads a run comes before all that is below it in its stretch. By induction on what
stands in front of that: what heads no run stands right behind its predecessor, which is below the
slice too. -/
theorem before_stretch (hno : slices.Pairwise fun s t => s.no ≠ t.no)
    (h : Windowed slices arranged) (hx : HeadsRun slices x) {s : CitedSlice σ} (hs : s ∈ slices)
    (hreach : Reaches slices s x) : [x, s].Sublist arranged := by
  have hahead {s : CitedSlice σ} (hs : s ∈ slices) (hreach : Reaches slices s x)
      (hhead : HeadsRun slices s) : [x, s].Sublist arranged :=
    h.ordered x s hx hhead (hx s hs hreach)
  obtain ⟨front, back, heq⟩ := List.append_of_mem (h.perm.mem_iff.mpr hs)
  induction front using List.reverseRecOn generalizing s back with
  | nil =>
    by_cases hhead : HeadsRun slices s
    · exact hahead hs hreach hhead
    · obtain ⟨init, a, hnil, -⟩ := exists_front hno (heq ▸ h) hhead
      exact absurd hnil (by simp)
  | append_singleton front b ih =>
    by_cases hhead : HeadsRun slices s
    · exact hahead hs hreach hhead
    · obtain ⟨init, a, hfront, ha, hnext⟩ := exists_front hno (heq ▸ h) hhead
      obtain ⟨rfl, hb⟩ := List.append_inj' hfront rfl
      obtain rfl := (List.cons.inj hb).1
      have hpair := ih ha (hreach.pred ha hnext) (s :: back) (by simp [heq])
      have hsplit : arranged = front ++ b :: s :: back := by simp [heq]
      have hmem : x ∈ front := Lists.mem_of_pair_sublist (hsplit ▸ h.nodup hno) (hsplit ▸ hpair)
      rw [heq]
      exact (List.singleton_sublist.mpr (List.mem_append_left [b] hmem)).append
        (List.singleton_sublist.mpr List.mem_cons_self)

/-- **What the budget leaves of the order in windows is in order itself**: a slice that heads no run
of what is left headed none before, so its predecessor is left in front of it. -/
theorem take (hno : slices.Pairwise fun s t => s.no ≠ t.no) (h : Windowed slices arranged)
    (n : Nat) : Windowed (arranged.take n) (arranged.take n) := by
  have hsub : (arranged.take n).Sublist arranged := List.take_sublist n arranged
  have hmem {s : CitedSlice σ} (hs : s ∈ arranged.take n) : s ∈ slices :=
    h.perm.mem_iff.mp (hsub.mem hs)
  have hheads {x : CitedSlice σ} (hx : x ∈ arranged.take n) (hhead : HeadsRun slices x) :
      HeadsRun (arranged.take n) x := by
    intro s hs hreach
    have hreach' : Reaches slices s x := hreach.mono fun t ht => hmem ht
    exact Lists.sublist_of_mem (h.nodup hno) hsub (h.before_stretch hno hhead (hmem hs) hreach')
      hx hs
  constructor
  case perm => exact List.Perm.refl _
  case joined =>
    intro x hx hnot
    obtain ⟨a, -, hnext, hpart⟩ := h.joined x (hmem hx) fun hhead => hnot (hheads hx hhead)
    have hleft : [a, x] <:+: arranged.take n := Lists.infix_take (h.nodup hno) hpart hx
    exact ⟨a, hleft.subset List.mem_cons_self, hnext, hleft⟩
  case ordered => exact fun x y _ _ hxy => hxy

end Windowed

/-! ## Connecting twice -/

/-- What connecting leaves is in order. -/
theorem connected_connect (hno : slices.Pairwise fun s t => s.no ≠ t.no) (max : Nat) :
    connected (connect max slices) = connect max slices := by
  have hwindowed := connected_windowed hno
  rw [connect_eq_take]
  have hno' : ((connected slices).take max).Pairwise fun s t => s.no ≠ t.no :=
    (hwindowed.pairwise_no hno).sublist (List.take_sublist max _)
  exact (connected_windowed hno').unique hno' (hwindowed.take hno max)

/-- **Connecting puts slices with different numbers in the one order in windows**, of which it takes
what the budget allows; the runs start with the slices that rank ahead of all below them in their
stretch, the first of each stretch among them; and connecting again changes nothing. -/
theorem connect_windowed (hno : slices.Pairwise fun s t => s.no ≠ t.no) (max : Nat) :
    connect max slices = (connected slices).take max ∧ Windowed slices (connected slices) ∧
      (∀ other, Windowed slices other → other = connected slices) ∧
      (∀ x ∈ slices, x ∈ (heads slices).map (·.2) ↔ HeadsRun slices x) ∧
      (∀ x, (∀ s ∈ slices, s.no.toInt + 1 ≠ x.no.toInt) → HeadsRun slices x) ∧
      connect max (connect max slices) = connect max slices := by
  have hwindowed := connected_windowed hno
  refine ⟨connect_eq_take max slices, hwindowed, fun other h => h.unique hno hwindowed,
    fun x hx => mem_heads_iff hno hx, fun x h => headsRun_of_first h, ?_⟩
  have htwice := connect_eq_take max (connect max slices)
  rw [connected_connect hno max] at htwice
  rw [htwice, connect_eq_take, List.take_take, Nat.min_self]

/-- A slice with nothing but a number. -/
def numbered (no : Int64) : CitedSlice Float := ⟨"", no, "", 0.0, [], []⟩

/-- The best slice comes right behind the last two, and the greatest number is not in front of the
least one. -/
def scattered : List (CitedSlice Float) :=
  [numbered 3, numbered Int64.maxValue, numbered 1, numbered Int64.minValue, numbered 2]

/-- The slice 3 heads a run, as it outranks those below it; 2 stands behind 1; the numbers at both
ends of the range are not in one stretch. With room for three, the run of 1 is cut off. -/
theorem connect_windowed_scattered :
    (scattered.Pairwise fun s t => s.no ≠ t.no) ∧
      Windowed scattered [numbered 3, numbered Int64.maxValue, numbered 1, numbered 2,
        numbered Int64.minValue] ∧
      connect 3 (connect 3 scattered) = [numbered 3, numbered Int64.maxValue, numbered 1] := by
  have hno : scattered.Pairwise fun s t => s.no ≠ t.no := by decide
  obtain ⟨-, hwindowed, -, -, -, htwice⟩ := connect_windowed hno 3
  exact ⟨hno, hwindowed, htwice⟩

end EvidenceRank.Citation
