import EvidenceRank.Proofs.Score.Order

/-!
# The extremes of a column

`Score.least` and `Score.greatest` go through a column once and keep the best number that they have
met; what is no number is passed over. They differ in what is better, so the pass is treated for
any `better` that `Prefers` says enough of: `BestOf` is what the pass knows on its way,
`bestOf_pick` is one step of it and `bestOf_foldl` the rest of the column.

Results:
* `least_minimum`: the least number is the `Minimum` of the column.
* `greatest_maximum`: the greatest number is the `Maximum` of the column.
-/

namespace EvidenceRank.Score

variable {σ : Type} [Score σ]

/-- The least number of a column, or `top` for a column without numbers. -/
inductive Minimum (column : List σ) (x : σ) : Prop where
  | number (mem : x ∈ column) (isNumber : isNaN x = false) (below : ∀ y ∈ column, lt y x = false)
  | absent (noNumber : ∀ y ∈ column, isNaN y = true) (isTop : x = top)

/-- The greatest number of a column, or `bottom` for a column without numbers. -/
inductive Maximum (column : List σ) (x : σ) : Prop where
  | number (mem : x ∈ column) (isNumber : isNaN x = false) (above : ∀ y ∈ column, lt x y = false)
  | absent (noNumber : ∀ y ∈ column, isNaN y = true) (isBottom : x = bottom)

/-- `better` weakly orders the numbers, and holds of nothing that is no number. -/
structure Prefers (better : σ → σ → Bool) : Prop where
  isNaN_of : ∀ {a b : σ}, better a b = true → isNaN a = false ∧ isNaN b = false
  asymm : ∀ {a b : σ}, better a b = true → better b a = false
  cotrans : ∀ {a b c : σ}, isNaN b = false → better a c = true →
    better a b = true ∨ better b c = true

namespace Prefers

variable {better : σ → σ → Bool}

theorem eq_false_of_isNaN (h : Prefers better) {a b : σ} (ha : isNaN a = true) :
    better a b = false := by
  cases hab : better a b with
  | false => rfl
  | true => exact absurd (h.isNaN_of hab).1 (by rw [ha]; decide)

/-- No value is better than itself. -/
theorem self (h : Prefers better) (a : σ) : better a a = false := by
  cases haa : better a a with
  | false => rfl
  | true => exact absurd ((h.asymm haa).symm.trans haa) Bool.false_ne_true

/-- What is not better than a number is not better than anything better than that number. -/
theorem eq_false_of_better (h : Prefers better) {a b c : σ} (hb : isNaN b = false)
    (hab : better a b = false) (hcb : better c b = true) : better a c = false := by
  cases hac : better a c with
  | false => rfl
  | true =>
    -- `a` better than `c` and `c` better than `b` would make `a` better than `b`
    rcases h.cotrans hb hac with hab' | hbc
    · exact absurd (hab.symm.trans hab') Bool.false_ne_true
    · rw [h.asymm hcb] at hbc
      exact absurd hbc Bool.false_ne_true

end Prefers

/-! ## The pass -/

/-- The best number of what has been seen so far, if a number was among it. -/
def BestOf (better : σ → σ → Bool) (seen : List σ) : Option σ → Prop
  | none => ∀ y ∈ seen, isNaN y = true
  | some b => b ∈ seen ∧ isNaN b = false ∧ ∀ y ∈ seen, better y b = false

variable {better : σ → σ → Bool}

/-- **One more value** is passed over, or kept, or takes the place of the best number. -/
theorem bestOf_pick (hp : Prefers better) {seen : List σ} {best : Option σ}
    (h : BestOf better seen best) (x : σ) :
    BestOf better (seen ++ [x]) (pick better best x) := by
  have hforall : ∀ {p : σ → Prop}, (∀ y ∈ seen, p y) → p x → ∀ y ∈ seen ++ [x], p y := by
    intro p hseen hx y hy
    rcases List.mem_append.mp hy with hy | hy
    · exact hseen y hy
    · exact List.mem_singleton.mp hy ▸ hx
  unfold pick
  split
  · rename_i hnan
    cases best with
    | none => exact hforall h hnan
    | some b =>
      exact ⟨List.mem_append_left _ h.1, h.2.1, hforall h.2.2 (hp.eq_false_of_isNaN hnan)⟩
  · rename_i hnum
    have hx : isNaN x = false := Bool.not_eq_true _ ▸ hnum
    have hmem : x ∈ seen ++ [x] := List.mem_append_right _ List.mem_cons_self
    cases best with
    | none =>
      exact ⟨hmem, hx, hforall (fun y hy => hp.eq_false_of_isNaN (h y hy)) (hp.self x)⟩
    | some b =>
      obtain ⟨hb, hbnum, hbest⟩ := h
      dsimp only
      split
      · rename_i hbetter
        have hseen : ∀ y ∈ seen, better y x = false := fun y hy =>
          hp.eq_false_of_better hbnum (hbest y hy) hbetter
        exact ⟨hmem, hx, hforall hseen (hp.self x)⟩
      · rename_i hbetter
        exact ⟨List.mem_append_left _ hb, hbnum, hforall hbest (Bool.not_eq_true _ ▸ hbetter)⟩

/-- **The rest of a column**, by induction on it. -/
theorem bestOf_foldl (hp : Prefers better) : ∀ (column : List σ) {seen : List σ} {best : Option σ},
    BestOf better seen best → BestOf better (seen ++ column) (column.foldl (pick better) best)
  | [], seen, best, h => by rwa [List.append_nil]
  | x :: column, seen, best, h => by
    rw [List.append_cons]
    exact bestOf_foldl hp column (bestOf_pick hp h x)

/-- A whole column. -/
theorem bestOf_column (hp : Prefers better) (column : List σ) :
    BestOf better column (column.foldl (pick better) none) := by
  have hnil : BestOf better ([] : List σ) none := fun y hy => absurd hy List.not_mem_nil
  exact bestOf_foldl hp column hnil

/-! ## The two ends -/

variable [LawfulOrder σ]

theorem prefers_lt : Prefers (lt : σ → σ → Bool) where
  isNaN_of := LawfulOrder.isNaN_of_lt
  asymm := LawfulOrder.lt_asymm
  cotrans := LawfulOrder.lt_cotrans

theorem prefers_gt : Prefers fun x b : σ => lt b x where
  isNaN_of hab := (LawfulOrder.isNaN_of_lt hab).symm
  asymm := LawfulOrder.lt_asymm
  cotrans hb hac := (LawfulOrder.lt_cotrans hb hac).symm

/-- No value is below itself. -/
theorem lt_self (a : σ) : lt a a = false := prefers_lt.self a

/-- **The least number of a column is its minimum.** -/
theorem least_minimum (column : List σ) : Minimum column (least column) := by
  have h := bestOf_column prefers_lt column
  unfold least
  cases hbest : column.foldl (pick lt) none with
  | none => rw [hbest] at h; exact .absent h rfl
  | some b => rw [hbest] at h; exact .number h.1 h.2.1 h.2.2

/-- **The greatest number of a column is its maximum.** -/
theorem greatest_maximum (column : List σ) : Maximum column (greatest column) := by
  have h := bestOf_column prefers_gt column
  unfold greatest
  cases hbest : column.foldl (pick fun x b => lt b x) none with
  | none => rw [hbest] at h; exact .absent h rfl
  | some b => rw [hbest] at h; exact .number h.1 h.2.1 h.2.2

end EvidenceRank.Score
