import EvidenceRank.Lists.Ranked
import EvidenceRank.Proofs.Score.Least
import Mathlib

/-!
# Values that compare alike

Different values can compare as equal: among the floats, the two zeros do. What is computed from
such values by sums, differences and products compares alike again, and no comparison tells it
apart, so an order of a list that is settled up to such values is settled as far as anything later
can see.

* `lt_congr`, `le_congr`: values that compare alike do so with every other value.
* `Congruent`: sums, differences and products of values that compare alike do so too.
* `instCongruentFloat`: this is so of floats.
-/

namespace EvidenceRank.Score

variable {σ : Type} [Score σ]

/-- The values are one, or compare as equal. -/
def Alike (a b : σ) : Prop := a = b ∨ same a b = true

/-- Sums, differences and products of values that compare alike compare alike. -/
class Congruent (σ : Type) [Score σ] : Prop where
  add : ∀ {a a' b b' : σ}, Alike a a' → Alike b b' → Alike (a + b) (a' + b')
  sub : ∀ {a a' b b' : σ}, Alike a a' → Alike b b' → Alike (a - b) (a' - b')
  mul : ∀ {a a' b b' : σ}, Alike a a' → Alike b b' → Alike (a * b) (a' * b')

/-! ## Comparisons -/

theorem Alike.refl (a : σ) : Alike a a := Or.inl rfl

section Order

variable [LawfulOrder σ] {a a' b b' c : σ}

/-- What is below a value is below every number that is not below that value. -/
theorem lt_of_lt_of_not_lt (hb : isNaN b = false) (hac : lt a c = true)
    (hbc : lt b c = false) : lt a b = true := by
  rcases LawfulOrder.lt_cotrans hb hac with hlt | hlt
  · exact hlt
  · exact absurd (hlt.symm.trans hbc) (by decide)

/-- What a value is below, every number that the value is not below is below. -/
theorem lt_of_not_lt_of_lt (hb : isNaN b = false) (hab : lt a b = false)
    (hac : lt a c = true) : lt b c = true := by
  rcases LawfulOrder.lt_cotrans hb hac with hlt | hlt
  · exact absurd (hlt.symm.trans hab) (by decide)
  · exact hlt

/-- A value that is not below a number that is not below another value is not below that one. -/
theorem not_lt_trans (hb : isNaN b = false) (hab : lt a b = false) (hbc : lt b c = false) :
    lt a c = false := by
  cases hac : lt a c with
  | false => rfl
  | true => exact absurd ((lt_of_not_lt_of_lt hb hab hac).symm.trans hbc) (by decide)

/-- Numbers of which neither is below the other compare as equal. -/
theorem alike_of_not_lt (ha : isNaN a = false) (hb : isNaN b = false) (hab : lt a b = false)
    (hba : lt b a = false) : Alike a b :=
  Or.inr (LawfulOrder.same_iff.mpr ⟨ha, hb, hab, hba⟩)

theorem Alike.symm (h : Alike a b) : Alike b a := by
  rcases h with rfl | h
  · exact .refl a
  · obtain ⟨ha, hb, hab, hba⟩ := LawfulOrder.same_iff.mp h
    exact alike_of_not_lt hb ha hba hab

theorem Alike.isNaN_eq (h : Alike a b) : isNaN a = isNaN b := by
  rcases h with rfl | h
  · rfl
  · obtain ⟨ha, hb, -⟩ := LawfulOrder.same_iff.mp h
    rw [ha, hb]

/-- Below a value is below every value that is like it, and what is like a lower one is lower. -/
theorem Alike.lt_of_lt (ha : Alike a a') (hb : Alike b b') (h : lt a b = true) :
    lt a' b' = true := by
  have hleft : lt a' b = true := by
    rcases ha with rfl | ha
    · exact h
    · obtain ⟨-, hnum, hnot, -⟩ := LawfulOrder.same_iff.mp ha
      exact lt_of_not_lt_of_lt hnum hnot h
  rcases hb with rfl | hb
  · exact hleft
  · obtain ⟨-, hnum, -, hnot⟩ := LawfulOrder.same_iff.mp hb
    exact lt_of_lt_of_not_lt hnum hleft hnot

/-- **Values that compare alike are below the same values.** -/
theorem lt_congr (ha : Alike a a') (hb : Alike b b') : lt a b = lt a' b' :=
  Bool.eq_iff_iff.mpr ⟨ha.lt_of_lt hb, ha.symm.lt_of_lt hb.symm⟩

theorem le_congr (ha : Alike a a') (hb : Alike b b') : le a b = le a' b' := by
  rw [Bool.eq_iff_iff, LawfulOrder.le_iff, LawfulOrder.le_iff, ha.isNaN_eq, hb.isNaN_eq,
    lt_congr hb ha]

theorem le_trans (hab : le a b = true) (hbc : le b c = true) : le a c = true := by
  obtain ⟨ha, hb, hba⟩ := LawfulOrder.le_iff.mp hab
  obtain ⟨-, hc, hcb⟩ := LawfulOrder.le_iff.mp hbc
  exact LawfulOrder.le_iff.mpr ⟨ha, hc, not_lt_trans hb hcb hba⟩

theorem lt_of_lt_of_le (hab : lt a b = true) (hbc : le b c = true) : lt a c = true := by
  obtain ⟨-, hc, hcb⟩ := LawfulOrder.le_iff.mp hbc
  exact lt_of_lt_of_not_lt hc hab hcb

theorem lt_of_le_of_lt (hab : le a b = true) (hbc : lt b c = true) : lt a c = true := by
  obtain ⟨ha, -, hba⟩ := LawfulOrder.le_iff.mp hab
  exact lt_of_not_lt_of_lt ha hba hbc

/-- The numbers of a column are weakly ordered. -/
theorem lt_weaklyOrders {column : List σ} (h : ∀ x ∈ column, isNaN x = false) :
    Lists.WeaklyOrders lt column where
  asymm _ _ _ _ hlt := LawfulOrder.lt_asymm hlt
  cotrans _ _ y hy _ _ hlt := LawfulOrder.lt_cotrans (h y hy) hlt

end Order

/-! ## Floats -/

open Float.Model
open Float.Model.UnpackedFloat (infinity notANumber zero finite)

/-- The unpacked floats are one, or both are zeros. -/
def OneOrZeros (u v : UnpackedFloat) : Prop :=
  u = v ∨ (∃ s, u = zero s) ∧ ∃ t, v = zero t

theorem OneOrZeros.trans {u v w : UnpackedFloat} (huv : OneOrZeros u v) (hvw : OneOrZeros v w) :
    OneOrZeros u w := by
  rcases huv with rfl | ⟨hu, hv⟩
  · exact hvw
  · rcases hvw with rfl | ⟨-, hw⟩
    · exact Or.inr ⟨hu, hv⟩
    · exact Or.inr ⟨hu, hw⟩

/-- An operation to which the sign of a zero makes no difference but for the sign of a zero. -/
structure IgnoresSign (op : UnpackedFloat → UnpackedFloat → UnpackedFloat) : Prop where
  left : ∀ s t v, OneOrZeros (op (zero s) v) (op (zero t) v)
  right : ∀ s t u, OneOrZeros (op u (zero s)) (op u (zero t))

theorem IgnoresSign.congr {op : UnpackedFloat → UnpackedFloat → UnpackedFloat}
    (h : IgnoresSign op) {u u' v v' : UnpackedFloat} (hu : OneOrZeros u u')
    (hv : OneOrZeros v v') : OneOrZeros (op u v) (op u' v') := by
  have hleft : OneOrZeros (op u v) (op u' v) := by
    rcases hu with rfl | ⟨⟨s, rfl⟩, t, rfl⟩
    · exact Or.inl rfl
    · exact h.left s t v
  refine hleft.trans ?_
  rcases hv with rfl | ⟨⟨s, rfl⟩, t, rfl⟩
  · exact Or.inl rfl
  · exact h.right s t u'

theorem add_ignoresSign : IgnoresSign (UnpackedFloat.add .binary64) where
  left s t v := by
    cases v with
    | zero r => cases s <;> cases t <;> cases r <;> exact Or.inr ⟨⟨_, rfl⟩, _, rfl⟩
    | _ => exact Or.inl rfl
  right s t u := by
    cases u with
    | zero r => cases s <;> cases t <;> cases r <;> exact Or.inr ⟨⟨_, rfl⟩, _, rfl⟩
    | _ => exact Or.inl rfl

theorem sub_ignoresSign : IgnoresSign (UnpackedFloat.sub .binary64) where
  left s t v := by
    cases v with
    | zero r => cases s <;> cases t <;> cases r <;> exact Or.inr ⟨⟨_, rfl⟩, _, rfl⟩
    | _ => exact Or.inl rfl
  right s t u := by
    cases u with
    | zero r => cases s <;> cases t <;> cases r <;> exact Or.inr ⟨⟨_, rfl⟩, _, rfl⟩
    | _ => exact Or.inl rfl

theorem mul_ignoresSign : IgnoresSign (UnpackedFloat.mul .binary64) where
  left s t v := by
    cases v with
    | zero r => exact Or.inr ⟨⟨_, rfl⟩, _, rfl⟩
    | infinity _ => exact Or.inl rfl
    | notANumber => exact Or.inl rfl
    | finite _ _ _ _ => exact Or.inr ⟨⟨_, rfl⟩, _, rfl⟩
  right s t u := by
    cases u with
    | zero r => exact Or.inr ⟨⟨_, rfl⟩, _, rfl⟩
    | infinity _ => exact Or.inl rfl
    | notANumber => exact Or.inl rfl
    | finite _ _ _ _ => exact Or.inr ⟨⟨_, rfl⟩, _, rfl⟩

theorem unpacked_inj {x y : Float} (h : unpacked x = unpacked y) : x = y :=
  Float.toBits_inj.mp (UInt64.toBitVec_inj.mp
    ((UnpackedFloat.unpack_inj_of_valid x.toModel.valid y.toModel.valid).mp h))

theorem alike_iff {x y : Float} : Alike x y ↔ OneOrZeros (unpacked x) (unpacked y) := by
  constructor
  · rintro (rfl | h)
    · exact Or.inl rfl
    · rw [float_same, UnpackedFloat.beq_iff_ne_notANumber_and_eq] at h
      rcases h.2.2 with heq | ⟨hx, hy⟩ | ⟨hx, hy⟩
      · exact Or.inl heq
      · exact Or.inr ⟨⟨_, hx⟩, _, hy⟩
      · exact Or.inr ⟨⟨_, hx⟩, _, hy⟩
  · rintro (h | ⟨⟨s, hx⟩, t, hy⟩)
    · exact Or.inl (unpacked_inj h)
    · refine Or.inr ?_
      rw [float_same, hx, hy]
      cases s <;> cases t <;> rfl

/-- What a float keeps of the value of an operation. -/
def repacked (u : UnpackedFloat) : UnpackedFloat :=
  UnpackedFloat.unpack .binary64 (UnpackedFloat.pack .binary64 u)

theorem OneOrZeros.repacked {u v : UnpackedFloat} (h : OneOrZeros u v) :
    OneOrZeros (repacked u) (repacked v) := by
  rcases h with rfl | ⟨⟨s, rfl⟩, t, rfl⟩
  · exact Or.inl rfl
  · exact Or.inr ⟨⟨s, UnpackedFloat.unpack_packedZero⟩, t, UnpackedFloat.unpack_packedZero⟩

theorem unpacked_add (x y : Float) :
    unpacked (x + y) = repacked ((unpacked x).add .binary64 (unpacked y)) := rfl

theorem unpacked_sub (x y : Float) :
    unpacked (x - y) = repacked ((unpacked x).sub .binary64 (unpacked y)) := rfl

theorem unpacked_mul (x y : Float) :
    unpacked (x * y) = repacked ((unpacked x).mul .binary64 (unpacked y)) := rfl

theorem unpacked_div (x y : Float) :
    unpacked (x / y) = repacked ((unpacked x).div .binary64 (unpacked y)) := rfl

/-- **What is computed from floats that compare alike compares alike.** -/
instance instCongruentFloat : Congruent Float where
  add ha hb := by
    rw [alike_iff] at ha hb ⊢
    rw [unpacked_add, unpacked_add]
    exact (add_ignoresSign.congr ha hb).repacked
  sub ha hb := by
    rw [alike_iff] at ha hb ⊢
    rw [unpacked_sub, unpacked_sub]
    exact (sub_ignoresSign.congr ha hb).repacked
  mul ha hb := by
    rw [alike_iff] at ha hb ⊢
    rw [unpacked_mul, unpacked_mul]
    exact (mul_ignoresSign.congr ha hb).repacked

end EvidenceRank.Score
