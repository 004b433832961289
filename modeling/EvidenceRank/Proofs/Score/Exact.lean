import EvidenceRank.Proofs.Score.Least
import Mathlib.Algebra.BigOperators.Group.List.Basic
import Mathlib.Algebra.Order.Field.Basic
import Mathlib.Data.Rat.Cast.OfScientific
import Mathlib.Tactic.NormNum

/-!
# Exact score arithmetic

Scores read as elements of an ordered field: every value is a number, comparisons are those of the
field, and nothing is rounded. Square roots are a parameter, since a field need not have them; the
real numbers with their square root are one instance, the rational numbers with any function that
is a root where one is taken are another.

Results:
* `instLawfulOrderExact`: exact scores are weakly ordered, so all that is known of ranking holds.
* `least_mem`, `least_le`, `greatest_mem`, `le_greatest`: the extremes of a column.
* `value_sum`: the sum of a column.
-/

namespace EvidenceRank

/-- A score in exact arithmetic, where `root` stands for the square root. -/
@[ext]
structure Exact {K : Type} (root : K → K) where
  value : K

namespace Exact

variable {K : Type} {root : K → K}

theorem value_injective : Function.Injective (value : Exact root → K) := fun _ _ => Exact.ext

variable [LinearOrder K]

instance : LinearOrder (Exact root) := LinearOrder.lift' value value_injective

theorem le_iff_value {x y : Exact root} : x ≤ y ↔ x.value ≤ y.value := Iff.rfl

theorem lt_iff_value {x y : Exact root} : x < y ↔ x.value < y.value := Iff.rfl

variable [Field K]

instance : Score (Exact root) where
  add x y := ⟨x.value + y.value⟩
  sub x y := ⟨x.value - y.value⟩
  mul x y := ⟨x.value * y.value⟩
  div x y := ⟨x.value / y.value⟩
  neg x := ⟨-x.value⟩
  ofScientific m s e := ⟨OfScientific.ofScientific m s e⟩
  ofCount n := ⟨n⟩
  sqrt x := ⟨root x.value⟩
  lt x y := decide (x < y)
  le x y := decide (x ≤ y)
  same x y := decide (x = y)
  isNaN _ := false
  isFinite _ := true
  top := ⟨0⟩
  bottom := ⟨0⟩

variable (x y : Exact root)

/-! ## Operations -/

@[simp]
theorem value_add : (x + y).value = x.value + y.value := rfl

@[simp]
theorem value_sub : (x - y).value = x.value - y.value := rfl

@[simp]
theorem value_mul : (x * y).value = x.value * y.value := rfl

@[simp]
theorem value_div : (x / y).value = x.value / y.value := rfl

@[simp]
theorem value_ofCount (n : Nat) : (Score.ofCount n : Exact root).value = n := rfl

@[simp]
theorem value_sqrt : (Score.sqrt x).value = root x.value := rfl

@[simp]
theorem isFinite_eq : Score.isFinite x = true := rfl

@[simp]
theorem isNaN_eq : Score.isNaN x = false := rfl

theorem lt_eq_true_iff {x y : Exact root} : Score.lt x y = true ↔ x < y := decide_eq_true_iff

theorem lt_eq_false_iff {x y : Exact root} : Score.lt x y = false ↔ y ≤ x := by
  rw [← Bool.not_eq_true, lt_eq_true_iff, not_lt]

theorem le_eq_true_iff {x y : Exact root} : Score.le x y = true ↔ x ≤ y := decide_eq_true_iff

theorem same_eq_true_iff {x y : Exact root} : Score.same x y = true ↔ x = y := decide_eq_true_iff

instance instLawfulOrderExact : Score.LawfulOrder (Exact root) where
  isNaN_of_lt _ := ⟨rfl, rfl⟩
  lt_asymm h := lt_eq_false_iff.mpr (lt_eq_true_iff.mp h).le
  lt_cotrans {a b c} _ h := by
    simp only [lt_eq_true_iff] at h ⊢
    exact (lt_or_ge a b).imp_right fun hba => hba.trans_lt h
  le_iff {a b} := by
    rw [le_eq_true_iff, lt_eq_false_iff]
    exact ⟨fun h => ⟨rfl, rfl, h⟩, fun h => h.2.2⟩
  same_iff {a b} := by
    rw [same_eq_true_iff, lt_eq_false_iff, lt_eq_false_iff, le_antisymm_iff, and_comm]
    exact ⟨fun h => ⟨rfl, rfl, h⟩, fun h => h.2.2⟩

/-! ## Literals -/

variable [IsStrictOrderedRing K]

@[simp]
theorem value_zero : (0.0 : Exact root).value = 0 := by
  show (0.0 : K) = 0
  norm_num

@[simp]
theorem value_two : (2.0 : Exact root).value = 2 := by
  show (2.0 : K) = 2
  norm_num

/-! ## Columns -/

variable {column : List (Exact root)}

theorem value_sum : (Score.sum column).value = (column.map value).sum := by
  have hfoldl : ∀ (column : List (Exact root)) (start : Exact root),
      (column.foldl (· + ·) start).value = start.value + (column.map value).sum := by
    intro column
    induction column with
    | nil => simp
    | cons x column ih => intro start; simp [ih, add_assoc]
  rw [Score.sum, hfoldl, value_zero, zero_add]

omit [IsStrictOrderedRing K] in
theorem least_mem (h : column ≠ []) : Score.least column ∈ column := by
  cases Score.least_minimum column with
  | number mem _ _ => exact mem
  | absent noNumber _ =>
    obtain ⟨x, hx⟩ := List.exists_mem_of_ne_nil column h
    exact absurd (noNumber x hx) Bool.false_ne_true

omit [IsStrictOrderedRing K] in
theorem least_le {x : Exact root} (h : x ∈ column) : Score.least column ≤ x := by
  cases Score.least_minimum column with
  | number _ _ below => exact lt_eq_false_iff.mp (below x h)
  | absent noNumber _ => exact absurd (noNumber x h) Bool.false_ne_true

omit [IsStrictOrderedRing K] in
theorem greatest_mem (h : column ≠ []) : Score.greatest column ∈ column := by
  cases Score.greatest_maximum column with
  | number mem _ _ => exact mem
  | absent noNumber _ =>
    obtain ⟨x, hx⟩ := List.exists_mem_of_ne_nil column h
    exact absurd (noNumber x hx) Bool.false_ne_true

omit [IsStrictOrderedRing K] in
theorem le_greatest {x : Exact root} (h : x ∈ column) : x ≤ Score.greatest column := by
  cases Score.greatest_maximum column with
  | number _ _ above => exact lt_eq_false_iff.mp (above x h)
  | absent noNumber _ => exact absurd (noNumber x h) Bool.false_ne_true

end Exact
end EvidenceRank
