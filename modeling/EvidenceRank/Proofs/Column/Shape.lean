import EvidenceRank.Column
import EvidenceRank.Proofs.Score.Exact
import Mathlib.Algebra.BigOperators.Ring.List
import Mathlib.Algebra.Order.BigOperators.Group.List
import Mathlib.Analysis.Real.Sqrt
import Mathlib.Tactic.FieldSimp
import Mathlib.Tactic.Ring

/-!
# The shape of a rescaled column

What the two normalisers make of the values of a column in exact arithmetic. Both divide by a
spread of the column, the width of its range or its deviation, and both spreads vanish exactly for
a column that is `Flat`: the range because the extremes are values of the column
(`least_lt_greatest_iff`), the deviation because a sum of squares vanishes only if all of them do
(`variance_eq_zero_iff`).

Result:
* `normalised_shape`: a flat column is refused at every value, and any other column has the shape
  `Shaped`: centred values in the right range and order, and deviations whose sum is 0 and whose
  squares sum to one less than the count.
-/

namespace EvidenceRank

/-! ## Summaries -/

namespace ColumnStats

variable {σ : Type} [Score σ]

/-- The distance from the middle of the range, in widths of it, whatever the width. -/
def centered (stats : ColumnStats σ) (x : σ) : σ :=
  (x - (stats.min + stats.max) / 2.0) / (stats.max - stats.min)

/-- The distance from the mean, in deviations, whatever the deviation. -/
def standardized (stats : ColumnStats σ) (x : σ) : σ := (x - stats.mean) / stats.std

theorem minMaxCentered_eq (stats : ColumnStats σ) (x : σ) : stats.minMaxCentered x =
    if usable (stats.max - stats.min) then .ok (stats.centered x)
    else .error ⟨stats.max - stats.min⟩ := rfl

theorem zeroScore_eq (stats : ColumnStats σ) (x : σ) : stats.zeroScore x =
    if usable stats.std && Score.isFinite stats.mean then .ok (stats.standardized x)
    else .error ⟨stats.std⟩ := rfl

end ColumnStats

namespace Column

section Summary

variable {σ : Type}

/-- All values of a column are the same. -/
def Flat (column : List σ) : Prop := ∀ x ∈ column, ∀ y ∈ column, x = y

theorem one_lt_length {column : List σ} (hflat : ¬ Flat column) : 1 < column.length := by
  by_contra hle
  refine hflat fun x hx y hy => ?_
  match column, hle with
  | [z], _ => rw [List.mem_singleton.mp hx, List.mem_singleton.mp hy]
  | _ :: _ :: _, hle => exact absurd (by simp) hle

variable [Score σ]

/-- The mean, as the summary of a column computes it. -/
def mean (column : List σ) : σ := Score.sum column / Score.ofCount column.length

/-- What the summary of a column is, as long as the column is not empty. -/
def summary (column : List σ) : ColumnStats σ where
  count := column.length
  min := Score.least column
  max := Score.greatest column
  mean := mean column
  std := ColumnStats.deviation column (mean column)

theorem ofScores?_eq_some {column : List σ} (hne : column ≠ []) :
    ColumnStats.ofScores? column = some (summary column) := by
  cases column with
  | nil => exact absurd rfl hne
  | cons x column => rfl

end Summary

open Exact

variable {K : Type} [Field K] [LinearOrder K] {root : K → K}

/-- The sum of the squared distances from a point. -/
def squares (column : List (Exact root)) (c : K) : K :=
  (column.map fun s => (s.value - c) ^ 2).sum

/-- The variance of a sample, which is 0 for a single value. -/
def variance (column : List (Exact root)) : K :=
  squares column (mean column).value / (column.length - 1 : Nat)

/-- The computed deviation is exact: it is not negative, and its square is the variance. -/
def DeviatesExactly (column : List (Exact root)) : Prop :=
  0 ≤ (summary column).std.value ∧ (summary column).std.value ^ 2 = variance column

/-- Both normalisers accept every value, and rescale those of the column as they should. -/
structure Shaped (column : List (Exact root)) (stats : ColumnStats (Exact root)) : Prop where
  centers : ∀ x, stats.minMaxCentered x = .ok (stats.centered x)
  range : ∀ x ∈ column, -(1 / 2) ≤ (stats.centered x).value ∧ (stats.centered x).value ≤ 1 / 2
  minima : ∀ x ∈ column, (stats.centered x).value = -(1 / 2) ↔ ∀ y ∈ column, x ≤ y
  maxima : ∀ x ∈ column, (stats.centered x).value = 1 / 2 ↔ ∀ y ∈ column, y ≤ x
  order : ∀ x y, stats.centered x < stats.centered y ↔ x < y
  standardizes : ∀ x, stats.zeroScore x = .ok (stats.standardized x)
  sum : (Score.sum (column.map stats.standardized)).value = 0
  squareSum :
    (Score.sum (column.map fun x => stats.standardized x * stats.standardized x)).value =
      column.length - 1

variable [IsStrictOrderedRing K] {column : List (Exact root)}

theorem usable_iff {spread : Exact root} : ColumnStats.usable spread = true ↔ 0 < spread.value := by
  rw [ColumnStats.usable, isFinite_eq, Bool.true_and, lt_eq_true_iff, lt_iff_value, value_zero]

/-! ## The range -/

omit [IsStrictOrderedRing K] in
/-- **A column has a range exactly if it is not flat.** -/
theorem least_lt_greatest_iff (hne : column ≠ []) :
    Score.least column < Score.greatest column ↔ ¬ Flat column := by
  constructor
  · intro hlt hflat
    exact hlt.ne (hflat _ (least_mem hne) _ (greatest_mem hne))
  · intro hflat
    by_contra hge
    refine hflat fun x hx y hy => le_antisymm ?_ ?_
    · exact (le_greatest hx).trans ((not_lt.mp hge).trans (least_le hy))
    · exact (le_greatest hy).trans ((not_lt.mp hge).trans (least_le hx))

theorem usable_range_iff (hne : column ≠ []) :
    ColumnStats.usable ((summary column).max - (summary column).min) = true ↔ ¬ Flat column := by
  rw [usable_iff, value_sub, sub_pos, ← lt_iff_value]
  exact least_lt_greatest_iff hne

section Centered

variable {stats : ColumnStats (Exact root)} (h : stats.min < stats.max)

theorem value_centered (stats : ColumnStats (Exact root)) (x : Exact root) :
    (stats.centered x).value =
      (x.value - (stats.min.value + stats.max.value) / 2) /
        (stats.max.value - stats.min.value) := by
  simp [ColumnStats.centered]

include h

theorem width_pos : 0 < stats.max.value - stats.min.value :=
  sub_pos.mpr (lt_iff_value.mp h)

theorem centered_lt_iff {x y : Exact root} : stats.centered x < stats.centered y ↔ x < y := by
  rw [lt_iff_value, value_centered, value_centered, div_lt_div_iff_of_pos_right (width_pos h),
    sub_lt_sub_iff_right, lt_iff_value]

theorem centered_strictMono : StrictMono stats.centered := fun _ _ => (centered_lt_iff h).mpr

theorem centered_min : (stats.centered stats.min).value = -(1 / 2) := by
  have hwidth := (width_pos h).ne'
  rw [value_centered]
  field_simp
  ring

theorem centered_max : (stats.centered stats.max).value = 1 / 2 := by
  have hwidth := (width_pos h).ne'
  rw [value_centered]
  field_simp
  ring

/-- Only the least value is sent to the lower end. -/
theorem centered_eq_low_iff {x : Exact root} :
    (stats.centered x).value = -(1 / 2) ↔ x = stats.min := by
  rw [← centered_min h, value_injective.eq_iff, (centered_strictMono h).injective.eq_iff]

/-- Only the greatest value is sent to the upper end. -/
theorem centered_eq_high_iff {x : Exact root} :
    (stats.centered x).value = 1 / 2 ↔ x = stats.max := by
  rw [← centered_max h, value_injective.eq_iff, (centered_strictMono h).injective.eq_iff]

end Centered

omit [IsStrictOrderedRing K] in
theorem eq_least_iff {x : Exact root} (hx : x ∈ column) :
    x = Score.least column ↔ ∀ y ∈ column, x ≤ y := by
  constructor
  · rintro rfl y hy
    exact least_le hy
  · intro h
    exact le_antisymm (h _ (least_mem (List.ne_nil_of_mem hx))) (least_le hx)

omit [IsStrictOrderedRing K] in
theorem eq_greatest_iff {x : Exact root} (hx : x ∈ column) :
    x = Score.greatest column ↔ ∀ y ∈ column, y ≤ x := by
  constructor
  · rintro rfl y hy
    exact le_greatest hy
  · intro h
    exact le_antisymm (le_greatest hx) (h _ (greatest_mem (List.ne_nil_of_mem hx)))

/-! ## The variance -/

theorem value_mean : (mean column).value = (column.map value).sum / column.length := by
  rw [mean, value_div, value_sum, value_ofCount]

/-- The distances from the mean cancel out. -/
theorem sum_distances (hne : column ≠ []) :
    (column.map fun s => s.value - (mean column).value).sum = 0 := by
  have hlength : (column.length : K) ≠ 0 := by
    exact_mod_cast (List.length_pos_iff.mpr hne).ne'
  simp only [sub_eq_add_neg, List.sum_map_add, List.map_const', List.sum_replicate, nsmul_eq_mul]
  rw [value_mean, mul_neg, mul_div_cancel₀ _ hlength, add_neg_cancel]

/-- A sum of squared distances vanishes only if every distance does. -/
theorem squares_eq_zero_iff {c : K} : squares column c = 0 ↔ ∀ x ∈ column, x.value = c := by
  have hnonneg : ∀ x ∈ column.map fun s => (s.value - c) ^ 2, 0 ≤ x := by
    intro x hx
    obtain ⟨s, -, rfl⟩ := List.mem_map.mp hx
    exact sq_nonneg _
  unfold squares
  constructor
  · intro hsum x hx
    have hzero := List.all_zero_of_le_zero_le_of_sum_eq_zero hnonneg hsum
      (List.mem_map.mpr ⟨x, hx, rfl⟩)
    exact sub_eq_zero.mp (pow_eq_zero_iff two_ne_zero |>.mp hzero)
  · intro h
    refine List.sum_eq_zero fun x hx => ?_
    obtain ⟨s, hs, rfl⟩ := List.mem_map.mp hx
    rw [h s hs, sub_self, zero_pow two_ne_zero]

/-- The mean of a flat column is its value. -/
theorem value_eq_mean_of_flat (hflat : Flat column) {x : Exact root} (hx : x ∈ column) :
    x.value = (mean column).value := by
  have hlength : (column.length : K) ≠ 0 := by
    exact_mod_cast (List.length_pos_of_mem hx).ne'
  have hsame : column.map value = List.replicate column.length x.value := by
    rw [← List.length_map value]
    refine List.eq_replicate_of_mem fun v hv => ?_
    obtain ⟨y, hy, rfl⟩ := List.mem_map.mp hv
    rw [hflat y hy x hx]
  rw [value_mean, hsame, List.sum_replicate, nsmul_eq_mul, mul_div_cancel_left₀ _ hlength]

theorem natCast_length_sub_one (hflat : ¬ Flat column) :
    ((column.length - 1 : Nat) : K) ≠ 0 := by
  have hlong := one_lt_length hflat
  exact_mod_cast (by omega : column.length - 1 ≠ 0)

/-- **A column has a variance exactly if it is not flat.** -/
theorem variance_eq_zero_iff : variance column = 0 ↔ Flat column := by
  constructor
  · intro hzero
    by_contra hflat
    have hsquares := (div_eq_zero_iff.mp hzero).resolve_right (natCast_length_sub_one hflat)
    have hmean := squares_eq_zero_iff.mp hsquares
    exact hflat fun x hx y hy => value_injective ((hmean x hx).trans (hmean y hy).symm)
  · intro hflat
    rw [variance, squares_eq_zero_iff.mpr fun x hx => value_eq_mean_of_flat hflat hx, zero_div]

theorem usable_deviation_iff (hdeviation : DeviatesExactly column) :
    ColumnStats.usable (summary column).std = true ↔ ¬ Flat column := by
  rw [usable_iff, hdeviation.1.lt_iff_ne', ← variance_eq_zero_iff, ← hdeviation.2, ne_eq,
    pow_eq_zero_iff two_ne_zero]

/-- The computed deviation is the root of the variance, but for a single value. -/
theorem value_std : (summary column).std.value =
    if 1 < column.length then root (variance column) else 0 := by
  have hsquares : (Score.sum (column.map fun s => (s - mean column) * (s - mean column))).value =
      squares column (mean column).value := by
    rw [value_sum, List.map_map, squares]
    exact congrArg List.sum (List.map_congr_left fun x _ => (sq _).symm)
  show (ColumnStats.deviation column (mean column)).value = _
  unfold ColumnStats.deviation
  split
  · rw [value_sqrt, value_div, hsquares, value_ofCount, variance]
  · exact value_zero

/-- A root of the variance makes the computed deviation exact. -/
theorem deviatesExactly_of_root (hnonneg : 0 ≤ root (variance column))
    (hsquare : root (variance column) ^ 2 = variance column) : DeviatesExactly column := by
  unfold DeviatesExactly
  rw [value_std]
  split
  · exact ⟨hnonneg, hsquare⟩
  · rename_i hshort
    rw [variance_eq_zero_iff.mpr (not_not.mp (mt one_lt_length hshort))]
    exact ⟨le_rfl, zero_pow two_ne_zero⟩

theorem variance_nonneg : 0 ≤ variance column := by
  refine div_nonneg (List.sum_nonneg fun x hx => ?_) (Nat.cast_nonneg _)
  obtain ⟨s, -, rfl⟩ := List.mem_map.mp hx
  exact sq_nonneg _

/-- Deviations of real numbers are exact. -/
theorem deviatesExactly_sqrt (column : List (Exact Real.sqrt)) : DeviatesExactly column :=
  deviatesExactly_of_root (Real.sqrt_nonneg _) (Real.sq_sqrt variance_nonneg)

/-! ## Deviations -/

theorem sum_standardized (hne : column ≠ []) :
    (Score.sum (column.map (summary column).standardized)).value = 0 := by
  rw [value_sum, List.map_map]
  simp only [Function.comp_def, ColumnStats.standardized, summary, value_div, value_sub,
    div_eq_mul_inv, List.sum_map_mul_right]
  rw [sum_distances hne, zero_mul]

theorem sum_square_standardized (hflat : ¬ Flat column) (hdeviation : DeviatesExactly column) :
    (Score.sum (column.map fun x =>
      (summary column).standardized x * (summary column).standardized x)).value =
        column.length - 1 := by
  have hvariance : variance column ≠ 0 := mt variance_eq_zero_iff.mp hflat
  have hlength := natCast_length_sub_one hflat
  have hsquare : ∀ x : Exact root,
      ((summary column).standardized x * (summary column).standardized x).value =
        (x.value - (mean column).value) ^ 2 * (variance column)⁻¹ := by
    intro x
    rw [← hdeviation.2, value_mul, ← sq, ← div_eq_mul_inv, ← div_pow]
    rfl
  calc (Score.sum (column.map fun x =>
        (summary column).standardized x * (summary column).standardized x)).value
      = squares column (mean column).value * (variance column)⁻¹ := by
        rw [value_sum, List.map_map, squares, ← List.sum_map_mul_right]
        exact congrArg List.sum (List.map_congr_left fun x _ => hsquare x)
    _ = (column.length - 1 : Nat) := by
        rw [mul_inv_eq_iff_eq_mul₀ hvariance, variance, mul_div_cancel₀ _ hlength]
    _ = column.length - 1 := by
        rw [Nat.cast_sub (one_lt_length hflat).le, Nat.cast_one]

/-! ## Both normalisers -/

/-- **A column that is not flat has the promised shape.** -/
theorem shaped_summary (hne : column ≠ []) (hflat : ¬ Flat column)
    (hdeviation : DeviatesExactly column) : Shaped column (summary column) := by
  have hlt : (summary column).min < (summary column).max := (least_lt_greatest_iff hne).mpr hflat
  have hmono := (centered_strictMono hlt).monotone
  constructor
  case centers =>
    intro x
    rw [ColumnStats.minMaxCentered_eq, (usable_range_iff hne).mpr hflat]
    rfl
  case range =>
    intro x hx
    rw [← centered_min hlt, ← centered_max hlt]
    exact ⟨hmono (least_le hx), hmono (le_greatest hx)⟩
  case minima =>
    intro x hx
    rw [centered_eq_low_iff hlt]
    exact eq_least_iff hx
  case maxima =>
    intro x hx
    rw [centered_eq_high_iff hlt]
    exact eq_greatest_iff hx
  case order => exact fun x y => centered_lt_iff hlt
  case standardizes =>
    intro x
    rw [ColumnStats.zeroScore_eq, (usable_deviation_iff hdeviation).mpr hflat]
    rfl
  case sum => exact sum_standardized hne
  case squareSum => exact sum_square_standardized hflat hdeviation

/-- **A column that is flat is refused at every value, and any other column has the promised
shape.** -/
theorem normalised_shape (hne : column ≠ []) (hdeviation : DeviatesExactly column) :
    ∃ stats, ColumnStats.ofScores? column = some stats ∧
      (Flat column → ∀ x, (∃ d, stats.zeroScore x = .error d) ∧
        ∃ d, stats.minMaxCentered x = .error d) ∧
      (¬ Flat column → Shaped column stats) := by
  refine ⟨summary column, ofScores?_eq_some hne, fun hflat x => ?_, fun hflat => ?_⟩
  · have hdev : ¬ ColumnStats.usable (summary column).std = true :=
      mt (usable_deviation_iff hdeviation).mp (not_not_intro hflat)
    have hrange : ¬ ColumnStats.usable ((summary column).max - (summary column).min) = true :=
      mt (usable_range_iff hne).mp (not_not_intro hflat)
    rw [ColumnStats.zeroScore_eq, ColumnStats.minMaxCentered_eq, if_neg hrange,
      if_neg fun h => hdev (Bool.and_eq_true_iff.mp h).1]
    exact ⟨⟨_, rfl⟩, _, rfl⟩
  · exact shaped_summary hne hflat hdeviation

/-- Two real numbers are sent to the two ends of the range. -/
theorem normalised_shape_of_two :
    ∃ stats, ColumnStats.ofScores? [(⟨1⟩ : Exact Real.sqrt), ⟨3⟩] = some stats ∧
      Shaped [⟨1⟩, ⟨3⟩] stats := by
  obtain ⟨stats, hstats, -, hshaped⟩ :=
    normalised_shape (List.cons_ne_nil _ _) (deviatesExactly_sqrt [⟨1⟩, ⟨3⟩])
  refine ⟨stats, hstats, hshaped fun hflat => ?_⟩
  have h := hflat ⟨1⟩ List.mem_cons_self ⟨3⟩ (List.mem_cons_of_mem _ List.mem_cons_self)
  have hvalue : (1 : ℝ) = 3 := congrArg value h
  norm_num at hvalue

end Column
end EvidenceRank
