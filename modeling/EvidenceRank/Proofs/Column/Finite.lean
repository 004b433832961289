import EvidenceRank.Proofs.Column.Shape
import EvidenceRank.Proofs.Score.Range

/-!
# Which rescaled values are finite

The normalisers refuse a column whose spread cannot be divided by, but a usable spread alone does
not make a quotient finite: the spread may be tiny next to what is divided by it, and what goes
into the numerator may leave the range before the spread does.

* Deviations are safe. Every value's squared distance from the mean is part of the sum that the
  deviation is computed from, so a value is at most `2 ^ 514` deviations away from the mean
  (`distance_bounds`).
* Centred values are not: the middle of the range is computed from the sum of both ends, and what
  is no number is passed over by both ends. `centered_finite_iff` says that nothing else goes
  wrong.

Results:
* `standardized_finite`: a value of a column in deviations is finite.
* `centered_finite_iff`: a value of a column is centred to a finite one exactly if it is a number
  and the sum of both ends is finite.
* `normalised_finite`, `standardOf_finite`, `centerOf_finite_iff`: the same of what the normalisers
  answer, and of what they are rescaled to when a column is refused.
-/

namespace EvidenceRank.Column

open Score Decimal

/-! ## Usable spreads -/

theorem val_two : val 2.0 = 2 := by
  have htwo : unpacked 2.0 = .finite .positive (2 ^ 52) (-51) (by decide) := rfl
  rw [val, htwo, value, factor, scaled]
  norm_num

theorem representable_two : Representable 2 := by
  have h := representable_pow 1
  rwa [pow_one] at h

theorem pos_of_usable {spread : Float} (h : ColumnStats.usable spread = true) :
    isFinite spread = true ∧ 0 < val spread := by
  obtain ⟨hfinite, hlt⟩ := Bool.and_eq_true_iff.mp h
  rw [lt_iff_val rfl hfinite, val_zero] at hlt
  exact ⟨hfinite, hlt⟩

/-! ## Deviations -/

/-- A square is at most twice its rounding, or below the least double. -/
theorem square_bound {d : Float} (h : isFinite (d * d) = true) :
    0 ≤ val (d * d) ∧ (val d ^ 2 ≤ 2 * val (d * d) ∨ val d ^ 2 ≤ 2 ^ (-1074 : Int)) := by
  have hrounds := rounds_mul h
  have hnonneg : 0 ≤ val (d * d) := hrounds.ge representable_zero (mul_self_nonneg _)
  refine ⟨hnonneg, ?_⟩
  rcases hnonneg.lt_or_eq with hpos | hzero
  · exact Or.inl ((sq (val d)).trans_le (hrounds.le_double hpos))
  · refine Or.inr (not_lt.mp fun hlt => ?_)
    have hge := hrounds.ge (representable_two_pow (k := -1074) le_rfl)
      (hlt.le.trans_eq (sq (val d)))
    have hleast : (0 : ℚ) < 2 ^ (-1074 : Int) := by positivity
    exact absurd (hge.trans_eq hzero.symm) (not_le.mpr hleast)

/-- A quotient of a sum that is not negative: twice the quotient times a number in range exceeds
the sum. -/
theorem le_of_quotient {s c : Float} (h : isFinite (s / c) = true) (hpos : 0 < val (s / c))
    (hs : isFinite s = true → 0 ≤ val s) :
    isFinite s = true ∧ val s ≤ 2 * val (s / c) * 2 ^ 1024 := by
  have hfinite := isFinite_numerator h
  obtain ⟨hc, hne⟩ := isFinite_denominator h hpos.ne'
  have hrounds := rounds_div h hc hne
  have hquotient : 0 < val s / val c := by
    by_contra hle
    exact absurd (hrounds.le representable_zero (not_lt.mp hle)) (not_le.mpr hpos)
  have hcpos : 0 < val c := by
    rcases hne.lt_or_gt with hneg | hcpos
    · exact absurd (div_nonpos_of_nonneg_of_nonpos (hs hfinite) hneg.le) (not_le.mpr hquotient)
    · exact hcpos
  have hrange : val c < 2 ^ 1024 := (le_abs_self _).trans_lt (abs_val_lt hc)
  refine ⟨hfinite, ?_⟩
  calc val s = val s / val c * val c := (div_mul_cancel₀ _ hne).symm
    _ ≤ 2 * val (s / c) * val c :=
      mul_le_mul_of_nonneg_right (hrounds.le_double hpos) hcpos.le
    _ ≤ 2 * val (s / c) * 2 ^ 1024 :=
      mul_le_mul_of_nonneg_left hrange.le (by linarith)

/-- A sum of squared distances is not negative, and no distance's square exceeds it. -/
theorem squares_bounds {column : List Float} {mean : Float}
    (h : isFinite (Score.sum (column.map fun s => (s - mean) * (s - mean))) = true) :
    0 ≤ val (Score.sum (column.map fun s => (s - mean) * (s - mean))) ∧
      ∀ x ∈ column, isFinite ((x - mean) * (x - mean)) = true ∧ val ((x - mean) * (x - mean)) ≤
        val (Score.sum (column.map fun s => (s - mean) * (s - mean))) := by
  have hsquares : ∀ p ∈ column.map fun s => (s - mean) * (s - mean),
      isFinite p = true → 0 ≤ val p := by
    intro p hp hp'
    obtain ⟨y, -, rfl⟩ := List.mem_map.mp hp
    exact (square_bound hp').1
  obtain ⟨hnonneg, hle⟩ := sum_bounds h hsquares
  exact ⟨hnonneg, fun x hx => hle _ (List.mem_map.mpr ⟨x, hx, rfl⟩)⟩

/-- **No value of a column is further than `2 ^ 514` deviations from the mean.** -/
theorem distance_bounds {column : List Float} {mean x : Float} (hx : x ∈ column)
    (h : ColumnStats.usable (ColumnStats.deviation column mean) = true) :
    isFinite (x - mean) = true ∧
      |val (x - mean)| ≤ 2 ^ 514 * val (ColumnStats.deviation column mean) := by
  obtain ⟨hfinite, hpos⟩ := pos_of_usable h
  by_cases hlong : 1 < column.length
  · rw [ColumnStats.deviation, if_pos hlong] at hfinite hpos ⊢
    generalize hsum : Score.sum (column.map fun s => (s - mean) * (s - mean)) = s at hfinite hpos ⊢
    generalize (ofCount (column.length - 1) : Float) = c at hfinite hpos ⊢
    obtain ⟨hquotient, hqpos, hroot⟩ := sqrt_bounds hfinite hpos
    obtain ⟨hs, hsle⟩ := le_of_quotient hquotient hqpos fun hs => by
      rw [← hsum] at hs ⊢
      exact (squares_bounds hs).1
    rw [← hsum] at hs
    obtain ⟨hp, hple⟩ := (squares_bounds hs).2 x hx
    rw [hsum] at hple
    refine ⟨(isFinite_operands_mul hp).1, ?_⟩
    have hleast := (representable_val hquotient).least_le hqpos
    have hpower : ((2 : ℚ) ^ 514) ^ 2 = 16 * 2 ^ 1024 := by
      rw [← pow_mul, show 514 * 2 = 4 + 1024 from rfl, pow_add]
      norm_num
    have hone : (1 : ℚ) ≤ 2 ^ 1024 := one_le_pow₀ one_le_two
    have hsquare : val (x - mean) ^ 2 ≤ (2 ^ 514 * val (sqrt (s / c))) ^ 2 := by
      rw [mul_pow, hpower]
      generalize (2 : ℚ) ^ 1024 = range at hsle hone ⊢
      have hgrown := le_mul_of_one_le_right hqpos.le hone
      have hrange := mul_le_mul_of_nonneg_right hroot (zero_le_one.trans hone)
      calc val (x - mean) ^ 2 ≤ 4 * (val (s / c) * range) := by
            rcases (square_bound hp).2 with hle | hle <;> linarith
        _ ≤ 16 * range * val (sqrt (s / c)) ^ 2 := by linarith
    exact abs_le_of_sq_le_sq hsquare (by positivity)
  · rw [ColumnStats.deviation, if_neg hlong] at hpos
    exact absurd val_zero hpos.ne'

/-- **A value of a column in deviations is finite.** -/
theorem standardized_finite {column : List Float} {x : Float} (hx : x ∈ column)
    (h : ColumnStats.usable (summary column).std = true) :
    isFinite ((summary column).standardized x) = true := by
  obtain ⟨hdistance, hle⟩ := distance_bounds hx h
  obtain ⟨hfinite, hpos⟩ := pos_of_usable h
  have hbound : |val (x - (summary column).mean) / val (summary column).std| ≤ 2 ^ 514 := by
    rw [abs_div, abs_of_pos hpos, div_le_iff₀ hpos]
    exact hle
  have hrange : (2 : ℚ) ^ 514 < 2 ^ 1024 := pow_lt_pow_right₀ one_lt_two (by decide)
  exact isFinite_div hdistance hfinite (representable_pow 514) hrange hpos.ne' hbound

/-! ## Centred values -/

/-- The greatest double. -/
def greatestDouble : ℚ := scaled (2 ^ 53 - 1) 971

/-- A finite float does not exceed the greatest double. -/
theorem abs_val_le {x : Float} (h : isFinite x = true) : |val x| ≤ greatestDouble := by
  have hrange : (2 : ℚ) ^ (53 + 971 : Int) = 2 ^ 1024 := zpow_natCast 2 1024
  exact (representable_val h).le_greatest (hrange ▸ abs_val_lt h)

theorem representable_greatest : Representable greatestDouble :=
  representable_scaled (by decide) (by decide)

theorem greatest_lt : greatestDouble < 2 ^ 1024 := by
  have hrange : scaled (2 ^ 53) 971 = 2 ^ 1024 :=
    (scaled_two_pow 53 971).trans (zpow_natCast 2 1024)
  rw [← hrange]
  exact scaled_lt_iff.mpr (by decide)

theorem half_greatest : greatestDouble / 2 = scaled (2 ^ 53 - 1) 970 := by
  have h : scaled (2 ^ 53 - 1) 971 = 2 * scaled (2 ^ 53 - 1) 970 := by
    rw [scaled, scaled, show (971 : Int) = 970 + 1 from rfl, zpow_add_one₀ two_ne_zero]
    ring
  rw [greatestDouble, h]
  exact mul_div_cancel_left₀ _ two_ne_zero

/-- A double in the lower half of the range does not exceed half of the greatest one. -/
theorem abs_val_le_half {x : Float} (h : isFinite x = true) (hlt : 2 * |val x| < 2 ^ 1024) :
    |val x| ≤ greatestDouble / 2 := by
  have hrange : (2 : ℚ) ^ 1024 = 2 * 2 ^ (53 + 970 : Int) := by
    rw [pow_succ', mul_right_inj' two_ne_zero]
    exact (zpow_natCast 2 1023).symm
  rw [half_greatest]
  refine (representable_val h).le_greatest ?_
  rw [hrange] at hlt
  linarith

/-- What is known of the middle of a range, as it is computed. -/
structure IsMiddle (lo hi middle : Float) : Prop where
  finite : isFinite middle = true
  low_le : val lo ≤ val middle
  le_high : val middle ≤ val hi
  le_half : |val middle| ≤ greatestDouble / 2
  /-- The middle is on the side of zero that the end further from zero is on. -/
  negative : val middle < 0 → val lo + val hi < 0
  positive : 0 < val middle → 0 < val lo + val hi

/-- **The middle is between the ends** whenever their sum is in range. -/
theorem isMiddle {lo hi : Float} (hsum : isFinite (lo + hi) = true) (hle : val lo ≤ val hi) :
    IsMiddle lo hi ((lo + hi) / 2.0) := by
  obtain ⟨hlo, hhi⟩ := isFinite_operands_add hsum
  have hrange : |val (lo + hi)| < 2 ^ 1024 := abs_val_lt hsum
  have hnonneg := abs_nonneg (val (lo + hi))
  have hbound : |val (lo + hi) / val 2.0| ≤ |val (lo + hi)| := by
    rw [val_two, abs_div, abs_two]
    linarith
  have hfinite : isFinite ((lo + hi) / 2.0) = true :=
    isFinite_div hsum rfl (representable_val hsum).abs hrange (val_two ▸ two_ne_zero) hbound
  have hends := rounds_add hsum
  have hhalf := rounds_div hfinite rfl (val_two ▸ two_ne_zero)
  rw [val_two] at hhalf
  have hlow := hends.ge (representable_val hlo).double (by linarith)
  have hhigh := hends.le (representable_val hhi).double (by linarith)
  change 2 * val lo ≤ val (lo + hi) at hlow
  change val (lo + hi) ≤ 2 * val hi at hhigh
  constructor
  case finite => exact hfinite
  case low_le => exact hhalf.ge (representable_val hlo) (by linarith)
  case le_high => exact hhalf.le (representable_val hhi) (by linarith)
  case le_half =>
    refine hhalf.abs_value_le ?_ ?_
    · rw [half_greatest]
      exact representable_scaled (by decide) (by decide)
    · rw [abs_div, abs_two]
      exact div_le_div_of_nonneg_right (abs_val_le hsum) two_pos.le
  case negative =>
    intro hneg
    by_contra hge
    have hends0 : 0 ≤ val (lo + hi) := hends.ge representable_zero (not_lt.mp hge)
    have hhalf0 := hhalf.ge representable_zero (div_nonneg hends0 two_pos.le)
    exact absurd hhalf0 (not_le.mpr hneg)
  case positive =>
    intro hpos
    by_contra hge
    have hends0 : val (lo + hi) ≤ 0 := hends.le representable_zero (not_lt.mp hge)
    have hhalf0 := hhalf.le representable_zero (div_nonpos_of_nonpos_of_nonneg hends0 two_pos.le)
    exact absurd hhalf0 (not_le.mpr hpos)

/-- **The distance from the middle is in range**, if the width is. On the middle's side of zero a
value is no further from the middle than from zero. On the other side it is nearer to zero than the
end beyond the middle, and both are in the lower half of the range. -/
theorem distance_le {lo hi x middle : Float} (h : IsMiddle lo hi middle) (hx : isFinite x = true)
    (hlx : val lo ≤ val x) (hxh : val x ≤ val hi) (hwidth : val hi - val lo < 2 ^ 1024) :
    |val x - val middle| ≤ greatestDouble := by
  have hx' := abs_le.mp (abs_val_le hx)
  have hmiddle := abs_le.mp h.le_half
  rcases lt_trichotomy (val middle) 0 with hneg | hzero | hpos
  · by_cases hx0 : 0 < val x
    · have hends := h.negative hneg
      have htwice : 2 * |val x| ≤ val hi - val lo := by
        rw [abs_of_pos hx0]
        linarith
      have hhalf := abs_val_le_half hx (htwice.trans_lt hwidth)
      rw [abs_of_pos hx0] at hhalf
      exact abs_le.mpr ⟨by linarith, by linarith⟩
    · exact abs_le.mpr ⟨by linarith, by linarith⟩
  · rw [hzero, sub_zero]
    exact abs_val_le hx
  · by_cases hx0 : val x < 0
    · have hends := h.positive hpos
      have htwice : 2 * |val x| ≤ val hi - val lo := by
        rw [abs_of_neg hx0]
        linarith
      have hhalf := abs_val_le_half hx (htwice.trans_lt hwidth)
      rw [abs_of_neg hx0] at hhalf
      exact abs_le.mpr ⟨by linarith, by linarith⟩
    · exact abs_le.mpr ⟨by linarith, by linarith⟩

/-- **A value between the ends is centred to a finite one**, at most two widths from the middle. -/
theorem centered_bounds {lo hi x : Float} (hx : isFinite x = true) (hlx : val lo ≤ val x)
    (hxh : val x ≤ val hi) (hsum : isFinite (lo + hi) = true)
    (hspread : ColumnStats.usable (hi - lo) = true) :
    isFinite ((x - (lo + hi) / 2.0) / (hi - lo)) = true ∧
      |val ((x - (lo + hi) / 2.0) / (hi - lo))| ≤ 2 := by
  obtain ⟨hfinite, hpos⟩ := pos_of_usable hspread
  have hwidth := rounds_sub hfinite
  have hrange : val hi - val lo < 2 ^ 1024 := by
    by_contra hge
    have hover := hwidth.ge (representable_pow 1024) (not_lt.mp hge)
    exact absurd ((le_abs_self _).trans_lt (abs_val_lt hfinite)) (not_lt.mpr hover)
  have hmiddle := isMiddle hsum (hlx.trans hxh)
  have hdistance : isFinite (x - (lo + hi) / 2.0) = true :=
    isFinite_sub hx hmiddle.finite representable_greatest greatest_lt
      (distance_le hmiddle hx hlx hxh hrange)
  -- the width is at most twice what it is rounded to, and so is the distance
  have hle : |val (x - (lo + hi) / 2.0)| ≤ 2 * val (hi - lo) := by
    refine (rounds_sub hdistance).abs_value_le (representable_val hfinite).double ?_
    refine le_trans ?_ (hwidth.le_double hpos)
    exact abs_le.mpr ⟨by linarith [hmiddle.le_high], by linarith [hmiddle.low_le]⟩
  have hquotient : |val (x - (lo + hi) / 2.0) / val (hi - lo)| ≤ 2 := by
    rwa [abs_div, abs_of_pos hpos, div_le_iff₀ hpos]
  have htwo : (2 : ℚ) < 2 ^ 1024 := lt_self_pow₀ one_lt_two (by decide)
  have hresult := isFinite_div hdistance hfinite representable_two htwo hpos.ne' hquotient
  exact ⟨hresult, (rounds_div hresult hfinite hpos.ne').abs_value_le representable_two hquotient⟩

/-- A number of a column is between both ends, and finite if they are. -/
theorem between_ends {column : List Float} {x : Float} (hx : x ∈ column) (hnumber : isNaN x = false)
    (hlo : isFinite (least column) = true) (hhi : isFinite (greatest column) = true) :
    isFinite x = true ∧ val (least column) ≤ val x ∧ val x ≤ val (greatest column) := by
  have hbelow : lt x (least column) = false := by
    cases least_minimum column with
    | number _ _ below => exact below x hx
    | absent noNumber _ => exact absurd (noNumber x hx) (hnumber ▸ Bool.false_ne_true)
  have habove : lt (greatest column) x = false := by
    cases greatest_maximum column with
    | number _ _ above => exact above x hx
    | absent noNumber _ => exact absurd (noNumber x hx) (hnumber ▸ Bool.false_ne_true)
  have hfinite := isFinite_of_between hnumber hlo hhi hbelow habove
  exact ⟨hfinite, val_le_of_lt_eq_false hfinite hlo hbelow,
    val_le_of_lt_eq_false hhi hfinite habove⟩

/-- What centring needs of a value and of the ends of its column. -/
def Centrable (column : List Float) (x : Float) : Prop :=
  isNaN x = false ∧ isFinite (least column + greatest column) = true

instance (column : List Float) (x : Float) : Decidable (Centrable column x) :=
  inferInstanceAs (Decidable (_ ∧ _))

theorem abs_centered_le {column : List Float} {x : Float} (hx : x ∈ column)
    (hspread : ColumnStats.usable (greatest column - least column) = true)
    (h : Centrable column x) :
    isFinite ((summary column).centered x) = true ∧ |val ((summary column).centered x)| ≤ 2 := by
  obtain ⟨hhi, hlo⟩ := isFinite_operands_sub (pos_of_usable hspread).1
  obtain ⟨hfinite, hlx, hxh⟩ := between_ends hx h.1 hlo hhi
  exact centered_bounds hfinite hlx hxh h.2 hspread

/-- **A value of a column is centred to a finite one exactly if it is a number and the sum of both
ends is finite.** -/
theorem centered_finite_iff {column : List Float} {x : Float} (hx : x ∈ column)
    (hspread : ColumnStats.usable (greatest column - least column) = true) :
    isFinite ((summary column).centered x) = true ↔ Centrable column x := by
  refine ⟨fun hcentered => ?_, fun h => (abs_centered_le hx hspread h).1⟩
  obtain ⟨hfinite, hmiddle⟩ := isFinite_operands_sub (isFinite_numerator hcentered)
  exact ⟨isNaN_of_isFinite hfinite, isFinite_numerator hmiddle⟩

/-! ## Rescaled values -/

/-- A value of a column as it is centred, or what stands in for it. -/
def centerOf (column : List Float) (x : Float) : Float :=
  match (summary column).minMaxCentered x with
  | .ok y => y
  | .error _ => flatCentered

/-- A value of a column in deviations, or what stands in for it. -/
def standardOf (column : List Float) (x : Float) : Float :=
  match (summary column).zeroScore x with
  | .ok y => y
  | .error _ => flatDeviation

/-- Centring a value of a column does not leave the range. -/
def Rescalable (column : List Float) (x : Float) : Prop :=
  ColumnStats.usable (greatest column - least column) = true → Centrable column x

theorem centerBy_summary (column rows : List Float) :
    centerBy (summary column) rows = rows.map (centerOf column) := by
  refine List.map_congr_left fun x _ => ?_
  unfold centerOf
  cases (summary column).minMaxCentered x <;> rfl

theorem standardizeBy_summary (column rows : List Float) :
    standardizeBy (summary column) rows = rows.map (standardOf column) := by
  refine List.map_congr_left fun x _ => ?_
  unfold standardOf
  cases (summary column).zeroScore x <;> rfl

theorem center_eq_map (column : List Float) : center column = column.map (centerOf column) := by
  by_cases hne : column = []
  · rw [hne]
    rfl
  · rw [center, ofScores?_eq_some hne]
    exact centerBy_summary column column

theorem minMaxCentered_of_usable {column : List Float}
    (h : ColumnStats.usable (greatest column - least column) = true) (x : Float) :
    (summary column).minMaxCentered x = .ok ((summary column).centered x) := if_pos h

theorem centerOf_of_usable {column : List Float}
    (h : ColumnStats.usable (greatest column - least column) = true) (x : Float) :
    centerOf column x = (summary column).centered x := by
  rw [centerOf, minMaxCentered_of_usable h]

theorem centerOf_of_not_usable {column : List Float}
    (h : ¬ ColumnStats.usable (greatest column - least column) = true) (x : Float) :
    centerOf column x = flatCentered := by
  have herror : (summary column).minMaxCentered x =
      .error ⟨(summary column).max - (summary column).min⟩ := if_neg h
  rw [centerOf, herror]

theorem val_flatCentered : val flatCentered = 1 / 2 := by
  have hhalf : unpacked flatCentered = .finite .positive (2 ^ 52) (-53) (by decide) := rfl
  rw [val, hhalf, value, factor, scaled]
  norm_num

/-- **A centred value is finite exactly if centring does not leave the range.** -/
theorem centerOf_finite_iff {column : List Float} {x : Float} (hx : x ∈ column) :
    isFinite (centerOf column x) = true ↔ Rescalable column x := by
  by_cases h : ColumnStats.usable (greatest column - least column) = true
  · rw [centerOf_of_usable h, centered_finite_iff hx h]
    exact ⟨fun hcentrable _ => hcentrable, fun hrescalable => hrescalable h⟩
  · rw [centerOf_of_not_usable h]
    exact iff_of_true rfl fun husable => absurd husable h

theorem abs_centerOf_le {column : List Float} {x : Float} (hx : x ∈ column)
    (h : Rescalable column x) : |val (centerOf column x)| ≤ 2 := by
  by_cases husable : ColumnStats.usable (greatest column - least column) = true
  · rw [centerOf_of_usable husable]
    exact (abs_centered_le hx husable (h husable)).2
  · rw [centerOf_of_not_usable husable, val_flatCentered]
    norm_num [abs_of_pos]

/-- **Deviations are finite.** -/
theorem standardOf_finite {column : List Float} {x : Float} (hx : x ∈ column) :
    isFinite (standardOf column x) = true := by
  unfold standardOf
  rw [ColumnStats.zeroScore_eq]
  split
  · rename_i heq
    split at heq
    · rename_i husable
      obtain rfl := Except.ok.inj heq
      exact standardized_finite hx (Bool.and_eq_true_iff.mp husable).1
    · cases heq
  · rfl

/-- **What the normalisers make of the values of a column.** Deviations are finite, and centred
values are as long as centring does not leave the range. -/
theorem normalised_finite {column : List Float} (hne : column ≠ []) :
    ∃ stats, ColumnStats.ofScores? column = some stats ∧ ∀ x ∈ column,
      (∀ y, stats.zeroScore x = .ok y → isFinite y = true) ∧
      ∀ y, stats.minMaxCentered x = .ok y → (isFinite y = true ↔ Centrable column x) := by
  refine ⟨summary column, ofScores?_eq_some hne, fun x hx => ⟨fun y hy => ?_, fun y hy => ?_⟩⟩
  · rw [ColumnStats.zeroScore_eq] at hy
    split at hy
    · rename_i husable
      obtain rfl := Except.ok.inj hy
      exact standardized_finite hx (Bool.and_eq_true_iff.mp husable).1
    · cases hy
  · rw [ColumnStats.minMaxCentered_eq] at hy
    split at hy
    · rename_i husable
      obtain rfl := Except.ok.inj hy
      exact centered_finite_iff hx husable
    · cases hy

end EvidenceRank.Column
