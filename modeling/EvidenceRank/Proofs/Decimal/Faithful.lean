import EvidenceRank.Proofs.Decimal.Rounding

/-!
# Rounding is faithful

A rounded value passes no double, from neither side: what does not exceed a double is not rounded
past it, which is the matter of `Rounding`, and what does not fall below a double is not rounded
below it (`roundWithAccuracy_from`). `Rounds v u` says this of the exact value `v` and the float `u`
that it is rounded to. It is less than nearness, but it carries every bound that is a double, up to
a factor of two for those that are none.

The exponents of unpacked floats have no upper limit; whether a float can be packed is told by its
value (`repacked_settled`).

Results:
* `add_rounds`, `sub_rounds`, `mul_rounds`, `div_rounds`: an operation on finite floats rounds the
  exact result.
* `sqrt_le`, `le_sqrt`: a square root passes no double either.
-/

namespace EvidenceRank.Decimal

open Float.Model (Format UnpackedFloat totalExponent)
open Float.Model.UnpackedFloat

/-! ## Values -/

/-- A sign as a factor. -/
def factor : Sign → ℚ
  | .positive => 1
  | .negative => -1

/-- The value of a float without its sign. -/
def magnitude : UnpackedFloat → ℚ
  | .finite _ m e _ => scaled m e
  | _ => 0

/-- The value of a float; what has none counts as 0. -/
def value : UnpackedFloat → ℚ
  | .finite s m e _ => factor s * scaled m e
  | _ => 0

/-- A zero or a double. -/
inductive Settled : UnpackedFloat → Prop
  | zero (s : Sign) : Settled (.zero s)
  | finite {m : Nat} {e : Int} (s : Sign) (hm : 0 < m) (hc : Canonical m e) :
    Settled (.finite s m e hm)

theorem factor_mul : ∀ s t : Sign, factor (s * t) = factor s * factor t
  | .positive, .positive => (one_mul 1).symm
  | .positive, .negative => (one_mul (-1)).symm
  | .negative, .positive => (mul_one (-1)).symm
  | .negative, .negative => show (1 : ℚ) = -1 * -1 by norm_num

theorem factor_div : ∀ s t : Sign, factor (s / t) = factor s * factor t := factor_mul

theorem factor_neg : ∀ s : Sign, factor (-s) = -factor s
  | .positive => rfl
  | .negative => (neg_neg 1).symm

theorem abs_factor (s : Sign) : |factor s| = 1 := by
  cases s <;> norm_num [factor]

theorem scaled_nonneg (m : Nat) (e : Int) : 0 ≤ scaled m e :=
  mul_nonneg (Nat.cast_nonneg m) (zpow_nonneg (by norm_num) e)

theorem Within.settled {s : Sign} {b : ℚ} {u : UnpackedFloat} (h : Within s b u) : Settled u := by
  cases h with
  | zero => exact .zero s
  | finite hm hc _ => exact .finite s hm hc

theorem Within.value_eq {s : Sign} {b : ℚ} {u : UnpackedFloat} (h : Within s b u) :
    value u = factor s * magnitude u := by
  cases h with
  | zero => exact (mul_zero _).symm
  | finite => rfl

theorem Within.magnitude_le {s : Sign} {b : ℚ} {u : UnpackedFloat} (h : Within s b u)
    (hb : 0 ≤ b) : magnitude u ≤ b := by
  cases h with
  | zero => exact hb
  | finite _ _ hle => exact hle

theorem magnitude_nonneg (u : UnpackedFloat) : 0 ≤ magnitude u := by
  cases u with
  | finite s m e hm => exact scaled_nonneg m e
  | _ => exact le_rfl

theorem abs_value (u : UnpackedFloat) : |value u| = magnitude u := by
  cases u with
  | finite s m e hm =>
    rw [value, abs_mul, abs_factor, one_mul, abs_of_nonneg (scaled_nonneg m e)]
    rfl
  | _ => exact abs_zero

/-! ## Numbers that are doubles -/

/-- The value is that of a double of either sign, or zero. -/
def Representable (b : ℚ) : Prop := IsDouble |b|

theorem IsDouble.nonneg {b : ℚ} (h : IsDouble b) : 0 ≤ b := by
  obtain ⟨m, e, -, -, rfl⟩ := h
  exact scaled_nonneg m e

theorem IsDouble.representable {b : ℚ} (h : IsDouble b) : Representable b := by
  unfold Representable
  rwa [abs_of_nonneg h.nonneg]

theorem Representable.neg {b : ℚ} (h : Representable b) : Representable (-b) := by
  unfold Representable
  rwa [abs_neg]

theorem Representable.abs {b : ℚ} (h : Representable b) : Representable |b| := by
  unfold Representable
  rwa [abs_abs]

theorem representable_zero : Representable 0 :=
  IsDouble.representable ⟨0, 0, by decide, by decide, by rw [scaled, Nat.cast_zero, zero_mul]⟩

/-- Numbers of few bits, at an exponent that is not below the least one. -/
theorem representable_scaled {m : Nat} {e : Int} (hm : m < 2 ^ 53) (he : -1074 ≤ e) :
    Representable (scaled m e) :=
  IsDouble.representable ⟨m, e, hm, he, rfl⟩

theorem representable_two_pow {k : Int} (hk : -1074 ≤ k) : Representable (2 ^ k) := by
  have h := representable_scaled (m := 1) (by decide) hk
  rwa [scaled, Nat.cast_one, one_mul] at h

theorem representable_pow (k : Nat) : Representable (2 ^ k) := by
  have h := representable_two_pow (k := k) (by omega)
  rwa [zpow_natCast] at h

/-- Twice a double is one: there is no greatest exponent. -/
theorem Representable.double {b : ℚ} (h : Representable b) : Representable (2 * b) := by
  obtain ⟨m, e, hm, he, hb⟩ := h
  refine ⟨m, e + 1, hm, by omega, ?_⟩
  rw [abs_mul, ← hb, scaled, scaled, zpow_add_one₀ two_ne_zero, abs_two]
  ring

/-- No positive double is below the least one. -/
theorem Representable.least_le {b : ℚ} (h : Representable b) (hpos : 0 < b) :
    (2 : ℚ) ^ (-1074 : Int) ≤ b := by
  obtain ⟨m, e, -, he, hb⟩ := h
  rw [abs_of_pos hpos] at hb
  subst hb
  have hm : 1 ≤ m := by
    by_contra hzero
    rw [Nat.lt_one_iff.mp (not_le.mp hzero), scaled, Nat.cast_zero, zero_mul] at hpos
    exact lt_irrefl 0 hpos
  calc (2 : ℚ) ^ (-1074 : Int) ≤ 2 ^ e := zpow_le_zpow_right₀ (by norm_num) he
    _ = scaled 1 e := by rw [scaled, Nat.cast_one, one_mul]
    _ ≤ scaled m e := scaled_mono hm e

/-- A double below a power of two does not exceed the greatest double below it. -/
theorem Representable.le_greatest {b : ℚ} (h : Representable b) {k : Int}
    (hlt : |b| < 2 ^ (53 + k)) : |b| ≤ scaled (2 ^ 53 - 1) k := by
  obtain ⟨m, e, hm, he, hb⟩ := h
  rw [← hb] at hlt ⊢
  rcases le_total k e with hle | hle
  · -- the double stands at a whole number of units
    have hpow : scaled (2 ^ 53) k = 2 ^ (53 + k) := scaled_two_pow 53 k
    rw [← scaled_of_le hle] at hlt ⊢
    rw [← hpow, scaled_lt_iff] at hlt
    exact scaled_mono (by omega) k
  · obtain ⟨j, rfl⟩ := Int.le.dest hle
    rw [← scaled_mul_two_pow]
    exact scaled_mono
      ((Nat.le_sub_one_of_lt hm).trans (Nat.le_mul_of_pos_right _ (by positivity))) e

theorem Settled.representable {u : UnpackedFloat} (h : Settled u) : Representable (value u) := by
  unfold Representable
  rw [abs_value]
  cases h with
  | zero => exact ⟨0, 0, by decide, by decide, by rw [scaled, Nat.cast_zero, zero_mul]; rfl⟩
  | finite s hm hc => exact ⟨_, _, hc.mantissa_lt, hc.least_le, rfl⟩

/-! ## Rounding from below -/

/-- Putting a rounded mantissa in place does not change what it stands for. -/
theorem le_magnitude_placed (s : Sign) {r : Nat} {t : Int} {b : ℚ} (hr : r ≤ 2 ^ 53)
    (ht : -1074 ≤ t) (hle : b ≤ scaled r t) : b ≤ magnitude (placed s r t) := by
  have hvalue : scaled (r / 2 ^ (exponentIn .binary64 r t - t).toNat)
      (t + (exponentIn .binary64 r t - t).toNat) = scaled r t := by
    rcases placed_shift hr ht with ⟨-, hstays⟩ | ⟨rfl, hmoves⟩
    · rw [hstays, pow_zero, Nat.div_one, Nat.cast_zero, Int.add_zero]
    · rw [hmoves]
      exact (scaled_mul_two_pow (2 ^ 52) t 1).symm
  rw [← mantissa_placed, ← exponent_placed] at hvalue
  unfold placed
  split
  · rename_i hzero
    rw [hzero, scaled, Nat.cast_zero, zero_mul] at hvalue
    exact hle.trans_eq hvalue.symm
  · exact hle.trans_eq hvalue.symm

/-- **A double that the exact value does not fall below is not rounded below**: it does not exceed
the next mantissa, and so it does not exceed the one that is left after moving down. -/
theorem roundWithAccuracy_from (s : Sign) {m : Nat} {e : Int} {accuracy : Accuracy} {b : ℚ}
    (hm : m = 0 → e ≤ -1074) (he : e ≤ exponentIn .binary64 m e) (hb : IsDouble b)
    (h : b < scaled (m + 1) e) : b ≤ magnitude (roundWithAccuracy .binary64 s m e accuracy) := by
  obtain ⟨n, E, hn, hE, rfl⟩ := hb
  obtain ⟨hlt, hfilled⟩ := shifted_mantissa hm he
  have hleast : -1074 ≤ exponentIn .binary64 m e := by
    rw [exponentIn_binary64]
    exact le_max_right _ _
  rw [roundWithAccuracy_eq_placed s accuracy he]
  obtain ⟨k, hk⟩ : ∃ k : Nat, exponentIn .binary64 m e = e + k :=
    ⟨(exponentIn .binary64 m e - e).toNat, by omega⟩
  have hplaces : (exponentIn .binary64 m e - e).toNat = k := by omega
  have hmantissa := mantissa_shiftRight (.ofMantissaAndAccuracy m accuracy) k
  rw [mantissa_of] at hmantissa
  rw [hplaces] at hlt hfilled ⊢
  obtain ⟨hlow, hhigh⟩ :=
    roundedMantissa_bounds (ExtendedMantissa.ofMantissaAndAccuracy m accuracy >>> k)
  rw [hmantissa] at hlow hhigh
  refine le_magnitude_placed s (by omega) hleast (le_trans ?_ (scaled_mono hlow _))
  have hnext : scaled n E < scaled (m / 2 ^ k + 1) (exponentIn .binary64 m e) := by
    refine h.trans_le ?_
    rw [hk, ← scaled_mul_two_pow]
    refine scaled_mono ?_ e
    have hdiv := Nat.lt_div_mul_add (show 0 < 2 ^ k by positivity) (a := m)
    rw [Nat.add_mul, Nat.one_mul]
    omega
  by_cases hbelow : exponentIn .binary64 m e ≤ E
  · -- the bound stands at a whole number of units
    rw [← scaled_of_le hbelow] at hnext ⊢
    exact scaled_mono (Nat.lt_succ_iff.mp (scaled_lt_iff.mp hnext)) _
  · -- the bound has a lower leading bit than any mantissa that fills the format
    have hfull : 2 ^ 52 ≤ m / 2 ^ k := hfilled.resolve_left (by omega)
    obtain ⟨j, hj⟩ : ∃ j : Nat, exponentIn .binary64 m e = E + 1 + j :=
      ⟨(exponentIn .binary64 m e - (E + 1)).toNat, by omega⟩
    calc scaled n E ≤ scaled (2 ^ 53) E := scaled_mono hn.le E
      _ = scaled (2 ^ 52) (E + 1) := scaled_mul_two_pow (2 ^ 52) E 1
      _ ≤ scaled (2 ^ 52 * 2 ^ j) (E + 1) :=
        scaled_mono (Nat.le_mul_of_pos_right _ (by positivity)) _
      _ = scaled (2 ^ 52) (exponentIn .binary64 m e) := by rw [scaled_mul_two_pow, hj]
      _ ≤ scaled (m / 2 ^ k) (exponentIn .binary64 m e) := scaled_mono hfull _

/-! ## Rounding from both sides -/

/-- `u` is what `v` is rounded to: a zero or a double on the same side of each double as `v`. -/
structure Rounds (v : ℚ) (u : UnpackedFloat) : Prop where
  settled : Settled u
  le : ∀ {b}, Representable b → v ≤ b → value u ≤ b
  ge : ∀ {b}, Representable b → b ≤ v → b ≤ value u

/-- A double is rounded to itself. -/
theorem Settled.rounds {u : UnpackedFloat} (h : Settled u) : Rounds (value u) u :=
  ⟨h, fun _ hle => hle, fun _ hge => hge⟩

theorem Rounds.abs_value_le {v b : ℚ} {u : UnpackedFloat} (h : Rounds v u) (hb : Representable b)
    (hv : |v| ≤ b) : |value u| ≤ b := by
  obtain ⟨hlow, hhigh⟩ := abs_le.mp hv
  exact abs_le.mpr ⟨h.ge hb.neg hlow, h.le hb hhigh⟩

/-- **A positive double is at least half of what is rounded to it**: twice the double is one too. -/
theorem Rounds.le_double {v : ℚ} {u : UnpackedFloat} (h : Rounds v u) (hpos : 0 < value u) :
    v ≤ 2 * value u := by
  by_contra hlt
  have hge := h.ge h.settled.representable.double (not_le.mp hlt).le
  linarith

/-- Every value is exceeded by a double. -/
theorem exists_isDouble_ge (a : ℚ) : ∃ b, IsDouble b ∧ a ≤ b := by
  obtain ⟨n, hn⟩ := pow_unbounded_of_one_lt a one_lt_two
  refine ⟨2 ^ n, ⟨1, n, by decide, by omega, ?_⟩, hn.le⟩
  rw [scaled, Nat.cast_one, one_mul, zpow_natCast]

/-- **Rounding a magnitude is rounding its signed value.** -/
theorem rounds_of_magnitude (s : Sign) {a : ℚ} {u : UnpackedFloat} (ha : 0 ≤ a)
    (hle : ∀ {b}, IsDouble b → a ≤ b → Within s b u)
    (hge : ∀ {b}, IsDouble b → b ≤ a → b ≤ magnitude u) : Rounds (factor s * a) u := by
  obtain ⟨b, hb, hab⟩ := exists_isDouble_ge a
  have hwithin := hle hb hab
  have hupper : ∀ {c}, Representable c → a ≤ c → magnitude u ≤ c := by
    intro c hc hac
    have hdouble : IsDouble c := by rwa [Representable, abs_of_nonneg (ha.trans hac)] at hc
    exact (hle hdouble hac).magnitude_le (ha.trans hac)
  have hlower : ∀ {c}, Representable c → c ≤ a → c ≤ magnitude u := by
    intro c hc hca
    rcases le_total c 0 with hneg | hpos
    · exact hneg.trans (magnitude_nonneg u)
    · exact hge (by rwa [Representable, abs_of_nonneg hpos] at hc) hca
  refine ⟨hwithin.settled, fun hc h => ?_, fun hc h => ?_⟩ <;> rw [hwithin.value_eq]
  · cases s with
    | positive => simpa [factor] using hupper hc (by simpa [factor] using h)
    | negative =>
      have hneg := hlower hc.neg (by rw [factor] at h; linarith)
      rw [factor]
      linarith
  · cases s with
    | positive => simpa [factor] using hlower hc (by simpa [factor] using h)
    | negative =>
      have hneg := hupper hc.neg (by rw [factor] at h; linarith)
      rw [factor]
      linarith

theorem scaled_lt_succ (m : Nat) (e : Int) : scaled m e < scaled (m + 1) e :=
  scaled_lt_iff.mpr (Nat.lt_succ_self m)

theorem round_rounds (s : Sign) {m : Nat} (hm : 0 < m) (e : Int) :
    Rounds (factor s * scaled m e) (UnpackedFloat.round .binary64 s m e) := by
  refine rounds_of_magnitude s (scaled_nonneg m e) (fun hb h => round_within s hm hb h) ?_
  intro b hb h
  obtain ⟨m', e', hm', hvalue, hfits, hround⟩ := exists_round hm e
  rw [hround]
  refine roundWithAccuracy_from s (fun hzero => absurd hzero hm'.ne') hfits hb ?_
  exact (h.trans_eq hvalue.symm).trans_lt (scaled_lt_succ m' e')

/-- A zero is a rounding of nothing, whatever its sign. -/
theorem zero_rounds (s : Sign) : Rounds 0 (.zero s) := (Settled.zero s).rounds

/-- A mantissa with its sign is rounded. -/
theorem normalize_rounds (m : Int) (e : Int) (s : Sign) :
    Rounds (m * 2 ^ e) (UnpackedFloat.normalize .binary64 m e s) := by
  unfold UnpackedFloat.normalize
  cases hcompare : compare m 0 with
  | lt =>
    have hneg := Int.compare_eq_lt.mp hcompare
    have hround := round_rounds .negative (m := (-m).toNat) (by omega) e
    have hvalue : factor .negative * scaled (-m).toNat e = m * 2 ^ e := by
      have hcast : (((-m).toNat : Int) : ℚ) = -m := by
        rw [Int.toNat_of_nonneg (by omega), Int.cast_neg]
      rw [scaled, factor, ← Int.cast_natCast, hcast]
      ring
    rwa [hvalue] at hround
  | eq =>
    rw [Int.compare_eq_eq.mp hcompare, Int.cast_zero, zero_mul]
    exact zero_rounds s
  | gt =>
    have hpos := Int.compare_eq_gt.mp hcompare
    have hround := round_rounds .positive (m := m.toNat) (by omega) e
    have hvalue : factor .positive * scaled m.toNat e = m * 2 ^ e := by
      have hcast : ((m.toNat : Int) : ℚ) = m := by
        rw [Int.toNat_of_nonneg (by omega)]
      rw [scaled, factor, ← Int.cast_natCast, hcast, one_mul]
    rwa [hvalue] at hround

/-! ## Sums and differences -/

/-- A mantissa with its sign, moved to a lower exponent. -/
theorem apply_decreased (s : Sign) {m : Nat} {e t : Int} (h : t ≤ e) :
    ((s.apply ((decreaseExponent m e t).1 : Int) : Int) : ℚ) * 2 ^ t = factor s * scaled m e := by
  have hmoved : (((decreaseExponent m e t).1 : Int) : ℚ) * 2 ^ t = scaled m e := by
    rw [← scaled_of_le h, scaled, ← Nat.shiftLeft_eq]
    rfl
  cases s with
  | positive => rw [factor, one_mul]; exact hmoved
  | negative =>
    rw [factor, ← hmoved, Sign.apply, Int.cast_neg]
    ring

/-- **A sum is the exact one, rounded.** -/
theorem add_rounds {x y : UnpackedFloat} (hx : Settled x) (hy : Settled y) :
    Rounds (value x + value y) (UnpackedFloat.add .binary64 x y) := by
  cases hx with
  | zero s =>
    cases hy with
    | zero t =>
      have hvalue : value (.zero s) + value (.zero t) = 0 := add_zero 0
      rw [hvalue]
      cases s <;> cases t <;> exact zero_rounds _
    | @finite n f t hn hd =>
      have hvalue := zero_add (value (.finite t n f hn))
      exact hvalue.symm ▸ (Settled.finite t hn hd).rounds
  | @finite m e s hm hc =>
    cases hy with
    | zero t =>
      have hvalue := add_zero (value (.finite s m e hm))
      exact hvalue.symm ▸ (Settled.finite s hm hc).rounds
    | @finite n f t hn hd =>
      have h := normalize_rounds (s.apply (decreaseExponent m e (min e f)).1 +
        t.apply (decreaseExponent n f (min e f)).1) (min e f) .positive
      rw [Int.cast_add, add_mul, apply_decreased s (min_le_left e f),
        apply_decreased t (min_le_right e f)] at h
      exact h

/-- **A difference is the exact one, rounded.** -/
theorem sub_rounds {x y : UnpackedFloat} (hx : Settled x) (hy : Settled y) :
    Rounds (value x - value y) (UnpackedFloat.sub .binary64 x y) := by
  cases hx with
  | zero s =>
    cases hy with
    | zero t =>
      have hvalue : value (.zero s) - value (.zero t) = 0 := sub_zero 0
      rw [hvalue]
      cases s <;> cases t <;> exact zero_rounds _
    | @finite n f t hn hd =>
      have hvalue : value (.finite (-t) n f hn) = value (.zero s) - value (.finite t n f hn) := by
        change factor (-t) * scaled n f = 0 - factor t * scaled n f
        rw [factor_neg]
        ring
      exact hvalue ▸ (Settled.finite (-t) hn hd).rounds
  | @finite m e s hm hc =>
    cases hy with
    | zero t =>
      have hvalue := sub_zero (value (.finite s m e hm))
      exact hvalue.symm ▸ (Settled.finite s hm hc).rounds
    | @finite n f t hn hd =>
      have h := normalize_rounds (s.apply (decreaseExponent m e (min e f)).1 -
        t.apply (decreaseExponent n f (min e f)).1) (min e f) .positive
      rw [Int.cast_sub, sub_mul, apply_decreased s (min_le_left e f),
        apply_decreased t (min_le_right e f)] at h
      exact h

/-! ## Products and quotients -/

/-- **A product is the exact one, rounded.** -/
theorem mul_rounds {x y : UnpackedFloat} (hx : Settled x) (hy : Settled y) :
    Rounds (value x * value y) (UnpackedFloat.mul .binary64 x y) := by
  cases hx with
  | zero s =>
    have hvalue : value (.zero s) * value y = 0 := zero_mul _
    rw [hvalue]
    cases hy <;> exact zero_rounds _
  | @finite m e s hm hc =>
    cases hy with
    | zero t =>
      have hvalue : value (.finite s m e hm) * value (.zero t) = 0 := mul_zero _
      rw [hvalue]
      exact zero_rounds _
    | @finite n f t hn hd =>
      have hvalue : value (.finite s m e hm) * value (.finite t n f hn) =
          factor (s * t) * (scaled m e * scaled n f) := by
        rw [value, value, factor_mul]
        ring
      have hpos : 0 < m * n := Nat.mul_pos hm hn
      rw [hvalue]
      refine rounds_of_magnitude (s * t) (mul_nonneg (scaled_nonneg m e) (scaled_nonneg n f))
        (fun hb h => mul_within s t hm hn hc hd hb h) fun hb h => ?_
      rw [scaled_mul] at h
      exact roundWithAccuracy_from (s * t) (fun hzero => absurd hzero hpos.ne')
        (product_fits hm hn hc hd) hb (h.trans_lt (scaled_lt_succ _ _))

/-- **A quotient is the exact one, rounded.** -/
theorem div_rounds {x y : UnpackedFloat} (hx : Settled x) (hy : Settled y) (hne : value y ≠ 0) :
    Rounds (value x / value y) (UnpackedFloat.div .binary64 x y) := by
  cases hy with
  | zero t => exact absurd rfl hne
  | @finite n f t hn hd =>
    cases hx with
    | zero s =>
      have hvalue : value (.zero s) / value (.finite t n f hn) = 0 := zero_div _
      rw [hvalue]
      exact zero_rounds _
    | @finite m e s hm hc =>
      have hdivisor := scaled_pos hn f
      have hvalue : value (.finite s m e hm) / value (.finite t n f hn) =
          factor (s / t) * (scaled m e / scaled n f) := by
        rw [value, value, factor_div]
        cases t with
        | positive => rw [factor]; ring
        | negative => rw [factor]; field_simp
      rw [hvalue]
      refine rounds_of_magnitude (s / t) (div_nonneg (scaled_nonneg m e) hdivisor.le)
        (fun hb h => div_within s t hm hn hb ((div_le_iff₀ hdivisor).mp h)) fun {b} hb h => ?_
      obtain ⟨N, k, hscaled, hcore, hzero, hfits⟩ := exists_divCore hm hn e f
      rw [UnpackedFloat.div, hcore]
      refine roundWithAccuracy_from (s / t) hzero hfits hb ?_
      refine lt_of_mul_lt_mul_right (lt_of_le_of_lt ((le_div_iff₀ hdivisor).mp h) ?_) hdivisor.le
      rw [scaled_mul, ← hscaled, scaled_lt_iff, Nat.add_mul, Nat.one_mul]
      exact Nat.lt_div_mul_add hn

/-! ## Square roots -/

/-- Where a square root lies above the greatest number whose square does not exceed `n`. -/
def rootAccuracy (n : Nat) : Accuracy :=
  if n - n.sqrt * n.sqrt = 0 then .exact
  else .inexact (if n - n.sqrt * n.sqrt ≤ n.sqrt then .lt else .gt)

/-- What is rounded to a square root, which has as many bits as the format has room for. -/
theorem exists_sqrtCore {m : Nat} (hm : 0 < m) (e : Int) : ∃ (n : Nat) (t : Int),
    scaled n (t + t) = scaled m e ∧ sqrtCore .binary64 m e = (n.sqrt, t, rootAccuracy n) ∧
      0 < n.sqrt ∧ t ≤ exponentIn .binary64 n.sqrt t := by
  have htarget : Format.binary64.targetExponent ((totalExponent m e + 1) / 2) =
      max ((m.log2 + e) / 2 - 52) (-1074) := by
    have hbits : (Format.binary64.mantissaBits : Int) = 53 := rfl
    have hmin : Format.binary64.minExponent = -1074 := rfl
    rw [Format.targetExponent, totalExponent, hbits, hmin]
    omega
  obtain ⟨t, ht⟩ : ∃ t, t = min (e / 2) (max ((m.log2 + e) / 2 - 52) (-1074)) := ⟨_, rfl⟩
  obtain ⟨k, hk⟩ : ∃ k : Nat, t + t + k = e := ⟨(e - (t + t)).toNat, by omega⟩
  have hshift : (e - 2 * t).toNat = k := by omega
  have hpos : 0 < m <<< k := Nat.shiftLeft_pos_iff.mpr hm
  have hroot : 0 < (m <<< k).sqrt := Nat.sqrt_pos.mpr hpos
  refine ⟨m <<< k, t, ?_, ?_, hroot, ?_⟩
  · rw [Nat.shiftLeft_eq, scaled_mul_two_pow, hk]
  · have hcore : sqrtCore .binary64 m e =
        let t := min (e / 2) (Format.binary64.targetExponent ((totalExponent m e + 1) / 2))
        let n := m <<< (e - 2 * t).toNat
        (n.sqrt, t, rootAccuracy n) := rfl
    rw [hcore, htarget, ← ht]
    dsimp only
    rw [hshift]
  · -- the root has half as many bits
    have hlow : 2 ^ ((m <<< k).log2 / 2) ≤ (m <<< k).sqrt := by
      refine Nat.le_sqrt.mpr (le_trans ?_ (Nat.log2_self_le hpos.ne'))
      rw [← pow_add]
      exact Nat.pow_le_pow_right (by decide) (by omega)
    have hlog := (Nat.le_log2 hroot.ne').mpr hlow
    rw [log2_shiftLeft hm] at hlog
    rw [exponentIn_binary64]
    omega

theorem scaled_mul_self (m : Nat) (e : Int) : scaled m e ^ 2 = scaled (m * m) (e + e) := by
  rw [sq, scaled_mul]

/-- What lies behind the root is nothing only for a square. -/
theorem sqrt_mul_self_lt {n : Nat} (h : rootAccuracy n ≠ .exact) : n.sqrt * n.sqrt < n := by
  have hle := Nat.sqrt_le n
  by_contra hge
  exact h (if_pos (by omega))

/-- **A square root that does not exceed a double is not rounded past it.** -/
theorem sqrt_within {m : Nat} {e : Int} {b : ℚ} (hm : 0 < m) (hb : IsDouble b)
    (h : scaled m e ≤ b ^ 2) :
    Within .positive b (UnpackedFloat.sqrt .binary64 (.finite .positive m e hm)) := by
  obtain ⟨n, t, hvalue, hcore, hroot, hfits⟩ := exists_sqrtCore hm e
  have hupTo : UpTo b (.ofMantissaAndAccuracy n.sqrt (rootAccuracy n)) t := by
    refine ⟨?_, fun hbits => ?_⟩
    · rw [mantissa_of]
      refine (pow_le_pow_iff_left₀ (scaled_nonneg _ _) hb.nonneg two_ne_zero).mp (le_trans ?_ h)
      rw [scaled_mul_self, ← hvalue]
      exact scaled_mono (Nat.sqrt_le n) _
    · have hinexact : rootAccuracy n ≠ .exact := by
        intro hexact
        rw [hexact] at hbits
        cases hbits
      rw [mantissa_of]
      refine (pow_lt_pow_iff_left₀ (scaled_nonneg _ _) hb.nonneg two_ne_zero).mp
        (lt_of_lt_of_le ?_ h)
      rw [scaled_mul_self, ← hvalue]
      exact scaled_lt_iff.mpr (sqrt_mul_self_lt hinexact)
  rw [UnpackedFloat.sqrt, hcore]
  exact roundWithAccuracy_within .positive (fun hzero => absurd hzero hroot.ne') hfits hb hupTo

/-- **A square root that a double does not exceed is not rounded below it.** -/
theorem sqrt_from {m : Nat} {e : Int} {b : ℚ} (hm : 0 < m) (hb : IsDouble b)
    (h : b ^ 2 ≤ scaled m e) :
    b ≤ magnitude (UnpackedFloat.sqrt .binary64 (.finite .positive m e hm)) := by
  obtain ⟨n, t, hvalue, hcore, hroot, hfits⟩ := exists_sqrtCore hm e
  have hnext : b < scaled (n.sqrt + 1) t := by
    refine (pow_lt_pow_iff_left₀ hb.nonneg (scaled_nonneg _ _) two_ne_zero).mp
      (h.trans_lt ?_)
    rw [scaled_mul_self, ← hvalue]
    exact scaled_lt_iff.mpr (Nat.sqrt_lt.mp (Nat.lt_succ_self _))
  rw [UnpackedFloat.sqrt, hcore]
  exact roundWithAccuracy_from .positive (fun hzero => absurd hzero hroot.ne') hfits hb hnext

theorem sqrt_settled {m : Nat} {e : Int} (hm : 0 < m) :
    Settled (UnpackedFloat.sqrt .binary64 (.finite .positive m e hm)) := by
  obtain ⟨b, hb, hge⟩ := exists_isDouble_ge (1 + scaled m e)
  have hnonneg := scaled_nonneg m e
  exact (sqrt_within hm hb (by nlinarith)).settled

/-! ## Packing -/

theorem canonical_unpack {b : BitVec Format.binary64.numBits} {s : Sign} {m : Nat} {e : Int}
    {hm : 0 < m} (h : unpack .binary64 b = .finite s m e hm) : Canonical m e := by
  have hbias : (Format.binary64.exponentBias : Int) = 1023 := rfl
  have hwidth : Format.binary64.mantissaBitsWithoutImplicit = 52 := rfl
  have hfields := finite_unpack h
  rw [hbias, hwidth] at hfields
  constructor <;> omega

/-- What is unpacked is settled, if it is finite. -/
theorem settled_unpack {b : BitVec Format.binary64.numBits}
    (h : (unpack .binary64 b).isFinite = true) : Settled (unpack .binary64 b) := by
  cases hb : unpack .binary64 b with
  | notANumber => rw [hb] at h; cases h
  | infinity s => rw [hb] at h; cases h
  | zero s => exact .zero s
  | finite s m e hm => exact .finite s hm (canonical_unpack hb)

/-- Packing makes a double of too great an exponent infinite. -/
theorem unpack_pack_overflow {m : Nat} {e : Int} (s : Sign) (hm : 0 < m) (hc : Canonical m e)
    (h : 2 ^ 1024 ≤ scaled m e) :
    unpack .binary64 (pack .binary64 (.finite s m e hm)) = .infinity s := by
  have hbelow : (2 : ℚ) ^ (1024 : Int) < 2 ^ (53 + e) := by
    calc (2 : ℚ) ^ (1024 : Int) ≤ scaled m e := by exact_mod_cast h
      _ < scaled (2 ^ 53) e := scaled_lt_iff.mpr hc.mantissa_lt
      _ = 2 ^ (53 + e) := scaled_two_pow 53 e
  have hexponent := (zpow_lt_zpow_iff_right₀ (by norm_num)).mp hbelow
  have hbias : (Format.binary64.exponentBias : Int) = 1023 := rfl
  have hwidth : (Format.binary64.mantissaBitsWithoutImplicit : Int) = 52 := rfl
  have hbits : 2 ^ Format.binary64.exponentBits = 2048 := rfl
  have hpacked : pack .binary64 (.finite s m e hm) = packedInfinity .binary64 s := by
    rw [pack]
    exact if_pos (by rw [hbias, hwidth, hbits]; omega)
  rw [hpacked]
  cases s <;> rfl

/-- **A settled float is kept by packing exactly if its value is in range.** -/
theorem unpack_pack_settled {u : UnpackedFloat} (h : Settled u) :
    |value u| < 2 ^ 1024 ∧ unpack .binary64 (pack .binary64 u) = u ∨
      2 ^ 1024 ≤ |value u| ∧ ∃ s, unpack .binary64 (pack .binary64 u) = .infinity s := by
  rw [abs_value]
  rcases lt_or_ge (magnitude u) (2 ^ 1024) with hlt | hge
  · refine Or.inl ⟨hlt, ?_⟩
    cases h with
    | zero s => exact unpack_packedZero
    | finite s hm hc => exact unpack_pack_within (.finite hm hc le_rfl) hlt
  · refine Or.inr ⟨hge, ?_⟩
    cases h with
    | zero s => exact absurd hge (not_le.mpr (by positivity))
    | finite s hm hc => exact ⟨s, unpack_pack_overflow s hm hc hge⟩

/-! ## Finite results come from finite operands -/

theorem isFinite_of_pack {u : UnpackedFloat}
    (h : (unpack .binary64 (pack .binary64 u)).isFinite = true) : u.isFinite = true := by
  cases u with
  | notANumber => exact h
  | infinity s => cases s <;> exact h
  | zero s => rfl
  | finite s m e hm => rfl

variable {x y : UnpackedFloat}

theorem isFinite_of_add (h : (UnpackedFloat.add .binary64 x y).isFinite = true) :
    x.isFinite = true ∧ y.isFinite = true := by
  cases x with
  | notANumber => cases h
  | infinity s =>
    cases y with
    | infinity t => cases s <;> cases t <;> cases h
    | _ => cases h
  | _ =>
    cases y with
    | notANumber => cases h
    | infinity t => cases h
    | _ => exact ⟨rfl, rfl⟩

theorem isFinite_of_sub (h : (UnpackedFloat.sub .binary64 x y).isFinite = true) :
    x.isFinite = true ∧ y.isFinite = true := by
  cases x with
  | notANumber => cases h
  | infinity s =>
    cases y with
    | infinity t => cases s <;> cases t <;> cases h
    | _ => cases h
  | _ =>
    cases y with
    | notANumber => cases h
    | infinity t => cases h
    | _ => exact ⟨rfl, rfl⟩

theorem isFinite_of_mul (h : (UnpackedFloat.mul .binary64 x y).isFinite = true) :
    x.isFinite = true ∧ y.isFinite = true := by
  cases x with
  | notANumber => cases h
  | infinity s => cases y <;> cases h
  | _ =>
    cases y with
    | notANumber => cases h
    | infinity t => cases h
    | _ => exact ⟨rfl, rfl⟩

theorem value_finite_ne_zero {s : Sign} {m : Nat} {e : Int} (hm : 0 < m) :
    value (.finite s m e hm) ≠ 0 := by
  rw [← abs_pos, abs_value]
  exact scaled_pos hm e

/-- A finite quotient is that of finite floats, unless it is 0. -/
theorem isFinite_of_div (h : (UnpackedFloat.div .binary64 x y).isFinite = true) :
    x.isFinite = true ∧ (y.isFinite = true ∧ value y ≠ 0 ∨
      ∃ s, UnpackedFloat.div .binary64 x y = .zero s) := by
  cases x with
  | notANumber => cases h
  | infinity s => cases y <;> cases h
  | _ =>
    refine ⟨rfl, ?_⟩
    cases y with
    | notANumber => cases h
    | infinity t => exact Or.inr ⟨_, rfl⟩
    | zero t => cases h
    | finite t n f hn => exact Or.inl ⟨rfl, value_finite_ne_zero hn⟩

/-- Only zeros and positive floats have finite square roots. -/
theorem eq_of_isFinite_sqrt (h : (UnpackedFloat.sqrt .binary64 x).isFinite = true) :
    (∃ s, x = .zero s) ∨ ∃ m e hm, x = .finite .positive m e hm := by
  cases x with
  | notANumber => cases h
  | infinity s => cases s <;> cases h
  | zero s => exact Or.inl ⟨s, rfl⟩
  | finite s m e hm =>
    cases s with
    | negative => cases h
    | positive => exact Or.inr ⟨m, e, hm, rfl⟩

end EvidenceRank.Decimal
