import EvidenceRank.Proofs.Decimal.Width
import Mathlib

/-!
# Rounding passes no bound

An operation on doubles computes the mantissa of its value exactly, with two bits for what lies
behind it, and rounds it to a mantissa that the format has room for. A bound that is a double itself
stands at a whole number of the units that are rounded to, so a value that does not exceed it is not
rounded past it.

`UpTo` says of a mantissa and its two bits that what they stand for does not exceed a bound: moving
the mantissa down keeps it (`UpTo.shiftRightOne`, `UpTo.shiftRight`), and rounding ends at or below
the bound (`UpTo.roundedMantissa_le`).

Results:
* `roundWithAccuracy_within`, `round_within`: rounding gives a double at or below the bound.
* `div_within`, `mul_within`, `sub_within`: so do quotients, products and differences.
* `unpack_pack_within`: packing keeps a double below the greatest one.
-/

namespace EvidenceRank.Decimal

open Float.Model (Format UnpackedFloat totalExponent)
open Float.Model.UnpackedFloat

/-! ## Scaled mantissas -/

/-- The value of a mantissa with an exponent. -/
def scaled (m : Nat) (e : Int) : ℚ := m * 2 ^ e

theorem scaled_mono {m n : Nat} (h : m ≤ n) (e : Int) : scaled m e ≤ scaled n e :=
  mul_le_mul_of_nonneg_right (Nat.cast_le.mpr h) (zpow_nonneg (by norm_num) e)

theorem scaled_lt_iff {m n : Nat} {e : Int} : scaled m e < scaled n e ↔ m < n := by
  rw [scaled, scaled, mul_lt_mul_iff_left₀ (zpow_pos (by norm_num) e), Nat.cast_lt]

theorem scaled_le_iff {m n : Nat} {e : Int} : scaled m e ≤ scaled n e ↔ m ≤ n := by
  rw [← not_lt, scaled_lt_iff, not_lt]

theorem scaled_mul_two_pow (m : Nat) (e : Int) (k : Nat) :
    scaled (m * 2 ^ k) e = scaled m (e + k) := by
  rw [scaled, scaled, zpow_add₀ (by norm_num), zpow_natCast]
  push_cast
  ring

/-- A mantissa that is moved up by so much that the exponent goes from `e` down to `t`. -/
theorem scaled_of_le {t e : Int} (h : t ≤ e) (m : Nat) :
    scaled (m * 2 ^ (e - t).toNat) t = scaled m e := by
  rw [scaled_mul_two_pow]
  congr 1
  omega

theorem scaled_two_pow (k : Nat) (e : Int) : scaled (2 ^ k) e = 2 ^ (k + e) := by
  rw [scaled, zpow_add₀ (by norm_num), zpow_natCast]
  push_cast
  rfl

/-- What is moved out of a mantissa is lost. -/
theorem scaled_div_le (m : Nat) (e : Int) (k : Nat) : scaled (m / 2 ^ k) (e + k) ≤ scaled m e := by
  rw [← scaled_mul_two_pow]
  exact scaled_mono (Nat.div_mul_le_self m (2 ^ k)) e

/-! ## Mantissas with two bits -/

/-- What the mantissa and its bits stand for, at an exponent, does not exceed the bound. -/
structure UpTo (b : ℚ) (em : ExtendedMantissa) (e : Int) : Prop where
  le : scaled em.mantissa e ≤ b
  lt : (em.roundBit || em.stickyBit) = true → scaled em.mantissa e < b

/-- **Moving down by one place** keeps to the bound: what is moved out makes a difference. -/
theorem UpTo.shiftRightOne {b : ℚ} {em : ExtendedMantissa} {e : Int} (h : UpTo b em e) :
    UpTo b em.shiftRightOne (e + 1) := by
  have hle : scaled (em.mantissa / 2) (e + 1) ≤ scaled em.mantissa e := by
    have hone := scaled_div_le em.mantissa e 1
    rwa [pow_one, Nat.cast_one] at hone
  refine ⟨hle.trans h.le, fun hbits => ?_⟩
  rcases (Bool.or_eq_true _ _).mp hbits with hround | hsticky
  · have hodd : em.mantissa % 2 ≠ 0 := by simpa [ExtendedMantissa.shiftRightOne] using hround
    have hlt : scaled (em.mantissa / 2) (e + 1) < scaled em.mantissa e := by
      have hmoved := scaled_mul_two_pow (em.mantissa / 2) e 1
      rw [pow_one, Nat.cast_one] at hmoved
      rw [← hmoved, scaled_lt_iff]
      omega
    exact hlt.trans_le h.le
  · exact hle.trans_lt (h.lt hsticky)

/-- **Moving down by some places**, by induction on them. -/
theorem UpTo.shiftRight {b : ℚ} {em : ExtendedMantissa} {e : Int} (h : UpTo b em e) (k : Nat) :
    UpTo b (em >>> k) (e + k) := by
  change UpTo b (k.repeat ExtendedMantissa.shiftRightOne em) (e + k)
  induction k with
  | zero => rwa [Nat.cast_zero, Int.add_zero]
  | succ k ih =>
    rw [Nat.cast_succ, ← Int.add_assoc]
    exact ih.shiftRightOne

theorem mantissa_shiftRight (em : ExtendedMantissa) (k : Nat) :
    (em >>> k).mantissa = em.mantissa / 2 ^ k := by
  change (k.repeat ExtendedMantissa.shiftRightOne em).mantissa = _
  induction k with
  | zero => exact (Nat.div_one _).symm
  | succ k ih =>
    rw [Nat.pow_succ, ← Nat.div_div_eq_div_mul, ← ih]
    rfl

/-- Rounding adds one at the most, and nothing if there is nothing behind the mantissa. -/
theorem roundedMantissa_cases (em : ExtendedMantissa) : em.roundedMantissa = em.mantissa ∨
    (em.roundBit || em.stickyBit) = true ∧ em.roundedMantissa = em.mantissa + 1 := by
  obtain ⟨m, r, s⟩ := em
  cases r <;> cases s
  · exact Or.inl rfl
  · exact Or.inl rfl
  · change m + m % 2 = m ∨ _ ∧ m + m % 2 = m + 1
    have := Nat.mod_two_eq_zero_or_one m
    simp only [Bool.or_false, true_and]
    omega
  · exact Or.inr ⟨rfl, rfl⟩

theorem roundedMantissa_bounds (em : ExtendedMantissa) :
    em.mantissa ≤ em.roundedMantissa ∧ em.roundedMantissa ≤ em.mantissa + 1 := by
  rcases roundedMantissa_cases em with heq | ⟨-, heq⟩ <;> omega

/-- **A bound at a whole number of units is not rounded past.** -/
theorem UpTo.roundedMantissa_le {em : ExtendedMantissa} {e : Int} {n : Nat}
    (h : UpTo (scaled n e) em e) : em.roundedMantissa ≤ n := by
  rcases roundedMantissa_cases em with heq | ⟨hbits, heq⟩
  · rw [heq]
    exact scaled_le_iff.mp h.le
  · rw [heq]
    exact scaled_lt_iff.mp (h.lt hbits)

/-! ## Doubles -/

/-- The numbers of double precision: those of the least exponent, and those whose mantissa fills
the format. -/
structure Canonical (m : Nat) (e : Int) : Prop where
  mantissa_lt : m < 2 ^ 53
  least_le : -1074 ≤ e
  filled : e = -1074 ∨ 2 ^ 52 ≤ m

/-- The value is that of a double, or zero. -/
def IsDouble (b : ℚ) : Prop := ∃ (m : Nat) (e : Int), m < 2 ^ 53 ∧ -1074 ≤ e ∧ scaled m e = b

/-- A zero or a double with the sign, whose magnitude does not exceed the bound. -/
inductive Within (s : Sign) (b : ℚ) : UnpackedFloat → Prop
  | zero : Within s b (.zero s)
  | finite {m : Nat} {e : Int} (hm : 0 < m) (hc : Canonical m e) (hle : scaled m e ≤ b) :
    Within s b (.finite s m e hm)

theorem exponentIn_binary64 (m : Nat) (e : Int) :
    exponentIn .binary64 m e = max (m.log2 + e - 52) (-1074) := by
  have hbits : (Format.binary64.mantissaBits : Int) = 53 := rfl
  have hmin : Format.binary64.minExponent = -1074 := rfl
  rw [exponentIn, Format.targetExponent, totalExponent, hbits, hmin]
  omega

/-- A bound that is a double stands at a whole number of the units that values up to it are rounded
to. -/
theorem exists_units {m : Nat} {e : Int} {b : ℚ} (hm : m = 0 → e ≤ -1074) (hb : IsDouble b)
    (h : scaled m e ≤ b) : ∃ n, scaled n (exponentIn .binary64 m e) = b := by
  obtain ⟨M, E, hM, hE, rfl⟩ := hb
  refine ⟨M * 2 ^ (E - exponentIn .binary64 m e).toNat, scaled_of_le ?_ M⟩
  by_contra hlt
  rw [exponentIn_binary64] at hlt
  have hpos : m ≠ 0 := by
    intro hzero
    have hleast := hm hzero
    rw [hzero, Nat.log2_zero] at hlt
    omega
  have hlog : 2 ^ m.log2 ≤ m := Nat.log2_self_le hpos
  have hexponent : 53 + E ≤ m.log2 + e := by omega
  -- the value has a greater leading bit than the bound
  have hlow : (2 : ℚ) ^ (53 + E) ≤ scaled m e := by
    calc (2 : ℚ) ^ (53 + E) ≤ 2 ^ (m.log2 + e) := zpow_le_zpow_right₀ (by norm_num) hexponent
      _ = scaled (2 ^ m.log2) e := (scaled_two_pow m.log2 e).symm
      _ ≤ scaled m e := scaled_mono hlog e
  have hhigh : scaled M E < 2 ^ (53 + E) := by
    calc scaled M E < scaled (2 ^ 53) E := scaled_lt_iff.mpr hM
      _ = 2 ^ (53 + E) := scaled_two_pow 53 E
  exact absurd (hlow.trans h) (not_le.mpr hhigh)

/-- A mantissa that is moved down to where the format has it fits, and fills the format unless the
exponent is the least one. -/
theorem shifted_mantissa {m : Nat} {e : Int} (hm : m = 0 → e ≤ -1074)
    (he : e ≤ exponentIn .binary64 m e) :
    m / 2 ^ (exponentIn .binary64 m e - e).toNat < 2 ^ 53 ∧
      (exponentIn .binary64 m e = -1074 ∨
        2 ^ 52 ≤ m / 2 ^ (exponentIn .binary64 m e - e).toNat) := by
  have hhigh : m < 2 ^ (m.log2 + 1) := Nat.lt_log2_self
  rw [exponentIn_binary64] at he ⊢
  constructor
  · refine Nat.div_lt_of_lt_mul (hhigh.trans_le ?_)
    rw [← pow_add]
    exact Nat.pow_le_pow_right (by decide) (by omega)
  · by_cases hleast : max (m.log2 + e - 52) (-1074) = -1074
    · exact Or.inl hleast
    · have hpos : m ≠ 0 := by
        intro hzero
        have := hm hzero
        rw [hzero, Nat.log2_zero] at hleast
        omega
      have hlow : 2 ^ m.log2 ≤ m := Nat.log2_self_le hpos
      refine Or.inr ((Nat.le_div_iff_mul_le (by positivity)).mpr (le_trans ?_ hlow))
      rw [← pow_add]
      exact Nat.pow_le_pow_right (by decide) (by omega)

/-! ## Rounding -/

/-- A rounded mantissa as it is put in place. -/
def placed (s : Sign) (r : Nat) (t : Int) : UnpackedFloat :=
  if h : (shiftToTargetExponent .binary64 r t .exact).1.mantissa = 0 then .zero s
  else .finite s (shiftToTargetExponent .binary64 r t .exact).1.mantissa
    (shiftToTargetExponent .binary64 r t .exact).2 (Nat.pos_of_ne_zero h)

theorem mantissa_placed (r : Nat) (t : Int) :
    (shiftToTargetExponent .binary64 r t .exact).1.mantissa =
      r / 2 ^ (exponentIn .binary64 r t - t).toNat := mantissa_shiftRight _ _

theorem exponent_placed (r : Nat) (t : Int) : (shiftToTargetExponent .binary64 r t .exact).2 =
    t + (exponentIn .binary64 r t - t).toNat := rfl

/-- A rounded mantissa may have become one bit longer, of which the last one is moved out again. -/
theorem placed_shift {r : Nat} {t : Int} (hr : r ≤ 2 ^ 53) (ht : -1074 ≤ t) :
    r < 2 ^ 53 ∧ (exponentIn .binary64 r t - t).toNat = 0 ∨
      r = 2 ^ 53 ∧ (exponentIn .binary64 r t - t).toNat = 1 := by
  rw [exponentIn_binary64]
  rcases hr.lt_or_eq with hlt | rfl
  · have hlog : r.log2 ≤ 52 := by
      by_cases hzero : r = 0
      · rw [hzero]
        decide
      · exact Nat.lt_succ_iff.mp ((Nat.log2_lt hzero).mpr hlt)
    exact Or.inl ⟨hlt, by omega⟩
  · rw [Nat.log2_two_pow]
    exact Or.inr ⟨rfl, by omega⟩

theorem placed_within (s : Sign) {r : Nat} {t : Int} {b : ℚ} (hr : r ≤ 2 ^ 53) (ht : -1074 ≤ t)
    (hfilled : t = -1074 ∨ 2 ^ 52 ≤ r) (hle : scaled r t ≤ b) : Within s b (placed s r t) := by
  have hmantissa := mantissa_placed r t
  have hexponent := exponent_placed r t
  unfold placed
  split
  · exact .zero
  · refine .finite _ ?_ ?_
    · rw [hmantissa, hexponent]
      rcases placed_shift hr ht with ⟨hlt, hstays⟩ | ⟨rfl, hmoves⟩
      · rw [hstays, pow_zero, Nat.div_one, Nat.cast_zero, Int.add_zero]
        exact ⟨hlt, ht, hfilled⟩
      · rw [hmoves]
        exact ⟨by decide, by omega, Or.inr (by decide)⟩
    · rw [hmantissa, hexponent]
      exact (scaled_div_le r t _).trans hle

theorem mantissa_of (m : Nat) (accuracy : Accuracy) :
    (ExtendedMantissa.ofMantissaAndAccuracy m accuracy).mantissa = m := by
  cases accuracy with
  | exact => rfl
  | inexact o => cases o <;> rfl

/-- Rounding moves the mantissa down to where the format has it, and puts the rounded one in place.
-/
theorem roundWithAccuracy_eq_placed (s : Sign) {m : Nat} {e : Int} (accuracy : Accuracy)
    (he : e ≤ exponentIn .binary64 m e) :
    roundWithAccuracy .binary64 s m e accuracy =
      placed s (ExtendedMantissa.ofMantissaAndAccuracy m accuracy >>>
        (exponentIn .binary64 m e - e).toNat).roundedMantissa (exponentIn .binary64 m e) := by
  have hplace : e + ((exponentIn .binary64 m e - e).toNat : Int) = exponentIn .binary64 m e := by
    omega
  have hfirst : shiftToTargetExponent .binary64 m e accuracy =
      (ExtendedMantissa.ofMantissaAndAccuracy m accuracy >>>
        (exponentIn .binary64 m e - e).toNat, exponentIn .binary64 m e) :=
    congrArg _ hplace
  rw [roundWithAccuracy, hfirst]
  rfl

/-- **Rounding gives a double at or below the bound.** -/
theorem roundWithAccuracy_within (s : Sign) {m : Nat} {e : Int} {accuracy : Accuracy} {b : ℚ}
    (hm : m = 0 → e ≤ -1074) (he : e ≤ exponentIn .binary64 m e) (hb : IsDouble b)
    (h : UpTo b (.ofMantissaAndAccuracy m accuracy) e) :
    Within s b (roundWithAccuracy .binary64 s m e accuracy) := by
  have hshifted := h.shiftRight (exponentIn .binary64 m e - e).toNat
  have hplace : e + ((exponentIn .binary64 m e - e).toNat : Int) = exponentIn .binary64 m e := by
    omega
  obtain ⟨hlt, hfilled⟩ := shifted_mantissa hm he
  have hwhere := mantissa_shiftRight (.ofMantissaAndAccuracy m accuracy)
    (exponentIn .binary64 m e - e).toNat
  rw [mantissa_of] at hwhere
  rw [hplace] at hshifted
  rw [← hwhere] at hlt hfilled
  have hle := h.le
  rw [mantissa_of] at hle
  obtain ⟨n, rfl⟩ := exists_units hm hb hle
  obtain ⟨hlow, hhigh⟩ := roundedMantissa_bounds
    (ExtendedMantissa.ofMantissaAndAccuracy m accuracy >>> (exponentIn .binary64 m e - e).toNat)
  rw [roundWithAccuracy_eq_placed s accuracy he]
  refine placed_within s (hhigh.trans hlt) ?_ (hfilled.imp_right fun hfull => hfull.trans hlow)
    (scaled_mono hshifted.roundedMantissa_le _)
  rw [exponentIn_binary64]
  exact le_max_right _ _

theorem upTo_exact {m : Nat} {e : Int} {b : ℚ} (h : scaled m e ≤ b) :
    UpTo b (.ofMantissaAndAccuracy m .exact) e :=
  ⟨h, fun hbits => by cases hbits⟩

/-- A mantissa is moved up to where the format has it before it is rounded. -/
theorem exists_round {m : Nat} (hm : 0 < m) (e : Int) : ∃ m' e', 0 < m' ∧
    scaled m' e' = scaled m e ∧ e' ≤ exponentIn .binary64 m' e' ∧
      ∀ s, UnpackedFloat.round .binary64 s m e = roundWithAccuracy .binary64 s m' e' .exact := by
  have hup : 0 < m <<< (e - exponentIn .binary64 m e).toNat := Nat.shiftLeft_pos_iff.mpr hm
  have hplace := exponentIn_shiftLeft .binary64 hm e (e - exponentIn .binary64 m e).toNat
  refine ⟨_, e - (e - exponentIn .binary64 m e).toNat, hup, ?_, ?_, fun s => rfl⟩
  · rw [Nat.shiftLeft_eq, scaled_mul_two_pow, Int.sub_add_cancel]
  · rw [hplace]
    omega

theorem round_within (s : Sign) {m : Nat} {e : Int} {b : ℚ} (hm : 0 < m) (hb : IsDouble b)
    (h : scaled m e ≤ b) : Within s b (UnpackedFloat.round .binary64 s m e) := by
  obtain ⟨m', e', hm', hvalue, hfits, hround⟩ := exists_round hm e
  rw [hround]
  exact roundWithAccuracy_within s (fun hzero => absurd hzero hm'.ne') hfits hb
    (upTo_exact (hvalue.trans_le h))

/-! ## Operations -/

theorem scaled_mul (m n : Nat) (e f : Int) : scaled m e * scaled n f = scaled (m * n) (e + f) := by
  rw [scaled, scaled, scaled, zpow_add₀ (by norm_num)]
  push_cast
  ring

theorem scaled_pos {m : Nat} (hm : 0 < m) (e : Int) : 0 < scaled m e :=
  mul_pos (Nat.cast_pos.mpr hm) (zpow_pos (by norm_num) e)

/-- A quotient is computed with as many bits as the format has room for. -/
theorem quotient_fits {m₁ m₂ k : Nat} {e t : Int} (hm₁ : 0 < m₁) (hm₂ : 0 < m₂)
    (ht : t = min e (max (m₁.log2 - m₂.log2 + e - 53) (-1074))) (hk : t + k = e) :
    (m₁ * 2 ^ k / m₂ = 0 → t ≤ -1074) ∧ t ≤ exponentIn .binary64 (m₁ * 2 ^ k / m₂) t := by
  rw [exponentIn_binary64]
  by_cases hleast : (m₁.log2 : Int) - m₂.log2 + e - 53 ≤ -1074
  · constructor <;> omega
  · have hlow : 2 ^ m₁.log2 ≤ m₁ := Nat.log2_self_le hm₁.ne'
    have hhigh : m₂ ≤ 2 ^ (m₂.log2 + 1) := Nat.lt_log2_self.le
    have hplaces : m₂.log2 + 1 + (m₁.log2 + k - m₂.log2 - 1) = m₁.log2 + k := by omega
    -- the leading bits of both are told by their logarithms, and so is that of the quotient
    have hquotient : 2 ^ (m₁.log2 + k - m₂.log2 - 1) ≤ m₁ * 2 ^ k / m₂ := by
      refine (Nat.le_div_iff_mul_le hm₂).mpr ?_
      calc 2 ^ (m₁.log2 + k - m₂.log2 - 1) * m₂
          ≤ 2 ^ (m₁.log2 + k - m₂.log2 - 1) * 2 ^ (m₂.log2 + 1) := Nat.mul_le_mul_left _ hhigh
        _ = 2 ^ m₁.log2 * 2 ^ k := by rw [← pow_add, ← pow_add, Nat.add_comm, hplaces]
        _ ≤ m₁ * 2 ^ k := Nat.mul_le_mul_right _ hlow
    have hpos : m₁ * 2 ^ k / m₂ ≠ 0 := (lt_of_lt_of_le (by positivity) hquotient).ne'
    have hlog := (Nat.le_log2 hpos).mpr hquotient
    exact ⟨fun hzero => absurd hzero hpos, by omega⟩

/-- What is rounded to a quotient. -/
theorem exists_divCore {m₁ m₂ : Nat} (hm₁ : 0 < m₁) (hm₂ : 0 < m₂) (e₁ e₂ : Int) :
    ∃ (n : Nat) (t : Int), scaled n (t + e₂) = scaled m₁ e₁ ∧
      divCore .binary64 m₁ e₁ m₂ e₂ = (n / m₂, t, accuracyOfFraction (n % m₂) m₂) ∧
      (n / m₂ = 0 → t ≤ -1074) ∧ t ≤ exponentIn .binary64 (n / m₂) t := by
  obtain ⟨t, ht⟩ : ∃ t, t = min (e₁ - e₂) (max (m₁.log2 - m₂.log2 + (e₁ - e₂) - 53) (-1074)) :=
    ⟨_, rfl⟩
  obtain ⟨k, hk⟩ : ∃ k : Nat, t + k = e₁ - e₂ := ⟨(e₁ - e₂ - t).toNat, by omega⟩
  have htarget : Format.binary64.targetExponent (totalExponent m₁ e₁ - totalExponent m₂ e₂) =
      max (m₁.log2 - m₂.log2 + (e₁ - e₂) - 53) (-1074) := by
    have hbits : (Format.binary64.mantissaBits : Int) = 53 := rfl
    have hmin : Format.binary64.minExponent = -1074 := rfl
    rw [Format.targetExponent, totalExponent, totalExponent, hbits, hmin]
    omega
  obtain ⟨hzero, hfits⟩ := quotient_fits hm₁ hm₂ ht hk
  refine ⟨m₁ * 2 ^ k, t, ?_, ?_, hzero, hfits⟩
  · rw [scaled_mul_two_pow]
    congr 1
    omega
  · have hshift : (e₁ - e₂ - t).toNat = k := by omega
    rw [divCore, htarget, ← ht, hshift, Nat.shiftLeft_eq]

/-- **A quotient that does not exceed the bound is not rounded past it.** -/
theorem div_within (s₁ s₂ : Sign) {m₁ m₂ : Nat} {e₁ e₂ : Int} {b : ℚ} (hm₁ : 0 < m₁)
    (hm₂ : 0 < m₂) (hb : IsDouble b) (h : scaled m₁ e₁ ≤ b * scaled m₂ e₂) :
    Within (s₁ / s₂) b
      (UnpackedFloat.div .binary64 (.finite s₁ m₁ e₁ hm₁) (.finite s₂ m₂ e₂ hm₂)) := by
  obtain ⟨n, t, hvalue, hcore, hzero, hfits⟩ := exists_divCore hm₁ hm₂ e₁ e₂
  have hdivisor := scaled_pos hm₂ e₂
  have hsplit := Nat.div_add_mod n m₂
  have hupTo : UpTo b (.ofMantissaAndAccuracy (n / m₂) (accuracyOfFraction (n % m₂) m₂)) t := by
    refine ⟨?_, fun hbits => ?_⟩
    · rw [mantissa_of]
      refine le_of_mul_le_mul_right (le_trans ?_ h) hdivisor
      rw [scaled_mul, ← hvalue]
      exact scaled_mono (by rw [Nat.mul_comm]; omega) _
    · have hrest : n % m₂ ≠ 0 := by
        intro hnone
        rw [hnone] at hbits
        cases hbits
      rw [mantissa_of]
      refine lt_of_mul_lt_mul_right (lt_of_lt_of_le ?_ h) hdivisor.le
      rw [scaled_mul, ← hvalue]
      exact scaled_lt_iff.mpr (by rw [Nat.mul_comm]; omega)
  rw [UnpackedFloat.div, hcore]
  exact roundWithAccuracy_within (s₁ / s₂) hzero hfits hb hupTo

/-- A product is computed with as many bits as the format has room for. -/
theorem product_fits {m₁ m₂ : Nat} {e₁ e₂ : Int} (hm₁ : 0 < m₁) (hm₂ : 0 < m₂)
    (hc₁ : Canonical m₁ e₁) (hc₂ : Canonical m₂ e₂) :
    e₁ + e₂ ≤ exponentIn .binary64 (m₁ * m₂) (e₁ + e₂) := by
  have hpos : 0 < m₁ * m₂ := Nat.mul_pos hm₁ hm₂
  rw [exponentIn_binary64]
  have hfull : 2 ^ 52 ≤ m₁ * m₂ → 52 ≤ (m₁ * m₂).log2 := (Nat.le_log2 hpos.ne').mpr
  rcases hc₁.filled with hleast₁ | hlow₁
  · rcases hc₂.filled with hleast₂ | hlow₂
    · omega
    · have := hfull (hlow₂.trans (Nat.le_mul_of_pos_left m₂ hm₁))
      omega
  · have := hfull (hlow₁.trans (Nat.le_mul_of_pos_right m₁ hm₂))
    omega

/-- **A product that does not exceed the bound is not rounded past it.** -/
theorem mul_within (s₁ s₂ : Sign) {m₁ m₂ : Nat} {e₁ e₂ : Int} {b : ℚ} (hm₁ : 0 < m₁)
    (hm₂ : 0 < m₂) (hc₁ : Canonical m₁ e₁) (hc₂ : Canonical m₂ e₂) (hb : IsDouble b)
    (h : scaled m₁ e₁ * scaled m₂ e₂ ≤ b) :
    Within (s₁ * s₂) b
      (UnpackedFloat.mul .binary64 (.finite s₁ m₁ e₁ hm₁) (.finite s₂ m₂ e₂ hm₂)) := by
  have hpos : 0 < m₁ * m₂ := Nat.mul_pos hm₁ hm₂
  rw [scaled_mul] at h
  exact roundWithAccuracy_within (s₁ * s₂) (fun hzero => absurd hzero hpos.ne')
    (product_fits hm₁ hm₂ hc₁ hc₂) hb (upTo_exact h)

/-- **A difference that does not exceed the bound is not rounded past it.** -/
theorem sub_within {m₁ m₂ : Nat} {e₁ e₂ : Int} {b : ℚ} (hm₁ : 0 < m₁) (hm₂ : 0 < m₂)
    (hb : IsDouble b) (hle : scaled m₂ e₂ ≤ scaled m₁ e₁)
    (h : scaled m₁ e₁ - scaled m₂ e₂ ≤ b) :
    Within .positive b (UnpackedFloat.sub .binary64 (.finite .positive m₁ e₁ hm₁)
      (.finite .positive m₂ e₂ hm₂)) := by
  have hmoved₁ := scaled_of_le (min_le_left e₁ e₂) m₁
  have hmoved₂ := scaled_of_le (min_le_right e₁ e₂) m₂
  rw [← hmoved₁, ← hmoved₂] at hle h
  obtain ⟨d, hd⟩ := Nat.exists_eq_add_of_le (scaled_le_iff.mp hle)
  have hsub : UnpackedFloat.sub .binary64 (.finite .positive m₁ e₁ hm₁)
      (.finite .positive m₂ e₂ hm₂) = normalize .binary64
        ((m₁ * 2 ^ (e₁ - min e₁ e₂).toNat : Nat) - (m₂ * 2 ^ (e₂ - min e₁ e₂).toNat : Nat) : Int)
        (min e₁ e₂) .positive := by
    rw [← Nat.shiftLeft_eq, ← Nat.shiftLeft_eq]
    rfl
  have hdifference : scaled d (min e₁ e₂) ≤ b := by
    rw [hd, scaled, scaled] at h
    rw [scaled]
    push_cast at h
    linarith
  rw [hsub, hd, Nat.cast_add, add_sub_cancel_left, UnpackedFloat.normalize]
  cases hcompare : compare (d : Int) 0 with
  | lt => exact absurd (Int.compare_eq_lt.mp hcompare) (by omega)
  | eq => exact .zero
  | gt =>
    have hpos : 0 < d := by
      have := Int.compare_eq_gt.mp hcompare
      omega
    exact round_within .positive hpos hb hdifference

/-! ## Packing -/

/-- Packing keeps a double of the least exponent whose mantissa does not fill the format. -/
theorem unpack_pack_least {s : Sign} {m : Nat} (hm : 0 < m) (h : m < 2 ^ 52) :
    unpack .binary64 (pack .binary64 (.finite s m (-1074) hm)) = .finite s m (-1074) hm := by
  have hlog : m.log2 < 52 := (Nat.log2_lt hm.ne').mpr h
  have hbias : (Format.binary64.exponentBias : Int) = 1023 := rfl
  have hwidth : (Format.binary64.mantissaBitsWithoutImplicit : Int) = 52 := rfl
  have hbits : Format.binary64.mantissaBits = 53 := rfl
  have hstored : (-1074 + (Format.binary64.exponentBias : Int) +
      Format.binary64.mantissaBitsWithoutImplicit).toNat = 1 := rfl
  have hpacked : pack .binary64 (.finite s m (-1074) hm) =
      packComponents .binary64 s 0#11 (BitVec.ofNat 52 m) := by
    rw [pack]
    dsimp only
    rw [hstored, if_neg (by decide), if_neg (by rw [hbits]; omega)]
  have hmantissa : (BitVec.ofNat 52 m).toNat = m := by
    rw [BitVec.toNat_ofNat, Nat.mod_eq_of_lt h]
  have hnonzero : BitVec.ofNat 52 m ≠ 0#52 := by
    intro hzero
    have hm0 : m = 0 := hmantissa.symm.trans (congrArg BitVec.toNat hzero)
    omega
  rw [hpacked, unpack]
  simp only [unpackExponent_packComponents, unpackMantissa_packComponents,
    unpackSign_packComponents]
  rw [if_neg (by decide), if_pos trivial, dif_neg hnonzero]
  simp only [Sign.ofBitVec_toBitVec, hmantissa]
  rfl

/-- **Packing keeps a double that does not exceed the greatest ones.** -/
theorem unpack_pack_within {s : Sign} {b : ℚ} {u : UnpackedFloat} (h : Within s b u)
    (hb : b < 2 ^ 1024) : unpack .binary64 (pack .binary64 u) = u := by
  cases h with
  | zero => exact unpack_packedZero
  | @finite m e hm hc hle =>
    by_cases hlow : 2 ^ 52 ≤ m
    · refine unpack_pack_double hm hlow hc.mantissa_lt hc.least_le ?_
      have hbelow : (2 : ℚ) ^ (52 + e) < 2 ^ (1024 : Int) := by
        calc (2 : ℚ) ^ (52 + e) = scaled (2 ^ 52) e := (scaled_two_pow 52 e).symm
          _ ≤ scaled m e := scaled_mono hlow e
          _ ≤ b := hle
          _ < 2 ^ (1024 : Int) := by exact_mod_cast hb
      have := (zpow_lt_zpow_iff_right₀ (by norm_num)).mp hbelow
      omega
    · obtain rfl := hc.filled.resolve_right hlow
      exact unpack_pack_least hm (Nat.lt_of_not_le hlow)

end EvidenceRank.Decimal
