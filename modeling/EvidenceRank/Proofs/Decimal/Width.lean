import EvidenceRank.Decimal.Width
import Mathlib

/-!
# Widening loses nothing

A number is its mantissa times a power of two. Widening moves the mantissa up until it fills the
wider format, which has room for it at every exponent that the narrower one has; narrowing moves it
down again, over zeros only, so that nothing is rounded.

* `round_eq_shiftLeft`: a number that a format has room for is moved up, and not rounded.
* `round_shiftLeft`: a number of a format that was moved up is moved down to where it was.
* `Stored`: the numbers of a format, as packed ones are unpacked.
* `narrow_widen`: a single that was widened is narrowed to itself.
-/

namespace EvidenceRank.Decimal

open Float.Model (Format UnpackedFloat totalExponent)
open Float.Model.UnpackedFloat

/-! ## Moving a mantissa -/

/-- The exponent that a format gives to a number. -/
def exponentIn (format : Format) (mantissa : Nat) (exponent : Int) : Int :=
  format.targetExponent (totalExponent mantissa exponent)

theorem log2_shiftLeft {m : Nat} (hm : 0 < m) (k : Nat) : (m <<< k).log2 = m.log2 + k := by
  induction k with
  | zero => rfl
  | succ k ih =>
    rw [Nat.shiftLeft_succ, Nat.log2_two_mul (Nat.shiftLeft_pos_iff.mpr hm).ne', ih, Nat.add_assoc]

/-- Where a number stands does not change when its mantissa is moved. -/
theorem exponentIn_shiftLeft (format : Format) {m : Nat} (hm : 0 < m) (e : Int) (k : Nat) :
    exponentIn format (m <<< k) (e - k) = exponentIn format m e := by
  rw [exponentIn, exponentIn, totalExponent, totalExponent, log2_shiftLeft hm]
  congr 1
  omega

/-- Moving down over zeros leaves nothing to round. -/
theorem repeat_shiftRightOne_shiftLeft (m k : Nat) :
    Nat.repeat ExtendedMantissa.shiftRightOne k ⟨m <<< k, false, false⟩ = ⟨m, false, false⟩ := by
  induction k generalizing m with
  | zero => rfl
  | succ k ih =>
    have hstep : m <<< (k + 1) = (2 * m) <<< k := by
      rw [Nat.shiftLeft_eq, Nat.shiftLeft_eq, Nat.pow_succ]
      ring
    -- the bit that is moved out last is that of an even number
    rw [Nat.repeat, hstep, ih, ExtendedMantissa.shiftRightOne]
    simp

/-- A number that is moved down over zeros to where the format has it. -/
theorem shiftToTargetExponent_shiftLeft (format : Format) {m : Nat} (hm : 0 < m) {e : Int}
    (k : Nat) (h : exponentIn format m e = e) :
    shiftToTargetExponent format (m <<< k) (e - k) .exact = (⟨m, false, false⟩, e) := by
  have htarget := exponentIn_shiftLeft format hm e k
  rw [h, exponentIn] at htarget
  have hback : (e - (e - k)).toNat = k := by omega
  have hexponent : e - (k : Int) + (k : Int) = e := by omega
  rw [shiftToTargetExponent, htarget, shiftToExponent]
  rw [hback, hexponent]
  exact congrArg (·, e) (repeat_shiftRightOne_shiftLeft m k)

theorem roundWithAccuracy_shiftLeft (format : Format) (s : Sign) {m : Nat} (hm : 0 < m) {e : Int}
    (k : Nat) (h : exponentIn format m e = e) :
    roundWithAccuracy format s (m <<< k) (e - k) .exact = .finite s m e hm := by
  have hfirst := shiftToTargetExponent_shiftLeft format hm k h
  have hsecond := shiftToTargetExponent_shiftLeft format hm 0 h
  rw [Nat.shiftLeft_zero, Int.natCast_zero, Int.sub_zero] at hsecond
  -- nothing was cut off, so the rounded mantissa is the mantissa, and the second move does nothing
  have hexact : (⟨m, false, false⟩ : ExtendedMantissa).roundedMantissa = m := rfl
  rw [roundWithAccuracy, hfirst]
  dsimp only
  rw [hexact, hsecond]
  exact dif_neg hm.ne'

/-- **A number of a format that was moved up is moved down to where it was.** -/
theorem round_shiftLeft (format : Format) (s : Sign) {m : Nat} (hm : 0 < m) {e : Int} (k : Nat)
    (h : exponentIn format m e = e) :
    round format s (m <<< k) (e - k) = .finite s m e hm := by
  have htarget := exponentIn_shiftLeft format hm e k
  rw [h, exponentIn] at htarget
  have hnone : (e - (k : Int) - e).toNat = 0 := by omega
  rw [UnpackedFloat.round]
  dsimp only
  rw [htarget, decreaseExponent]
  dsimp only
  rw [hnone, Nat.shiftLeft_zero, Int.natCast_zero, Int.sub_zero]
  exact roundWithAccuracy_shiftLeft format s hm k h

/-- **A number that a format has room for is moved up, and not rounded.** -/
theorem round_eq_shiftLeft (format : Format) (s : Sign) {m : Nat} (hm : 0 < m) {e : Int} {k : Nat}
    (h : exponentIn format m e = e - k) :
    round format s m e = .finite s (m <<< k) (e - k) (Nat.shiftLeft_pos_iff.mpr hm) := by
  have hthere := exponentIn_shiftLeft format hm e k
  rw [h] at hthere
  have hup : (e - (e - (k : Int))).toNat = k := by omega
  have hround := roundWithAccuracy_shiftLeft format s (Nat.shiftLeft_pos_iff.mpr hm) 0 hthere
  rw [Nat.shiftLeft_zero, Int.natCast_zero, Int.sub_zero] at hround
  rw [exponentIn] at h
  rw [UnpackedFloat.round]
  dsimp only
  rw [h, decreaseExponent]
  dsimp only
  rw [hup]
  exact hround

/-! ## Stored numbers -/

/-- What unpacking makes of a packed number: the mantissa fits the format, and fills it unless the
exponent is the least one. -/
theorem finite_unpack {format : Format} {b : BitVec format.numBits} {s : Sign} {m : Nat} {e : Int}
    {hm : 0 < m} (h : unpack format b = .finite s m e hm) :
    m < 2 * 2 ^ format.mantissaBitsWithoutImplicit ∧
      (e + (format.exponentBias + format.mantissaBitsWithoutImplicit) = 1 ∨
        2 ^ format.mantissaBitsWithoutImplicit ≤ m ∧
          1 ≤ e + (format.exponentBias + format.mantissaBitsWithoutImplicit) ∧
          e + (format.exponentBias + format.mantissaBitsWithoutImplicit) <
            ((2 ^ format.exponentBits - 1 : Nat) : Int)) := by
  have hmantissa : (unpackMantissa b).toNat < 2 ^ format.mantissaBitsWithoutImplicit :=
    (unpackMantissa b).isLt
  have hexponent : (unpackExponent b).toNat < 2 ^ format.exponentBits := (unpackExponent b).isLt
  rw [unpack] at h
  split at h
  · split at h <;> cases h
  · rename_i hnormal
    split at h
    · split at h
      · cases h
      · rename_i hleast _
        cases h
        have hzero : (unpackExponent b).toNat = 0 := by
          rw [hleast]
          rfl
        rw [hzero]
        exact ⟨by omega, Or.inl (by omega)⟩
    · rename_i hpositive
      cases h
      have hpos : (unpackExponent b).toNat ≠ 0 := fun hz => hpositive (BitVec.eq_of_toNat_eq hz)
      have hmax : (unpackExponent b).toNat ≠ 2 ^ format.exponentBits - 1 := by
        intro hz
        refine hnormal (BitVec.eq_of_toNat_eq (hz.trans ?_))
        rw [BitVec.neg_one_eq_allOnes, BitVec.toNat_allOnes]
      have hone : (1#1 ++ unpackMantissa b).toNat =
          2 ^ format.mantissaBitsWithoutImplicit + (unpackMantissa b).toNat := by
        rw [BitVec.toNat_append, ← Nat.shiftLeft_add_eq_or_of_lt hmantissa, Nat.shiftLeft_eq]
        exact congrArg (· + _) (Nat.one_mul _)
      rw [hone]
      exact ⟨by omega, Or.inr ⟨Nat.le_add_right _ _, by omega, by omega⟩⟩

/-- The numbers of single precision: those of the least exponent, and those whose mantissa fills
the format. -/
structure Stored (m : Nat) (e : Int) : Prop where
  mantissa_lt : m < 2 ^ 24
  least_le : -149 ≤ e
  le_greatest : e ≤ 104
  filled : e = -149 ∨ 2 ^ 23 ≤ m

theorem stored_unpack {b : BitVec Format.binary32.numBits} {s : Sign} {m : Nat} {e : Int}
    {hm : 0 < m} (h : unpack .binary32 b = .finite s m e hm) : Stored m e := by
  have hbias : (Format.binary32.exponentBias : Int) = 127 := rfl
  have hwidth : Format.binary32.mantissaBitsWithoutImplicit = 23 := rfl
  have hmax : 2 ^ Format.binary32.exponentBits - 1 = 255 := rfl
  have hfields := finite_unpack h
  rw [hbias, hwidth, hmax] at hfields
  constructor <;> omega

/-- Packing keeps a double whose mantissa fills the format. -/
theorem unpack_pack_double {s : Sign} {m : Nat} {e : Int} (hm : 0 < m) (hlow : 2 ^ 52 ≤ m)
    (hhigh : m < 2 ^ 53) (hleast : -1074 ≤ e) (hgreatest : e ≤ 971) :
    unpack .binary64 (pack .binary64 (.finite s m e hm)) = .finite s m e hm := by
  have hlog : m.log2 = 52 := (Nat.log2_eq_iff hm.ne').mpr ⟨hlow, hhigh⟩
  have hbias : (Format.binary64.exponentBias : Int) = 1023 := rfl
  have hwidth : (Format.binary64.mantissaBitsWithoutImplicit : Int) = 52 := rfl
  obtain ⟨n, hn⟩ := Int.eq_ofNat_of_zero_le (show 0 ≤ e + 1075 by omega)
  have hstored : (e + Format.binary64.exponentBias +
      Format.binary64.mantissaBitsWithoutImplicit).toNat = n := by
    rw [hbias, hwidth]
    omega
  have hpacked : pack .binary64 (.finite s m e hm) =
      packComponents .binary64 s (BitVec.ofNat 11 n) (BitVec.ofNat 52 m) := by
    rw [pack]
    dsimp only
    rw [hstored, hlog, if_neg (show ¬ 2 ^ 11 ≤ n + 1 by omega)]
    exact if_pos rfl
  have hexponent : (BitVec.ofNat 11 n).toNat = n := by
    rw [BitVec.toNat_ofNat]
    omega
  have hmantissa : (1#1 ++ BitVec.ofNat 52 m).toNat = m := by
    rw [BitVec.toNat_append, ← Nat.shiftLeft_add_eq_or_of_lt (BitVec.ofNat 52 m).isLt,
      BitVec.toNat_ofNat, Nat.shiftLeft_eq, BitVec.toNat_ofNat]
    omega
  have hfinite : BitVec.ofNat 11 n ≠ -1#11 := by
    intro h
    have hmax : n = 2047 := hexponent.symm.trans (congrArg BitVec.toNat h)
    omega
  have hpositive : BitVec.ofNat 11 n ≠ 0#11 := by
    intro h
    have hzero : n = 0 := hexponent.symm.trans (congrArg BitVec.toNat h)
    omega
  rw [hpacked, unpack]
  simp only [unpackExponent_packComponents, unpackMantissa_packComponents,
    unpackSign_packComponents]
  rw [if_neg hfinite, if_neg hpositive]
  have hwhere : (n : Int) - (1023 + 52) = e := by omega
  simp only [Sign.ofBitVec_toBitVec, hmantissa, hexponent, hbias, hwidth, hwhere]

theorem exponentIn_single {m : Nat} {e : Int} (hm : 0 < m) (h : Stored m e) :
    exponentIn .binary32 m e = e := by
  have hlog := (Nat.log2_lt hm.ne').mpr h.mantissa_lt
  have hfilled : e = -149 ∨ 23 ≤ m.log2 := h.filled.imp id (Nat.le_log2 hm.ne').mpr
  have hleast := h.least_le
  have hbits : (Format.binary32.mantissaBits : Int) = 24 := rfl
  have hmin : Format.binary32.minExponent = -149 := rfl
  rw [exponentIn, Format.targetExponent, totalExponent, hbits, hmin]
  omega

theorem exponentIn_double {m : Nat} {e : Int} (hm : 0 < m) (h : Stored m e) :
    exponentIn .binary64 m e = e - ((52 - m.log2 : Nat) : Int) := by
  have hlog := (Nat.log2_lt hm.ne').mpr h.mantissa_lt
  have hleast := h.least_le
  have hbits : (Format.binary64.mantissaBits : Int) = 53 := rfl
  have hmin : Format.binary64.minExponent = -1074 := rfl
  rw [exponentIn, Format.targetExponent, totalExponent, hbits, hmin]
  omega

/-- Widening moves the mantissa up until it fills double precision. -/
theorem round_widened {s : Sign} {m : Nat} {e : Int} (hm : 0 < m) (h : Stored m e) :
    round .binary64 s m e =
      .finite s (m <<< (52 - m.log2)) (e - ((52 - m.log2 : Nat) : Int))
        (Nat.shiftLeft_pos_iff.mpr hm) :=
  round_eq_shiftLeft .binary64 s hm (exponentIn_double hm h)

/-- Packing keeps a number that was moved up into double precision. -/
theorem unpack_pack_shiftLeft {s : Sign} {m : Nat} {e : Int} (hm : 0 < m) (h : Stored m e)
    (hk : 0 < m <<< (52 - m.log2)) :
    unpack .binary64 (pack .binary64
        (.finite s (m <<< (52 - m.log2)) (e - ((52 - m.log2 : Nat) : Int)) hk)) =
      .finite s (m <<< (52 - m.log2)) (e - ((52 - m.log2 : Nat) : Int)) hk := by
  have hlog := (Nat.log2_lt hm.ne').mpr h.mantissa_lt
  have hfull : (m <<< (52 - m.log2)).log2 = 52 := by
    rw [log2_shiftLeft hm]
    omega
  obtain ⟨hlow, hhigh⟩ := (Nat.log2_eq_iff hk.ne').mp hfull
  have hleast := h.least_le
  have hgreatest := h.le_greatest
  exact unpack_pack_double hk hlow hhigh (by omega) (by omega)

/-- A widened number is packed without loss. -/
theorem unpack_pack_nearest (b : BitVec Format.binary32.numBits) :
    unpack .binary64 (pack .binary64 (nearest .binary64 (unpack .binary32 b))) =
      nearest .binary64 (unpack .binary32 b) := by
  cases hb : unpack .binary32 b with
  | infinity s => cases s <;> rfl
  | notANumber => rfl
  | zero s => cases s <;> rfl
  | finite s m e hm =>
    have hstored := stored_unpack hb
    rw [nearest, round_widened hm hstored]
    exact unpack_pack_shiftLeft hm hstored (Nat.shiftLeft_pos_iff.mpr hm)

/-- Narrowing undoes widening on the numbers of single precision. -/
theorem nearest_nearest (b : BitVec Format.binary32.numBits) :
    nearest .binary32 (nearest .binary64 (unpack .binary32 b)) = unpack .binary32 b := by
  cases hb : unpack .binary32 b with
  | infinity s => rfl
  | notANumber => rfl
  | zero s => rfl
  | finite s m e hm =>
    have hstored := stored_unpack hb
    rw [nearest, round_widened hm hstored, nearest]
    exact round_shiftLeft .binary32 s hm _ (exponentIn_single hm hstored)

theorem unpack_widen (x : Float32) :
    (widen x).toModel.unpack = nearest .binary64 x.toModel.unpack :=
  unpack_pack_nearest _

/-- **A single that was widened is narrowed to itself.** -/
theorem narrow_widen (x : Float32) : narrow (widen x) = x := by
  have hback : nearest .binary32 (widen x).toModel.unpack = x.toModel.unpack := by
    rw [unpack_widen]
    exact nearest_nearest _
  refine Float32.toBits_inj.mp (UInt32.toBitVec_inj.mp ?_)
  change pack .binary32 (nearest .binary32 (widen x).toModel.unpack) = _
  rw [hback]
  exact pack_unpack_of_valid x.toModel.valid

end EvidenceRank.Decimal
