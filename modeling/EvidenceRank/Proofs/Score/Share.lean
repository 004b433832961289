import EvidenceRank.Proofs.Decimal.Rounding
import EvidenceRank.Proofs.Score.Alike

/-!
# Shares

A count below `2 ^ 53` is a double (`unpacked_ofNat`), and the share of a part in a whole is the
quotient of two of them, rounded. As one is a double too, no share is rounded past it.

Positive doubles are compared by exponent and mantissa. As mantissas fill the format unless the
exponent is the least one, this is the order of their values (`scaled_lt_of_exponent_lt`).

Results:
* `le_of_within`: a float whose value does not exceed that of a positive one is at most that one.
* `share_within`: the share of a part in a whole is a double that does not exceed one.
* `le_one_of_within`: the comparison with one says so too.
-/

namespace EvidenceRank.Score

open EvidenceRank.Decimal
open Float.Model
open Float.Model.UnpackedFloat (zero finite)

/-! ## The order of values -/

/-- Of two doubles the one with the higher exponent has the higher value. -/
theorem scaled_lt_of_exponent_lt {m n : Nat} {e f : Int} (hm : Canonical m e)
    (hn : Canonical n f) (h : e < f) : scaled m e < scaled n f := by
  have hleast := hm.least_le
  have hfull : 2 ^ 52 ≤ n := hn.filled.resolve_left (by omega)
  obtain ⟨k, rfl⟩ := Int.le.dest (show e + 1 ≤ f from h)
  calc scaled m e < scaled (2 ^ 53) e := scaled_lt_iff.mpr hm.mantissa_lt
    _ = scaled (2 ^ 52) (e + 1) := scaled_mul_two_pow (2 ^ 52) e 1
    _ ≤ scaled n (e + 1) := scaled_mono hfull _
    _ ≤ scaled (n * 2 ^ k) (e + 1) := scaled_mono (Nat.le_mul_of_pos_right n (by positivity)) _
    _ = scaled n (e + 1 + k) := scaled_mul_two_pow n (e + 1) k

/-- Positive doubles stand in the order of their values. -/
theorem below_iff {m n : Nat} {e f : Int} (hm : Canonical m e) (hn : Canonical n f)
    (hmpos : 0 < m) (hnpos : 0 < n) :
    Below (standing (finite .positive m e hmpos)) (standing (finite .positive n f hnpos)) ↔
      scaled m e < scaled n f := by
  have hstanding : Below (standing (finite .positive m e hmpos))
      (standing (finite .positive n f hnpos)) ↔ e < f ∨ e = f ∧ m < n := by
    unfold Below standing
    simp only [Int.lt_irrefl, true_and, false_or, Nat.cast_lt]
  rw [hstanding]
  constructor
  · rintro (hlt | ⟨rfl, hlt⟩)
    · exact scaled_lt_of_exponent_lt hm hn hlt
    · exact scaled_lt_iff.mpr hlt
  · intro hlt
    rcases Int.lt_trichotomy e f with h | rfl | h
    · exact Or.inl h
    · exact Or.inr ⟨rfl, scaled_lt_iff.mp hlt⟩
    · exact absurd hlt (not_lt.mpr (scaled_lt_of_exponent_lt hn hm h).le)

/-- **What does not exceed the value of a positive double is at most that double.** -/
theorem le_of_within {x y : Float} {n : Nat} {f : Int} (hn : Canonical n f) (hnpos : 0 < n)
    (hy : unpacked y = finite .positive n f hnpos)
    (hx : Within .positive (scaled n f) (unpacked x)) : le x y = true := by
  rw [float_le, le_iff, hy]
  generalize unpacked x = u at hx
  cases hx with
  | zero =>
    refine ⟨rfl, rfl, ?_⟩
    unfold Below standing
    simp
  | finite hm hc hle =>
    exact ⟨rfl, rfl, fun hbelow => not_lt.mpr hle ((below_iff hn hc _ _).mp hbelow)⟩

/-- A double that a positive one does not exceed has no lower value. -/
theorem scaled_le_of_le {x y : Float} {m n : Nat} {e f : Int} (hn : Canonical n f)
    (hm : Canonical m e) (hnpos : 0 < n) (hmpos : 0 < m)
    (hy : unpacked y = finite .positive n f hnpos) (hx : unpacked x = finite .positive m e hmpos)
    (h : le y x = true) : scaled n f ≤ scaled m e := by
  rw [float_le, le_iff, hx, hy] at h
  exact not_lt.mp fun hlt => h.2.2 ((below_iff hm hn _ _).mpr hlt)

/-! ## Counts -/

/-- A count is moved up until it fills double precision. -/
theorem round_count {n : Nat} (hpos : 0 < n) (h : n < 2 ^ 53) :
    UnpackedFloat.round .binary64 .positive n 0 =
      finite .positive (n <<< (52 - n.log2)) (0 - ((52 - n.log2 : Nat) : Int))
        (Nat.shiftLeft_pos_iff.mpr hpos) := by
  have hlog := (Nat.log2_lt hpos.ne').mpr h
  refine round_eq_shiftLeft .binary64 .positive hpos ?_
  rw [exponentIn_binary64]
  omega

theorem canonical_count {n : Nat} (hpos : 0 < n) (h : n < 2 ^ 53) :
    Canonical (n <<< (52 - n.log2)) (0 - ((52 - n.log2 : Nat) : Int)) := by
  have hlog := (Nat.log2_lt hpos.ne').mpr h
  have hfull : (n <<< (52 - n.log2)).log2 = 52 := by
    rw [log2_shiftLeft hpos]
    omega
  obtain ⟨hlow, hhigh⟩ := (Nat.log2_eq_iff (Nat.shiftLeft_pos_iff.mpr hpos).ne').mp hfull
  exact ⟨hhigh, by omega, Or.inr hlow⟩

theorem scaled_count (n k : Nat) : scaled (n <<< k) (0 - (k : Int)) = n := by
  rw [Nat.shiftLeft_eq, scaled_mul_two_pow, Int.sub_add_cancel, scaled, zpow_zero, mul_one]

/-- One leaves a double as it is. -/
theorem mul_one_double {m : Nat} {e : Int} (hm : 0 < m) (hlow : 2 ^ 52 ≤ m) (hhigh : m < 2 ^ 53)
    (hleast : -1074 ≤ e) :
    UnpackedFloat.mul .binary64 (finite .positive m e hm)
      (finite .positive (2 ^ 52) (-52) (by decide)) = finite .positive m e hm := by
  have hlog : m.log2 = 52 := (Nat.log2_eq_iff hm.ne').mpr ⟨hlow, hhigh⟩
  have hplace : exponentIn .binary64 m e = e := by
    rw [exponentIn_binary64, hlog]
    omega
  have hround := roundWithAccuracy_shiftLeft .binary64 .positive hm 52 hplace
  rwa [Nat.shiftLeft_eq] at hround

/-- **A count is a double.** -/
theorem unpacked_ofNat {n : Nat} (hpos : 0 < n) (h : n < 2 ^ 53) :
    unpacked (Float.ofNat n) =
      finite .positive (n <<< (52 - n.log2)) (0 - ((52 - n.log2 : Nat) : Int))
        (Nat.shiftLeft_pos_iff.mpr hpos) := by
  have hshifted : 0 < n <<< (52 - n.log2) := Nat.shiftLeft_pos_iff.mpr hpos
  obtain ⟨hhigh, hleast, hfilled⟩ := canonical_count hpos h
  have hlow : 2 ^ 52 ≤ n <<< (52 - n.log2) := hfilled.resolve_left (by omega)
  have hpacked := unpack_pack_double (s := .positive) hshifted hlow hhigh hleast (by omega)
  have hword : n.toUInt64.toNat = n := UInt64.toNat_ofNat_of_lt (h.trans (by decide))
  have hcount : unpacked n.toUInt64.toFloat = finite .positive (n <<< (52 - n.log2))
      (0 - ((52 - n.log2 : Nat) : Int)) hshifted := by
    change repacked (UnpackedFloat.ofNat .binary64 n.toUInt64.toNat) = _
    rw [hword, UnpackedFloat.ofNat, UnpackedFloat.ofInt, UnpackedFloat.normalize,
      Int.compare_eq_gt.mpr (Int.natCast_pos.mpr hpos)]
    change repacked (UnpackedFloat.round .binary64 .positive n 0) = _
    rw [round_count hpos h]
    exact hpacked
  -- a short literal is the word of its digits times a power of ten, which is one here
  have hliteral : Float.ofNat n = n.toUInt64.toFloat * Float.ofBits 0x3FF0000000000000 := by
    unfold Float.ofNat
    change Float.ofScientific n false 0 = _
    unfold Float.ofScientific
    rw [dif_pos ⟨h, by decide⟩]
    rfl
  have hone : unpacked (Float.ofBits 0x3FF0000000000000) =
      finite .positive (2 ^ 52) (-52) (by decide) := rfl
  rw [hliteral, unpacked_mul, hcount, hone, mul_one_double hshifted hlow hhigh hleast]
  exact hpacked

/-! ## Shares -/

theorem scaled_one : scaled (2 ^ 52) (-52) = 1 := by
  rw [scaled]
  norm_num

theorem isDouble_one : IsDouble 1 := ⟨2 ^ 52, -52, by decide, by decide, scaled_one⟩

/-- What does not exceed one is kept by packing. -/
theorem repacked_within {s : UnpackedFloat.Sign} {b : ℚ} {u : UnpackedFloat} (h : Within s b u)
    (hb : b ≤ 1) : Within s b (repacked u) := by
  have hkept : repacked u = u :=
    unpack_pack_within h (hb.trans_lt (one_lt_pow₀ one_lt_two (by decide)))
  rwa [hkept]

/-- **The share of a part in a whole is a double that does not exceed one.** -/
theorem share_within {part whole : Nat} (hle : part ≤ whole) (hpos : 0 < whole)
    (h : whole < 2 ^ 53) :
    Within .positive 1 (unpacked (Float.ofNat part / Float.ofNat whole)) := by
  rcases Nat.eq_zero_or_pos part with rfl | hpart
  · have hzero : unpacked (Float.ofNat 0) = zero .positive := rfl
    rw [unpacked_div, hzero, unpacked_ofNat hpos h]
    exact repacked_within .zero le_rfl
  · have hvalue : scaled (part <<< (52 - part.log2)) (0 - ((52 - part.log2 : Nat) : Int)) ≤
        1 * scaled (whole <<< (52 - whole.log2)) (0 - ((52 - whole.log2 : Nat) : Int)) := by
      rw [scaled_count, scaled_count, one_mul]
      exact Nat.cast_le.mpr hle
    rw [unpacked_div, unpacked_ofNat hpart (hle.trans_lt h), unpacked_ofNat hpos h]
    exact repacked_within (div_within .positive .positive (Nat.shiftLeft_pos_iff.mpr hpart)
      (Nat.shiftLeft_pos_iff.mpr hpos) isDouble_one hvalue) le_rfl

/-- What does not exceed one is at most one. -/
theorem le_one_of_within {x : Float} (h : Within .positive 1 (unpacked x)) :
    le x 1.0 = true := by
  have hone : unpacked (1.0 : Float) = finite .positive (2 ^ 52) (-52) (by decide) := rfl
  rw [← scaled_one] at h
  exact le_of_within ⟨by decide, by decide, Or.inr (by decide)⟩ (by decide) hone h

end EvidenceRank.Score
