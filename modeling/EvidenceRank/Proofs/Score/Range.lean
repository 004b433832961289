import EvidenceRank.Proofs.Decimal.Faithful
import EvidenceRank.Proofs.Score.Share

/-!
# The range of scores

Floats as numbers: the value of a finite float (`val`), how the value of a result is related to the
values of the operands, and when a result is finite at all. A finite result has finite operands, so
its value is the exact one rounded (`rounds_add` and its companions), and a result whose exact value
stays within a double of the range is finite (`isFinite_add` and its companions).

Results:
* `lt_iff_val`: finite floats are compared by their values.
* `sqrt_bounds`: a positive root is at least half of the exact one.
* `sum_bounds`: a finite sum of values that are not negative exceeds each of them.
-/

namespace EvidenceRank.Score

open EvidenceRank.Decimal
open Float.Model
open Float.Model.UnpackedFloat (zero finite infinity notANumber)

/-- The value of a float; what has none counts as 0. -/
def val (x : Float) : ℚ := value (unpacked x)

variable {x y z : Float}

/-! ## Finite floats -/

theorem settled (h : isFinite x = true) : Settled (unpacked x) := settled_unpack h

theorem representable_val (h : isFinite x = true) : Representable (val x) :=
  (settled h).representable

theorem repacked_unpacked (x : Float) : repacked (unpacked x) = unpacked x :=
  congrArg (UnpackedFloat.unpack .binary64) (UnpackedFloat.pack_unpack_of_valid x.toModel.valid)

theorem abs_val_lt (h : isFinite x = true) : |val x| < 2 ^ 1024 := by
  rcases unpack_pack_settled (settled h) with ⟨hlt, -⟩ | ⟨-, s, hinfinity⟩
  · exact hlt
  · have hx : unpacked x = infinity s := (repacked_unpacked x).symm.trans hinfinity
    change (unpacked x).isFinite = true at h
    rw [hx] at h
    cases h

/-- A finite float keeps all of a settled result. -/
theorem unpacked_of_repacked {u : UnpackedFloat} (h : Settled u) (hz : unpacked z = repacked u)
    (hfinite : isFinite z = true) : unpacked z = u := by
  rcases unpack_pack_settled h with ⟨-, hkept⟩ | ⟨-, s, hinfinity⟩
  · exact hz.trans hkept
  · change (unpacked z).isFinite = true at hfinite
    rw [hz, repacked, hinfinity] at hfinite
    cases hfinite

theorem rounds_of_repacked {v : ℚ} {u : UnpackedFloat} (h : Rounds v u)
    (hz : unpacked z = repacked u) (hfinite : isFinite z = true) : Rounds v (unpacked z) := by
  rwa [unpacked_of_repacked h.settled hz hfinite]

/-- **A result whose exact value stays within a double of the range is finite.** -/
theorem isFinite_of_rounds {v b : ℚ} {u : UnpackedFloat} (h : Rounds v u)
    (hz : unpacked z = repacked u) (hb : Representable b) (hlt : b < 2 ^ 1024) (hv : |v| ≤ b) :
    isFinite z = true := by
  rcases unpack_pack_settled h.settled with ⟨-, hkept⟩ | ⟨hge, -⟩
  · change (unpacked z).isFinite = true
    rw [hz, repacked, hkept]
    cases h.settled <;> rfl
  · exact absurd ((h.abs_value_le hb hv).trans_lt hlt) (not_lt.mpr hge)

/-! ## Operations -/

theorem isFinite_of_repacked {u : UnpackedFloat} (hz : unpacked z = repacked u)
    (h : isFinite z = true) : u.isFinite = true := by
  change (unpacked z).isFinite = true at h
  rw [hz] at h
  exact isFinite_of_pack h

theorem isFinite_operands_add (h : isFinite (x + y) = true) :
    isFinite x = true ∧ isFinite y = true :=
  isFinite_of_add (isFinite_of_repacked (unpacked_add x y) h)

theorem isFinite_operands_sub (h : isFinite (x - y) = true) :
    isFinite x = true ∧ isFinite y = true :=
  isFinite_of_sub (isFinite_of_repacked (unpacked_sub x y) h)

theorem isFinite_operands_mul (h : isFinite (x * y) = true) :
    isFinite x = true ∧ isFinite y = true :=
  isFinite_of_mul (isFinite_of_repacked (unpacked_mul x y) h)

theorem isFinite_numerator (h : isFinite (x / y) = true) : isFinite x = true :=
  (isFinite_of_div (isFinite_of_repacked (unpacked_div x y) h)).1

theorem rounds_add (h : isFinite (x + y) = true) : Rounds (val x + val y) (unpacked (x + y)) := by
  obtain ⟨hx, hy⟩ := isFinite_operands_add h
  exact rounds_of_repacked (add_rounds (settled hx) (settled hy)) (unpacked_add x y) h

theorem rounds_sub (h : isFinite (x - y) = true) : Rounds (val x - val y) (unpacked (x - y)) := by
  obtain ⟨hx, hy⟩ := isFinite_operands_sub h
  exact rounds_of_repacked (sub_rounds (settled hx) (settled hy)) (unpacked_sub x y) h

theorem rounds_mul (h : isFinite (x * y) = true) : Rounds (val x * val y) (unpacked (x * y)) := by
  obtain ⟨hx, hy⟩ := isFinite_operands_mul h
  exact rounds_of_repacked (mul_rounds (settled hx) (settled hy)) (unpacked_mul x y) h

/-- A quotient that is not 0 is that of finite floats. -/
theorem isFinite_denominator (h : isFinite (x / y) = true) (hne : val (x / y) ≠ 0) :
    isFinite y = true ∧ val y ≠ 0 := by
  have hfinite := isFinite_of_repacked (unpacked_div x y) h
  refine (isFinite_of_div hfinite).2.resolve_right fun ⟨s, hzero⟩ => hne ?_
  rw [val, unpacked_div, hzero]
  exact congrArg value UnpackedFloat.unpack_packedZero

theorem rounds_div (h : isFinite (x / y) = true) (hy : isFinite y = true) (hne : val y ≠ 0) :
    Rounds (val x / val y) (unpacked (x / y)) :=
  rounds_of_repacked (div_rounds (settled (isFinite_numerator h)) (settled hy) hne)
    (unpacked_div x y) h

section Finite

variable {b : ℚ} (hx : isFinite x = true) (hy : isFinite y = true) (hb : Representable b)
  (hlt : b < 2 ^ 1024)

include hx hy hb hlt

theorem isFinite_add (h : |val x + val y| ≤ b) : isFinite (x + y) = true :=
  isFinite_of_rounds (add_rounds (settled hx) (settled hy)) (unpacked_add x y) hb hlt h

theorem isFinite_sub (h : |val x - val y| ≤ b) : isFinite (x - y) = true :=
  isFinite_of_rounds (sub_rounds (settled hx) (settled hy)) (unpacked_sub x y) hb hlt h

theorem isFinite_mul (h : |val x * val y| ≤ b) : isFinite (x * y) = true :=
  isFinite_of_rounds (mul_rounds (settled hx) (settled hy)) (unpacked_mul x y) hb hlt h

theorem isFinite_div (hne : val y ≠ 0) (h : |val x / val y| ≤ b) : isFinite (x / y) = true :=
  isFinite_of_rounds (div_rounds (settled hx) (settled hy) hne) (unpacked_div x y) hb hlt h

end Finite

/-! ## Order -/

/-- Negative doubles stand in the reverse order of their magnitudes. -/
theorem below_negative_iff {m n : Nat} {e f : Int} (hm : 0 < m) (hn : 0 < n) :
    Below (standing (finite .negative m e hm)) (standing (finite .negative n f hn)) ↔
      Below (standing (finite .positive n f hn)) (standing (finite .positive m e hm)) := by
  unfold Below
  dsimp only [standing]
  omega

/-- Settled floats stand in the order of their values. -/
theorem below_standing_iff {u w : UnpackedFloat} (hu : Settled u) (hw : Settled w) :
    Below (standing u) (standing w) ↔ value u < value w := by
  cases hu with
  | zero s =>
    cases hw with
    | zero t => simp [Below, standing, value]
    | @finite n f t hn hd =>
      have hpos := scaled_pos hn f
      cases t with
      | positive => simp [Below, standing, value, factor, hpos]
      | negative => simp [Below, standing, value, factor, hpos.le]
  | @finite m e s hm hc =>
    have hpos := scaled_pos hm e
    cases hw with
    | zero t =>
      cases s with
      | positive => simp [Below, standing, value, factor, hpos.le]
      | negative => simp [Below, standing, value, factor, hpos]
    | @finite n f t hn hd =>
      have hpos' := scaled_pos hn f
      cases s with
      | positive =>
        cases t with
        | positive =>
          simp only [value, factor, one_mul]
          exact below_iff hc hd hm hn
        | negative =>
          simp only [Below, standing, value, factor]
          exact ⟨fun h => by omega, fun h => by linarith⟩
      | negative =>
        cases t with
        | positive =>
          simp only [Below, standing, value, factor]
          exact ⟨fun _ => by linarith, fun _ => by omega⟩
        | negative =>
          rw [below_negative_iff, below_iff hd hc hn hm]
          simp only [value, factor, neg_mul, one_mul, neg_lt_neg_iff]

theorem isNaN_of_isFinite (h : isFinite x = true) : isNaN x = false := by
  change (unpacked x).isFinite = true at h
  change (unpacked x).isNaN = false
  cases hx : unpacked x with
  | notANumber => rw [hx] at h; cases h
  | _ => rfl

/-- **Finite floats are compared by their values.** -/
theorem lt_iff_val (hx : isFinite x = true) (hy : isFinite y = true) :
    lt x y = true ↔ val x < val y := by
  rw [float_lt, lt_iff, below_standing_iff (settled hx) (settled hy)]
  exact ⟨fun h => h.2.2, fun h => ⟨isNaN_of_isFinite hx, isNaN_of_isFinite hy, h⟩⟩

theorem val_le_of_lt_eq_false (hx : isFinite x = true) (hy : isFinite y = true)
    (h : lt x y = false) : val y ≤ val x := by
  rw [← Bool.not_eq_true, lt_iff_val hx hy, not_lt] at h
  exact h

/-- Settled floats stand between the infinities. -/
theorem below_infinity {u : UnpackedFloat} (h : Settled u) :
    Below (standing (infinity .negative)) (standing u) ∧
      Below (standing u) (standing (infinity .positive)) := by
  cases h with
  | zero t => simp [Below, standing]
  | finite t hm hc => cases t <;> simp [Below, standing]

/-- A number between finite ones is finite. -/
theorem isFinite_of_between (hy : isNaN y = false) (hx : isFinite x = true)
    (hz : isFinite z = true) (hxy : lt y x = false) (hyz : lt z y = false) :
    isFinite y = true := by
  rw [float_lt_eq_false hy (isNaN_of_isFinite hx)] at hxy
  rw [float_lt_eq_false (isNaN_of_isFinite hz) hy] at hyz
  change (unpacked y).isNaN = false at hy
  change (unpacked y).isFinite = true
  cases hu : unpacked y with
  | notANumber => rw [hu] at hy; cases hy
  | infinity s =>
    rw [hu] at hxy hyz
    cases s with
    | negative => exact absurd (below_infinity (settled hx)).1 hxy
    | positive => exact absurd (below_infinity (settled hz)).2 hyz
  | zero s => rfl
  | finite s m e hm => rfl

/-! ## Square roots -/

theorem unpacked_sqrt (x : Float) : unpacked (sqrt x) = repacked ((unpacked x).sqrt .binary64) :=
  rfl

/-- **A positive root is at least half of the exact one.** -/
theorem sqrt_bounds (h : isFinite (sqrt x) = true) (hpos : 0 < val (sqrt x)) :
    isFinite x = true ∧ 0 < val x ∧ val x ≤ (2 * val (sqrt x)) ^ 2 := by
  rcases eq_of_isFinite_sqrt (isFinite_of_repacked (unpacked_sqrt x) h) with
    ⟨s, hx⟩ | ⟨m, e, hm, hx⟩
  · have hzero : val (sqrt x) = 0 := by
      rw [val, unpacked_sqrt, hx]
      exact congrArg value UnpackedFloat.unpack_packedZero
    exact absurd hzero hpos.ne'
  · have hvalue : val x = scaled m e := by
      rw [val, hx, value, factor, one_mul]
    have hfinite : isFinite x = true := by
      change (unpacked x).isFinite = true
      rw [hx]
      rfl
    have hkept := unpacked_of_repacked (sqrt_settled hm) (by rw [unpacked_sqrt, hx]) h
    have hmagnitude : val (sqrt x) = magnitude (UnpackedFloat.sqrt .binary64
        (.finite .positive m e hm)) := by
      rw [← abs_value, ← hkept]
      exact (abs_of_pos hpos).symm
    refine ⟨hfinite, hvalue ▸ scaled_pos hm e, not_lt.mp fun hlt => ?_⟩
    -- a root that twice its rounding does not exceed would not be rounded below twice its rounding
    have hdouble : IsDouble (2 * val (sqrt x)) := by
      have hrep := (representable_val h).double
      rwa [Representable, abs_of_pos (by linarith)] at hrep
    have hfrom := sqrt_from hm hdouble (hlt.le.trans_eq hvalue)
    rw [← hmagnitude] at hfrom
    linarith

/-! ## Sums -/

/-- The rest of a sum, by induction on the column: what is not negative does not make a sum less. -/
theorem foldl_bounds : ∀ (column : List Float) {start : Float},
    isFinite (column.foldl (· + ·) start) = true →
    (isFinite start = true → 0 ≤ val start) →
    (∀ p ∈ column, isFinite p = true → 0 ≤ val p) →
    isFinite start = true ∧ val start ≤ val (column.foldl (· + ·) start) ∧
      ∀ p ∈ column, isFinite p = true ∧ val p ≤ val (column.foldl (· + ·) start)
  | [], start, h, _, _ => ⟨h, le_rfl, fun p hp => absurd hp List.not_mem_nil⟩
  | p :: column, start, h, hstart, hcolumn => by
    have hrest := fun q hq => hcolumn q (List.mem_cons_of_mem p hq)
    have hstep : isFinite (start + p) = true → isFinite start = true ∧ isFinite p = true ∧
        val start ≤ val (start + p) ∧ val p ≤ val (start + p) := by
      intro hsum
      obtain ⟨hs, hp⟩ := isFinite_operands_add hsum
      have hs0 := hstart hs
      have hp0 := hcolumn p List.mem_cons_self hp
      have hrounds := rounds_add hsum
      exact ⟨hs, hp, hrounds.ge (representable_val hs) (by linarith),
        hrounds.ge (representable_val hp) (by linarith)⟩
    obtain ⟨hsum, hle, hall⟩ := foldl_bounds column h
      (fun hsum => (hstart (hstep hsum).1).trans (hstep hsum).2.2.1) hrest
    obtain ⟨hs, hp, hsle, hple⟩ := hstep hsum
    refine ⟨hs, hsle.trans hle, fun q hq => ?_⟩
    rcases List.mem_cons.mp hq with rfl | hq
    · exact ⟨hp, hple.trans hle⟩
    · exact hall q hq

theorem val_zero : val 0.0 = 0 := rfl

/-- **A finite sum of values that are not negative exceeds each of them.** -/
theorem sum_bounds {column : List Float} (h : isFinite (sum column) = true)
    (hcolumn : ∀ p ∈ column, isFinite p = true → 0 ≤ val p) :
    0 ≤ val (sum column) ∧ ∀ p ∈ column, isFinite p = true ∧ val p ≤ val (sum column) := by
  obtain ⟨-, hle, hall⟩ := foldl_bounds column h (fun _ => val_zero.ge) hcolumn
  exact ⟨val_zero.ge.trans hle, hall⟩

end EvidenceRank.Score
