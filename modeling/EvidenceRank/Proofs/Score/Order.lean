import EvidenceRank.Score

/-!
# The order of scores

Ranking compares scores by `Score.lt` and needs that the numbers among them are weakly ordered;
values that are no numbers stand in no relation to anything. `LawfulOrder` says so of a type of
scores, and the instance at the end of the module shows it of double precision floats.

A float is compared through its unpacked form. `standing` places every unpacked number in the
lexicographic order of integer triples (sign and kind, exponent, significand), and
`compare_standing` says that the comparison is the one of these triples. Both zeros stand alike.

Results:
* `lt_iff`, `le_iff`, `beq_iff`: the three comparisons of floats, read off the triples.
* `instLawfulOrderFloat`: the numbers among the floats are weakly ordered.
-/

namespace EvidenceRank.Score

/-- The comparisons weakly order the numbers, and hold of nothing that is no number. -/
class LawfulOrder (σ : Type) [Score σ] : Prop where
  isNaN_of_lt : ∀ {a b : σ}, lt a b = true → isNaN a = false ∧ isNaN b = false
  lt_asymm : ∀ {a b : σ}, lt a b = true → lt b a = false
  lt_cotrans : ∀ {a b c : σ}, isNaN b = false → lt a c = true → lt a b = true ∨ lt b c = true
  le_iff : ∀ {a b : σ}, le a b = true ↔ isNaN a = false ∧ isNaN b = false ∧ lt b a = false
  same_iff : ∀ {a b : σ}, same a b = true ↔
    isNaN a = false ∧ isNaN b = false ∧ lt a b = false ∧ lt b a = false

/-! ## Standings -/

open Float.Model
open Float.Model.UnpackedFloat (infinity notANumber zero finite)

/-- The standing of a number, as integers that grow with it: sign and kind first, then the
exponent, then the significand. -/
def standing : UnpackedFloat → Int × Int × Int
  | infinity .negative => (-2, 0, 0)
  | finite .negative m e _ => (-1, -e, -m)
  | finite .positive m e _ => (1, e, m)
  | infinity .positive => (2, 0, 0)
  | zero _ | notANumber => (0, 0, 0)

/-- The lexicographic order of standings. -/
def Below (p q : Int × Int × Int) : Prop :=
  p.1 < q.1 ∨ p.1 = q.1 ∧ (p.2.1 < q.2.1 ∨ p.2.1 = q.2.1 ∧ p.2.2 < q.2.2)

instance (p q : Int × Int × Int) : Decidable (Below p q) :=
  inferInstanceAs (Decidable (_ ∨ _ ∧ (_ ∨ _ ∧ _)))

theorem Below.asymm {p q : Int × Int × Int} (h : Below p q) : ¬ Below q p := by
  unfold Below at h ⊢
  omega

theorem Below.cotrans {p r : Int × Int × Int} (h : Below p r) (q : Int × Int × Int) :
    Below p q ∨ Below q r := by
  unfold Below at h ⊢
  omega

/-- Standings of two kinds are ordered by the kinds. -/
theorem ordered_by_kind {p q : Int × Int × Int} {o : Ordering} (h : compare p.1 q.1 = o)
    (hne : o ≠ .eq) : (o = .lt ↔ Below p q) ∧ (o = .gt ↔ Below q p) := by
  unfold Below
  subst h
  rw [Int.compare_eq_lt, Int.compare_eq_gt]
  rw [ne_eq, Int.compare_eq_eq] at hne
  omega

/-- **Numbers are compared by their standings.** -/
theorem compare_standing {a b : UnpackedFloat} (ha : a.isNaN = false) (hb : b.isNaN = false) :
    ∃ o, a.compare b = some o ∧ (o = .lt ↔ Below (standing a) (standing b)) ∧
      (o = .gt ↔ Below (standing b) (standing a)) := by
  cases a with
  | notANumber => exact absurd ha (by decide)
  | infinity s =>
    cases b with
    | notANumber => exact absurd hb (by decide)
    | infinity t => cases s <;> cases t <;> exact ⟨_, rfl, by decide, by decide⟩
    | zero t => cases s <;> exact ⟨_, rfl, ordered_by_kind rfl (by decide)⟩
    | finite t n f _ => cases s <;> cases t <;> exact ⟨_, rfl, ordered_by_kind rfl (by decide)⟩
  | zero s =>
    cases b with
    | notANumber => exact absurd hb (by decide)
    | infinity t => cases t <;> exact ⟨_, rfl, ordered_by_kind rfl (by decide)⟩
    | zero t => cases s <;> cases t <;> exact ⟨_, rfl, by decide, by decide⟩
    | finite t n f _ => cases t <;> exact ⟨_, rfl, ordered_by_kind rfl (by decide)⟩
  | finite s m e _ =>
    cases b with
    | notANumber => exact absurd hb (by decide)
    | infinity t => cases s <;> cases t <;> exact ⟨_, rfl, ordered_by_kind rfl (by decide)⟩
    | zero t => cases s <;> exact ⟨_, rfl, ordered_by_kind rfl (by decide)⟩
    | finite t n f _ =>
      cases s <;> cases t
      · -- both negative: the order of exponents and significands turns round
        refine ⟨((compare e f).then (compare m n)).swap, rfl, ?_, ?_⟩
        · rw [Ordering.swap_eq_lt, Ordering.then_eq_gt, Int.compare_eq_gt, Int.compare_eq_eq,
            Nat.compare_eq_gt]
          dsimp only [Below, standing]
          simp only [Int.lt_irrefl, true_and, false_or]
          omega
        · rw [Ordering.swap_eq_gt, Ordering.then_eq_lt, Int.compare_eq_lt, Int.compare_eq_eq,
            Nat.compare_eq_lt]
          dsimp only [Below, standing]
          simp only [Int.lt_irrefl, true_and, false_or]
          omega
      · exact ⟨_, rfl, ordered_by_kind rfl (by decide)⟩
      · exact ⟨_, rfl, ordered_by_kind rfl (by decide)⟩
      · refine ⟨(compare e f).then (compare m n), rfl, ?_, ?_⟩
        · rw [Ordering.then_eq_lt, Int.compare_eq_lt, Int.compare_eq_eq, Nat.compare_eq_lt]
          dsimp only [Below, standing]
          simp only [Int.lt_irrefl, true_and, false_or]
          omega
        · rw [Ordering.then_eq_gt, Int.compare_eq_gt, Int.compare_eq_eq, Nat.compare_eq_gt]
          dsimp only [Below, standing]
          simp only [Int.lt_irrefl, true_and, false_or]
          omega

theorem eq_notANumber {a : UnpackedFloat} (h : a.isNaN = true) : a = notANumber := by
  cases a with
  | notANumber => rfl
  | infinity _ => exact absurd h Bool.false_ne_true
  | zero _ => exact absurd h Bool.false_ne_true
  | finite _ _ _ _ => exact absurd h Bool.false_ne_true

/-- What is no number compares with nothing. -/
theorem compare_of_isNaN {a b : UnpackedFloat} (h : a.isNaN = true ∨ b.isNaN = true) :
    a.compare b = none := by
  rcases h with h | h
  · rw [eq_notANumber h]
    rfl
  · rw [eq_notANumber h]
    cases a with
    | notANumber => rfl
    | infinity s => cases s <;> rfl
    | zero _ => rfl
    | finite s _ _ _ => cases s <;> rfl

theorem isNaN_of_compare {a b : UnpackedFloat} {o : Ordering} (h : a.compare b = some o) :
    a.isNaN = false ∧ b.isNaN = false := by
  constructor
  · cases ha : a.isNaN with
    | false => rfl
    | true => rw [compare_of_isNaN (Or.inl ha)] at h; exact absurd h (by simp)
  · cases hb : b.isNaN with
    | false => rfl
    | true => rw [compare_of_isNaN (Or.inr hb)] at h; exact absurd h (by simp)

/-! ## The comparisons of unpacked floats -/

theorem lt_iff {a b : UnpackedFloat} : a.lt b = true ↔
    a.isNaN = false ∧ b.isNaN = false ∧ Below (standing a) (standing b) := by
  unfold UnpackedFloat.lt
  rw [beq_iff_eq]
  constructor
  · intro h
    obtain ⟨ha, hb⟩ := isNaN_of_compare h
    obtain ⟨o, ho, hlt, -⟩ := compare_standing ha hb
    rw [h] at ho
    exact ⟨ha, hb, hlt.mp (Option.some.inj ho).symm⟩
  · rintro ⟨ha, hb, hbelow⟩
    obtain ⟨o, ho, hlt, -⟩ := compare_standing ha hb
    rw [ho, hlt.mpr hbelow]

theorem le_iff {a b : UnpackedFloat} : a.le b = true ↔
    a.isNaN = false ∧ b.isNaN = false ∧ ¬ Below (standing b) (standing a) := by
  unfold UnpackedFloat.le
  rw [Option.any_eq_true]
  constructor
  · rintro ⟨o, ho, hle⟩
    obtain ⟨ha, hb⟩ := isNaN_of_compare ho
    obtain ⟨o', ho', -, hgt⟩ := compare_standing ha hb
    rw [ho] at ho'
    obtain rfl := Option.some.inj ho'
    refine ⟨ha, hb, fun hbelow => ?_⟩
    rw [hgt.mpr hbelow] at hle
    exact absurd hle (by decide)
  · rintro ⟨ha, hb, hnot⟩
    obtain ⟨o, ho, -, hgt⟩ := compare_standing ha hb
    refine ⟨o, ho, ?_⟩
    cases o with
    | gt => exact absurd (hgt.mp rfl) hnot
    | lt => rfl
    | eq => rfl

theorem beq_iff {a b : UnpackedFloat} : a.beq b = true ↔
    a.isNaN = false ∧ b.isNaN = false ∧ ¬ Below (standing a) (standing b) ∧
      ¬ Below (standing b) (standing a) := by
  unfold UnpackedFloat.beq
  rw [beq_iff_eq]
  constructor
  · intro h
    obtain ⟨ha, hb⟩ := isNaN_of_compare h
    obtain ⟨o, ho, hlt, hgt⟩ := compare_standing ha hb
    rw [h] at ho
    obtain rfl := Option.some.inj ho
    exact ⟨ha, hb, fun hc => absurd (hlt.mpr hc) (by decide),
      fun hc => absurd (hgt.mpr hc) (by decide)⟩
  · rintro ⟨ha, hb, hnlt, hngt⟩
    obtain ⟨o, ho, hlt, hgt⟩ := compare_standing ha hb
    cases o with
    | lt => exact absurd (hlt.mp rfl) hnlt
    | gt => exact absurd (hgt.mp rfl) hngt
    | eq => exact ho

/-! ## Floats -/

/-- The unpacked form of a float. -/
def unpacked (x : Float) : UnpackedFloat := x.toModel.unpack

theorem float_lt (x y : Float) : lt x y = (unpacked x).lt (unpacked y) := by
  show decide (decide ((unpacked x).lt (unpacked y) = true) = true) = _
  rw [Bool.decide_eq_true, Bool.decide_eq_true]

theorem float_le (x y : Float) : le x y = (unpacked x).le (unpacked y) := by
  show decide (decide ((unpacked x).le (unpacked y) = true) = true) = _
  rw [Bool.decide_eq_true, Bool.decide_eq_true]

theorem float_same (x y : Float) : same x y = (unpacked x).beq (unpacked y) := rfl

theorem float_lt_eq_false {x y : Float} (hx : isNaN x = false) (hy : isNaN y = false) :
    lt x y = false ↔ ¬ Below (standing (unpacked x)) (standing (unpacked y)) := by
  rw [float_lt, ← Bool.not_eq_true, lt_iff]
  exact not_congr ⟨fun h => h.2.2, fun h => ⟨hx, hy, h⟩⟩

/-- **The numbers among the floats are weakly ordered.** -/
instance instLawfulOrderFloat : LawfulOrder Float where
  isNaN_of_lt h := by
    rw [float_lt, lt_iff] at h
    exact ⟨h.1, h.2.1⟩
  lt_asymm h := by
    rw [float_lt, lt_iff] at h
    exact (float_lt_eq_false h.2.1 h.1).mpr h.2.2.asymm
  lt_cotrans hb h := by
    rw [float_lt, lt_iff] at h
    rw [float_lt, float_lt, lt_iff, lt_iff]
    exact (h.2.2.cotrans _).imp (fun hc => ⟨h.1, hb, hc⟩) fun hc => ⟨hb, h.2.1, hc⟩
  le_iff := by
    intro x y
    rw [float_le, le_iff]
    refine and_congr_right fun hx => and_congr_right fun hy => ?_
    rw [float_lt_eq_false hy hx]
  same_iff := by
    intro x y
    rw [float_same, beq_iff]
    refine and_congr_right fun hx => and_congr_right fun hy => ?_
    rw [float_lt_eq_false hx hy, float_lt_eq_false hy hx]

end EvidenceRank.Score
