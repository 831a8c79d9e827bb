/-
The shadow validation of a model: `learning/shadow_validation.py`.

The mean error of no samples counts as 0. So a candidate without a single sample improves on
every incumbent that has an error by the whole of it, and passes (`shadow_sound_iff`); samples
without an error that the incumbent gets never help the candidate (`run_shadow_validation_zeros`).
-/
import ProofAlpha.Learning.ModelRegistry
import ProofAlpha.Lib.PyMath

set_option autoImplicit false

namespace ProofAlpha.Learning

open ProofAlpha.Lib

variable {K : Type} [Field K] [LinearOrder K]

/-- `ShadowValidationReport`. -/
structure ShadowValidationReport (K : Type) where
  candidate_model_id : String
  incumbent_model_id : String
  passed : Bool
  improvement_ratio : K
  promotes_model : Bool := false

omit [Field K] [LinearOrder K] in
/-- `ShadowValidationReport.to_dict`. -/
def ShadowValidationReport.to_dict (report : ShadowValidationReport K) : JsonObject K :=
  [("candidate_model_id", .str report.candidate_model_id),
   ("incumbent_model_id", .str report.incumbent_model_id),
   ("passed", .bool report.passed),
   ("improvement_ratio", .float report.improvement_ratio),
   ("promotes_model", .bool report.promotes_model)]

/-- `_mean_abs`. -/
def mean_abs (values : List K) : K :=
  if values.isEmpty then 0 else (values.map fun value => |value|).sum / values.length

/-- The improvement of the candidate, as a part of the mean error of the incumbent. -/
def shadow_improvement (candidate incumbent : K) : K :=
  if incumbent ≤ 0 then 0 else (incumbent - candidate) / incumbent

/-- `run_shadow_validation`. -/
def run_shadow_validation [FloorRing K] (candidate_model_id incumbent_model_id : String)
    (candidate_errors incumbent_errors : List K) (min_improvement_ratio : K) :
    ShadowValidationReport K :=
  let candidate := mean_abs candidate_errors
  let incumbent := mean_abs incumbent_errors
  let improvement := shadow_improvement candidate incumbent
  { candidate_model_id := candidate_model_id
    incumbent_model_id := incumbent_model_id
    passed := min_improvement_ratio ≤ improvement
    improvement_ratio := pyRound improvement 12 }

/-- What a pass is taken for: the candidate has samples, and its mean error is the smaller one by
the ratio asked for. -/
structure ShadowEvidence (candidate_errors incumbent_errors : List K) (min_improvement_ratio : K) :
    Prop where
  sampled : candidate_errors ≠ []
  improved : mean_abs candidate_errors ≤ (1 - min_improvement_ratio) * mean_abs incumbent_errors

/-! ## The mean error -/

section Mean

variable [IsStrictOrderedRing K]

omit [IsStrictOrderedRing K] in
theorem mean_abs_eq (values : List K) :
    mean_abs values = (values.map fun value => |value|).sum / values.length := by
  cases values with
  | nil => simp [mean_abs]
  | cons value values => rfl

theorem abs_values_nonneg (values : List K) : ∀ size ∈ values.map fun value => |value|, 0 ≤ size := by
  intro size hsize
  obtain ⟨value, -, rfl⟩ := List.mem_map.mp hsize
  exact abs_nonneg value

theorem mean_abs_nonneg (values : List K) : 0 ≤ mean_abs values := by
  rw [mean_abs_eq]
  exact div_nonneg (List.sum_nonneg (abs_values_nonneg values)) (Nat.cast_nonneg _)

/-- The mean error is 0 if and only if every error is. -/
theorem mean_abs_eq_zero_iff (values : List K) :
    mean_abs values = 0 ↔ ∀ value ∈ values, value = 0 := by
  rw [mean_abs_eq, div_eq_zero_iff, Nat.cast_eq_zero, List.length_eq_zero_iff]
  constructor
  · rintro (hsum | rfl) value hvalue
    · have hle : |value| ≤ (values.map fun value => |value|).sum :=
        List.single_le_sum (abs_values_nonneg values) _ (List.mem_map_of_mem hvalue)
      rw [hsum] at hle
      exact abs_nonpos_iff.mp hle
    · cases hvalue
  · intro hzero
    refine Or.inl (List.sum_eq_zero ?_)
    intro size hsize
    obtain ⟨value, hvalue, rfl⟩ := List.mem_map.mp hsize
    rw [hzero value hvalue, abs_zero]

/-- Samples without an error make the mean no larger. -/
theorem mean_abs_zeros_le {errors padded : List K} {n : ℕ}
    (hpadded : padded.Perm (errors ++ List.replicate n 0)) : mean_abs padded ≤ mean_abs errors := by
  have hsum : (padded.map fun value => |value|).sum = (errors.map fun value => |value|).sum := by
    rw [(hpadded.map fun value => |value|).sum_eq, List.map_append, List.sum_append,
      List.map_replicate, abs_zero, List.sum_replicate, smul_zero, add_zero]
  have hlength : padded.length = errors.length + n := by
    rw [hpadded.length_eq, List.length_append, List.length_replicate]
  rw [mean_abs_eq, mean_abs_eq, hsum, hlength]
  by_cases hnone : errors = []
  · rw [hnone, List.map_nil, List.sum_nil, zero_div, zero_div]
  · have hcount : (0 : K) < errors.length :=
      Nat.cast_pos.mpr (List.length_pos_of_ne_nil hnone)
    apply div_le_div_of_nonneg_left (List.sum_nonneg (abs_values_nonneg errors)) hcount
    exact Nat.cast_le.mpr (Nat.le_add_right ..)

/-- An improvement by a positive ratio is one on a mean that is not 0. -/
theorem le_shadow_improvement_iff {candidate incumbent ratio : K} (hratio : 0 < ratio) :
    ratio ≤ shadow_improvement candidate incumbent
      ↔ 0 < incumbent ∧ candidate ≤ (1 - ratio) * incumbent := by
  unfold shadow_improvement
  by_cases hincumbent : incumbent ≤ 0
  · rw [if_pos hincumbent]
    constructor
    · intro hle
      exact absurd hle (not_le.mpr hratio)
    · rintro ⟨hpos, -⟩
      exact absurd hincumbent (not_le.mpr hpos)
  · have hpos : 0 < incumbent := not_le.mp hincumbent
    rw [if_neg hincumbent, le_div_iff₀ hpos]
    constructor
    · intro hle
      refine ⟨hpos, ?_⟩
      linarith
    · rintro ⟨-, hle⟩
      linarith

end Mean

/-! ## What a pass says -/

section Pass

variable [FloorRing K] [IsStrictOrderedRing K] {candidate_model_id incumbent_model_id : String}
  {candidate_errors incumbent_errors : List K} {min_improvement_ratio : K}

theorem run_shadow_validation_passed_iff (hratio : 0 < min_improvement_ratio) :
    (run_shadow_validation candidate_model_id incumbent_model_id candidate_errors incumbent_errors
        min_improvement_ratio).passed = true
      ↔ 0 < mean_abs incumbent_errors
        ∧ mean_abs candidate_errors
          ≤ (1 - min_improvement_ratio) * mean_abs incumbent_errors := by
  unfold run_shadow_validation
  rw [decide_eq_true_iff, le_shadow_improvement_iff hratio]

/-- A candidate that fails fails as well when the incumbent gets samples without an error. -/
theorem run_shadow_validation_zeros (hratio : 0 < min_improvement_ratio) {padded : List K} {n : ℕ}
    (hpadded : padded.Perm (incumbent_errors ++ List.replicate n 0))
    (hfails : (run_shadow_validation candidate_model_id incumbent_model_id candidate_errors
      incumbent_errors min_improvement_ratio).passed = false) :
    (run_shadow_validation candidate_model_id incumbent_model_id candidate_errors padded
      min_improvement_ratio).passed = false := by
  rw [← Bool.not_eq_true, run_shadow_validation_passed_iff hratio] at hfails ⊢
  rintro ⟨hpos, hle⟩
  apply hfails
  have hmean := mean_abs_zeros_le hpadded
  -- an error is not negative, so the ratio is at most 1
  have hroom : 0 ≤ 1 - min_improvement_ratio :=
    nonneg_of_mul_nonneg_left ((mean_abs_nonneg candidate_errors).trans hle) hpos
  refine ⟨hpos.trans_le hmean, hle.trans ?_⟩
  exact mul_le_mul_of_nonneg_left hmean hroom

/-- A pass is evidence for the candidate, and no samples without an error that the incumbent gets
make a pass of a failure, if and only if the candidate has samples, the incumbent has no error, or
more than the whole of its mean is asked for. -/
theorem shadow_sound_iff (hratio : 0 < min_improvement_ratio)
    (candidate_model_id incumbent_model_id : String) :
    (((run_shadow_validation candidate_model_id incumbent_model_id candidate_errors incumbent_errors
          min_improvement_ratio).passed = true →
          ShadowEvidence candidate_errors incumbent_errors min_improvement_ratio)
        ∧ ∀ (n : ℕ) (padded : List K), padded.Perm (incumbent_errors ++ List.replicate n 0) →
          (run_shadow_validation candidate_model_id incumbent_model_id candidate_errors
            incumbent_errors min_improvement_ratio).passed = false →
          (run_shadow_validation candidate_model_id incumbent_model_id candidate_errors padded
            min_improvement_ratio).passed = false)
      ↔ candidate_errors ≠ [] ∨ (∀ error ∈ incumbent_errors, error = 0)
        ∨ 1 < min_improvement_ratio := by
  rw [run_shadow_validation_passed_iff hratio]
  constructor
  · rintro ⟨hsound, -⟩
    by_contra hnot
    simp only [not_or, not_not, not_forall, not_lt] at hnot
    obtain ⟨hnone, herror, hle⟩ := hnot
    have hmean : mean_abs incumbent_errors ≠ 0 := by
      intro hzero
      obtain ⟨error, hmem, hne⟩ := herror
      exact hne ((mean_abs_eq_zero_iff _).mp hzero error hmem)
    have hpos : 0 < mean_abs incumbent_errors :=
      lt_of_le_of_ne (mean_abs_nonneg _) (Ne.symm hmean)
    have hcandidate : mean_abs candidate_errors = 0 := by
      rw [hnone]
      rfl
    refine (hsound ⟨hpos, ?_⟩).sampled hnone
    rw [hcandidate]
    exact mul_nonneg (sub_nonneg.mpr hle) hpos.le
  · intro hcase
    refine ⟨?_, fun n padded hpadded hfails => run_shadow_validation_zeros hratio hpadded hfails⟩
    rintro ⟨hpos, hle⟩
    rcases hcase with hsampled | hzero | hlarge
    · exact ⟨hsampled, hle⟩
    · exact absurd ((mean_abs_eq_zero_iff _).mpr hzero) hpos.ne'
    · have hneg : (1 - min_improvement_ratio) * mean_abs incumbent_errors < 0 :=
        mul_neg_of_neg_of_pos (sub_neg.mpr hlarge) hpos
      exact absurd (mean_abs_nonneg candidate_errors) (not_le.mpr (hle.trans_lt hneg))

end Pass

/-! ## A candidate without a sample -/

/-- The card of a candidate that was never run. -/
def untested_card : ModelCard ℚ where
  model_id := "slippage-v2"
  parent_model_id := some "slippage-v1"
  family := "SlippageModel"
  training_window := "2024"
  symbols_used := ["BTCUSDT"]
  features_used := ["spread_bps"]
  target := "slip_bps"
  validation_metric := [("mae", 1)]
  shadow_result :=
    (run_shadow_validation "slippage-v2" "slippage-v1" [] [2, 1, 3] (1 / 5)).to_dict
  paper_result := []
  approved_modes := ["shadow"]
  known_failures := []
  rollback_model_id := some "slippage-v1"

/-- A candidate with three samples passes on its evidence. -/
theorem shadow_sound_sampled : ShadowEvidence [1, 1, 1] [2, 2, (2 : ℚ)] (1 / 5) :=
  ((shadow_sound_iff (by norm_num) "slippage-v2" "slippage-v1").mpr
    (Or.inl (List.cons_ne_nil _ _))).1 (by decide +kernel)

/-- Without a sample it passes as well, and its card is accepted. -/
theorem shadow_passes_without_samples :
    (run_shadow_validation "slippage-v2" "slippage-v1" [] [2, 1, (3 : ℚ)] (1 / 5)).passed = true
      ∧ ¬ ShadowEvidence [] [2, 1, (3 : ℚ)] (1 / 5)
      ∧ (validate_model_card untested_card).passed = true := by
  refine ⟨by decide +kernel, ?_, by decide +kernel⟩
  intro hevidence
  exact hevidence.sampled rfl

end ProofAlpha.Learning
