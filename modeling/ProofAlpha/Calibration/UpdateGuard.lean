/-
What an update of the cost model rests on.

The guard of `evaluate_calibration_update` asks every bucket of the candidate for its
orders. A candidate that is fitted to measurements has a bucket for each of them, so
when it is allowed it rests on enough orders. The candidate of no measurements has no
bucket, passes the guard, and all its costs are zero: what it is allowed to lower is
left to the shrinkage alone (`update_lowers_on_evidence_iff`).
-/
import Mathlib.Tactic.NormNum
import ProofAlpha.Calibration.CostCapacity
import ProofAlpha.Lib.RoundingBounds

set_option autoImplicit false

namespace ProofAlpha.Calibration

open ProofAlpha.Lib

variable {K : Type}

/-! ## The law -/

/-- The coefficients that a cost is made of. -/
def COST_COEFFICIENTS : List (CalibrationModel K → K) :=
  [fun model => model.square_root_impact_bps, fun model => model.spread_coefficient,
    fun model => model.volatility_coefficient, fun model => model.latency_coefficient,
    fun model => model.funding_window_bps]

/-- The coefficients that an update shrinks. -/
def SHRUNK_COEFFICIENTS : List (CalibrationModel K → K) :=
  COST_COEFFICIENTS ++
    [fun model => model.queue_fill_coefficient, fun model => model.max_participation_rate]

/-- Every bucket of a model holds at least `minimum` orders, and there is one. -/
structure RestsOnEvidence (model : CalibrationModel K) (minimum : ℤ) : Prop where
  nonempty : ∃ bucket, bucket ∈ model.bucket_counts
  enough : ∀ bucket count, model.bucket_counts.lookup bucket = some count → minimum ≤ count

variable [Field K] [LinearOrder K]

omit [Field K] in
/-- Some cost coefficient of the selected model is lower, or its participation limit higher. -/
def MakesCheaper (incumbent selected : CalibrationModel K) : Prop :=
  (∃ coefficient ∈ COST_COEFFICIENTS, coefficient selected < coefficient incumbent)
    ∨ incumbent.max_participation_rate < selected.max_participation_rate

/-- A value lies between two others, up to half a unit of the twelfth decimal. -/
def LiesBetween (value old new : K) : Prop :=
  min old new - 1 / 2 / 10 ^ 12 ≤ value ∧ value ≤ max old new + 1 / 2 / 10 ^ 12

/-- The law on an update: costs are only lowered on evidence, and every coefficient is selected
between the incumbent's and the candidate's. -/
structure LowersOnEvidence (incumbent candidate selected : CalibrationModel K) (minimum : ℤ) :
    Prop where
  evidence : MakesCheaper incumbent selected → RestsOnEvidence candidate minimum
  between : ∀ coefficient ∈ SHRUNK_COEFFICIENTS,
    LiesBetween (coefficient selected) (coefficient incumbent) (coefficient candidate)

/-- Shrunk by `weight` towards no cost at all and a limit of `max_participation_rate`, the
coefficients of the incumbent round back to where nothing is cheaper. -/
structure RoundsBack (incumbent : CalibrationModel K) (weight max_participation_rate : K)
    [FloorRing K] : Prop where
  costs : ∀ coefficient ∈ COST_COEFFICIENTS,
    RoundsUpTo ⌈coefficient incumbent * 10 ^ 12⌉ (coefficient incumbent * (1 - weight) * 10 ^ 12)
  limit : RoundsDownTo ⌊incumbent.max_participation_rate * 10 ^ 12⌋
    ((incumbent.max_participation_rate * (1 - weight) + max_participation_rate * weight) * 10 ^ 12)

/-! ## Shrinking -/

section Shrinking

variable [IsStrictOrderedRing K]

theorem update_weight_mem (incumbent candidate : CalibrationModel K) (shrinkage_weight : Option K) :
    0 ≤ update_weight incumbent candidate shrinkage_weight
      ∧ update_weight incumbent candidate shrinkage_weight ≤ 1 :=
  ⟨le_max_left _ _, max_le zero_le_one (min_le_left _ _)⟩

/-- A weighted mean lies between its two values. -/
theorem weighted_between (old new : K) {weight : K} (h0 : 0 ≤ weight) (h1 : weight ≤ 1) :
    min old new ≤ old * (1 - weight) + new * weight
      ∧ old * (1 - weight) + new * weight ≤ max old new := by
  have hrest : 0 ≤ 1 - weight := sub_nonneg.mpr h1
  have hmin : min old new = min old new * (1 - weight) + min old new * weight := by ring
  have hmax : max old new = max old new * (1 - weight) + max old new * weight := by ring
  constructor
  · rw [hmin]
    exact add_le_add (mul_le_mul_of_nonneg_right (min_le_left _ _) hrest)
      (mul_le_mul_of_nonneg_right (min_le_right _ _) h0)
  · rw [hmax]
    exact add_le_add (mul_le_mul_of_nonneg_right (le_max_left _ _) hrest)
      (mul_le_mul_of_nonneg_right (le_max_right _ _) h0)

variable [FloorRing K]

theorem shrink_between (old new : K) {weight : K} (h0 : 0 ≤ weight) (h1 : weight ≤ 1) :
    LiesBetween (shrink old new weight) old new := by
  obtain ⟨hlow, hhigh⟩ := weighted_between old new h0 h1
  obtain ⟨hbelow, habove⟩ :=
    abs_le.mp (abs_pyRound_sub_le (old * (1 - weight) + new * weight) 12)
  unfold LiesBetween shrink
  constructor <;> linarith

theorem shrink_zero_lt_iff (old weight : K) :
    shrink old 0 weight < old ↔ ¬ RoundsUpTo ⌈old * 10 ^ 12⌉ (old * (1 - weight) * 10 ^ 12) := by
  rw [shrink, zero_mul, add_zero, ← not_le, le_pyRound_iff]

theorem lt_shrink_iff (old new weight : K) :
    old < shrink old new weight
      ↔ ¬ RoundsDownTo ⌊old * 10 ^ 12⌋ ((old * (1 - weight) + new * weight) * 10 ^ 12) := by
  rw [shrink, ← not_le, pyRound_le_iff]

end Shrinking

/-! ## An allowed update -/

section Allowed

variable [FloorRing K]

omit [Field K] [LinearOrder K] [FloorRing K] in
/-- Without notes on the buckets each of them has its orders. -/
theorem insufficient_buckets_eq_nil {counts : Dict String ℕ} {minimum : ℤ}
    (h : insufficient_buckets counts minimum = []) {bucket : String} {count : ℕ}
    (hcount : counts.lookup bucket = some count) : minimum ≤ count := by
  have hitem := List.flatMap_eq_nil_iff.mp h _ (Dict.mem_sorted_items.mpr hcount)
  rw [reason_if_eq_nil, decide_eq_false_iff_not] at hitem
  exact not_lt.mp hitem

/-- An allowed update has no reasons against it, and selects the shrunk coefficients. -/
theorem update_allowed {texts : VersionTexts K} {incumbent candidate : CalibrationModel K}
    {oos_passed bootstrap_passed : Bool} {minimum : ℤ} {shrinkage_weight : Option K}
    (h : (evaluate_calibration_update texts incumbent candidate oos_passed bootstrap_passed minimum
      shrinkage_weight).allowed = true) :
    update_reasons candidate oos_passed bootstrap_passed minimum = []
      ∧ ∀ coefficient ∈ SHRUNK_COEFFICIENTS,
        coefficient (evaluate_calibration_update texts incumbent candidate oos_passed
            bootstrap_passed minimum shrinkage_weight).selected_model
          = shrink (coefficient incumbent) (coefficient candidate)
              (update_weight incumbent candidate shrinkage_weight) := by
  by_cases hreasons : update_reasons candidate oos_passed bootstrap_passed minimum = []
  · refine ⟨hreasons, ?_⟩
    have hselected := evaluate_calibration_update.eq_def texts incumbent candidate oos_passed
      bootstrap_passed minimum shrinkage_weight
    simp only [hreasons, List.isEmpty_nil, Bool.not_true, Bool.and_false, Bool.false_eq_true,
      if_false] at hselected
    rw [hselected]
    simp only [SHRUNK_COEFFICIENTS, COST_COEFFICIENTS, List.cons_append, List.nil_append,
      List.forall_mem_cons, List.not_mem_nil, false_implies, implies_true, and_true]
  · have hnonempty : (update_reasons candidate oos_passed bootstrap_passed minimum).isEmpty = false :=
      List.isEmpty_eq_false_iff.mpr hreasons
    unfold evaluate_calibration_update at h
    simp only [hnonempty, Bool.not_false, if_true, Bool.and_true, ite_self] at h
    exact absurd h Bool.false_ne_true

/-- The candidate of measurements has the bucket of each of them. -/
theorem fit_has_bucket (texts : VersionTexts K) {rows : List (OrderTelemetryMeasurement K)}
    (h : rows ≠ []) (source : String) (minimum : ℤ) (max_participation_rate : K) :
    ∃ bucket, bucket
      ∈ (fit_impact_calibration texts rows source minimum max_participation_rate).bucket_counts := by
  obtain ⟨row, rest, rfl⟩ := List.exists_cons_of_ne_nil h
  refine ⟨row.bucket, ?_⟩
  show row.bucket ∈ bucket_counts (row :: rest)
  exact (Dict.mem_tally _ _ _ _).mpr ⟨row, List.mem_cons_self, rfl⟩

variable [IsStrictOrderedRing K]

/-- The candidate of no measurements has weight zero unless a weight is given. -/
theorem update_weight_empty (incumbent : CalibrationModel K) (texts : VersionTexts K)
    (source : String) (minimum : ℤ) (max_participation_rate : K) (shrinkage_weight : Option K) :
    update_weight incumbent
        (fit_impact_calibration texts [] source minimum max_participation_rate) shrinkage_weight
      = max 0 (min 1 (shrinkage_weight.getD 0)) := by
  cases shrinkage_weight with
  | some weight => rfl
  | none =>
      show max (0 : K) (min 1 (min 0.5 (((0 : ℤ) : K) / _))) = max 0 (min 1 0)
      rw [Int.cast_zero, zero_div, min_eq_right (by norm_num : (0 : K) ≤ 0.5)]

/-- Where the cost coefficients are shrunk to zero and the limit to another one, nothing is cheaper
exactly when the incumbent's coefficients round back. -/
theorem not_makesCheaper_iff {incumbent selected : CalibrationModel K}
    {weight max_participation_rate : K}
    (hcosts : ∀ coefficient ∈ COST_COEFFICIENTS,
      coefficient selected = shrink (coefficient incumbent) 0 weight)
    (hlimit : selected.max_participation_rate
      = shrink incumbent.max_participation_rate max_participation_rate weight) :
    ¬ MakesCheaper incumbent selected ↔ RoundsBack incumbent weight max_participation_rate := by
  unfold MakesCheaper
  rw [not_or, hlimit, lt_shrink_iff, not_not, not_exists]
  constructor
  · rintro ⟨hcost, hback⟩
    refine ⟨fun coefficient hcoefficient => ?_, hback⟩
    have hkept := hcost coefficient
    rw [not_and, hcosts coefficient hcoefficient, shrink_zero_lt_iff, not_not] at hkept
    exact hkept hcoefficient
  · rintro ⟨hcost, hback⟩
    refine ⟨fun coefficient => ?_, hback⟩
    rintro ⟨hcoefficient, hlower⟩
    rw [hcosts coefficient hcoefficient, shrink_zero_lt_iff] at hlower
    exact hlower (hcost coefficient hcoefficient)

omit [IsStrictOrderedRing K] in
/-- The candidate of no measurements costs nothing. -/
theorem fit_empty_cost (texts : VersionTexts K) (source : String) (minimum : ℤ)
    (max_participation_rate : K) {coefficient : CalibrationModel K → K}
    (h : coefficient ∈ COST_COEFFICIENTS) :
    coefficient (fit_impact_calibration texts [] source minimum max_participation_rate) = 0 := by
  simp only [COST_COEFFICIENTS, List.mem_cons, List.not_mem_nil, or_false] at h
  rcases h with rfl | rfl | rfl | rfl | rfl <;> rfl

omit [IsStrictOrderedRing K] in
/-- It rests on nothing. -/
theorem fit_empty_no_evidence (texts : VersionTexts K) (source : String)
    (fit_minimum minimum : ℤ) (max_participation_rate : K) :
    ¬ RestsOnEvidence (fit_impact_calibration texts [] source fit_minimum max_participation_rate)
      minimum := by
  rintro ⟨⟨bucket, hbucket⟩, -⟩
  exact absurd hbucket (AList.notMem_empty bucket)

/-- Costs are only lowered on evidence exactly when there are measurements, or the shrinkage
rounds the coefficients back. -/
theorem update_lowers_on_evidence_iff (texts : VersionTexts K) (incumbent : CalibrationModel K)
    (rows : List (OrderTelemetryMeasurement K)) (source : String)
    (fit_minimum minimum : ℤ) (max_participation_rate : K) (oos_passed bootstrap_passed : Bool)
    (shrinkage_weight : Option K)
    (h : (evaluate_calibration_update texts incumbent
      (fit_impact_calibration texts rows source fit_minimum max_participation_rate) oos_passed
      bootstrap_passed minimum shrinkage_weight).allowed = true) :
    LowersOnEvidence incumbent
        (fit_impact_calibration texts rows source fit_minimum max_participation_rate)
        (evaluate_calibration_update texts incumbent
          (fit_impact_calibration texts rows source fit_minimum max_participation_rate) oos_passed
          bootstrap_passed minimum shrinkage_weight).selected_model minimum
      ↔ rows ≠ [] ∨ RoundsBack incumbent (max 0 (min 1 (shrinkage_weight.getD 0)))
          max_participation_rate := by
  obtain ⟨hreasons, hselected⟩ := update_allowed h
  generalize (evaluate_calibration_update texts incumbent _ oos_passed bootstrap_passed minimum
    shrinkage_weight).selected_model = selected at hselected ⊢
  -- a shrunk coefficient lies between the two whatever was measured
  have hbetween : ∀ coefficient ∈ SHRUNK_COEFFICIENTS,
      LiesBetween (coefficient selected) (coefficient incumbent)
        (coefficient (fit_impact_calibration texts rows source fit_minimum
          max_participation_rate)) := by
    intro coefficient hcoefficient
    obtain ⟨h0, h1⟩ := update_weight_mem incumbent
      (fit_impact_calibration texts rows source fit_minimum max_participation_rate)
      shrinkage_weight
    rw [hselected coefficient hcoefficient]
    exact shrink_between _ _ h0 h1
  by_cases hrows : rows = []
  · subst hrows
    rw [update_weight_empty incumbent texts source fit_minimum max_participation_rate] at hselected
    have hcheaper := not_makesCheaper_iff
      (fun coefficient hcoefficient => by
        rw [hselected coefficient (List.mem_append_left _ hcoefficient),
          fit_empty_cost texts source fit_minimum max_participation_rate hcoefficient])
      (hselected (fun model => model.max_participation_rate) (List.mem_append_right _ (by simp)))
    -- without a bucket the law leaves no room for anything cheaper
    have hempty := fit_empty_no_evidence texts source fit_minimum minimum max_participation_rate
    constructor
    · intro hlaw
      exact .inr (hcheaper.mp fun hmakes => hempty (hlaw.evidence hmakes))
    · rintro (hne | hback)
      · exact absurd rfl hne
      · exact ⟨fun hmakes => absurd hmakes (hcheaper.mpr hback), hbetween⟩
  · -- with measurements there is a bucket, and none of them is among the reasons
    refine iff_of_true ⟨fun _ => ?_, hbetween⟩ (.inl hrows)
    have hbuckets := (List.append_eq_nil_iff.mp hreasons).2
    exact ⟨fit_has_bucket texts hrows source fit_minimum max_participation_rate,
      fun bucket count hcount => insufficient_buckets_eq_nil hbuckets hcount⟩

end Allowed

/-! ## Two updates -/

/-- Texts for the two updates. -/
def fixed_texts : VersionTexts ℚ where
  digest := fun _ _ => "0123456789abcdef"
  float_text := fun _ => "0.5"

/-- An incumbent that rests on five hundred orders. -/
def sampled_incumbent : CalibrationModel ℚ where
  model_version := "cost-calibration-old"
  source_model_version := "cost-v1"
  status := "usable"
  sample_count := 500
  bucket_counts := (∅ : Dict String ℕ).insert "BTCUSDT|trend" 500
  square_root_impact_bps := 100
  spread_coefficient := 1 / 2
  volatility_coefficient := 10
  latency_coefficient := 1 / 100
  funding_window_bps := 0
  queue_fill_coefficient := 1
  max_participation_rate := 1 / 20
  notes := []

/-- An order that was filled as modeled. -/
def modeled_order : OrderTelemetryMeasurement ℚ where
  symbol := "BTCUSDT"
  regime := "trend"
  funding_window := false
  participation_rate := 1 / 100
  sqrt_q_over_adv := 1 / 10
  fill_completion_rate := 1
  realized_vs_modeled_fill_bps := 2
  spread_bps := 2
  vol_15m := 1 / 50
  latency_rtt_ms := 25
  maker_ratio := 0

/-- The update by a candidate that was fitted to the orders, with half of the weight. -/
def half_update (rows : List (OrderTelemetryMeasurement ℚ)) : CalibrationUpdateDecision ℚ :=
  evaluate_calibration_update fixed_texts sampled_incumbent
    (fit_impact_calibration fixed_texts rows "cost-v1" 1 (1 / 20)) true true 1 (some (1 / 2))

theorem update_lowers_on_evidence_iff_one_order :
    MakesCheaper sampled_incumbent (half_update [modeled_order]).selected_model
      ∧ LowersOnEvidence sampled_incumbent
        (fit_impact_calibration fixed_texts [modeled_order] "cost-v1" 1 (1 / 20))
        (half_update [modeled_order]).selected_model 1 := by
  refine ⟨.inl ⟨_, List.mem_cons_self, by decide +kernel⟩, ?_⟩
  exact (update_lowers_on_evidence_iff fixed_texts sampled_incumbent [modeled_order] "cost-v1" 1 1
    (1 / 20) true true (some (1 / 2)) (by decide +kernel)).mpr (.inl (List.cons_ne_nil _ _))

/-- Fitted to no order at all, the candidate is allowed and halves the costs. -/
theorem costs_halved_without_orders :
    (half_update []).allowed = true
      ∧ (half_update []).selected_model.square_root_impact_bps = 50
      ∧ ¬ LowersOnEvidence sampled_incumbent
        (fit_impact_calibration fixed_texts [] "cost-v1" 1 (1 / 20))
        (half_update []).selected_model 1 := by
  refine ⟨by decide +kernel, by decide +kernel, fun hlaw => ?_⟩
  have hcheaper : MakesCheaper sampled_incumbent (half_update []).selected_model :=
    .inl ⟨_, List.mem_cons_self, by decide +kernel⟩
  exact fit_empty_no_evidence _ _ _ _ _ (hlaw.evidence hcheaper)

end ProofAlpha.Calibration
