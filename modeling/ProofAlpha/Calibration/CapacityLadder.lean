/-
The capacity ladder is monotone.

More participation costs more and is filled less: the cost grows with the root of the
participation, and above the participation limit the fills shrink with it. The code
only checks the row of five times the participation, so what a passing report says
of the rows below it rests on this order (`capacity_ladder_monotone`).
-/
import Mathlib.Tactic.NormNum
import ProofAlpha.Calibration.CostCapacity

set_option autoImplicit false

namespace ProofAlpha.Calibration

open ProofAlpha.Lib

variable {K : Type} [Field K] [LinearOrder K]

/-- The modeled cost grows with the multiplier and the modeled fills shrink; where the row of five
times the participation is there, a report that passes bounds the rows up to it. -/
structure MonotoneLadder (report : CapacityReport K) : Prop where
  cost : ∀ row ∈ report.rows, ∀ higher ∈ report.rows, row.multiplier ≤ higher.multiplier →
    row.modeled_cost_bps ≤ higher.modeled_cost_bps
  fill : ∀ row ∈ report.rows, ∀ higher ∈ report.rows, row.multiplier ≤ higher.multiplier →
    higher.modeled_fill_completion_rate ≤ row.modeled_fill_completion_rate
  passed : 5 ∈ report.multipliers → report.passed = true →
    ∀ row ∈ report.rows, row.multiplier ≤ 5 →
      row.edge_erosion_ratio ≤ 0.25 ∧ 0.95 ≤ row.modeled_fill_completion_rate

/-! ## One row against another -/

section Rows

variable [IsStrictOrderedRing K] {m : PyMath K} {model : CalibrationModel K}
  {inputs : LadderInputs K} {k k' : ℤ}

theorem scaled_participation_mono (h : 0 ≤ inputs.average_participation) (hk : k ≤ k') :
    inputs.average_participation * (k : K) ≤ inputs.average_participation * (k' : K) :=
  mul_le_mul_of_nonneg_left (Int.cast_le.mpr hk) h

theorem cost_mono (hsqrt : Monotone m.sqrt) (hmodel : 0 ≤ model.square_root_impact_bps)
    (h : 0 ≤ inputs.average_participation) (hk : k ≤ k') :
    inputs.cost m model k ≤ inputs.cost m model k' := by
  have hroot : m.sqrt (max 0 (inputs.average_participation * (k : K)))
      ≤ m.sqrt (max 0 (inputs.average_participation * (k' : K))) :=
    hsqrt (max_le_max le_rfl (scaled_participation_mono h hk))
  have himpact := mul_le_mul_of_nonneg_left hroot hmodel
  unfold LadderInputs.cost modeled_cost_bps
  -- the other terms do not depend on the participation
  refine max_le_max le_rfl ?_
  gcongr

theorem erosion_ratio_mono (hsqrt : Monotone m.sqrt) (hmodel : 0 ≤ model.square_root_impact_bps)
    (h : 0 ≤ inputs.average_participation) (hk : k ≤ k') :
    inputs.erosion_ratio m model k ≤ inputs.erosion_ratio m model k' := by
  have hedge : (0 : K) < max inputs.baseline_edge_bps 1e-12 :=
    lt_max_of_lt_right (by norm_num)
  have herosion : inputs.erosion m model k ≤ inputs.erosion m model k' :=
    max_le_max le_rfl (sub_le_sub_right (cost_mono hsqrt hmodel h hk) _)
  exact div_le_div_of_nonneg_right herosion hedge.le

theorem fill_pressure_nonneg (inputs : LadderInputs K) (k : ℤ) : 0 ≤ inputs.fill_pressure k := by
  unfold LadderInputs.fill_pressure
  dsimp only
  split_ifs with hlimit
  · obtain ⟨hover, hpos⟩ := hlimit
    exact div_nonneg hpos.le (hpos.trans hover).le
  · exact zero_le_one

theorem fill_pressure_le_one (inputs : LadderInputs K) (k : ℤ) : inputs.fill_pressure k ≤ 1 := by
  unfold LadderInputs.fill_pressure
  dsimp only
  split_ifs with hlimit
  · obtain ⟨hover, hpos⟩ := hlimit
    exact (div_le_one (hpos.trans hover)).mpr hover.le
  · exact le_rfl

theorem fill_pressure_anti (h : 0 ≤ inputs.average_participation) (hk : k ≤ k') :
    inputs.fill_pressure k' ≤ inputs.fill_pressure k := by
  have hscaled := scaled_participation_mono h hk
  by_cases hlimit : inputs.participation_limit < inputs.average_participation * (k : K)
      ∧ 0 < inputs.participation_limit
  · -- above the limit already, and further above it for more
    obtain ⟨hover, hpos⟩ := hlimit
    unfold LadderInputs.fill_pressure
    dsimp only
    rw [if_pos ⟨hover.trans_le hscaled, hpos⟩, if_pos ⟨hover, hpos⟩]
    exact div_le_div_of_nonneg_left hpos.le (hpos.trans hover) hscaled
  · have hone : inputs.fill_pressure k = 1 := if_neg hlimit
    rw [hone]
    exact fill_pressure_le_one inputs k'

theorem fill_anti (h : 0 ≤ inputs.average_participation) (hk : k ≤ k') :
    inputs.fill model k' ≤ inputs.fill model k := by
  have hpressure := fill_pressure_anti h hk
  unfold LadderInputs.fill
  rcases le_total 0 (inputs.average_fill * model.queue_fill_coefficient) with hfill | hfill
  · exact max_le_max le_rfl
      (min_le_min le_rfl (mul_le_mul_of_nonneg_left hpressure hfill))
  · -- a product that is not positive is cut off at zero
    have hzero := mul_nonpos_of_nonpos_of_nonneg hfill (fill_pressure_nonneg inputs k')
    rw [max_eq_left ((min_le_right _ _).trans hzero)]
    exact le_max_left _ _

end Rows

/-! ## A report -/

section Report

variable [IsStrictOrderedRing K]

/-- The average of participations that are not negative is not negative. -/
theorem average_nonneg {values : List K} (h : ∀ value ∈ values, 0 ≤ value) :
    0 ≤ average values 0 := by
  unfold average mean
  split_ifs
  · exact le_rfl
  · exact div_nonneg (List.sum_nonneg h) (Nat.cast_nonneg _)

omit [IsStrictOrderedRing K] in
/-- Without reasons, the row of five times the participation is within both bounds. -/
theorem five_within {m : PyMath K} {model : CalibrationModel K} {inputs : LadderInputs K}
    (h : inputs.row_reasons m model 5 = []) :
    inputs.erosion_ratio m model 5 ≤ 0.25 ∧ 0.95 ≤ inputs.fill model 5 := by
  obtain ⟨herosion, hfill⟩ := List.append_eq_nil_iff.mp h
  rw [reason_if_eq_nil, decide_eq_true rfl, Bool.true_and, decide_eq_false_iff_not, not_lt]
    at herosion hfill
  exact ⟨herosion, hfill⟩

variable [FloorRing K]

theorem monotoneLadder_of_monotone {m : PyMath K} (hsqrt : Monotone m.sqrt)
    {rows : List (OrderTelemetryMeasurement K)} {model : CalibrationModel K}
    (hmodel : 0 ≤ model.square_root_impact_bps)
    (hrows : ∀ row ∈ rows, 0 ≤ row.participation_rate) (baseline_edge_bps : K)
    (max_participation_rate : Option K) (multipliers : List ℤ) :
    MonotoneLadder (build_capacity_report m rows model baseline_edge_bps max_participation_rate
      multipliers) := by
  have hparticipation : 0 ≤ (ladder_inputs m rows model baseline_edge_bps
      max_participation_rate).average_participation := by
    refine average_nonneg fun value hvalue => ?_
    obtain ⟨row, hrow, rfl⟩ := List.mem_map.mp hvalue
    exact hrows row hrow
  unfold build_capacity_report
  dsimp only
  generalize ladder_inputs m rows model baseline_edge_bps max_participation_rate = inputs
    at hparticipation
  refine ⟨?_, ?_, ?_⟩
  · intro row hrow higher hhigher hle
    obtain ⟨k, -, rfl⟩ := List.mem_map.mp hrow
    obtain ⟨k', -, rfl⟩ := List.mem_map.mp hhigher
    exact pyRound_mono (cost_mono hsqrt hmodel hparticipation hle) 12
  · intro row hrow higher hhigher hle
    obtain ⟨k, -, rfl⟩ := List.mem_map.mp hrow
    obtain ⟨k', -, rfl⟩ := List.mem_map.mp hhigher
    exact pyRound_mono (fill_anti hparticipation hle) 12
  · intro hfive hpassed row hrow hle
    obtain ⟨k, -, rfl⟩ := List.mem_map.mp hrow
    have hreasons : inputs.row_reasons m model 5 = [] := by
      have hnil := List.isEmpty_iff.mp hpassed
      refine List.eq_nil_iff_forall_not_mem.mpr fun reason hreason => ?_
      have hmem : reason ∈ Strategy.sorted_set (multipliers.flatMap (inputs.row_reasons m model)) :=
        Strategy.mem_sorted_set.mpr (List.mem_flatMap.mpr ⟨5, hfive, hreason⟩)
      rw [hnil] at hmem
      exact absurd hmem List.not_mem_nil
    obtain ⟨herosion, hfill⟩ := five_within hreasons
    -- the row is below the one that is checked, and the bounds are not rounded
    have herosion_le := (erosion_ratio_mono hsqrt hmodel hparticipation hle).trans herosion
    have hfill_ge := hfill.trans (fill_anti hparticipation hle)
    have hquarter : pyRound (0.25 : K) 12 = 0.25 :=
      pyRound_of_decimal (n := 250000000000) (by norm_num)
    have hbound : pyRound (0.95 : K) 12 = 0.95 :=
      pyRound_of_decimal (n := 950000000000) (by norm_num)
    refine ⟨?_, ?_⟩
    · rw [← hquarter]
      exact pyRound_mono herosion_le 12
    · rw [← hbound]
      exact pyRound_mono hfill_ge 12

end Report

/-- The capacity ladder is monotone, and a report that passes bounds every row up to five times
the participation. -/
theorem capacity_ladder_monotone {rows : List (OrderTelemetryMeasurement ℝ)}
    {model : CalibrationModel ℝ} (hmodel : 0 ≤ model.square_root_impact_bps)
    (hrows : ∀ row ∈ rows, 0 ≤ row.participation_rate) (baseline_edge_bps : ℝ)
    (max_participation_rate : Option ℝ) (multipliers : List ℤ) :
    MonotoneLadder (build_capacity_report PyMath.real rows model baseline_edge_bps
      max_participation_rate multipliers) :=
  monotoneLadder_of_monotone (fun _ _ h => Real.sqrt_le_sqrt h) hmodel hrows baseline_edge_bps
    max_participation_rate multipliers

section Sample

omit [LinearOrder K]

/-- A model with the costs of a hundred basis points at full participation. -/
def hundred_bps_model : CalibrationModel K where
  model_version := "cost-calibration"
  source_model_version := "cost-v1"
  status := "usable"
  sample_count := 200
  bucket_counts := (∅ : Dict String ℕ).insert "BTCUSDT|trend" 200
  square_root_impact_bps := 100
  spread_coefficient := 0
  volatility_coefficient := 0
  latency_coefficient := 0
  funding_window_bps := 0
  queue_fill_coefficient := 1
  max_participation_rate := 1
  notes := []

/-- An order of one percent of the daily volume. -/
def percent_order : OrderTelemetryMeasurement K where
  symbol := "BTCUSDT"
  regime := "trend"
  funding_window := false
  participation_rate := 1 / 100
  sqrt_q_over_adv := 1 / 10
  fill_completion_rate := 1
  realized_vs_modeled_fill_bps := 10
  spread_bps := 0
  vol_15m := 0
  latency_rtt_ms := 0
  maker_ratio := 0

end Sample

theorem capacity_ladder_monotone_percent :
    MonotoneLadder (build_capacity_report PyMath.real [percent_order] hundred_bps_model 100 none
      [1, 2, 5, 10]) :=
  capacity_ladder_monotone (by norm_num [hundred_bps_model])
    (by simp [percent_order]) 100 none [1, 2, 5, 10]

end ProofAlpha.Calibration
