/-
Two verdicts on one capacity ladder: `build_capacity_report` of
`calibration/cost_capacity.py`, and the `capacity_5x` gate of `validation/gate_spec.py`
that reads the report.

The report compares the numbers as computed, and passes a ladder without a row of five
times the participation. The gate compares the numbers rounded to twelve digits, asks for
an erosion below the limit, and fails when the row is missing. They agree off a width of
half a unit of the twelfth digit below either limit (`capacity_verdicts_agree_iff`).
-/
import ProofAlpha.Calibration.CostCapacity
import ProofAlpha.Lib.RoundingBounds
import ProofAlpha.Validation.GateSpec

set_option autoImplicit false

namespace ProofAlpha.Calibration

open ProofAlpha.Lib
open ProofAlpha.Backtest (BacktestResult)
open ProofAlpha.Validation

section Fields

variable {K : Type}

/-- The fields of a row as the gate reads them. -/
def row_fields (row : CapacityLadderRow K) : JsonValue K :=
  .dict
    [("multiplier", .int row.multiplier), ("modeled_cost_bps", .float row.modeled_cost_bps),
      ("edge_erosion_bps", .float row.edge_erosion_bps),
      ("edge_erosion_ratio", .float row.edge_erosion_ratio),
      ("modeled_fill_completion_rate", .float row.modeled_fill_completion_rate),
      ("scaled_participation_rate", .float row.scaled_participation_rate),
      ("passed", .bool row.passed),
      ("failure_reasons", .list (row.failure_reasons.map .str))]

/-- The fields of a report as the gate reads them. -/
def capacity_report_fields (report : CapacityReport K) : JsonValue K :=
  .dict
    [("baseline_edge_bps", .float report.baseline_edge_bps),
      ("multipliers", .list (report.multipliers.map .int)),
      ("rows", .list (report.rows.map row_fields)),
      ("passed", .bool report.passed),
      ("failure_reasons", .list (report.failure_reasons.map .str))]

end Fields

section Verdicts

variable {K : Type} [Field K] [LinearOrder K] [IsStrictOrderedRing K] [FloorRing K]

/-! ## The gate -/

theorem truncate_intCast (n : ℤ) : truncate (n : K) = n := by
  unfold truncate
  rw [Int.floor_intCast, Int.ceil_intCast, ite_self]

/-- The gate finds the row of five times the participation if the ladder has it. -/
theorem row_5x_eq {row : ℤ → CapacityLadderRow K} (hrow : ∀ k, (row k).multiplier = k)
    {report : CapacityReport K} (hrows : report.rows = report.multipliers.map row) (name : String) :
    row_5x (capacity_report_fields report) name
      = if 5 ∈ report.multipliers then float_field (row_fields (row 5)) name else none := by
  have hfound : ∀ multipliers : List ℤ,
      ((multipliers.map row).map row_fields).find? (fun fields =>
          truncate ((float_field fields "multiplier").getD 0) = 5)
        = if 5 ∈ multipliers then some (row_fields (row 5)) else none := by
    intro multipliers
    induction multipliers with
    | nil => rfl
    | cons k multipliers ih =>
        have hk : truncate ((float_field (row_fields (row k)) "multiplier").getD 0) = k := by
          have hfield : float_field (row_fields (row k)) "multiplier"
            = some (((row k).multiplier : ℤ) : K) := rfl
          rw [hfield, Option.getD_some, truncate_intCast, hrow]
        rw [List.map_cons, List.map_cons, List.find?_cons, hk, ih]
        by_cases hfive : k = 5
        · rw [hfive]
          simp
        · simp [hfive, Ne.symm hfive]
  have hlist : report_field (capacity_report_fields report) "rows"
      = .list (report.rows.map row_fields) := rfl
  unfold row_5x
  rw [hlist, hrows]
  dsimp only
  rw [hfound]
  split_ifs <;> rfl

/-- The gate on a report passes when the ladder has the row and both of its numbers do. -/
theorem capacity_gate_passes_iff (row : ℤ → CapacityLadderRow K)
    (hrow : ∀ k, (row k).multiplier = k) (report : CapacityReport K)
    (hrows : report.rows = report.multipliers.map row) (final_holdout_result : BacktestResult K)
    (selection_oos_result : Option (BacktestResult K)) (scenario_report regime_report : JsonValue K) :
    (∃ result ∈ evaluate_validation_gate_spec final_holdout_result selection_oos_result
        (capacity_report_fields report) scenario_report regime_report {},
      result.name = "capacity_5x" ∧ result.passed = true)
      ↔ 5 ∈ report.multipliers ∧ (row 5).edge_erosion_ratio < 1 / 4
        ∧ 19 / 20 ≤ (row 5).modeled_fill_completion_rate := by
  have hedge : capacity_5x_edge_degradation (capacity_report_fields report)
      = if 5 ∈ report.multipliers then some (row 5).edge_erosion_ratio else none :=
    row_5x_eq hrow hrows "edge_erosion_ratio"
  have hfill : capacity_5x_fill_completion (capacity_report_fields report)
      = if 5 ∈ report.multipliers then some (row 5).modeled_fill_completion_rate else none :=
    row_5x_eq hrow hrows "modeled_fill_completion_rate"
  simp only [evaluate_validation_gate_spec, hedge, hfill]
  by_cases hfive : 5 ∈ report.multipliers
  · simp [gate, hfive]
  · simp [gate, hfive]

/-! ## The report -/

omit [IsStrictOrderedRing K] [FloorRing K] in
/-- Only the row of five times the participation can have a reason. -/
theorem row_reasons_of_ne {m : PyMath K} {model : CalibrationModel K} {inputs : LadderInputs K}
    {k : ℤ} (hk : k ≠ 5) : inputs.row_reasons m model k = [] := by
  unfold LadderInputs.row_reasons
  rw [decide_eq_false hk, Bool.false_and, Bool.false_and]
  rfl

omit [FloorRing K] in
theorem row_reasons_five {m : PyMath K} {model : CalibrationModel K} {inputs : LadderInputs K} :
    inputs.row_reasons m model 5 = []
      ↔ inputs.erosion_ratio m model 5 ≤ 1 / 4 ∧ 19 / 20 ≤ inputs.fill model 5 := by
  have hquarter : (0.25 : K) = 1 / 4 := by norm_num
  have hbound : (0.95 : K) = 19 / 20 := by norm_num
  unfold LadderInputs.row_reasons
  rw [List.append_eq_nil_iff, reason_if_eq_nil, reason_if_eq_nil, decide_eq_true rfl,
    Bool.true_and, Bool.true_and, decide_eq_false_iff_not, decide_eq_false_iff_not, not_lt, not_lt,
    hquarter, hbound]

omit [IsStrictOrderedRing K] in
theorem capacity_report_passed_iff {m : PyMath K} {rows : List (OrderTelemetryMeasurement K)}
    {model : CalibrationModel K} {baseline_edge_bps : K} {max_participation_rate : Option K}
    {multipliers : List ℤ} :
    (build_capacity_report m rows model baseline_edge_bps max_participation_rate
        multipliers).passed = true
      ↔ (5 ∈ multipliers →
        (ladder_inputs m rows model baseline_edge_bps max_participation_rate).row_reasons m model 5
          = []) := by
  unfold build_capacity_report
  dsimp only
  generalize ladder_inputs m rows model baseline_edge_bps max_participation_rate = inputs
  rw [List.isEmpty_iff]
  constructor
  · intro hnil hfive
    refine List.eq_nil_iff_forall_not_mem.mpr fun reason hreason => ?_
    have hmem : reason ∈ Strategy.sorted_set (multipliers.flatMap (inputs.row_reasons m model)) :=
      Strategy.mem_sorted_set.mpr (List.mem_flatMap.mpr ⟨5, hfive, hreason⟩)
    rw [hnil] at hmem
    exact List.not_mem_nil hmem
  · intro hnil
    refine List.eq_nil_iff_forall_not_mem.mpr fun reason hreason => ?_
    obtain ⟨k, hk, hreason⟩ := List.mem_flatMap.mp (Strategy.mem_sorted_set.mp hreason)
    by_cases hfive : k = 5
    · rw [hfive, hnil (hfive ▸ hk)] at hreason
      exact List.not_mem_nil hreason
    · rw [row_reasons_of_ne hfive] at hreason
      exact List.not_mem_nil hreason

/-! ## The two verdicts -/

/-- The ladder has a row of five times the participation, and neither number of it lies where
the verdicts differ: an erosion on the limit or less than half a unit of the twelfth digit
below it with enough fills, or fills less than that below theirs with little erosion. -/
structure VerdictsAgree (m : PyMath K) (model : CalibrationModel K) (inputs : LadderInputs K)
    (multipliers : List ℤ) : Prop where
  five : 5 ∈ multipliers
  erosion : ¬ (1 / 4 - 1 / 2 / 10 ^ 12 ≤ inputs.erosion_ratio m model 5
    ∧ inputs.erosion_ratio m model 5 ≤ 1 / 4 ∧ 19 / 20 ≤ inputs.fill model 5)
  fill : ¬ (inputs.erosion_ratio m model 5 < 1 / 4 - 1 / 2 / 10 ^ 12
    ∧ 19 / 20 - 1 / 2 / 10 ^ 12 ≤ inputs.fill model 5 ∧ inputs.fill model 5 < 19 / 20)

/-- Rounded to twelve digits, an erosion is below the limit when it is more than half a unit of
the last digit below it: on the tie the limit is the even neighbour. -/
theorem rounded_erosion_lt_iff (erosion : K) :
    pyRound erosion 12 < 1 / 4 ↔ erosion < 1 / 4 - 1 / 2 / 10 ^ 12 := by
  have hunits : (1 / 4 : K) * 10 ^ 12 = ((250000000000 : ℤ) : K) := by norm_num
  rw [← not_le, le_pyRound_iff_of_even hunits (by decide), not_le]

theorem le_rounded_fill_iff (fill : K) :
    19 / 20 ≤ pyRound fill 12 ↔ 19 / 20 - 1 / 2 / 10 ^ 12 ≤ fill := by
  have hunits : (19 / 20 : K) * 10 ^ 12 = ((950000000000 : ℤ) : K) := by norm_num
  exact le_pyRound_iff_of_even hunits (by decide) fill

/-- The report passes exactly when the gate on it does if and only if the ladder has the row
and its numbers are off the two gaps. -/
theorem capacity_verdicts_agree_iff (m : PyMath K) (rows : List (OrderTelemetryMeasurement K))
    (model : CalibrationModel K) (baseline_edge_bps : K) (max_participation_rate : Option K)
    (multipliers : List ℤ)
    (final_holdout_result : BacktestResult K) (selection_oos_result : Option (BacktestResult K))
    (scenario_report regime_report : JsonValue K) :
    ((build_capacity_report m rows model baseline_edge_bps max_participation_rate
          multipliers).passed = true
        ↔ ∃ result ∈ evaluate_validation_gate_spec final_holdout_result selection_oos_result
            (capacity_report_fields (build_capacity_report m rows model baseline_edge_bps
              max_participation_rate multipliers)) scenario_report regime_report {},
          result.name = "capacity_5x" ∧ result.passed = true)
      ↔ VerdictsAgree m model
        (ladder_inputs m rows model baseline_edge_bps max_participation_rate) multipliers := by
  have hgap : (0 : K) < 1 / 2 / 10 ^ 12 := by norm_num
  rw [capacity_report_passed_iff, row_reasons_five, capacity_gate_passes_iff
    ((ladder_inputs m rows model baseline_edge_bps max_participation_rate).row m model)
    (fun _ => rfl) _ rfl final_holdout_result selection_oos_result scenario_report regime_report]
  show ((5 ∈ multipliers → _) ↔ 5 ∈ multipliers ∧ pyRound _ 12 < 1 / 4 ∧ 19 / 20 ≤ pyRound _ 12) ↔ _
  rw [rounded_erosion_lt_iff, le_rounded_fill_iff]
  generalize ladder_inputs m rows model baseline_edge_bps max_participation_rate = inputs
  constructor
  · intro hagree
    have hfive : 5 ∈ multipliers := by
      by_contra hnone
      exact hnone (hagree.mp fun h => absurd h hnone).1
    refine ⟨hfive, ?_, ?_⟩
    · -- in both gaps one verdict passes and the other does not
      rintro ⟨hlow, hhigh, hfills⟩
      exact absurd (hagree.mp fun _ => ⟨hhigh, hfills⟩).2.1 hlow.not_gt
    · rintro ⟨hlittle, hlow, hhigh⟩
      exact absurd (hagree.mpr ⟨hfive, hlittle, hlow⟩ hfive).2 hhigh.not_ge
  · rintro ⟨hfive, hnot_erosion, hnot_fill⟩
    constructor
    · intro hpassed
      obtain ⟨hlittle, hfills⟩ := hpassed hfive
      refine ⟨hfive, lt_of_not_ge fun hlow => hnot_erosion ⟨hlow, hlittle, hfills⟩, ?_⟩
      exact (sub_le_self _ hgap.le).trans hfills
    · rintro ⟨-, hlittle, hfills⟩ _
      refine ⟨(hlittle.trans_le (sub_le_self _ hgap.le)).le, ?_⟩
      exact le_of_not_gt fun hhigh => hnot_fill ⟨hlittle, hfills, hhigh⟩

end Verdicts

/-! ## Orders that cost nothing -/

/-- A model without costs. -/
def costless_model : CalibrationModel ℚ where
  model_version := "cost-calibration"
  source_model_version := "cost-v1"
  status := "usable"
  sample_count := 200
  bucket_counts := ∅
  square_root_impact_bps := 0
  spread_coefficient := 0
  volatility_coefficient := 0
  latency_coefficient := 0
  funding_window_bps := 0
  queue_fill_coefficient := 1
  max_participation_rate := 1
  notes := []

/-- An order of which the given part is filled. -/
def filled_order (fill_completion_rate : ℚ) : OrderTelemetryMeasurement ℚ where
  symbol := "BTCUSDT"
  regime := "trend"
  funding_window := false
  participation_rate := 0
  sqrt_q_over_adv := 0
  fill_completion_rate := fill_completion_rate
  realized_vs_modeled_fill_bps := 0
  spread_bps := 0
  vol_15m := 0
  latency_rtt_ms := 0
  maker_ratio := 0

/-- A holdout without trades. -/
def idle_holdout : BacktestResult ℚ where
  trade_count := 0
  win_rate := 0
  gross_pnl := 0
  net_pnl := 0
  fee_spend := 0
  funding_spend := 0
  sharpe := 0
  sortino := 0
  max_drawdown := 0
  equity_curve := []
  liquidation_events := []
  execution_pressure_summary := none

/-- Complete fills at no cost pass both. -/
theorem capacity_verdicts_agree_filled :
    (build_capacity_report PyMath.rat [filled_order 1] costless_model 10 none [1, 2, 5, 10]).passed
        = true
      ↔ ∃ result ∈ evaluate_validation_gate_spec idle_holdout none
          (capacity_report_fields (build_capacity_report PyMath.rat [filled_order 1] costless_model
            10 none [1, 2, 5, 10])) .null .null {},
        result.name = "capacity_5x" ∧ result.passed = true :=
  (capacity_verdicts_agree_iff PyMath.rat [filled_order 1] costless_model 10 none [1, 2, 5, 10]
    idle_holdout none .null .null).mpr
    ⟨by decide, by decide +kernel, by decide +kernel⟩

/-- Fills a tenth of a unit of the twelfth digit below their limit fail the report and pass
the gate; a ladder without the row passes the report and fails the gate. -/
theorem capacity_verdicts_differ :
    ((build_capacity_report PyMath.rat [filled_order 0.9499999999999] costless_model 10 none
          [1, 2, 5, 10]).passed = false
        ∧ ∃ result ∈ evaluate_validation_gate_spec idle_holdout none
            (capacity_report_fields (build_capacity_report PyMath.rat [filled_order 0.9499999999999]
              costless_model 10 none [1, 2, 5, 10])) .null .null {},
          result.name = "capacity_5x" ∧ result.passed = true)
      ∧ (build_capacity_report PyMath.rat [filled_order 1] costless_model 10 none
          [1, 2, 10]).passed = true
      ∧ ¬ ∃ result ∈ evaluate_validation_gate_spec idle_holdout none
            (capacity_report_fields (build_capacity_report PyMath.rat [filled_order 1]
              costless_model 10 none [1, 2, 10])) .null .null {},
          result.name = "capacity_5x" ∧ result.passed = true := by
  refine ⟨⟨?_, ?_⟩, ?_, ?_⟩
  · decide +kernel
  · decide +kernel
  · decide +kernel
  · decide +kernel

end ProofAlpha.Calibration
