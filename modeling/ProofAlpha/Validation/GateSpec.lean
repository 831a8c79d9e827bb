/-
The hard gates of a validation: `validation/gate_spec.py`.

A report is a decoded JSON value; a report object is read by the names of its
fields, as the dict of its fields is.
-/
import ProofAlpha.Backtest.Simulator
import ProofAlpha.Lib.PyDict
import ProofAlpha.Lib.PyJson

set_option autoImplicit false

namespace ProofAlpha.Validation

open ProofAlpha.Lib
open ProofAlpha.Backtest (BacktestResult)

/-- `ValidationGateResult`. -/
structure ValidationGateResult (K : Type) where
  name : String
  passed : Bool
  actual : JsonValue K
  threshold : JsonValue K
  severity : String
  reason : String
  evidence_refs : List String

/-- `ValidationGateSpec`. -/
structure ValidationGateSpec (K : Type) [Field K] where
  holdout_sharpe_floor : K := 1
  final_holdout_calmar_floor : K := 3 / 4
  holdout_drawdown_cap : K := -1 / 5
  capacity_5x_max_edge_degradation : K := 1 / 4
  capacity_5x_min_fill_completion : K := 19 / 20
  turnover_budget_required : Bool := true
  min_oos_trades_required : Bool := true
  min_oos_trades : ℤ := 120
  scenario_pass_matrix_required : Bool := true
  regime_pass_matrix_required : Bool := true

/-! ## Fields of a report -/

section Fields

variable {K : Type}

/-- `_field`. -/
def report_field (report : JsonValue K) (name : String) : JsonValue K :=
  match report with
  | .dict fields => JsonObject.get fields name
  | _ => .null

/-- `_bool_field`. -/
def bool_field (report : JsonValue K) (name : String) : Option Bool :=
  match report_field report name with
  | .bool value => some value
  | _ => none

/-- `_scenario_matrix_passed`. -/
def scenario_matrix_passed (report : JsonValue K) : Option Bool :=
  let explicit := bool_field report "passed"
  if explicit = some false then some false
  else
    match report_field report "regime_scenario_pass_matrix" with
    | .dict (row :: rows) =>
        some ((row :: rows).all fun entry =>
          match entry.2 with
          | .dict values => values.all fun value => is_true value.2
          | value => is_true value)
    | _ => explicit

/-- `_report_passed`. -/
def report_passed (report : JsonValue K) : Option Bool :=
  match bool_field report "passed" with
  | some explicit => some explicit
  | none =>
      match report_field report "regime_pass_matrix" with
      | .dict (row :: rows) => some ((row :: rows).all fun entry => is_true entry.2)
      | _ => none

/-- A flag or `None` as a JSON value. -/
def json_flag : Option Bool → JsonValue K
  | some flag => .bool flag
  | none => .null

/-- A number or `None` as a JSON value. -/
def json_number : Option K → JsonValue K
  | some x => .float x
  | none => .null

variable [Field K] [LinearOrder K]

omit [LinearOrder K] in
/-- `_float_field`. -/
def float_field (report : JsonValue K) (name : String) : Option K :=
  match report_field report name with
  | .int n => some n
  | .float x => some x
  | _ => none

variable [FloorRing K]

/-- The entry of the row of a report whose multiplier is 5. -/
def row_5x (report : JsonValue K) (name : String) : Option K :=
  match report_field report "rows" with
  | .list rows =>
      (rows.find? fun row => truncate ((float_field row "multiplier").getD 0) = 5).bind fun row =>
        float_field row name
  | _ => none

/-- `_capacity_5x_edge_degradation`. -/
def capacity_5x_edge_degradation (report : JsonValue K) : Option K :=
  ((float_field report "capacity_5x_edge_erosion").or
    (float_field report "capacity_5x_edge_degradation")).or (row_5x report "edge_erosion_ratio")

/-- `_capacity_5x_fill_completion`. -/
def capacity_5x_fill_completion (report : JsonValue K) : Option K :=
  (float_field report "capacity_5x_fill_completion").or
    (row_5x report "modeled_fill_completion_rate")

end Fields

/-! ## The gates -/

section Gates

variable {K : Type}

/-- `_gate`. -/
def gate (name : String) (actual threshold : JsonValue K) (passed : Bool) (reason : String)
    (evidence_refs : List String) : ValidationGateResult K where
  name := name
  passed := passed
  actual := actual
  threshold := threshold
  severity := "hard"
  reason := if passed then "" else reason
  evidence_refs := evidence_refs

/-- `gate_results_to_dict`. -/
def gate_results_to_dict (results : List (ValidationGateResult K)) : Dict String Bool :=
  results.foldl (fun gates result => gates.insert result.name result.passed) ∅

variable [Field K] [LinearOrder K] [FloorRing K]

/-- `compute_final_holdout_calmar`. -/
def compute_final_holdout_calmar (result : BacktestResult K) : K :=
  let drawdown := |result.max_drawdown|
  if drawdown ≤ 1e-12 then if 0 < result.net_pnl then 999 else 0
  else pyRound (result.net_pnl / drawdown) 12

/-- `evaluate_validation_gate_spec`. -/
def evaluate_validation_gate_spec (final_holdout_result : BacktestResult K)
    (selection_oos_result : Option (BacktestResult K))
    (capacity_report scenario_report regime_report : JsonValue K) (gate_spec : ValidationGateSpec K) :
    List (ValidationGateResult K) :=
  let calmar := compute_final_holdout_calmar final_holdout_result
  let min_oos_actual : ℕ := (selection_oos_result.getD final_holdout_result).trade_count
  let capacity_edge := capacity_5x_edge_degradation capacity_report
  let capacity_fill := capacity_5x_fill_completion capacity_report
  let turnover_within_budget := bool_field capacity_report "turnover_within_budget"
  let scenario_passed := scenario_matrix_passed scenario_report
  let regime_passed := report_passed regime_report
  [gate "final_holdout_sharpe" (.float final_holdout_result.sharpe)
      (.float gate_spec.holdout_sharpe_floor)
      (gate_spec.holdout_sharpe_floor ≤ final_holdout_result.sharpe)
      "final_holdout_sharpe_below_floor" ["holdout_summary"],
    gate "final_holdout_calmar" (.float calmar) (.float gate_spec.final_holdout_calmar_floor)
      (gate_spec.final_holdout_calmar_floor ≤ calmar)
      "final_holdout_calmar_below_floor" ["holdout_summary"],
    gate "final_holdout_drawdown" (.float final_holdout_result.max_drawdown)
      (.float gate_spec.holdout_drawdown_cap)
      (gate_spec.holdout_drawdown_cap ≤ final_holdout_result.max_drawdown)
      "final_holdout_drawdown_breached_cap" ["holdout_summary"],
    gate "capacity_5x" (json_number capacity_edge)
      (.float gate_spec.capacity_5x_max_edge_degradation)
      (match capacity_edge, capacity_fill with
        | some edge, some fill => edge < gate_spec.capacity_5x_max_edge_degradation
            && gate_spec.capacity_5x_min_fill_completion ≤ fill
        | _, _ => false)
      "capacity_5x_degradation_or_fill_failed" ["capacity_report"]]
  ++ (if gate_spec.turnover_budget_required then
      [gate "turnover_budget" (json_flag turnover_within_budget) (.bool true)
        (turnover_within_budget = some true)
        (if turnover_within_budget = some false then "turnover_budget_exceeded"
          else "turnover_budget_missing")
        ["capacity_report"]]
    else [])
  ++ (if gate_spec.min_oos_trades_required then
      [gate "min_oos_trades" (.int min_oos_actual) (.int gate_spec.min_oos_trades)
        (gate_spec.min_oos_trades ≤ min_oos_actual)
        "min_oos_trades_below_floor" ["selection_oos_summary", "holdout_summary"]]
    else [])
  ++ (if gate_spec.scenario_pass_matrix_required then
      [gate "scenario_pass_matrix" (json_flag scenario_passed) (.bool true)
        (scenario_passed = some true)
        "scenario_pass_matrix_failed" ["scenario_report", "regime_scenario_pass_matrix"]]
    else [])
  ++ (if gate_spec.regime_pass_matrix_required then
      [gate "regime_pass_matrix" (json_flag regime_passed) (.bool true)
        (regime_passed = some true)
        "regime_pass_matrix_failed" ["regime_report"]]
    else [])

end Gates

end ProofAlpha.Validation
