/-
The promotion gates of the Binance USD-M model and the stage they append to a
validation: `validation/promotion.py`.
-/
import ProofAlpha.Lib.FirstBy
import ProofAlpha.Validation.Protocol

set_option autoImplicit false

namespace ProofAlpha.Validation

open ProofAlpha.Lib
open ProofAlpha.Backtest (BacktestResult)

/-- `BINANCE_USDM_V3_EXECUTION_MODEL_ID`. -/
def BINANCE_USDM_V3_EXECUTION_MODEL_ID : String := "binance_usdm_v3"

/-- `V3_BASELINE_SET`. -/
def V3_BASELINE_SET : List String :=
  ["no_trade", "always_long", "always_short", "simple_1h_momentum", "simple_1h_breakout",
    "simple_carry_funding"]

/-- `V3PromotionInputs`; of its snapshot the venue and the provenance are read. -/
structure V3PromotionInputs (K : Type) where
  snapshot_venue : String
  snapshot_provenance : JsonObject K
  validation_protocol : ValidationProtocol K
  holdout_result : BacktestResult K
  execution_model_id : String
  signal_timeframe : String
  execution_timeframe : String
  walk_forward_fold_count : ℤ
  position_episode_count : ℤ
  months_of_data : K
  cpcv_metrics : JsonObject K
  baseline_results : Dict String (BacktestResult K)
  capacity_report : JsonObject K
  parameter_surface : JsonObject K
  bootstrap_report : JsonObject K
  regime_report : JsonObject K
  reproducible : Bool
  execution_rule_failures : List String

/-- `V3PromotionGateBundle`. -/
structure V3PromotionGateBundle where
  status : String
  decision : PromotionDecision
  primary_failure_code : Option String
  secondary_failure_codes : List String
  gate_results : List (String × Bool)
  baseline_set : List String

/-- The mapping of `_failure_codes`. -/
def failure_code : List (String × String) :=
  [("venue_model", "venue_model_mismatch"),
    ("validation_method", "cpcv_fail"),
    ("data_length", "data_gap"),
    ("walk_forward_folds", "insufficient_trades"),
    ("trade_or_episode_count", "insufficient_trades"),
    ("positive_post_cost", "negative_post_cost"),
    ("sharpe", "holdout_fail"),
    ("calmar", "holdout_fail"),
    ("max_drawdown", "dd_fail"),
    ("turnover_budget", "capacity_fail"),
    ("capacity_5x", "capacity_fail"),
    ("dsr", "dsr_fail"),
    ("pbo", "pbo_fail"),
    ("spa", "spa_fail"),
    ("cpcv", "cpcv_fail"),
    ("no_liquidation", "liquidation_fail"),
    ("execution_rules", "execution_rule_fail"),
    ("baseline_set", "holdout_fail"),
    ("parameter_plateau", "slippage_fragile"),
    ("bootstrap_monte_carlo", "holdout_fail"),
    ("regime_conditional", "regime_specific_only"),
    ("reproducibility", "contract_error")]

/-- Every gate passes. -/
def AllGatesPass (gates : List (String × Bool)) : Prop := ∀ gate ∈ gates, gate.2 = true

instance (gates : List (String × Bool)) : Decidable (AllGatesPass gates) :=
  inferInstanceAs (Decidable (∀ gate ∈ gates, gate.2 = true))

/-- `_failure_codes`: the codes of the gates that do not pass, each once. -/
def failure_codes (gates : List (String × Bool)) : List String :=
  first_by id ((gates.filter fun gate => ! gate.2).map fun gate =>
    (failure_code.lookup gate.1).getD "")

section Gates

variable {K : Type} [Field K] [LinearOrder K]

/-- `_calmar`. -/
def v3_calmar (result : BacktestResult K) : K :=
  let drawdown := |result.max_drawdown|
  if drawdown ≤ 1e-12 then if 0 < result.net_pnl then 999 else 0
  else result.net_pnl / drawdown

/-- `_baseline_set_present`. -/
def baseline_set_present (results : Dict String (BacktestResult K)) : Bool :=
  V3_BASELINE_SET.all fun name => name ∈ results

/-- The comparison of a number that may be missing. -/
def number_satisfies (value : Option K) (test : K → Bool) : Bool :=
  match value with
  | some x => test x
  | none => false

/-- The gate results of `evaluate_v3_promotion_gates`. -/
def v3_gate_results (inputs : V3PromotionInputs K) : List (String × Bool) :=
  let validation := inputs.validation_protocol
  let holdout := inputs.holdout_result
  let capacity_number (name : String) := float_field (.dict inputs.capacity_report) name
  let cpcv_number (name : String) := float_field (.dict inputs.cpcv_metrics) name
  [("venue_model",
      pyLower inputs.snapshot_venue == "binance"
        && inputs.execution_model_id == BINANCE_USDM_V3_EXECUTION_MODEL_ID
        && inputs.signal_timeframe == "1h" && inputs.execution_timeframe == "15m"),
    ("validation_method",
      validation.cpcv_config.method == "combinatorial_purged_cv"
        && decide (8 ≤ validation.cpcv_config.n_blocks ∧ validation.cpcv_config.n_blocks < 17)
        && decide (validation.cpcv_config.n_test_blocks ∈ [2, 3])
        && decide (0 ≤ validation.cpcv_config.purge_bars)
        && decide (0 ≤ validation.cpcv_config.embargo_bars)),
    ("data_length", 18 ≤ inputs.months_of_data
        || truthy (JsonObject.get inputs.snapshot_provenance "all_data_since_listing")),
    ("walk_forward_folds", 8 ≤ inputs.walk_forward_fold_count),
    ("trade_or_episode_count", 120 ≤ holdout.trade_count || 30 ≤ inputs.position_episode_count),
    ("positive_post_cost", 0 < holdout.net_pnl),
    ("sharpe", 1 ≤ holdout.sharpe),
    ("calmar", 0.75 ≤ v3_calmar holdout),
    ("max_drawdown", -0.20 ≤ holdout.max_drawdown),
    ("turnover_budget", truthy (JsonObject.get_or inputs.capacity_report "turnover_within_budget"
      (.bool false))),
    ("capacity_5x",
      number_satisfies (capacity_number "capacity_5x_edge_erosion") (fun x => x < 0.25)
        && number_satisfies (capacity_number "capacity_5x_fill_completion") (fun x => 0.95 ≤ x)),
    ("dsr", number_satisfies validation.deflated_sharpe_ratio fun x => 0.95 ≤ x),
    ("pbo", number_satisfies validation.pbo_score fun x => x < 0.20),
    ("spa", number_satisfies validation.spa_pvalue fun x => x < 0.05),
    ("cpcv", number_satisfies (cpcv_number "median_sharpe") (fun x => 0.75 < x)
      && number_satisfies (cpcv_number "p10_sharpe") (fun x => 0 < x)),
    ("no_liquidation", holdout.liquidation_events.isEmpty),
    ("execution_rules", inputs.execution_rule_failures.isEmpty),
    ("baseline_set", baseline_set_present inputs.baseline_results),
    ("parameter_plateau",
      truthy (JsonObject.get_or inputs.parameter_surface "plateau_ok" (.bool false))),
    ("bootstrap_monte_carlo",
      truthy (JsonObject.get_or inputs.bootstrap_report "passed" (.bool false))),
    ("regime_conditional", truthy (JsonObject.get_or inputs.regime_report "passed" (.bool false))),
    ("reproducibility", inputs.reproducible)]

/-- `evaluate_v3_promotion_gates`. -/
def evaluate_v3_promotion_gates (inputs : V3PromotionInputs K) : V3PromotionGateBundle :=
  let gate_results := v3_gate_results inputs
  let failed_codes := failure_codes gate_results
  let status := if failed_codes = [] then "passed" else "failed"
  { status := status
    decision := if status = "passed" then PromotionDecision.accept
      else PromotionDecision.reject failed_codes
    primary_failure_code := failed_codes.head?
    secondary_failure_codes := failed_codes.tail
    gate_results := gate_results
    baseline_set := V3_BASELINE_SET }

omit [Field K] [LinearOrder K] in
/-- `append_v3_gate_stage`. -/
def append_v3_gate_stage (validation : ValidationProtocol K) (bundle : V3PromotionGateBundle) :
    ValidationProtocol K :=
  { validation with
    status := if bundle.status = "passed" ∧ validation.status = "passed" then "passed" else "failed"
    stage_results := validation.stage_results ++
      [{ stage_name := "binance_usdm_v3_promotion"
         passed := bundle.status = "passed"
         reasons := if bundle.status = "passed" then [] else bundle.decision.reasons }]
    validation_gate_results := bundle.gate_results.foldl
      (fun gates gate => gates.insert ("v3_" ++ gate.1) gate.2) validation.validation_gate_results
    promotion_decision :=
      if bundle.status ≠ "passed" then bundle.decision else validation.promotion_decision }

omit [Field K] [LinearOrder K] in
/-- No gate fails if and only if there is no failure code. -/
theorem failure_codes_eq_nil {gates : List (String × Bool)} :
    failure_codes gates = [] ↔ AllGatesPass gates := by
  have hnil : ∀ codes : List String, first_by id codes = [] ↔ codes = [] := by
    intro codes
    cases codes with
    | nil => simp [first_by]
    | cons code codes => simp [first_by]
  rw [failure_codes, hnil, List.map_eq_nil_iff, List.filter_eq_nil_iff]
  simp [AllGatesPass]

/-- The bundle passes, and accepts, when every gate does. -/
theorem evaluate_v3_promotion_gates_passed {inputs : V3PromotionInputs K}
    (h : AllGatesPass (v3_gate_results inputs)) :
    (evaluate_v3_promotion_gates inputs).status = "passed" := by
  unfold evaluate_v3_promotion_gates
  dsimp only
  rw [if_pos (failure_codes_eq_nil.mpr h)]

/-- Otherwise it fails, and rejects. -/
theorem evaluate_v3_promotion_gates_failed {inputs : V3PromotionInputs K}
    (h : ¬ AllGatesPass (v3_gate_results inputs)) :
    (evaluate_v3_promotion_gates inputs).status = "failed"
      ∧ (evaluate_v3_promotion_gates inputs).decision.decision = "reject" := by
  unfold evaluate_v3_promotion_gates
  dsimp only
  rw [if_neg fun hnil => h (failure_codes_eq_nil.mp hnil)]
  exact ⟨rfl, rfl⟩

end Gates

end ProofAlpha.Validation
