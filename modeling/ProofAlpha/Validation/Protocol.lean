/-
The validation protocol: `validation/protocol.py`, `run_validation_protocol`.

The results, statistics and reports it computes on the three windows are its
`ValidationEvidence`; what is modelled is what it makes of them.
-/
import ProofAlpha.Validation.GateSpec

set_option autoImplicit false

namespace ProofAlpha.Validation

open ProofAlpha.Lib
open ProofAlpha.Backtest (BacktestResult)

/-- `PromotionDecision`. -/
structure PromotionDecision where
  decision : String
  reasons : List String
  deriving DecidableEq

/-- `PromotionDecision("accept", [])`. -/
def PromotionDecision.accept : PromotionDecision := ⟨"accept", []⟩

/-- `PromotionDecision("reject", reasons)`. -/
def PromotionDecision.reject (reasons : List String) : PromotionDecision := ⟨"reject", reasons⟩

@[simp] theorem accept_decision : PromotionDecision.accept.decision = "accept" := rfl

@[simp] theorem reject_decision (reasons : List String) :
    (PromotionDecision.reject reasons).decision = "reject" := rfl

/-- `ValidationStageResult`. -/
structure ValidationStageResult where
  stage_name : String
  passed : Bool
  reasons : List String

/-- The dict of `resolve_cpcv_config`; a key that is missing reads as its default. -/
structure CpcvConfig where
  method : String := ""
  n_blocks : ℤ := 0
  n_test_blocks : ℤ := 0
  purge_bars : ℤ := 0
  embargo_bars : ℤ := 0

/-- `ValidationProtocol`. -/
structure ValidationProtocol (K : Type) where
  status : String
  stage_results : List ValidationStageResult
  deflated_sharpe_ratio : Option K
  pbo_score : Option K
  spa_pvalue : Option K
  cpcv_config : CpcvConfig
  validation_gate_results : Dict String Bool
  validation_gate_details : List (ValidationGateResult K)
  promotion_decision : PromotionDecision

/-- What a protocol computes of its windows: the three results, the Sharpe
evidence, the two p-values and the reports. There is no `pbo` without a
performance matrix, and there are no `spa_pvalues` when the test is skipped. -/
structure ValidationEvidence (K : Type) where
  in_sample_result : BacktestResult K
  walk_forward_result : BacktestResult K
  final_holdout_result : BacktestResult K
  selection_oos_bars : ℕ
  sample_count : ℕ
  minimum_backtest_length : ℕ
  probabilistic_sharpe_ratio : K
  deflated_sharpe_ratio : K
  in_sample_pvalue : K
  walk_forward_pvalue : K
  pbo : Option K
  spa_pvalues : Option (List K)
  capacity_report : JsonValue K
  scenario_report : JsonValue K
  regime_report : JsonValue K

/-- The options of `run_validation_protocol`. -/
structure ProtocolOptions (K : Type) [Field K] where
  permutation_pvalue_threshold : K := 1 / 100
  walk_forward_relaxed_pvalue_threshold : K := 1 / 20
  walk_forward_relaxed_candle_limit : ℕ := 30
  deflated_sharpe_ratio_threshold : K := 19 / 20
  gate_probabilistic_sharpe_ratio : Bool := false
  gate_min_backtest_length : Bool := false
  probabilistic_sharpe_ratio_threshold : K := 19 / 20
  holdout_sharpe_floor : K := 1
  holdout_drawdown_cap : K := -1 / 5
  holdout_calmar_floor : K := 3 / 4
  validation_gate_spec : Option (ValidationGateSpec K) := none
  n_blocks : ℤ := 10
  n_test_blocks : ℤ := 2
  purge_bars : Option ℤ := none
  embargo_bars : ℤ := 0
  feature_lookback_bars : ℤ := 0
  barrier_horizon_bars : ℤ := 0
  holding_horizon_bars : ℤ := 0

section Protocol

variable {K : Type} [Field K] [LinearOrder K]

omit [LinearOrder K] in
/-- `resolve_cpcv_config`. -/
def resolve_cpcv_config (opts : ProtocolOptions K) : CpcvConfig :=
  let resolved_purge := max (max (max (opts.purge_bars.getD 0) opts.feature_lookback_bars)
    opts.barrier_horizon_bars) opts.holding_horizon_bars
  { method := "combinatorial_purged_cv"
    n_blocks := max 2 opts.n_blocks
    n_test_blocks := max 1 opts.n_test_blocks
    purge_bars := max 0 resolved_purge
    embargo_bars := max 0 opts.embargo_bars }

omit [LinearOrder K] in
/-- The gate spec of a protocol. -/
def prd_gate_spec (opts : ProtocolOptions K) : ValidationGateSpec K :=
  opts.validation_gate_spec.getD
    { holdout_sharpe_floor := opts.holdout_sharpe_floor
      final_holdout_calmar_floor := opts.holdout_calmar_floor
      holdout_drawdown_cap := opts.holdout_drawdown_cap }

omit [LinearOrder K] in
/-- `relaxed_threshold_applied`. -/
def relaxed_threshold_applied (evidence : ValidationEvidence K) (opts : ProtocolOptions K) : Bool :=
  evidence.selection_oos_bars < opts.walk_forward_relaxed_candle_limit

omit [LinearOrder K] in
/-- `walk_forward_permutation_threshold`. -/
def walk_forward_permutation_threshold (evidence : ValidationEvidence K)
    (opts : ProtocolOptions K) : K :=
  if relaxed_threshold_applied evidence opts then opts.walk_forward_relaxed_pvalue_threshold
  else opts.permutation_pvalue_threshold

variable [FloorRing K]

/-- `prd_gate_results`. -/
def prd_gate_results (evidence : ValidationEvidence K) (opts : ProtocolOptions K) :
    List (ValidationGateResult K) :=
  evaluate_validation_gate_spec evidence.final_holdout_result (some evidence.walk_forward_result)
    evidence.capacity_report evidence.scenario_report evidence.regime_report (prd_gate_spec opts)

/-- `gate_results`. -/
def gate_results (evidence : ValidationEvidence K) (opts : ProtocolOptions K) :
    List (String × Bool) :=
  let prd_gate_booleans := gate_results_to_dict (prd_gate_results evidence opts)
  let prd (name : String) (default : Bool) := (prd_gate_booleans.lookup name).getD default
  [("minimum_backtest_length", if opts.gate_min_backtest_length then
      decide (evidence.minimum_backtest_length ≤ evidence.sample_count) else true),
    ("in_sample_excellence", 0 < evidence.in_sample_result.sharpe),
    ("in_sample_permutation", evidence.in_sample_pvalue ≤ opts.permutation_pvalue_threshold),
    ("deflated_sharpe_ratio",
      opts.deflated_sharpe_ratio_threshold ≤ evidence.deflated_sharpe_ratio),
    ("pbo", match evidence.pbo with
      | none => true
      | some pbo => pbo ≤ 0.2),
    ("probabilistic_sharpe_ratio", if opts.gate_probabilistic_sharpe_ratio then
      decide (opts.probabilistic_sharpe_ratio_threshold ≤ evidence.probabilistic_sharpe_ratio)
      else true),
    ("spa", match evidence.spa_pvalues with
      | none => true
      | some pvalues => pvalues.all fun value => value ≤ 0.05),
    ("walk_forward_permutation",
      evidence.walk_forward_pvalue ≤ walk_forward_permutation_threshold evidence opts),
    ("final_holdout_excellence", prd "final_holdout_sharpe" false),
    ("final_holdout_calmar", prd "final_holdout_calmar" false),
    ("final_holdout_drawdown", prd "final_holdout_drawdown" false),
    ("capacity_5x", prd "capacity_5x" false),
    ("turnover_budget", prd "turnover_budget" true),
    ("min_oos_trades", prd "min_oos_trades" true),
    ("scenario_pass_matrix", prd "scenario_pass_matrix" true),
    ("regime_pass_matrix", prd "regime_pass_matrix" true)]

omit [LinearOrder K] [FloorRing K] in
/-- `gate_enforcement`. -/
def gate_enforcement (evidence : ValidationEvidence K) (opts : ProtocolOptions K) :
    List (String × Bool) :=
  let relaxed := relaxed_threshold_applied evidence opts
  [("minimum_backtest_length", opts.gate_min_backtest_length),
    ("in_sample_excellence", true),
    ("in_sample_permutation", ! relaxed),
    ("deflated_sharpe_ratio", ! relaxed),
    ("pbo", evidence.pbo.isSome),
    ("probabilistic_sharpe_ratio", opts.gate_probabilistic_sharpe_ratio && ! relaxed),
    ("spa", evidence.spa_pvalues.isSome),
    ("walk_forward_permutation", ! relaxed),
    ("final_holdout_excellence", true),
    ("final_holdout_calmar", true),
    ("final_holdout_drawdown", true),
    ("capacity_5x", true),
    ("turnover_budget", true),
    ("min_oos_trades", true),
    ("scenario_pass_matrix", true),
    ("regime_pass_matrix", true)]

omit [LinearOrder K] [FloorRing K] in
/-- `required_gate_names`. -/
def required_gate_names (opts : ProtocolOptions K) : List String :=
  (if opts.gate_min_backtest_length then ["minimum_backtest_length"] else [])
  ++ ["in_sample_excellence", "in_sample_permutation", "deflated_sharpe_ratio", "pbo", "spa",
    "walk_forward_permutation", "final_holdout_excellence", "final_holdout_calmar",
    "final_holdout_drawdown", "capacity_5x", "turnover_budget", "min_oos_trades",
    "scenario_pass_matrix", "regime_pass_matrix"]
  ++ (if opts.gate_probabilistic_sharpe_ratio then ["probabilistic_sharpe_ratio"] else [])

/-- `gates.get(name, False)`. -/
def gate_flag (gates : List (String × Bool)) (name : String) : Bool :=
  (gates.lookup name).getD false

/-- `failed_gates`: the required gates that are enforced and do not pass. -/
def failed_gates (evidence : ValidationEvidence K) (opts : ProtocolOptions K) : List String :=
  (required_gate_names opts).filter fun name =>
    gate_flag (gate_enforcement evidence opts) name && ! gate_flag (gate_results evidence opts) name

/-- `soft_failed_gates`: those that are not enforced and do not pass. -/
def soft_failed_gates (evidence : ValidationEvidence K) (opts : ProtocolOptions K) : List String :=
  (required_gate_names opts).filter fun name =>
    ! gate_flag (gate_enforcement evidence opts) name
      && ! gate_flag (gate_results evidence opts) name

/-- A stage that passes when its gates do, and names those that do not. -/
def gate_stage (gates : List (String × Bool)) (stage_name : String) (names : List String) :
    ValidationStageResult where
  stage_name := stage_name
  passed := names.all (gate_flag gates)
  reasons := names.filter fun name => ! gate_flag gates name

/-- `_permutation_stage_result`. -/
def permutation_stage_result (stage_name : String) (pvalue threshold : K) :
    ValidationStageResult where
  stage_name := stage_name
  passed := pvalue ≤ threshold
  reasons := if pvalue ≤ threshold then [] else [stage_name]

/-- The stages of a protocol. -/
def protocol_stages (evidence : ValidationEvidence K) (opts : ProtocolOptions K) :
    List ValidationStageResult :=
  let gates := gate_results evidence opts
  let details := prd_gate_results evidence opts
  [gate_stage gates "minimum_backtest_length" ["minimum_backtest_length"],
    gate_stage gates "in_sample_excellence" ["in_sample_excellence"],
    permutation_stage_result "in_sample_permutation" evidence.in_sample_pvalue
      opts.permutation_pvalue_threshold,
    gate_stage gates "walk_forward"
      (if opts.gate_probabilistic_sharpe_ratio then
        ["deflated_sharpe_ratio", "probabilistic_sharpe_ratio"] else ["deflated_sharpe_ratio"]),
    gate_stage gates "pbo" ["pbo"],
    gate_stage gates "spa" ["spa"],
    permutation_stage_result "walk_forward_permutation" evidence.walk_forward_pvalue
      (walk_forward_permutation_threshold evidence opts),
    gate_stage gates "final_holdout"
      ["final_holdout_excellence", "final_holdout_calmar", "final_holdout_drawdown"],
    { stage_name := "prd_validation_gate_spec"
      passed := details.all fun result => result.passed
      reasons := (details.filter fun result => ! result.passed).map fun result => result.name }]

/-- `max(values, default=None)`. -/
def max_or_none (values : List K) : Option K := values.max?

/-- `run_validation_protocol`, from its evidence on. -/
def run_validation_protocol (evidence : ValidationEvidence K) (opts : ProtocolOptions K) :
    ValidationProtocol K :=
  let failed := failed_gates evidence opts
  let soft_failed := soft_failed_gates evidence opts
  { status := if failed ≠ [] then "failed" else if soft_failed ≠ [] then "warning" else "passed"
    stage_results := protocol_stages evidence opts
    deflated_sharpe_ratio := some evidence.deflated_sharpe_ratio
    pbo_score := evidence.pbo
    spa_pvalue := max_or_none (evidence.spa_pvalues.getD [])
    cpcv_config := resolve_cpcv_config opts
    validation_gate_results := (gate_results evidence opts).foldl
      (fun gates gate => gates.insert gate.1 gate.2) ∅
    validation_gate_details := prd_gate_results evidence opts
    promotion_decision :=
      if failed ≠ [] then PromotionDecision.reject failed else PromotionDecision.accept }

end Protocol

end ProofAlpha.Validation
