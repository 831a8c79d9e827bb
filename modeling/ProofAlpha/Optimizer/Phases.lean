/-
The phases of an optimisation run (`optimizer/phases.py`, `OvernightRunner`).

The evaluator is a function that may raise; a phase calls it on the strategy so far
and a candidate layer, and writes a record of what it answers. The directional phase
evaluates every candidate on the same strategy and adds the best accepted one; a
sequential phase adds every accepted candidate at once.
-/
import ProofAlpha.Config.Models
import ProofAlpha.Lib.Checks
import ProofAlpha.Validation.Protocol

set_option autoImplicit false

/-!
The decision on a candidate: `optimizer/promotion.py`, `evaluate_candidate`.
-/

namespace ProofAlpha.Optimizer

open ProofAlpha.Lib
open ProofAlpha.Backtest (BacktestResult)
open ProofAlpha.Validation (PromotionDecision)

variable {K : Type}

/-- `BootstrapReport`; the decision reads two of its figures. -/
structure BootstrapReport (K : Type) where
  median_net_profit : K
  worst_case_drawdown : K

variable [Field K] [LinearOrder K]

/-- The gates of `evaluate_candidate`, in order. -/
def rejection_reasons (incumbent_train incumbent_oos candidate_train candidate_oos :
    BacktestResult K) (bootstrap_report : BootstrapReport K) (min_oos_trades : ℤ)
    (position_leverage : K) : List String :=
  let effective_leverage := max 1 position_leverage
  let drawdown_kill_threshold := -0.25 * effective_leverage
  reason_if ((candidate_oos.trade_count : ℤ) < min_oos_trades) "min_oos_trades"
    ++ reason_if (|incumbent_train.max_drawdown| * 1.05 < |candidate_train.max_drawdown|)
      "train_drawdown_cap"
    ++ reason_if (candidate_oos.sharpe < incumbent_oos.sharpe * 0.95) "oos_sharpe_floor"
    ++ reason_if (bootstrap_report.worst_case_drawdown ≤ drawdown_kill_threshold)
      "bootstrap_kill_switch"
    ++ reason_if (! candidate_train.liquidation_events.isEmpty
        || ! candidate_oos.liquidation_events.isEmpty) "liquidation_events"

/-- `evaluate_candidate`. -/
def evaluate_candidate (incumbent_train incumbent_oos candidate_train candidate_oos :
    BacktestResult K) (bootstrap_report : BootstrapReport K) (min_oos_trades : ℤ)
    (position_leverage : K) : PromotionDecision :=
  let reasons := rejection_reasons incumbent_train incumbent_oos candidate_train candidate_oos
    bootstrap_report min_oos_trades position_leverage
  if ! reasons.isEmpty then .reject reasons
  else
    let incumbent_abs_dd := max |incumbent_oos.max_drawdown| 1e-9
    let candidate_floor_abs_dd := |bootstrap_report.worst_case_drawdown|
    let sharpe_gain :=
      (candidate_oos.sharpe - incumbent_oos.sharpe) / max |incumbent_oos.sharpe| 1e-9
    let floor_dd_improvement := (incumbent_abs_dd - candidate_floor_abs_dd) / incumbent_abs_dd
    let median_profit_gain :=
      (bootstrap_report.median_net_profit - incumbent_oos.net_pnl) / max |incumbent_oos.net_pnl| 1e-9
    if sharpe_gain < 0.02 ∧ floor_dd_improvement < 0.10 ∧ median_profit_gain < 0.05 then
      ⟨"wash", ["insufficient_improvement"]⟩
    else .accept

end ProofAlpha.Optimizer

namespace ProofAlpha.Optimizer

open ProofAlpha.Lib ProofAlpha.Config
open ProofAlpha.App (LayerFamily ParameterSet)
open ProofAlpha.Backtest (BacktestResult)
open ProofAlpha.Validation (PromotionDecision ValidationProtocol)

/-! ## The data -/

/-- `CandidateEvaluation`. -/
structure CandidateEvaluation (K : Type) where
  layer_name : String
  decision : PromotionDecision
  train_result : BacktestResult K
  oos_result : BacktestResult K
  bootstrap_report : BootstrapReport K
  selected_parameters : ParameterSet K := ∅
  permutation_count : ℤ := 1
  search_summary : List (JsonObject K) := []
  candidate_trials : List (JsonObject K) := []

/-- `PhaseRecord`. -/
structure PhaseRecord (K : Type) where
  phase_name : String
  layer_name : String
  decision : String
  accepted : Bool
  oos_sharpe : Option K
  selected_parameters : ParameterSet K
  permutation_count : ℤ
  search_summary : List (JsonObject K)
  candidate_trials : List (JsonObject K)

/-- `OvernightRunReport`. -/
structure OvernightRunReport (K : Type) where
  status : String
  final_strategy : StrategyGraph K
  phase_records : List (PhaseRecord K)
  holdout_decision : Option PromotionDecision
  final_evaluation : Option (CandidateEvaluation K)
  validation_protocol : Option (ValidationProtocol K)

/-- `Evaluator`. -/
abbrev Evaluator (K : Type) :=
  StrategyGraph K → LayerSpec K → Except String (CandidateEvaluation K)

/-- `ValidationExecutor`. -/
abbrev ValidationExecutor (K : Type) :=
  StrategyGraph K → List (PhaseRecord K) → Except String (ValidationProtocol K)

/-- `legacy_validation_protocol`. -/
def legacy_validation_protocol (K : Type) (decision : PromotionDecision) : ValidationProtocol K where
  status := "legacy_validation_missing"
  stage_results := []
  deflated_sharpe_ratio := none
  pbo_score := none
  spa_pvalue := none
  cpcv_config := {}
  validation_gate_results := ∅
  validation_gate_details := []
  promotion_decision := decision

section Runner

variable {K : Type} [Field K] [LinearOrder K]

/-- `evaluation.decision.decision == "accept"`. -/
def CandidateEvaluation.accepts (evaluation : CandidateEvaluation K) : Bool :=
  evaluation.decision.decision == "accept"

/-- The record of an evaluation. -/
def phase_record (phase_name layer_name decision : String) (accepted : Bool)
    (evaluation : CandidateEvaluation K) : PhaseRecord K where
  phase_name := phase_name
  layer_name := layer_name
  decision := decision
  accepted := accepted
  oos_sharpe := some evaluation.oos_result.sharpe
  selected_parameters := evaluation.selected_parameters
  permutation_count := evaluation.permutation_count
  search_summary := evaluation.search_summary
  candidate_trials := evaluation.candidate_trials

/-! ## The phases -/

/-- `best_layer` and `best_sharpe` after one more evaluation. -/
def keep_best_layer (best : Option (LayerSpec K × K))
    (item : LayerSpec K × CandidateEvaluation K) : Option (LayerSpec K × K) :=
  -- `continue`: a rejected candidate is passed over
  if ! item.2.accepts then best
  else match best with
    | none => some (item.1, item.2.oos_result.sharpe)
    | some (best_layer, best_sharpe) =>
        -- of equal ratios the first stays
        if best_sharpe < item.2.oos_result.sharpe then some (item.1, item.2.oos_result.sharpe)
        else some (best_layer, best_sharpe)

/-- The evaluations of candidates on one strategy. -/
def evaluate_layers (evaluator : Evaluator K) (incumbent : StrategyGraph K)
    (layers : List (LayerSpec K)) : Except String (List (LayerSpec K × CandidateEvaluation K)) :=
  layers.mapM fun layer => do
    let evaluation ← evaluator incumbent layer
    .ok (layer, evaluation)

/-- The strategy with the best layer, if there is one. -/
def with_best_layer (incumbent : StrategyGraph K) (best : Option (LayerSpec K × K)) :
    StrategyGraph K :=
  match best with
  | none => incumbent
  | some (best_layer, _) => incumbent.with_layer best_layer

/-- `run_directional_phase`. -/
def run_directional_phase (evaluator : Evaluator K) (incumbent : StrategyGraph K)
    (directional_layers : List (LayerSpec K)) : Except String (StrategyGraph K) := do
  let evaluations ← evaluate_layers evaluator incumbent directional_layers
  .ok (with_best_layer incumbent (evaluations.foldl keep_best_layer none))

/-- The record of a directional candidate: `accepted` compares names. -/
def directional_record (best : Option (LayerSpec K × K))
    (item : LayerSpec K × CandidateEvaluation K) : PhaseRecord K :=
  phase_record "phase-2" item.1.name item.2.decision.decision
    (best.any fun b => item.1.name == b.1.name) item.2

/-- `_run_directional_phase_with_records`. -/
def run_directional_phase_with_records (evaluator : Evaluator K) (incumbent : StrategyGraph K)
    (directional_layers : List (LayerSpec K)) (phase_records : List (PhaseRecord K)) :
    Except String (StrategyGraph K × List (PhaseRecord K)) := do
  let evaluations ← evaluate_layers evaluator incumbent directional_layers
  let best := evaluations.foldl keep_best_layer none
  .ok (with_best_layer incumbent best, phase_records ++ evaluations.map (directional_record best))

/-- `run_sequential_phase`. -/
def run_sequential_phase (evaluator : Evaluator K) (incumbent : StrategyGraph K)
    (candidate_layers : List (LayerSpec K)) : Except String (StrategyGraph K) :=
  candidate_layers.foldlM (fun current layer => do
    let evaluation ← evaluator current layer
    .ok (if evaluation.accepts then current.with_layer layer else current)) incumbent

/-- One pass of the loop of `_run_sequential_phase_with_records`. -/
def sequential_step (evaluator : Evaluator K) (phase_name : String)
    (s : StrategyGraph K × List (PhaseRecord K)) (layer : LayerSpec K) :
    Except String (StrategyGraph K × List (PhaseRecord K)) := do
  let evaluation ← evaluator s.1 layer
  .ok (if evaluation.accepts then s.1.with_layer layer else s.1,
    s.2 ++ [phase_record phase_name layer.name evaluation.decision.decision evaluation.accepts
      evaluation])

/-- `_run_sequential_phase_with_records`. -/
def run_sequential_phase_with_records (evaluator : Evaluator K) (incumbent : StrategyGraph K)
    (candidate_layers : List (LayerSpec K)) (phase_name : String)
    (phase_records : List (PhaseRecord K)) :
    Except String (StrategyGraph K × List (PhaseRecord K)) :=
  candidate_layers.foldlM (sequential_step evaluator phase_name) (incumbent, phase_records)

/-! ## The run -/

/-- The layer as which the backbone is evaluated. -/
def backbone_layer (strategy : StrategyGraph K) : LayerSpec K :=
  { name := strategy.backbone, family := .backbone }

/-- `_evaluate_current_strategy`. -/
def evaluate_current_strategy (evaluator : Evaluator K) (strategy : StrategyGraph K) :
    Except String (CandidateEvaluation K) :=
  evaluator strategy (strategy.layers.getLast?.getD (backbone_layer strategy))

/-- `if current.layers: final_evaluation = self._evaluate_current_strategy(current)`. -/
def refresh_evaluation (evaluator : Evaluator K) (current : StrategyGraph K)
    (final_evaluation : CandidateEvaluation K) : Except String (CandidateEvaluation K) :=
  if current.layers.isEmpty then .ok final_evaluation
  else evaluate_current_strategy evaluator current

/-- The end of a run: the validation of the final strategy. -/
def validated_report (validation_executor : Option (ValidationExecutor K))
    (current : StrategyGraph K) (phase_records : List (PhaseRecord K))
    (final_evaluation : CandidateEvaluation K) : Except String (OvernightRunReport K) := do
  match validation_executor with
  | none =>
      let validation_protocol := legacy_validation_protocol K .accept
      .ok ⟨"promoted", current, phase_records, some validation_protocol.promotion_decision,
        some final_evaluation, some validation_protocol⟩
  | some validation_executor =>
      let validation_protocol ← validation_executor current phase_records
      let holdout_decision := validation_protocol.promotion_decision
      .ok ⟨if holdout_decision.decision != "accept" then "blocked" else "promoted", current,
        phase_records, some holdout_decision, some final_evaluation, some validation_protocol⟩

/-- `OvernightRunner.run_pipeline`. -/
def run_pipeline (evaluator : Evaluator K) (incumbent : StrategyGraph K)
    (directional_layers known_good_filters custom_filters exit_layers : List (LayerSpec K))
    (validation_executor : Option (ValidationExecutor K)) :
    Except String (OvernightRunReport K) := do
  let backbone_evaluation ← evaluator incumbent (backbone_layer incumbent)
  -- a backbone without an edge ends the run
  if backbone_evaluation.oos_result.sharpe < 0.05 then
    .ok ⟨"aborted", incumbent,
      [phase_record "phase-1" incumbent.backbone "abort" false backbone_evaluation], none,
      some backbone_evaluation, none⟩
  else
    let phase_records := [phase_record "phase-1" incumbent.backbone
      backbone_evaluation.decision.decision false backbone_evaluation]
    -- the backbone's record is never marked accepted
    let (current, phase_records) ←
      run_directional_phase_with_records evaluator incumbent directional_layers phase_records
    let final_evaluation ← refresh_evaluation evaluator current backbone_evaluation
    let (current, phase_records) ←
      run_sequential_phase_with_records evaluator current known_good_filters "phase-3" phase_records
    let final_evaluation ← refresh_evaluation evaluator current final_evaluation
    let (current, phase_records) ←
      run_sequential_phase_with_records evaluator current custom_filters "phase-4" phase_records
    let final_evaluation ← refresh_evaluation evaluator current final_evaluation
    let (current, phase_records) ←
      run_sequential_phase_with_records evaluator current exit_layers "phase-5" phase_records
    let final_evaluation ← refresh_evaluation evaluator current final_evaluation
    validated_report validation_executor current phase_records final_evaluation

end Runner

end ProofAlpha.Optimizer
