/-
The parameters that are selected and those that are validated: `app/runtime.py`,
`build_runtime_functions`, in a run of `OvernightRunner.run_pipeline`.

The functions of a study are modelled with a log of the evaluations that they make and of the
records that the run appends. A layer is accepted with one set of its parameters, and that set
goes into its record alone: every evaluation takes the parameters of the study, and a search
those of the study with a set that it tries on its own layer (`logs_research_cycle`).
-/
import ProofAlpha.App.GridSelection
import ProofAlpha.App.ScenarioEvaluation
import ProofAlpha.Lib.Traced
import ProofAlpha.Validation.Permutation

set_option autoImplicit false

namespace ProofAlpha.App

open ProofAlpha.Lib ProofAlpha.Lib.Traced
open ProofAlpha.Backtest (BacktestResult)
open ProofAlpha.Optimizer (CandidateEvaluation PhaseRecord OvernightRunReport phase_record
  keep_best_layer with_best_layer directional_record backbone_layer)
open ProofAlpha.Validation (PromotionDecision ProtocolOptions ResampleError StressScenario
  ValidationEvidence ValidationProtocol permute_snapshot_path run_validation_protocol)

variable {K : Type}

/-! ## Runs with a log -/

/-- What a run does that its log tells. -/
inductive RunEvent (K : Type)
  /-- A strategy is evaluated with the parameters of its layers; in a search a set of parameters
  is tried on a layer. -/
  | evaluated (strategy : StrategyGraph) (layer_parameters : LayerParameters K)
      (trial : Option (String × ParameterSet K))
  /-- `phase_records.append(record)`. -/
  | recorded (record : PhaseRecord K)

/-- A run with its log. -/
abbrev StudyRun (K α : Type) := Traced String (RunEvent K) α

/-- What the evaluator reads of a layer. -/
def plain_layer (layer : Config.LayerSpec K) : LayerSpec := ⟨layer.name, layer.family⟩

/-- What the evaluator reads of a strategy. -/
def plain_strategy (graph : Config.StrategyGraph K) : StrategyGraph where
  backbone := graph.backbone
  layers := graph.layers.map plain_layer
  risk_guards := graph.risk_guards.map plain_layer

/-! ## The study -/

/-- What `build_optuna_plan` returns. -/
structure OptunaPlan (K : Type) where
  best_parameters : ParameterSet K
  search_summary : List (JsonObject K)

/-- The search of a study in Optuna mode. -/
structure OptunaSearch (K : Type) where
  optuna_trial_budget : ℤ
  /-- The sets that are scored for a candidate and a layer with a grid. -/
  scored : StrategyGraph → String → List (ParameterSet K)
  build_optuna_plan : StrategyGraph → String → Except String (OptunaPlan K)

/-- A study in fixture mode: what was recorded earlier. -/
structure Fixture (K : Type) where
  evaluations : Dict String (CandidateEvaluation K)
  scenario_results : Dict String (StressedResult K)
  holdout_decision : PromotionDecision

/-- A study in any mode. -/
structure RuntimeStudy (K : Type) [Field K] extends GridStudy K where
  permutation_count : ℤ
  protocol_options : ProtocolOptions K
  /-- In grid mode there is none. -/
  optuna : Option (OptunaSearch K) := none
  fixture : Option (Fixture K) := none

/-- The results that a validation is made of. -/
structure ValidationRuns (K : Type) where
  in_sample_result : BacktestResult K
  walk_forward_result : BacktestResult K
  final_holdout_result : BacktestResult K
  in_sample_permutation : List (BacktestResult K)
  walk_forward_permutation : List (BacktestResult K)

variable [Field K] [LinearOrder K]

/-- What the functions of a study call. -/
structure StudyRuntime (K : Type) [Field K] [LinearOrder K] extends EvaluatorRuntime K where
  rng : PyRandom K
  build_calibrated_scenario_profile : Data.DataSnapshot K → StressScenario K → ℤ →
    CalibratedProfile K
  /-- The evidence that `run_validation_protocol` computes of its results and of the returns of
  the candidates. -/
  validation_evidence : ValidationRuns K → List (PhaseRecord K) →
    Except String (ValidationEvidence K)

variable [FloorRing K]

section Functions

variable (rt : StudyRuntime K) (study : RuntimeStudy K) (split_pack : SplitWindows K)

/-! ## The evaluator -/

/-- `_evaluate_strategy_with_settings`, logged. -/
def evaluated (snapshot : Data.DataSnapshot K) (strategy : StrategyGraph)
    (layer_parameters : LayerParameters K) (trial : Option (String × ParameterSet K)) :
    StudyRun K (BacktestResult K) := do
  note (.evaluated strategy layer_parameters trial)
  lift (study.evaluate rt.math snapshot strategy layer_parameters)

/-- The event of a trial: the set, in the parameters of the study. -/
def trial_event (strategy : StrategyGraph) (layer_name : String) (parameter_set : ParameterSet K) :
    RunEvent K :=
  .evaluated strategy (merge_layer_parameters study.layer_parameters layer_name parameter_set)
    (some (layer_name, parameter_set))

/-- The parameter sets of a layer, and the trials of a plan that has chosen the only one. -/
def offered_parameter_sets (candidate_strategy : StrategyGraph) (layer_name : String) :
    StudyRun K (List (ParameterSet K) × List (JsonObject K)) :=
  match study.optuna with
  | none => do
      let parameter_sets ← lift (parameter_sets_of study.toGridStudy layer_name)
      return (parameter_sets, [])
  | some search =>
      if ((study.parameter_grids.lookup layer_name).getD []).isEmpty then return ([∅], [])
      else do
        -- `_score_parameter_set_for_optuna` evaluates each set that is scored
        notes ((search.scored candidate_strategy layer_name).map
          (trial_event study candidate_strategy layer_name))
        let plan ← lift (search.build_optuna_plan candidate_strategy layer_name)
        return ([plan.best_parameters], plan.search_summary.map fun candidate =>
          annotate_candidate_trial candidate "optuna" (rt.seed_evidence layer_name))

omit [Field K] [LinearOrder K] [FloorRing K] in
/-- What a trial says in Optuna mode. -/
def trial_of_mode (optuna : Option (OptunaSearch K)) (trial : Trial K) : Trial K :=
  match optuna with
  | none => trial
  | some search =>
      { candidate := { trial.candidate with permutation_count := search.optuna_trial_budget }
        payload := trial.payload.set "search_source" (.str "optuna_final") }

/-- The body of the loop over the parameter sets. The candidate runs with the set on both
windows, here or in the sweep, and on the samples of the bootstrap. -/
def try_parameter_set (ctx : SearchContext K) (state : SearchState K)
    (item : ParameterSet K × ℕ) : StudyRun K (SearchState K) := do
  note (trial_event study ctx.candidate_strategy ctx.layer_name item.1)
  let trial ← lift (ctx.evaluate_parameter_set rt.toEvaluatorRuntime item.1 item.2)
  return state.keep (trial_of_mode study.optuna trial)

/-- What the evaluator does once it has the incumbent's results. -/
def search_layer (ctx : SearchContext K) (optuna_trials : List (JsonObject K)) :
    StudyRun K (CandidateEvaluation K) := do
  let state ← ctx.parameter_sets.zipIdx.foldlM (try_parameter_set rt study ctx)
    { search_summaries := optuna_trials, candidate_trials := optuna_trials }
  match state.best_candidate with
  | none => lift (.error ("no candidate evaluation produced for layer " ++ ctx.layer_name))
  | some best_candidate =>
      -- both windows once more, with the winner's set
      note (trial_event study ctx.candidate_strategy ctx.layer_name
        best_candidate.selected_parameters)
      let final_train ← lift (ctx.evaluate rt.toEvaluatorRuntime ctx.split_pack.in_sample
        best_candidate.selected_parameters)
      let final_oos ← lift (ctx.evaluate rt.toEvaluatorRuntime ctx.split_pack.selection_oos
        best_candidate.selected_parameters)
      let sorted_summaries ← lift (sort_summaries rt.texts state.search_summaries)
      let limit := max 1 study.search.search_summary_limit
      return { best_candidate with
        train_result := final_train
        oos_result := final_oos
        search_summary := sorted_summaries.take limit.toNat
        candidate_trials := state.candidate_trials }

/-- `evaluator`, of a study that is not a fixture. -/
def evaluator (graph : StrategyGraph) (layer : LayerSpec) :
    StudyRun K (CandidateEvaluation K) := do
  let strategies := resolve_strategies graph layer
  -- what was selected for the layers of the incumbent is not read
  let incumbent_train ← evaluated rt study split_pack.in_sample strategies.1
    study.layer_parameters none
  let incumbent_oos ← evaluated rt study split_pack.selection_oos strategies.1
    study.layer_parameters none
  let offered ← offered_parameter_sets rt study strategies.2 layer.name
  search_layer rt study
    { study := study.toGridStudy
      split_pack := split_pack.toSplitPack
      layer_name := layer.name
      candidate_strategy := strategies.2
      incumbent_train := incumbent_train
      incumbent_oos := incumbent_oos
      parameter_sets := offered.1 }
    offered.2

/-! ## Validation and scenarios -/

omit [Field K] [LinearOrder K] [FloorRing K] in
/-- The exception of a permutation, with its text. -/
def raised {α : Type} (result : Except ResampleError α) : Except String α :=
  result.mapError fun
    | .value_error text => text
    | .import_error text => text
    | .index_error => "list index out of range"

/-- The results of `_run_permutation_test`: the observed one and those of the permuted paths. -/
def run_permutation_test (snapshot : Data.DataSnapshot K) (strategy : StrategyGraph) (seed : ℤ) :
    StudyRun K (List (BacktestResult K)) := do
  let observed ← evaluated rt study snapshot strategy study.layer_parameters none
  let permuted ← (List.range (max 1 study.permutation_count).toNat).mapM fun offset => do
    let permuted ← lift (raised (permute_snapshot_path rt.rng snapshot (seed + offset)))
    evaluated rt study permuted strategy study.layer_parameters none
  return observed :: permuted

/-- `validation_executor`. -/
def validation_executor (strategy : StrategyGraph) (phase_records : List (PhaseRecord K)) :
    StudyRun K (ValidationProtocol K) := do
  let evaluate_strategy (snapshot : Data.DataSnapshot K) :=
    evaluated rt study snapshot strategy study.layer_parameters none
  let in_sample_result ← evaluate_strategy split_pack.in_sample
  let walk_forward_result ← evaluate_strategy split_pack.selection_oos
  let final_holdout_result ← evaluate_strategy split_pack.final_holdout
  let in_sample_permutation ←
    run_permutation_test rt study split_pack.in_sample strategy (study.seed + 101)
  let walk_forward_permutation ←
    run_permutation_test rt study split_pack.selection_oos strategy (study.seed + 202)
  let evidence ← lift (rt.validation_evidence
    ⟨in_sample_result, walk_forward_result, final_holdout_result, in_sample_permutation,
      walk_forward_permutation⟩ phase_records)
  return run_validation_protocol evidence study.protocol_options

/-- `scenario_evaluator`, logged. -/
def logged_scenario_evaluator (strategy : StrategyGraph) (scenario : StressScenario K) :
    StudyRun K (StressedResult K) := do
  note (.evaluated strategy study.layer_parameters none)
  lift (scenario_evaluator rt.math rt.build_calibrated_scenario_profile study.toStudyConfig
    split_pack.toSplitPack strategy scenario)

end Functions

/-! ## The functions of a study -/

/-- `evaluator`, `scenario_evaluator` and `validation_executor`. -/
structure RuntimeFunctions (K : Type) [Field K] where
  evaluator : Config.StrategyGraph K → Config.LayerSpec K → StudyRun K (CandidateEvaluation K)
  scenario_evaluator : Config.StrategyGraph K → StressScenario K → StudyRun K (StressedResult K)
  validation_executor : Config.StrategyGraph K → List (PhaseRecord K) →
    StudyRun K (ValidationProtocol K)

omit [Field K] [LinearOrder K] [FloorRing K] in
/-- `recorded[name]`. -/
def recorded_under {α : Type} (recorded : Dict String α) (name : String) : StudyRun K α :=
  lift (match recorded.lookup name with
    | some result => .ok result
    | none => .error ("KeyError: " ++ name))

/-- `build_runtime_functions`. -/
def build_runtime_functions (rt : StudyRuntime K) (study : RuntimeStudy K)
    (split_pack : SplitWindows K) : RuntimeFunctions K :=
  match study.fixture with
  | some fixture =>
      { evaluator := fun _ layer => recorded_under fixture.evaluations layer.name
        scenario_evaluator := fun _ scenario =>
          recorded_under fixture.scenario_results scenario.name
        validation_executor := fun _ _ =>
          pure (Optimizer.legacy_validation_protocol K fixture.holdout_decision) }
  | none =>
      { evaluator := fun graph layer =>
          evaluator rt study split_pack (plain_strategy graph) (plain_layer layer)
        scenario_evaluator := fun graph scenario =>
          logged_scenario_evaluator rt study split_pack (plain_strategy graph) scenario
        validation_executor := fun graph phase_records =>
          validation_executor rt study split_pack (plain_strategy graph) phase_records }

/-! ## The run -/

section Pipeline

variable (evaluator : Config.StrategyGraph K → Config.LayerSpec K →
  StudyRun K (CandidateEvaluation K))

omit [Field K] [LinearOrder K] [FloorRing K] in
/-- The evaluations of candidates on one strategy, logged. -/
def logged_evaluations (incumbent : Config.StrategyGraph K) (layers : List (Config.LayerSpec K)) :
    StudyRun K (List (Config.LayerSpec K × CandidateEvaluation K)) :=
  layers.mapM fun layer => do
    let evaluation ← evaluator incumbent layer
    return (layer, evaluation)

omit [FloorRing K] in
/-- `_run_directional_phase_with_records`, logged. -/
def logged_directional_phase (incumbent : Config.StrategyGraph K)
    (directional_layers : List (Config.LayerSpec K)) (phase_records : List (PhaseRecord K)) :
    StudyRun K (Config.StrategyGraph K × List (PhaseRecord K)) := do
  let evaluations ← logged_evaluations evaluator incumbent directional_layers
  let best := evaluations.foldl keep_best_layer none
  let records := evaluations.map (directional_record best)
  notes (records.map .recorded)
  return (with_best_layer incumbent best, phase_records ++ records)

omit [Field K] [LinearOrder K] [FloorRing K] in
/-- One pass of the loop of `_run_sequential_phase_with_records`, logged. -/
def logged_sequential_step (phase_name : String)
    (s : Config.StrategyGraph K × List (PhaseRecord K)) (layer : Config.LayerSpec K) :
    StudyRun K (Config.StrategyGraph K × List (PhaseRecord K)) := do
  let evaluation ← evaluator s.1 layer
  let record := phase_record phase_name layer.name evaluation.decision.decision evaluation.accepts
    evaluation
  note (.recorded record)
  return (if evaluation.accepts then s.1.with_layer layer else s.1, s.2 ++ [record])

omit [Field K] [LinearOrder K] [FloorRing K] in
/-- `if current.layers: final_evaluation = self._evaluate_current_strategy(current)`, logged. -/
def logged_refresh (current : Config.StrategyGraph K)
    (final_evaluation : CandidateEvaluation K) : StudyRun K (CandidateEvaluation K) :=
  if current.layers.isEmpty then return final_evaluation
  else evaluator current (current.layers.getLast?.getD (backbone_layer current))

omit [Field K] [LinearOrder K] [FloorRing K] in
/-- `_run_sequential_phase_with_records` and the evaluation after it, logged. -/
def logged_sequential_phase (phase_name : String) (candidate_layers : List (Config.LayerSpec K))
    (s : Config.StrategyGraph K × List (PhaseRecord K)) (final_evaluation : CandidateEvaluation K) :
    StudyRun K ((Config.StrategyGraph K × List (PhaseRecord K)) × CandidateEvaluation K) := do
  let s ← candidate_layers.foldlM (logged_sequential_step evaluator phase_name) s
  let final_evaluation ← logged_refresh evaluator s.1 final_evaluation
  return (s, final_evaluation)

omit [FloorRing K] in
/-- `OvernightRunner.run_pipeline`, logged. -/
def logged_pipeline
    (validation_executor : Config.StrategyGraph K → List (PhaseRecord K) →
      StudyRun K (ValidationProtocol K)) (incumbent : Config.StrategyGraph K)
    (directional_layers known_good_filters custom_filters exit_layers :
      List (Config.LayerSpec K)) : StudyRun K (OvernightRunReport K) := do
  let backbone_evaluation ← evaluator incumbent (backbone_layer incumbent)
  if backbone_evaluation.oos_result.sharpe < 0.05 then
    let record := phase_record "phase-1" incumbent.backbone "abort" false backbone_evaluation
    note (.recorded record)
    return ⟨"aborted", incumbent, [record], none, some backbone_evaluation, none⟩
  else
    let record := phase_record "phase-1" incumbent.backbone
      backbone_evaluation.decision.decision false backbone_evaluation
    note (.recorded record)
    -- the backbone's record is never marked accepted
    let s ← logged_directional_phase evaluator incumbent directional_layers [record]
    let final_evaluation ← logged_refresh evaluator s.1 backbone_evaluation
    let filtered ←
      logged_sequential_phase evaluator "phase-3" known_good_filters s final_evaluation
    let customised ←
      logged_sequential_phase evaluator "phase-4" custom_filters filtered.1 filtered.2
    let finished ←
      logged_sequential_phase evaluator "phase-5" exit_layers customised.1 customised.2
    let validation_protocol ← validation_executor finished.1.1 finished.1.2
    let holdout_decision := validation_protocol.promotion_decision
    return ⟨if holdout_decision.decision != "accept" then "blocked" else "promoted", finished.1.1,
      finished.1.2, some holdout_decision, some finished.2, some validation_protocol⟩

end Pipeline

/-- What `execute_research_cycle` evaluates: the phases of the pipeline, and each scenario on the
strategy that they end with. -/
def research_cycle (functions : RuntimeFunctions K) (incumbent : Config.StrategyGraph K)
    (directional_layers known_good_filters custom_filters exit_layers : List (Config.LayerSpec K))
    (scenario_list : List (StressScenario K)) :
    StudyRun K (OvernightRunReport K × List (StressedResult K)) := do
  let report ← logged_pipeline functions.evaluator functions.validation_executor incumbent
    directional_layers known_good_filters custom_filters exit_layers
  let scenario_results ← scenario_list.mapM fun scenario =>
    functions.scenario_evaluator report.final_strategy scenario
  return (report, scenario_results)

/-! ## Without the log -/

section Grid

variable (rt : StudyRuntime K) {study : RuntimeStudy K}

theorem result_offered_parameter_sets (hgrid : study.optuna = none)
    (candidate_strategy : StrategyGraph) (layer_name : String) :
    (offered_parameter_sets rt study candidate_strategy layer_name).result
      = (do return (← parameter_sets_of study.toGridStudy layer_name, [])) := by
  unfold offered_parameter_sets
  rw [hgrid]
  exact result_bind _ _

theorem result_try_parameter_set (hgrid : study.optuna = none) (ctx : SearchContext K)
    (state : SearchState K) (item : ParameterSet K × ℕ) :
    (try_parameter_set rt study ctx state item).result
      = (do return state.keep (← ctx.evaluate_parameter_set rt.toEvaluatorRuntime item.1
        item.2)) := by
  unfold try_parameter_set
  rw [hgrid, result_bind, result_note, ok_bind]
  exact result_bind _ _

theorem result_search_layer (hgrid : study.optuna = none) {ctx : SearchContext K}
    (hstudy : ctx.study = study.toGridStudy) :
    (search_layer rt study ctx []).result = select_candidate ctx rt.toEvaluatorRuntime := by
  unfold search_layer select_candidate search_loop
  rw [result_bind, result_foldlM (result_try_parameter_set rt hgrid ctx), hstudy]
  refine congrArg _ (funext fun state => ?_)
  cases state.best_candidate with
  | none => rfl
  | some best_candidate =>
      simp only [result_bind, result_note, result_lift, result_pure]
      rfl

/-- In grid mode the evaluator is the one without a log. -/
theorem result_evaluator_grid (hgrid : study.optuna = none) (split_pack : SplitWindows K)
    (graph : StrategyGraph) (layer : LayerSpec) :
    (evaluator rt study split_pack graph layer).result
      = grid_evaluator rt.toEvaluatorRuntime study.toGridStudy split_pack.toSplitPack graph
        layer := by
  unfold evaluator grid_evaluator search_context
  simp only [result_bind, result_offered_parameter_sets rt hgrid, bind_assoc, pure_bind]
  simp only [result_search_layer rt hgrid]
  rfl

end Grid

section Result

variable (evaluator : Config.StrategyGraph K → Config.LayerSpec K →
  StudyRun K (CandidateEvaluation K))

omit [Field K] [LinearOrder K] [FloorRing K] in
theorem result_logged_evaluations (incumbent : Config.StrategyGraph K)
    (layers : List (Config.LayerSpec K)) :
    (logged_evaluations evaluator incumbent layers).result
      = Optimizer.evaluate_layers (fun graph layer => (evaluator graph layer).result) incumbent
        layers :=
  result_mapM (fun _ => result_bind _ _) layers

omit [Field K] [FloorRing K] in
theorem result_logged_directional_phase (incumbent : Config.StrategyGraph K)
    (directional_layers : List (Config.LayerSpec K)) (phase_records : List (PhaseRecord K)) :
    (logged_directional_phase evaluator incumbent directional_layers phase_records).result
      = Optimizer.run_directional_phase_with_records
        (fun graph layer => (evaluator graph layer).result) incumbent directional_layers
          phase_records := by
  unfold logged_directional_phase Optimizer.run_directional_phase_with_records
  rw [result_bind, result_logged_evaluations]
  exact congrArg _ (funext fun evaluations => result_bind _ _)

omit [Field K] [LinearOrder K] [FloorRing K] in
theorem result_logged_sequential_step (phase_name : String)
    (s : Config.StrategyGraph K × List (PhaseRecord K)) (layer : Config.LayerSpec K) :
    (logged_sequential_step evaluator phase_name s layer).result
      = Optimizer.sequential_step (fun graph layer => (evaluator graph layer).result) phase_name s
        layer := by
  unfold logged_sequential_step Optimizer.sequential_step
  rw [result_bind]
  exact congrArg _ (funext fun evaluation => result_bind _ _)

omit [Field K] [LinearOrder K] [FloorRing K] in
theorem result_logged_refresh (current : Config.StrategyGraph K)
    (final_evaluation : CandidateEvaluation K) :
    (logged_refresh evaluator current final_evaluation).result
      = Optimizer.refresh_evaluation (fun graph layer => (evaluator graph layer).result) current
        final_evaluation := by
  unfold logged_refresh Optimizer.refresh_evaluation
  split_ifs
  · rfl
  · rfl

omit [Field K] [LinearOrder K] [FloorRing K] in
theorem result_logged_sequential_phase (phase_name : String)
    (candidate_layers : List (Config.LayerSpec K))
    (s : Config.StrategyGraph K × List (PhaseRecord K)) (final_evaluation : CandidateEvaluation K) :
    (logged_sequential_phase evaluator phase_name candidate_layers s final_evaluation).result
      = (do
        let s ← Optimizer.run_sequential_phase_with_records
          (fun graph layer => (evaluator graph layer).result) s.1 candidate_layers phase_name s.2
        let final_evaluation ← Optimizer.refresh_evaluation
          (fun graph layer => (evaluator graph layer).result) s.1 final_evaluation
        return (s, final_evaluation)) := by
  unfold logged_sequential_phase Optimizer.run_sequential_phase_with_records
  rw [result_bind, result_foldlM (result_logged_sequential_step evaluator phase_name)]
  refine congrArg _ (funext fun s => ?_)
  rw [result_bind, result_logged_refresh]
  rfl

omit [FloorRing K] in
/-- Without its log the run is that of the runner. -/
theorem result_logged_pipeline
    (validation_executor : Config.StrategyGraph K → List (PhaseRecord K) →
      StudyRun K (ValidationProtocol K)) (incumbent : Config.StrategyGraph K)
    (directional_layers known_good_filters custom_filters exit_layers :
      List (Config.LayerSpec K)) :
    (logged_pipeline evaluator validation_executor incumbent directional_layers known_good_filters
        custom_filters exit_layers).result
      = Optimizer.run_pipeline (fun graph layer => (evaluator graph layer).result) incumbent
        directional_layers known_good_filters custom_filters exit_layers
        (some fun graph phase_records => (validation_executor graph phase_records).result) := by
  unfold logged_pipeline Optimizer.run_pipeline
  rw [result_bind]
  refine congrArg _ (funext fun backbone_evaluation => ?_)
  split_ifs
  · exact result_bind _ _
  · rw [result_bind, result_note, ok_bind, result_bind, result_logged_directional_phase]
    refine congrArg _ (funext fun s => ?_)
    rw [result_bind, result_logged_refresh]
    refine congrArg _ (funext fun final_evaluation => ?_)
    simp only [result_bind, result_logged_sequential_phase, bind_assoc, pure_bind]
    rfl

end Result

/-- Without its log the run of a study in grid mode is that of the runner with its evaluator. -/
theorem result_logged_pipeline_grid (rt : StudyRuntime K) {study : RuntimeStudy K}
    (hgrid : study.optuna = none) (hfixture : study.fixture = none) (split_pack : SplitWindows K)
    (incumbent : Config.StrategyGraph K)
    (directional_layers known_good_filters custom_filters exit_layers :
      List (Config.LayerSpec K)) :
    (logged_pipeline (build_runtime_functions rt study split_pack).evaluator
        (build_runtime_functions rt study split_pack).validation_executor incumbent
        directional_layers known_good_filters custom_filters exit_layers).result
      = Optimizer.run_pipeline (fun graph layer => grid_evaluator rt.toEvaluatorRuntime
          study.toGridStudy split_pack.toSplitPack (plain_strategy graph) (plain_layer layer))
        incumbent directional_layers known_good_filters custom_filters exit_layers
        (some fun graph phase_records => (validation_executor rt study split_pack
          (plain_strategy graph) phase_records).result) := by
  unfold build_runtime_functions
  rw [hfixture, result_logged_pipeline]
  simp only [result_evaluator_grid rt hgrid]

/-! ## The events of a run -/

/-- What the events of a study's run are. -/
def EventOf (study : RuntimeStudy K) : RunEvent K → Prop
  | .evaluated _ layer_parameters none => layer_parameters = study.layer_parameters
  | .evaluated _ layer_parameters (some (layer_name, parameter_set)) =>
      layer_parameters = merge_layer_parameters study.layer_parameters layer_name parameter_set
  | .recorded _ => True

section Events

variable (rt : StudyRuntime K) (study : RuntimeStudy K) (split_pack : SplitWindows K)

omit [LinearOrder K] [FloorRing K] in
theorem eventOf_evaluated (strategy : StrategyGraph) :
    EventOf study (.evaluated strategy study.layer_parameters none) := rfl

omit [LinearOrder K] [FloorRing K] in
theorem eventOf_trial (strategy : StrategyGraph) (layer_name : String)
    (parameter_set : ParameterSet K) :
    EventOf study (trial_event study strategy layer_name parameter_set) := rfl

theorem logs_evaluated (snapshot : Data.DataSnapshot K) (strategy : StrategyGraph) :
    Logs (EventOf study) (evaluated rt study snapshot strategy study.layer_parameters none) :=
  (logs_note (eventOf_evaluated study _)).bind fun _ => logs_lift _

theorem logs_offered_parameter_sets (candidate_strategy : StrategyGraph) (layer_name : String) :
    Logs (EventOf study) (offered_parameter_sets rt study candidate_strategy layer_name) := by
  unfold offered_parameter_sets
  cases study.optuna with
  | none => exact (logs_lift _).bind fun parameter_sets => logs_pure _
  | some search =>
      dsimp only
      split_ifs
      · exact logs_pure _
      · have hscored : ∀ event ∈ (search.scored candidate_strategy layer_name).map
            (trial_event study candidate_strategy layer_name), EventOf study event := by
          rw [List.forall_mem_map]
          exact fun parameter_set _ => eventOf_trial study _ _ parameter_set
        exact (logs_notes hscored).bind fun _ => (logs_lift _).bind fun plan => logs_pure _

theorem logs_search_layer (ctx : SearchContext K) (optuna_trials : List (JsonObject K)) :
    Logs (EventOf study) (search_layer rt study ctx optuna_trials) := by
  have htry : ∀ state item, Logs (EventOf study) (try_parameter_set rt study ctx state item) :=
    fun state item => (logs_note (eventOf_trial study _ _ _)).bind fun _ =>
      (logs_lift _).bind fun trial => logs_pure _
  refine (logs_foldlM htry _ _).bind fun state => ?_
  cases state.best_candidate with
  | none => exact logs_lift _
  | some best_candidate =>
      refine (logs_note (eventOf_trial study _ _ _)).bind fun _ => ?_
      refine (logs_lift _).bind fun final_train => (logs_lift _).bind fun final_oos => ?_
      exact (logs_lift _).bind fun sorted_summaries => logs_pure _

theorem logs_evaluator (graph : StrategyGraph) (layer : LayerSpec) :
    Logs (EventOf study) (evaluator rt study split_pack graph layer) := by
  refine (logs_evaluated rt study _ _).bind fun incumbent_train => ?_
  refine (logs_evaluated rt study _ _).bind fun incumbent_oos => ?_
  refine (logs_offered_parameter_sets rt study _ _).bind fun offered => ?_
  exact logs_search_layer rt study _ _

theorem logs_run_permutation_test (snapshot : Data.DataSnapshot K) (strategy : StrategyGraph)
    (seed : ℤ) : Logs (EventOf study) (run_permutation_test rt study snapshot strategy seed) := by
  refine (logs_evaluated rt study _ _).bind fun observed => ?_
  refine (logs_mapM (fun offset => ?_) _).bind fun permuted => logs_pure _
  exact (logs_lift _).bind fun permuted => logs_evaluated rt study _ _

theorem logs_validation_executor (strategy : StrategyGraph) (phase_records : List (PhaseRecord K)) :
    Logs (EventOf study) (validation_executor rt study split_pack strategy phase_records) := by
  refine (logs_evaluated rt study _ _).bind fun in_sample_result => ?_
  refine (logs_evaluated rt study _ _).bind fun walk_forward_result => ?_
  refine (logs_evaluated rt study _ _).bind fun final_holdout_result => ?_
  refine (logs_run_permutation_test rt study _ _ _).bind fun in_sample_permutation => ?_
  refine (logs_run_permutation_test rt study _ _ _).bind fun walk_forward_permutation => ?_
  exact (logs_lift _).bind fun evidence => logs_pure _

end Events

section Phases

variable {P : RunEvent K → Prop}
  {evaluator : Config.StrategyGraph K → Config.LayerSpec K → StudyRun K (CandidateEvaluation K)}

omit [Field K] [FloorRing K] in
theorem logs_logged_directional_phase (hevaluator : ∀ graph layer, Logs P (evaluator graph layer))
    (hrecord : ∀ record, P (.recorded record)) (incumbent : Config.StrategyGraph K)
    (directional_layers : List (Config.LayerSpec K)) (phase_records : List (PhaseRecord K)) :
    Logs P (logged_directional_phase evaluator incumbent directional_layers phase_records) := by
  have hevaluations : Logs P (logged_evaluations evaluator incumbent directional_layers) :=
    logs_mapM (fun layer => (hevaluator _ _).bind fun evaluation => logs_pure _) _
  refine hevaluations.bind fun evaluations => ?_
  refine (logs_notes ?_).bind fun _ => logs_pure _
  rw [List.forall_mem_map]
  exact fun record _ => hrecord record

omit [Field K] [LinearOrder K] [FloorRing K] in
theorem logs_logged_refresh (hevaluator : ∀ graph layer, Logs P (evaluator graph layer))
    (current : Config.StrategyGraph K) (final_evaluation : CandidateEvaluation K) :
    Logs P (logged_refresh evaluator current final_evaluation) := by
  unfold logged_refresh
  split_ifs
  · exact logs_pure _
  · exact hevaluator _ _

omit [Field K] [LinearOrder K] [FloorRing K] in
theorem logs_logged_sequential_phase (hevaluator : ∀ graph layer, Logs P (evaluator graph layer))
    (hrecord : ∀ record, P (.recorded record)) (phase_name : String)
    (candidate_layers : List (Config.LayerSpec K))
    (s : Config.StrategyGraph K × List (PhaseRecord K)) (final_evaluation : CandidateEvaluation K) :
    Logs P (logged_sequential_phase evaluator phase_name candidate_layers s final_evaluation) := by
  have hstep : ∀ s layer, Logs P (logged_sequential_step evaluator phase_name s layer) :=
    fun s layer => (hevaluator _ _).bind fun evaluation =>
      (logs_note (hrecord _)).bind fun _ => logs_pure _
  refine (logs_foldlM hstep _ _).bind fun s => ?_
  exact (logs_logged_refresh hevaluator _ _).bind fun final_evaluation => logs_pure _

omit [FloorRing K] in
/-- What is true of the records and of the events of the two functions is true of a run. -/
theorem logs_logged_pipeline (hevaluator : ∀ graph layer, Logs P (evaluator graph layer))
    (hrecord : ∀ record, P (.recorded record))
    {validation_executor : Config.StrategyGraph K → List (PhaseRecord K) →
      StudyRun K (ValidationProtocol K)}
    (hvalidation : ∀ graph phase_records, Logs P (validation_executor graph phase_records))
    (incumbent : Config.StrategyGraph K)
    (directional_layers known_good_filters custom_filters exit_layers :
      List (Config.LayerSpec K)) :
    Logs P (logged_pipeline evaluator validation_executor incumbent directional_layers
      known_good_filters custom_filters exit_layers) := by
  refine (hevaluator _ _).bind fun backbone_evaluation => ?_
  split_ifs
  · exact (logs_note (hrecord _)).bind fun _ => logs_pure _
  · refine (logs_note (hrecord _)).bind fun _ => ?_
    refine (logs_logged_directional_phase hevaluator hrecord _ _ _).bind fun s => ?_
    refine (logs_logged_refresh hevaluator _ _).bind fun final_evaluation => ?_
    refine (logs_logged_sequential_phase hevaluator hrecord _ _ _ _).bind fun filtered => ?_
    refine (logs_logged_sequential_phase hevaluator hrecord _ _ _ _).bind fun customised => ?_
    refine (logs_logged_sequential_phase hevaluator hrecord _ _ _ _).bind fun finished => ?_
    exact (hvalidation _ _).bind fun validation_protocol => logs_pure _

end Phases

/-- Every evaluation of a run takes the parameters of the study, or tries a set in them. -/
theorem logs_research_cycle (rt : StudyRuntime K) (study : RuntimeStudy K)
    (split_pack : SplitWindows K) (incumbent : Config.StrategyGraph K)
    (directional_layers known_good_filters custom_filters exit_layers : List (Config.LayerSpec K))
    (scenario_list : List (StressScenario K)) :
    Logs (EventOf study) (research_cycle (build_runtime_functions rt study split_pack) incumbent
      directional_layers known_good_filters custom_filters exit_layers scenario_list) := by
  unfold research_cycle build_runtime_functions
  cases study.fixture with
  | some fixture =>
      -- nothing is evaluated
      refine (logs_logged_pipeline (fun _ _ => logs_lift _) (fun _ => trivial)
        (fun _ _ => logs_pure _) _ _ _ _ _).bind fun report => ?_
      exact (logs_mapM (fun scenario => logs_lift _) _).bind fun results => logs_pure _
  | none =>
      refine (logs_logged_pipeline (fun _ _ => logs_evaluator rt study split_pack _ _)
        (fun _ => trivial) (fun _ _ => logs_validation_executor rt study split_pack _ _) _ _ _ _
        _).bind fun report => ?_
      refine (logs_mapM (fun scenario => ?_) _).bind fun results => logs_pure _
      exact (logs_note (eventOf_evaluated study _)).bind fun _ => logs_lift _

/-! ## The selected parameters -/

omit [Field K] [LinearOrder K] [FloorRing K] in
/-- The layer of a record runs with the parameters that it was accepted with. -/
def RunsSelected (record : PhaseRecord K) (layer_parameters : LayerParameters K) : Prop :=
  ∀ key value, record.selected_parameters.lookup key = some value →
    (layer_dict layer_parameters record.layer_name).lookup key = some value

omit [Field K] [LinearOrder K] [FloorRing K] in
/-- Every evaluation that is made after a layer was accepted runs it with the parameters of its
record. -/
def SelectedAreRun (log : List (RunEvent K)) : Prop :=
  ∀ before record later, log = before ++ .recorded record :: later → record.accepted = true →
    ∀ strategy layer_parameters trial, .evaluated strategy layer_parameters trial ∈ later →
      record.layer_name ∈ strategy.layers.map LayerSpec.name →
        RunsSelected record layer_parameters

/-- What keeps the parameters of a record: those of the study have them wherever the layer runs
outside a search for it, and a later search for it tries no set that changes one of them. -/
structure KeepsSelected (study_parameters : LayerParameters K) (record : PhaseRecord K)
    (later : List (RunEvent K)) : Prop where
  outside : ∀ strategy layer_parameters trial, .evaluated strategy layer_parameters trial ∈ later →
    record.layer_name ∈ strategy.layers.map LayerSpec.name →
      trial.map Prod.fst ≠ some record.layer_name → RunsSelected record study_parameters
  tried : ∀ strategy layer_parameters parameter_set,
    .evaluated strategy layer_parameters (some (record.layer_name, parameter_set)) ∈ later →
      record.layer_name ∈ strategy.layers.map LayerSpec.name →
        ∀ key value, record.selected_parameters.lookup key = some value →
          (parameter_set.lookup key).or ((layer_dict study_parameters record.layer_name).lookup key)
            = some value

omit [Field K] [LinearOrder K] [FloorRing K] in
/-- Every accepted record of a run is kept. -/
def StudyKeepsSelected (study_parameters : LayerParameters K) (log : List (RunEvent K)) : Prop :=
  ∀ before record later, log = before ++ .recorded record :: later → record.accepted = true →
    KeepsSelected study_parameters record later

omit [Field K] [LinearOrder K] [FloorRing K] in
/-- The values of a set that is tried come before those of the study. -/
theorem runsSelected_merge_iff {study_parameters : LayerParameters K} {record : PhaseRecord K}
    {parameter_set : ParameterSet K} :
    RunsSelected record
        (merge_layer_parameters study_parameters record.layer_name parameter_set)
      ↔ ∀ key value, record.selected_parameters.lookup key = some value →
        (parameter_set.lookup key).or ((layer_dict study_parameters record.layer_name).lookup key)
          = some value := by
  unfold RunsSelected
  rw [layer_dict_merge_self]
  refine forall₂_congr fun key value => ?_
  rw [Dict.lookup_update]

omit [LinearOrder K] [FloorRing K] in
/-- Outside a search for its layer the parameters of a record are those of the study. -/
theorem EventOf.runsSelected_iff {study : RuntimeStudy K} {strategy : StrategyGraph}
    {layer_parameters : LayerParameters K} {trial : Option (String × ParameterSet K)}
    (h : EventOf study (.evaluated strategy layer_parameters trial)) {record : PhaseRecord K}
    (houtside : trial.map Prod.fst ≠ some record.layer_name) :
    RunsSelected record layer_parameters ↔ RunsSelected record study.layer_parameters := by
  cases trial with
  | none =>
      obtain rfl : layer_parameters = study.layer_parameters := h
      rfl
  | some trial =>
      obtain ⟨layer_name, parameter_set⟩ := trial
      obtain rfl : layer_parameters
        = merge_layer_parameters study.layer_parameters layer_name parameter_set := h
      have hne : record.layer_name ≠ layer_name :=
        fun hsame => houtside (congrArg some hsame.symm)
      unfold RunsSelected
      rw [layer_dict_merge_of_ne _ hne]

omit [LinearOrder K] [FloorRing K] in
/-- In a log whose evaluations take the parameters of the study, the selected ones run exactly where
they are kept. -/
theorem selectedAreRun_iff_of_events {study : RuntimeStudy K} {log : List (RunEvent K)}
    (hevents : ∀ event ∈ log, EventOf study event) :
    SelectedAreRun log ↔ StudyKeepsSelected study.layer_parameters log := by
  have hlater : ∀ {before record later}, log = before ++ .recorded record :: later →
      ∀ event ∈ later, EventOf study event := by
    rintro before record later rfl event hevent
    exact hevents event (List.mem_append_right _ (List.mem_cons_of_mem _ hevent))
  constructor
  · intro hrun before record later hlog haccepted
    constructor
    · intro strategy layer_parameters trial hevent hlayer houtside
      have hselected :=
        hrun before record later hlog haccepted strategy layer_parameters trial hevent hlayer
      exact ((hlater hlog _ hevent).runsSelected_iff houtside).mp hselected
    · intro strategy layer_parameters parameter_set hevent hlayer
      have hselected := hrun before record later hlog haccepted strategy layer_parameters _ hevent
        hlayer
      obtain rfl : layer_parameters = merge_layer_parameters study.layer_parameters
        record.layer_name parameter_set := hlater hlog _ hevent
      exact runsSelected_merge_iff.mp hselected
  · intro hkeeps before record later hlog haccepted strategy layer_parameters trial hevent hlayer
    have hkept := hkeeps before record later hlog haccepted
    by_cases hsearch : trial.map Prod.fst = some record.layer_name
    · -- a set is tried on the layer itself
      obtain ⟨⟨layer_name, parameter_set⟩, rfl, rfl⟩ := Option.map_eq_some_iff.mp hsearch
      have hset := hkept.tried strategy layer_parameters parameter_set hevent hlayer
      obtain rfl : layer_parameters = merge_layer_parameters study.layer_parameters
        record.layer_name parameter_set := hlater hlog _ hevent
      exact runsSelected_merge_iff.mpr hset
    · have hstudy := hkept.outside strategy layer_parameters trial hevent hlayer hsearch
      exact ((hlater hlog _ hevent).runsSelected_iff hsearch).mpr hstudy

/-- A run evaluates the layers that it has accepted with the selected parameters if and only if
the study has these parameters already, wherever such a layer runs outside a search for it, and
no later search for it changes them. -/
theorem selected_are_run_iff (rt : StudyRuntime K) (study : RuntimeStudy K)
    (split_pack : SplitWindows K) (incumbent : Config.StrategyGraph K)
    (directional_layers known_good_filters custom_filters exit_layers : List (Config.LayerSpec K))
    (scenario_list : List (StressScenario K)) :
    SelectedAreRun (research_cycle (build_runtime_functions rt study split_pack) incumbent
        directional_layers known_good_filters custom_filters exit_layers scenario_list).log
      ↔ StudyKeepsSelected study.layer_parameters
        (research_cycle (build_runtime_functions rt study split_pack) incumbent directional_layers
          known_good_filters custom_filters exit_layers scenario_list).log :=
  selectedAreRun_iff_of_events (logs_research_cycle rt study split_pack incumbent directional_layers
    known_good_filters custom_filters exit_layers scenario_list)

omit [Field K] [LinearOrder K] [FloorRing K] in
/-- At `j` a layer that was accepted at `i` runs without a parameter of its record. -/
def loses_parameter (log : List (RunEvent K)) (i j : ℕ) (key : String) : Bool :=
  match log[i]?, log[j]? with
  | some (.recorded record), some (.evaluated strategy layer_parameters _) =>
      decide (i < j) && record.accepted
        && decide (record.layer_name ∈ strategy.layers.map LayerSpec.name)
        && (record.selected_parameters.lookup key).isSome
        && ((layer_dict layer_parameters record.layer_name).lookup key).isNone
  | _, _ => false

omit [Field K] [LinearOrder K] [FloorRing K] in
theorem not_selectedAreRun_of_loses_parameter {log : List (RunEvent K)} {i j : ℕ}
    {key : String} (h : loses_parameter log i j key = true) : ¬ SelectedAreRun log := by
  unfold loses_parameter at h
  split at h
  · next record strategy layer_parameters trial hi hj =>
      simp only [Bool.and_eq_true, decide_eq_true_eq] at h
      obtain ⟨⟨⟨⟨hlt, haccepted⟩, hlayer⟩, hselected⟩, hlost⟩ := h
      obtain ⟨value, hvalue⟩ := Option.isSome_iff_exists.mp hselected
      intro hrun
      have hlog : log = log.take i ++ .recorded record :: log.drop (i + 1) := by
        obtain ⟨hlength, hget⟩ := List.getElem?_eq_some_iff.mp hi
        rw [← hget, ← List.drop_eq_getElem_cons hlength, List.take_append_drop]
      have hlater : .evaluated strategy layer_parameters trial ∈ log.drop (i + 1) := by
        apply List.mem_of_getElem? (i := j - (i + 1))
        rw [List.getElem?_drop, Nat.add_sub_of_le hlt]
        exact hj
      have hruns := hrun _ record _ hlog haccepted strategy layer_parameters trial hlater hlayer key
        value hvalue
      rw [hruns] at hlost
      cases hlost
  · cases h

section Examples

/-- A generator that leaves the bars where they are. -/
def still_random : PyRandom ℚ where
  State := Unit
  seeded _ := ()
  randint _ low _ := (low, ())
  randrange _ _ := (0, ())
  random _ := (0, ())
  shuffle _ items := (items, ())
  randint_mem _ _ _ hle := ⟨le_rfl, hle⟩
  randrange_lt _ _ hpos := hpos
  shuffle_perm _ items := List.Perm.refl items

/-- Fifteen hourly bars that rise, with the series that a permutation reads. -/
def rising_market : Data.DataSnapshot ℚ :=
  { grid_market fun index => index + 2 with
    funding_rates := List.replicate 15 0
    open_interest := List.replicate 15 0
    liquidation_notional := List.replicate 15 0 }

def rising_windows : SplitWindows ℚ where
  in_sample := slice_snapshot rising_market 0 9 "in-sample"
  selection_oos := slice_snapshot rising_market 9 12 "selection-oos"
  final_holdout := slice_snapshot rising_market 12 15 "final-holdout"

def stop_study : RuntimeStudy ℚ where
  toGridStudy := { stride_study with
    parameter_grids := (∅ : Dict String (List (String × Config.ParameterRange ℚ))).insert
      "time_stop" [("hold_bars", { minimum := 1, maximum := 1, step := 1 })] }
  permutation_count := 1
  protocol_options := {}

/-- The share of the permuted results that are as good as the observed one. -/
def permutation_pvalue (results : List (BacktestResult ℚ)) : ℚ :=
  match results with
  | [] => 1
  | observed :: permuted =>
      (1 + (permuted.countP fun result => observed.sharpe ≤ result.sharpe)) / (permuted.length + 1)

def stop_runtime : StudyRuntime ℚ where
  toEvaluatorRuntime := stride_runtime
  rng := still_random
  build_calibrated_scenario_profile := uncalibrated_profile
  validation_evidence := fun runs _ => .ok {
    in_sample_result := runs.in_sample_result
    walk_forward_result := runs.walk_forward_result
    final_holdout_result := runs.final_holdout_result
    selection_oos_bars := 3
    sample_count := 2
    minimum_backtest_length := 2
    probabilistic_sharpe_ratio := 1
    deflated_sharpe_ratio := 1
    in_sample_pvalue := permutation_pvalue runs.in_sample_permutation
    walk_forward_pvalue := permutation_pvalue runs.walk_forward_permutation
    pbo := none
    spa_pvalues := none
    capacity_report := .null
    scenario_report := .null
    regime_report := .null }

def stop_run : StudyRun ℚ (OvernightRunReport ℚ × List (StressedResult ℚ)) :=
  research_cycle (build_runtime_functions stop_runtime stop_study rising_windows)
    { backbone := "mom_squeeze" } [] [] [] [{ name := "time_stop", family := .exit }]
    [{ name := "calm", severity := 0 }]

/-- An exit layer is accepted with a stop after one bar, and validated with the default one. -/
theorem validated_without_selected_parameters :
    build_split_pack plain_texts rising_market = .ok rising_windows
      ∧ ¬ SelectedAreRun stop_run.log :=
  ⟨rfl, not_selectedAreRun_of_loses_parameter
    (show loses_parameter stop_run.log 9 14 "hold_bars" = true by decide +kernel)⟩

end Examples

end ProofAlpha.App
