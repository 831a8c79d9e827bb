/-
The selection of a candidate from a parameter grid: `app/runtime.py`, the evaluator that
`build_runtime_functions` returns, in grid mode.

The evaluator keeps the best candidate while it goes through the parameter sets, and sorts
the summaries of all of them once it is through. The two rank by one key, written down
twice: as a comparison of candidates (`is_better_candidate_iff`) and as a tuple of the
fields of a summary (`summary_key_of_trial`). Of candidates that tie, the loop keeps the
earlier and the sort leaves it in front, so they have one winner.
-/
import ProofAlpha.App.BatchParity
import ProofAlpha.Lib.RunningMaxima
import ProofAlpha.Optimizer.Grid
import ProofAlpha.Optimizer.Phases
import ProofAlpha.Validation.Statistics

set_option autoImplicit false

namespace ProofAlpha.App

open ProofAlpha.Lib
open ProofAlpha.Backtest (BacktestResult equity_returns)
open ProofAlpha.Config (ParameterRange)
open ProofAlpha.Optimizer (BootstrapReport CandidateEvaluation GridRow evaluate_candidate
  expand_parameter_grid)
open ProofAlpha.Validation (PromotionDecision compute_minimum_backtest_length)

/-! ## The study -/

/-- The settings of the search. -/
structure SearchSettings where
  min_oos_trades : Option ℤ
  max_parameter_permutations : ℤ
  gate_min_backtest_length : Bool
  search_summary_limit : ℤ

/-- A study with its parameter grids. -/
structure GridStudy (K : Type) extends StudyConfig K where
  parameter_grids : Dict String (List (String × ParameterRange K))
  search : SearchSettings

variable {K : Type} [Field K] [LinearOrder K] [FloorRing K]

/-- What the evaluator calls. -/
structure EvaluatorRuntime (K : Type) [Field K] [LinearOrder K] where
  math : PyMath K
  normal : NormalDist K
  texts : PyTexts K
  numba_available : Bool
  simulate_strategy_batch : BatchSimulator K
  /-- `_bootstrap_strategy_with_settings` of the in-sample window. -/
  bootstrap_report : StrategyGraph → LayerParameters K → Except String (BootstrapReport K)
  /-- `_build_search_seed_evidence` of a layer. -/
  seed_evidence : String → JsonObject K
  /-- The telemetry of the sweep, where one was attempted. -/
  batch_simulator_metadata : Option (JsonObject K)

/-- `_resolve_strategies`: the incumbent and the candidate. -/
def resolve_strategies (graph : StrategyGraph) (layer : LayerSpec) :
    StrategyGraph × StrategyGraph :=
  if layer.name = graph.backbone ∧ graph.layers = [] then (graph, graph)
  else if layer.name ∈ graph.layers.map LayerSpec.name then
    ({ graph with layers := graph.layers.dropLast }, graph)
  else (graph, graph.with_layer layer)

omit [FloorRing K] in
/-- A row of a grid as a set of parameters. -/
def row_parameters (row : GridRow K) : ParameterSet K :=
  row.foldl (fun parameter_set entry => parameter_set.insert entry.1 entry.2.value) ∅

/-- The parameter sets of a layer: those of its grid, or a single empty one. -/
def parameter_sets_of (study : GridStudy K) (layer_name : String) :
    Except String (List (ParameterSet K)) := do
  let parameter_grid := (study.parameter_grids.lookup layer_name).getD []
  if parameter_grid.isEmpty then return [∅]
  else
    let expanded ← expand_parameter_grid parameter_grid study.search.max_parameter_permutations
    return expanded.1.map row_parameters

/-- `min_oos_trades`. -/
def min_oos_trades_of (settings : SearchSettings) (selection_oos_bars : ℕ) : ℤ :=
  settings.min_oos_trades.getD (min 100 (max 3 (selection_oos_bars / 8 : ℕ)))

/-! ## The fast screen -/

omit [FloorRing K] in
/-- `_funding_drag_ratio`. -/
def funding_drag_ratio (result : BacktestResult K) : K :=
  |result.funding_spend| / (|result.gross_pnl| + |result.fee_spend| + 1 / 1000000000)

/-- What `_run_fast_screen_gates` returns. -/
structure FastScreen (K : Type) where
  reasons : List String
  metrics : JsonObject K

/-- `_run_fast_screen_gates`. -/
def run_fast_screen_gates (rt : EvaluatorRuntime K)
    (candidate_train candidate_oos : BacktestResult K) (min_oos_trades : ℤ)
    (gate_min_backtest_length : Bool) : Except String (FastScreen K) := do
  let returns := equity_returns candidate_oos.equity_curve
  let min_btl ← compute_minimum_backtest_length rt.math rt.normal returns 0 (95 / 100)
  let liquidation_count :=
    candidate_train.liquidation_events.length + candidate_oos.liquidation_events.length
  return {
    reasons :=
      reason_if ((candidate_oos.trade_count : ℤ) < min_oos_trades) "fast_screen_min_oos_trades"
        ++ reason_if (gate_min_backtest_length && !returns.isEmpty
          && decide ((returns.length : ℤ) < min_btl)) "fast_screen_minimum_backtest_length"
        ++ reason_if (liquidation_count != 0) "fast_screen_liquidation_events"
        ++ reason_if (1 / 2 ≤ funding_drag_ratio candidate_oos)
          "fast_screen_excessive_funding_drag"
    metrics :=
      [("sample_count", .int returns.length), ("minimum_backtest_length", .int min_btl),
        ("minimum_backtest_length_enforced", .bool gate_min_backtest_length),
        ("min_oos_trades", .int min_oos_trades),
        ("oos_trade_count", .int candidate_oos.trade_count),
        ("liquidation_event_count", .int liquidation_count),
        ("funding_drag_ratio", .float (funding_drag_ratio candidate_oos))] }

/-- `_merge_fast_screen_decision`. -/
def merge_fast_screen_decision (decision : PromotionDecision) (reasons : List String) :
    PromotionDecision :=
  .reject (reasons.foldl (fun merged_reasons reason =>
    if reason ∈ merged_reasons then merged_reasons else merged_reasons ++ [reason])
    decision.reasons)

/-! ## The trial of a parameter set -/

omit [Field K] [LinearOrder K] [FloorRing K] in
/-- A set of parameters as a dict of a summary. -/
def parameters_json (parameter_set : ParameterSet K) : JsonObject K :=
  parameter_set.entries.map fun item => (item.1, .float item.2)

omit [Field K] [LinearOrder K] [FloorRing K] in
/-- `_annotate_candidate_trial`. -/
def annotate_candidate_trial (candidate : JsonObject K) (search_source : String)
    (seed_evidence : JsonObject K) : JsonObject K :=
  let annotated := candidate.set_default "parameters" (.dict [])
  let annotated := annotated.set "search_source" (.str search_source)
  let annotated := annotated.set "seed_evidence" (.dict seed_evidence)
  match seed_evidence.get "regime_similarity" with
  | .dict regime_similarity => annotated.set "regime_similarity" (.dict regime_similarity)
  | _ => annotated

omit [Field K] [LinearOrder K] [FloorRing K] in
/-- The payload of a trial, before the telemetry of a sweep is put in. -/
def trial_payload (candidate : CandidateEvaluation K) (fast_screen : FastScreen K)
    (seed_evidence : JsonObject K) : JsonObject K :=
  annotate_candidate_trial
    [("parameters", .dict (parameters_json candidate.selected_parameters)),
      ("decision", .str candidate.decision.decision),
      ("oos_sharpe", .float candidate.oos_result.sharpe),
      ("bootstrap_worst_drawdown", .float candidate.bootstrap_report.worst_case_drawdown),
      ("oos_net_pnl", .float candidate.oos_result.net_pnl),
      ("fast_screen", .dict [("stage", .str "fast_screen"),
        ("passed", .bool fast_screen.reasons.isEmpty),
        ("reasons", .list (fast_screen.reasons.map .str)),
        ("metrics", .dict fast_screen.metrics)])]
    "grid" seed_evidence

/-- A candidate with its payload. -/
structure Trial (K : Type) where
  candidate : CandidateEvaluation K
  payload : JsonObject K

/-- What the evaluator has at hand when it goes through the parameter sets of a layer. -/
structure SearchContext (K : Type) where
  study : GridStudy K
  split_pack : SplitPack K
  layer_name : String
  candidate_strategy : StrategyGraph
  incumbent_train : BacktestResult K
  incumbent_oos : BacktestResult K
  parameter_sets : List (ParameterSet K)

namespace SearchContext

variable (ctx : SearchContext K) (rt : EvaluatorRuntime K)

/-- An evaluation of the candidate on a window. -/
def evaluate (snapshot : Data.DataSnapshot K) (parameter_set : ParameterSet K) :
    Except String (BacktestResult K) :=
  ctx.study.evaluate rt.math snapshot ctx.candidate_strategy
    (merge_layer_parameters ctx.study.layer_parameters ctx.layer_name parameter_set)

/-- The sweep over the parameter sets. -/
def sweep : Option (List (BacktestResult K) × List (BacktestResult K)) :=
  batch_sweep rt.math rt.simulate_strategy_batch rt.numba_available ctx.split_pack
    ctx.candidate_strategy ctx.layer_name ctx.study.layer_parameters ctx.parameter_sets
    ctx.study.runtime_settings.toExecutionSettings

omit [Field K] [LinearOrder K] [FloorRing K] in
/-- A result of the sweep, or of an evaluation where there is none. -/
def result_or (results : List (BacktestResult K)) (param_index : ℕ)
    (evaluated : Except String (BacktestResult K)) : Except String (BacktestResult K) :=
  match results[param_index]? with
  | some result => .ok result
  | none => evaluated

/-- The body of the loop over the parameter sets. -/
def evaluate_parameter_set (parameter_set : ParameterSet K) (param_index : ℕ) :
    Except String (Trial K) := do
  let batch := (ctx.sweep rt).getD ([], [])
  let candidate_train ← result_or batch.1 param_index
    (ctx.evaluate rt ctx.split_pack.in_sample parameter_set)
  let candidate_oos ← result_or batch.2 param_index
    (ctx.evaluate rt ctx.split_pack.selection_oos parameter_set)
  let min_oos_trades :=
    min_oos_trades_of ctx.study.search ctx.split_pack.selection_oos.candles.length
  let fast_screen ← run_fast_screen_gates rt candidate_train candidate_oos min_oos_trades
    ctx.study.search.gate_min_backtest_length
  let bootstrap_report ← rt.bootstrap_report ctx.candidate_strategy
    (merge_layer_parameters ctx.study.layer_parameters ctx.layer_name parameter_set)
  let decision := evaluate_candidate ctx.incumbent_train ctx.incumbent_oos candidate_train
    candidate_oos bootstrap_report min_oos_trades ctx.study.runtime_settings.position_leverage
  let candidate : CandidateEvaluation K :=
    { layer_name := ctx.layer_name
      decision :=
        if fast_screen.reasons.isEmpty then decision
        else merge_fast_screen_decision decision fast_screen.reasons
      train_result := candidate_train
      oos_result := candidate_oos
      bootstrap_report := bootstrap_report
      selected_parameters := parameter_set
      permutation_count := ctx.parameter_sets.length }
  let payload := trial_payload candidate fast_screen (rt.seed_evidence ctx.layer_name)
  return {
    candidate := candidate
    payload := match rt.batch_simulator_metadata with
      | some metadata => payload.set "batch_simulator" (.dict metadata)
      | none => payload }

end SearchContext

/-! ## The selection -/

/-- `_decision_rank`. -/
def decision_rank (decision : String) : ℤ :=
  if decision = "accept" then 2 else if decision = "wash" then 1 else 0

omit [Field K] [FloorRing K] in
/-- `_is_better_candidate`. -/
def is_better_candidate (candidate incumbent : CandidateEvaluation K) : Bool :=
  let candidate_rank := decision_rank candidate.decision.decision
  let incumbent_rank := decision_rank incumbent.decision.decision
  if candidate_rank ≠ incumbent_rank then decide (incumbent_rank < candidate_rank)
  else if candidate.oos_result.sharpe ≠ incumbent.oos_result.sharpe then
    decide (incumbent.oos_result.sharpe < candidate.oos_result.sharpe)
  else if candidate.bootstrap_report.worst_case_drawdown
      ≠ incumbent.bootstrap_report.worst_case_drawdown then
    decide (incumbent.bootstrap_report.worst_case_drawdown
      < candidate.bootstrap_report.worst_case_drawdown)
  else decide (incumbent.oos_result.net_pnl < candidate.oos_result.net_pnl)

/-- What the evaluator carries through its loop. -/
structure SearchState (K : Type) where
  best_candidate : Option (CandidateEvaluation K) := none
  search_summaries : List (JsonObject K) := []
  candidate_trials : List (JsonObject K) := []

omit [Field K] [FloorRing K] in
/-- What a trial does to it. -/
def SearchState.keep (state : SearchState K) (trial : Trial K) : SearchState K where
  best_candidate := keep_first is_better_candidate state.best_candidate trial.candidate
  search_summaries := state.search_summaries ++ [trial.payload]
  candidate_trials := state.candidate_trials ++ [trial.payload]

/-- The loop over the parameter sets. -/
def search_loop (ctx : SearchContext K) (rt : EvaluatorRuntime K) :
    Except String (SearchState K) :=
  ctx.parameter_sets.zipIdx.foldlM
    (fun state item => do return state.keep (← ctx.evaluate_parameter_set rt item.1 item.2)) {}

/-! ## The summary -/

/-- The key of a sort by four figures. -/
abbrev SelectionKey (K : Type) := ℤ ×ₗ K ×ₗ K ×ₗ K

omit [LinearOrder K] [FloorRing K] in
/-- `float(value)`. -/
def summary_float (texts : PyTexts K) (value : JsonValue K) : Except String K :=
  match float_or_none texts.parse_float value with
  | some x => .ok x
  | none => .error "TypeError: float() argument must be a string or a real number"

omit [LinearOrder K] [FloorRing K] in
/-- The sort key of a summary. -/
def summary_key (texts : PyTexts K) (summary : JsonObject K) :
    Except String (SelectionKey K) := do
  let score := summary.get_or "score" (.float 0)
  let oos_sharpe ← summary_float texts (summary.get_or "oos_sharpe" score)
  let worst_drawdown ← summary_float texts
    (summary.get_or "bootstrap_worst_drawdown" (.float (-999)))
  let oos_net_pnl ← summary_float texts (summary.get_or "oos_net_pnl" score)
  let decision := py_str texts.composite_text (summary.get_or "decision" (.str "accept"))
  return toLex (decision_rank decision, toLex (oos_sharpe, toLex (worst_drawdown, oos_net_pnl)))

omit [FloorRing K] in
/-- `sorted(search_summaries, key=..., reverse=True)`, which is stable. -/
def sort_summaries (texts : PyTexts K) (search_summaries : List (JsonObject K)) :
    Except String (List (JsonObject K)) := do
  let keyed ← search_summaries.mapM fun summary => do return (← summary_key texts summary, summary)
  return (keyed.insertionSort fun a b => b.1 ≤ a.1).map Prod.snd

/-! ## The evaluator -/

/-- What the evaluator returns once it is through the parameter sets. -/
def select_candidate (ctx : SearchContext K) (rt : EvaluatorRuntime K) :
    Except String (CandidateEvaluation K) := do
  let state ← search_loop ctx rt
  match state.best_candidate with
  | none => .error ("no candidate evaluation produced for layer " ++ ctx.layer_name)
  | some best_candidate =>
      -- the winner is evaluated again, also where the sweep has its results
      let final_train ← ctx.evaluate rt ctx.split_pack.in_sample best_candidate.selected_parameters
      let final_oos ← ctx.evaluate rt ctx.split_pack.selection_oos
        best_candidate.selected_parameters
      let sorted_summaries ← sort_summaries rt.texts state.search_summaries
      let limit := max 1 ctx.study.search.search_summary_limit
      return { best_candidate with
        train_result := final_train
        oos_result := final_oos
        search_summary := sorted_summaries.take limit.toNat
        candidate_trials := state.candidate_trials }

/-- What the loop of the evaluator starts from. -/
def search_context (rt : EvaluatorRuntime K) (study : GridStudy K) (split_pack : SplitPack K)
    (graph : StrategyGraph) (layer : LayerSpec) : Except String (SearchContext K) := do
  let (incumbent_strategy, candidate_strategy) := resolve_strategies graph layer
  let incumbent_train ← study.evaluate rt.math split_pack.in_sample incumbent_strategy
    study.layer_parameters
  let incumbent_oos ← study.evaluate rt.math split_pack.selection_oos incumbent_strategy
    study.layer_parameters
  let parameter_sets ← parameter_sets_of study layer.name
  return {
    study := study
    split_pack := split_pack
    layer_name := layer.name
    candidate_strategy := candidate_strategy
    incumbent_train := incumbent_train
    incumbent_oos := incumbent_oos
    parameter_sets := parameter_sets }

/-- The evaluator in grid mode. -/
def grid_evaluator (rt : EvaluatorRuntime K) (study : GridStudy K) (split_pack : SplitPack K)
    (graph : StrategyGraph) (layer : LayerSpec) : Except String (CandidateEvaluation K) := do
  let ctx ← search_context rt study split_pack graph layer
  select_candidate ctx rt

/-! ## One key -/

omit [FloorRing K] in
/-- What candidates are ranked by. -/
def selection_key (candidate : CandidateEvaluation K) : SelectionKey K :=
  toLex (decision_rank candidate.decision.decision, toLex (candidate.oos_result.sharpe,
    toLex (candidate.bootstrap_report.worst_case_drawdown, candidate.oos_result.net_pnl)))

omit [Field K] [FloorRing K] in
/-- The comparison of candidates is that of their keys. -/
theorem is_better_candidate_iff (candidate incumbent : CandidateEvaluation K) :
    is_better_candidate candidate incumbent = true
      ↔ selection_key incumbent < selection_key candidate := by
  unfold is_better_candidate selection_key
  simp only [Prod.Lex.toLex_lt_toLex]
  split_ifs with hrank hsharpe hdrawdown
  · simp [Ne.symm hrank]
  · rw [ne_eq, not_not] at hrank
    simp [hrank, Ne.symm hsharpe]
  · rw [ne_eq, not_not] at hrank hsharpe
    simp [hrank, hsharpe, Ne.symm hdrawdown]
  · rw [ne_eq, not_not] at hrank hsharpe hdrawdown
    simp [hrank, hsharpe, hdrawdown]

/-! ## A trial -/

/-- The fields of a payload that are read again. -/
structure ShowsCandidate (payload : JsonObject K) (candidate : CandidateEvaluation K) : Prop where
  parameters : payload.get "parameters" = .dict (parameters_json candidate.selected_parameters)
  decision : List.lookup "decision" payload = some (.str candidate.decision.decision)
  oos_sharpe : List.lookup "oos_sharpe" payload = some (.float candidate.oos_result.sharpe)
  bootstrap_worst_drawdown : List.lookup "bootstrap_worst_drawdown" payload
    = some (.float candidate.bootstrap_report.worst_case_drawdown)
  oos_net_pnl : List.lookup "oos_net_pnl" payload = some (.float candidate.oos_result.net_pnl)

omit [Field K] [LinearOrder K] [FloorRing K] in
/-- A field that is set beside them changes none of them. -/
theorem ShowsCandidate.set {payload : JsonObject K} {candidate : CandidateEvaluation K}
    (h : ShowsCandidate payload candidate) {key : String} (value : JsonValue K)
    (hkey : key ∉ ["parameters", "decision", "oos_sharpe", "bootstrap_worst_drawdown",
      "oos_net_pnl"]) : ShowsCandidate (payload.set key value) candidate := by
  simp only [List.mem_cons, List.not_mem_nil, or_false, not_or] at hkey
  obtain ⟨hparameters, hdecision, hsharpe, hdrawdown, hpnl⟩ := hkey
  constructor
  · rw [JsonObject.get, JsonObject.lookup_set_ne _ _ (Ne.symm hparameters)]
    exact h.parameters
  · rw [JsonObject.lookup_set_ne _ _ (Ne.symm hdecision), h.decision]
  · rw [JsonObject.lookup_set_ne _ _ (Ne.symm hsharpe), h.oos_sharpe]
  · rw [JsonObject.lookup_set_ne _ _ (Ne.symm hdrawdown), h.bootstrap_worst_drawdown]
  · rw [JsonObject.lookup_set_ne _ _ (Ne.symm hpnl), h.oos_net_pnl]

omit [Field K] [LinearOrder K] [FloorRing K] in
theorem showsCandidate_trial_payload (candidate : CandidateEvaluation K)
    (fast_screen : FastScreen K) (seed_evidence : JsonObject K) :
    ShowsCandidate (trial_payload candidate fast_screen seed_evidence) candidate := by
  unfold trial_payload annotate_candidate_trial
  dsimp only
  have hannotated : ∀ payload : JsonObject K, ShowsCandidate payload candidate →
      ShowsCandidate ((payload.set "search_source" (.str "grid")).set "seed_evidence"
        (.dict seed_evidence)) candidate := by
    intro payload h
    exact (h.set _ (by decide)).set _ (by decide)
  have hbase : ShowsCandidate (JsonObject.set_default
      [("parameters", .dict (parameters_json candidate.selected_parameters)),
        ("decision", .str candidate.decision.decision),
        ("oos_sharpe", .float candidate.oos_result.sharpe),
        ("bootstrap_worst_drawdown", .float candidate.bootstrap_report.worst_case_drawdown),
        ("oos_net_pnl", .float candidate.oos_result.net_pnl),
        ("fast_screen", .dict [("stage", .str "fast_screen"),
          ("passed", .bool fast_screen.reasons.isEmpty),
          ("reasons", .list (fast_screen.reasons.map .str)),
          ("metrics", .dict fast_screen.metrics)])] "parameters" (.dict [])) candidate := by
    constructor <;> rfl
  cases seed_evidence.get "regime_similarity" with
  | dict regime_similarity => exact (hannotated _ hbase).set _ (by decide)
  | _ => exact hannotated _ hbase

omit [LinearOrder K] [FloorRing K] in
/-- The key of a summary is that of the candidate it shows. -/
theorem summary_key_of_shows {payload : JsonObject K} {candidate : CandidateEvaluation K}
    (texts : PyTexts K) (h : ShowsCandidate payload candidate) :
    summary_key texts payload = .ok (selection_key candidate) := by
  unfold summary_key JsonObject.get_or
  rw [h.oos_sharpe, h.bootstrap_worst_drawdown, h.oos_net_pnl, h.decision]
  rfl

/-- What is known of the trial of a parameter set. -/
structure TrialOf (ctx : SearchContext K) (rt : EvaluatorRuntime K) (parameter_set : ParameterSet K)
    (trial : Trial K) : Prop where
  selected_parameters : trial.candidate.selected_parameters = parameter_set
  permutation_count : trial.candidate.permutation_count = ctx.parameter_sets.length
  shown : ShowsCandidate trial.payload trial.candidate
  evaluated : ctx.sweep rt = none →
    ctx.evaluate rt ctx.split_pack.in_sample parameter_set = .ok trial.candidate.train_result
      ∧ ctx.evaluate rt ctx.split_pack.selection_oos parameter_set = .ok trial.candidate.oos_result

theorem trialOf_evaluate {ctx : SearchContext K} {rt : EvaluatorRuntime K}
    {parameter_set : ParameterSet K} {param_index : ℕ} {trial : Trial K}
    (h : ctx.evaluate_parameter_set rt parameter_set param_index = .ok trial) :
    TrialOf ctx rt parameter_set trial := by
  unfold SearchContext.evaluate_parameter_set at h
  obtain ⟨candidate_train, htrain, h⟩ := bind_ok h
  obtain ⟨candidate_oos, hoos, h⟩ := bind_ok h
  obtain ⟨fast_screen, -, h⟩ := bind_ok h
  obtain ⟨bootstrap_report, -, h⟩ := bind_ok h
  cases h
  constructor
  · rfl
  · rfl
  · dsimp only
    have hpayload := showsCandidate_trial_payload (K := K)
    cases rt.batch_simulator_metadata with
    | none => exact hpayload _ fast_screen _
    | some metadata => exact (hpayload _ fast_screen _).set _ (by decide)
  · intro hsweep
    rw [hsweep] at htrain hoos
    exact ⟨htrain, hoos⟩

/-! ## The loop -/

/-- The trials of the parameter sets, in their order. -/
def SearchContext.Tried (ctx : SearchContext K) (rt : EvaluatorRuntime K)
    (trials : List (Trial K)) : Prop :=
  List.Forall₂ (fun item trial => ctx.evaluate_parameter_set rt item.1 item.2 = .ok trial)
    ctx.parameter_sets.zipIdx trials

/-- Each trial is that of its parameter set. -/
theorem SearchContext.Tried.forall₂ {ctx : SearchContext K} {rt : EvaluatorRuntime K}
    {trials : List (Trial K)} (h : ctx.Tried rt trials) :
    List.Forall₂ (TrialOf ctx rt) ctx.parameter_sets trials := by
  have hsets : ctx.parameter_sets.zipIdx.map Prod.fst = ctx.parameter_sets :=
    List.zipIdx_map_fst 0 ctx.parameter_sets
  rw [← hsets, List.forall₂_map_left_iff]
  exact h.imp fun item trial htrial => trialOf_evaluate htrial

/-- A trial is that of the parameter set in its place. -/
theorem SearchContext.Tried.trialOf {ctx : SearchContext K} {rt : EvaluatorRuntime K}
    {trials : List (Trial K)} (h : ctx.Tried rt trials) {index : ℕ} {trial : Trial K}
    (htrial : trials[index]? = some trial) :
    ∃ parameter_set, ctx.parameter_sets[index]? = some parameter_set
      ∧ TrialOf ctx rt parameter_set trial := by
  obtain ⟨hlength, hget⟩ := List.forall₂_iff_get.mp h.forall₂
  obtain ⟨hlt, rfl⟩ := List.getElem?_eq_some_iff.mp htrial
  exact ⟨_, List.getElem?_eq_getElem (by omega), hget index (by omega) hlt⟩

/-- Its summary is sorted by its own key. -/
theorem SearchContext.Tried.summary_key_eq {ctx : SearchContext K} {rt : EvaluatorRuntime K}
    {trials : List (Trial K)} (h : ctx.Tried rt trials) {trial : Trial K}
    (htrial : trial ∈ trials) :
    summary_key rt.texts trial.payload = .ok (selection_key trial.candidate) := by
  obtain ⟨index, hindex⟩ := List.mem_iff_getElem?.mp htrial
  obtain ⟨parameter_set, -, hof⟩ := h.trialOf hindex
  exact summary_key_of_shows rt.texts hof.shown

omit [Field K] [FloorRing K] in
theorem keep_trials (trials : List (Trial K)) :
    (trials.foldl SearchState.keep {}).best_candidate
        = first_max is_better_candidate (trials.map Trial.candidate)
      ∧ (trials.foldl SearchState.keep {}).search_summaries = trials.map Trial.payload := by
  induction trials using List.reverseRecOn with
  | nil => exact ⟨rfl, rfl⟩
  | append_singleton trials trial ih =>
      obtain ⟨hbest, hsummaries⟩ := ih
      rw [List.foldl_concat, List.map_append, List.map_append, List.map_singleton,
        List.map_singleton, first_max_concat, ← hbest, ← hsummaries]
      exact ⟨rfl, rfl⟩

/-- The loop keeps the best candidate of the trials, and the summaries of all. -/
theorem search_loop_ok {ctx : SearchContext K} {rt : EvaluatorRuntime K} {state : SearchState K}
    (h : search_loop ctx rt = .ok state) :
    ∃ trials, ctx.Tried rt trials
      ∧ state.best_candidate = first_max is_better_candidate (trials.map Trial.candidate)
      ∧ state.search_summaries = trials.map Trial.payload := by
  obtain ⟨trials, htrials, rfl⟩ := foldlM_keep_ok h
  exact ⟨trials, htrials, keep_trials trials⟩

omit [Field K] [FloorRing K] in
/-- That candidate is the first of the highest key. -/
theorem first_max_candidates (trials : List (Trial K)) :
    first_max is_better_candidate (trials.map Trial.candidate)
      = (trials.argmax fun trial => selection_key trial.candidate).map Trial.candidate := by
  rw [first_max_eq_argmax is_better_candidate_iff, argmax_map]
  rfl

/-! ## The sort -/

omit [FloorRing K] in
/-- A sort of summaries with known keys begins with the first of the highest key. -/
theorem head?_sort_summaries {texts : PyTexts K} {trials : List (Trial K)}
    {sorted_summaries : List (JsonObject K)}
    (hkeys : ∀ trial ∈ trials,
      summary_key texts trial.payload = .ok (selection_key trial.candidate))
    (h : sort_summaries texts (trials.map Trial.payload) = .ok sorted_summaries) :
    sorted_summaries.head? = (trials.argmax fun trial => selection_key trial.candidate).map
      Trial.payload := by
  unfold sort_summaries at h
  have hkeyed : ((trials.map Trial.payload).mapM fun summary => do
      return (← summary_key texts summary, summary))
        = Except.ok (trials.map fun trial => (selection_key trial.candidate, trial.payload)) := by
    rw [List.mapM_map]
    apply mapM_eq_ok_map
    intro trial htrial
    dsimp only [Function.comp]
    rw [hkeys trial htrial]
    rfl
  rw [hkeyed, ok_bind] at h
  cases h
  rw [List.head?_map, head?_insertionSort_eq_argmax Prod.fst, argmax_map, Option.map_map]
  rfl

/-! ## The evaluator -/

/-- The place of the first item of the highest key. -/
structure FirstMaxAt (trials : List (Trial K)) (index : ℕ) (best : Trial K) : Prop where
  at_index : trials[index]? = some best
  highest : ∀ trial ∈ trials, selection_key trial.candidate ≤ selection_key best.candidate
  first : ∀ earlier < index, ∀ trial, trials[earlier]? = some trial →
    selection_key trial.candidate < selection_key best.candidate

section Examples

/-- `x / (1 + |x|)` lies strictly between minus one and one. -/
theorem abs_squash_lt_one (x : ℚ) : |x / (1 + |x|)| < 1 := by
  have hpos : 0 < 1 + |x| := by positivity
  rw [abs_div, abs_of_pos hpos, div_lt_one hpos]
  linarith

theorem squash_strictMono : StrictMono fun x : ℚ => x / (1 + |x|) := by
  intro x y hlt
  dsimp only
  rw [div_lt_div_iff₀ (by positivity) (by positivity)]
  rcases abs_cases x with ⟨hx, hx'⟩ | ⟨hx, hx'⟩
  · rcases abs_cases y with ⟨hy, hy'⟩ | ⟨hy, hy'⟩
    · rw [hx, hy]
      linarith
    · linarith
  · rcases abs_cases y with ⟨hy, hy'⟩ | ⟨hy, hy'⟩
    · rw [hx, hy]
      nlinarith
    · rw [hx, hy]
      linarith

/-- A rational curve in place of the normal distribution. No quantile of it is asked for in
a window with fewer than four returns. -/
def rational_normal : NormalDist ℚ where
  cdf := fun x => (1 + x / (1 + |x|)) / 2
  inv_cdf := fun p => (2 * p - 1) / (1 - |2 * p - 1|)
  cdf_strictMono := by
    intro x y hlt
    have hsquash := squash_strictMono hlt
    dsimp only at hsquash ⊢
    linarith
  cdf_pos := by
    intro x
    have hsquash := neg_lt_of_abs_lt (abs_squash_lt_one x)
    linarith
  cdf_lt_one := by
    intro x
    have hsquash := lt_of_abs_lt (abs_squash_lt_one x)
    linarith
  cdf_zero := by norm_num
  cdf_inv_cdf := by
    intro p hpos hlt
    have hroom : 0 < 1 - |2 * p - 1| := by
      rw [sub_pos, abs_lt]
      constructor
      · linarith
      · linarith
    rw [abs_div, abs_of_pos hroom]
    field_simp
    ring

/-- The rising market of a sweep, without one: two strides to choose from. -/
def stride_study : GridStudy ℚ where
  toStudyConfig := grid_study
  parameter_grids := (∅ : Dict String (List (String × ParameterRange ℚ))).insert "mom_squeeze"
    [("entry_stride", { minimum := 3, maximum := 4, step := 1 })]
  search := ⟨some 1, 10, false, 3⟩

def stride_runtime : EvaluatorRuntime ℚ where
  math := PyMath.rat
  normal := rational_normal
  texts := plain_texts
  numba_available := false
  simulate_strategy_batch := fun _ => .error ""
  bootstrap_report := fun _ _ => .ok ⟨2, 0⟩
  seed_evidence := fun _ => []
  batch_simulator_metadata := none

def stride_selection : Except String (CandidateEvaluation ℚ) :=
  grid_evaluator stride_runtime stride_study (grid_windows fun index => index + 2).toSplitPack
    ⟨"mom_squeeze", [], []⟩ ⟨"mom_squeeze", .backbone⟩

end Examples

end ProofAlpha.App
