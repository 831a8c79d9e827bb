/-
The batch sweep over a parameter grid: `app/runtime.py`, `_run_grid_with_batch_sim`,
with the overlays it resolves and the condition under which the evaluator calls it.

The batch simulator is a parameter, a function of the keyword arguments of its call
(`BatchCall`); those the sweep does not name have the defaults of its signature. The
telemetry of the sweep is left out.
-/
import ProofAlpha.App.ScenarioEvaluation
import ProofAlpha.App.Splits
import ProofAlpha.Backtest.SimulatorNumba
import ProofAlpha.Optimizer.Phases

set_option autoImplicit false

namespace ProofAlpha.App

open ProofAlpha.Lib
open ProofAlpha.Data (DataSnapshot number_of)
open ProofAlpha.Backtest (BacktestResult BatchSimResult MaintenanceItem FeeItem RegimeLabel
  compute_funding_event_counts label_snapshot_regimes sharpe_ratio sortino_ratio max_drawdown
  equity_returns)

variable {K : Type} [Field K] [LinearOrder K] [FloorRing K]

/-! ## Overlays of a derived snapshot -/

omit [LinearOrder K] [FloorRing K] in
/-- `float(summary.get(key, 0.0))`. -/
def summary_number (summary : JsonObject K) (key : String) : K :=
  (number_of (summary.get key)).getD 0

/-- `_snapshot_dislocation_summary`, none for the empty dict. -/
def snapshot_dislocation_summary (snapshot : DataSnapshot K) : Option (DislocationSummary K) :=
  match snapshot.provenance.get "dislocation_summary" with
  | .dict stored =>
      let summary : DislocationSummary K :=
        { mark_premium_bps := pyRound (max 0 (summary_number stored "mark_premium_bps")) 6
          index_basis_bps := pyRound (max 0 (summary_number stored "index_basis_bps")) 6
          premium_spike_bars := max 0 (pyInt (summary_number stored "premium_spike_bars")) }
      if summary.mark_premium_bps = 0 ∧ summary.index_basis_bps = 0
          ∧ summary.premium_spike_bars = 0 then none
      else some summary
  | _ => none

/-- `_snapshot_dislocation_premium_bps`. -/
def snapshot_dislocation_premium_bps (snapshot : DataSnapshot K) : K :=
  match snapshot_dislocation_summary snapshot with
  | none => 0
  | some summary =>
      let spike_bonus_bps : K := (min summary.premium_spike_bars 6 : ℤ) * 10
      summary.mark_premium_bps + summary.index_basis_bps + spike_bonus_bps

/-- `_snapshot_dislocation_liquidity_penalty_bps`. -/
def snapshot_dislocation_liquidity_penalty_bps (snapshot : DataSnapshot K) : K :=
  match snapshot_dislocation_summary snapshot with
  | none => 0
  | some summary =>
      let basis_component := summary.index_basis_bps * 0.1
      let spike_component : K := (min summary.premium_spike_bars 6 : ℤ) * 2
      min 40 (basis_component + spike_component)

/-- The penalty and the delay of `_snapshot_execution_overlay_summary`, zero for the empty
dict. -/
def snapshot_execution_overlay (snapshot : DataSnapshot K) : K × ℤ :=
  match snapshot.provenance.get "scenario_execution_overlay" with
  | .dict stored =>
      (pyRound (max 0 (summary_number stored "liquidity_penalty_bps")) 6,
        max 0 (pyInt (summary_number stored "latency_delta_bars")))
  | _ => (0, 0)

/-- `_resolve_batch_execution_overlays`: the settings of a batch call on a snapshot. -/
def resolve_batch_execution_overlays (snapshot : DataSnapshot K) (settings : ExecutionSettings K) :
    ExecutionSettings K :=
  { settings with
    slippage_bps :=
      settings.slippage_bps + (snapshot_execution_overlay snapshot).1
        + snapshot_dislocation_liquidity_penalty_bps snapshot
    latency_bars := max 0 (settings.latency_bars + (snapshot_execution_overlay snapshot).2)
    liquidation_mark_premium_bps :=
      settings.liquidation_mark_premium_bps + snapshot_dislocation_premium_bps snapshot }

/-! ## The call -/

/-- The keyword arguments of `simulate_strategy_batch`. -/
structure BatchCall (K : Type) [One K] where
  closes : List K
  highs : List K
  lows : List K
  funding_rates : List K
  open_interest : List K
  liquidation_notional : List K
  spread_bps : List K
  depth_bid_1bp_usd : List K
  depth_ask_1bp_usd : List K
  latency_proxy_ms : List K
  stress_regimes : List RegimeLabel
  funding_event_counts : List ℤ
  signal_matrix : List (List Bool × List Bool)
  taker_fee_bps : K
  param_slippage_bps : List K
  param_latency_bars : List ℤ
  position_side : String
  position_leverage : K
  maintenance_margin_ratio : K
  liquidation_fee_bps : K
  liquidation_mark_price_weight : K
  liquidation_mark_premium_bps : K
  partial_liquidation_ratio : K := 1
  liquidation_cooldown_bars : ℤ := 0
  liquidation_step_schedule : Option (List K) := none
  maintenance_margin_schedule : List (MaintenanceItem K)
  liquidation_fee_schedule : List (FeeItem K)
  slippage_model : String

/-- `simulate_strategy_batch`. -/
abbrev BatchSimulator (K : Type) [One K] := BatchCall K → Except String (List (BatchSimResult K))

/-- The call that the sweep makes for the signals of one split. Of the settings it leaves out
the partial ratio, the cooldown and the step schedule. -/
def sweep_call (snapshot : DataSnapshot K) (taker_fee_bps : K)
    (signal_matrix : List (List Bool × List Bool)) (settings : ExecutionSettings K) : BatchCall K :=
  let market := snapshot.simulated
  let resolved := resolve_batch_execution_overlays snapshot settings
  { closes := market.candles.map Backtest.Candle.close
    highs := market.candles.map Backtest.Candle.high
    lows := market.candles.map Backtest.Candle.low
    funding_rates := snapshot.funding_rates
    open_interest := snapshot.open_interest
    liquidation_notional := snapshot.liquidation_notional
    spread_bps := snapshot.spread_bps
    depth_bid_1bp_usd := snapshot.depth_bid_1bp_usd
    depth_ask_1bp_usd := snapshot.depth_ask_1bp_usd
    latency_proxy_ms := snapshot.latency_proxy_ms
    stress_regimes := label_snapshot_regimes market
    funding_event_counts := compute_funding_event_counts market.candles snapshot.venue
    signal_matrix := signal_matrix
    taker_fee_bps := taker_fee_bps
    param_slippage_bps := List.replicate signal_matrix.length resolved.slippage_bps
    param_latency_bars := List.replicate signal_matrix.length resolved.latency_bars
    position_side := settings.position_side
    position_leverage := settings.position_leverage
    maintenance_margin_ratio := settings.maintenance_margin_ratio
    liquidation_fee_bps := settings.liquidation_fee_bps
    liquidation_mark_price_weight := settings.liquidation_mark_price_weight
    liquidation_mark_premium_bps := resolved.liquidation_mark_premium_bps
    maintenance_margin_schedule := settings.maintenance_margin_schedule
    liquidation_fee_schedule := settings.liquidation_fee_schedule
    slippage_model := settings.slippage_model }

/-- `_to_backtest_result`. -/
def to_backtest_result (m : PyMath K) (r : BatchSimResult K) : BacktestResult K :=
  let returns := equity_returns r.equity_curve
  normalize_result
    { trade_count := r.trade_count
      win_rate := r.win_rate
      gross_pnl := r.gross_pnl
      net_pnl := r.net_pnl
      fee_spend := r.fee_spend
      funding_spend := r.funding_spend
      -- the annualisation factor is left at its default, and so is the event list empty
      sharpe := sharpe_ratio m returns 1
      sortino := sortino_ratio m returns 1
      max_drawdown := max_drawdown r.equity_curve
      equity_curve := r.equity_curve
      liquidation_events := []
      execution_pressure_summary := r.execution_pressure_summary }

/-! ## The sweep -/

/-- `{i: _to_backtest_result(batch[i]) for i in range(n_sets)}`. -/
def sweep_results (m : PyMath K) (n_sets : ℕ) (batch_results : List (BatchSimResult K)) :
    Except String (List (BacktestResult K)) := do
  require (n_sets ≤ batch_results.length) "list index out of range"
  return (batch_results.take n_sets).map (to_backtest_result m)

/-- The two signal matrices, a pair for each parameter set. -/
def sweep_signals (m : PyMath K) (split_pack : SplitPack K) (strategy : StrategyGraph)
    (layer_name : String) (base_layer_parameters : LayerParameters K)
    (parameter_sets : List (ParameterSet K)) (settings : ExecutionSettings K) :
    Except String (List ((List Bool × List Bool) × (List Bool × List Bool))) :=
  parameter_sets.mapM fun parameter_set => do
    let merged := merge_layer_parameters base_layer_parameters layer_name parameter_set
    let train ← build_signals m split_pack.in_sample.simulated strategy merged
      settings.position_side
    let oos ← build_signals m split_pack.selection_oos.simulated strategy merged
      settings.position_side
    return (train, oos)

/-- The body of the `try` of `_run_grid_with_batch_sim`. -/
def sweep_splits (m : PyMath K) (simulate_strategy_batch : BatchSimulator K)
    (split_pack : SplitPack K) (strategy : StrategyGraph) (layer_name : String)
    (base_layer_parameters : LayerParameters K) (parameter_sets : List (ParameterSet K))
    (settings : ExecutionSettings K) :
    Except String (List (BacktestResult K) × List (BacktestResult K)) := do
  let signals ← sweep_signals m split_pack strategy layer_name base_layer_parameters
    parameter_sets settings
  -- both calls charge the taker fee of the in-sample window
  let taker_fee_bps := split_pack.in_sample.taker_fee_bps
  let batch_train ← simulate_strategy_batch
    (sweep_call split_pack.in_sample taker_fee_bps (signals.map Prod.fst) settings)
  let batch_oos ← simulate_strategy_batch
    (sweep_call split_pack.selection_oos taker_fee_bps (signals.map Prod.snd) settings)
  let train_results ← sweep_results m parameter_sets.length batch_train
  let oos_results ← sweep_results m parameter_sets.length batch_oos
  return (train_results, oos_results)

/-- `_run_grid_with_batch_sim`, none for the two empty dicts. -/
def run_grid_with_batch_sim (m : PyMath K) (simulate_strategy_batch : BatchSimulator K)
    (split_pack : SplitPack K) (strategy : StrategyGraph) (layer_name : String)
    (base_layer_parameters : LayerParameters K) (parameter_sets : List (ParameterSet K))
    (settings : ExecutionSettings K) :
    Option (List (BacktestResult K) × List (BacktestResult K)) :=
  if split_pack.in_sample.candles.length < 3 ∨ split_pack.selection_oos.candles.length < 3 then
    none
  else
    -- any exception falls back to the sequential evaluation
    (sweep_splits m simulate_strategy_batch split_pack strategy layer_name base_layer_parameters
      parameter_sets settings).toOption

omit [Field K] [LinearOrder K] [FloorRing K] in
/-- `_snapshot_supports_realistic_batch_sim`. -/
def snapshot_supports_realistic_batch_sim (snapshot : DataSnapshot K) : Bool :=
  !snapshot.spread_bps.isEmpty && !snapshot.depth_bid_1bp_usd.isEmpty
    && !snapshot.depth_ask_1bp_usd.isEmpty && !snapshot.latency_proxy_ms.isEmpty

omit [Field K] [LinearOrder K] [FloorRing K] in
/-- Whether the evaluator attempts the sweep. -/
def sweep_attempted (numba_available : Bool) (split_pack : SplitPack K) (set_count : ℕ)
    (slippage_model : String) : Bool :=
  let slippage_model := pyLower (pyStrip slippage_model)
  numba_available && decide (1 < set_count)
    && (slippage_model == "flat" || slippage_model == "dynamic"
      || (slippage_model == "realistic"
        && snapshot_supports_realistic_batch_sim split_pack.in_sample
        && snapshot_supports_realistic_batch_sim split_pack.selection_oos))

/-- The sweep of the evaluator: its results, none where it is not attempted or falls back. -/
def batch_sweep (m : PyMath K) (simulate_strategy_batch : BatchSimulator K)
    (numba_available : Bool) (split_pack : SplitPack K) (strategy : StrategyGraph)
    (layer_name : String) (base_layer_parameters : LayerParameters K)
    (parameter_sets : List (ParameterSet K)) (settings : ExecutionSettings K) :
    Option (List (BacktestResult K) × List (BacktestResult K)) :=
  if sweep_attempted numba_available split_pack parameter_sets.length settings.slippage_model then
    run_grid_with_batch_sim m simulate_strategy_batch split_pack strategy layer_name
      base_layer_parameters parameter_sets settings
  else none

/-- The two results the evaluator has of each parameter set: those of the sweep when there
are any, else those of the evaluation. -/
def candidate_results (m : PyMath K) (simulate_strategy_batch : BatchSimulator K)
    (numba_available : Bool) (split_pack : SplitPack K) (strategy : StrategyGraph)
    (layer_name : String) (base_layer_parameters : LayerParameters K)
    (parameter_sets : List (ParameterSet K)) (settings : ExecutionSettings K) :
    Except String (List (BacktestResult K × BacktestResult K)) :=
  match batch_sweep m simulate_strategy_batch numba_available split_pack strategy layer_name
      base_layer_parameters parameter_sets settings with
  | some (train_results, oos_results) => .ok (train_results.zip oos_results)
  | none =>
      parameter_sets.mapM fun parameter_set => do
        let merged := merge_layer_parameters base_layer_parameters layer_name parameter_set
        let train ← evaluate_strategy_with_settings m split_pack.in_sample strategy merged settings
        let oos ← evaluate_strategy_with_settings m split_pack.selection_oos strategy merged
          settings
        return (train, oos)

/-- The decision of the evaluator on each parameter set, by the two results of the incumbent
and the bootstrap report of the set. -/
def candidate_decisions (m : PyMath K) (simulate_strategy_batch : BatchSimulator K)
    (numba_available : Bool) (study : StudyConfig K) (split_pack : SplitPack K)
    (current_strategy candidate_strategy : StrategyGraph) (layer_name : String)
    (parameter_sets : List (ParameterSet K))
    (bootstrap_report : ParameterSet K → Optimizer.BootstrapReport K) (min_oos_trades : ℤ) :
    Except String (List Validation.PromotionDecision) := do
  let settings := study.runtime_settings.toExecutionSettings
  let incumbent_train ← study.evaluate m split_pack.in_sample current_strategy
    study.layer_parameters
  let incumbent_oos ← study.evaluate m split_pack.selection_oos current_strategy
    study.layer_parameters
  let candidates ← candidate_results m simulate_strategy_batch numba_available split_pack
    candidate_strategy layer_name study.layer_parameters parameter_sets settings
  return List.zipWith
    (fun (candidate : BacktestResult K × BacktestResult K) parameter_set =>
      Optimizer.evaluate_candidate incumbent_train incumbent_oos candidate.1 candidate.2
        (bootstrap_report parameter_set) min_oos_trades settings.position_leverage)
    candidates parameter_sets

end ProofAlpha.App
