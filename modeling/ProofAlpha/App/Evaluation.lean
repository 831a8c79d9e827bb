/-
The evaluation every other function of `app/runtime.py` makes:
`_evaluate_strategy_with_settings`, and the study that `build_runtime_functions` closes over:
`app/config.py`, `RuntimeSettings` and `StudyConfig`, with the snapshots of its split pack.

The keyword arguments the evaluation takes besides the snapshot, the strategy and the layer
parameters are the record `ExecutionSettings`; a study's runtime settings hold one. The
fields of a study are those the modelled functions read.
-/
import ProofAlpha.App.Signals
import ProofAlpha.Backtest.Simulator
import ProofAlpha.Data.Snapshots

set_option autoImplicit false

namespace ProofAlpha.App

open ProofAlpha.Lib
open ProofAlpha.Backtest (BacktestResult SimArguments MaintenanceItem FeeItem simulate_strategy)
open ProofAlpha.Data (DataSnapshot)

/-- The settings an evaluation runs with. -/
structure ExecutionSettings (K : Type) where
  slippage_bps : K
  latency_bars : ℤ
  position_side : String
  position_leverage : K
  maintenance_margin_ratio : K
  liquidation_fee_bps : K
  liquidation_mark_price_weight : K
  partial_liquidation_ratio : K
  liquidation_cooldown_bars : ℤ
  liquidation_step_schedule : List K
  liquidation_mark_premium_bps : K
  maintenance_margin_schedule : List (MaintenanceItem K)
  liquidation_fee_schedule : List (FeeItem K)
  slippage_model : String

/-- `slippage_model: str = "flat"`: the model of a call that does not name one. -/
def DEFAULT_SLIPPAGE_MODEL : String := "flat"

/-- The call of `simulate_strategy`: every option is given. -/
def ExecutionSettings.sim_arguments {K : Type} (settings : ExecutionSettings K)
    (signals : List Bool × List Bool) : SimArguments K where
  entry_signals := signals.1
  exit_signals := signals.2
  slippage_bps := settings.slippage_bps
  latency_bars := settings.latency_bars
  position_side := settings.position_side
  position_leverage := settings.position_leverage
  maintenance_margin_ratio := some settings.maintenance_margin_ratio
  liquidation_fee_bps := some settings.liquidation_fee_bps
  liquidation_mark_price_weight := some settings.liquidation_mark_price_weight
  partial_liquidation_ratio := some settings.partial_liquidation_ratio
  liquidation_cooldown_bars := some settings.liquidation_cooldown_bars
  liquidation_step_schedule := some (some settings.liquidation_step_schedule)
  liquidation_mark_premium_bps := some settings.liquidation_mark_premium_bps
  maintenance_margin_schedule := some settings.maintenance_margin_schedule
  liquidation_fee_schedule := some settings.liquidation_fee_schedule
  slippage_model := settings.slippage_model

variable {K : Type} [Field K] [LinearOrder K] [FloorRing K]

omit [LinearOrder K] [FloorRing K] in
/-- `BacktestResult(0, 0.0, 0.0, 0.0, 0.0, 0.0, 0.0, 0.0, 0.0, [], [])`. -/
def empty_result : BacktestResult K where
  trade_count := 0
  win_rate := 0
  gross_pnl := 0
  net_pnl := 0
  fee_spend := 0
  funding_spend := 0
  sharpe := 0
  sortino := 0
  max_drawdown := 0
  equity_curve := []
  liquidation_events := []
  execution_pressure_summary := none

/-- `_normalize_result` copies every field. -/
def normalize_result (result : BacktestResult K) : BacktestResult K where
  trade_count := result.trade_count
  win_rate := result.win_rate
  gross_pnl := result.gross_pnl
  net_pnl := result.net_pnl
  fee_spend := result.fee_spend
  funding_spend := result.funding_spend
  sharpe := result.sharpe
  sortino := result.sortino
  max_drawdown := result.max_drawdown
  equity_curve := result.equity_curve
  liquidation_events := result.liquidation_events
  execution_pressure_summary := result.execution_pressure_summary

/-- `_apply_layer_adjustments` passes the result through. -/
def apply_layer_adjustments (result : BacktestResult K) (_strategy : StrategyGraph)
    (_layer_parameters : LayerParameters K) (_position_side : String) : BacktestResult K :=
  result

/-- `_evaluate_strategy_with_settings`. -/
def evaluate_strategy_with_settings (m : PyMath K) (snapshot : DataSnapshot K)
    (strategy : StrategyGraph) (layer_parameters : LayerParameters K)
    (settings : ExecutionSettings K) : Except String (BacktestResult K) :=
  if snapshot.candles.length < 3 then .ok empty_result
  else do
    let signals ← build_signals m snapshot.simulated strategy layer_parameters
      settings.position_side
    let raw ← simulate_strategy m snapshot.simulated (settings.sim_arguments signals)
    let normalized := normalize_result raw
    return apply_layer_adjustments normalized strategy layer_parameters settings.position_side

/-! ## The study -/

/-- `RuntimeSettings`. -/
structure RuntimeSettings (K : Type) extends ExecutionSettings K where
  scenario_severity_multiplier : K

/-- `StudyConfig`. -/
structure StudyConfig (K : Type) where
  seed : ℤ
  layer_parameters : LayerParameters K
  runtime_settings : RuntimeSettings K

/-- The snapshots of `build_split_pack`. -/
structure SplitPack (K : Type) where
  in_sample : DataSnapshot K
  selection_oos : DataSnapshot K

/-- The call of `_evaluate_strategy_with_settings` with all of a study's settings. -/
def StudyConfig.evaluate {K : Type} [Field K] [LinearOrder K] [FloorRing K]
    (study : StudyConfig K) (m : Lib.PyMath K) (snapshot : DataSnapshot K)
    (strategy : StrategyGraph) (layer_parameters : LayerParameters K) :
    Except String (Backtest.BacktestResult K) :=
  evaluate_strategy_with_settings m snapshot strategy layer_parameters
    study.runtime_settings.toExecutionSettings

end ProofAlpha.App
