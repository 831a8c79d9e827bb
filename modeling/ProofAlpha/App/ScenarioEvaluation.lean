/-
The evaluation of a stress scenario: `app/runtime.py`, `scenario_evaluator` of
`build_runtime_functions`, with the snapshots it derives.

A calibrated scenario is estimated by `build_calibrated_scenario_profile`, whose
random path and Hawkes fit are a parameter here.
-/
import ProofAlpha.App.ScenarioStress
import ProofAlpha.App.Evaluation

set_option autoImplicit false

namespace ProofAlpha.App

open ProofAlpha.Lib
open ProofAlpha.Validation
open ProofAlpha.Data (DataSnapshot Candle clone_snapshot)

variable {K : Type} [Field K] [LinearOrder K] [FloorRing K]

/-- What is read of the profile `build_calibrated_scenario_profile` returns. -/
structure CalibratedProfile (K : Type) [Field K] where
  calibrated_scenario : StressScenario K
  stressed_path : List K

/-! ## Derived snapshots -/

/-- The candle that `_snapshot_with_stressed_path` moves to a stressed close. -/
def stressed_candle (candle : Candle K) (stressed_close : K) : Candle K :=
  let scale := stressed_close / max candle.close 1e-9
  let stressed_open := max (candle.open_ * scale) 1e-9
  let stressed_high := max (max (candle.high * scale) stressed_open) stressed_close
  let stressed_low := min (min (candle.low * scale) stressed_open) stressed_close
  { timestamp := candle.timestamp
    open_ := pyRound stressed_open 8
    high := pyRound stressed_high 8
    low := pyRound (max stressed_low 1e-9) 8
    close := pyRound stressed_close 8
    volume := candle.volume
    trade_count := 0 }

/-- `_snapshot_with_stressed_path`. -/
def snapshot_with_stressed_path (snapshot : DataSnapshot K) (stressed_path : List K)
    (scenario_name : String) : DataSnapshot K :=
  if stressed_path.length ≠ snapshot.candles.length
      ∨ stressed_path.any (fun stressed_close => decide (stressed_close ≤ 0)) then snapshot
  else
    clone_snapshot snapshot (snapshot.snapshot_id ++ ":calibrated:" ++ scenario_name)
      { candles := some (List.zipWith stressed_candle snapshot.candles stressed_path)
        provenance_updates :=
          [("transformation", .str "scenario_calibration"),
            ("scenario_name", .str scenario_name)] }

/-- The id of a snapshot derived once under a suffix. -/
def suffixed_id (snapshot_id suffix : String) : String :=
  if snapshot_id.endsWith suffix then snapshot_id else snapshot_id ++ suffix

/-- A stressed microstructure series. -/
def stressed_series (values : List K) (multiplier : K) : List K :=
  values.map fun value => pyRound (max 0 (value * multiplier)) 8

/-- `_snapshot_with_stressed_microstructure`. -/
def snapshot_with_stressed_microstructure (snapshot : DataSnapshot K) (scenario : StressScenario K)
    (scenario_name : String) : DataSnapshot K :=
  let spread_multiplier := max scenario.spread_multiplier 0
  let depth_multiplier := max scenario.depth_multiplier 0
  let latency_multiplier := max scenario.latency_multiplier 0
  if spread_multiplier = 1 ∧ depth_multiplier = 1 ∧ latency_multiplier = 1 then snapshot
  else if snapshot.spread_bps.isEmpty || snapshot.depth_bid_1bp_usd.isEmpty
      || snapshot.depth_ask_1bp_usd.isEmpty || snapshot.latency_proxy_ms.isEmpty then snapshot
  else
    clone_snapshot snapshot (suffixed_id snapshot.snapshot_id (":microstructure:" ++ scenario_name))
      { spread_bps := some (stressed_series snapshot.spread_bps spread_multiplier)
        depth_bid_1bp_usd := some (stressed_series snapshot.depth_bid_1bp_usd depth_multiplier)
        depth_ask_1bp_usd := some (stressed_series snapshot.depth_ask_1bp_usd depth_multiplier)
        latency_proxy_ms := some (stressed_series snapshot.latency_proxy_ms latency_multiplier)
        provenance_updates :=
          [("transformation", .str "scenario_microstructure_stress"),
            ("scenario_name", .str scenario_name),
            ("spread_multiplier", .float spread_multiplier),
            ("depth_multiplier", .float depth_multiplier),
            ("latency_multiplier", .float latency_multiplier)] }

/-- `_scenario_dislocation_summary` as it is stored. -/
def DislocationSummary.stored (summary : DislocationSummary K) : JsonValue K :=
  .dict
    [("mark_premium_bps", .float summary.mark_premium_bps),
      ("index_basis_bps", .float summary.index_basis_bps),
      ("premium_spike_bars", .int summary.premium_spike_bars)]

/-- `_snapshot_with_mark_index_dislocation`. -/
def snapshot_with_mark_index_dislocation (snapshot : DataSnapshot K) (scenario : StressScenario K)
    (scenario_name : String) : DataSnapshot K :=
  match scenario_dislocation_summary scenario with
  | none => snapshot
  | some summary =>
      clone_snapshot snapshot (suffixed_id snapshot.snapshot_id (":dislocation:" ++ scenario_name))
        { provenance_updates :=
            [("transformation", .str "scenario_mark_index_dislocation"),
              ("scenario_name", .str scenario_name),
              ("dislocation_summary", summary.stored)] }

/-- The dict of `_scenario_execution_overlay_summary` when it is not empty. -/
structure ExecutionOverlaySummary (K : Type) where
  scenario_name : String
  liquidity_penalty_bps : K
  latency_delta_bars : ℤ

/-- `_scenario_execution_overlay_summary`, none for the empty dict. -/
def scenario_execution_overlay_summary (scenario : StressScenario K) :
    Option (ExecutionOverlaySummary K) :=
  let summary : ExecutionOverlaySummary K :=
    { scenario_name := scenario.name
      liquidity_penalty_bps := pyRound (max 0 scenario.liquidity_penalty_bps) 6
      latency_delta_bars := max 0 scenario.latency_delta_bars }
  if summary.liquidity_penalty_bps = 0 ∧ summary.latency_delta_bars = 0 then none else some summary

/-- `_scenario_execution_overlay_summary` as it is stored. -/
def ExecutionOverlaySummary.stored (summary : ExecutionOverlaySummary K) : JsonValue K :=
  .dict
    [("scenario_name", .str summary.scenario_name),
      ("liquidity_penalty_bps", .float summary.liquidity_penalty_bps),
      ("latency_delta_bars", .int summary.latency_delta_bars)]

/-- `_snapshot_with_scenario_execution_overlay_summary`. -/
def snapshot_with_scenario_execution_overlay_summary (snapshot : DataSnapshot K)
    (scenario : StressScenario K) (scenario_name : String) : DataSnapshot K :=
  match scenario_execution_overlay_summary scenario with
  | none => snapshot
  | some summary =>
      clone_snapshot snapshot snapshot.snapshot_id
        { provenance_updates :=
            [("scenario_execution_overlay",
              { summary with scenario_name := scenario_name }.stored)] }

/-- The three snapshots derived one from the other. -/
def snapshot_under_scenario (snapshot : DataSnapshot K) (scenario : StressScenario K)
    (scenario_name : String) : DataSnapshot K :=
  let active_snapshot := snapshot_with_stressed_microstructure snapshot scenario scenario_name
  let active_snapshot :=
    snapshot_with_mark_index_dislocation active_snapshot scenario scenario_name
  snapshot_with_scenario_execution_overlay_summary active_snapshot scenario scenario_name

/-- `_resolve_scenario_runtime_inputs`. -/
def resolve_scenario_runtime_inputs
    (build_calibrated_scenario_profile :
      DataSnapshot K → StressScenario K → ℤ → CalibratedProfile K)
    (snapshot : DataSnapshot K) (scenario : StressScenario K) (seed : ℤ) :
    DataSnapshot K × StressScenario K :=
  let resolved := resolve_scenario_profile scenario snapshot.venue
  if resolved.calibration_mode ≠ "calibrated" then
    (snapshot_under_scenario snapshot resolved resolved.name, resolved)
  else
    let profile := build_calibrated_scenario_profile snapshot resolved seed
    let active_snapshot :=
      snapshot_with_stressed_path snapshot profile.stressed_path resolved.name
    (snapshot_under_scenario active_snapshot profile.calibrated_scenario resolved.name,
      profile.calibrated_scenario)

/-! ## The evaluation -/

/-- `_apply_scenario_execution_overlay`. -/
def apply_scenario_execution_overlay (m : PyMath K) (snapshot : DataSnapshot K)
    (strategy : StrategyGraph) (scenario : StressScenario K) (layer_parameters : LayerParameters K)
    (settings : ExecutionSettings K) : Except String (Backtest.BacktestResult K) :=
  let scenario := resolve_scenario_profile scenario snapshot.venue
  let dislocation_premium_bps := scenario_dislocation_premium_bps scenario
  let dislocation_liquidity_bps := scenario_dislocation_liquidity_penalty_bps scenario
  evaluate_strategy_with_settings m snapshot strategy layer_parameters
    { settings with
      slippage_bps :=
        settings.slippage_bps + scenario.liquidity_penalty_bps + dislocation_liquidity_bps
      latency_bars := max 0 (settings.latency_bars + scenario.latency_delta_bars)
      liquidation_mark_premium_bps :=
        settings.liquidation_mark_premium_bps + dislocation_premium_bps }

/-- `scenario_evaluator`. The call of the overlay names every setting but the slippage
model. -/
def scenario_evaluator (m : PyMath K)
    (build_calibrated_scenario_profile :
      DataSnapshot K → StressScenario K → ℤ → CalibratedProfile K)
    (study : StudyConfig K) (split_pack : SplitPack K) (strategy : StrategyGraph)
    (scenario : StressScenario K) : Except String (StressedResult K) := do
  let settings := study.runtime_settings
  let active := resolve_scenario_runtime_inputs build_calibrated_scenario_profile
    split_pack.selection_oos scenario study.seed
  let baseline ← apply_scenario_execution_overlay m active.1 strategy active.2
    study.layer_parameters
    { settings.toExecutionSettings with slippage_model := DEFAULT_SLIPPAGE_MODEL }
  return apply_scenario_stress baseline active.2
    (active.2.severity * settings.scenario_severity_multiplier) settings.position_side
    active.1.simulated

end ProofAlpha.App
