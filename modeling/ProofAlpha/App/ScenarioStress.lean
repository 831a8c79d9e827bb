/-
How a scenario stresses a result: `app/runtime.py`, `_apply_scenario_stress`, with
the dislocation figures of a scenario.

The factors that the source computes in one go are definitions of their own here,
in the source's order.
-/
import ProofAlpha.Backtest.Simulator
import ProofAlpha.Validation.Scenarios

set_option autoImplicit false

namespace ProofAlpha.App

open ProofAlpha.Lib
open ProofAlpha.Validation
open ProofAlpha.Backtest (BacktestResult DataSnapshot LiquidationEvent)

/-- An entry of `liquidation_events` of a stressed result: one of the simulator's,
or the text that the stress adds. -/
inductive RiskEvent (K : Type)
  | liquidation (event : LiquidationEvent K)
  | synthetic (text : String)

/-- `BacktestResult` of `_apply_scenario_stress`. -/
structure StressedResult (K : Type) where
  trade_count : ℕ
  win_rate : K
  gross_pnl : K
  net_pnl : K
  fee_spend : K
  funding_spend : K
  sharpe : K
  sortino : K
  max_drawdown : K
  equity_curve : List K
  liquidation_events : List (RiskEvent K)

/-- A result as it stands before any stress. -/
def unstressed {K : Type} (baseline : BacktestResult K) : StressedResult K where
  trade_count := baseline.trade_count
  win_rate := baseline.win_rate
  gross_pnl := baseline.gross_pnl
  net_pnl := baseline.net_pnl
  fee_spend := baseline.fee_spend
  funding_spend := baseline.funding_spend
  sharpe := baseline.sharpe
  sortino := baseline.sortino
  max_drawdown := baseline.max_drawdown
  equity_curve := baseline.equity_curve
  liquidation_events := baseline.liquidation_events.map RiskEvent.liquidation

section Dislocation

variable {K : Type} [Field K] [LinearOrder K] [FloorRing K]

/-- The dict of `_scenario_dislocation_summary` when it is not empty. -/
structure DislocationSummary (K : Type) where
  mark_premium_bps : K
  index_basis_bps : K
  premium_spike_bars : ℤ

/-- `_scenario_dislocation_summary`, none for the empty dict. -/
def scenario_dislocation_summary (scenario : StressScenario K) : Option (DislocationSummary K) :=
  let summary : DislocationSummary K :=
    { mark_premium_bps := pyRound (max 0 scenario.mark_premium_bps) 6
      index_basis_bps := pyRound (max 0 scenario.index_basis_bps) 6
      premium_spike_bars := max 0 scenario.premium_spike_bars }
  if summary.mark_premium_bps = 0 ∧ summary.index_basis_bps = 0 ∧ summary.premium_spike_bars = 0 then
    none
  else some summary

/-- `_scenario_dislocation_premium_bps`. -/
def scenario_dislocation_premium_bps (scenario : StressScenario K) : K :=
  match scenario_dislocation_summary scenario with
  | none => 0
  | some summary =>
      let spike_bonus_bps : K := (min summary.premium_spike_bars 6 : ℤ) * 10
      summary.mark_premium_bps + summary.index_basis_bps + spike_bonus_bps

/-- `_scenario_dislocation_liquidity_penalty_bps`. -/
def scenario_dislocation_liquidity_penalty_bps (scenario : StressScenario K) : K :=
  match scenario_dislocation_summary scenario with
  | none => 0
  | some summary =>
      let basis_component := summary.index_basis_bps * 0.1
      let spike_component : K := (min summary.premium_spike_bars 6 : ℤ) * 2
      min 40 (basis_component + spike_component)

end Dislocation

section Stress

variable {K : Type} [Field K] [LinearOrder K]

omit [LinearOrder K] in
/-- `sum(values) / max(1, len(values))`. -/
def average (values : List K) : K := values.sum / (max 1 values.length : ℕ)

/-- The average liquidation against the average open interest. -/
def liquidation_share (snapshot : DataSnapshot K) : K :=
  average snapshot.liquidation_notional / max (average snapshot.open_interest) 1

/-- `squeeze_pressure`, and `leverage_pressure`. -/
def leverage_pressure (snapshot : DataSnapshot K) : K := min 0.35 (liquidation_share snapshot)

/-- `funding_pressure`. -/
def funding_pressure (snapshot : DataSnapshot K) : K :=
  min 0.20 (max 0 (average snapshot.funding_rates) * 20)

/-- What the short side scales the severity factor with. -/
def squeeze_factor (scenario : StressScenario K) (snapshot : DataSnapshot K) : K :=
  1 - leverage_pressure snapshot * 0.55 * max 1 scenario.liquidation_multiplier
    - funding_pressure snapshot * 0.35

/-- What volatility and open interest scale it with. -/
def regime_factor (scenario : StressScenario K) (snapshot : DataSnapshot K) : K :=
  (1 - max 0 (scenario.volatility_multiplier - 1) * 0.18)
    * (1 - max 0 (scenario.open_interest_multiplier - 1) * leverage_pressure snapshot * 0.5)

/-- `severity_factor`. -/
def severity_factor (scenario : StressScenario K) (effective_severity : K) (position_side : String)
    (snapshot : DataSnapshot K) : K :=
  let base := max 0.1 (1 - effective_severity * 0.65)
  let sided :=
    if position_side = "short" then max 0.05 (base * squeeze_factor scenario snapshot) else base
  let stressed := max 0.05 (sided * regime_factor scenario snapshot)
  if scenario.calibration_mode = "calibrated" then
    max 0.01 (stressed / max 1 scenario.jump_severity_factor)
  else stressed

/-- What the short side adds to the drawdown multiplier. -/
def squeeze_drawdown (scenario : StressScenario K) (position_side : String)
    (snapshot : DataSnapshot K) : K :=
  if position_side = "short" then
    leverage_pressure snapshot * 1.4 * max 1 scenario.liquidation_multiplier
      + funding_pressure snapshot * 0.6
  else 0

/-- `funding_multiplier`. -/
def funding_multiplier (scenario : StressScenario K) (effective_severity : K)
    (position_side : String) (snapshot : DataSnapshot K) : K :=
  (1 + effective_severity) * max 0.1 scenario.funding_multiplier
    + (if position_side = "short" then funding_pressure snapshot * 3 else 0)

/-- `_stress_funding_spend`. -/
def stress_funding_spend (baseline_funding_spend funding_multiplier : K) : K :=
  if 0 ≤ baseline_funding_spend then baseline_funding_spend * funding_multiplier
  else baseline_funding_spend + |baseline_funding_spend| * max 0 (funding_multiplier - 1)

variable [FloorRing K]

/-- What the dislocation premium scales the drawdown multiplier with. -/
def premium_factor (scenario : StressScenario K) : K :=
  if 0 < scenario_dislocation_premium_bps scenario then
    1 + scenario_dislocation_premium_bps scenario / 10000
  else 1

/-- `drawdown_multiplier`. -/
def drawdown_multiplier (scenario : StressScenario K) (effective_severity : K)
    (position_side : String) (snapshot : DataSnapshot K) : K :=
  let base := (1 + effective_severity * 1.7) * max 0.1 scenario.drawdown_multiplier
    * premium_factor scenario
  let sided := base + squeeze_drawdown scenario position_side snapshot
  let stressed := sided * (1 + max 0 (scenario.volatility_multiplier - 1) * 0.5)
    * (1 + max 0 (scenario.open_interest_multiplier - 1) * leverage_pressure snapshot)
  if scenario.calibration_mode = "calibrated" then
    stressed * max 1 scenario.hawkes_cascade_multiplier
  else stressed

/-- The texts that the stress adds to the liquidation events. -/
def synthetic_events (scenario : StressScenario K) (effective_severity : K) (position_side : String)
    (snapshot : DataSnapshot K) : List (RiskEvent K) :=
  (if 0 < scenario_dislocation_premium_bps scenario ∧ 0.7 ≤ effective_severity then
      [.synthetic (scenario.name ++ ":synthetic-mark-pressure")] else [])
  ++ (if position_side = "short" then
      if 0.85 ≤ effective_severity + leverage_pressure snapshot then
        [.synthetic (scenario.name ++ ":synthetic-short-squeeze")] else []
    else if 0.85 ≤ effective_severity then
      [.synthetic (scenario.name ++ ":synthetic-liquidation")] else [])

/-- `extra_liquidity_cost`. -/
def extra_liquidity_cost (scenario : StressScenario K) (gross_pnl : K) : K :=
  |gross_pnl| * (max 0 scenario.liquidity_penalty_bps
    + scenario_dislocation_liquidity_penalty_bps scenario) / 10000

/-- `_apply_scenario_stress` of a resolved scenario. -/
def apply_resolved_stress (baseline : BacktestResult K) (scenario : StressScenario K)
    (effective_severity : K) (position_side : String) (snapshot : DataSnapshot K) :
    StressedResult K :=
  let severity_factor := severity_factor scenario effective_severity position_side snapshot
  let stressed_gross_pnl := baseline.gross_pnl * severity_factor
  let stressed_fee_spend := baseline.fee_spend + extra_liquidity_cost scenario baseline.gross_pnl
  let stressed_funding_spend := stress_funding_spend baseline.funding_spend
    (funding_multiplier scenario effective_severity position_side snapshot)
  { trade_count := baseline.trade_count
    win_rate := max 0 (baseline.win_rate * severity_factor)
    gross_pnl := stressed_gross_pnl
    net_pnl := stressed_gross_pnl - stressed_fee_spend - stressed_funding_spend
    fee_spend := stressed_fee_spend
    funding_spend := stressed_funding_spend
    sharpe := baseline.sharpe * max 0.15 (1 - effective_severity * 0.8)
    sortino := baseline.sortino * max 0.15 (1 - effective_severity * 0.75)
    max_drawdown := -|baseline.max_drawdown|
      * drawdown_multiplier scenario effective_severity position_side snapshot
    equity_curve := baseline.equity_curve
    liquidation_events := baseline.liquidation_events.map RiskEvent.liquidation
      ++ synthetic_events scenario effective_severity position_side snapshot }

/-- `_apply_scenario_stress`. -/
def apply_scenario_stress (baseline : BacktestResult K) (scenario : StressScenario K)
    (effective_severity : K) (position_side : String) (snapshot : DataSnapshot K) :
    StressedResult K :=
  apply_resolved_stress baseline (resolve_scenario_profile scenario snapshot.venue)
    effective_severity position_side snapshot

end Stress

end ProofAlpha.App
