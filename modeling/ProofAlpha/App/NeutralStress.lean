/-
A neutral scenario leaves the figures of a result as they are.

Its multipliers are one and its penalties zero, so no snapshot is derived, the overlay
keeps every setting it is given, and the stress multiplies with one. On the short side
the market's own pressure has to be zero as well.
-/
import ProofAlpha.App.ScenarioEvaluation
import ProofAlpha.Backtest.Drawdown
import ProofAlpha.Validation.ScenarioResolution

set_option autoImplicit false

namespace ProofAlpha.App

open ProofAlpha.Lib
open ProofAlpha.Validation
open ProofAlpha.Data (DataSnapshot)
open ProofAlpha.Backtest (BacktestResult)

/-! ## Neutral scenarios -/

/-- Every field of the resolved scenario is neutral and its severity is zero. -/
structure IsNeutral {K : Type} [Field K] (resolved : StressScenario K) : Prop where
  severity : resolved.severity = 0
  funding_multiplier : resolved.funding_multiplier = 1
  liquidity_penalty_bps : resolved.liquidity_penalty_bps = 0
  spread_multiplier : resolved.spread_multiplier = 1
  depth_multiplier : resolved.depth_multiplier = 1
  latency_multiplier : resolved.latency_multiplier = 1
  latency_delta_bars : resolved.latency_delta_bars = 0
  drawdown_multiplier : resolved.drawdown_multiplier = 1
  mark_premium_bps : resolved.mark_premium_bps = 0
  index_basis_bps : resolved.index_basis_bps = 0
  premium_spike_bars : resolved.premium_spike_bars = 0
  open_interest_multiplier : resolved.open_interest_multiplier = 1
  liquidation_multiplier : resolved.liquidation_multiplier = 1
  volatility_multiplier : resolved.volatility_multiplier = 1
  calibration_mode : resolved.calibration_mode ≠ "calibrated"

/-- The long side, or the short side of a market without pressure. -/
def QuietSide {K : Type} [Field K] (position_side : String) (snapshot : DataSnapshot K) : Prop :=
  position_side = "long" ∨ position_side = "short"
    ∧ (∀ value ∈ snapshot.funding_rates, value = 0)
    ∧ (∀ value ∈ snapshot.open_interest, value = 0)
    ∧ ∀ value ∈ snapshot.liquidation_notional, value = 0

/-- The figures of a result that are compared. -/
structure Figures (K : Type) where
  trade_count : ℕ
  gross_pnl : K
  fee_spend : K
  funding_spend : K
  net_pnl : K
  sharpe : K
  max_drawdown : K

def result_figures {K : Type} (result : BacktestResult K) : Figures K where
  trade_count := result.trade_count
  gross_pnl := result.gross_pnl
  fee_spend := result.fee_spend
  funding_spend := result.funding_spend
  net_pnl := result.net_pnl
  sharpe := result.sharpe
  max_drawdown := result.max_drawdown

def StressedResult.figures {K : Type} (result : StressedResult K) : Figures K where
  trade_count := result.trade_count
  gross_pnl := result.gross_pnl
  fee_spend := result.fee_spend
  funding_spend := result.funding_spend
  net_pnl := result.net_pnl
  sharpe := result.sharpe
  max_drawdown := result.max_drawdown

variable {K : Type} [Field K] [LinearOrder K] [FloorRing K] [IsStrictOrderedRing K]

/-! ## The inputs -/

theorem IsNeutral.dislocation {scenario : StressScenario K} (h : IsNeutral scenario) :
    scenario_dislocation_summary scenario = none := by
  have hround : pyRound (max 0 (0 : K)) 6 = 0 := by
    rw [max_self]
    exact (decimal_zero 6).pyRound_eq
  unfold scenario_dislocation_summary
  rw [h.mark_premium_bps, h.index_basis_bps, h.premium_spike_bars, hround]
  exact if_pos ⟨rfl, rfl, rfl⟩

theorem IsNeutral.overlay {scenario : StressScenario K} (h : IsNeutral scenario) :
    scenario_execution_overlay_summary scenario = none := by
  have hround : pyRound (max 0 (0 : K)) 6 = 0 := by
    rw [max_self]
    exact (decimal_zero 6).pyRound_eq
  unfold scenario_execution_overlay_summary
  rw [h.liquidity_penalty_bps, h.latency_delta_bars, hround]
  exact if_pos ⟨rfl, rfl⟩

/-- A neutral scenario derives no snapshot. -/
theorem IsNeutral.snapshot {scenario : StressScenario K} (h : IsNeutral scenario)
    (snapshot : DataSnapshot K) (scenario_name : String) :
    snapshot_under_scenario snapshot scenario scenario_name = snapshot := by
  have hone : max (1 : K) 0 = 1 := max_eq_left zero_le_one
  have hmicro : snapshot_with_stressed_microstructure snapshot scenario scenario_name
      = snapshot := by
    unfold snapshot_with_stressed_microstructure
    rw [h.spread_multiplier, h.depth_multiplier, h.latency_multiplier, hone]
    exact if_pos ⟨rfl, rfl, rfl⟩
  unfold snapshot_under_scenario
  dsimp only
  rw [hmicro]
  unfold snapshot_with_mark_index_dislocation
  rw [h.dislocation]
  unfold snapshot_with_scenario_execution_overlay_summary
  rw [h.overlay]

theorem IsNeutral.runtime_inputs
    (build_calibrated_scenario_profile :
      DataSnapshot K → StressScenario K → ℤ → CalibratedProfile K)
    {snapshot : DataSnapshot K} {scenario : StressScenario K}
    (h : IsNeutral (resolve_scenario_profile scenario snapshot.venue)) (seed : ℤ) :
    resolve_scenario_runtime_inputs build_calibrated_scenario_profile snapshot scenario seed
      = (snapshot, resolve_scenario_profile scenario snapshot.venue) := by
  unfold resolve_scenario_runtime_inputs
  dsimp only
  rw [if_pos h.calibration_mode, h.snapshot]

/-! ## The overlay -/

/-- The settings that a neutral overlay evaluates with. -/
def neutral_settings (settings : ExecutionSettings K) : ExecutionSettings K :=
  { settings with latency_bars := max 0 settings.latency_bars
                  slippage_model := DEFAULT_SLIPPAGE_MODEL }

theorem IsNeutral.execution_overlay (m : PyMath K) {snapshot : DataSnapshot K}
    {scenario : StressScenario K} (h : IsNeutral (resolve_scenario_profile scenario snapshot.venue))
    (strategy : StrategyGraph) (layer_parameters : LayerParameters K)
    (settings : ExecutionSettings K) :
    apply_scenario_execution_overlay m snapshot strategy
        (resolve_scenario_profile scenario snapshot.venue) layer_parameters
        { settings with slippage_model := DEFAULT_SLIPPAGE_MODEL }
      = evaluate_strategy_with_settings m snapshot strategy layer_parameters
        (neutral_settings settings) := by
  have hpremium : scenario_dislocation_premium_bps
      (resolve_scenario_profile scenario snapshot.venue) = 0 := by
    unfold scenario_dislocation_premium_bps
    rw [h.dislocation]
  have hliquidity : scenario_dislocation_liquidity_penalty_bps
      (resolve_scenario_profile scenario snapshot.venue) = 0 := by
    unfold scenario_dislocation_liquidity_penalty_bps
    rw [h.dislocation]
  unfold apply_scenario_execution_overlay
  rw [resolve_scenario_profile_idem]
  dsimp only
  rw [hpremium, hliquidity, h.liquidity_penalty_bps, h.latency_delta_bars, add_zero, add_zero, add_zero, add_zero]
  rfl

/-! ## The stress -/

omit [LinearOrder K] [FloorRing K] [IsStrictOrderedRing K] in
theorem average_eq_zero {values : List K} (h : ∀ value ∈ values, value = 0) :
    average values = 0 := by
  unfold average
  rw [List.sum_eq_zero h, zero_div]

omit [FloorRing K] in
theorem leverage_pressure_eq_zero {snapshot : Backtest.DataSnapshot K}
    (h : ∀ value ∈ snapshot.liquidation_notional, value = 0) : leverage_pressure snapshot = 0 := by
  have hcap : (0 : K) ≤ 0.35 := by norm_num
  unfold leverage_pressure liquidation_share
  rw [average_eq_zero h, zero_div, min_eq_right hcap]

omit [FloorRing K] in
theorem funding_pressure_eq_zero {snapshot : Backtest.DataSnapshot K}
    (h : ∀ value ∈ snapshot.funding_rates, value = 0) : funding_pressure snapshot = 0 := by
  have hcap : (0 : K) ≤ 0.20 := by norm_num
  unfold funding_pressure
  rw [average_eq_zero h, max_self, zero_mul, min_eq_right hcap]

/-- Neither side of the market adds to a neutral stress. -/
structure NoPressure (position_side : String) (snapshot : Backtest.DataSnapshot K) : Prop where
  leverage : position_side = "short" → leverage_pressure snapshot = 0
  funding : position_side = "short" → funding_pressure snapshot = 0

omit [FloorRing K] in
theorem QuietSide.noPressure {position_side : String} {snapshot : DataSnapshot K}
    (h : QuietSide position_side snapshot) : NoPressure position_side snapshot.simulated := by
  rcases h with rfl | ⟨-, hfunding, -, hliquidation⟩
  · exact ⟨fun h => absurd h (by decide), fun h => absurd h (by decide)⟩
  · exact ⟨fun _ => leverage_pressure_eq_zero hliquidation,
      fun _ => funding_pressure_eq_zero hfunding⟩

section Factors

variable {scenario : StressScenario K} {position_side : String}
  {snapshot : Backtest.DataSnapshot K}

omit [FloorRing K] in
theorem IsNeutral.severity_factor (h : IsNeutral scenario)
    (hquiet : NoPressure position_side snapshot) :
    App.severity_factor scenario 0 position_side snapshot = 1 := by
  have hbase : max (0.1 : K) 1 = 1 := max_eq_right (by norm_num)
  have hfloor : max (0.05 : K) 1 = 1 := max_eq_right (by norm_num)
  have hregime : regime_factor scenario snapshot = 1 := by
    unfold regime_factor
    rw [h.volatility_multiplier, h.open_interest_multiplier]
    simp only [sub_self, max_self, zero_mul, sub_zero, mul_one]
  have hsided : (if position_side = "short" then
      max 0.05 ((1 : K) * squeeze_factor scenario snapshot) else 1) = 1 := by
    split_ifs with hside
    · unfold squeeze_factor
      rw [hquiet.leverage hside, hquiet.funding hside]
      simp only [zero_mul, sub_zero, mul_one, hfloor]
    · rfl
  unfold App.severity_factor
  dsimp only
  rw [if_neg h.calibration_mode, zero_mul, sub_zero, hbase, hsided, hregime, mul_one, hfloor]

omit [FloorRing K] in
theorem IsNeutral.funding_multiplier_eq (h : IsNeutral scenario)
    (hquiet : NoPressure position_side snapshot) :
    App.funding_multiplier scenario 0 position_side snapshot = 1 := by
  have hbase : max (0.1 : K) 1 = 1 := max_eq_right (by norm_num)
  have hsided : (if position_side = "short" then funding_pressure snapshot * 3 else 0) = 0 := by
    split_ifs with hside
    · rw [hquiet.funding hside, zero_mul]
    · rfl
  unfold App.funding_multiplier
  rw [h.funding_multiplier, hsided, hbase, add_zero, add_zero, one_mul]

theorem IsNeutral.drawdown_multiplier_eq (h : IsNeutral scenario)
    (hquiet : NoPressure position_side snapshot) :
    App.drawdown_multiplier scenario 0 position_side snapshot = 1 := by
  have hbase : max (0.1 : K) 1 = 1 := max_eq_right (by norm_num)
  have hpremium : premium_factor scenario = 1 := by
    unfold premium_factor scenario_dislocation_premium_bps
    rw [h.dislocation]
    exact if_neg (lt_irrefl 0)
  have hsqueeze : squeeze_drawdown scenario position_side snapshot = 0 := by
    unfold squeeze_drawdown
    split_ifs with hside
    · rw [hquiet.leverage hside, hquiet.funding hside, zero_mul, zero_mul, zero_mul, add_zero]
    · rfl
  unfold App.drawdown_multiplier
  dsimp only
  rw [if_neg h.calibration_mode, hpremium, hsqueeze, h.drawdown_multiplier,
    h.volatility_multiplier, h.open_interest_multiplier, hbase]
  simp only [sub_self, max_self, zero_mul, add_zero, mul_one]

omit [FloorRing K] [IsStrictOrderedRing K] in
/-- A funding multiplier of one changes neither a cost nor a gain. -/
theorem stress_funding_spend_one (funding_spend : K) :
    stress_funding_spend funding_spend 1 = funding_spend := by
  unfold stress_funding_spend
  rw [sub_self, max_self, mul_zero, add_zero, mul_one, ite_self]

/-- The stress of a neutral scenario keeps the figures. -/
theorem IsNeutral.figures (h : IsNeutral scenario) (hquiet : NoPressure position_side snapshot)
    {result : BacktestResult K}
    (hnet : result.net_pnl = result.gross_pnl - result.fee_spend - result.funding_spend)
    (hdrawdown : result.max_drawdown ≤ 0) :
    (apply_resolved_stress result scenario 0 position_side snapshot).figures
      = result_figures result := by
  have hratio : max (0.15 : K) (1 - 0 * 0.8) = 1 := by
    rw [zero_mul, sub_zero]
    exact max_eq_right (by norm_num)
  have hcost : extra_liquidity_cost scenario result.gross_pnl = 0 := by
    unfold extra_liquidity_cost scenario_dislocation_liquidity_penalty_bps
    rw [h.dislocation, h.liquidity_penalty_bps, max_self, add_zero, mul_zero, zero_div]
  unfold apply_resolved_stress StressedResult.figures result_figures
  dsimp only
  rw [h.severity_factor hquiet, h.funding_multiplier_eq hquiet, h.drawdown_multiplier_eq hquiet,
    hratio, hcost, stress_funding_spend_one, abs_of_nonpos hdrawdown, neg_neg, mul_one, mul_one,
    mul_one, add_zero, hnet]

end Factors

/-! ## The whole evaluation -/

/-- A neutral scenario is the evaluation with the settings of its overlay, under the
stress of a neutral scenario. -/
theorem scenario_evaluator_neutral (m : PyMath K)
    (build_calibrated_scenario_profile :
      DataSnapshot K → StressScenario K → ℤ → CalibratedProfile K)
    (study : StudyConfig K) (split_pack : SplitPack K) (strategy : StrategyGraph)
    {scenario : StressScenario K}
    (h : IsNeutral (resolve_scenario_profile scenario split_pack.selection_oos.venue)) :
    scenario_evaluator m build_calibrated_scenario_profile study split_pack strategy scenario
      = (evaluate_strategy_with_settings m split_pack.selection_oos strategy study.layer_parameters
          (neutral_settings study.runtime_settings.toExecutionSettings)).map fun baseline =>
        apply_resolved_stress baseline
          (resolve_scenario_profile scenario split_pack.selection_oos.venue) 0
          study.runtime_settings.position_side split_pack.selection_oos.simulated := by
  unfold scenario_evaluator
  dsimp only
  rw [h.runtime_inputs, h.execution_overlay, h.severity, zero_mul]
  cases evaluate_strategy_with_settings m split_pack.selection_oos strategy
      study.layer_parameters (neutral_settings study.runtime_settings.toExecutionSettings) with
  | error message => rfl
  | ok baseline =>
      show Except.ok (apply_scenario_stress baseline _ 0 _ _) = Except.ok _
      unfold apply_scenario_stress
      rw [show split_pack.selection_oos.simulated.venue = split_pack.selection_oos.venue from rfl,
        resolve_scenario_profile_idem]

end ProofAlpha.App
