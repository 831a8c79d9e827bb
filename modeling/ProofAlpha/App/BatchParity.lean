/-
When the batch sweep of a grid agrees with the evaluation of each parameter set.

Assumed is that the batch simulator and `simulate_strategy` agree on equal arguments
(`AgreesOn`). The sweep gives the batch simulator the arguments of the evaluation but for
the options of the liquidation branch, which it leaves at their defaults
(`sweep_call_arguments`), and it neither annualises the two ratios nor reports a
liquidation. So a set comes out the same when its run has no liquidation and either no
factor to miss or nothing earned (`RunAlike`).
-/
import ProofAlpha.App.BatchGrid
import ProofAlpha.App.NeutralScenario
import ProofAlpha.Backtest.Annualization
import ProofAlpha.Backtest.UnliquidatedRun

set_option autoImplicit false

namespace ProofAlpha.App

open ProofAlpha.Lib ProofAlpha.Lib.IndexedLoop
open ProofAlpha.Data (DataSnapshot)
open ProofAlpha.Backtest (BacktestResult BatchSimResult SimArguments SimConfig LiquidationSettings
  PositionSide NeverLiquidated NetsToZero PositiveRoots LiquidationSteps sim_config simulate_bars
  simulate_strategy check_arguments annualization_factor sharpe_ratio sortino_ratio max_drawdown
  equity_returns load_microstructure_series normalize_microstructure label_snapshot_regimes
  compute_funding_event_counts)

/-! ## Equal arguments -/

section Arguments

variable {K : Type} [One K]

/-- The arguments of `simulate_strategy` that a call gives for each of its signal pairs; all
options are given. -/
def BatchCall.arguments (call : BatchCall K) : List (SimArguments K) :=
  List.zipWith
    (fun (signals : List Bool × List Bool) (param : K × ℤ) =>
      { entry_signals := signals.1
        exit_signals := signals.2
        slippage_bps := param.1
        latency_bars := param.2
        position_side := call.position_side
        position_leverage := call.position_leverage
        maintenance_margin_ratio := some call.maintenance_margin_ratio
        liquidation_fee_bps := some call.liquidation_fee_bps
        liquidation_mark_price_weight := some call.liquidation_mark_price_weight
        partial_liquidation_ratio := some call.partial_liquidation_ratio
        liquidation_cooldown_bars := some call.liquidation_cooldown_bars
        liquidation_step_schedule := some call.liquidation_step_schedule
        liquidation_mark_premium_bps := some call.liquidation_mark_premium_bps
        maintenance_margin_schedule := some call.maintenance_margin_schedule
        liquidation_fee_schedule := some call.liquidation_fee_schedule
        slippage_model := call.slippage_model })
    call.signal_matrix (call.param_slippage_bps.zip call.param_latency_bars)

end Arguments

variable {K : Type} [Field K] [LinearOrder K] [FloorRing K]

/-- The series of a call are those `simulate_strategy` reads of a snapshot. The order book
is only read under the realistic model. -/
structure BatchCall.Shows (call : BatchCall K) (snapshot : Backtest.DataSnapshot K) : Prop where
  closes : call.closes = snapshot.candles.map Backtest.Candle.close
  highs : call.highs = snapshot.candles.map Backtest.Candle.high
  lows : call.lows = snapshot.candles.map Backtest.Candle.low
  funding_rates : call.funding_rates = snapshot.funding_rates
  open_interest : call.open_interest = snapshot.open_interest
  liquidation_notional : call.liquidation_notional = snapshot.liquidation_notional
  taker_fee_bps : call.taker_fee_bps = snapshot.taker_fee_bps
  stress_regimes : call.stress_regimes = label_snapshot_regimes snapshot
  funding_event_counts :
    call.funding_event_counts = compute_funding_event_counts snapshot.candles snapshot.venue
  microstructure : pyLower (pyStrip call.slippage_model) = "realistic" →
    load_microstructure_series snapshot snapshot.candles.length
      = normalize_microstructure
          ⟨call.spread_bps, call.depth_bid_1bp_usd, call.depth_ask_1bp_usd, call.latency_proxy_ms⟩
          snapshot.candles.length

omit [LinearOrder K] [FloorRing K] in
/-- The figures the two result types share. -/
structure SameFigures (batch_result : BatchSimResult K) (result : BacktestResult K) : Prop where
  trade_count : batch_result.trade_count = result.trade_count
  win_rate : batch_result.win_rate = result.win_rate
  gross_pnl : batch_result.gross_pnl = result.gross_pnl
  net_pnl : batch_result.net_pnl = result.net_pnl
  fee_spend : batch_result.fee_spend = result.fee_spend
  funding_spend : batch_result.funding_spend = result.funding_spend
  equity_curve : batch_result.equity_curve = result.equity_curve
  execution_pressure_summary :
    batch_result.execution_pressure_summary = result.execution_pressure_summary

/-- The two simulators agree on a call and a snapshot it shows: where the reference
accepts the arguments of every set, the batch returns its figures. -/
def AgreesOn (m : PyMath K) (simulate_strategy_batch : BatchSimulator K) (call : BatchCall K)
    (snapshot : Backtest.DataSnapshot K) : Prop :=
  call.Shows snapshot →
    ∀ results, call.arguments.mapM (simulate_strategy m snapshot) = .ok results →
      ∃ batch_results, simulate_strategy_batch call = .ok batch_results
        ∧ List.Forall₂ SameFigures batch_results results

/-! ## The law -/

/-- What the sweep returns for a grid is what the evaluation returns for each of its sets. -/
def GridAgrees (m : PyMath K) (simulate_strategy_batch : BatchSimulator K)
    (split_pack : SplitPack K) (strategy : StrategyGraph) (layer_name : String)
    (base_layer_parameters : LayerParameters K) (parameter_sets : List (ParameterSet K))
    (settings : ExecutionSettings K) : Prop :=
  let evaluate (snapshot : DataSnapshot K) (parameter_set : ParameterSet K) :=
    evaluate_strategy_with_settings m snapshot strategy
      (merge_layer_parameters base_layer_parameters layer_name parameter_set) settings
  ∀ train_results oos_results,
    batch_sweep m simulate_strategy_batch true split_pack strategy layer_name
        base_layer_parameters parameter_sets settings = some (train_results, oos_results) →
      parameter_sets.mapM (evaluate split_pack.in_sample) = .ok train_results
        ∧ parameter_sets.mapM (evaluate split_pack.selection_oos) = .ok oos_results

/-! ## The condition -/

/-- The provenance of a window holds no scenario. -/
def NoOverlay (snapshot : DataSnapshot K) : Prop :=
  snapshot_execution_overlay snapshot = (0, 0)
    ∧ snapshot_dislocation_liquidity_penalty_bps snapshot = 0
    ∧ snapshot_dislocation_premium_bps snapshot = 0

/-- The configuration of an evaluation. -/
def evaluation_config (m : PyMath K) (snapshot : DataSnapshot K) (settings : ExecutionSettings K)
    (checked : PositionSide × LiquidationSettings K) (signals : List Bool × List Bool) :
    SimConfig K :=
  sim_config m snapshot.simulated (settings.sim_arguments signals) checked.1 checked.2

/-- The run of a window has no liquidation, and there is no factor to miss: the timeframe
has none, or the run nets to zero. -/
def RunAlike (m : PyMath K) (snapshot : DataSnapshot K) (settings : ExecutionSettings K)
    (signals : List Bool × List Bool) : Prop :=
  ∀ checked, settings.check snapshot = .ok checked →
    let cfg := evaluation_config m snapshot settings checked signals
    NeverLiquidated m cfg ∧ (annualization_factor m snapshot.timeframe = 1 ∨ NetsToZero m cfg)

/-- That of every run of a sweep that is made. -/
def RunsAlike (m : PyMath K) (split_pack : SplitPack K) (strategy : StrategyGraph)
    (layer_name : String) (base_layer_parameters : LayerParameters K)
    (parameter_sets : List (ParameterSet K)) (settings : ExecutionSettings K) : Prop :=
  sweep_attempted true split_pack parameter_sets.length settings.slippage_model = true →
  3 ≤ split_pack.in_sample.candles.length → 3 ≤ split_pack.selection_oos.candles.length →
  ∀ signals, sweep_signals m split_pack strategy layer_name base_layer_parameters parameter_sets
      settings = .ok signals →
    ∀ pair ∈ signals, RunAlike m split_pack.in_sample settings pair.1
      ∧ RunAlike m split_pack.selection_oos settings pair.2

/-! ## The calls of the sweep -/

/-- A call shows the window it is made for. -/
theorem sweep_call_shows (snapshot : DataSnapshot K)
    (signal_matrix : List (List Bool × List Bool)) {settings : ExecutionSettings K}
    (hrealistic : pyLower (pyStrip settings.slippage_model) = "realistic" →
      snapshot_supports_realistic_batch_sim snapshot = true) :
    (sweep_call snapshot snapshot.taker_fee_bps signal_matrix settings).Shows snapshot.simulated where
  closes := rfl
  highs := rfl
  lows := rfl
  funding_rates := rfl
  open_interest := rfl
  liquidation_notional := rfl
  taker_fee_bps := rfl
  stress_regimes := rfl
  funding_event_counts := rfl
  microstructure := by
    intro hmodel
    -- the typed series are given, so the provenance dict is not looked at
    have hgiven := hrealistic hmodel
    unfold snapshot_supports_realistic_batch_sim at hgiven
    simp only [Bool.and_eq_true, Bool.not_eq_true'] at hgiven
    obtain ⟨⟨⟨hspread, hbid⟩, hask⟩, hlatency⟩ := hgiven
    have htyped : ∀ length, ∃ micro, normalize_microstructure
        ⟨snapshot.spread_bps, snapshot.depth_bid_1bp_usd, snapshot.depth_ask_1bp_usd,
          snapshot.latency_proxy_ms⟩ length = some micro := by
      intro length
      unfold normalize_microstructure
      rw [hspread, hbid, hask, hlatency]
      exact ⟨_, rfl⟩
    obtain ⟨micro, hmicro⟩ := htyped snapshot.simulated.candles.length
    show Option.or (normalize_microstructure ⟨snapshot.spread_bps, snapshot.depth_bid_1bp_usd,
      snapshot.depth_ask_1bp_usd, snapshot.latency_proxy_ms⟩ _) _ = _
    rw [hmicro, Option.some_or]
    exact hmicro.symm

/-- Without an overlay the settings of a call are those of the study. -/
theorem resolve_batch_execution_overlays_eq {snapshot : DataSnapshot K} (h : NoOverlay snapshot)
    {settings : ExecutionSettings K} (hlatency : 0 ≤ settings.latency_bars) :
    resolve_batch_execution_overlays snapshot settings = settings := by
  obtain ⟨hoverlay, hpenalty, hpremium⟩ := h
  unfold resolve_batch_execution_overlays
  rw [hoverlay, hpenalty, hpremium, add_zero, add_zero, add_zero, add_zero, max_eq_right hlatency]

/-- Without an overlay a call gives the arguments of the evaluation, but for the options of
the liquidation branch. -/
theorem sweep_call_arguments {snapshot : DataSnapshot K} (h : NoOverlay snapshot)
    {settings : ExecutionSettings K} (hlatency : 0 ≤ settings.latency_bars) (taker_fee_bps : K)
    (signal_matrix : List (List Bool × List Bool)) :
    (sweep_call snapshot taker_fee_bps signal_matrix settings).arguments
      = signal_matrix.map fun signals => (settings.sim_arguments signals).unstepped := by
  unfold BatchCall.arguments sweep_call
  dsimp only
  rw [resolve_batch_execution_overlays_eq h hlatency, List.zip_replicate', ← List.map_const',
    List.zipWith_map_right, List.zipWith_self]
  rfl

/-! ## One run -/

/-- What `simulate_strategy` returns for a configuration. -/
def run_result (m : PyMath K) (cfg : SimConfig K) (annualization_factor : K) : BacktestResult K :=
  let s := (simulate_bars m cfg).1
  let equity_curve := (simulate_bars m cfg).2
  { trade_count := s.trade_count
    win_rate := if s.trade_count = 0 then 0 else (s.winning_trades : K) / (s.trade_count : K)
    gross_pnl := s.gross_pnl
    net_pnl := s.gross_pnl - s.fee_spend - s.funding_spend
    fee_spend := s.fee_spend
    funding_spend := s.funding_spend
    sharpe := sharpe_ratio m (equity_returns equity_curve) annualization_factor
    sortino := sortino_ratio m (equity_returns equity_curve) annualization_factor
    max_drawdown := max_drawdown equity_curve
    equity_curve := equity_curve
    liquidation_events :=
      (run (Backtest.bar_step m cfg) Backtest.SimState.initial cfg.bars).2.filterMap
        Backtest.BarOutput.liquidation
    execution_pressure_summary :=
      Backtest.execution_pressure_summary cfg.use_realistic_slippage s }

theorem simulate_strategy_eq (m : PyMath K) {snapshot : Backtest.DataSnapshot K}
    {args : SimArguments K} {checked : PositionSide × LiquidationSettings K}
    (h : check_arguments snapshot args = .ok checked) :
    simulate_strategy m snapshot args
      = .ok (run_result m (sim_config m snapshot args checked.1 checked.2)
          (annualization_factor m snapshot.timeframe)) := by
  unfold simulate_strategy
  rw [h, ok_bind]
  rfl

/-- The conversion keeps the figures; the two ratios are taken anew, without the factor, and
no liquidation is reported. -/
theorem to_backtest_result_eq {m : PyMath K} {batch_result : BatchSimResult K} {cfg : SimConfig K}
    {annualization_factor : K}
    (h : SameFigures batch_result (run_result m cfg annualization_factor)) :
    to_backtest_result m batch_result
      = { run_result m cfg 1 with liquidation_events := [] } := by
  unfold to_backtest_result normalize_result
  dsimp only
  rw [h.trade_count, h.win_rate, h.gross_pnl, h.net_pnl, h.fee_spend, h.funding_spend,
    h.equity_curve, h.execution_pressure_summary]
  rfl

variable [IsStrictOrderedRing K]

/-- The result of the batch run is that of the evaluation exactly when no liquidation is
lost and no factor is missed. -/
theorem batch_result_eq_iff {m : PyMath K} (hroots : PositiveRoots m) {cfg : SimConfig K}
    (steps : LiquidationSteps K) (hbars : 3 ≤ cfg.bars)
    (hfirst : cfg.entry_signals.getD 0 false = false) (annualization_factor : K) :
    { run_result m (cfg.with_steps steps) 1 with liquidation_events := [] }
        = run_result m cfg annualization_factor
      ↔ NeverLiquidated m cfg ∧ (annualization_factor = 1 ∨ NetsToZero m cfg) := by
  have hlength : 2 ≤ (equity_returns (simulate_bars m cfg).2).length := by
    rw [Backtest.equity_returns_length, Backtest.simulate_bars_length]
    omega
  have hratios := Backtest.ratios_eq_iff hroots hlength annualization_factor
  rw [Backtest.run_returns_sum_eq_zero_iff m (by omega) hfirst] at hratios
  constructor
  · intro h
    have hevents := congrArg BacktestResult.liquidation_events h
    have hnever : NeverLiquidated m cfg :=
      (Backtest.liquidation_events_eq_nil_iff m cfg).mp hevents.symm
    have hsharpe := congrArg BacktestResult.sharpe h
    have hsortino := congrArg BacktestResult.sortino h
    unfold run_result at hsharpe hsortino
    dsimp only at hsharpe hsortino
    rw [Backtest.simulate_bars_with_steps steps hnever] at hsharpe hsortino
    exact ⟨hnever, hratios.mp ⟨hsharpe, hsortino⟩⟩
  · rintro ⟨hnever, hfactor⟩
    obtain ⟨hsharpe, hsortino⟩ := hratios.mpr hfactor
    unfold run_result
    dsimp only
    rw [Backtest.simulate_bars_with_steps steps hnever,
      (Backtest.liquidation_events_eq_nil_iff m cfg).mpr hnever, hsharpe, hsortino]
    rfl

/-! ## One window -/

/-- What the sweep returns for the signals of a window. -/
def swept_result (m : PyMath K) (snapshot : DataSnapshot K) (settings : ExecutionSettings K)
    (checked : PositionSide × LiquidationSettings K) (signals : List Bool × List Bool) :
    BacktestResult K :=
  { run_result m
      (sim_config m snapshot.simulated (settings.sim_arguments signals).unstepped checked.1
        checked.2.unstepped) 1 with
    liquidation_events := [] }

/-- What the evaluation returns for them. -/
def evaluated_result (m : PyMath K) (snapshot : DataSnapshot K) (settings : ExecutionSettings K)
    (checked : PositionSide × LiquidationSettings K) (signals : List Bool × List Bool) :
    BacktestResult K :=
  run_result m (evaluation_config m snapshot settings checked signals)
    (annualization_factor m snapshot.timeframe)

omit [IsStrictOrderedRing K] in
theorem evaluate_eq {m : PyMath K} {snapshot : DataSnapshot K} {strategy : StrategyGraph}
    {layer_parameters : LayerParameters K} {settings : ExecutionSettings K}
    {checked : PositionSide × LiquidationSettings K} {signals : List Bool × List Bool}
    (hlong : 3 ≤ snapshot.candles.length) (hcheck : settings.check snapshot = .ok checked)
    (hsignals : build_signals m snapshot.simulated strategy layer_parameters
      settings.position_side = .ok signals) :
    evaluate_strategy_with_settings m snapshot strategy layer_parameters settings
      = .ok (evaluated_result m snapshot settings checked signals) := by
  have hlength := build_signals_length hsignals
  have hcandles : snapshot.simulated.candles.length = snapshot.candles.length :=
    List.length_map _
  rw [hcandles] at hlength
  have harguments := (check_arguments_eq_check settings snapshot hlength).trans hcheck
  unfold evaluate_strategy_with_settings
  rw [if_neg (by omega), hsignals, ok_bind, simulate_strategy_eq m harguments, ok_bind]
  rfl

/-- Signals of a window as the generators make them. -/
def WellFormed (snapshot : DataSnapshot K) (signals : List Bool × List Bool) : Prop :=
  signals.1.length = snapshot.candles.length ∧ signals.2.length = snapshot.candles.length
    ∧ signals.1.getD 0 false = false

omit [IsStrictOrderedRing K] in
theorem build_signals_wellFormed {m : PyMath K} {snapshot : DataSnapshot K}
    {strategy : StrategyGraph} {layer_parameters : LayerParameters K} {position_side : String}
    {signals : List Bool × List Bool}
    (h : build_signals m snapshot.simulated strategy layer_parameters position_side = .ok signals) :
    WellFormed snapshot signals := by
  have hcandles : snapshot.simulated.candles.length = snapshot.candles.length :=
    List.length_map _
  obtain ⟨hentry, hexit⟩ := build_signals_length h
  exact ⟨hentry.trans hcandles, hexit.trans hcandles, build_signals_first h⟩

/-- The sweep's result of a window is the evaluation's exactly when the run is alike. -/
theorem swept_result_eq_iff {m : PyMath K} (hroots : PositiveRoots m) {snapshot : DataSnapshot K}
    {settings : ExecutionSettings K} {checked : PositionSide × LiquidationSettings K}
    {signals : List Bool × List Bool} (hlong : 3 ≤ snapshot.candles.length)
    (hcheck : settings.check snapshot = .ok checked) (hsignals : WellFormed snapshot signals) :
    swept_result m snapshot settings checked signals
        = evaluated_result m snapshot settings checked signals
      ↔ RunAlike m snapshot settings signals := by
  let cfg := evaluation_config m snapshot settings checked signals
  have hbars : 3 ≤ cfg.bars := by
    have hcandles : cfg.bars = snapshot.candles.length := List.length_map _
    omega
  unfold swept_result evaluated_result
  rw [Backtest.sim_config_unstepped]
  refine (batch_result_eq_iff hroots _ hbars hsignals.2.2 _).trans ?_
  constructor
  · intro halike checked' hcheck'
    rw [hcheck] at hcheck'
    cases hcheck'
    exact halike
  · intro halike
    exact halike checked hcheck

/-- The reference simulator accepts the arguments of a call. -/
theorem simulate_unstepped (m : PyMath K) {snapshot : DataSnapshot K}
    {settings : ExecutionSettings K} {checked : PositionSide × LiquidationSettings K}
    {signals : List Bool × List Bool} (hcheck : settings.check snapshot = .ok checked)
    (hsignals : WellFormed snapshot signals) :
    simulate_strategy m snapshot.simulated (settings.sim_arguments signals).unstepped
      = .ok (run_result m
          (sim_config m snapshot.simulated (settings.sim_arguments signals).unstepped checked.1
            checked.2.unstepped) (annualization_factor m snapshot.timeframe)) := by
  obtain ⟨hentry, hexit, -⟩ := hsignals
  have harguments := (check_arguments_eq_check settings snapshot ⟨hentry, hexit⟩).trans hcheck
  have hunstepped := Backtest.check_arguments_unstepped harguments
  rw [simulate_strategy_eq m hunstepped]
  rfl

/-- The batch results of a window that `simulate_strategy` accepts. -/
theorem sweep_window {m : PyMath K} {simulate_strategy_batch : BatchSimulator K}
    {snapshot : DataSnapshot K} {settings : ExecutionSettings K}
    {checked : PositionSide × LiquidationSettings K} {signals : List (List Bool × List Bool)}
    (hagree : AgreesOn m simulate_strategy_batch
      (sweep_call snapshot snapshot.taker_fee_bps signals settings) snapshot.simulated)
    (hrealistic : pyLower (pyStrip settings.slippage_model) = "realistic" →
      snapshot_supports_realistic_batch_sim snapshot = true)
    (hoverlay : NoOverlay snapshot) (hcheck : settings.check snapshot = .ok checked)
    (hsignals : ∀ pair ∈ signals, WellFormed snapshot pair) :
    ∃ batch_results, simulate_strategy_batch
          (sweep_call snapshot snapshot.taker_fee_bps signals settings) = .ok batch_results
      ∧ sweep_results m signals.length batch_results
        = .ok (signals.map (swept_result m snapshot settings checked)) := by
  have hrun := mapM_eq_ok_map fun pair hpair => simulate_unstepped m hcheck (hsignals pair hpair)
  have harguments := congrArg (List.mapM (simulate_strategy m snapshot.simulated))
    (sweep_call_arguments hoverlay (check_latency hcheck) snapshot.taker_fee_bps signals)
  rw [List.mapM_map] at harguments
  obtain ⟨batch_results, hbatch, hsame⟩ :=
    hagree (sweep_call_shows snapshot signals hrealistic) _ (harguments.trans hrun)
  have hlength := hsame.length_eq
  rw [List.length_map] at hlength
  rw [List.forall₂_map_right_iff] at hsame
  have hconverted : batch_results.map (to_backtest_result m)
      = signals.map (swept_result m snapshot settings checked) := by
    rw [← List.forall₂_eq_eq_eq, List.forall₂_map_left_iff, List.forall₂_map_right_iff]
    exact hsame.imp fun batch_result pair hfigures => to_backtest_result_eq hfigures
  refine ⟨batch_results, hbatch, ?_⟩
  unfold sweep_results
  rw [require_ok (decide_eq_true hlength.ge), List.take_of_length_le hlength.le, hconverted]
  rfl

/-! ## The grid -/

omit [Field K] [LinearOrder K] [FloorRing K] [IsStrictOrderedRing K] in
/-- A sweep under the realistic model has the order book of both windows. -/
theorem sweep_attempted_realistic {split_pack : SplitPack K} {set_count : ℕ}
    {slippage_model : String}
    (h : sweep_attempted true split_pack set_count slippage_model = true)
    (hmodel : pyLower (pyStrip slippage_model) = "realistic") :
    snapshot_supports_realistic_batch_sim split_pack.in_sample = true
      ∧ snapshot_supports_realistic_batch_sim split_pack.selection_oos = true := by
  have hflat : ("realistic" == "flat") = false := by decide
  have hdynamic : ("realistic" == "dynamic") = false := by decide
  unfold sweep_attempted at h
  dsimp only at h
  rw [hmodel, hflat, hdynamic] at h
  simp only [Bool.true_and, Bool.false_or, Bool.and_eq_true] at h
  exact ⟨h.2.1.2, h.2.2⟩

/-- The windows of a sweep with the settings the simulator has accepted on both. -/
structure SweptWindows (m : PyMath K) (simulate_strategy_batch : BatchSimulator K)
    (split_pack : SplitPack K) (settings : ExecutionSettings K) where
  checked_in_sample : PositionSide × LiquidationSettings K
  checked_oos : PositionSide × LiquidationSettings K
  in_sample_check : settings.check split_pack.in_sample = .ok checked_in_sample
  oos_check : settings.check split_pack.selection_oos = .ok checked_oos
  same_fee : split_pack.in_sample.taker_fee_bps = split_pack.selection_oos.taker_fee_bps
  in_sample_overlay : NoOverlay split_pack.in_sample
  oos_overlay : NoOverlay split_pack.selection_oos
  in_sample_agrees : ∀ signals, AgreesOn m simulate_strategy_batch
    (sweep_call split_pack.in_sample split_pack.in_sample.taker_fee_bps signals settings)
    split_pack.in_sample.simulated
  oos_agrees : ∀ signals, AgreesOn m simulate_strategy_batch
    (sweep_call split_pack.selection_oos split_pack.in_sample.taker_fee_bps signals settings)
    split_pack.selection_oos.simulated

section Grid

variable {m : PyMath K} {simulate_strategy_batch : BatchSimulator K} {split_pack : SplitPack K}
  {strategy : StrategyGraph} {layer_name : String} {base_layer_parameters : LayerParameters K}
  {parameter_sets : List (ParameterSet K)} {settings : ExecutionSettings K}
  {signals : List ((List Bool × List Bool) × (List Bool × List Bool))}

omit [IsStrictOrderedRing K] in
/-- A pair of signals for each set, and every pair is one of a set. -/
theorem sweep_signals_mem
    (h : sweep_signals m split_pack strategy layer_name base_layer_parameters parameter_sets
      settings = .ok signals) {pair : (List Bool × List Bool) × (List Bool × List Bool)}
    (hpair : pair ∈ signals) :
    WellFormed split_pack.in_sample pair.1 ∧ WellFormed split_pack.selection_oos pair.2 := by
  obtain ⟨parameter_set, -, hset⟩ := (mem_mapM_ok h pair).mp hpair
  obtain ⟨train, htrain, hset⟩ := bind_ok hset
  obtain ⟨oos, hoos, hset⟩ := bind_ok hset
  cases hset
  exact ⟨build_signals_wellFormed htrain, build_signals_wellFormed hoos⟩

/-- What a sweep returns. -/
theorem batch_sweep_eq (w : SweptWindows m simulate_strategy_batch split_pack settings)
    (hattempted : sweep_attempted true split_pack parameter_sets.length settings.slippage_model
      = true)
    (hin_sample : 3 ≤ split_pack.in_sample.candles.length)
    (hoos : 3 ≤ split_pack.selection_oos.candles.length)
    (hsignals : sweep_signals m split_pack strategy layer_name base_layer_parameters
      parameter_sets settings = .ok signals) :
    batch_sweep m simulate_strategy_batch true split_pack strategy layer_name
        base_layer_parameters parameter_sets settings
      = some
          (signals.map fun pair =>
              swept_result m split_pack.in_sample settings w.checked_in_sample pair.1,
            signals.map fun pair =>
              swept_result m split_pack.selection_oos settings w.checked_oos pair.2) := by
  have hlength : signals.length = parameter_sets.length := length_of_mapM_ok hsignals
  have htrain_signals : ∀ pair ∈ signals.map Prod.fst, WellFormed split_pack.in_sample pair := by
    intro pair hpair
    obtain ⟨both, hboth, rfl⟩ := List.mem_map.mp hpair
    exact (sweep_signals_mem hsignals hboth).1
  have hoos_signals : ∀ pair ∈ signals.map Prod.snd, WellFormed split_pack.selection_oos pair := by
    intro pair hpair
    obtain ⟨both, hboth, rfl⟩ := List.mem_map.mp hpair
    exact (sweep_signals_mem hsignals hboth).2
  obtain ⟨batch_train, hbatch_train, htrain_results⟩ := sweep_window (w.in_sample_agrees _)
    (fun hmodel => (sweep_attempted_realistic hattempted hmodel).1) w.in_sample_overlay
    w.in_sample_check htrain_signals
  have hoos_agrees := w.oos_agrees (signals.map Prod.snd)
  rw [w.same_fee] at hoos_agrees
  obtain ⟨batch_oos, hbatch_oos, hoos_results⟩ := sweep_window hoos_agrees
    (fun hmodel => (sweep_attempted_realistic hattempted hmodel).2) w.oos_overlay
    w.oos_check hoos_signals
  rw [← w.same_fee] at hbatch_oos
  rw [List.length_map, hlength, List.map_map] at htrain_results hoos_results
  unfold batch_sweep run_grid_with_batch_sim sweep_splits
  rw [if_pos hattempted, if_neg (by omega), hsignals, ok_bind]
  dsimp only
  rw [hbatch_train, ok_bind, hbatch_oos, ok_bind, htrain_results, ok_bind, hoos_results, ok_bind]
  rfl

omit [IsStrictOrderedRing K] in
/-- A sweep that returns something was made, and all its signals could be built. -/
theorem batch_sweep_some {results : List (BacktestResult K) × List (BacktestResult K)}
    (h : batch_sweep m simulate_strategy_batch true split_pack strategy layer_name
      base_layer_parameters parameter_sets settings = some results) :
    sweep_attempted true split_pack parameter_sets.length settings.slippage_model = true
      ∧ 3 ≤ split_pack.in_sample.candles.length ∧ 3 ≤ split_pack.selection_oos.candles.length
      ∧ ∃ signals, sweep_signals m split_pack strategy layer_name base_layer_parameters
          parameter_sets settings = .ok signals := by
  unfold batch_sweep at h
  split_ifs at h with hattempted
  unfold run_grid_with_batch_sim at h
  split_ifs at h with hshort
  obtain ⟨hin_sample, hoos⟩ := not_or.mp hshort
  refine ⟨hattempted, not_lt.mp hin_sample, not_lt.mp hoos, ?_⟩
  cases hsignals : sweep_signals m split_pack strategy layer_name base_layer_parameters
      parameter_sets settings with
  | ok signals => exact ⟨signals, rfl⟩
  | error message =>
      unfold sweep_splits at h
      rw [hsignals] at h
      cases h

omit [IsStrictOrderedRing K] in
/-- What the evaluations of the sets return. -/
theorem evaluations_eq (w : SweptWindows m simulate_strategy_batch split_pack settings)
    (hin_sample : 3 ≤ split_pack.in_sample.candles.length)
    (hoos : 3 ≤ split_pack.selection_oos.candles.length)
    (hsignals : sweep_signals m split_pack strategy layer_name base_layer_parameters
      parameter_sets settings = .ok signals) :
    (parameter_sets.mapM fun parameter_set =>
        evaluate_strategy_with_settings m split_pack.in_sample strategy
          (merge_layer_parameters base_layer_parameters layer_name parameter_set) settings)
        = .ok (signals.map fun pair =>
          evaluated_result m split_pack.in_sample settings w.checked_in_sample pair.1)
      ∧ (parameter_sets.mapM fun parameter_set =>
        evaluate_strategy_with_settings m split_pack.selection_oos strategy
          (merge_layer_parameters base_layer_parameters layer_name parameter_set) settings)
        = .ok (signals.map fun pair =>
          evaluated_result m split_pack.selection_oos settings w.checked_oos pair.2) := by
  constructor
  · apply mapM_ok_map _ hsignals
    intro parameter_set pair hset
    obtain ⟨train, htrain, hset⟩ := bind_ok hset
    obtain ⟨oos, -, hset⟩ := bind_ok hset
    cases hset
    exact evaluate_eq hin_sample w.in_sample_check htrain
  · apply mapM_ok_map _ hsignals
    intro parameter_set pair hset
    obtain ⟨train, -, hset⟩ := bind_ok hset
    obtain ⟨oos, hoos_signals, hset⟩ := bind_ok hset
    cases hset
    exact evaluate_eq hoos w.oos_check hoos_signals

/-- Over two windows whose settings are accepted, the sweep agrees with the evaluations
exactly when every run is alike. -/
theorem grid_agrees_iff (hroots : PositiveRoots m)
    (w : SweptWindows m simulate_strategy_batch split_pack settings) :
    GridAgrees m simulate_strategy_batch split_pack strategy layer_name base_layer_parameters
        parameter_sets settings
      ↔ RunsAlike m split_pack strategy layer_name base_layer_parameters parameter_sets
        settings := by
  constructor
  · intro hagrees hattempted hin_sample hoos signals hsignals pair hpair
    obtain ⟨htrain, hselection⟩ :=
      hagrees _ _ (batch_sweep_eq w hattempted hin_sample hoos hsignals)
    obtain ⟨hevaluated, hevaluated_oos⟩ := evaluations_eq w hin_sample hoos hsignals
    obtain ⟨htrain_signals, hoos_signals⟩ := sweep_signals_mem hsignals hpair
    have htrain_eq := Except.ok.inj (hevaluated.symm.trans htrain)
    have hoos_eq := Except.ok.inj (hevaluated_oos.symm.trans hselection)
    constructor
    · apply (swept_result_eq_iff hroots hin_sample w.in_sample_check htrain_signals).mp
      exact (List.map_inj_left.mp htrain_eq pair hpair).symm
    · apply (swept_result_eq_iff hroots hoos w.oos_check hoos_signals).mp
      exact (List.map_inj_left.mp hoos_eq pair hpair).symm
  · intro halike train_results oos_results hsweep
    obtain ⟨hattempted, hin_sample, hoos, signals, hsignals⟩ := batch_sweep_some hsweep
    have hruns := halike hattempted hin_sample hoos signals hsignals
    rw [batch_sweep_eq w hattempted hin_sample hoos hsignals] at hsweep
    obtain ⟨hevaluated, hevaluated_oos⟩ := evaluations_eq w hin_sample hoos hsignals
    cases hsweep
    constructor
    · refine hevaluated.trans (congrArg Except.ok (List.map_congr_left fun pair hpair => ?_))
      obtain ⟨htrain_signals, -⟩ := sweep_signals_mem hsignals hpair
      exact ((swept_result_eq_iff hroots hin_sample w.in_sample_check htrain_signals).mpr
        (hruns pair hpair).1).symm
    · refine hevaluated_oos.trans (congrArg Except.ok (List.map_congr_left fun pair hpair => ?_))
      obtain ⟨-, hoos_signals⟩ := sweep_signals_mem hsignals hpair
      exact ((swept_result_eq_iff hroots hoos w.oos_check hoos_signals).mpr
        (hruns pair hpair).2).symm

omit [IsStrictOrderedRing K] in
/-- Where they agree, the results of the evaluator are the same with and without the
sweep. -/
theorem GridAgrees.candidate_results_eq
    (h : GridAgrees m simulate_strategy_batch split_pack strategy layer_name base_layer_parameters
      parameter_sets settings) :
    candidate_results m simulate_strategy_batch true split_pack strategy layer_name
        base_layer_parameters parameter_sets settings
      = candidate_results m simulate_strategy_batch false split_pack strategy layer_name
        base_layer_parameters parameter_sets settings := by
  unfold candidate_results
  cases hsweep : batch_sweep m simulate_strategy_batch true split_pack strategy layer_name
      base_layer_parameters parameter_sets settings with
  | none => rfl
  | some results =>
      obtain ⟨htrain, hoos⟩ := h _ _ hsweep
      exact (mapM_zip_ok htrain hoos).symm

omit [IsStrictOrderedRing K] in
/-- So are its decisions. -/
theorem GridAgrees.candidate_decisions_eq {study : StudyConfig K} {current_strategy : StrategyGraph}
    (h : GridAgrees m simulate_strategy_batch split_pack strategy layer_name
      study.layer_parameters parameter_sets study.runtime_settings.toExecutionSettings)
    (bootstrap_report : ParameterSet K → Optimizer.BootstrapReport K) (min_oos_trades : ℤ) :
    candidate_decisions m simulate_strategy_batch true study split_pack current_strategy strategy
        layer_name parameter_sets bootstrap_report min_oos_trades
      = candidate_decisions m simulate_strategy_batch false study split_pack current_strategy
        strategy layer_name parameter_sets bootstrap_report min_oos_trades := by
  unfold candidate_decisions
  dsimp only
  rw [h.candidate_results_eq]

end Grid

/-- For every study: the sweep agrees with the evaluations exactly when every run is alike.
The incumbent has been evaluated on both windows before, with the same settings. -/
theorem batch_sweep_agrees_iff {m : PyMath K} (hroots : PositiveRoots m)
    {simulate_strategy_batch : BatchSimulator K} {texts : PyTexts K} {snapshot : DataSnapshot K}
    {split_pack : SplitWindows K} (hsplit : build_split_pack texts snapshot = .ok split_pack)
    (study : StudyConfig K) {incumbent : StrategyGraph}
    {incumbent_train incumbent_oos : BacktestResult K}
    (htrain : study.evaluate m split_pack.in_sample incumbent study.layer_parameters
      = .ok incumbent_train)
    (hoos : study.evaluate m split_pack.selection_oos incumbent study.layer_parameters
      = .ok incumbent_oos)
    (hin_sample_agrees : ∀ signals, AgreesOn m simulate_strategy_batch
      (sweep_call split_pack.in_sample split_pack.in_sample.taker_fee_bps signals
        study.runtime_settings.toExecutionSettings) split_pack.in_sample.simulated)
    (hoos_agrees : ∀ signals, AgreesOn m simulate_strategy_batch
      (sweep_call split_pack.selection_oos split_pack.in_sample.taker_fee_bps signals
        study.runtime_settings.toExecutionSettings) split_pack.selection_oos.simulated)
    (hin_sample_overlay : NoOverlay split_pack.in_sample)
    (hoos_overlay : NoOverlay split_pack.selection_oos) (strategy : StrategyGraph)
    (layer_name : String) (parameter_sets : List (ParameterSet K)) :
    GridAgrees m simulate_strategy_batch split_pack.toSplitPack strategy layer_name
        study.layer_parameters parameter_sets study.runtime_settings.toExecutionSettings
      ↔ RunsAlike m split_pack.toSplitPack strategy layer_name study.layer_parameters
        parameter_sets study.runtime_settings.toExecutionSettings := by
  by_cases hlong : 3 ≤ split_pack.in_sample.candles.length
      ∧ 3 ≤ split_pack.selection_oos.candles.length
  · obtain ⟨hin_sample, hselection⟩ := hlong
    obtain ⟨checked_in_sample, hin_sample_check⟩ := evaluate_ok_check (by omega) htrain
    obtain ⟨checked_oos, hoos_check⟩ := evaluate_ok_check (by omega) hoos
    -- both windows are slices of one snapshot, so they charge one fee
    obtain ⟨in_sample_end, selection_end, hin, hout, -⟩ := build_split_pack_ok hsplit
    have hfee : split_pack.in_sample.taker_fee_bps = split_pack.selection_oos.taker_fee_bps := by
      obtain ⟨-, -, hin_fee, -⟩ := slice_snapshot_frame snapshot 0 in_sample_end "in-sample"
      obtain ⟨-, -, hout_fee, -⟩ :=
        slice_snapshot_frame snapshot in_sample_end selection_end "selection-oos"
      rw [hin, hout]
      exact hin_fee.trans hout_fee.symm
    exact grid_agrees_iff hroots
      { checked_in_sample := checked_in_sample
        checked_oos := checked_oos
        in_sample_check := hin_sample_check
        oos_check := hoos_check
        same_fee := hfee
        in_sample_overlay := hin_sample_overlay
        oos_overlay := hoos_overlay
        in_sample_agrees := hin_sample_agrees
        oos_agrees := hoos_agrees }
  · -- a window too short is not swept
    constructor
    · intro _ _ hin_sample hselection
      exact absurd ⟨hin_sample, hselection⟩ hlong
    · intro _ train_results oos_results hsweep
      obtain ⟨-, hin_sample, hselection, -⟩ := batch_sweep_some hsweep
      exact absurd ⟨hin_sample, hselection⟩ hlong

/-! ## A batch simulator -/

omit [IsStrictOrderedRing K] in
/-- The batch result of a run of the reference simulator. -/
def reference_result (m : PyMath K) (market : Backtest.DataSnapshot K) (args : SimArguments K) :
    Except String (BatchSimResult K) := do
  let checked ← check_arguments market args
  let cfg := sim_config m market args checked.1 checked.2
  let s := (simulate_bars m cfg).1
  return {
    trade_count := s.trade_count
    winning_trades := s.winning_trades
    gross_pnl := s.gross_pnl
    fee_spend := s.fee_spend
    funding_spend := s.funding_spend
    net_pnl := s.gross_pnl - s.fee_spend - s.funding_spend
    equity_curve := (simulate_bars m cfg).2
    execution_pressure_summary :=
      Backtest.execution_pressure_summary cfg.use_realistic_slippage s }

/-- A batch simulator that runs the reference on the market with as many bars as its call. -/
def replayed_batch (m : PyMath K) (markets : List (Backtest.DataSnapshot K)) : BatchSimulator K :=
  fun call =>
    match markets.find? (fun market => market.candles.length == call.closes.length) with
    | some market => call.arguments.mapM (reference_result m market)
    | none => .error "no market has as many bars"

omit [IsStrictOrderedRing K] in
/-- It agrees with the reference on every market that it finds. -/
theorem replayed_batch_agrees (m : PyMath K) {markets : List (Backtest.DataSnapshot K)}
    {market : Backtest.DataSnapshot K}
    (hfind : markets.find? (fun other => other.candles.length == market.candles.length)
      = some market) (call : BatchCall K) :
    AgreesOn m (replayed_batch m markets) call market := by
  intro hshows results hresults
  have hlength : call.closes.length = market.candles.length := by
    rw [hshows.closes, List.length_map]
  unfold replayed_batch
  rw [hlength, hfind]
  apply mapM_ok_forall₂ _ hresults
  intro args result hrun
  unfold simulate_strategy at hrun
  obtain ⟨checked, hcheck, hrun⟩ := bind_ok hrun
  unfold reference_result
  rw [hcheck, ok_bind]
  refine ⟨_, rfl, ?_⟩
  rw [← Except.ok.inj hrun]
  exact ⟨rfl, rfl, rfl, rfl, rfl, rfl, rfl, rfl⟩

section Examples

/-- Fifteen hourly bars without costs. -/
def grid_market (close : ℕ → ℚ) : DataSnapshot ℚ where
  snapshot_id := "grid"
  symbol := "BTCUSDT"
  venue := "binance"
  timeframe := "1h"
  candles := (List.range 15).map fun index => probe_candle index (close index)
  funding_rates := []
  open_interest := []
  liquidation_notional := []
  maker_fee_bps := 0
  taker_fee_bps := 0

def grid_windows (close : ℕ → ℚ) : SplitWindows ℚ where
  in_sample := slice_snapshot (grid_market close) 0 9 "in-sample"
  selection_oos := slice_snapshot (grid_market close) 9 12 "selection-oos"
  final_holdout := slice_snapshot (grid_market close) 12 15 "final-holdout"

theorem ok_of_isSome {α : Type} (result : Except String α) (h : result.toOption.isSome = true) :
    ∃ a, result = .ok a := by
  cases result with
  | ok a => exact ⟨a, rfl⟩
  | error message => cases h

theorem build_grid_windows (close : ℕ → ℚ) :
    build_split_pack plain_texts (grid_market close) = .ok (grid_windows close) := by
  have htotal : (grid_market close).candles.length = 15 := by
    unfold grid_market
    rw [List.length_map, List.length_range]
  have hquality : assert_candidate_feature_quality plain_texts (grid_market close) = .ok () := rfl
  unfold build_split_pack
  rw [hquality, ok_bind]
  dsimp only
  rw [htotal]
  rfl

/-- A study of `mom_squeeze` that pays no slippage. -/
def grid_study : StudyConfig ℚ :=
  ⟨0, probe_parameters, { default_settings "flat" with slippage_bps := 0 }⟩

def stride_sets : List (ParameterSet ℚ) :=
  [(∅ : ParameterSet ℚ).insert "entry_stride" 3, (∅ : ParameterSet ℚ).insert "entry_stride" 4]

/-- A batch simulator for the windows of a market. -/
def grid_batch (close : ℕ → ℚ) : BatchSimulator ℚ :=
  replayed_batch PyMath.rat
    [(grid_windows close).in_sample.simulated, (grid_windows close).selection_oos.simulated]

theorem grid_batch_agrees (close : ℕ → ℚ) (call : BatchCall ℚ) :
    AgreesOn PyMath.rat (grid_batch close) call (grid_windows close).in_sample.simulated
      ∧ AgreesOn PyMath.rat (grid_batch close) call (grid_windows close).selection_oos.simulated :=
  ⟨replayed_batch_agrees PyMath.rat rfl call, replayed_batch_agrees PyMath.rat rfl call⟩

/-- On a market that stands still the theorem applies. -/
theorem batch_sweep_agrees_iff_still :
    let windows := grid_windows fun _ => 2
    let settings := grid_study.runtime_settings.toExecutionSettings
    GridAgrees PyMath.rat (grid_batch fun _ => 2) windows.toSplitPack probe_strategy "mom_squeeze"
        grid_study.layer_parameters stride_sets settings
      ↔ RunsAlike PyMath.rat windows.toSplitPack probe_strategy "mom_squeeze"
        grid_study.layer_parameters stride_sets settings := by
  intro windows settings
  obtain ⟨incumbent_train, htrain⟩ := ok_of_isSome (grid_study.evaluate PyMath.rat
    windows.in_sample probe_strategy grid_study.layer_parameters) (by decide +kernel)
  obtain ⟨incumbent_oos, hoos⟩ := ok_of_isSome (grid_study.evaluate PyMath.rat
    windows.selection_oos probe_strategy grid_study.layer_parameters) (by decide +kernel)
  exact batch_sweep_agrees_iff Backtest.positiveRoots_rat (build_grid_windows _) grid_study htrain
    hoos (fun _ => (grid_batch_agrees _ _).1) (fun _ => (grid_batch_agrees _ _).2) ⟨rfl, rfl, rfl⟩
    ⟨rfl, rfl, rfl⟩ probe_strategy "mom_squeeze" stride_sets

/-- On a market that rises the simulators agree and the sweep does not: its Sharpe ratio is
not annualised as the incumbent's is, so that both sets are rejected, and accepted without
the sweep. -/
theorem batch_sweep_differs_rising :
    let windows := grid_windows fun index => index + 2
    let simulate_strategy_batch := grid_batch fun index => index + 2
    let settings := grid_study.runtime_settings.toExecutionSettings
    let decisions (numba_available : Bool) :=
      candidate_decisions PyMath.rat simulate_strategy_batch numba_available grid_study
        windows.toSplitPack probe_strategy probe_strategy "mom_squeeze" stride_sets
        (fun _ => ⟨2, 0⟩) 1
    build_split_pack plain_texts (grid_market fun index => index + 2) = .ok windows
      ∧ (∀ call, AgreesOn PyMath.rat simulate_strategy_batch call windows.in_sample.simulated
        ∧ AgreesOn PyMath.rat simulate_strategy_batch call windows.selection_oos.simulated)
      ∧ (decisions true).toOption
        = some [.reject ["oos_sharpe_floor"], .reject ["oos_sharpe_floor"]]
      ∧ (decisions false).toOption = some [.accept, .accept]
      ∧ ¬ GridAgrees PyMath.rat simulate_strategy_batch windows.toSplitPack probe_strategy
        "mom_squeeze" grid_study.layer_parameters stride_sets settings := by
  intro windows simulate_strategy_batch settings decisions
  have hsweep : (decisions true).toOption
      = some [.reject ["oos_sharpe_floor"], .reject ["oos_sharpe_floor"]] := by decide +kernel
  have hplain : (decisions false).toOption = some [.accept, .accept] := by decide +kernel
  refine ⟨build_grid_windows _, grid_batch_agrees _, hsweep, hplain, ?_⟩
  intro hagrees
  have hsame : decisions true = decisions false :=
    hagrees.candidate_decisions_eq (fun _ => ⟨2, 0⟩) 1
  rw [hsame, hplain] at hsweep
  revert hsweep
  decide

end Examples

end ProofAlpha.App
