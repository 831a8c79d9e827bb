/-
When a neutral scenario is the plain evaluation.

`scenario_evaluator` hands every setting of the study on but the slippage model, and
clamps the latency. So a neutral scenario is the evaluation with `neutral_settings`
(`scenario_evaluator_figures`), which prices its fills with the flat model. Where the
study's own model prices them otherwise, the probe of one fill shows it.
-/
import ProofAlpha.App.LastBarProbe
import ProofAlpha.App.NeutralStress

set_option autoImplicit false

namespace ProofAlpha.App

open ProofAlpha.Lib
open ProofAlpha.Validation
open ProofAlpha.Data (DataSnapshot)
open ProofAlpha.Backtest (BacktestResult LiquidationSettings PositionSide)

variable {K : Type} [Field K] [LinearOrder K] [FloorRing K]

/-- A neutral scenario shows the figures of the plain evaluation, whatever the split,
the strategy and the layer parameters are. -/
def NeutralIsPlain (m : PyMath K)
    (build_calibrated_scenario_profile :
      DataSnapshot K → StressScenario K → ℤ → CalibratedProfile K)
    (runtime_settings : RuntimeSettings K) : Prop :=
  ∀ (seed : ℤ) (layer_parameters : LayerParameters K) (split_pack : SplitPack K)
    (strategy : StrategyGraph) (scenario : StressScenario K),
    IsNeutral (resolve_scenario_profile scenario split_pack.selection_oos.venue) →
    QuietSide runtime_settings.position_side split_pack.selection_oos →
    let study : StudyConfig K := ⟨seed, layer_parameters, runtime_settings⟩
    ((scenario_evaluator m build_calibrated_scenario_profile study split_pack strategy
        scenario).map StressedResult.figures).toOption
      = ((study.evaluate m split_pack.selection_oos strategy layer_parameters).map
        result_figures).toOption

/-! ## What an evaluation returns -/

section Evaluation

variable {m : PyMath K} {snapshot : DataSnapshot K} {strategy : StrategyGraph}
  {layer_parameters : LayerParameters K} {settings : ExecutionSettings K} {result : BacktestResult K}

/-- An evaluation of three candles or more is a simulation of its signals. -/
theorem evaluate_ok (hlong : ¬ snapshot.candles.length < 3)
    (h : evaluate_strategy_with_settings m snapshot strategy layer_parameters settings = .ok result) :
    ∃ signals raw, build_signals m snapshot.simulated strategy layer_parameters
          settings.position_side = .ok signals
      ∧ Backtest.simulate_strategy m snapshot.simulated (settings.sim_arguments signals) = .ok raw
      ∧ result = normalize_result raw := by
  unfold evaluate_strategy_with_settings at h
  rw [if_neg hlong] at h
  obtain ⟨signals, hsignals, h⟩ := bind_ok h
  obtain ⟨raw, hraw, h⟩ := bind_ok h
  exact ⟨signals, raw, hsignals, hraw, (Except.ok.inj h).symm⟩

/-- Its settings have passed the simulator's checks. -/
theorem evaluate_ok_check (hlong : ¬ snapshot.candles.length < 3)
    (h : evaluate_strategy_with_settings m snapshot strategy layer_parameters settings = .ok result) :
    ∃ checked, settings.check snapshot = .ok checked := by
  obtain ⟨signals, raw, hsignals, hraw, -⟩ := evaluate_ok hlong h
  have hlength := build_signals_length hsignals
  have hcandles : snapshot.simulated.candles.length = snapshot.candles.length :=
    List.length_map _
  rw [hcandles] at hlength
  unfold Backtest.simulate_strategy at hraw
  obtain ⟨checked, hcheck, -⟩ := bind_ok hraw
  rw [check_arguments_eq_check settings snapshot hlength] at hcheck
  exact ⟨checked, hcheck⟩

/-- The net profit is what the costs leave, and a drawdown is not positive. -/
theorem evaluate_ok_figures [IsStrictOrderedRing K]
    (h : evaluate_strategy_with_settings m snapshot strategy layer_parameters settings = .ok result) :
    result.net_pnl = result.gross_pnl - result.fee_spend - result.funding_spend
      ∧ result.max_drawdown ≤ 0 := by
  by_cases hlong : snapshot.candles.length < 3
  · unfold evaluate_strategy_with_settings at h
    rw [if_pos hlong] at h
    cases h
    constructor
    · show (0 : K) = 0 - 0 - 0
      rw [sub_self, sub_self]
    · exact le_rfl
  · obtain ⟨signals, raw, -, hraw, rfl⟩ := evaluate_ok hlong h
    unfold Backtest.simulate_strategy at hraw
    obtain ⟨checked, -, hraw⟩ := bind_ok hraw
    cases hraw
    exact ⟨rfl, Backtest.max_drawdown_nonpos _⟩

end Evaluation

variable [IsStrictOrderedRing K]

/-- The figures of a neutral scenario are those of the evaluation with the settings of
its overlay. -/
theorem scenario_evaluator_figures (m : PyMath K)
    (build_calibrated_scenario_profile :
      DataSnapshot K → StressScenario K → ℤ → CalibratedProfile K)
    (study : StudyConfig K) (split_pack : SplitPack K) (strategy : StrategyGraph)
    {scenario : StressScenario K}
    (hneutral : IsNeutral (resolve_scenario_profile scenario split_pack.selection_oos.venue))
    (hquiet : QuietSide study.runtime_settings.position_side split_pack.selection_oos) :
    (scenario_evaluator m build_calibrated_scenario_profile study split_pack strategy
        scenario).map StressedResult.figures
      = (evaluate_strategy_with_settings m split_pack.selection_oos strategy study.layer_parameters
          (neutral_settings study.runtime_settings.toExecutionSettings)).map result_figures := by
  rw [scenario_evaluator_neutral m build_calibrated_scenario_profile study split_pack strategy
    hneutral]
  cases hrun : evaluate_strategy_with_settings m split_pack.selection_oos strategy
      study.layer_parameters (neutral_settings study.runtime_settings.toExecutionSettings) with
  | error message => rfl
  | ok result =>
      obtain ⟨hnet, hdrawdown⟩ := evaluate_ok_figures hrun
      exact congrArg Except.ok (hneutral.figures hquiet.noPressure hnet hdrawdown)

/-! ## Settings under which it holds -/

omit [IsStrictOrderedRing K] [FloorRing K] in
/-- A latency that is not negative is not clamped, and no check looks at the slippage
model. -/
theorem check_neutral_settings {settings : ExecutionSettings K}
    (hlatency : 0 ≤ settings.latency_bars) (snapshot : DataSnapshot K) :
    (neutral_settings settings).check snapshot = settings.check snapshot := by
  unfold neutral_settings
  rw [max_eq_right hlatency]
  rfl

omit [FloorRing K] [IsStrictOrderedRing K] in
theorem check_latency {settings : ExecutionSettings K} {snapshot : DataSnapshot K}
    {checked : PositionSide × LiquidationSettings K} (h : settings.check snapshot = .ok checked) :
    0 ≤ settings.latency_bars := by
  unfold ExecutionSettings.check Backtest.check_options at h
  exact of_decide_eq_true (require_bind_ok h).1

omit [FloorRing K] [IsStrictOrderedRing K] in
theorem check_side {settings : ExecutionSettings K} {snapshot : DataSnapshot K}
    {checked : PositionSide × LiquidationSettings K} (h : settings.check snapshot = .ok checked) :
    settings.position_side = "long" ∨ settings.position_side = "short" := by
  unfold ExecutionSettings.check Backtest.check_options at h
  obtain ⟨-, h⟩ := require_bind_ok h
  obtain ⟨side, hside, -⟩ := bind_ok h
  unfold Backtest.check_position_side at hside
  split_ifs at hside with hlong hshort
  · exact Or.inl hlong
  · exact Or.inr hshort

omit [IsStrictOrderedRing K] in
/-- The evaluation with the neutral settings is the plain one where the study's model
prices as the flat one does. -/
theorem evaluate_neutral_settings {m : PyMath K} {settings : ExecutionSettings K}
    {snapshot : DataSnapshot K} (hlatency : 0 ≤ settings.latency_bars)
    (hrealistic : settings.slippage_model ≠ "realistic")
    (hdynamic : settings.slippage_model = "dynamic" → settings.position_side = "short")
    (hquiet : QuietSide settings.position_side snapshot) (strategy : StrategyGraph)
    (layer_parameters : LayerParameters K) :
    evaluate_strategy_with_settings m snapshot strategy layer_parameters (neutral_settings settings)
      = evaluate_strategy_with_settings m snapshot strategy layer_parameters settings := by
  have hinterest : settings.slippage_model = "dynamic" →
      ∀ value ∈ snapshot.simulated.open_interest, value ≤ 0 := by
    intro hmodel value hvalue
    rcases hquiet with hlong | ⟨-, -, hopen_interest, -⟩
    · rw [hdynamic hmodel] at hlong
      exact absurd hlong (by decide)
    · exact le_of_eq (hopen_interest value hvalue)
  have hsimulate : ∀ signals,
      Backtest.simulate_strategy m snapshot.simulated
          ((neutral_settings settings).sim_arguments signals)
        = Backtest.simulate_strategy m snapshot.simulated (settings.sim_arguments signals) := by
    intro signals
    have hflat : Backtest.simulate_strategy m snapshot.simulated (settings.sim_arguments signals)
        = Backtest.simulate_strategy m snapshot.simulated (settings.sim_arguments signals).flat :=
      Backtest.simulate_strategy_eq_flat m snapshot.simulated hrealistic hinterest
    rw [hflat]
    unfold neutral_settings
    rw [max_eq_right hlatency]
    rfl
  unfold evaluate_strategy_with_settings
  simp only [hsimulate]
  rfl

/-- Settings that the simulator accepts on some snapshot once the latency is clamped. -/
def NeutrallyAccepted (settings : ExecutionSettings K) : Prop :=
  ∃ snapshot checked, (neutral_settings settings).check snapshot = .ok checked

omit [IsStrictOrderedRing K] in
/-- Settings that no simulation accepts return figures for the snapshots that are too
short for a simulation, and these are the same. -/
theorem evaluate_not_accepted {m : PyMath K} {settings : ExecutionSettings K}
    (h : ¬ NeutrallyAccepted settings) (snapshot : DataSnapshot K) (strategy : StrategyGraph)
    (layer_parameters : LayerParameters K) :
    ((evaluate_strategy_with_settings m snapshot strategy layer_parameters
        (neutral_settings settings)).map result_figures).toOption
      = ((evaluate_strategy_with_settings m snapshot strategy layer_parameters
        settings).map result_figures).toOption := by
  by_cases hlong : snapshot.candles.length < 3
  · unfold evaluate_strategy_with_settings
    rw [if_pos hlong, if_pos hlong]
  · cases hneutral : evaluate_strategy_with_settings m snapshot strategy layer_parameters
        (neutral_settings settings) with
    | ok result =>
        obtain ⟨checked, hcheck⟩ := evaluate_ok_check hlong hneutral
        exact absurd ⟨snapshot, checked, hcheck⟩ h
    | error message =>
        cases hplain : evaluate_strategy_with_settings m snapshot strategy layer_parameters
            settings with
        | ok result =>
            obtain ⟨checked, hcheck⟩ := evaluate_ok_check hlong hplain
            rw [← check_neutral_settings (check_latency hcheck)] at hcheck
            exact absurd ⟨snapshot, checked, hcheck⟩ h
        | error message' => rfl

omit [FloorRing K] [IsStrictOrderedRing K] in
theorem NeutrallyAccepted.side {settings : ExecutionSettings K} (h : NeutrallyAccepted settings) :
    settings.position_side = "long" ∨ settings.position_side = "short" := by
  obtain ⟨snapshot, checked, hcheck⟩ := h
  have hside : (neutral_settings settings).position_side = "long"
      ∨ (neutral_settings settings).position_side = "short" := check_side hcheck
  exact hside

/-! ## Settings under which it does not -/

/-- A scenario without a preset, of severity zero. -/
def calm_scenario : StressScenario K := { name := "calm", severity := 0 }

omit [FloorRing K] [IsStrictOrderedRing K] in
theorem calm_scenario_neutral :
    IsNeutral (resolve_scenario_profile (calm_scenario : StressScenario K) "binance") := by
  have hpresets : scenario_presets_for (K := K) "calm" "binance" = [] := rfl
  have hname : canonical_scenario_name "calm" = "calm" := by decide
  have hresolved : resolve_scenario_profile (calm_scenario : StressScenario K) "binance"
      = calm_scenario := by
    unfold resolve_scenario_profile
    show ((scenario_presets_for "calm" "binance").flatten).foldl fill_field
      { calm_scenario with name := canonical_scenario_name "calm" } = calm_scenario
    rw [hpresets, hname]
    rfl
  have hstatic : "static" ≠ "calibrated" := by decide
  rw [hresolved]
  constructor <;> first | rfl | exact hstatic

section Probe

variable {m : PyMath K}
  {build_calibrated_scenario_profile :
    DataSnapshot K → StressScenario K → ℤ → CalibratedProfile K}
  {runtime_settings : RuntimeSettings K} {side : PositionSide} {checked : LiquidationSettings K}
  {venue_profile : Option (Data.VenueProfile K)} {open_interest book : List K}

/-- Where a neutral scenario is the plain evaluation, the probe's two runs show the
same figures. -/
theorem NeutralIsPlain.probe
    (h : NeutralIsPlain m build_calibrated_scenario_profile runtime_settings) {last_close : K}
    (hquiet : QuietSide runtime_settings.position_side
      (probe_snapshot venue_profile last_close open_interest book)) {stressed : BacktestResult K}
    (hstressed : evaluate_strategy_with_settings m
      (probe_snapshot venue_profile last_close open_interest book) probe_strategy probe_parameters
      (neutral_settings runtime_settings.toExecutionSettings) = .ok stressed) :
    ∃ plain, evaluate_strategy_with_settings m
        (probe_snapshot venue_profile last_close open_interest book) probe_strategy probe_parameters
        runtime_settings.toExecutionSettings = .ok plain
      ∧ result_figures stressed = result_figures plain := by
  let split_pack : SplitPack K :=
    ⟨probe_snapshot venue_profile last_close open_interest book,
      probe_snapshot venue_profile last_close open_interest book⟩
  have hsame := h 0 probe_parameters split_pack probe_strategy calm_scenario
    calm_scenario_neutral hquiet
  dsimp only at hsame
  rw [scenario_evaluator_figures m build_calibrated_scenario_profile
    ⟨0, probe_parameters, runtime_settings⟩ split_pack probe_strategy calm_scenario_neutral hquiet,
    hstressed] at hsame
  unfold StudyConfig.evaluate at hsame
  cases hplain : evaluate_strategy_with_settings m
      (probe_snapshot venue_profile last_close open_interest book) probe_strategy probe_parameters
      runtime_settings.toExecutionSettings with
  | error message =>
      rw [hplain] at hsame
      cases hsame
  | ok plain =>
      rw [hplain] at hsame
      exact ⟨plain, rfl, Option.some.inj hsame⟩

omit [LinearOrder K] [FloorRing K] [IsStrictOrderedRing K] in
/-- Without open interest the probe is quiet on both sides. -/
theorem quietSide_probe {position_side : String}
    (hside : position_side = "long" ∨ position_side = "short") (last_close : K) :
    QuietSide position_side (probe_snapshot venue_profile last_close [] book) := by
  rcases hside with hlong | hshort
  · exact Or.inl hlong
  · exact Or.inr ⟨hshort, fun _ h => absurd h List.not_mem_nil,
      fun _ h => absurd h List.not_mem_nil, fun _ h => absurd h List.not_mem_nil⟩

/-- The probe under the neutral settings. -/
theorem evaluate_probe_neutral
    (hcheck : (neutral_settings runtime_settings.toExecutionSettings).check
      (probe_snapshot venue_profile (probe_close runtime_settings.position_side) open_interest book)
      = .ok (side, checked)) :
    ∃ stressed, evaluate_strategy_with_settings m
        (probe_snapshot venue_profile (probe_close runtime_settings.position_side) open_interest
          book) probe_strategy probe_parameters
        (neutral_settings runtime_settings.toExecutionSettings) = .ok stressed
      ∧ stressed.trade_count = 1
      ∧ stressed.fee_spend = 2 * (probe_notional runtime_settings.toExecutionSettings
        * (runtime_settings.slippage_bps / 10000)) := by
  have hflat : DEFAULT_SLIPPAGE_MODEL ≠ "realistic" := by decide
  obtain ⟨stressed, hrun, hcount, hfee⟩ := evaluate_probe_filled m hcheck hflat
  refine ⟨stressed, hrun, hcount, hfee.trans ?_⟩
  have hprice : probe_slippage m (neutral_settings runtime_settings.toExecutionSettings) side
      checked (probe_snapshot venue_profile (probe_close runtime_settings.position_side)
        open_interest book) = runtime_settings.slippage_bps :=
    Backtest.resolve_slippage_bps_flat m ⟨rfl, rfl⟩ _ _
  exact congrArg (fun bps => 2 * (probe_notional runtime_settings.toExecutionSettings
    * (bps / 10000))) hprice

/-- A clamped latency runs a study that does not run. -/
theorem NeutralIsPlain.latency
    (h : NeutralIsPlain m build_calibrated_scenario_profile runtime_settings)
    (haccepted : NeutrallyAccepted runtime_settings.toExecutionSettings) :
    0 ≤ runtime_settings.latency_bars := by
  have hside := haccepted.side
  obtain ⟨snapshot, ⟨side, checked⟩, hcheck⟩ := haccepted
  obtain ⟨stressed, hstressed, -, -⟩ := evaluate_probe_neutral
    (check_probe hcheck (probe_close runtime_settings.position_side) [] [])
  obtain ⟨plain, hplain, -⟩ := h.probe (quietSide_probe hside _) hstressed
  obtain ⟨passed, hpassed⟩ := evaluate_ok_check (probe_long _ _ _ _) hplain
  exact check_latency hpassed

/-- A realistic study does not fill an order that the neutral scenario fills. -/
theorem NeutralIsPlain.not_realistic
    (h : NeutralIsPlain m build_calibrated_scenario_profile runtime_settings)
    (haccepted : NeutrallyAccepted runtime_settings.toExecutionSettings) :
    runtime_settings.slippage_model ≠ "realistic" := by
  intro hmodel
  have hlatency := h.latency haccepted
  have hside := haccepted.side
  obtain ⟨snapshot, ⟨side, checked⟩, hcheck⟩ := haccepted
  have hplain_check := hcheck
  rw [check_neutral_settings hlatency] at hplain_check
  obtain ⟨stressed, hstressed, hone, -⟩ := evaluate_probe_neutral
    (check_probe hcheck (probe_close runtime_settings.position_side) [] (List.replicate 5 0))
  obtain ⟨unfilled, hunfilled, hzero⟩ := evaluate_probe_unfilled m
    (check_probe hplain_check (probe_close runtime_settings.position_side) []
      (List.replicate 5 0)) hmodel
  obtain ⟨plain, hplain, hfigures⟩ := h.probe (quietSide_probe hside _) hstressed
  have hsame : unfilled = plain := Except.ok.inj (hunfilled.symm.trans hplain)
  have hcount : stressed.trade_count = plain.trade_count :=
    congrArg Figures.trade_count hfigures
  rw [hone, ← hsame, hzero] at hcount
  exact one_ne_zero hcount

/-- A dynamic study on the long side charges a fill what the open interest makes of it. -/
theorem NeutralIsPlain.dynamic_short (hm : m.FindsRoots)
    (h : NeutralIsPlain m build_calibrated_scenario_profile runtime_settings)
    (haccepted : NeutrallyAccepted runtime_settings.toExecutionSettings)
    (hmodel : runtime_settings.slippage_model = "dynamic") :
    runtime_settings.position_side = "short" := by
  have hlatency := h.latency haccepted
  have hrealistic : runtime_settings.slippage_model ≠ "realistic" := h.not_realistic haccepted
  have hside := haccepted.side
  obtain ⟨snapshot, ⟨side, checked⟩, hcheck⟩ := haccepted
  rcases hside with hlong | hshort
  · have hplain_check := hcheck
    rw [check_neutral_settings hlatency] at hplain_check
    -- one of the two prices differs from the flat one
    obtain ⟨target, hpos, hcap, hne⟩ :
        ∃ target : K, 0 < target ∧ target ≤ 500 ∧ target ≠ runtime_settings.slippage_bps := by
      by_cases hone : (1 : K) = runtime_settings.slippage_bps
      · refine ⟨2, by norm_num, by norm_num, ?_⟩
        rw [← hone]
        norm_num
      · exact ⟨1, by norm_num, by norm_num, hone⟩
    let interest := probe_open_interest runtime_settings.toExecutionSettings target
    have hprobe := check_probe hplain_check (probe_close runtime_settings.position_side) interest []
    have hleverage := (probe_entersLast m hprobe).2
    obtain ⟨stressed, hstressed, -, hflat⟩ := evaluate_probe_neutral
      (check_probe hcheck (probe_close runtime_settings.position_side) interest [])
    obtain ⟨filled, hfilled, -, hfee⟩ := evaluate_probe_filled m hprobe hrealistic
    obtain ⟨plain, hplain, hfigures⟩ := h.probe (Or.inl hlong) hstressed
    have hsame : filled = plain := Except.ok.inj (hfilled.symm.trans hplain)
    have hspend : stressed.fee_spend = plain.fee_spend := congrArg Figures.fee_spend hfigures
    rw [hflat, ← hsame, hfee,
      probe_slippage_dynamic m hm hpos hcap hleverage hmodel] at hspend
    have hnotional := (probe_notional_pos hleverage).ne'
    have hbps : runtime_settings.slippage_bps / 10000 = target / 10000 :=
      mul_left_cancel₀ hnotional (mul_left_cancel₀ two_ne_zero hspend)
    exact absurd ((div_left_inj' (by norm_num)).mp hbps).symm hne
  · exact hshort

end Probe

/-! ## Main result -/

/-- A neutral scenario shows the figures of the plain evaluation exactly for the settings
that no simulation accepts and for those with a latency that is not negative and a model
that is priced as the flat one: any but the realistic model, and on the long side any but
the dynamic one. -/
theorem neutral_scenario_is_plain_iff {m : PyMath K} (hm : m.FindsRoots)
    (build_calibrated_scenario_profile :
      DataSnapshot K → StressScenario K → ℤ → CalibratedProfile K)
    (runtime_settings : RuntimeSettings K) :
    NeutralIsPlain m build_calibrated_scenario_profile runtime_settings
      ↔ (NeutrallyAccepted runtime_settings.toExecutionSettings →
        0 ≤ runtime_settings.latency_bars ∧ runtime_settings.slippage_model ≠ "realistic"
          ∧ (runtime_settings.slippage_model = "dynamic" →
            runtime_settings.position_side = "short")) := by
  constructor
  · intro h haccepted
    exact ⟨h.latency haccepted, h.not_realistic haccepted, h.dynamic_short hm haccepted⟩
  · intro h seed layer_parameters split_pack strategy scenario hneutral hquiet study
    rw [scenario_evaluator_figures m build_calibrated_scenario_profile study split_pack strategy
      hneutral hquiet]
    by_cases haccepted : NeutrallyAccepted runtime_settings.toExecutionSettings
    · obtain ⟨hlatency, hrealistic, hdynamic⟩ := h haccepted
      rw [evaluate_neutral_settings hlatency hrealistic hdynamic hquiet]
      rfl
    · exact evaluate_not_accepted haccepted _ _ _

section Examples

/-- What `build_calibrated_scenario_profile` returns for a scenario that is not to be
calibrated. -/
def uncalibrated_profile (snapshot : DataSnapshot ℚ) (scenario : StressScenario ℚ) (_seed : ℤ) :
    CalibratedProfile ℚ where
  calibrated_scenario := scenario
  stressed_path := snapshot.candles.map Data.Candle.close

/-- The default settings of a study, with a slippage model. -/
def default_settings (slippage_model : String) : RuntimeSettings ℚ where
  slippage_bps := 5
  latency_bars := 0
  position_side := "long"
  position_leverage := 1
  maintenance_margin_ratio := 0.01
  liquidation_fee_bps := 0
  liquidation_mark_price_weight := 0
  partial_liquidation_ratio := 1
  liquidation_cooldown_bars := 0
  liquidation_step_schedule := []
  liquidation_mark_premium_bps := 0
  maintenance_margin_schedule := []
  liquidation_fee_schedule := []
  slippage_model := slippage_model
  scenario_severity_multiplier := 1

/-- With the default settings a neutral scenario is the plain evaluation. -/
theorem neutral_scenario_is_plain_default :
    PyMath.rat.FindsRoots
      ∧ NeutralIsPlain PyMath.rat uncalibrated_profile (default_settings "flat") :=
  ⟨PyMath.rat_findsRoots,
    (neutral_scenario_is_plain_iff PyMath.rat_findsRoots uncalibrated_profile
      (default_settings "flat")).mpr fun _ => ⟨le_rfl, by decide, by decide⟩⟩

/-- A market on which a dynamic fill costs one basis point. -/
def liquid_market : DataSnapshot ℚ := probe_snapshot none 3 (List.replicate 5 187500) []

/-- With the dynamic model it is not: the study pays one basis point for each of its two
fills, and the neutral scenario the five of the flat model. -/
theorem neutral_scenario_differs :
    let study : StudyConfig ℚ := ⟨0, probe_parameters, default_settings "dynamic"⟩
    let split_pack : SplitPack ℚ := ⟨liquid_market, liquid_market⟩
    IsNeutral (resolve_scenario_profile (calm_scenario : StressScenario ℚ) liquid_market.venue)
      ∧ QuietSide "long" liquid_market
      ∧ ((study.evaluate PyMath.rat liquid_market probe_strategy probe_parameters).map
          BacktestResult.fee_spend).toOption = some (6 / 10000)
      ∧ ((scenario_evaluator PyMath.rat uncalibrated_profile study split_pack probe_strategy
          calm_scenario).map StressedResult.fee_spend).toOption = some (30 / 10000) := by
  intro study split_pack
  refine ⟨calm_scenario_neutral, Or.inl rfl, ?_, ?_⟩
  · decide +kernel
  · decide +kernel

end Examples

end ProofAlpha.App
