/-
When the reported drawdown does not depend on the price unit.

The loop books profit as a price difference times a size that does not depend on
the price, and `max_drawdown` measures it against a starting capital of one. A
drawdown in one unit is then larger or smaller in another, and only a run without
any is judged alike in all of them.
-/
import ProofAlpha.Backtest.Drawdown
import ProofAlpha.Backtest.UnitGrowth

set_option autoImplicit false

namespace ProofAlpha.Backtest

open ProofAlpha.Lib ProofAlpha.Lib.UnitOrder ProofAlpha.Lib.IndexedLoop

variable {K : Type} [Field K] [LinearOrder K]

/-- The `max_drawdown` of the flat-slippage simulation. -/
def flat_drawdown [FloorRing K] (m : PyMath K) (snapshot : DataSnapshot K)
    (args : SimArguments K) : Except String K :=
  (simulate_strategy m snapshot args.flat).map BacktestResult.max_drawdown

/-- The reported drawdown is the same in every price unit. -/
def UnitFree [FloorRing K] (m : PyMath K) (snapshot : DataSnapshot K) (args : SimArguments K) :
    Prop :=
  ∀ c, 0 < c → flat_drawdown m (snapshot.in_unit c) args = flat_drawdown m snapshot args

/-- Whether bar `index + 1`, from the state before it, shows at least what bar
`index` showed from the state before that, `value` being how amounts are compared. -/
def BarKeeps (value : K → K) (m : PyMath K) (cfg : SimConfig K) (index : ℕ) : Prop :=
  value (shown_equity m cfg (stateAt (bar_step m cfg) SimState.initial index) index)
    ≤ value (shown_equity m cfg (stateAt (bar_step m cfg) SimState.initial (index + 1)) (index + 1))

/-- No bar of the run loses money. -/
def NeverLoses (m : PyMath K) (cfg : SimConfig K) : Prop :=
  ∀ index, index + 1 < cfg.bars → BarKeeps id m cfg index

/-- No bar of the run loses capital: a loss below the floor is none. -/
def NeverLosesCapital (m : PyMath K) (cfg : SimConfig K) : Prop :=
  ∀ index, index + 1 < cfg.bars → BarKeeps capital m cfg index

variable [IsStrictOrderedRing K]

/-- The drawdown of a run is zero exactly when no bar loses capital. -/
theorem run_drawdown_eq_zero_iff (m : PyMath K) (cfg : SimConfig K) :
    max_drawdown (simulate_bars m cfg).2 = 0 ↔ NeverLosesCapital m cfg := by
  rw [max_drawdown_eq_zero_iff, simulate_bars_curve, List.map_map, List.isChain_map,
    List.isChain_range]
  unfold NeverLosesCapital BarKeeps
  constructor
  · intro h index hindex
    exact h index (by omega)
  · intro h index hindex
    exact h index (by omega)

/-- A run that never loses money never loses capital. -/
theorem NeverLoses.capital {m : PyMath K} {cfg : SimConfig K} (h : NeverLoses m cfg) :
    NeverLosesCapital m cfg :=
  fun index hindex => capital_mono (h index hindex)

/-! ## Runs in every unit -/

section Units

variable (m : PyMath K) {cfg : SimConfig K}

/-- In a small enough unit the drawdown of the run is as small as one likes. -/
theorem run_drawdown_small (hflat : cfg.IsFlat) (hvalid : cfg.settings.Valid) {ε : K}
    (hε : 0 < ε) : ∃ c, 0 < c ∧ -ε ≤ max_drawdown (simulate_bars m (cfg.in_unit c)).2 := by
  have hhalf : 0 < min (1 / 2) (ε / 2) := lt_min (by norm_num) (by linarith)
  obtain ⟨c, hc, hsmall⟩ := small_of_forall cfg.bars
    (fun index _ => shown_equity_ofOrder m hflat hvalid index) hhalf
  refine ⟨c, hc, ?_⟩
  have hcurve : ∀ value ∈ (simulate_bars m (cfg.in_unit c)).2, |value| ≤ min (1 / 2) (ε / 2) := by
    intro value hvalue
    rw [simulate_bars_curve, SimConfig.in_unit_bars] at hvalue
    obtain ⟨index, hindex, rfl⟩ := List.mem_map.mp hvalue
    exact hsmall index (List.mem_range.mp hindex)
  have hge := max_drawdown_ge (le_of_lt hhalf) (min_le_left _ _) hcurve
  have hmin : min (1 / 2) (ε / 2) ≤ ε / 2 := min_le_right _ _
  linarith

/-- So a drawdown that is the same in every unit is none. -/
theorem run_drawdown_eq_zero_of_same (hflat : cfg.IsFlat) (hvalid : cfg.settings.Valid) {worst : K}
    (hworst : worst ≤ 0)
    (h : ∀ c, 0 < c → max_drawdown (simulate_bars m (cfg.in_unit c)).2 = worst) : worst = 0 := by
  by_contra hne
  have hneg : 0 < -worst / 2 := by
    have hlt : worst < 0 := lt_of_le_of_ne hworst hne
    linarith
  obtain ⟨c, hc, hsmall⟩ := run_drawdown_small m hflat hvalid hneg
  rw [h c hc] at hsmall
  linarith

/-- Without notional limits the values shown in another unit are those shown in
this one, in that unit. -/
theorem barKeeps_in_unit_iff (hflat : cfg.IsFlat) (hfree : cfg.settings.NotionalFree) {c : K}
    (hc : 0 < c) (index : ℕ) :
    BarKeeps id m (cfg.in_unit c) index ↔ BarKeeps id m cfg index := by
  unfold BarKeeps
  rw [stateAt_in_unit m hflat hfree hc, stateAt_in_unit m hflat hfree hc,
    shown_equity_in_unit m hflat hfree hc, shown_equity_in_unit m hflat hfree hc]
  exact mul_le_mul_iff_right₀ hc

/-- Without notional limits no unit shows a loss of capital exactly when no bar of
the run loses money. -/
theorem neverLosesCapital_in_unit_iff (hflat : cfg.IsFlat) (hvalid : cfg.settings.Valid)
    (hfree : cfg.settings.NotionalFree) :
    (∀ c, 0 < c → NeverLosesCapital m (cfg.in_unit c)) ↔ NeverLoses m cfg := by
  constructor
  · intro h index hindex
    -- a unit in which no value is near the floor
    have hhalf : (0 : K) < 1 / 2 := by norm_num
    obtain ⟨c, hc, hsmall⟩ := small_of_forall cfg.bars
      (fun index _ => shown_equity_ofOrder m hflat hvalid index) hhalf
    have hkept : BarKeeps ProofAlpha.Backtest.capital m (cfg.in_unit c) index := by
      refine h c hc index ?_
      rw [SimConfig.in_unit_bars]
      exact hindex
    have hlow := (abs_le.mp (hsmall index (by omega))).1
    exact (barKeeps_in_unit_iff m hflat hfree hc index).mp (le_of_capital_le hlow hkept)
  · intro h c hc
    refine NeverLoses.capital fun index hindex => ?_
    rw [SimConfig.in_unit_bars] at hindex
    exact (barKeeps_in_unit_iff m hflat hfree hc index).mpr (h index hindex)

end Units

/-! ## The reported drawdown -/

section Reported

variable [FloorRing K] (m : PyMath K) {snapshot : DataSnapshot K} {args : SimArguments K}
  {side : PositionSide} {settings : LiquidationSettings K}

omit [LinearOrder K] [IsStrictOrderedRing K] [FloorRing K] in
theorem DataSnapshot.in_unit_one (snapshot : DataSnapshot K) : snapshot.in_unit 1 = snapshot := by
  have hcandle : (Candle.in_unit 1 : Candle K → Candle K) = id := by
    funext candle
    simp [Candle.in_unit]
  unfold DataSnapshot.in_unit
  rw [hcandle, List.map_id]

omit [IsStrictOrderedRing K] in
/-- The drawdown reported in a unit is that of the run in the unit. -/
theorem flat_drawdown_in_unit (hcheck : check_arguments snapshot args.flat = .ok (side, settings))
    (c : K) :
    flat_drawdown m (snapshot.in_unit c) args
      = .ok (max_drawdown
        (simulate_bars m ((sim_config m snapshot args.flat side settings).in_unit c)).2) := by
  unfold flat_drawdown simulate_strategy
  rw [check_arguments_in_unit, hcheck, ← sim_config_in_unit]
  rfl

/-- A checked run reports the same drawdown in every unit exactly when no unit shows
a loss of capital. -/
theorem unitFree_iff_of_checked
    (hcheck : check_arguments snapshot args.flat = .ok (side, settings)) :
    UnitFree m snapshot args
      ↔ ∀ c, 0 < c →
        NeverLosesCapital m ((sim_config m snapshot args.flat side settings).in_unit c) := by
  have hflat := sim_config_isFlat m snapshot args side settings
  have hvalid : settings.Valid := (check_arguments_ok hcheck).2.2.1
  have hone := flat_drawdown_in_unit m hcheck 1
  rw [DataSnapshot.in_unit_one] at hone
  constructor
  · intro h c hc
    have hsame : ∀ c, 0 < c → max_drawdown
          (simulate_bars m ((sim_config m snapshot args.flat side settings).in_unit c)).2
        = max_drawdown
          (simulate_bars m ((sim_config m snapshot args.flat side settings).in_unit 1)).2 := by
      intro c hc
      have hreported := h c hc
      rw [flat_drawdown_in_unit m hcheck, hone] at hreported
      exact Except.ok.inj hreported
    have hzero := run_drawdown_eq_zero_of_same m hflat hvalid (max_drawdown_nonpos _) hsame
    rw [← run_drawdown_eq_zero_iff, hsame c hc]
    exact hzero
  · intro h c hc
    rw [flat_drawdown_in_unit m hcheck, hone,
      (run_drawdown_eq_zero_iff m _).mpr (h c hc),
      (run_drawdown_eq_zero_iff m _).mpr (h 1 zero_lt_one)]

/-- The drawdown reported for a flat-slippage run is the same in every price unit
exactly when no bar of the run, made in any unit, loses capital. Where no schedule
tier has a notional limit, that is when no bar of the run at the given prices loses
money. -/
theorem flat_drawdown_unit_free_iff (m : PyMath K) (snapshot : DataSnapshot K)
    (args : SimArguments K) :
    (UnitFree m snapshot args
        ↔ ∀ side settings, check_arguments snapshot args.flat = .ok (side, settings) →
          ∀ c, 0 < c →
            NeverLosesCapital m (sim_config m (snapshot.in_unit c) args.flat side settings))
      ∧ ∀ side settings, check_arguments snapshot args.flat = .ok (side, settings) →
        settings.NotionalFree →
          (UnitFree m snapshot args
            ↔ NeverLoses m (sim_config m snapshot args.flat side settings)) := by
  refine ⟨⟨?_, ?_⟩, ?_⟩
  · intro h side settings hcheck c hc
    rw [sim_config_in_unit]
    exact (unitFree_iff_of_checked m hcheck).mp h c hc
  · intro h
    cases hcheck : check_arguments snapshot args.flat with
    | error message =>
        -- rejected arguments are rejected in every unit
        intro c _
        unfold flat_drawdown simulate_strategy
        rw [check_arguments_in_unit, hcheck]
        rfl
    | ok checked =>
        obtain ⟨side, settings⟩ := checked
        refine (unitFree_iff_of_checked m hcheck).mpr fun c hc => ?_
        rw [← sim_config_in_unit]
        exact h side settings hcheck c hc
  · intro side settings hcheck hfree
    rw [unitFree_iff_of_checked m hcheck]
    exact neverLosesCapital_in_unit_iff m (sim_config_isFlat m snapshot args side settings)
      (check_arguments_ok hcheck).2.2.1 hfree

end Reported

/-! ## A fall of one percent -/

/-- Two hourly bars, the price falling from 100 to 99. -/
def falling_snapshot : DataSnapshot ℚ where
  venue := "paper"
  timeframe := "1h"
  candles := [⟨0, 100, 100, 100⟩, ⟨3600000000, 99, 99, 99⟩]
  funding_rates := [0, 0]
  open_interest := [0, 0]
  liquidation_notional := [0, 0]
  taker_fee_bps := 0
  spread_bps := []
  depth_bid_1bp_usd := []
  depth_ask_1bp_usd := []
  latency_proxy_ms := []
  venue_profile := none
  provenance_microstructure := none

/-- An unleveraged long entry on the first bar. -/
def falling_args : SimArguments ℚ := plain_args [true, false] [false, false] 0 0 1 "flat"

/-- The same entry into a rise of one percent. -/
def rising_snapshot : DataSnapshot ℚ :=
  { falling_snapshot with candles := [⟨0, 100, 100, 100⟩, ⟨3600000000, 101, 101, 101⟩] }

/-- It loses money on no bar, and is judged alike in every unit. -/
theorem rising_unit_free : UnitFree PyMath.rat rising_snapshot falling_args := by
  have hcheck : check_arguments rising_snapshot falling_args.flat = .ok (.long, plain_settings) :=
    check_arguments_plain 0 "flat" rfl ⟨rfl, rfl⟩ (by decide) le_rfl
  have hfree : (plain_settings : LiquidationSettings ℚ).NotionalFree :=
    ⟨fun _ htier => absurd htier List.not_mem_nil, fun _ htier => absurd htier List.not_mem_nil⟩
  refine ((flat_drawdown_unit_free_iff PyMath.rat rising_snapshot falling_args).2 .long
    plain_settings hcheck hfree).mpr fun index hindex => ?_
  obtain rfl : index = 0 := by
    change index + 1 < 2 at hindex
    omega
  unfold BarKeeps
  decide +kernel

/-- Quoted at 100 the fall of one percent is reported as the loss of everything. -/
theorem falling_drawdown :
    flat_drawdown PyMath.rat falling_snapshot falling_args = .ok (-999999999 / 1000000000) := by
  have hcheck : check_arguments falling_snapshot falling_args.flat = .ok (.long, plain_settings) :=
    check_arguments_plain 0 "flat" rfl ⟨rfl, rfl⟩ (by decide) le_rfl
  have hone := flat_drawdown_in_unit PyMath.rat hcheck 1
  rw [DataSnapshot.in_unit_one] at hone
  rw [hone]
  refine congrArg Except.ok ?_
  decide +kernel

/-- Quoted at 1 it is reported as one percent. -/
theorem falling_drawdown_in_hundreds :
    flat_drawdown PyMath.rat (falling_snapshot.in_unit (1 / 100)) falling_args
      = .ok (-1 / 100) := by
  have hcheck : check_arguments falling_snapshot falling_args.flat = .ok (.long, plain_settings) :=
    check_arguments_plain 0 "flat" rfl ⟨rfl, rfl⟩ (by decide) le_rfl
  rw [flat_drawdown_in_unit PyMath.rat hcheck]
  refine congrArg Except.ok ?_
  decide +kernel

/-- So its drawdown depends on the unit. -/
theorem falling_not_unit_free : ¬ UnitFree PyMath.rat falling_snapshot falling_args := by
  intro h
  have hsame := h (1 / 100) (by norm_num)
  rw [falling_drawdown, falling_drawdown_in_hundreds] at hsame
  have hvalues : (-1 / 100 : ℚ) = -999999999 / 1000000000 := Except.ok.inj hsame
  norm_num at hvalues

end ProofAlpha.Backtest
