/-
An evaluation that trades once, at the last of five bars.

The close stands still and moves at the last bar, to the side the settings trade, so
`mom_squeeze` enters there and nowhere before. What the run comes to is then what one
fill at that bar comes to: with open interest, a dynamic fill costs any basis points
one likes; with an empty book, a realistic order is not filled at all.
-/
import ProofAlpha.App.Evaluation
import ProofAlpha.Backtest.FlatPricing
import ProofAlpha.Backtest.LastBarEntry
import ProofAlpha.Backtest.NoLookahead

set_option autoImplicit false

namespace ProofAlpha.App

open ProofAlpha.Lib ProofAlpha.Lib.PyList ProofAlpha.Lib.IndexedLoop
open ProofAlpha.Data (DataSnapshot)
open ProofAlpha.Backtest (BacktestResult SimArguments LiquidationSettings PositionSide
  check_arguments check_options simulate_strategy simulate_bars sim_config)

/-! ## The checks of the settings -/

section Check

variable {K : Type} [Field K] [LinearOrder K]

/-- The checks the simulator makes on the settings; the signals are not among them. -/
def ExecutionSettings.check (settings : ExecutionSettings K) (snapshot : DataSnapshot K) :
    Except String (PositionSide × LiquidationSettings K) :=
  check_options snapshot.simulated (settings.sim_arguments ([], []))

/-- With one signal a candle, they are all the checks there are. -/
theorem check_arguments_eq_check (settings : ExecutionSettings K) (snapshot : DataSnapshot K)
    {signals : List Bool × List Bool}
    (hlength : signals.1.length = snapshot.candles.length
      ∧ signals.2.length = snapshot.candles.length) :
    check_arguments snapshot.simulated (settings.sim_arguments signals)
      = settings.check snapshot := by
  have hcandles : snapshot.simulated.candles.length = snapshot.candles.length :=
    List.length_map _
  have hequal : snapshot.simulated.candles.length
        = (settings.sim_arguments signals).entry_signals.length
      ∧ (settings.sim_arguments signals).entry_signals.length
        = (settings.sim_arguments signals).exit_signals.length := by
    show snapshot.simulated.candles.length = signals.1.length
      ∧ signals.1.length = signals.2.length
    rw [hcandles, hlength.1, hlength.2]
    exact ⟨rfl, rfl⟩
  unfold check_arguments
  rw [decide_eq_true hequal]
  rfl

end Check

/-! ## The market -/

section Probe

variable {K : Type} [Field K]

def probe_candle (index : ℕ) (close : K) : Data.Candle K where
  timestamp := index * Backtest.hour_us
  open_ := close
  high := close
  low := close
  close := close
  volume := 1
  trade_count := 1

/-- Five bars whose close moves at the last one. -/
def probe_snapshot (venue_profile : Option (Data.VenueProfile K)) (last_close : K)
    (open_interest book : List K) : DataSnapshot K where
  snapshot_id := "probe"
  symbol := "BTCUSDT"
  venue := "binance"
  timeframe := "1h"
  candles := [probe_candle 0 2, probe_candle 1 2, probe_candle 2 2, probe_candle 3 2,
    probe_candle 4 last_close]
  funding_rates := []
  open_interest := open_interest
  liquidation_notional := []
  maker_fee_bps := 0
  taker_fee_bps := 0
  spread_bps := book
  depth_bid_1bp_usd := book
  depth_ask_1bp_usd := book
  latency_proxy_ms := book
  venue_profile := venue_profile

theorem probe_long (venue_profile : Option (Data.VenueProfile K)) (last_close : K)
    (open_interest book : List K) :
    ¬ (probe_snapshot venue_profile last_close open_interest book).candles.length < 3 := by
  show ¬ 5 < 3
  omega

/-- The close that a side enters on. -/
def probe_close (position_side : String) : K := if position_side = "short" then 1 else 3

def probe_strategy : StrategyGraph := ⟨"mom_squeeze", [], []⟩

/-- An entry is looked for at bar 1 and at bar 4. -/
def probe_parameters : LayerParameters K :=
  (∅ : LayerParameters K).insert "mom_squeeze" ((∅ : ParameterSet K).insert "entry_stride" 3)

def probe_signals : List Bool × List Bool :=
  ([false, false, false, false, true], [false, false, false, false, true])

variable [LinearOrder K] [FloorRing K]

theorem entry_stride_probe [IsStrictOrderedRing K] :
    entry_stride probe_strategy (probe_parameters (K := K)) = 3 := by
  have hthree : pyInt (3 : K) = 3 := by
    unfold pyInt
    rw [if_pos (by norm_num)]
    exact Int.floor_ofNat 3
  have hstride : get_layer_parameter (probe_parameters (K := K)) probe_strategy.backbone
      "entry_stride" ((max 2 (5 - min (probe_strategy.layers.length : ℤ) 2) : ℤ) : K) = 3 := by
    unfold get_layer_parameter layer_dict probe_parameters probe_strategy
    rw [AList.lookup_insert, Option.getD_some, AList.lookup_insert, Option.getD_some]
  unfold entry_stride
  dsimp only
  rw [hstride, hthree]
  rfl

/-- The signals of the probe: one entry, at the last bar. -/
theorem build_signals_probe [IsStrictOrderedRing K] (m : PyMath K)
    (venue_profile : Option (Data.VenueProfile K)) (open_interest book : List K)
    (position_side : String) :
    build_signals m
        (probe_snapshot venue_profile (probe_close position_side) open_interest book).simulated
        probe_strategy probe_parameters position_side = .ok probe_signals := by
  let closes : List K := [2, 2, 2, 2, probe_close position_side]
  have hlast : moves_with_side closes 4 position_side = true := by
    unfold moves_with_side closes probe_close
    split_ifs
    · exact decide_eq_true (by norm_num)
    · exact decide_eq_true (by norm_num)
  have hstill : ∀ index ∈ [1, 2, 3], moves_with_side closes index position_side = false := by
    intro index hindex
    have hsame : closes.getD index 0 = closes.getD (index - 1) 0 := by
      simp only [List.mem_cons, List.not_mem_nil, or_false] at hindex
      rcases hindex with rfl | rfl | rfl <;> rfl
    unfold moves_with_side
    rw [hsame]
    split_ifs <;> exact decide_eq_false (lt_irrefl _)
  let step := mom_squeeze_step closes probe_strategy (probe_parameters (K := K)) position_side 3 3
  have hwait : ∀ index ∈ [1, 2, 3], step none index = (none, (false, false)) := by
    intro index hindex
    show (if _ then _ else _ : Option ℕ × SignalMark) = _
    rw [hstill index hindex]
    exact if_neg fun h => Bool.false_ne_true h.2.1
  have henter : step none 4 = (some 4, (true, false)) := by
    show (if _ then _ else _ : Option ℕ × SignalMark) = _
    rw [hlast]
    exact if_pos ⟨by decide, rfl, rfl⟩
  have hwalk : walk_signals 5 step none Option.isSome = probe_signals := by
    unfold walk_signals
    simp only [run, Nat.reduceSub, hwait 1 (by decide), hwait 2 (by decide), hwait 3 (by decide),
      henter, Nat.reduceAdd]
    rfl
  show build_mom_squeeze_signals closes probe_strategy probe_parameters position_side = _
  unfold build_mom_squeeze_signals
  dsimp only
  rw [entry_stride_probe]
  exact congrArg Except.ok hwalk

/-! ## The evaluation -/

section Run

variable [IsStrictOrderedRing K] (m : PyMath K) {settings : ExecutionSettings K}
  {side : PositionSide} {checked : LiquidationSettings K}

omit [FloorRing K] [IsStrictOrderedRing K] in
/-- The probe passes the checks that a snapshot with its venue profile passes. -/
theorem check_probe {snapshot : DataSnapshot K} (hcheck : settings.check snapshot = .ok (side, checked))
    (last_close : K) (open_interest book : List K) :
    settings.check (probe_snapshot snapshot.venue_profile last_close open_interest book)
      = .ok (side, checked) := by
  have hsignals : (settings.sim_arguments ([], [])).with_signals [] []
      = settings.sim_arguments ([], []) := rfl
  have hprofile : snapshot.simulated.venue_profile
      = (probe_snapshot snapshot.venue_profile last_close open_interest
        book).simulated.venue_profile := rfl
  have hsame := Backtest.check_options_congr (settings.sim_arguments ([], [])) [] [] hprofile
  rw [hsignals] at hsame
  unfold ExecutionSettings.check at hcheck ⊢
  rw [hsame, hcheck]

/-- The configuration of the probing run. -/
def probe_config (settings : ExecutionSettings K) (side : PositionSide)
    (checked : LiquidationSettings K) (snapshot : DataSnapshot K) : Backtest.SimConfig K :=
  sim_config m snapshot.simulated (settings.sim_arguments probe_signals) side checked

variable {venue_profile : Option (Data.VenueProfile K)} {open_interest book : List K}

omit [FloorRing K] [IsStrictOrderedRing K] in
theorem check_arguments_probe {last_close : K}
    (hcheck : settings.check (probe_snapshot venue_profile last_close open_interest book)
      = .ok (side, checked)) :
    check_arguments (probe_snapshot venue_profile last_close open_interest book).simulated
        (settings.sim_arguments probe_signals) = .ok (side, checked) :=
  (check_arguments_eq_check settings _ ⟨rfl, rfl⟩).trans hcheck

/-- The probing run returns what its bars come to. -/
theorem evaluate_probe
    (hcheck : settings.check
      (probe_snapshot venue_profile (probe_close settings.position_side) open_interest book)
      = .ok (side, checked)) :
    ∃ result, evaluate_strategy_with_settings m
          (probe_snapshot venue_profile (probe_close settings.position_side) open_interest book)
          probe_strategy probe_parameters settings = .ok result
      ∧ result.trade_count
        = (simulate_bars m (probe_config m settings side checked
          (probe_snapshot venue_profile (probe_close settings.position_side) open_interest
            book))).1.trade_count
      ∧ result.fee_spend
        = (simulate_bars m (probe_config m settings side checked
          (probe_snapshot venue_profile (probe_close settings.position_side) open_interest
            book))).1.fee_spend := by
  have hsignals := build_signals_probe m venue_profile open_interest book settings.position_side
  have harguments := check_arguments_probe hcheck
  obtain ⟨raw, hrun, hcount, hfee⟩ := Backtest.simulate_strategy_books m harguments
  unfold probe_config
  rw [← hcount, ← hfee]
  refine ⟨normalize_result raw, ?_, rfl, rfl⟩
  unfold evaluate_strategy_with_settings
  rw [hsignals, ok_bind, hrun]
  exact if_neg (probe_long _ _ _ _)

omit [IsStrictOrderedRing K] [FloorRing K] in
/-- Its only entry signal is at the last bar. -/
theorem probe_entersLast
    (hcheck : settings.check
      (probe_snapshot venue_profile (probe_close settings.position_side) open_interest book)
      = .ok (side, checked)) :
    (probe_config m settings side checked
      (probe_snapshot venue_profile (probe_close settings.position_side) open_interest
        book)).EntersLast 4
      ∧ 1 ≤ settings.position_leverage := by
  have harguments := check_arguments_probe hcheck
  obtain ⟨hleverage, hlatency, -⟩ := Backtest.check_arguments_ok harguments
  have hquiet : ∀ index < 4, probe_signals.1.getD index false = false := by decide
  exact ⟨⟨rfl, hlatency, hquiet, rfl⟩, hleverage⟩

/-! ### One fill -/

/-- The notional of the order. -/
def probe_notional (settings : ExecutionSettings K) : K :=
  probe_close settings.position_side * settings.position_leverage

omit [LinearOrder K] [FloorRing K] [IsStrictOrderedRing K] in
theorem probe_notional_pos [LinearOrder K] [IsStrictOrderedRing K]
    (hleverage : 1 ≤ settings.position_leverage) : 0 < probe_notional settings := by
  have hclose : (0 : K) < probe_close settings.position_side := by
    unfold probe_close
    split_ifs
    · exact one_pos
    · exact three_pos
  exact mul_pos hclose (lt_of_lt_of_le one_pos hleverage)

/-- The basis points the fill is charged. -/
def probe_slippage (settings : ExecutionSettings K) (side : PositionSide)
    (checked : LiquidationSettings K) (snapshot : DataSnapshot K) : K :=
  Backtest.resolve_slippage_bps m (probe_config m settings side checked snapshot)
    (probe_notional settings) 4

/-- Under any model but the realistic one, the probe trades once and pays for two
fills. -/
theorem evaluate_probe_filled
    (hcheck : settings.check
      (probe_snapshot venue_profile (probe_close settings.position_side) open_interest book)
      = .ok (side, checked)) (hmodel : settings.slippage_model ≠ "realistic") :
    ∃ result, evaluate_strategy_with_settings m
          (probe_snapshot venue_profile (probe_close settings.position_side) open_interest book)
          probe_strategy probe_parameters settings = .ok result
      ∧ result.trade_count = 1
      ∧ result.fee_spend = 2 * (probe_notional settings
        * (probe_slippage m settings side checked
          (probe_snapshot venue_profile (probe_close settings.position_side) open_interest book)
          / 10000)) := by
  obtain ⟨result, hrun, hcount, hfee⟩ := evaluate_probe m hcheck
  obtain ⟨hlast, hleverage⟩ := probe_entersLast m hcheck
  obtain ⟨hone, hcost⟩ := Backtest.last_entry_fee_spend m hlast hleverage
    (beq_false_of_ne hmodel)
  refine ⟨result, hrun, hcount.trans hone, (hfee.trans hcost).trans ?_⟩
  unfold Backtest.last_fill_cost Backtest.apply_trade_cost Backtest.bps_to_decimal
  show 2 * (|probe_notional settings| * ((0 + probe_slippage m settings side checked _) / 10000))
    = _
  rw [zero_add, abs_of_pos (probe_notional_pos hleverage)]

/-- Under the realistic model an empty book fills nothing. -/
theorem evaluate_probe_unfilled
    (hcheck : settings.check (probe_snapshot venue_profile (probe_close settings.position_side)
      open_interest (List.replicate 5 0)) = .ok (side, checked))
    (hmodel : settings.slippage_model = "realistic") :
    ∃ result, evaluate_strategy_with_settings m
          (probe_snapshot venue_profile (probe_close settings.position_side) open_interest
            (List.replicate 5 0))
          probe_strategy probe_parameters settings = .ok result
      ∧ result.trade_count = 0 := by
  obtain ⟨result, hrun, hcount, -⟩ := evaluate_probe m hcheck
  obtain ⟨hlast, hleverage⟩ := probe_entersLast m hcheck
  refine ⟨result, hrun, hcount.trans ?_⟩
  rw [Backtest.last_entry_trade_count m hlast]
  apply if_pos
  let cfg := probe_config m settings side checked
    (probe_snapshot venue_profile (probe_close settings.position_side) open_interest
      (List.replicate 5 0))
  let book : List K := [0, 0, 0, 0, 0]
  have hrealistic : cfg.use_realistic_slippage = true := beq_iff_eq.mpr hmodel
  have hmicro : cfg.context.microstructure = some ⟨book, book, book, book⟩ :=
    Backtest.prepared_context_microstructure m _ _ _
  have hnotional : ¬ probe_notional settings ≤ 0 :=
    not_le.mpr (probe_notional_pos hleverage)
  have hratio : Backtest.resolve_execution_fill_ratio cfg (probe_notional settings) 4 = 0 := by
    unfold Backtest.resolve_execution_fill_ratio
    dsimp only
    rw [hrealistic, hmicro]
    dsimp only
    rw [if_neg hnotional]
    exact if_pos (min_le_of_left_le le_rfl)
  show settings.position_leverage
    * Backtest.resolve_execution_fill_ratio cfg (probe_notional settings) 4 ≤ 1e-9
  rw [hratio, mul_zero]
  norm_num

/-! ### The dynamic model -/

omit [FloorRing K] in
/-- Every percentile of a constant series is its value. -/
theorem percentile_threshold_replicate {n percentile : ℕ} (hn : 0 < n) (hpercentile : percentile ≤ 100)
    (value : K) : Backtest.percentile_threshold (List.replicate n value) percentile = value := by
  have hsorted : (List.replicate n value).insertionSort (· ≤ ·) = List.replicate n value :=
    List.perm_replicate.mp (List.perm_insertionSort _ _)
  have hlower : percentile * (n - 1) / 100 ≤ n - 1 := by
    have hle : percentile * (n - 1) ≤ 100 * (n - 1) := Nat.mul_le_mul_right _ hpercentile
    omega
  have hgetD : ∀ index ≤ n - 1, (List.replicate n value).getD index 0 = value := by
    intro index hindex
    rw [List.getD_replicate _ (by omega)]
  unfold Backtest.percentile_threshold
  dsimp only
  rw [hsorted, List.length_replicate, hgetD _ hlower, hgetD _ (min_le_right _ _)]
  ring

omit [FloorRing K] in
/-- Constant open interest is never stressed. -/
theorem compute_oi_stress_flag_replicate (n : ℕ) (value : K) :
    Backtest.compute_oi_stress_flag (List.replicate n value) value = false := by
  unfold Backtest.compute_oi_stress_flag
  split_ifs with hempty
  · rfl
  · have hn : 0 < n := by
      rcases Nat.eq_zero_or_pos n with rfl | hn
      · exact absurd rfl hempty
      · exact hn
    rw [percentile_threshold_replicate hn (by omega)]
    exact decide_eq_false (lt_irrefl _)

omit [FloorRing K] in
/-- The rolling volatility at the last bar. -/
theorem roll_vol_probe (hm : m.FindsRoots) (position_side : String) :
    Backtest.roll_vol_at m [2, 2, 2, 2, probe_close position_side] 4 = 1 / 4 := by
  have hsquare : ∀ x : K, x = 1 / 4 * (1 / 4) → m.sqrt (max x 0) = 1 / 4 := by
    intro x hx
    have hnonneg : 0 ≤ x := by rw [hx]; norm_num
    rw [max_eq_left hnonneg, hx]
    exact hm _ (by norm_num)
  have htwo : max (2 : K) 1e-12 = 2 := max_eq_left (by norm_num)
  have hreturns : Backtest.bar_returns [2, 2, 2, 2, probe_close position_side]
      = [0, 0, 0, (probe_close position_side - 2) / (2 : K)] := by
    show [(2 - 2) / max (2 : K) 1e-12, (2 - 2) / max (2 : K) 1e-12, (2 - 2) / max (2 : K) 1e-12,
      (probe_close position_side - 2) / max (2 : K) 1e-12] = _
    rw [htwo, sub_self, zero_div]
  have hwindow : ([2, 2, 2, 2, probe_close position_side].take (4 + 1)).drop (4 - 30)
      = [2, 2, 2, 2, probe_close (K := K) position_side] := rfl
  have hlong : ¬ [2, 2, 2, 2, probe_close (K := K) position_side].length < 2 := by
    show ¬ 5 < 2
    omega
  unfold Backtest.roll_vol_at
  rw [hwindow]
  dsimp only
  rw [if_neg hlong, hreturns]
  apply hsquare
  unfold probe_close
  split_ifs
  · norm_num
  · norm_num

/-- The open interest at which a dynamic fill of the probe costs `target` basis points. -/
def probe_open_interest (settings : ExecutionSettings K) (target : K) : List K :=
  List.replicate 5 (probe_notional settings * (250 / target * (250 / target)))

theorem probe_slippage_dynamic (hm : m.FindsRoots) {target : K} (htarget : 0 < target)
    (hcap : target ≤ 500) (hleverage : 1 ≤ settings.position_leverage)
    (hmodel : settings.slippage_model = "dynamic") :
    probe_slippage m settings side checked
      (probe_snapshot venue_profile (probe_close settings.position_side)
        (probe_open_interest settings target) book) = target := by
  let snapshot := probe_snapshot venue_profile (probe_close settings.position_side)
    (probe_open_interest settings target) book
  let value : K := probe_notional settings * (250 / target * (250 / target))
  let closes : List K := [2, 2, 2, 2, probe_close settings.position_side]
  have hnotional : 0 < probe_notional settings := probe_notional_pos hleverage
  have hscale : 0 < 250 / target := div_pos (by norm_num) htarget
  have hvalue : 0 < value := mul_pos hnotional (mul_pos hscale hscale)
  have hparticipation : |probe_notional settings| / value = target / 250 * (target / 250) := by
    rw [abs_of_pos hnotional]
    show probe_notional settings / (probe_notional settings * (250 / target * (250 / target))) = _
    field_simp
  have hroot : m.sqrt (max (|probe_notional settings| / value) 0) = target / 250 := by
    have hnonneg : 0 ≤ target / 250 := (div_pos htarget (by norm_num)).le
    rw [hparticipation, max_eq_left (mul_nonneg hnonneg hnonneg)]
    exact hm _ hnonneg
  have hstressed : Backtest.compute_oi_stress_flag (List.replicate 5 value) value = false :=
    compute_oi_stress_flag_replicate 5 value
  have hvol : Backtest.roll_vol_at m closes 4 = 1 / 4 := roll_vol_probe m hm _
  have hdynamic : (settings.slippage_model == "dynamic") = true := beq_iff_eq.mpr hmodel
  have hrealistic : (settings.slippage_model == "realistic") = false := by
    rw [hmodel]
    rfl
  have hcontext : (probe_config m settings side checked snapshot).context
      = Backtest.prepare_sim_context m snapshot.simulated true false := by
    show Backtest.prepare_sim_context m snapshot.simulated (settings.slippage_model == "dynamic")
      (settings.slippage_model == "realistic") = _
    rw [hdynamic, hrealistic]
  have hprice : probe_slippage m settings side checked snapshot
      = Backtest.compute_dynamic_slippage m (probe_notional settings)
        (Backtest.roll_vol_at m closes 4) value
        (Backtest.compute_oi_stress_flag (List.replicate 5 value) value)
        (item (Backtest.label_snapshot_regimes snapshot.simulated) 4 .other)
        settings.slippage_bps := by
    have huses : (probe_config m settings side checked snapshot).use_dynamic_slippage = true :=
      hdynamic
    have hbare : (probe_config m settings side checked snapshot).use_realistic_slippage = false :=
      hrealistic
    unfold probe_slippage Backtest.resolve_slippage_bps
    dsimp only
    rw [hcontext, huses, hbare]
    rfl
  rw [hprice, hvol, hstressed]
  unfold Backtest.compute_dynamic_slippage
  dsimp only
  rw [if_neg (not_le.mpr hvalue), hroot, max_eq_right (by norm_num : (0 : K) ≤ 1 / 4)]
  have htotal : (0.1 : K) * (target / 250) * (1 / 4) * 10000 * 1 = target := by ring
  rw [if_neg Bool.false_ne_true, htotal, min_eq_right hcap, max_eq_right htarget.le]

end Run

end Probe

end ProofAlpha.App
