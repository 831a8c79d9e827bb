/-
The run that places one order, at the first bar, under the realistic model.

`probe_args` signals an entry at bar 0 and nothing after it, with every
liquidation option given, so that no venue profile changes the run. Its pressure
summary then says how the first bar's book filled the order (`probe_run`): fully
when the simulator has no book, at most by half when the order is worth twice the
visible depth.
-/
import ProofAlpha.Backtest.Accounting

set_option autoImplicit false

namespace ProofAlpha.Backtest

open ProofAlpha.Lib ProofAlpha.Lib.IndexedLoop

variable {K : Type} [Field K] [LinearOrder K]

/-! ## The arguments -/

/-- An entry signal at the first bar only. -/
def first_bar_only (bars : ℕ) : List Bool := (List.range bars).map fun index => index == 0

/-- One long order of size `position_leverage` at the first bar. -/
def probe_args (bars : ℕ) (position_leverage : K) : SimArguments K where
  entry_signals := first_bar_only bars
  exit_signals := List.replicate bars false
  slippage_bps := 0
  latency_bars := 0
  position_side := "long"
  position_leverage := position_leverage
  maintenance_margin_ratio := some 0.01
  liquidation_fee_bps := some 0
  liquidation_mark_price_weight := some 0
  partial_liquidation_ratio := some 1
  liquidation_cooldown_bars := some 0
  liquidation_step_schedule := some none
  liquidation_mark_premium_bps := some 0
  maintenance_margin_schedule := some []
  liquidation_fee_schedule := some []
  slippage_model := "realistic"

/-- Every option is given, so the venue profile has no say. -/
theorem resolve_liquidation_defaults_probe (snapshot : DataSnapshot K) (bars : ℕ)
    (position_leverage : K) :
    resolve_liquidation_defaults snapshot (probe_args bars position_leverage)
      = { maintenance_margin_ratio := 0.01
          liquidation_fee_bps := 0
          liquidation_mark_price_weight := 0
          partial_liquidation_ratio := 1
          liquidation_cooldown_bars := 0
          liquidation_step_schedule := none
          liquidation_mark_premium_bps := 0
          maintenance_margin_schedule := []
          liquidation_fee_schedule := [] } := by
  simp [resolve_liquidation_defaults, probe_args, unset_or]

/-- The configuration of the probing run. -/
def probe_config (m : PyMath K) (snapshot : DataSnapshot K) (position_leverage : K) : SimConfig K :=
  sim_config m snapshot (probe_args snapshot.candles.length position_leverage) .long plain_settings

/-! ## After the first bar -/

/-- A bar without signals fills no order. -/
theorem bar_step_fill_counters (m : PyMath K) {cfg : SimConfig K} (s : SimState K) {index : ℕ}
    (hentry : cfg.entry_signals.getD index false = false)
    (hexit : cfg.exit_signals.getD index false = false) :
    (bar_step m cfg s index).1.fill_event_count = s.fill_event_count
      ∧ (bar_step m cfg s index).1.partial_fill_event_count = s.partial_fill_event_count := by
  obtain ⟨funding, hfunding⟩ := accrue_funding_frame cfg s index
  unfold bar_step
  dsimp only
  rw [hfunding, hentry, hexit]
  split_ifs with hdue hopens hcloses
  · unfold liquidate liquidation_books close_if_flat
    dsimp only
    split_ifs <;> exact ⟨rfl, rfl⟩
  · exact hopens.2.elim
  · exact hcloses.2.1.elim
  · exact ⟨rfl, rfl⟩

theorem first_bar_only_getD (bars : ℕ) {index : ℕ} (hindex : 0 < index) :
    (first_bar_only bars).getD index false = false := by
  unfold first_bar_only
  rw [List.getD_eq_getElem?_getD, List.getElem?_map]
  by_cases hlt : index < bars
  · rw [List.getElem?_range hlt]
    simp
    omega
  · rw [List.getElem?_eq_none (by rw [List.length_range]; omega)]
    rfl

/-- The fill counters after the first bar are those at the end. -/
theorem stateAt_fill_counters (m : PyMath K) (snapshot : DataSnapshot K) (position_leverage : K)
    (n : ℕ) :
    let cfg := probe_config m snapshot position_leverage
    (stateAt (bar_step m cfg) SimState.initial (n + 1)).fill_event_count
        = (stateAt (bar_step m cfg) SimState.initial 1).fill_event_count
      ∧ (stateAt (bar_step m cfg) SimState.initial (n + 1)).partial_fill_event_count
        = (stateAt (bar_step m cfg) SimState.initial 1).partial_fill_event_count := by
  intro cfg
  induction n with
  | zero => exact ⟨rfl, rfl⟩
  | succ n ih =>
      have hentry : cfg.entry_signals.getD (n + 1) false = false :=
        first_bar_only_getD _ (Nat.succ_pos n)
      have hexit : cfg.exit_signals.getD (n + 1) false = false := by
        show (List.replicate _ false).getD (n + 1) false = false
        rw [List.getD_eq_getElem?_getD, List.getElem?_replicate]
        split_ifs <;> rfl
      obtain ⟨hfills, hpartial⟩ := bar_step_fill_counters m
        (stateAt (bar_step m cfg) SimState.initial (n + 1)) hentry hexit
      rw [stateAt_succ, hfills, hpartial]
      exact ih

/-- The fill of the order at the first bar. -/
def probe_quote (m : PyMath K) (snapshot : DataSnapshot K) (position_leverage : K) : FillQuote K :=
  execution_quote m (probe_config m snapshot position_leverage) 0 position_leverage true

/-- What the first bar leaves of the fill counters: nothing was filled, or one
order, in full or in part. -/
theorem stateAt_one_fill_counters (m : PyMath K) {snapshot : DataSnapshot K}
    (hcandles : snapshot.candles ≠ []) (position_leverage : K) :
    let cfg := probe_config m snapshot position_leverage
    let q := probe_quote m snapshot position_leverage
    let s := stateAt (bar_step m cfg) SimState.initial 1
    (s.fill_event_count, s.partial_fill_event_count)
      = if q.executed_size ≤ 1e-9 then (0, 0)
        else (1, if q.fill_ratio < 1 - 1e-9 then 1 else 0) := by
  intro cfg q s
  have hpos : 0 < snapshot.candles.length := List.length_pos_iff.mpr hcandles
  have hfill : fill_index cfg 0 = 0 := by
    show min (((0 : ℕ) : ℤ) + 0) ((snapshot.candles.length : ℤ) - 1) = 0
    omega
  have hentry : cfg.entry_signals.getD 0 false = true := by
    show (first_bar_only snapshot.candles.length).getD 0 false = true
    rw [first_bar_only, List.getD_eq_getElem?_getD, List.getElem?_map,
      List.getElem?_range hpos]
    rfl
  have hstep : s = (enter m cfg SimState.initial 0 (mark_to_market cfg SimState.initial 0)).1 := by
    show (bar_step m cfg SimState.initial 0).1 = _
    rw [bar_step_closed m cfg rfl, if_pos hentry]
  have hquote : execution_quote m cfg (fill_index cfg 0) cfg.position_leverage true = q := by
    rw [hfill]
    rfl
  rw [hstep, enter, hquote]
  dsimp only
  by_cases hfilled : q.executed_size ≤ 1e-9
  · rw [if_pos hfilled, if_pos hfilled]
    rfl
  · rw [if_neg hfilled, if_neg hfilled]
    rfl

/-- The forced close fills no order. -/
theorem simulate_bars_fill_counters (m : PyMath K) (cfg : SimConfig K) :
    (simulate_bars m cfg).1.fill_event_count
        = (stateAt (bar_step m cfg) SimState.initial cfg.bars).fill_event_count
      ∧ (simulate_bars m cfg).1.partial_fill_event_count
        = (stateAt (bar_step m cfg) SimState.initial cfg.bars).partial_fill_event_count := by
  unfold simulate_bars
  dsimp only
  rw [run_fst]
  split_ifs <;> exact ⟨rfl, rfl⟩

/-- The partial fills a summary counts. -/
theorem execution_pressure_summary_partial_fills [FloorRing K] (s : SimState K) :
    (execution_pressure_summary true s).map PressureSummary.partial_fill_event_count
      = if 0 < s.fill_event_count then some s.partial_fill_event_count else none := by
  unfold execution_pressure_summary
  by_cases hfills : 0 < s.fill_event_count
  · rw [if_pos ⟨rfl, hfills⟩, if_pos hfills]
    rfl
  · rw [if_neg fun h => hfills h.2, if_neg hfills]
    rfl

/-! ## The probing run -/

variable [IsStrictOrderedRing K]

/-- The arguments pass the checks on every snapshot of that many bars. -/
theorem check_arguments_probe {snapshot : DataSnapshot K} {bars : ℕ} {position_leverage : K}
    (hbars : snapshot.candles.length = bars) (hleverage : 1 ≤ position_leverage) :
    check_arguments snapshot (probe_args bars position_leverage) = .ok (.long, plain_settings) := by
  have hmargin : (0 : K) ≤ 0.01 ∧ (0.01 : K) < 1 := ⟨by norm_num, by norm_num⟩
  unfold check_arguments check_options
  rw [resolve_liquidation_defaults_probe]
  simp only [probe_args, hbars, hleverage]
  simp [require, check_position_side, hmargin, plain_settings, first_bar_only]
  rfl

variable [FloorRing K]

/-- The probing run returns, and its summary counts the partial fills of its one
order; there is no summary when nothing was filled. -/
theorem probe_run (m : PyMath K) {snapshot : DataSnapshot K} (hcandles : snapshot.candles ≠ [])
    {position_leverage : K} (hleverage : 1 ≤ position_leverage) :
    ∃ result, simulate_strategy m snapshot
        (probe_args snapshot.candles.length position_leverage) = .ok result
      ∧ result.execution_pressure_summary.map PressureSummary.partial_fill_event_count
        = if (probe_quote m snapshot position_leverage).executed_size ≤ 1e-9 then none
          else some
            (if (probe_quote m snapshot position_leverage).fill_ratio < 1 - 1e-9 then 1 else 0) := by
  have hpos : 0 < snapshot.candles.length := List.length_pos_iff.mpr hcandles
  have hcheck : check_arguments snapshot (probe_args snapshot.candles.length position_leverage)
      = .ok (.long, plain_settings) := check_arguments_probe rfl hleverage
  refine ⟨_, by rw [simulate_strategy, hcheck]; rfl, ?_⟩
  have hone := stateAt_one_fill_counters m hcandles position_leverage
  have hlast := stateAt_fill_counters m snapshot position_leverage (snapshot.candles.length - 1)
  rw [Nat.sub_add_cancel hpos] at hlast
  dsimp only at hone hlast
  obtain ⟨hfills, hpartial⟩ :=
    simulate_bars_fill_counters m (probe_config m snapshot position_leverage)
  refine (execution_pressure_summary_partial_fills
    (simulate_bars m (probe_config m snapshot position_leverage)).1).trans ?_
  rw [hfills.trans hlast.1, hpartial.trans hlast.2]
  by_cases hfilled : (probe_quote m snapshot position_leverage).executed_size ≤ 1e-9
  · rw [if_pos hfilled] at hone ⊢
    obtain ⟨hcount, -⟩ := Prod.mk.inj hone
    rw [hcount]
    rfl
  · rw [if_neg hfilled] at hone ⊢
    obtain ⟨hcount, hpart⟩ := Prod.mk.inj hone
    rw [hcount, hpart]
    rfl

/-! ## Runs with and without a book -/

omit [FloorRing K] in
theorem one_le_cascade_multiplier (oi_stressed : Bool) (funding_z liquidation_z : K)
    (depth_depleted : Bool) :
    1 ≤ cascade_multiplier oi_stressed funding_z liquidation_z depth_depleted := by
  unfold cascade_multiplier
  dsimp only
  split_ifs <;> norm_num

omit [FloorRing K] in
/-- An order worth twice the visible depth is filled by at most half. -/
theorem depth_fill_ratio_le_half {trade_notional available_depth cascade : K}
    (depth_depleted : Bool) (hnotional : 0 < trade_notional)
    (hdepth : 2 * available_depth ≤ trade_notional) (hcascade : 1 ≤ cascade) :
    depth_fill_ratio trade_notional available_depth cascade depth_depleted ≤ 1 / 2 := by
  unfold depth_fill_ratio
  dsimp only
  by_cases hempty : available_depth ≤ 0
  · rw [if_pos hempty]
    norm_num
  · rw [if_neg hempty]
    have hpos : 0 < available_depth := not_le.mp hempty
    have hmax : 0 < max trade_notional 1e-9 := lt_max_of_lt_left hnotional
    have hratio : available_depth / max trade_notional 1e-9 ≤ 1 / 2 := by
      rw [div_le_iff₀ hmax]
      have hle : trade_notional ≤ max trade_notional 1e-9 := le_max_left _ _
      linarith
    have hratio0 : 0 ≤ available_depth / max trade_notional 1e-9 := (div_pos hpos hmax).le
    generalize available_depth / max trade_notional 1e-9 = depth_ratio at hratio hratio0
    have hshallow : ¬ (2 ≤ depth_ratio ∧ cascade ≤ 1.25 ∧ depth_depleted = false) := by
      intro hdeep
      linarith [hdeep.1]
    rw [if_neg hshallow]
    have hfill : 0 ≤ min 1 depth_ratio ∧ min 1 depth_ratio ≤ 1 / 2 :=
      ⟨le_min zero_le_one hratio0, le_trans (min_le_right _ _) hratio⟩
    -- neither the cascade nor a depleted book raises the share
    have hcascaded : ∀ share : K, 0 ≤ share ∧ share ≤ 1 / 2 →
        0 ≤ (if 1 < cascade then share / cascade else share)
          ∧ (if 1 < cascade then share / cascade else share) ≤ 1 / 2 := by
      intro share hshare
      split_ifs
      · exact ⟨div_nonneg hshare.1 (by linarith),
          le_trans (div_le_self hshare.1 hcascade) hshare.2⟩
      · exact hshare
    have hdepleted : ∀ share : K, 0 ≤ share ∧ share ≤ 1 / 2 →
        (if depth_depleted = true ∧ depth_ratio < 1.5 then share * 0.85 else share) ≤ 1 / 2 := by
      intro share hshare
      split_ifs
      · linarith [hshare.1, hshare.2]
      · exact hshare.2
    apply max_le
    · norm_num
    · exact le_trans (min_le_right _ _) (hdepleted _ (hcascaded _ hfill))

omit [IsStrictOrderedRing K] [FloorRing K] in
/-- The share of the order that is filled: all of it without a book. -/
theorem probe_fill_ratio (m : PyMath K) (snapshot : DataSnapshot K) (position_leverage : K) :
    (probe_quote m snapshot position_leverage).fill_ratio
      = match load_microstructure_series snapshot snapshot.candles.length with
        | none => 1
        | some micro =>
            let cfg := probe_config m snapshot position_leverage
            let trade_notional := (cfg.candle 0).close * position_leverage
            if trade_notional ≤ 0 then 1
            else
              depth_fill_ratio trade_notional
                (min (micro.depth_bid_1bp_usd.getD 0 0) (micro.depth_ask_1bp_usd.getD 0 0))
                (cascade_multiplier (PyList.item cfg.context.oi_stressed 0 false)
                  (PyList.item cfg.context.funding_z 0 0)
                  (PyList.item cfg.context.liquidation_z 0 0)
                  (PyList.item cfg.context.depth_depleted 0 false))
                (PyList.item cfg.context.depth_depleted 0 false) := by
  have hmicro : (probe_config m snapshot position_leverage).context.microstructure
      = load_microstructure_series snapshot snapshot.candles.length := rfl
  have hrealistic : (probe_config m snapshot position_leverage).use_realistic_slippage = true :=
    rfl
  show resolve_execution_fill_ratio _ _ 0 = _
  unfold resolve_execution_fill_ratio
  dsimp only
  rw [hmicro, hrealistic]
  cases load_microstructure_series snapshot snapshot.candles.length with
  | none => rfl
  | some micro => rfl

/-- Without a book the order is filled in full: the summary counts no partial fill. -/
theorem probe_run_without_book (m : PyMath K) {snapshot : DataSnapshot K}
    (hcandles : snapshot.candles ≠ []) {position_leverage : K} (hleverage : 1 ≤ position_leverage)
    (hmicro : load_microstructure_series snapshot snapshot.candles.length = none) :
    ∃ result, simulate_strategy m snapshot
        (probe_args snapshot.candles.length position_leverage) = .ok result
      ∧ result.execution_pressure_summary.map PressureSummary.partial_fill_event_count
        = some 0 := by
  obtain ⟨result, hrun, hsummary⟩ := probe_run m hcandles hleverage
  refine ⟨result, hrun, hsummary.trans ?_⟩
  have hratio := probe_fill_ratio m snapshot position_leverage
  rw [hmicro] at hratio
  have hsize : (probe_quote m snapshot position_leverage).executed_size = position_leverage := by
    show position_leverage * (probe_quote m snapshot position_leverage).fill_ratio = _
    rw [hratio, mul_one]
  have hfilled : ¬ position_leverage ≤ (1e-9 : K) := by
    apply not_le.mpr
    apply lt_of_lt_of_le _ hleverage
    norm_num
  have hfull : ¬ (1 : K) < 1 - 1e-9 := by norm_num
  rw [hsize, hratio, if_neg hfilled, if_neg hfull]

/-- A book half as deep as the order is worth does not fill it: the summary counts a
partial fill, or there is none. -/
theorem probe_run_with_book (m : PyMath K) {snapshot : DataSnapshot K}
    (hcandles : snapshot.candles ≠ []) {position_leverage : K} (hleverage : 1 ≤ position_leverage)
    {micro : Microstructure K}
    (hmicro : load_microstructure_series snapshot snapshot.candles.length = some micro)
    (hclose : 0 < (snapshot.candles.getD 0 Candle.missing).close)
    (hdepth : 2 * min (micro.depth_bid_1bp_usd.getD 0 0) (micro.depth_ask_1bp_usd.getD 0 0)
      ≤ (snapshot.candles.getD 0 Candle.missing).close * position_leverage) :
    ∃ result, simulate_strategy m snapshot
        (probe_args snapshot.candles.length position_leverage) = .ok result
      ∧ result.execution_pressure_summary.map PressureSummary.partial_fill_event_count
        ≠ some 0 := by
  obtain ⟨result, hrun, hsummary⟩ := probe_run m hcandles hleverage
  refine ⟨result, hrun, ?_⟩
  rw [hsummary]
  have hcandle : (probe_config m snapshot position_leverage).candle 0
      = snapshot.candles.getD 0 Candle.missing := PyList.item_natCast _ 0 _
  have hnotional : 0 < (snapshot.candles.getD 0 Candle.missing).close * position_leverage :=
    mul_pos hclose (lt_of_lt_of_le zero_lt_one hleverage)
  have hratio := probe_fill_ratio m snapshot position_leverage
  rw [hmicro] at hratio
  dsimp only at hratio
  rw [hcandle, if_neg (not_le.mpr hnotional)] at hratio
  have hhalf : (probe_quote m snapshot position_leverage).fill_ratio < 1 - 1e-9 := by
    rw [hratio]
    apply lt_of_le_of_lt
      (depth_fill_ratio_le_half _ hnotional hdepth (one_le_cascade_multiplier _ _ _ _))
    norm_num
  rw [if_pos hhalf]
  split_ifs <;> simp

end ProofAlpha.Backtest
