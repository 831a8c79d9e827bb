/-
One run in two price units.

`in_unit c` multiplies every price by `c`. Under the flat slippage model the bar
loop decides on sizes, signals and comparisons of prices, so a run in another unit
makes the same fills and its money amounts are `c` times as large
(`bar_step_in_unit`). The exception is a schedule tier with a notional limit: the
limit is an amount of money that does not change with the unit.
-/
import Mathlib.Tactic.Ring
import ProofAlpha.Backtest.Accounting

set_option autoImplicit false

namespace ProofAlpha.Backtest

open ProofAlpha.Lib ProofAlpha.Lib.PyList ProofAlpha.Lib.IndexedLoop

variable {K : Type} [Field K] [LinearOrder K]

/-! ## Prices in another unit -/

/-- The candle with its prices multiplied by `c`. -/
def Candle.in_unit (c : K) (candle : Candle K) : Candle K :=
  { candle with high := c * candle.high, low := c * candle.low, close := c * candle.close }

/-- The snapshot with every price multiplied by `c`. -/
def DataSnapshot.in_unit (c : K) (snapshot : DataSnapshot K) : DataSnapshot K :=
  { snapshot with candles := snapshot.candles.map (Candle.in_unit c) }

/-- The loop's configuration over the prices in another unit. -/
def SimConfig.in_unit (c : K) (cfg : SimConfig K) : SimConfig K :=
  { cfg with candles := cfg.candles.map (Candle.in_unit c) }

/-- The books in another unit: sizes and counts are what they were. -/
def SimState.in_unit (c : K) (s : SimState K) : SimState K :=
  { s with
    entry_price := c * s.entry_price
    gross_pnl := c * s.gross_pnl
    fee_spend := c * s.fee_spend
    funding_spend := c * s.funding_spend }

/-- The execution of an order in another unit. -/
def FillQuote.in_unit (c : K) (q : FillQuote K) : FillQuote K :=
  { q with fill_price := c * q.fill_price }

/-- The arguments with `slippage_model="flat"`. -/
def SimArguments.flat (args : SimArguments K) : SimArguments K := { args with slippage_model := "flat" }

/-- The loop prices its fills with the flat model. -/
structure SimConfig.IsFlat (cfg : SimConfig K) : Prop where
  dynamic : cfg.use_dynamic_slippage = false
  realistic : cfg.use_realistic_slippage = false

theorem sim_config_isFlat (m : PyMath K) (snapshot : DataSnapshot K) (args : SimArguments K)
    (side : PositionSide) (settings : LiquidationSettings K) :
    (sim_config m snapshot args.flat side settings).IsFlat := ⟨rfl, rfl⟩

omit [LinearOrder K] in
@[simp] theorem SimConfig.in_unit_bars (c : K) (cfg : SimConfig K) :
    (cfg.in_unit c).bars = cfg.bars := List.length_map _

omit [LinearOrder K] in
@[simp] theorem SimConfig.in_unit_fill_index (c : K) (cfg : SimConfig K) (index : ℕ) :
    fill_index (cfg.in_unit c) index = fill_index cfg index := by
  unfold fill_index
  rw [SimConfig.in_unit_bars]
  rfl

omit [LinearOrder K] in
/-- A candle that is not there has price zero in every unit. -/
theorem item_in_unit (c : K) (candles : List (Candle K)) (index : ℤ) :
    item (candles.map (Candle.in_unit c)) index Candle.missing
      = (item candles index Candle.missing).in_unit c := by
  have hmissing : (Candle.missing : Candle K).in_unit c = Candle.missing := by
    simp [Candle.in_unit, Candle.missing]
  have hmap := item_map (Candle.in_unit c) candles index Candle.missing
  rw [hmissing] at hmap
  exact hmap

omit [LinearOrder K] in
@[simp] theorem SimConfig.in_unit_candle (c : K) (cfg : SimConfig K) (index : ℤ) :
    (cfg.in_unit c).candle index = (cfg.candle index).in_unit c :=
  item_in_unit c cfg.candles index

omit [LinearOrder K] in
/-- Settlements are counted from timestamps alone. -/
theorem funding_event_counts_in_unit (c : K) (candles : List (Candle K)) (venue : String) :
    compute_funding_event_counts (candles.map (Candle.in_unit c)) venue
      = compute_funding_event_counts candles venue := by
  have htimestamp : ∀ index : ℕ,
      ((candles.map (Candle.in_unit c)).getD index Candle.missing).timestamp
        = (candles.getD index Candle.missing).timestamp := by
    intro index
    have hitem := item_in_unit c candles (index : ℤ)
    rw [item_natCast, item_natCast] at hitem
    rw [hitem]
    rfl
  unfold compute_funding_event_counts
  rw [List.length_map]
  refine List.map_congr_left fun index _ => ?_
  unfold funding_event_count_at
  simp only [htimestamp]

/-- The flat run of a snapshot in another unit is the loop over the prices in that
unit. -/
theorem sim_config_in_unit (m : PyMath K) (c : K) (snapshot : DataSnapshot K)
    (args : SimArguments K) (side : PositionSide) (settings : LiquidationSettings K) :
    sim_config m (snapshot.in_unit c) args.flat side settings
      = (sim_config m snapshot args.flat side settings).in_unit c := by
  unfold sim_config SimConfig.in_unit DataSnapshot.in_unit
  simp only [funding_event_counts_in_unit]
  congr 1
  unfold prepare_sim_context
  simp [SimArguments.flat, load_microstructure_series]

/-- The argument checks look at no price. -/
theorem check_arguments_in_unit (c : K) (snapshot : DataSnapshot K) (args : SimArguments K) :
    check_arguments (snapshot.in_unit c) args = check_arguments snapshot args := by
  unfold check_arguments
  rw [DataSnapshot.in_unit, List.length_map]
  rfl

/-! ## Flat fills -/

section Flat

variable (m : PyMath K) {cfg : SimConfig K}

omit [LinearOrder K] in
theorem SimConfig.IsFlat.in_unit (h : cfg.IsFlat) (c : K) : (cfg.in_unit c).IsFlat :=
  ⟨h.dynamic, h.realistic⟩

theorem resolve_slippage_bps_flat (h : cfg.IsFlat) (trade_notional : K) (bar_index : ℤ) :
    resolve_slippage_bps m cfg trade_notional bar_index = cfg.slippage_bps := by
  unfold resolve_slippage_bps
  rw [h.dynamic, h.realistic]
  rfl

/-- A flat fill is a full one at the close of its bar. -/
theorem execution_quote_flat (h : cfg.IsFlat) (bar : ℤ) (size : K) (is_entry : Bool) :
    execution_quote m cfg bar size is_entry
      = { fill_ratio := 1
          executed_size := size
          slippage_bps := cfg.slippage_bps
          adverse_fill_bps := 0
          fill_price := (cfg.candle bar).close } := by
  rw [execution_quote_unrealistic m h.realistic, resolve_slippage_bps_flat m h]

/-- So it is the same fill in another unit. -/
theorem execution_quote_in_unit (h : cfg.IsFlat) (c : K) (bar : ℤ) (size : K) (is_entry : Bool) :
    execution_quote m (cfg.in_unit c) bar size is_entry
      = (execution_quote m cfg bar size is_entry).in_unit c := by
  rw [execution_quote_flat m (h.in_unit c), execution_quote_flat m h, SimConfig.in_unit_candle]
  rfl

end Flat

/-! ## Tiers without a notional limit -/

/-- No tier of the schedule has a notional limit. -/
def NotionalFree {V : Type} (schedule : List (Tier K V)) : Prop :=
  ∀ tier ∈ schedule, tier.max_notional = none

omit [Field K] in
/-- Which tier applies then does not depend on the notional. -/
theorem NotionalFree.resolve {V : Type} {schedule : List (Tier K V)} (h : NotionalFree schedule)
    (position_leverage a b : K) :
    resolve_tier_entry position_leverage a schedule
      = resolve_tier_entry position_leverage b schedule := by
  have happlies : ∀ tier ∈ sort_tier_schedule schedule,
      tier_applies position_leverage a tier = tier_applies position_leverage b tier := by
    intro tier htier
    have hmem : tier ∈ schedule := (List.mem_insertionSort tier_key_le).mp htier
    unfold tier_applies
    rw [h tier hmem]
    rfl
  unfold resolve_tier_entry
  dsimp only
  rw [List.find?_congr happlies]

/-- No tier of either schedule has a notional limit. -/
structure LiquidationSettings.NotionalFree (settings : LiquidationSettings K) : Prop where
  margin : ProofAlpha.Backtest.NotionalFree settings.maintenance_margin_schedule
  fee : ProofAlpha.Backtest.NotionalFree settings.liquidation_fee_schedule

/-! ## One bar in two units -/

section Bar

variable [IsStrictOrderedRing K] (m : PyMath K) {cfg : SimConfig K} {c : K}

omit [LinearOrder K] [IsStrictOrderedRing K] in
theorem price_delta_in_unit (c a b : K) (side : PositionSide) :
    price_delta (c * a) (c * b) side = c * price_delta a b side := by
  cases side <;> exact (mul_sub c _ _).symm

omit [LinearOrder K] [IsStrictOrderedRing K] in
theorem equity_mark_in_unit (c : K) (s : SimState K) (unrealized : K) :
    equity_mark (s.in_unit c) (c * unrealized) = c * equity_mark s unrealized := by
  unfold equity_mark SimState.in_unit
  dsimp only
  ring

omit [LinearOrder K] [IsStrictOrderedRing K] in
theorem equity_mark_in_unit_zero (c : K) (s : SimState K) :
    equity_mark (s.in_unit c) 0 = c * equity_mark s 0 := by
  have h := equity_mark_in_unit c s 0
  rw [mul_zero] at h
  exact h

theorem apply_trade_cost_in_unit (hc : 0 < c) (notional fee_bps slippage_bps : K) :
    apply_trade_cost (c * notional) fee_bps slippage_bps
      = c * apply_trade_cost notional fee_bps slippage_bps := by
  unfold apply_trade_cost
  rw [abs_mul, abs_of_pos hc, mul_assoc]

theorem accrue_funding_in_unit (hc : 0 < c) (s : SimState K) (index : ℕ) :
    accrue_funding (cfg.in_unit c) (s.in_unit c) index = (accrue_funding cfg s index).in_unit c := by
  unfold accrue_funding
  rw [SimConfig.in_unit_candle]
  by_cases hopen : s.position_open = true
  · have hopen' : (s.in_unit c).position_open = true := hopen
    rw [if_pos hopen, if_pos hopen']
    unfold SimState.in_unit Candle.in_unit apply_funding
    simp only [SimState.mk.injEq, true_and, and_true, abs_mul, abs_of_pos hc]
    unfold SimConfig.in_unit
    dsimp only
    ring
  · have hopen' : ¬ (s.in_unit c).position_open = true := hopen
    rw [if_neg hopen, if_neg hopen']

omit [LinearOrder K] [IsStrictOrderedRing K] in
theorem unrealized_pnl_in_unit (c close : K) (side : PositionSide) (s : SimState K) :
    unrealized_pnl (c * close) side (s.in_unit c) = c * unrealized_pnl close side s := by
  unfold unrealized_pnl SimState.in_unit
  dsimp only
  rw [price_delta_in_unit, mul_assoc]

omit [LinearOrder K] [IsStrictOrderedRing K] in
theorem mark_to_market_in_unit (c : K) (s : SimState K) (index : ℕ) :
    mark_to_market (cfg.in_unit c) (s.in_unit c) index = c * mark_to_market cfg s index := by
  unfold mark_to_market
  rw [SimConfig.in_unit_candle, ← equity_mark_in_unit, mul_ite, mul_zero,
    ← unrealized_pnl_in_unit]
  rfl

omit [IsStrictOrderedRing K] in
theorem position_liquidation_price_in_unit (hfree : cfg.settings.NotionalFree) (c : K)
    (s : SimState K) :
    position_liquidation_price (cfg.in_unit c) (s.in_unit c)
      = c * position_liquidation_price cfg s := by
  have hmargin : resolve_maintenance_margin_ratio cfg.position_leverage
        (position_notional (s.in_unit c)) cfg.settings.maintenance_margin_ratio
        cfg.settings.maintenance_margin_schedule
      = resolve_maintenance_margin_ratio cfg.position_leverage (position_notional s)
        cfg.settings.maintenance_margin_ratio cfg.settings.maintenance_margin_schedule := by
    unfold resolve_maintenance_margin_ratio resolve_tier_value
    rw [hfree.margin.resolve]
  unfold position_liquidation_price
  dsimp only [SimConfig.in_unit]
  rw [hmargin]
  unfold liquidation_price SimState.in_unit
  cases cfg.position_side <;> exact mul_assoc c _ _

omit [LinearOrder K] [IsStrictOrderedRing K] in
theorem bar_trigger_price_in_unit (c : K) (index : ℕ) :
    bar_trigger_price (cfg.in_unit c) index = c * bar_trigger_price cfg index := by
  unfold bar_trigger_price
  rw [SimConfig.in_unit_candle]
  unfold liquidation_trigger_price Candle.in_unit SimConfig.in_unit
  dsimp only
  cases cfg.position_side <;> dsimp only <;> ring

/-- The comparison of two prices does not depend on their unit. -/
theorem liquidation_due_in_unit (hfree : cfg.settings.NotionalFree) (hc : 0 < c) (s : SimState K)
    (index : ℕ) :
    liquidation_due (cfg.in_unit c) (s.in_unit c) index = liquidation_due cfg s index := by
  have htriggered : liquidation_triggered (bar_trigger_price (cfg.in_unit c) index)
        (position_liquidation_price (cfg.in_unit c) (s.in_unit c)) cfg.position_side
      = liquidation_triggered (bar_trigger_price cfg index) (position_liquidation_price cfg s)
        cfg.position_side := by
    rw [bar_trigger_price_in_unit, position_liquidation_price_in_unit hfree]
    unfold liquidation_triggered
    cases cfg.position_side <;> simp only [mul_le_mul_iff_right₀ hc]
  unfold liquidation_due triggered_at
  dsimp only [SimConfig.in_unit] at htriggered ⊢
  rw [htriggered]
  rfl

omit [IsStrictOrderedRing K] in
theorem step_ratio_in_unit (hfree : cfg.settings.NotionalFree) (c : K) (s : SimState K) :
    step_ratio (cfg.in_unit c) (s.in_unit c) = step_ratio cfg s := by
  have hbehavior : step_behavior (cfg.in_unit c) (s.in_unit c) = step_behavior cfg s := by
    unfold step_behavior resolve_liquidation_step_behavior tier_step_behavior
    dsimp only [SimConfig.in_unit]
    rw [hfree.margin.resolve _ (position_notional (s.in_unit c)) (position_notional s)]
    rfl
  unfold step_ratio
  rw [hbehavior]
  rfl

omit [IsStrictOrderedRing K] in
theorem position_liquidation_fee_bps_in_unit (hfree : cfg.settings.NotionalFree) (c : K)
    (s : SimState K) :
    position_liquidation_fee_bps (cfg.in_unit c) (s.in_unit c)
      = position_liquidation_fee_bps cfg s := by
  unfold position_liquidation_fee_bps resolve_tier_value
  dsimp only [SimConfig.in_unit]
  rw [hfree.fee.resolve _ (position_notional (s.in_unit c)) (position_notional s)]

omit [IsStrictOrderedRing K] in
/-- Whether a size is closed does not depend on the unit. -/
theorem close_if_flat_in_unit (c : K) (s : SimState K) :
    close_if_flat (s.in_unit c) = (close_if_flat s).in_unit c := by
  unfold close_if_flat
  by_cases hflat : is_flat s
  · have hflat' : is_flat (s.in_unit c) := hflat
    rw [if_pos hflat, if_pos hflat']
    simp [end_position, SimState.in_unit]
  · have hflat' : ¬ is_flat (s.in_unit c) := hflat
    rw [if_neg hflat, if_neg hflat']

/-- Whether a trade wins does not depend on the unit. -/
theorem count_win_in_unit (hc : 0 < c) (s : SimState K) (trade_net : K) :
    count_win (s.in_unit c) (c * trade_net) = (count_win s trade_net).in_unit c := by
  unfold count_win SimState.in_unit
  dsimp only
  simp only [mul_pos_iff_of_pos_left hc]

omit [LinearOrder K] [IsStrictOrderedRing K] in
theorem realize_in_unit (c : K) (s : SimState K) (size trade_gross exit_cost : K) :
    realize (s.in_unit c) size (c * trade_gross) (c * exit_cost)
      = (realize s size trade_gross exit_cost).in_unit c := by
  simp [realize, SimState.in_unit, mul_add]

theorem liquidation_books_in_unit (hflat : cfg.IsFlat) (hfree : cfg.settings.NotionalFree)
    (hc : 0 < c) (s : SimState K) (index : ℕ) :
    liquidation_books m (cfg.in_unit c) (s.in_unit c) index
      = (liquidation_books m cfg s index).in_unit c := by
  unfold liquidation_books
  dsimp only
  rw [resolve_slippage_bps_flat m hflat, resolve_slippage_bps_flat m (hflat.in_unit c),
    step_ratio_in_unit hfree, position_liquidation_fee_bps_in_unit hfree,
    position_liquidation_price_in_unit hfree]
  dsimp only [SimConfig.in_unit, SimState.in_unit]
  rw [mul_assoc c, apply_trade_cost_in_unit hc, price_delta_in_unit, mul_assoc c]
  simp [realize, mul_add]

theorem liquidate_in_unit (hflat : cfg.IsFlat) (hfree : cfg.settings.NotionalFree) (hc : 0 < c)
    (s : SimState K) (index : ℕ) :
    (liquidate m (cfg.in_unit c) (s.in_unit c) index).1 = (liquidate m cfg s index).1.in_unit c
      ∧ (liquidate m (cfg.in_unit c) (s.in_unit c) index).2.equity
        = c * (liquidate m cfg s index).2.equity := by
  unfold liquidate
  dsimp only
  rw [liquidation_books_in_unit m hflat hfree hc, close_if_flat_in_unit, mark_to_market_in_unit]
  exact ⟨rfl, rfl⟩

theorem fill_cost_in_unit (hc : 0 < c) (q : FillQuote K) :
    fill_cost (cfg.in_unit c) (q.in_unit c) = c * fill_cost cfg q := by
  unfold fill_cost
  dsimp only [SimConfig.in_unit, FillQuote.in_unit]
  rw [mul_assoc, apply_trade_cost_in_unit hc]
  rfl

theorem enter_in_unit (hflat : cfg.IsFlat) (hc : 0 < c) (s : SimState K) (index : ℕ) (mark : K) :
    (enter m (cfg.in_unit c) (s.in_unit c) index (c * mark)).1
        = (enter m cfg s index mark).1.in_unit c
      ∧ (enter m (cfg.in_unit c) (s.in_unit c) index (c * mark)).2.equity
        = c * (enter m cfg s index mark).2.equity := by
  have hleverage : (cfg.in_unit c).position_leverage = cfg.position_leverage := rfl
  unfold enter
  dsimp only
  rw [execution_quote_in_unit m hflat, SimConfig.in_unit_fill_index, fill_cost_in_unit hc, hleverage]
  generalize execution_quote m cfg (fill_index cfg index) cfg.position_leverage true = q
  have hsize : (q.in_unit c).executed_size = q.executed_size := rfl
  have hprice : (q.in_unit c).fill_price = c * q.fill_price := rfl
  have hrecord : record_fill (s.in_unit c) (q.in_unit c) = (record_fill s q).in_unit c := rfl
  have hspend : (s.in_unit c).fee_spend + c * fill_cost cfg q
      = c * (s.fee_spend + fill_cost cfg q) := (mul_add c _ _).symm
  rw [hsize, hprice, hrecord, hspend]
  split_ifs
  · exact ⟨rfl, rfl⟩
  · refine ⟨rfl, ?_⟩
    dsimp only
    rw [← equity_mark_in_unit_zero]
    rfl

theorem exit_books_in_unit (hc : 0 < c) (side : PositionSide) (s : SimState K) (q : FillQuote K)
    (exit_cost : K) :
    exit_books side (s.in_unit c) (q.in_unit c) (c * exit_cost)
      = (exit_books side s q exit_cost).in_unit c := by
  have hrecord : record_fill (s.in_unit c) (q.in_unit c) = (record_fill s q).in_unit c := rfl
  have hdelta : price_delta (q.in_unit c).fill_price (s.in_unit c).entry_price side
      = c * price_delta q.fill_price s.entry_price side := price_delta_in_unit c _ _ side
  unfold exit_books
  dsimp only
  rw [hrecord, hdelta, mul_assoc, ← mul_sub]
  rw [← count_win_in_unit hc, ← realize_in_unit]
  rfl

theorem exit_in_unit (hflat : cfg.IsFlat) (hc : 0 < c) (s : SimState K) (index : ℕ) (mark : K) :
    (exit m (cfg.in_unit c) (s.in_unit c) index (c * mark)).1
        = (exit m cfg s index mark).1.in_unit c
      ∧ (exit m (cfg.in_unit c) (s.in_unit c) index (c * mark)).2.equity
        = c * (exit m cfg s index mark).2.equity := by
  have hposition : (s.in_unit c).position_size = s.position_size := rfl
  have hside : (cfg.in_unit c).position_side = cfg.position_side := rfl
  unfold exit
  dsimp only
  rw [execution_quote_in_unit m hflat, SimConfig.in_unit_fill_index, fill_cost_in_unit hc,
    hposition, hside]
  generalize execution_quote m cfg (fill_index cfg index) s.position_size false = q
  have hsize : (q.in_unit c).executed_size = q.executed_size := rfl
  rw [hsize, exit_books_in_unit hc, close_if_flat_in_unit, equity_mark_in_unit_zero]
  split_ifs <;> exact ⟨rfl, rfl⟩

/-- One bar over the prices in another unit: the same books in that unit. -/
theorem bar_step_in_unit (hflat : cfg.IsFlat) (hfree : cfg.settings.NotionalFree) (hc : 0 < c)
    (s : SimState K) (index : ℕ) :
    (bar_step m (cfg.in_unit c) (s.in_unit c) index).1 = (bar_step m cfg s index).1.in_unit c
      ∧ (bar_step m (cfg.in_unit c) (s.in_unit c) index).2.equity
        = c * (bar_step m cfg s index).2.equity := by
  unfold bar_step
  dsimp only
  rw [accrue_funding_in_unit hc, mark_to_market_in_unit, liquidation_due_in_unit hfree hc]
  set s' := accrue_funding cfg s index
  have hentry : (cfg.in_unit c).entry_signals = cfg.entry_signals := rfl
  have hexit : (cfg.in_unit c).exit_signals = cfg.exit_signals := rfl
  have hopen : (s'.in_unit c).position_open = s'.position_open := rfl
  have hindex : (s'.in_unit c).entry_index = s'.entry_index := rfl
  rw [hentry, hexit, hopen, hindex]
  split_ifs
  · exact liquidate_in_unit m hflat hfree hc s' index
  · exact enter_in_unit m hflat hc s' index _
  · exact exit_in_unit m hflat hc s' index _
  · exact ⟨rfl, rfl⟩

theorem force_close_in_unit (hflat : cfg.IsFlat) (hc : 0 < c) (s : SimState K) :
    force_close m (cfg.in_unit c) (s.in_unit c) = (force_close m cfg s).in_unit c := by
  have hdelta : ∀ price : K, price_delta (c * price) (s.in_unit c).entry_price cfg.position_side
      = c * price_delta price s.entry_price cfg.position_side :=
    fun price => price_delta_in_unit c price s.entry_price cfg.position_side
  unfold force_close
  dsimp only
  rw [resolve_slippage_bps_flat m hflat, resolve_slippage_bps_flat m (hflat.in_unit c),
    SimConfig.in_unit_bars, SimConfig.in_unit_candle]
  dsimp only [SimConfig.in_unit, Candle.in_unit]
  have hsize : (s.in_unit c).position_size = s.position_size := rfl
  rw [hdelta, hsize, mul_assoc c, mul_assoc c, apply_trade_cost_in_unit hc, ← mul_sub,
    ← count_win_in_unit hc]
  simp [SimState.in_unit, mul_add]

/-! ## A run in two units -/

/-- Before every bar the books of the two runs are the same up to the unit. -/
theorem stateAt_in_unit (hflat : cfg.IsFlat) (hfree : cfg.settings.NotionalFree) (hc : 0 < c)
    (n : ℕ) :
    stateAt (bar_step m (cfg.in_unit c)) SimState.initial n
      = (stateAt (bar_step m cfg) SimState.initial n).in_unit c := by
  induction n with
  | zero => simp [SimState.initial, SimState.in_unit]
  | succ n ih =>
      rw [stateAt_succ, stateAt_succ, ih]
      exact (bar_step_in_unit m hflat hfree hc _ n).1

end Bar

/-! ## The value shown for a bar -/

/-- What the equity curve shows for a bar, from the state before it: the value the
bar pushes, or the closed books where the run ends on the bar with a position open. -/
def shown_equity (m : PyMath K) (cfg : SimConfig K) (s : SimState K) (index : ℕ) : K :=
  let next := bar_step m cfg s index
  if index + 1 = cfg.bars ∧ next.1.position_open = true then
    equity_mark (force_close m cfg next.1) 0
  else next.2.equity

/-- The equity curve shows one value a bar. -/
theorem simulate_bars_curve (m : PyMath K) (cfg : SimConfig K) :
    (simulate_bars m cfg).2
      = (List.range cfg.bars).map fun i =>
        shown_equity m cfg (stateAt (bar_step m cfg) SimState.initial i) i := by
  apply List.ext_getElem?
  intro i
  by_cases hi : i < cfg.bars
  · rw [List.getElem?_map, List.getElem?_range hi, Option.map_some]
    unfold shown_equity
    dsimp only
    rw [← stateAt_succ]
    by_cases hlast : i + 1 = cfg.bars
        ∧ (stateAt (bar_step m cfg) SimState.initial (i + 1)).position_open = true
    · rw [if_pos hlast]
      obtain ⟨hbars, hopen⟩ := hlast
      have hend := simulate_bars_getElem?_last m cfg (by omega) (hbars ▸ hopen)
      rw [← hbars, Nat.add_sub_cancel] at hend
      exact hend
    · rw [if_neg hlast]
      refine simulate_bars_getElem? m cfg hi ?_
      by_cases hbars : i + 1 = cfg.bars
      · rw [← hbars]
        exact Or.inr (Bool.eq_false_iff.mpr fun hopen => hlast ⟨hbars, hopen⟩)
      · exact Or.inl (by omega)
  · have hlen := simulate_bars_length m cfg
    rw [List.getElem?_eq_none (by omega), List.getElem?_eq_none (by simp; omega)]

/-- The value shown for a bar of a run in another unit. -/
theorem shown_equity_in_unit [IsStrictOrderedRing K] (m : PyMath K) {cfg : SimConfig K} {c : K}
    (hflat : cfg.IsFlat) (hfree : cfg.settings.NotionalFree) (hc : 0 < c) (s : SimState K)
    (index : ℕ) :
    shown_equity m (cfg.in_unit c) (s.in_unit c) index = c * shown_equity m cfg s index := by
  obtain ⟨hnext, hequity⟩ := bar_step_in_unit m hflat hfree hc s index
  unfold shown_equity
  dsimp only
  rw [hnext, hequity, force_close_in_unit m hflat hc, equity_mark_in_unit_zero,
    SimConfig.in_unit_bars]
  have hopen : ((bar_step m cfg s index).1.in_unit c).position_open
      = (bar_step m cfg s index).1.position_open := rfl
  rw [hopen]
  split_ifs <;> rfl

end ProofAlpha.Backtest
