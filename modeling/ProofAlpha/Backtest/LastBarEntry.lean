/-
A run whose only entry signal is at the last bar.

Nothing happens before it. The order is filled at the last bar, whatever the latency,
and the forced close sells what it has bought at the same close, so the run comes to
one trade and the costs of two fills (`last_entry_trade_count`,
`last_entry_fee_spend`), or to nothing when the order is not filled.
-/
import ProofAlpha.Backtest.Simulator

set_option autoImplicit false

namespace ProofAlpha.Backtest

open ProofAlpha.Lib ProofAlpha.Lib.PyList ProofAlpha.Lib.IndexedLoop

variable {K : Type} [Field K] [LinearOrder K] (m : PyMath K) {cfg : SimConfig K}

/-- A bar without a position and without an entry signal changes nothing. -/
theorem bar_step_quiet {s : SimState K} {index : ℕ} (hopen : s.position_open = false)
    (hentry : cfg.entry_signals.getD index false = false) : (bar_step m cfg s index).1 = s := by
  rw [bar_step_closed m cfg hopen, hentry]
  rfl

theorem stateAt_quiet {n : ℕ} (h : ∀ i < n, cfg.entry_signals.getD i false = false) :
    stateAt (bar_step m cfg) SimState.initial n = SimState.initial := by
  induction n with
  | zero => rfl
  | succ n ih =>
      rw [stateAt_succ, ih fun i hi => h i (Nat.lt_succ_of_lt hi)]
      exact bar_step_quiet m rfl (h n (Nat.lt_succ_self n))

/-- The only entry signal is at the last bar. -/
structure SimConfig.EntersLast (cfg : SimConfig K) (last : ℕ) : Prop where
  bars : cfg.bars = last + 1
  latency : 0 ≤ cfg.latency_bars
  quiet : ∀ i < last, cfg.entry_signals.getD i false = false
  entry : cfg.entry_signals.getD last false = true

/-- The fill of its order. -/
def last_quote (cfg : SimConfig K) (last : ℕ) : FillQuote K :=
  execution_quote m cfg last cfg.position_leverage true

/-- The books once the order is filled. -/
def last_opened (cfg : SimConfig K) (last : ℕ) : SimState K :=
  let q := last_quote m cfg last
  { record_fill SimState.initial q with
    fee_spend := fill_cost cfg q
    position_open := true
    position_size := q.executed_size
    entry_price := q.fill_price
    entry_index := last
    liquidation_step_index := 0 }

variable {last : ℕ}

/-- The books after the loop. -/
theorem stateAt_last_entry (h : cfg.EntersLast last) :
    stateAt (bar_step m cfg) SimState.initial cfg.bars
      = if (last_quote m cfg last).executed_size ≤ 1e-9 then SimState.initial
        else last_opened m cfg last := by
  have hfill : fill_index cfg last = last := by
    have hlatency := h.latency
    unfold fill_index
    rw [h.bars]
    push_cast
    omega
  rw [h.bars, stateAt_succ, stateAt_quiet m h.quiet, bar_step_closed m cfg rfl, h.entry, if_pos rfl]
  unfold enter
  simp only [hfill]
  change (if (last_quote m cfg last).executed_size ≤ 1e-9 then _ else _ :
    SimState K × BarOutput K).1 = _
  split_ifs
  · rfl
  · unfold last_opened
    dsimp only
    rw [show (SimState.initial : SimState K).fee_spend = 0 from rfl, zero_add]
    rfl

theorem simulate_bars_last_entry (h : cfg.EntersLast last) :
    (simulate_bars m cfg).1
      = if (last_quote m cfg last).executed_size ≤ 1e-9 then SimState.initial
        else force_close m cfg (last_opened m cfg last) := by
  unfold simulate_bars
  dsimp only
  rw [run_fst, stateAt_last_entry m h]
  by_cases hfilled : (last_quote m cfg last).executed_size ≤ 1e-9
  · rw [if_pos hfilled, if_pos hfilled]
    rfl
  · rw [if_neg hfilled, if_neg hfilled]
    rfl

theorem last_entry_trade_count (h : cfg.EntersLast last) :
    (simulate_bars m cfg).1.trade_count
      = if (last_quote m cfg last).executed_size ≤ 1e-9 then 0 else 1 := by
  rw [simulate_bars_last_entry m h]
  split_ifs
  · rfl
  · rfl

/-- What one fill of the order costs at the basis points it is charged. -/
def last_fill_cost (cfg : SimConfig K) (last : ℕ) : K :=
  let notional := (cfg.candle last).close * cfg.position_leverage
  apply_trade_cost notional cfg.taker_fee_bps (resolve_slippage_bps m cfg notional last)

variable [IsStrictOrderedRing K]

/-- Where orders are filled in full, the run is charged for two fills of one size. -/
theorem last_entry_fee_spend (h : cfg.EntersLast last) (hleverage : 1 ≤ cfg.position_leverage)
    (hrealistic : cfg.use_realistic_slippage = false) :
    (simulate_bars m cfg).1.trade_count = 1
      ∧ (simulate_bars m cfg).1.fee_spend = 2 * last_fill_cost m cfg last := by
  have hquote := execution_quote_unrealistic m hrealistic last cfg.position_leverage true
  have hfilled : ¬ (last_quote m cfg last).executed_size ≤ 1e-9 := by
    rw [last_quote, hquote]
    apply not_le.mpr
    apply lt_of_lt_of_le _ hleverage
    norm_num
  have hlast : (cfg.bars : ℤ) - 1 = (last : ℤ) := by
    rw [h.bars]
    push_cast
    ring
  have hcost : fill_cost cfg (last_quote m cfg last) = last_fill_cost m cfg last := by
    rw [last_quote, hquote]
    unfold fill_cost last_fill_cost
    dsimp only
    rw [if_neg (lt_irrefl 0)]
  rw [simulate_bars_last_entry m h, if_neg hfilled]
  refine ⟨rfl, ?_⟩
  show fill_cost cfg (last_quote m cfg last)
    + apply_trade_cost ((cfg.candle ((cfg.bars : ℤ) - 1)).close
        * (last_quote m cfg last).executed_size) cfg.taker_fee_bps
      (resolve_slippage_bps m cfg ((cfg.candle ((cfg.bars : ℤ) - 1)).close
        * (last_quote m cfg last).executed_size) ((cfg.bars : ℤ) - 1)) = _
  rw [hcost, hlast, last_quote, hquote, two_mul]
  rfl

omit [IsStrictOrderedRing K] in
/-- The result of checked arguments shows the books after the loop. -/
theorem simulate_strategy_books [FloorRing K] {snapshot : DataSnapshot K} {args : SimArguments K}
    {side : PositionSide} {settings : LiquidationSettings K}
    (h : check_arguments snapshot args = .ok (side, settings)) :
    ∃ result, simulate_strategy m snapshot args = .ok result
      ∧ result.trade_count
        = (simulate_bars m (sim_config m snapshot args side settings)).1.trade_count
      ∧ result.fee_spend
        = (simulate_bars m (sim_config m snapshot args side settings)).1.fee_spend := by
  unfold simulate_strategy
  rw [h, ok_bind]
  exact ⟨_, rfl, rfl, rfl⟩

end ProofAlpha.Backtest
