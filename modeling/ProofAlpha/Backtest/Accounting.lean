/-
The accounts of the reference simulator over a whole run.

Size leaves a position in three ways: a liquidation, an exit fill and the forced
close after the last bar. `run_sales` lists them with the size and the two prices
of each. A run keeps the open size between zero and the leverage, with the open
flag set exactly above the closing tolerance (`SizeSettled`), and its gross pnl
is the sum of the pnl of its sales.
-/
import ProofAlpha.Backtest.MarkToMarket
import ProofAlpha.Backtest.NoLookahead
import ProofAlpha.Backtest.ReferenceParity

set_option autoImplicit false

namespace ProofAlpha.Backtest

open ProofAlpha.Lib ProofAlpha.Lib.PyList ProofAlpha.Lib.IndexedLoop

variable {K : Type} [Field K] [LinearOrder K]

/-! ## Sales -/

/-- How size leaves a position. -/
inductive SaleKind
  | liquidation
  | exit
  | forced_close
  deriving DecidableEq, Repr

/-- A size taken out of a position, with the price it was opened at and the price
it is taken out at. -/
structure Sale (K : Type) where
  kind : SaleKind
  size : K
  entry_price : K
  price : K

/-- `trade_gross` of a sale. -/
def Sale.pnl (position_side : PositionSide) (sale : Sale K) : K :=
  price_delta sale.price sale.entry_price position_side * sale.size

/-- The sale that the bar `index` makes in the state before it. -/
def bar_sale (m : PyMath K) (cfg : SimConfig K) (s : SimState K) (index : ℕ) : Option (Sale K) :=
  if liquidation_due cfg s index then
    some ⟨.liquidation, s.position_size * step_ratio cfg s, s.entry_price,
      position_liquidation_price cfg s⟩
  else if s.position_open = true ∧ cfg.exit_signals.getD index false = true
      ∧ s.entry_index ≤ index then
    let q := execution_quote m cfg (fill_index cfg index) s.position_size false
    if q.executed_size ≤ 1e-9 then none
    else some ⟨.exit, q.executed_size, s.entry_price, q.fill_price⟩
  else none

/-- The forced close of a position that is open after the last bar. -/
def final_sale (cfg : SimConfig K) (s : SimState K) : Option (Sale K) :=
  if s.position_open then
    some ⟨.forced_close, s.position_size, s.entry_price, (cfg.candle ((cfg.bars : ℤ) - 1)).close⟩
  else none

/-- The state after the last bar. -/
def last_state (m : PyMath K) (cfg : SimConfig K) : SimState K :=
  stateAt (bar_step m cfg) SimState.initial cfg.bars

/-- The sales of the first `n` bars. -/
def bar_sales (m : PyMath K) (cfg : SimConfig K) (n : ℕ) : List (Sale K) :=
  (List.range n).filterMap fun index =>
    bar_sale m cfg (stateAt (bar_step m cfg) SimState.initial index) index

/-- Every sale of a run, in order. -/
def run_sales (m : PyMath K) (cfg : SimConfig K) : List (Sale K) :=
  bar_sales m cfg cfg.bars ++ (final_sale cfg (last_state m cfg)).toList

/-- The size that is still held when the run is over. -/
def final_size (m : PyMath K) (cfg : SimConfig K) : K :=
  (last_state m cfg).position_size - ((final_sale cfg (last_state m cfg)).map Sale.size).getD 0

/-! ## The books of a bar -/

/-- The funding of a bar makes no sale and hides none. -/
theorem bar_sale_accrue_funding (m : PyMath K) (cfg : SimConfig K) (s : SimState K) (index : ℕ) :
    bar_sale m cfg (accrue_funding cfg s index) index = bar_sale m cfg s index := by
  obtain ⟨funding, hfunding⟩ := accrue_funding_frame cfg s index
  rw [hfunding]
  rfl

theorem close_if_flat_books (s : SimState K) :
    (close_if_flat s).gross_pnl = s.gross_pnl ∧ (close_if_flat s).trade_count = s.trade_count := by
  unfold close_if_flat
  split_ifs <;> exact ⟨rfl, rfl⟩

/-- A bar adds the pnl of its sale to the gross pnl, and counts it. -/
theorem bar_step_books (m : PyMath K) (cfg : SimConfig K) (s : SimState K) (index : ℕ) :
    (bar_step m cfg s index).1.gross_pnl
        = s.gross_pnl + ((bar_sale m cfg s index).map (Sale.pnl cfg.position_side)).getD 0
      ∧ (bar_step m cfg s index).1.trade_count
        = s.trade_count + (bar_sale m cfg s index).toList.length := by
  rw [← bar_sale_accrue_funding]
  obtain ⟨funding, hfunding⟩ := accrue_funding_frame cfg s index
  unfold bar_step
  dsimp only
  generalize accrue_funding cfg s index = funded at hfunding
  have hgross : funded.gross_pnl = s.gross_pnl := by rw [hfunding]
  have hcount : funded.trade_count = s.trade_count := by rw [hfunding]
  rw [← hgross, ← hcount]
  unfold bar_sale
  by_cases hdue : liquidation_due cfg funded index = true
  · rw [if_pos hdue, if_pos hdue]
    exact close_if_flat_books _
  · rw [if_neg hdue, if_neg hdue]
    by_cases hentry : funded.position_open = false ∧ cfg.entry_signals.getD index false = true
    · have hclosed : ¬ (funded.position_open = true ∧ cfg.exit_signals.getD index false = true
          ∧ funded.entry_index ≤ index) := fun h => by
        rw [hentry.1] at h
        exact Bool.false_ne_true h.1
      rw [if_pos hentry, if_neg hclosed]
      unfold enter
      dsimp only
      -- an entry sells nothing, filled or not
      split_ifs
      · exact ⟨(add_zero _).symm, rfl⟩
      · exact ⟨(add_zero _).symm, rfl⟩
    · rw [if_neg hentry]
      by_cases hexit : funded.position_open = true ∧ cfg.exit_signals.getD index false = true
          ∧ funded.entry_index ≤ index
      · rw [if_pos hexit, if_pos hexit]
        unfold exit
        dsimp only
        split_ifs
        · exact ⟨(add_zero _).symm, rfl⟩
        · exact close_if_flat_books _
      · rw [if_neg hexit, if_neg hexit]
        exact ⟨(add_zero _).symm, rfl⟩

/-- The books before bar `n` hold the sales of the bars before it. -/
theorem stateAt_books (m : PyMath K) (cfg : SimConfig K) (n : ℕ) :
    (stateAt (bar_step m cfg) SimState.initial n).gross_pnl
        = ((bar_sales m cfg n).map (Sale.pnl cfg.position_side)).sum
      ∧ (stateAt (bar_step m cfg) SimState.initial n).trade_count
        = (bar_sales m cfg n).length := by
  induction n with
  | zero => exact ⟨rfl, rfl⟩
  | succ n ih =>
      obtain ⟨hgross, hcount⟩ := bar_step_books m cfg (stateAt (bar_step m cfg) SimState.initial n) n
      have hsales : bar_sales m cfg (n + 1) = bar_sales m cfg n
          ++ (bar_sale m cfg (stateAt (bar_step m cfg) SimState.initial n) n).toList := by
        rw [bar_sales, List.range_succ, List.filterMap_append, ← bar_sales]
        cases hsale : bar_sale m cfg (stateAt (bar_step m cfg) SimState.initial n) n with
        | none => simp [hsale]
        | some sale => simp [hsale]
      rw [stateAt_succ, hgross, hcount, ih.1, ih.2, hsales]
      cases bar_sale m cfg (stateAt (bar_step m cfg) SimState.initial n) n with
      | none => simp
      | some sale => simp

/-! ## The open size -/

/-- The open size lies between zero and the leverage, and the position is flagged
open exactly when the size exceeds the closing tolerance. -/
structure SizeSettled (cfg : SimConfig K) (s : SimState K) : Prop where
  nonneg : 0 ≤ s.position_size
  le_leverage : s.position_size ≤ cfg.position_leverage
  flagged : s.position_open = true ↔ 1e-9 < s.position_size

section Size

variable [IsStrictOrderedRing K] {cfg : SimConfig K}

/-- Without a position the size is zero, and not above the tolerance. -/
theorem SizeSettled.of_closed {s : SimState K} (hc : cfg.Checked) (hclosed : s.position_open = false)
    (hsize : s.position_size = 0) : SizeSettled cfg s := by
  have htolerance : ¬ (1e-9 : K) < 0 := not_lt.mpr (by norm_num)
  refine ⟨hsize.ge, le_trans hsize.le (le_trans zero_le_one hc.leverage), ?_⟩
  rw [hclosed, hsize]
  exact ⟨fun h => absurd h Bool.false_ne_true, fun h => absurd h htolerance⟩

omit [IsStrictOrderedRing K] in
theorem SizeSettled.accrue_funding {s : SimState K} (h : SizeSettled cfg s) (index : ℕ) :
    SizeSettled cfg (accrue_funding cfg s index) := by
  obtain ⟨funding, hfunding⟩ := accrue_funding_frame cfg s index
  rw [hfunding]
  exact ⟨h.nonneg, h.le_leverage, h.flagged⟩

/-- The closing test settles what a sale leaves of an open position. -/
theorem SizeSettled.close_if_flat {s : SimState K} (hc : cfg.Checked) (hopen : s.position_open = true)
    (hle : s.position_size ≤ cfg.position_leverage) : SizeSettled cfg (close_if_flat s) := by
  unfold ProofAlpha.Backtest.close_if_flat
  split_ifs with hflat
  · exact SizeSettled.of_closed hc rfl rfl
  · have hsize : 1e-9 < s.position_size := not_le.mp hflat
    exact ⟨le_trans (by norm_num) hsize.le, hle, fun _ => hsize, fun _ => hopen⟩

/-- The share of an order that fills is between zero and one. -/
theorem resolve_execution_fill_ratio_mem (cfg : SimConfig K) (trade_notional : K) (bar_index : ℤ) :
    0 ≤ resolve_execution_fill_ratio cfg trade_notional bar_index
      ∧ resolve_execution_fill_ratio cfg trade_notional bar_index ≤ 1 := by
  unfold resolve_execution_fill_ratio
  dsimp only
  split
  · split_ifs
    · exact ⟨zero_le_one, le_rfl⟩
    · exact depth_fill_ratio_mem _ _ _ _
  · exact ⟨zero_le_one, le_rfl⟩

/-- An order executes at most the size it asks for. -/
theorem executed_size_mem (m : PyMath K) (cfg : SimConfig K) (bar : ℤ) {size : K} (hsize : 0 ≤ size)
    (is_entry : Bool) :
    0 ≤ (execution_quote m cfg bar size is_entry).executed_size
      ∧ (execution_quote m cfg bar size is_entry).executed_size ≤ size := by
  obtain ⟨hratio0, hratio1⟩ :=
    resolve_execution_fill_ratio_mem cfg ((cfg.candle bar).close * size) bar
  exact ⟨mul_nonneg hsize hratio0, mul_le_of_le_one_right hsize hratio1⟩

theorem SizeSettled.liquidate (m : PyMath K) {s : SimState K} (hc : cfg.Checked)
    (h : SizeSettled cfg s) (hopen : s.position_open = true) (index : ℕ) :
    SizeSettled cfg (liquidate m cfg s index).1 := by
  obtain ⟨hpos, -⟩ : IsStepRatio (step_ratio cfg s) := hc.settings.step_ratio _ _ _ _ _ _
  have hsold : 0 ≤ s.position_size * step_ratio cfg s := mul_nonneg h.nonneg hpos.le
  refine SizeSettled.close_if_flat (s := liquidation_books m cfg s index) hc hopen ?_
  exact le_trans (sub_le_self _ hsold) h.le_leverage

theorem SizeSettled.enter (m : PyMath K) {s : SimState K} (hc : cfg.Checked)
    (h : SizeSettled cfg s) (index : ℕ) (mark : K) :
    SizeSettled cfg (enter m cfg s index mark).1 := by
  unfold ProofAlpha.Backtest.enter
  dsimp only
  split_ifs with hunfilled
  · exact h
  · obtain ⟨hsize0, hsize1⟩ := executed_size_mem m cfg (fill_index cfg index)
      (le_trans zero_le_one hc.leverage) true
    exact ⟨hsize0, hsize1, fun _ => not_le.mp hunfilled, fun _ => rfl⟩

theorem SizeSettled.exit (m : PyMath K) {s : SimState K} (hc : cfg.Checked)
    (h : SizeSettled cfg s) (hopen : s.position_open = true) (index : ℕ) (mark : K) :
    SizeSettled cfg (exit m cfg s index mark).1 := by
  unfold ProofAlpha.Backtest.exit
  dsimp only
  split_ifs with hunfilled
  · exact h
  · obtain ⟨hsize0, -⟩ := executed_size_mem m cfg (fill_index cfg index) h.nonneg false
    refine SizeSettled.close_if_flat (s := exit_books _ _ _ _) hc hopen ?_
    exact le_trans (sub_le_self _ hsize0) h.le_leverage

/-- Every bar leaves the size settled. -/
theorem bar_step_sizeSettled (m : PyMath K) {s : SimState K} (hc : cfg.Checked)
    (h : SizeSettled cfg s) (index : ℕ) : SizeSettled cfg (bar_step m cfg s index).1 := by
  have hfunded : SizeSettled cfg (ProofAlpha.Backtest.accrue_funding cfg s index) :=
    h.accrue_funding index
  unfold bar_step
  dsimp only
  split_ifs with hdue hentry hexit
  · exact hfunded.liquidate m hc (liquidation_due_open hdue) index
  · exact hfunded.enter m hc index _
  · exact hfunded.exit m hc hexit.1 index _
  · exact hfunded

/-- The size is settled before every bar of a run, and after the last one. -/
theorem stateAt_sizeSettled (m : PyMath K) (hc : cfg.Checked) (index : ℕ) :
    SizeSettled cfg (stateAt (bar_step m cfg) SimState.initial index) :=
  stateAt_invariant (fun _ s => SizeSettled cfg s) (SizeSettled.of_closed hc rfl rfl)
    (fun i _ h => bar_step_sizeSettled m hc h i) index

end Size

/-! ## The end of a run -/

/-- The forced close adds its pnl to the gross pnl. -/
theorem simulate_bars_gross_pnl (m : PyMath K) (cfg : SimConfig K) :
    (simulate_bars m cfg).1.gross_pnl
      = ((run_sales m cfg).map (Sale.pnl cfg.position_side)).sum := by
  obtain ⟨hgross, -⟩ := stateAt_books m cfg cfg.bars
  rw [run_sales, List.map_append, List.sum_append, ← hgross]
  unfold simulate_bars final_sale last_state
  dsimp only
  rw [run_fst]
  split_ifs
  · rw [Option.toList_some, List.map_singleton, List.sum_singleton]
    rfl
  · rw [Option.toList_none, List.map_nil, List.sum_nil, add_zero]

theorem simulate_bars_length (m : PyMath K) (cfg : SimConfig K) :
    (simulate_bars m cfg).2.length = cfg.bars := by
  unfold simulate_bars
  dsimp only
  split_ifs
  · rw [List.length_set, List.length_map, run_snd_length]
  · rw [List.length_map, run_snd_length]

/-- No size is left when a run is over. -/
theorem final_size_eq_zero (m : PyMath K) (cfg : SimConfig K) : final_size m cfg = 0 := by
  have hsize : SizeSound (last_state m cfg) := stateAt_sizeSound m cfg cfg.bars
  unfold final_size final_sale
  split_ifs with hopen
  · exact sub_self _
  · rw [hsize (Bool.eq_false_iff.mpr hopen)]
    exact sub_self _

/-- A bar that leaves no position open has pushed the realised books. -/
theorem bar_step_equity_closed (m : PyMath K) (cfg : SimConfig K) (s : SimState K) (index : ℕ)
    (hclosed : (bar_step m cfg s index).1.position_open = false) :
    (bar_step m cfg s index).2.equity = equity_mark (bar_step m cfg s index).1 0 := by
  have hmark : ∀ t : SimState K, t.position_open = false → mark_to_market cfg t index = equity_mark t 0 :=
    fun t ht => by
      unfold mark_to_market
      rw [ht]
      rfl
  unfold bar_step at hclosed ⊢
  dsimp only at hclosed ⊢
  split_ifs at hclosed ⊢ with hdue hentry hexit
  · exact hmark _ hclosed
  · unfold enter at hclosed ⊢
    dsimp only at hclosed ⊢
    split_ifs at hclosed ⊢
    exact hmark _ hclosed
  · unfold exit at hclosed ⊢
    dsimp only at hclosed ⊢
    split_ifs at hclosed ⊢
    · exact hmark _ hclosed
    · rfl
  · exact hmark _ hclosed

/-- The last equity value is that of the final books. -/
theorem simulate_bars_last (m : PyMath K) (cfg : SimConfig K) (hbars : 0 < cfg.bars) :
    (simulate_bars m cfg).2[cfg.bars - 1]? = some (equity_mark (simulate_bars m cfg).1 0) := by
  by_cases hopen : (stateAt (bar_step m cfg) SimState.initial cfg.bars).position_open = true
  · rw [simulate_bars_getElem?_last m cfg hbars hopen]
    unfold simulate_bars
    dsimp only
    rw [run_fst, if_pos hopen]
  · have hclosed : (stateAt (bar_step m cfg) SimState.initial cfg.bars).position_open = false :=
      Bool.eq_false_iff.mpr hopen
    have hlast : cfg.bars - 1 + 1 = cfg.bars := by omega
    have hstep : (bar_step m cfg (stateAt (bar_step m cfg) SimState.initial (cfg.bars - 1))
        (cfg.bars - 1)).1 = stateAt (bar_step m cfg) SimState.initial cfg.bars := by
      rw [← stateAt_succ, hlast]
    rw [simulate_bars_getElem? m cfg (by omega) (Or.inr hclosed), outputAt,
      bar_step_equity_closed m cfg _ _ (by rw [hstep]; exact hclosed), hstep]
    unfold simulate_bars
    dsimp only
    rw [run_fst, if_neg hopen]

/-! ## The accounts of a run -/

/-- The accounts of the run of a configuration, and of the result made of it. -/
structure AccountsHold (m : PyMath K) (cfg : SimConfig K) (result : BacktestResult K) : Prop where
  size : ∀ index, index ≤ cfg.bars →
    SizeSettled cfg (stateAt (bar_step m cfg) SimState.initial index)
  curve : result.equity_curve.length = cfg.candles.length
  flat : final_size m cfg = 0
  last : result.equity_curve.getLast? = some result.net_pnl
  net : result.net_pnl = result.gross_pnl - result.fee_spend - result.funding_spend
  gross : result.gross_pnl = ((run_sales m cfg).map (Sale.pnl cfg.position_side)).sum

variable [IsStrictOrderedRing K] [FloorRing K]

/-- A run over at least one candle keeps its accounts. -/
theorem simulate_strategy_accounting (m : PyMath K) {snapshot : DataSnapshot K}
    {args : SimArguments K} {result : BacktestResult K} (hcandles : snapshot.candles ≠ [])
    (hrun : simulate_strategy m snapshot args = .ok result) :
    ∃ side settings, check_arguments snapshot args = .ok (side, settings)
      ∧ AccountsHold m (sim_config m snapshot args side settings) result := by
  unfold simulate_strategy at hrun
  obtain ⟨⟨side, settings⟩, hcheck, hrun⟩ := bind_ok hrun
  refine ⟨side, settings, hcheck, ?_⟩
  have hchecked := sim_config_checked m hcheck
  cases hrun
  generalize hcfg : sim_config m snapshot args side settings = cfg at hchecked ⊢
  have hbars : 0 < cfg.bars := by
    rw [← hcfg]
    exact List.length_pos_of_ne_nil hcandles
  exact
    { size := fun index _ => stateAt_sizeSettled m hchecked index
      curve := simulate_bars_length m cfg
      flat := final_size_eq_zero m cfg
      last := by
        rw [List.getLast?_eq_getElem?, simulate_bars_length, simulate_bars_last m cfg hbars]
        exact congrArg some (add_zero _)
      net := rfl
      gross := simulate_bars_gross_pnl m cfg }

/-- The accounts of a run that is forced to close on its last bar. -/
theorem simulate_strategy_accounting_crash :
    ∃ result, simulate_strategy PyMath.rat (crash_snapshot 50 96) crash_args = .ok result
      ∧ ∃ side settings, check_arguments (crash_snapshot 50 96) crash_args = .ok (side, settings)
        ∧ AccountsHold PyMath.rat (sim_config PyMath.rat (crash_snapshot 50 96) crash_args side settings)
          result := by
  obtain ⟨result, hrun⟩ := crash_run 50 96
  exact ⟨result, hrun, simulate_strategy_accounting PyMath.rat (List.cons_ne_nil _ _) hrun⟩

end ProofAlpha.Backtest
