/-
When a position accrues: the funding and the mark of `simulate_strategy`, lines
284-298, against the bars its fills are dated to.

A signal of bar `i` fills at bar `fill_index cfg i`, `latency_bars` later, but
`position_open` is set and cleared on the signal's bar. The block that charges
funding and marks the open size asks for the flag alone, where the liquidation and
the exit also ask for `index >= entry_index`. So a position accrues from the bar
after its entry signal to the bar of its exit signal (`accruesOn_iff_of_exit`),
and these are the bars after the entry fill up to the exit fill only without
latency, or when nothing is entered before the last bar (`accrues_while_held_iff`).
-/
import ProofAlpha.Backtest.MarkToMarket
import ProofAlpha.Backtest.UnliquidatedRun

set_option autoImplicit false

namespace ProofAlpha.Backtest

open ProofAlpha.Lib ProofAlpha.Lib.PyList ProofAlpha.Lib.IndexedLoop

variable {K : Type} [Field K] [LinearOrder K]

/-- The books of a run before bar `index`. -/
def books_before (m : PyMath K) (cfg : SimConfig K) (index : ℕ) : SimState K :=
  stateAt (bar_step m cfg) SimState.initial index

theorem books_before_succ (m : PyMath K) (cfg : SimConfig K) (index : ℕ) :
    books_before m cfg (index + 1) = (bar_step m cfg (books_before m cfg index) index).1 := rfl

/-! ## Fills -/

/-- An entry signal of bar `index` is filled, at bar `fill_index cfg index`. -/
structure EntersAt (m : PyMath K) (cfg : SimConfig K) (index : ℕ) : Prop where
  before : index < cfg.bars
  closed : (books_before m cfg index).position_open = false
  signal : cfg.entry_signals.getD index false = true
  filled : 1e-9
    < (execution_quote m cfg (fill_index cfg index) cfg.position_leverage true).executed_size

/-- The fill of an exit signal of bar `index`. -/
def exit_quote (m : PyMath K) (cfg : SimConfig K) (index : ℕ) : FillQuote K :=
  execution_quote m cfg (fill_index cfg index) (books_before m cfg index).position_size false

/-- An exit signal of bar `index` is filled, in full or in part. -/
structure ExitFills (m : PyMath K) (cfg : SimConfig K) (index : ℕ) : Prop where
  before : index < cfg.bars
  isOpen : (books_before m cfg index).position_open = true
  signal : cfg.exit_signals.getD index false = true
  entered : (books_before m cfg index).entry_index ≤ index
  filled : 1e-9 < (exit_quote m cfg index).executed_size

/-- An exit signal of bar `index` is filled and closes the position. -/
structure ExitsAt (m : PyMath K) (cfg : SimConfig K) (index : ℕ) : Prop
    extends ExitFills m cfg index where
  flat : (books_before m cfg index).position_size - (exit_quote m cfg index).executed_size ≤ 1e-9

/-- The fill that closes the position of an entry: the one of the first exit signal
that does, else the forced close at the last bar. -/
inductive ClosedAt (m : PyMath K) (cfg : SimConfig K) (entry : ℕ) : ℤ → Prop
  | exit {last : ℕ} (after : entry < last) (exits : ExitsAt m cfg last)
      (kept : ∀ index, entry < index → index < last → ¬ ExitsAt m cfg index) :
      ClosedAt m cfg entry (fill_index cfg last)
  | forced (kept : ∀ index, entry < index → index < cfg.bars → ¬ ExitsAt m cfg index) :
      ClosedAt m cfg entry ((cfg.bars : ℤ) - 1)

/-! ## Accrual -/

/-- Bar `index` finds the position of the entry at bar `entry` open. -/
def HeldAt (m : PyMath K) (cfg : SimConfig K) (entry index : ℕ) : Prop :=
  entry < index
    ∧ ∀ i, entry < i → i ≤ index → (books_before m cfg i).position_open = true

/-- `current_bar_funding`: the payment on the open size at the bar's rate, once for
each settlement of the bar. -/
def bar_funding (cfg : SimConfig K) (s : SimState K) (index : ℕ) : K :=
  apply_funding ((cfg.candle index).close * s.position_size) (cfg.funding_rates.getD index 0)
    cfg.position_side * (cfg.funding_event_counts.getD index 0 : K)

/-- The position entered at bar `entry` accrues on bar `index`: the bar finds it
open, charges its funding, adds its unrealised result to the bar's mark, and pushes
that mark unless an exit fill of the bar replaces it. -/
structure AccruesOn (m : PyMath K) (cfg : SimConfig K) (entry index : ℕ) : Prop where
  held : HeldAt m cfg entry index
  charged : (books_before m cfg (index + 1)).funding_spend
    = (books_before m cfg index).funding_spend + bar_funding cfg (books_before m cfg index) index
  marked : mark_to_market cfg (accrue_funding cfg (books_before m cfg index) index) index
    = equity_mark (accrue_funding cfg (books_before m cfg index) index)
        (unrealized_pnl (cfg.candle index).close cfg.position_side (books_before m cfg index))
  pushed : ¬ ExitFills m cfg index →
    (outputAt (bar_step m cfg) SimState.initial index).equity
      = mark_to_market cfg (accrue_funding cfg (books_before m cfg index) index) index

/-- Bar `index` charges no funding and marks the books alone. -/
structure AccruesNothing (m : PyMath K) (cfg : SimConfig K) (index : ℕ) : Prop where
  charged : (books_before m cfg (index + 1)).funding_spend
    = (books_before m cfg index).funding_spend
  marked : mark_to_market cfg (accrue_funding cfg (books_before m cfg index) index) index
    = equity_mark (books_before m cfg index) 0

/-- Every position accrues on exactly the bars after its entry fill up to the fill
that closes it. -/
def AccruesWhileHeld (m : PyMath K) (cfg : SimConfig K) : Prop :=
  ∀ (entry : ℕ) (fill : ℤ), EntersAt m cfg entry → ClosedAt m cfg entry fill →
    ∀ index : ℕ, index < cfg.bars →
      (AccruesOn m cfg entry index ↔ fill_index cfg entry < index ∧ (index : ℤ) ≤ fill)

/-! ## One bar -/

/-- Funding is charged first; no branch of the bar touches what has been charged. -/
theorem bar_step_funding_spend (m : PyMath K) (cfg : SimConfig K) (s : SimState K) (index : ℕ) :
    (bar_step m cfg s index).1.funding_spend = (accrue_funding cfg s index).funding_spend := by
  unfold bar_step
  dsimp only
  split_ifs
  · unfold liquidate close_if_flat
    dsimp only
    split_ifs <;> rfl
  · unfold enter
    dsimp only
    split_ifs <;> rfl
  · unfold exit close_if_flat
    dsimp only
    split_ifs <;> rfl
  · rfl

/-- A bar without a position opens one exactly when its entry signal is filled. -/
theorem bar_step_opens_iff (m : PyMath K) (cfg : SimConfig K) {s : SimState K} {index : ℕ}
    (hclosed : s.position_open = false) :
    (bar_step m cfg s index).1.position_open = true
      ↔ cfg.entry_signals.getD index false = true
        ∧ 1e-9
          < (execution_quote m cfg (fill_index cfg index) cfg.position_leverage true).executed_size
      := by
  rw [bar_step_closed m cfg hclosed]
  by_cases hsignal : cfg.entry_signals.getD index false = true
  · rw [if_pos hsignal, and_iff_right hsignal, ← not_le]
    unfold enter
    dsimp only
    split_ifs with hunfilled
    · simp [hclosed, hunfilled]
    · simp [hunfilled]
  · rw [if_neg hsignal, hclosed]
    exact ⟨fun h => absurd h Bool.false_ne_true, fun h => absurd h.1 hsignal⟩

/-- A bar that is not due for a liquidation closes the position it finds exactly
when an exit signal is filled down to the closing tolerance. -/
theorem bar_step_closes_iff (m : PyMath K) (cfg : SimConfig K) {s : SimState K} {index : ℕ}
    (hopen : s.position_open = true)
    (hdue : liquidation_due cfg (accrue_funding cfg s index) index = false) :
    (bar_step m cfg s index).1.position_open = false
      ↔ cfg.exit_signals.getD index false = true ∧ s.entry_index ≤ index
        ∧ 1e-9
          < (execution_quote m cfg (fill_index cfg index) s.position_size false).executed_size
        ∧ s.position_size
          - (execution_quote m cfg (fill_index cfg index) s.position_size false).executed_size
          ≤ 1e-9 := by
  obtain ⟨funding, hfunding⟩ := accrue_funding_frame cfg s index
  unfold bar_step
  dsimp only
  rw [hdue, hfunding]
  simp only [Bool.false_eq_true, if_false, hopen, Bool.true_eq_false, false_and, true_and]
  by_cases hexit : cfg.exit_signals.getD index false = true ∧ s.entry_index ≤ index
  · rw [if_pos hexit, and_iff_right hexit.1, and_iff_right hexit.2, ← not_le]
    unfold exit
    dsimp only
    split_ifs with hunfilled
    · simp [hunfilled]
    · unfold close_if_flat
      -- what the exit leaves of the size, before the closing test
      change (if s.position_size
          - (execution_quote m cfg (fill_index cfg index) s.position_size false).executed_size
          ≤ 1e-9 then _ else _ : SimState K).position_open = false ↔ _
      split_ifs with hflat
      · simp [end_position, hunfilled, hflat]
      · simp [exit_books, realize, count_win, record_fill, hflat]
  · rw [if_neg hexit]
    constructor
    · intro h
      cases h
    · rintro ⟨hsignal, hentered, -⟩
      exact absurd ⟨hsignal, hentered⟩ hexit

/-! ## The bars of a run -/

section Run

variable {m : PyMath K} {cfg : SimConfig K}

theorem entersAt_iff {index : ℕ} (hbar : index < cfg.bars)
    (hclosed : (books_before m cfg index).position_open = false) :
    EntersAt m cfg index ↔ (books_before m cfg (index + 1)).position_open = true := by
  rw [books_before_succ, bar_step_opens_iff m cfg hclosed]
  exact ⟨fun h => ⟨h.signal, h.filled⟩, fun h => ⟨hbar, hclosed, h.1, h.2⟩⟩

theorem exitsAt_iff (hnever : NeverLiquidated m cfg) {index : ℕ} (hbar : index < cfg.bars)
    (hopen : (books_before m cfg index).position_open = true) :
    ExitsAt m cfg index ↔ (books_before m cfg (index + 1)).position_open = false := by
  rw [books_before_succ, bar_step_closes_iff m cfg hopen (hnever index hbar)]
  constructor
  · intro h
    exact ⟨h.signal, h.entered, h.filled, h.flat⟩
  · rintro ⟨hsignal, hentered, hfilled, hflat⟩
    exact ⟨⟨hbar, hopen, hsignal, hentered, hfilled⟩, hflat⟩

/-- A position is held for as long as no exit closes it. -/
theorem heldAt_of_kept (hnever : NeverLiquidated m cfg) {entry : ℕ} (henters : EntersAt m cfg entry)
    {index : ℕ} (hafter : entry < index) (hbar : index ≤ cfg.bars)
    (hkept : ∀ i, entry < i → i < index → ¬ ExitsAt m cfg i) : HeldAt m cfg entry index := by
  refine ⟨hafter, ?_⟩
  intro i hi hle
  -- opened by the entry, and kept open by every bar that does not exit
  induction i, hi using Nat.le_induction with
  | base => exact (entersAt_iff henters.before henters.closed).mp henters
  | succ i hi ih =>
      have hopen := ih (by omega)
      have hexit := hkept i hi (by omega)
      rw [exitsAt_iff hnever (by omega) hopen] at hexit
      exact Bool.eq_true_of_not_eq_false hexit

/-- An exit ends the bars that hold the position. -/
theorem HeldAt.le_of_exitsAt (hnever : NeverLiquidated m cfg) {entry index last : ℕ}
    (hheld : HeldAt m cfg entry index) (hafter : entry < last) (hexits : ExitsAt m cfg last) :
    index ≤ last := by
  by_contra hlt
  have hclosed := (exitsAt_iff hnever hexits.before hexits.isOpen).mp hexits
  have hopen := hheld.2 (last + 1) (by omega) (by omega)
  rw [hclosed] at hopen
  exact Bool.false_ne_true hopen

/-- A bar that finds a position open finds that of some entry. -/
theorem exists_heldAt {index : ℕ} (hbar : index ≤ cfg.bars)
    (hopen : (books_before m cfg index).position_open = true) :
    ∃ entry, EntersAt m cfg entry ∧ HeldAt m cfg entry index := by
  induction index with
  | zero => cases hopen
  | succ index ih =>
      by_cases hbefore : (books_before m cfg index).position_open = true
      · obtain ⟨entry, henters, hafter, hheld⟩ := ih (by omega) hbefore
        refine ⟨entry, henters, by omega, ?_⟩
        intro i hi hle
        by_cases hlast : i = index + 1
        · rw [hlast]
          exact hopen
        · exact hheld i hi (by omega)
      · -- the bar before found nothing open, so it has entered
        refine ⟨index, (entersAt_iff (by omega) (Bool.eq_false_iff.mpr hbefore)).mpr hopen,
          by omega, ?_⟩
        intro i hi hle
        have hlast : i = index + 1 := by omega
        rw [hlast]
        exact hopen

/-- Every entry of a run is closed by some fill. -/
theorem exists_closedAt (m : PyMath K) (cfg : SimConfig K) (entry : ℕ) :
    ∃ fill, ClosedAt m cfg entry fill := by
  classical
  by_cases hexits : ∃ last, entry < last ∧ ExitsAt m cfg last
  · refine ⟨_, .exit (Nat.find_spec hexits).1 (Nat.find_spec hexits).2 ?_⟩
    intro index hafter hbefore hexit
    exact Nat.find_min hexits hbefore ⟨hafter, hexit⟩
  · refine ⟨_, .forced ?_⟩
    intro index hafter _ hexit
    exact hexits ⟨index, hafter, hexit⟩

/-! ## Accrual of a run -/

/-- A position accrues on the bars that find it open. -/
theorem accruesOn_iff (hnever : NeverLiquidated m cfg) {entry index : ℕ} (hbar : index < cfg.bars) :
    AccruesOn m cfg entry index ↔ HeldAt m cfg entry index := by
  refine ⟨AccruesOn.held, fun hheld => ?_⟩
  have hopen : (books_before m cfg index).position_open = true := hheld.2 index hheld.1 le_rfl
  have hcharged : accrue_funding cfg (books_before m cfg index) index
      = { books_before m cfg index with
          funding_spend := (books_before m cfg index).funding_spend
            + bar_funding cfg (books_before m cfg index) index } := by
    unfold accrue_funding
    rw [if_pos hopen]
    rfl
  refine ⟨hheld, ?_, ?_, ?_⟩
  · rw [books_before_succ, bar_step_funding_spend, hcharged]
  · rw [hcharged, mark_to_market, if_pos hopen]
    rfl
  · intro hexit
    have hdue := hnever index hbar
    change liquidation_due cfg (accrue_funding cfg (books_before m cfg index) index) index = false
      at hdue
    change (bar_step m cfg (books_before m cfg index) index).2.equity = _
    unfold bar_step
    dsimp only
    rw [hdue, hcharged]
    simp only [Bool.false_eq_true, if_false, hopen, Bool.true_eq_false, false_and, true_and]
    split_ifs with hsignal
    · -- an exit signal that is not filled leaves the mark of the bar
      unfold exit
      dsimp only
      split_ifs with hunfilled
      · rfl
      · exact absurd ⟨hbar, hopen, hsignal.1, hsignal.2, not_le.mp hunfilled⟩ hexit
    · rfl

/-- A bar accrues one position, or nothing. -/
theorem accrues_or_nothing (hnever : NeverLiquidated m cfg) {index : ℕ} (hbar : index < cfg.bars) :
    (∃ entry, EntersAt m cfg entry ∧ AccruesOn m cfg entry index)
      ∨ AccruesNothing m cfg index := by
  by_cases hopen : (books_before m cfg index).position_open = true
  · obtain ⟨entry, henters, hheld⟩ := exists_heldAt (Nat.le_of_lt hbar) hopen
    exact Or.inl ⟨entry, henters, (accruesOn_iff hnever hbar).mpr hheld⟩
  · have hclosed := Bool.eq_false_iff.mpr hopen
    refine Or.inr ⟨?_, ?_⟩
    · rw [books_before_succ, bar_step_funding_spend, accrue_funding_closed cfg hclosed]
    · rw [accrue_funding_closed cfg hclosed, mark_to_market, if_neg hopen]

/-- The bars on which a position accrues end with the one of its exit signal. -/
theorem accruesOn_iff_of_exit (hnever : NeverLiquidated m cfg) {entry last : ℕ}
    (henters : EntersAt m cfg entry) (hafter : entry < last) (hexits : ExitsAt m cfg last)
    (hkept : ∀ i, entry < i → i < last → ¬ ExitsAt m cfg i) {index : ℕ} (hbar : index < cfg.bars) :
    AccruesOn m cfg entry index ↔ entry < index ∧ index ≤ last := by
  rw [accruesOn_iff hnever hbar]
  constructor
  · intro hheld
    exact ⟨hheld.1, hheld.le_of_exitsAt hnever hafter hexits⟩
  · rintro ⟨hlt, hle⟩
    apply heldAt_of_kept hnever henters hlt (Nat.le_of_lt hbar)
    intro i hi hi'
    exact hkept i hi (by omega)

/-- Without a closing exit they run to the last bar. -/
theorem accruesOn_iff_of_forced (hnever : NeverLiquidated m cfg) {entry : ℕ}
    (henters : EntersAt m cfg entry)
    (hkept : ∀ i, entry < i → i < cfg.bars → ¬ ExitsAt m cfg i) {index : ℕ}
    (hbar : index < cfg.bars) : AccruesOn m cfg entry index ↔ entry < index := by
  rw [accruesOn_iff hnever hbar]
  refine ⟨fun hheld => hheld.1, fun hlt => ?_⟩
  apply heldAt_of_kept hnever henters hlt (Nat.le_of_lt hbar)
  intro i hi hi'
  exact hkept i hi (by omega)

end Run

/-! ## Entries that can be filled -/

/-- An order of the entry size meets an empty side of the book at bar `bar`: the one
case in which `_resolve_execution_fill_ratio` fills nothing. -/
def MeetsEmptyBook (cfg : SimConfig K) (bar : ℤ) : Prop :=
  match cfg.use_realistic_slippage, cfg.context.microstructure with
  | true, some micro =>
      0 < (cfg.candle bar).close * cfg.position_leverage
        ∧ min (item micro.depth_bid_1bp_usd bar 0) (item micro.depth_ask_1bp_usd bar 0) ≤ 0
  | _, _ => False

/-- The entry signal of bar `index` is one an order can be filled for. -/
def EntryCanFill (cfg : SimConfig K) (index : ℕ) : Prop :=
  cfg.entry_signals.getD index false = true ∧ ¬ MeetsEmptyBook cfg (fill_index cfg index)

section Orders

variable [IsStrictOrderedRing K]

/-- A side of the book that is not empty fills at least a twentieth. -/
theorem le_depth_fill_ratio {available_depth : K} (hdepth : 0 < available_depth)
    (trade_notional cascade : K) (depth_depleted : Bool) :
    0.05 ≤ depth_fill_ratio trade_notional available_depth cascade depth_depleted := by
  unfold depth_fill_ratio
  rw [if_neg (not_le.mpr hdepth)]
  dsimp only
  by_cases hdeep : 2 ≤ available_depth / max trade_notional 1e-9 ∧ cascade ≤ 1.25
      ∧ depth_depleted = false
  · rw [if_pos hdeep]
    norm_num
  · rw [if_neg hdeep]
    exact le_max_left _ _

theorem fill_ratio_of_entry (cfg : SimConfig K) (bar : ℤ) :
    (MeetsEmptyBook cfg bar →
        resolve_execution_fill_ratio cfg ((cfg.candle bar).close * cfg.position_leverage) bar = 0)
      ∧ (¬ MeetsEmptyBook cfg bar → 0.05
        ≤ resolve_execution_fill_ratio cfg ((cfg.candle bar).close * cfg.position_leverage) bar)
      := by
  have hfull : (0.05 : K) ≤ 1 := by norm_num
  unfold MeetsEmptyBook resolve_execution_fill_ratio
  dsimp only
  cases cfg.use_realistic_slippage with
  | false => exact ⟨False.elim, fun _ => hfull⟩
  | true =>
      cases cfg.context.microstructure with
      | none => exact ⟨False.elim, fun _ => hfull⟩
      | some micro =>
          constructor
          · rintro ⟨hnotional, hdepth⟩
            dsimp only
            rw [if_neg (not_le.mpr hnotional), depth_fill_ratio, if_pos hdepth]
          · intro hbook
            dsimp only
            by_cases hnotional : (cfg.candle bar).close * cfg.position_leverage ≤ 0
            · rw [if_pos hnotional]
              exact hfull
            · rw [if_neg hnotional]
              apply le_depth_fill_ratio
              exact not_le.mp fun hdepth => hbook ⟨not_le.mp hnotional, hdepth⟩

/-- An entry order executes unless it meets an empty book. -/
theorem entry_executes_iff (m : PyMath K) {cfg : SimConfig K}
    (hleverage : 1 ≤ cfg.position_leverage) (bar : ℤ) :
    1e-9 < (execution_quote m cfg bar cfg.position_leverage true).executed_size
      ↔ ¬ MeetsEmptyBook cfg bar := by
  obtain ⟨hempty, hbook⟩ := fill_ratio_of_entry cfg bar
  change 1e-9 < cfg.position_leverage
    * resolve_execution_fill_ratio cfg ((cfg.candle bar).close * cfg.position_leverage) bar ↔ _
  constructor
  · intro hfilled hmeets
    rw [hempty hmeets, mul_zero] at hfilled
    exact absurd hfilled (not_lt.mpr (by norm_num))
  · intro hmeets
    have htwentieth : (0.05 : K) ≤ cfg.position_leverage * resolve_execution_fill_ratio cfg
        ((cfg.candle bar).close * cfg.position_leverage) bar := by
      calc (0.05 : K) ≤ resolve_execution_fill_ratio cfg
            ((cfg.candle bar).close * cfg.position_leverage) bar := hbook hmeets
        _ ≤ _ := le_mul_of_one_le_left (le_trans (by norm_num) (hbook hmeets)) hleverage
    exact lt_of_lt_of_le (by norm_num) htwentieth

theorem EntersAt.canFill {m : PyMath K} {cfg : SimConfig K} (hleverage : 1 ≤ cfg.position_leverage)
    {index : ℕ} (h : EntersAt m cfg index) : EntryCanFill cfg index :=
  ⟨h.signal, (entry_executes_iff m hleverage _).mp h.filled⟩

/-- Up to the first entry signal that can be filled a run opens no position. -/
theorem books_before_first_entry (m : PyMath K) {cfg : SimConfig K}
    (hleverage : 1 ≤ cfg.position_leverage) {index : ℕ}
    (hfirst : ∀ i < index, ¬ EntryCanFill cfg i) :
    (books_before m cfg index).position_open = false := by
  induction index with
  | zero => rfl
  | succ index ih =>
      have hclosed := ih fun i hi => hfirst i (Nat.lt_succ_of_lt hi)
      rw [books_before_succ, ← Bool.not_eq_true, bar_step_opens_iff m cfg hclosed,
        entry_executes_iff m hleverage]
      exact hfirst index (Nat.lt_succ_self index)

/-- A run enters before its last bar exactly when a signal before the last bar can be
filled. -/
theorem exists_entersAt_iff (m : PyMath K) {cfg : SimConfig K}
    (hleverage : 1 ≤ cfg.position_leverage) :
    (∃ index, index + 1 < cfg.bars ∧ EntersAt m cfg index)
      ↔ ∃ index, index + 1 < cfg.bars ∧ EntryCanFill cfg index := by
  classical
  constructor
  · rintro ⟨index, hbefore, henters⟩
    exact ⟨index, hbefore, henters.canFill hleverage⟩
  · intro hexists
    obtain ⟨hbefore, hfill⟩ := Nat.find_spec hexists
    refine ⟨Nat.find hexists, hbefore, ?_⟩
    -- the first such signal finds no position open
    have hfirst : ∀ i < Nat.find hexists, ¬ EntryCanFill cfg i := by
      intro i hi hcan
      exact Nat.find_min hexists hi ⟨by omega, hcan⟩
    exact
      { before := by omega
        closed := books_before_first_entry m hleverage hfirst
        signal := hfill.1
        filled := (entry_executes_iff m hleverage _).mpr hfill.2 }

end Orders

/-! ## Exactly while held -/

section Held

variable {m : PyMath K} {cfg : SimConfig K}

/-- Without latency a position accrues from the bar after its entry fill to the fill
that closes it. -/
theorem accruesWhileHeld_of_no_latency (hnever : NeverLiquidated m cfg)
    (hlatency : cfg.latency_bars = 0) : AccruesWhileHeld m cfg := by
  intro entry fill henters hclosed index hbar
  rw [fill_index_eq cfg hlatency henters.before]
  cases hclosed with
  | @exit last hafter hexits hkept =>
      rw [accruesOn_iff_of_exit hnever henters hafter hexits hkept hbar,
        fill_index_eq cfg hlatency hexits.before]
      omega
  | forced hkept =>
      rw [accruesOn_iff_of_forced hnever henters hkept hbar]
      omega

/-- With latency a position entered before the last bar already accrues on the bar
after its signal, when its entry has not been filled. -/
theorem not_accruesWhileHeld (hnever : NeverLiquidated m cfg) (hlatency : 0 < cfg.latency_bars)
    {entry : ℕ} (hbefore : entry + 1 < cfg.bars) (henters : EntersAt m cfg entry) :
    ¬ AccruesWhileHeld m cfg := by
  intro hexact
  obtain ⟨fill, hclosed⟩ := exists_closedAt m cfg entry
  have hheld : HeldAt m cfg entry (entry + 1) := by
    apply heldAt_of_kept hnever henters (Nat.lt_succ_self entry) (by omega)
    intro i hi hi'
    omega
  have haccrues := (accruesOn_iff hnever hbefore).mpr hheld
  have hafter := ((hexact entry fill henters hclosed (entry + 1) hbefore).mp haccrues).1
  -- but the entry is filled at that bar at the earliest
  unfold fill_index at hafter
  omega

/-- A position entered at the last bar accrues on no bar, and is held on none. -/
theorem accruesWhileHeld_of_no_entry (hnever : NeverLiquidated m cfg)
    (hlatency : 0 ≤ cfg.latency_bars)
    (hnone : ¬ ∃ entry, entry + 1 < cfg.bars ∧ EntersAt m cfg entry) : AccruesWhileHeld m cfg := by
  intro entry fill henters _ index hbar
  have hlast : ¬ entry + 1 < cfg.bars := fun hbefore => hnone ⟨entry, hbefore, henters⟩
  have hentry := henters.before
  rw [accruesOn_iff hnever hbar]
  constructor
  · intro hheld
    have hafter := hheld.1
    omega
  · rintro ⟨hafter, -⟩
    unfold fill_index at hafter
    omega

end Held

variable [IsStrictOrderedRing K] [FloorRing K]

/-- In every run without a liquidation each bar accrues one position or nothing, and
`funding_spend` is what the bars have charged. The positions accrue on exactly the bars
after their entry fill up to the fill that closes them if and only if there is no
latency, or no entry signal before the last bar can be filled. -/
theorem accrues_while_held_iff (m : PyMath K) {snapshot : DataSnapshot K} {args : SimArguments K}
    {side : PositionSide} {settings : LiquidationSettings K} {result : BacktestResult K}
    (hchecked : check_arguments snapshot args = .ok (side, settings))
    (hrun : simulate_strategy m snapshot args = .ok result)
    (hnever : result.liquidation_events = []) :
    let cfg := sim_config m snapshot args side settings
    (AccruesWhileHeld m cfg
        ↔ args.latency_bars = 0 ∨ ∀ index, index + 1 < cfg.bars → ¬ EntryCanFill cfg index)
      ∧ (∀ index < cfg.bars, (∃ entry, EntersAt m cfg entry ∧ AccruesOn m cfg entry index)
        ∨ AccruesNothing m cfg index)
      ∧ result.funding_spend = (books_before m cfg cfg.bars).funding_spend := by
  intro cfg
  obtain ⟨hleverage, hlatency, -⟩ := check_arguments_ok hchecked
  unfold simulate_strategy at hrun
  rw [hchecked] at hrun
  cases hrun
  have hquiet : NeverLiquidated m cfg := (liquidation_events_eq_nil_iff m cfg).mp hnever
  refine ⟨?_, fun index hbar => accrues_or_nothing hquiet hbar, ?_⟩
  · -- what can be filled before the last bar is what a run enters before it
    have hentry : (∀ index, index + 1 < cfg.bars → ¬ EntryCanFill cfg index)
        ↔ ¬ ∃ entry, entry + 1 < cfg.bars ∧ EntersAt m cfg entry := by
      rw [exists_entersAt_iff m hleverage]
      simp only [not_exists, not_and]
    rw [hentry]
    constructor
    · intro hexact
      by_cases hzero : args.latency_bars = 0
      · exact Or.inl hzero
      · refine Or.inr ?_
        rintro ⟨entry, hbefore, henters⟩
        have hpos : 0 < cfg.latency_bars := lt_of_le_of_ne hlatency (Ne.symm hzero)
        exact not_accruesWhileHeld hquiet hpos hbefore henters hexact
    · rintro (hzero | hnone)
      · exact accruesWhileHeld_of_no_latency hquiet hzero
      · exact accruesWhileHeld_of_no_entry hquiet hlatency hnone
  · change (simulate_bars m cfg).1.funding_spend = _
    unfold simulate_bars
    dsimp only
    split_ifs <;> rfl

/-! ## One settlement between the signal and the fill -/

/-- Four hourly bars at one price; funding is due on the third. -/
def third_bar_snapshot : DataSnapshot ℚ where
  venue := "paper"
  timeframe := "1h"
  candles := [⟨0, 100, 100, 100⟩, ⟨1, 100, 100, 100⟩, ⟨2, 100, 100, 100⟩, ⟨3, 100, 100, 100⟩]
  funding_rates := [0, 0, 1 / 100, 0]
  open_interest := [1, 1, 1, 1]
  liquidation_notional := [0, 0, 0, 0]
  taker_fee_bps := 0
  spread_bps := []
  depth_bid_1bp_usd := []
  depth_ask_1bp_usd := []
  latency_proxy_ms := []
  venue_profile := none
  provenance_microstructure := none

/-- A long entry signal on the first bar and an exit signal on the second. -/
def third_bar_args (latency_bars : ℤ) : SimArguments ℚ :=
  plain_args [true, false, false, false] [false, true, false, false] 0 latency_bars 1 "flat"

theorem third_bar_check {latency_bars : ℤ} (hlatency : 0 ≤ latency_bars) :
    check_arguments third_bar_snapshot (third_bar_args latency_bars)
      = .ok (.long, plain_settings) :=
  check_arguments_plain 0 "flat" rfl ⟨rfl, rfl⟩ hlatency (by norm_num)

/-- The configuration of that run. -/
def third_bar_config (latency_bars : ℤ) : SimConfig ℚ :=
  sim_config PyMath.rat third_bar_snapshot (third_bar_args latency_bars) .long plain_settings

/-- The entry signal is filled, and the exit signal closes the position. -/
theorem third_bar_fills {latency_bars : ℤ} (h : latency_bars = 0 ∨ latency_bars = 1) :
    EntersAt PyMath.rat (third_bar_config latency_bars) 0
      ∧ ClosedAt PyMath.rat (third_bar_config latency_bars) 0 (1 + latency_bars) := by
  have hkept : ∀ index, 0 < index → index < 1
      → ¬ ExitsAt PyMath.rat (third_bar_config latency_bars) index := by
    intro index hafter hbefore
    omega
  rcases h with rfl | rfl <;>
    exact ⟨⟨by decide, rfl, rfl, by decide +kernel⟩,
      .exit Nat.one_pos ⟨⟨by decide, by decide +kernel, rfl, by decide +kernel,
        by decide +kernel⟩, by decide +kernel⟩ hkept⟩

/-- Without latency the position is entered on the first bar, left on the second, and
accrues on the second. -/
theorem accrues_while_held_iff_no_latency :
    AccruesWhileHeld PyMath.rat (third_bar_config 0)
      ∧ EntersAt PyMath.rat (third_bar_config 0) 0
      ∧ ClosedAt PyMath.rat (third_bar_config 0) 0 1 := by
  obtain ⟨result, hrun⟩ : ∃ result,
      simulate_strategy PyMath.rat third_bar_snapshot (third_bar_args 0) = .ok result :=
    ⟨_, by rw [simulate_strategy, third_bar_check le_rfl]; rfl⟩
  have hnever : result.liquidation_events = [] := by
    rw [simulate_strategy, third_bar_check le_rfl] at hrun
    cases hrun
    decide +kernel
  have hiff := (accrues_while_held_iff PyMath.rat (third_bar_check le_rfl) hrun hnever).1
  exact ⟨hiff.mpr (Or.inl rfl), (third_bar_fills (Or.inl rfl)).1,
    (third_bar_fills (Or.inl rfl)).2⟩

/-- A bar late, the position is held on the third bar, whose funding of one is due, and
accrues on the second instead: the run pays no funding. -/
theorem funding_missed_while_held :
    ∃ result, simulate_strategy PyMath.rat third_bar_snapshot (third_bar_args 1) = .ok result
      ∧ result.liquidation_events = [] ∧ result.funding_spend = 0
      ∧ EntersAt PyMath.rat (third_bar_config 1) 0 ∧ fill_index (third_bar_config 1) 0 = 1
      ∧ ClosedAt PyMath.rat (third_bar_config 1) 0 2
      ∧ apply_funding (100 * 1 : ℚ) (1 / 100) .long = 1
      ∧ AccruesOn PyMath.rat (third_bar_config 1) 0 1
      ∧ ¬ AccruesOn PyMath.rat (third_bar_config 1) 0 2 := by
  have hchecked := third_bar_check (show (0 : ℤ) ≤ 1 by decide)
  refine ⟨_, by rw [simulate_strategy, hchecked]; rfl, by decide +kernel, by decide +kernel, ?_⟩
  obtain ⟨henters, hclosed⟩ := third_bar_fills (Or.inr rfl : (1 : ℤ) = 0 ∨ (1 : ℤ) = 1)
  refine ⟨henters, by decide, hclosed, by decide +kernel, ?_, ?_⟩
  · have hheld : ∀ i, 0 < i → i ≤ 1
        → (books_before PyMath.rat (third_bar_config 1) i).position_open = true := by
      intro i hi hle
      have hone : i = 1 := by omega
      rw [hone]
      decide +kernel
    exact ⟨⟨Nat.one_pos, hheld⟩, by decide +kernel, by decide +kernel,
      fun _ => by decide +kernel⟩
  · intro haccrues
    have hopen := haccrues.held.2 2 (by omega) le_rfl
    revert hopen
    decide +kernel

end ProofAlpha.Backtest
