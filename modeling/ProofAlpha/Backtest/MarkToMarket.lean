/-
The mark-to-market identity of the reference simulator.

With latency zero, the equity value of a bar should be the realised books after
that bar plus the unrealised result of exactly the size still open. Two paths of
the loop append `_equity_mark()` without the unrealised part: an entry whose
fill price was moved away from the close, and an exit that fills only in part.
`UnmarkedFill` is the condition, on the state before a bar, that one of them is
taken with something left to mark, and `equity_curve_marks_to_market` shows the
identity to hold at exactly the other bars.
-/
import Mathlib.Tactic.Ring
import ProofAlpha.Backtest.Simulator

set_option autoImplicit false

namespace ProofAlpha.Backtest

open ProofAlpha.Lib ProofAlpha.Lib.PyList ProofAlpha.Lib.IndexedLoop

variable {K : Type} [Field K] [LinearOrder K]

/-! ## The identity -/

/-- The size still open, negative for a short. -/
def signed_size (cfg : SimConfig K) (s : SimState K) : K :=
  cfg.position_side.direction * s.position_size

/-- The books plus the unrealised result of the open size at the close of a
bar. -/
def marked_equity (cfg : SimConfig K) (s : SimState K) (index : ℕ) : K :=
  s.gross_pnl - s.fee_spend - s.funding_spend
    + ((cfg.candle index).close - s.entry_price) * signed_size cfg s

/-- A closed position has no size left. -/
def SizeSound (s : SimState K) : Prop := s.position_open = false → s.position_size = 0

omit [LinearOrder K] in
/-- `_price_delta` times a size is the price move times the signed size. -/
theorem unrealized_pnl_eq (cfg : SimConfig K) (s : SimState K) (close : K) :
    unrealized_pnl close cfg.position_side s = (close - s.entry_price) * signed_size cfg s := by
  unfold unrealized_pnl signed_size price_delta PositionSide.direction
  cases cfg.position_side <;> ring

omit [LinearOrder K] in
/-- `mark_to_market` marks the whole open size. -/
theorem mark_to_market_eq (cfg : SimConfig K) {s : SimState K} (hsize : SizeSound s)
    (index : ℕ) : mark_to_market cfg s index = marked_equity cfg s index := by
  unfold mark_to_market equity_mark marked_equity
  rw [unrealized_pnl_eq]
  split_ifs with hopen
  · rfl
  · have hzero : s.position_size = 0 := hsize (Bool.eq_false_iff.mpr hopen)
    rw [signed_size, hzero, mul_zero, mul_zero]

omit [LinearOrder K] in
/-- `_equity_mark()` alone is the identity exactly when the open size has nothing
to mark. -/
theorem equity_mark_zero_iff (cfg : SimConfig K) (s : SimState K) (index : ℕ) :
    equity_mark s 0 = marked_equity cfg s index
      ↔ s.position_size = 0 ∨ s.entry_price = (cfg.candle index).close := by
  have hdirection : (cfg.position_side.direction : K) ≠ 0 := by
    unfold PositionSide.direction
    cases cfg.position_side <;> simp
  unfold equity_mark marked_equity signed_size
  rw [add_right_inj, eq_comm, mul_eq_zero, mul_eq_zero, sub_eq_zero]
  constructor
  · rintro (hclose | hdir | hsize)
    · exact Or.inr hclose.symm
    · exact absurd hdir hdirection
    · exact Or.inl hsize
  · rintro (hsize | hclose)
    · exact Or.inr (Or.inr hsize)
    · exact Or.inl hclose.symm

/-! ## The two unmarked paths -/

/-- An entry is made on the bar, and its adverse fill price is not the close. -/
def EntryOffClose (m : PyMath K) (cfg : SimConfig K) (s : SimState K) (index : ℕ) : Prop :=
  s.position_open = false ∧ cfg.entry_signals.getD index false = true
    ∧ 1e-9 < (execution_quote m cfg index cfg.position_leverage true).executed_size
    ∧ 0 < (execution_quote m cfg index cfg.position_leverage true).adverse_fill_bps
    ∧ (cfg.candle index).close ≠ 0

/-- An exit is made on the bar, it leaves part of the position open, and the
close is not the entry price. -/
def ExitLeavesOpen (m : PyMath K) (cfg : SimConfig K) (s : SimState K) (index : ℕ) : Prop :=
  s.position_open = true ∧ cfg.exit_signals.getD index false = true ∧ s.entry_index ≤ index
    ∧ 1e-9 < (execution_quote m cfg index s.position_size false).executed_size
    ∧ 1e-9 < s.position_size - (execution_quote m cfg index s.position_size false).executed_size
    ∧ s.entry_price ≠ (cfg.candle index).close

/-- No liquidation is due on the bar and one of the two unmarked paths is
taken with something to mark. -/
def UnmarkedFill (m : PyMath K) (cfg : SimConfig K) (s : SimState K) (index : ℕ) : Prop :=
  liquidation_due cfg s index = false ∧ (EntryOffClose m cfg s index ∨ ExitLeavesOpen m cfg s index)

instance (m : PyMath K) (cfg : SimConfig K) (s : SimState K) (index : ℕ) :
    Decidable (UnmarkedFill m cfg s index) :=
  inferInstanceAs (Decidable (_ ∧ ((_ ∧ _ ∧ _ ∧ _ ∧ _) ∨ (_ ∧ _ ∧ _ ∧ _ ∧ _ ∧ _))))

/-- The condition reads nothing the funding of the bar changes. -/
theorem unmarkedFill_accrue_funding (m : PyMath K) (cfg : SimConfig K) (s : SimState K)
    (index : ℕ) :
    UnmarkedFill m cfg (accrue_funding cfg s index) index ↔ UnmarkedFill m cfg s index := by
  obtain ⟨funding, hfunding⟩ := accrue_funding_frame cfg s index
  rw [hfunding]
  rfl

/-! ## One bar -/

omit [LinearOrder K] in
theorem SizeSound.initial : SizeSound (SimState.initial : SimState K) := fun _ => rfl

theorem SizeSound.accrue_funding {cfg : SimConfig K} {s : SimState K} (h : SizeSound s)
    (index : ℕ) : SizeSound (accrue_funding cfg s index) := by
  obtain ⟨funding, hfunding⟩ := accrue_funding_frame cfg s index
  rw [hfunding]
  exact h

/-- A position is closed only with its size set to zero. -/
theorem SizeSound.close_if_flat {s : SimState K} (hopen : s.position_open = true) :
    SizeSound (close_if_flat s) := by
  unfold ProofAlpha.Backtest.close_if_flat
  split_ifs
  · exact fun _ => rfl
  · intro hclosed
    rw [hopen] at hclosed
    exact absurd hclosed (Bool.false_ne_true ∘ Eq.symm)

/-- The liquidation branch is taken only with a position open. -/
theorem liquidate_sizeSound (m : PyMath K) (cfg : SimConfig K) {s : SimState K} (index : ℕ)
    (hopen : s.position_open = true) : SizeSound (liquidate m cfg s index).1 :=
  SizeSound.close_if_flat (s := liquidation_books m cfg s index) hopen

theorem enter_sizeSound (m : PyMath K) (cfg : SimConfig K) {s : SimState K} (index : ℕ) (mark : K)
    (h : SizeSound s) : SizeSound (enter m cfg s index mark).1 := by
  unfold enter
  dsimp only
  split_ifs
  · exact h
  · exact fun hclosed => absurd hclosed (Bool.false_ne_true ∘ Eq.symm)

theorem exit_sizeSound (m : PyMath K) (cfg : SimConfig K) {s : SimState K} (index : ℕ) (mark : K)
    (h : SizeSound s) (hopen : s.position_open = true) :
    SizeSound (exit m cfg s index mark).1 := by
  unfold exit
  dsimp only
  split_ifs
  · exact h
  · exact SizeSound.close_if_flat (s := exit_books _ _ _ _) hopen

/-- Every bar keeps a closed position without size. -/
theorem bar_step_sizeSound (m : PyMath K) (cfg : SimConfig K) {s : SimState K} (index : ℕ)
    (h : SizeSound s) : SizeSound (bar_step m cfg s index).1 := by
  have hfunded : SizeSound (accrue_funding cfg s index) := h.accrue_funding index
  unfold bar_step
  dsimp only
  split_ifs with hdue hentry hexit
  · exact liquidate_sizeSound m cfg index (liquidation_due_open hdue)
  · exact enter_sizeSound m cfg index _ hfunded
  · exact exit_sizeSound m cfg index _ hfunded hexit.1
  · exact hfunded

/-- No bar of a run starts with a closed position that has a size. -/
theorem stateAt_sizeSound (m : PyMath K) (cfg : SimConfig K) (index : ℕ) :
    SizeSound (stateAt (bar_step m cfg) SimState.initial index) :=
  stateAt_invariant (fun _ s => SizeSound s) SizeSound.initial
    (fun i _ h => bar_step_sizeSound m cfg i h) index

section Marking

variable [IsStrictOrderedRing K] (m : PyMath K) (cfg : SimConfig K)

/-- An adverse fill moves the price off a non-zero close, and nothing else
does. -/
theorem apply_adverse_fill_price_eq_iff (close : K) (side : PositionSide) (is_entry : Bool)
    (bps : K) : apply_adverse_fill_price close side is_entry bps = close ↔ ¬ (0 < bps ∧ close ≠ 0) := by
  unfold apply_adverse_fill_price
  by_cases hbps : bps ≤ 0
  · rw [if_pos hbps]
    exact ⟨fun _ h => absurd h.1 (not_lt.mpr hbps), fun _ => rfl⟩
  · have hpos : 0 < bps := not_le.mp hbps
    have hmultiplier : bps / 10000 ≠ 0 := (div_pos hpos (by norm_num)).ne'
    -- raised or lowered by the multiplier, the price is the close only at zero
    have hup : close * (1 + bps / 10000) = close ↔ close = 0 := by
      rw [mul_add, mul_one, add_eq_left, mul_eq_zero, or_iff_left hmultiplier]
    have hdown : close * (1 - bps / 10000) = close ↔ close = 0 := by
      rw [mul_sub, mul_one, sub_eq_self, mul_eq_zero, or_iff_left hmultiplier]
    have hiff : ¬ (0 < bps ∧ close ≠ 0) ↔ close = 0 := by
      rw [not_and, not_not]
      exact ⟨fun h => h hpos, fun h _ => h⟩
    rw [if_neg hbps, hiff]
    cases side <;> cases is_entry <;> dsimp only <;>
      first | exact hup | exact hdown

omit [Field K] [LinearOrder K] [IsStrictOrderedRing K] in
/-- With latency zero a bar's order fills on the bar itself. -/
theorem fill_index_eq (hlatency : cfg.latency_bars = 0) {index : ℕ} (hindex : index < cfg.bars) :
    fill_index cfg index = index := by
  unfold fill_index
  omega

/-- The entry branch marks the bar unless its fill is off the close. -/
theorem enter_marks_iff {s : SimState K} {index : ℕ} (hfill : fill_index cfg index = index)
    (hsize : SizeSound s) (hopen : s.position_open = false)
    (hentry : cfg.entry_signals.getD index false = true) :
    (enter m cfg s index (mark_to_market cfg s index)).2.equity
        = marked_equity cfg (enter m cfg s index (mark_to_market cfg s index)).1 index
      ↔ ¬ EntryOffClose m cfg s index := by
  unfold enter
  -- with latency zero the quote is made on the bar itself
  rw [hfill]
  generalize hq : execution_quote m cfg index cfg.position_leverage true = q
  have hcondition : EntryOffClose m cfg s index
      ↔ 1e-9 < q.executed_size ∧ 0 < q.adverse_fill_bps ∧ (cfg.candle index).close ≠ 0 := by
    unfold EntryOffClose
    rw [hq]
    exact ⟨fun h => h.2.2, fun h => ⟨hopen, hentry, h⟩⟩
  dsimp only
  split_ifs with hunfilled
  · rw [hcondition, mark_to_market_eq cfg hsize]
    exact ⟨fun _ h => absurd h.1 (not_lt.mpr hunfilled), fun _ => rfl⟩
  · have hexecuted : 1e-9 < q.executed_size := not_le.mp hunfilled
    have hsize_ne : q.executed_size ≠ 0 := (lt_trans (by norm_num) hexecuted).ne'
    -- the curve value misses the size times the way from the fill to the close
    have hprice : q.fill_price = (cfg.candle index).close
        ↔ ¬ (0 < q.adverse_fill_bps ∧ (cfg.candle index).close ≠ 0) := by
      subst hq
      exact apply_adverse_fill_price_eq_iff _ _ _ _
    rw [equity_mark_zero_iff, hcondition]
    dsimp only
    rw [or_iff_right hsize_ne, hprice, and_iff_right hexecuted]

/-- The exit branch marks the bar unless it leaves something open to mark. -/
theorem exit_marks_iff {s : SimState K} {index : ℕ} (hfill : fill_index cfg index = index)
    (hsize : SizeSound s) (hopen : s.position_open = true)
    (hexit : cfg.exit_signals.getD index false = true) (hafter : s.entry_index ≤ index) :
    (exit m cfg s index (mark_to_market cfg s index)).2.equity
        = marked_equity cfg (exit m cfg s index (mark_to_market cfg s index)).1 index
      ↔ ¬ ExitLeavesOpen m cfg s index := by
  unfold exit
  rw [hfill]
  generalize hq : execution_quote m cfg index s.position_size false = q
  have hcondition : ExitLeavesOpen m cfg s index
      ↔ 1e-9 < q.executed_size ∧ 1e-9 < s.position_size - q.executed_size
        ∧ s.entry_price ≠ (cfg.candle index).close := by
    unfold ExitLeavesOpen
    rw [hq]
    exact ⟨fun h => h.2.2.2, fun h => ⟨hopen, hexit, hafter, h⟩⟩
  dsimp only
  split_ifs with hunfilled
  · rw [hcondition, mark_to_market_eq cfg hsize]
    exact ⟨fun _ h => absurd h.1 (not_lt.mpr hunfilled), fun _ => rfl⟩
  · have hexecuted : 1e-9 < q.executed_size := not_le.mp hunfilled
    -- an exit that leaves the position open leaves its entry price
    rw [equity_mark_zero_iff, hcondition, and_iff_right hexecuted]
    unfold close_if_flat
    -- the size and the entry price the exit leaves, before the closing test
    have hleft : (exit_books cfg.position_side s q (fill_cost cfg q)).position_size
        = s.position_size - q.executed_size := rfl
    have hprice : (exit_books cfg.position_side s q (fill_cost cfg q)).entry_price
        = s.entry_price := rfl
    by_cases hflat : is_flat (exit_books cfg.position_side s q (fill_cost cfg q))
    · rw [if_pos hflat]
      have hsmall : s.position_size - q.executed_size ≤ 1e-9 := hflat
      exact ⟨fun _ h => absurd h.1 (not_lt.mpr hsmall), fun _ => Or.inl rfl⟩
    · rw [if_neg hflat, hleft, hprice]
      have hremaining : 1e-9 < s.position_size - q.executed_size := not_le.mp hflat
      have hremaining_ne : s.position_size - q.executed_size ≠ 0 :=
        (lt_trans (by norm_num) hremaining).ne'
      rw [or_iff_right hremaining_ne, and_iff_right hremaining, not_not]

/-- A bar's equity value is the identity exactly when its fill is not unmarked. -/
theorem bar_step_marks_iff (hlatency : cfg.latency_bars = 0) {s : SimState K} {index : ℕ}
    (hindex : index < cfg.bars) (hsize : SizeSound s) :
    (bar_step m cfg s index).2.equity = marked_equity cfg (bar_step m cfg s index).1 index
      ↔ ¬ UnmarkedFill m cfg s index := by
  have hfill : fill_index cfg index = index := fill_index_eq cfg hlatency hindex
  rw [← unmarkedFill_accrue_funding]
  have hfunded : SizeSound (accrue_funding cfg s index) := hsize.accrue_funding index
  unfold bar_step
  dsimp only
  generalize accrue_funding cfg s index = t at hfunded ⊢
  unfold UnmarkedFill
  split_ifs with hdue hentry hexit
  · -- a liquidation marks the remaining size
    refine ⟨fun _ h => absurd (hdue.symm.trans h.1) (Bool.false_ne_true ∘ Eq.symm), fun _ => ?_⟩
    exact mark_to_market_eq cfg
      (liquidate_sizeSound m cfg index (liquidation_due_open hdue)) index
  · rw [enter_marks_iff m cfg hfill hfunded hentry.1 hentry.2,
      and_iff_right (Bool.eq_false_iff.mpr hdue)]
    have hnot_open : ¬ ExitLeavesOpen m cfg t index := fun h =>
      absurd (hentry.1.symm.trans h.1) Bool.false_ne_true
    rw [or_iff_left hnot_open]
  · rw [exit_marks_iff m cfg hfill hfunded hexit.1 hexit.2.1 hexit.2.2,
      and_iff_right (Bool.eq_false_iff.mpr hdue)]
    have hnot_flat : ¬ EntryOffClose m cfg t index := fun h =>
      absurd (h.1.symm.trans hexit.1) Bool.false_ne_true
    rw [or_iff_right hnot_flat]
  · refine ⟨fun _ => ?_, fun _ => mark_to_market_eq cfg hfunded index⟩
    rintro ⟨-, hopened | hclosed⟩
    · exact hentry ⟨hopened.1, hopened.2.1⟩
    · exact hexit ⟨hclosed.1, hclosed.2.1, hclosed.2.2.1⟩

end Marking

/-! ## Whole runs -/

/-- The position is still open after the last bar, so that the last equity value
is the one of the forced close. -/
def ClosedByForce (m : PyMath K) (cfg : SimConfig K) : Prop :=
  (stateAt (bar_step m cfg) SimState.initial cfg.bars).position_open = true

section Run

variable [IsStrictOrderedRing K] [FloorRing K]

/-- In a run without latency, the equity value of a bar is the books plus the
unrealised result of the size open after the bar if and only if the bar makes no
unmarked fill; on a forced close the last value is that of the closed books. -/
theorem equity_curve_marks_to_market (m : PyMath K) {snapshot : DataSnapshot K}
    {args : SimArguments K} {side : PositionSide} {settings : LiquidationSettings K}
    {result : BacktestResult K} (hlatency : args.latency_bars = 0)
    (hchecked : check_arguments snapshot args = .ok (side, settings))
    (hrun : simulate_strategy m snapshot args = .ok result) {i : ℕ}
    (hi : i < snapshot.candles.length) :
    let cfg := sim_config m snapshot args side settings
    let state := stateAt (bar_step m cfg) SimState.initial
    (i + 1 < cfg.bars ∨ ¬ ClosedByForce m cfg →
      (result.equity_curve[i]? = some (marked_equity cfg (state (i + 1)) i)
        ↔ ¬ UnmarkedFill m cfg (state i) i))
      ∧ (i + 1 = cfg.bars ∧ ClosedByForce m cfg →
        result.equity_curve[i]? = some (equity_mark (force_close m cfg (state cfg.bars)) 0)) := by
  intro cfg state
  have hcurve : result.equity_curve = (simulate_bars m cfg).2 := by
    unfold simulate_strategy at hrun
    rw [hchecked] at hrun
    cases hrun
    rfl
  have hbar : i < cfg.bars := hi
  rw [hcurve]
  refine ⟨fun hopen => ?_, fun hclosed => ?_⟩
  · have hpushed := simulate_bars_getElem? m cfg hbar
      (hopen.imp_right fun h => Bool.eq_false_iff.mpr h)
    rw [hpushed, Option.some_inj, outputAt]
    have hstep := bar_step_marks_iff m cfg hlatency hbar (stateAt_sizeSound m cfg i)
    rwa [← stateAt_succ] at hstep
  · have hlast : i = cfg.bars - 1 := by omega
    rw [hlast]
    exact simulate_bars_getElem?_last m cfg (by omega) hclosed.2

end Run

/-! ## An exit that fills only in part -/

/-- Three bars with a thin book on the second. -/
def thin_book_snapshot : DataSnapshot ℚ where
  venue := "paper"
  timeframe := "1h"
  candles := [⟨0, 100, 100, 100⟩, ⟨1, 110, 110, 110⟩, ⟨2, 110, 110, 110⟩]
  funding_rates := [0, 0, 0]
  open_interest := [1, 1, 1]
  liquidation_notional := [0, 0, 0]
  taker_fee_bps := 0
  spread_bps := [0, 0, 0]
  depth_bid_1bp_usd := [1000, 55, 1000]
  depth_ask_1bp_usd := [1000, 55, 1000]
  latency_proxy_ms := [0, 0, 0]
  venue_profile := none
  provenance_microstructure := none

/-- A long entry on the first bar and an exit on the second, under the realistic
model. -/
def thin_book_args : SimArguments ℚ :=
  plain_args [true, false, false] [false, true, false] 0 0 1 "realistic"

theorem thin_book_check :
    check_arguments thin_book_snapshot thin_book_args = .ok (.long, plain_settings) :=
  check_arguments_plain 0 "realistic" rfl ⟨rfl, rfl⟩ (by decide) (by norm_num)

theorem thin_book_run :
    ∃ result, simulate_strategy PyMath.rat thin_book_snapshot thin_book_args = .ok result :=
  ⟨_, by rw [simulate_strategy, thin_book_check]; rfl⟩

/-- The configuration of that run. -/
def thin_book_config : SimConfig ℚ :=
  sim_config PyMath.rat thin_book_snapshot thin_book_args .long plain_settings

/-- The entry bar is marked to market. -/
theorem equity_curve_marks_to_market_thin_book :
    ∃ result, simulate_strategy PyMath.rat thin_book_snapshot thin_book_args = .ok result
      ∧ result.equity_curve[0]? = some (marked_equity thin_book_config
        (stateAt (bar_step PyMath.rat thin_book_config) SimState.initial 1) 0) := by
  obtain ⟨result, hrun⟩ := thin_book_run
  have hmarked : ¬ UnmarkedFill PyMath.rat thin_book_config SimState.initial 0 := by
    decide +kernel
  refine ⟨result, hrun, ?_⟩
  exact ((equity_curve_marks_to_market PyMath.rat rfl thin_book_check hrun (i := 0)
    (by decide)).1 (Or.inl (by decide))).mpr hmarked

/-- The exit bar is not: the part left open drops out of its equity value. -/
theorem equity_curve_misses_open_size :
    ∃ result, simulate_strategy PyMath.rat thin_book_snapshot thin_book_args = .ok result
      ∧ result.equity_curve[1]? ≠ some (marked_equity thin_book_config
        (stateAt (bar_step PyMath.rat thin_book_config) SimState.initial 2) 1) := by
  refine ⟨_, by rw [simulate_strategy, thin_book_check]; rfl, ?_⟩
  decide +kernel

end ProofAlpha.Backtest
