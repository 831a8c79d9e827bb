/-
The state both bar loops carry, and the updates they make to it inline.

`simulate_strategy` and `_simulate_single_python` keep the same local variables;
`SimState` is their record. The results they build from it after the loop are
here too.
-/
import ProofAlpha.Backtest.Liquidation
import ProofAlpha.Backtest.MarketImpact

set_option autoImplicit false

namespace ProofAlpha.Backtest

open ProofAlpha.Lib

variable {K : Type} [Field K] [LinearOrder K]

/-! ## The loop state -/

/-- The local variables of a bar loop. -/
structure SimState (K : Type) where
  position_open : Bool
  position_size : K
  entry_price : K
  entry_index : ℤ
  liquidation_cooldown_until : ℤ
  liquidation_step_index : ℕ
  trade_count : ℕ
  winning_trades : ℕ
  gross_pnl : K
  fee_spend : K
  funding_spend : K
  fill_event_count : ℕ
  partial_fill_event_count : ℕ
  fill_ratio_sum : K
  min_fill_ratio : K
  adverse_fill_event_count : ℕ
  adverse_fill_bps_sum : K
  max_adverse_fill_bps : K

/-- The state before the first bar. -/
def SimState.initial : SimState K where
  position_open := false
  position_size := 0
  entry_price := 0
  entry_index := -1
  liquidation_cooldown_until := -1
  liquidation_step_index := 0
  trade_count := 0
  winning_trades := 0
  gross_pnl := 0
  fee_spend := 0
  funding_spend := 0
  fill_event_count := 0
  partial_fill_event_count := 0
  fill_ratio_sum := 0
  min_fill_ratio := 1
  adverse_fill_event_count := 0
  adverse_fill_bps_sum := 0
  max_adverse_fill_bps := 0

/-- `_equity_mark`. -/
def equity_mark (s : SimState K) (unrealized_pnl : K) : K :=
  s.gross_pnl - s.fee_spend - s.funding_spend + unrealized_pnl

/-- The unrealised PnL of the open size at a price. -/
def unrealized_pnl (close : K) (position_side : PositionSide) (s : SimState K) : K :=
  price_delta close s.entry_price position_side * s.position_size

/-- The notional the tier lookups are made with. -/
def position_notional (s : SimState K) : K := s.entry_price * s.position_size

/-! ## Fills -/

/-- What one order execution comes to: the share filled, the size it makes, the
slippage and adverse basis points, and the price paid. -/
structure FillQuote (K : Type) where
  fill_ratio : K
  executed_size : K
  slippage_bps : K
  adverse_fill_bps : K
  fill_price : K

/-- The fill counters after one fill. -/
def record_fill (s : SimState K) (q : FillQuote K) : SimState K :=
  { s with
    fill_event_count := s.fill_event_count + 1
    fill_ratio_sum := s.fill_ratio_sum + q.fill_ratio
    min_fill_ratio := min s.min_fill_ratio q.fill_ratio
    -- `fill_ratio < 1.0 - 1e-9`: a share this close to one is a full fill
    partial_fill_event_count :=
      if q.fill_ratio < 1 - 1e-9 then s.partial_fill_event_count + 1
      else s.partial_fill_event_count
    adverse_fill_event_count :=
      if 0 < q.adverse_fill_bps then s.adverse_fill_event_count + 1
      else s.adverse_fill_event_count
    adverse_fill_bps_sum :=
      if 0 < q.adverse_fill_bps then s.adverse_fill_bps_sum + q.adverse_fill_bps
      else s.adverse_fill_bps_sum
    max_adverse_fill_bps :=
      if 0 < q.adverse_fill_bps then max s.max_adverse_fill_bps q.adverse_fill_bps
      else s.max_adverse_fill_bps }

/-- The books after a size is sold out of the position at a gross result and a
cost: fees, gross PnL, trade count and the remaining size. -/
def realize (s : SimState K) (size trade_gross exit_cost : K) : SimState K :=
  { s with
    fee_spend := s.fee_spend + exit_cost
    gross_pnl := s.gross_pnl + trade_gross
    trade_count := s.trade_count + 1
    position_size := s.position_size - size }

/-- Counts a closing trade as winning when its net result is positive. -/
def count_win (s : SimState K) (trade_net : K) : SimState K :=
  { s with winning_trades := if 0 < trade_net then s.winning_trades + 1 else s.winning_trades }

/-- The closing tolerance: a remaining size at or below it ends the position. -/
def is_flat (s : SimState K) : Prop := s.position_size ≤ 1e-9

instance (s : SimState K) : Decidable (is_flat s) := inferInstanceAs (Decidable (_ ≤ _))

/-- The assignments that end a position. -/
def end_position (s : SimState K) : SimState K :=
  { s with position_open := false, position_size := 0, entry_price := 0, entry_index := -1 }

/-- A position at or below the closing tolerance is ended. -/
def close_if_flat (s : SimState K) : SimState K := if is_flat s then end_position s else s

/-- The books after an exit fill, before the closing test. -/
def exit_books (position_side : PositionSide) (s : SimState K) (q : FillQuote K) (exit_cost : K) :
    SimState K :=
  let trade_gross := price_delta q.fill_price s.entry_price position_side * q.executed_size
  count_win (realize (record_fill s q) q.executed_size trade_gross exit_cost)
    (trade_gross - exit_cost)

/-! ## The execution-pressure summary -/

/-- The three keys added when an adverse fill occurred. -/
structure AdversePressure (K : Type) where
  adverse_fill_event_count : ℕ
  average_adverse_fill_bps : K
  max_adverse_fill_bps : K
  deriving DecidableEq

/-- `execution_pressure_summary` when it is not the empty dict. -/
structure PressureSummary (K : Type) where
  fill_event_count : ℕ
  partial_fill_event_count : ℕ
  average_fill_ratio : K
  min_fill_ratio : K
  adverse : Option (AdversePressure K)
  deriving DecidableEq

/-- `execution_pressure_summary`, `none` for the empty dict. -/
def execution_pressure_summary [FloorRing K] (use_realistic_slippage : Bool) (s : SimState K) :
    Option (PressureSummary K) :=
  if use_realistic_slippage = true ∧ 0 < s.fill_event_count then
    some
      { fill_event_count := s.fill_event_count
        partial_fill_event_count := s.partial_fill_event_count
        average_fill_ratio := pyRound (s.fill_ratio_sum / (s.fill_event_count : K)) 6
        min_fill_ratio := pyRound s.min_fill_ratio 6
        adverse :=
          if 0 < s.adverse_fill_event_count then
            some
              { adverse_fill_event_count := s.adverse_fill_event_count
                average_adverse_fill_bps :=
                  pyRound (s.adverse_fill_bps_sum / (s.adverse_fill_event_count : K)) 6
                max_adverse_fill_bps := pyRound s.max_adverse_fill_bps 6 }
          else none }
  else none

end ProofAlpha.Backtest
