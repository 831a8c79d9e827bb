/-
The batch simulator's Python loop: `backtest/simulator_numba.py`,
`_simulate_single_python`, and the slippage context it shares with the JIT
kernel.

The loop carries the same local variables as `simulate_strategy` (`SimState`).
An argument that may be `None` is an `Option`; the six microstructure and regime
series are normalised to the length of `closes` before the loop.
-/
import ProofAlpha.Lib.IndexedLoop
import ProofAlpha.Lib.PyText
import ProofAlpha.Backtest.SimState

set_option autoImplicit false

namespace ProofAlpha.Backtest

open ProofAlpha.Lib ProofAlpha.Lib.PyList ProofAlpha.Lib.IndexedLoop

variable {K : Type} [Field K] [LinearOrder K]

/-! ## Arguments -/

/-- The arguments of `_simulate_single_python`, which are also what
`simulate_strategy_batch` holds for one parameter set. -/
structure BatchInput (K : Type) where
  closes : List K
  highs : List K
  lows : List K
  funding_rates : List K
  funding_event_counts : Option (List ℤ)
  entry_signals : List Bool
  exit_signals : List Bool
  taker_fee_bps : K
  slippage_bps : K
  position_side : PositionSide
  position_leverage : K
  latency_bars : ℤ
  open_interest : Option (List K)
  liquidation_notional : Option (List K)
  spread_bps : Option (List K)
  depth_bid_1bp_usd : Option (List K)
  depth_ask_1bp_usd : Option (List K)
  latency_proxy_ms : Option (List K)
  stress_regimes : Option (List RegimeLabel)
  slippage_model : String
  settings : LiquidationSettings K

/-- `len(closes)`. -/
def BatchInput.bars (inp : BatchInput K) : ℕ := inp.closes.length

/-- `closes[index]`. -/
def BatchInput.close (inp : BatchInput K) (index : ℤ) : K := item inp.closes index 0

/-- `event_counts`: one settlement on each bar when no counts are given. -/
def BatchInput.event_counts (inp : BatchInput K) : List ℤ :=
  inp.funding_event_counts.getD (List.replicate inp.closes.length 1)

/-- `str(slippage_model).strip().lower()`. -/
def BatchInput.model (inp : BatchInput K) : String := pyLower (pyStrip inp.slippage_model)

/-! ## The slippage context -/

/-- The dict `_prepare_slippage_context` returns. -/
structure SlippageContext (K : Type) where
  open_interest : List K
  roll_vol : List K
  oi_stressed : List Bool
  funding_z : List K
  liquidation_z : List K
  depth_depleted : List Bool
  regime_multiplier : List K
  spread_bps : List K
  depth_bid_1bp_usd : List K
  depth_ask_1bp_usd : List K
  latency_proxy_ms : List K
  microstructure_available : Bool

/-- `values is not None and len(values) > 0`. -/
def series_given (values : Option (List K)) : Bool := !(values.getD []).isEmpty

def prepare_slippage_context (m : PyMath K) (inp : BatchInput K) : SlippageContext K :=
  let length := inp.closes.length
  let open_interest_series := normalize_series (inp.open_interest.getD []) length 0
  let funding_series := normalize_series inp.funding_rates length 0
  let liquidation_series := normalize_series (inp.liquidation_notional.getD []) length 0
  let depth_bid_series := normalize_series (inp.depth_bid_1bp_usd.getD []) length 0
  let depth_ask_series := normalize_series (inp.depth_ask_1bp_usd.getD []) length 0
  let regime_series := normalize_series (inp.stress_regimes.getD []) length .other
  -- one threshold for the whole series, later bars included
  let threshold := percentile_threshold open_interest_series 90
  let depth_series := List.zipWith min depth_bid_series depth_ask_series
  { open_interest := open_interest_series
    roll_vol := compute_roll_vol_series m inp.closes
    oi_stressed := open_interest_series.map fun value => decide (threshold < value)
    funding_z := compute_abs_zscores m funding_series
    liquidation_z := compute_abs_zscores m liquidation_series
    depth_depleted :=
      -- a series without any depth depletes nowhere
      if depth_series.any fun value => decide (value ≠ 0) then
        compute_low_percentile_flags depth_series 10
      else List.replicate length false
    regime_multiplier := regime_series.map stress_multiplier
    spread_bps := normalize_series (inp.spread_bps.getD []) length 0
    depth_bid_1bp_usd := depth_bid_series
    depth_ask_1bp_usd := depth_ask_series
    latency_proxy_ms := normalize_series (inp.latency_proxy_ms.getD []) length 0
    microstructure_available := series_given inp.spread_bps
      && series_given inp.depth_bid_1bp_usd && series_given inp.depth_ask_1bp_usd
      && series_given inp.latency_proxy_ms }

/-- The four stress signals of a bar, as `_cascade_multiplier` counts them. -/
def SlippageContext.cascade (ctx : SlippageContext K) (bar_index : ℤ) : K :=
  cascade_multiplier (item ctx.oi_stressed bar_index false) (item ctx.funding_z bar_index 0)
    (item ctx.liquidation_z bar_index 0) (item ctx.depth_depleted bar_index false)

/-- `min(depth_bid[bar_index], depth_ask[bar_index])`. -/
def SlippageContext.available_depth (ctx : SlippageContext K) (bar_index : ℤ) : K :=
  min (item ctx.depth_bid_1bp_usd bar_index 0) (item ctx.depth_ask_1bp_usd bar_index 0)

/-! ## Pricing -/

/-- `_resolve_batch_slippage_bps`. Every name but `"flat"`, an unknown one
included, falls through to the dynamic model. -/
def resolve_batch_slippage_bps (m : PyMath K) (ctx : SlippageContext K) (model : String)
    (flat_slippage_bps trade_notional : K) (bar_index : ℤ) : K :=
  if model = "flat" then flat_slippage_bps
  else if model = "realistic" ∧ ctx.microstructure_available = true then
    let base_bps := impact_cost_bps m trade_notional (ctx.available_depth bar_index)
      (item ctx.roll_vol bar_index 0) (item ctx.spread_bps bar_index 0)
      (item ctx.latency_proxy_ms bar_index 0) realistic_slippage_coeff
    min 500 (base_bps * ctx.cascade bar_index)
  else
    let dynamic_bps := compute_dynamic_slippage m trade_notional (item ctx.roll_vol bar_index 0)
      (item ctx.open_interest bar_index 0) (item ctx.oi_stressed bar_index false) .other
      flat_slippage_bps
    -- the label was left out above, so the multiplier comes on top; it also multiplies the flat fallback
    if item ctx.oi_stressed bar_index false = true then
      min 500 (dynamic_bps * item ctx.regime_multiplier bar_index 1)
    else dynamic_bps

/-- `_resolve_batch_execution_fill_ratio`. -/
def resolve_batch_execution_fill_ratio (ctx : SlippageContext K) (model : String)
    (trade_notional : K) (bar_index : ℤ) : K :=
  if trade_notional ≤ 0 ∨ model ≠ "realistic" then 1
  else if ctx.microstructure_available = false then 1
  else
    depth_fill_ratio trade_notional (ctx.available_depth bar_index) (ctx.cascade bar_index)
      (item ctx.depth_depleted bar_index false)

/-- The execution of an order for `requested_size` at bar `fill_index`, as the
entry and the exit branch both compute it. -/
def batch_execution_quote (m : PyMath K) (inp : BatchInput K) (ctx : SlippageContext K)
    (fill_index : ℤ) (requested_size : K) (is_entry : Bool) : FillQuote K :=
  let reference_fill_price := inp.close fill_index
  let fill_ratio := resolve_batch_execution_fill_ratio ctx inp.model
    (reference_fill_price * requested_size) fill_index
  let executed_size := requested_size * fill_ratio
  let slippage_bps := resolve_batch_slippage_bps m ctx inp.model inp.slippage_bps
    (reference_fill_price * executed_size) fill_index
  let adverse_fill_bps := resolve_execution_adverse_fill_bps slippage_bps fill_ratio
    (inp.model == "realistic") (item ctx.oi_stressed fill_index false)
    (item ctx.funding_z fill_index 0) (item ctx.liquidation_z fill_index 0)
    (item ctx.depth_depleted fill_index false)
  { fill_ratio := fill_ratio
    executed_size := executed_size
    slippage_bps := slippage_bps
    adverse_fill_bps := adverse_fill_bps
    fill_price := apply_adverse_fill_price reference_fill_price inp.position_side is_entry
      adverse_fill_bps }

/-- The cost of a fill; unlike `simulate_strategy`, no absolute value is taken
and the slippage is charged on an adverse fill price too. -/
def batch_fill_cost (inp : BatchInput K) (q : FillQuote K) : K :=
  q.fill_price * q.executed_size * ((inp.taker_fee_bps + q.slippage_bps) / 10000)

/-! ## The bar loop -/

/-- The funding of the bar added to the books while a position is open. -/
def batch_accrue_funding (inp : BatchInput K) (s : SimState K) (index : ℕ) : SimState K :=
  if s.position_open then
    { s with
      funding_spend := s.funding_spend
        + |inp.close index * s.position_size| * inp.funding_rates.getD index 0
          * inp.position_side.direction * (inp.event_counts.getD index 0 : K) }
  else s

/-- `mark` after the funding of the bar. -/
def batch_mark (inp : BatchInput K) (s : SimState K) (index : ℕ) : K :=
  equity_mark s (if s.position_open then
    unrealized_pnl (inp.close index) inp.position_side s else 0)

/-- `liq_price`, from `liquidation_factor`. -/
def batch_liquidation_price (inp : BatchInput K) (entry_price maintenance_margin_ratio : K) : K :=
  let liquidation_factor := 1 / inp.position_leverage - maintenance_margin_ratio
  match inp.position_side with
  | .short => entry_price * (1 + liquidation_factor)
  | .long => entry_price * (1 - liquidation_factor)

/-- The liquidation price of the open position. -/
def single_liquidation_price (inp : BatchInput K) (s : SimState K) : K :=
  batch_liquidation_price inp s.entry_price
    (resolve_maintenance_margin_ratio inp.position_leverage (position_notional s)
      inp.settings.maintenance_margin_ratio inp.settings.maintenance_margin_schedule)

/-- `_batch_liquidation_trigger_price` on bar `index`. -/
def batch_trigger_price (inp : BatchInput K) (index : ℕ) : K :=
  liquidation_trigger_price (inp.highs.getD index 0) (inp.lows.getD index 0) (inp.close index)
    inp.position_side inp.settings.liquidation_mark_price_weight
    inp.settings.liquidation_mark_premium_bps

/-- `liquidated`. -/
def single_triggered_at (inp : BatchInput K) (s : SimState K) (index : ℕ) : Bool :=
  s.position_open
    && liquidation_triggered (batch_trigger_price inp index) (single_liquidation_price inp s)
      inp.position_side

/-- The condition of the liquidation branch; the entry bar itself is excluded. -/
def single_liquidation_due (inp : BatchInput K) (s : SimState K) (index : ℕ) : Bool :=
  single_triggered_at inp s index && decide (s.entry_index < index)
    && decide (s.liquidation_cooldown_until < index)

/-- The schedule and ratio a liquidation of this position uses. -/
def single_step_behavior (inp : BatchInput K) (s : SimState K) : Option (List K) × K :=
  resolve_liquidation_step_behavior inp.position_leverage (position_notional s) false
    (decide (inp.settings.partial_liquidation_ratio ≠ 1))
    inp.settings.liquidation_step_schedule.isSome inp.settings.partial_liquidation_ratio
    inp.settings.liquidation_step_schedule inp.settings.maintenance_margin_schedule

/-- `effective_liquidation_fee_bps`. -/
def single_liquidation_fee_bps (inp : BatchInput K) (s : SimState K) : K :=
  resolve_tier_value inp.position_leverage (position_notional s) inp.settings.liquidation_fee_bps
    inp.settings.liquidation_fee_schedule id

/-- The share of the position a liquidation on this bar takes. -/
def single_liquidation_ratio (inp : BatchInput K) (s : SimState K) : K :=
  let behavior := single_step_behavior inp s
  liquidation_ratio_for_event behavior.1 behavior.2 s.liquidation_step_index

/-- The assignments that end a position by liquidation: the cooldown and the
step index go back to their initial values too. -/
def end_liquidated_position (s : SimState K) : SimState K :=
  { end_position s with liquidation_cooldown_until := -1, liquidation_step_index := 0 }

/-- The liquidation of `ratio` of the position at `price`: the books, the
cooldown and the mark of the bar. Both batch loops end the branch with these
lines. -/
def batch_liquidate (inp : BatchInput K) (s : SimState K) (index : ℕ)
    (price ratio slippage_bps liquidation_fee_bps : K) : SimState K × K :=
  let liquidation_size := s.position_size * ratio
  let exit_cost := price * liquidation_size
    * ((inp.taker_fee_bps + slippage_bps + liquidation_fee_bps) / 10000)
  let trade_gross := price_delta price s.entry_price inp.position_side * liquidation_size
  let after : SimState K :=
    { realize s liquidation_size trade_gross exit_cost with
      liquidation_cooldown_until := index + inp.settings.liquidation_cooldown_bars
      liquidation_step_index := s.liquidation_step_index + 1 }
  if is_flat after then
    -- a liquidation that empties the position also ends its cooldown
    let closed := end_liquidated_position after
    (closed, equity_mark closed 0)
  else
    (after, equity_mark after (unrealized_pnl (inp.close index) inp.position_side after))

/-- The liquidation branch of `_simulate_single_python`. -/
def single_liquidate (m : PyMath K) (inp : BatchInput K) (ctx : SlippageContext K)
    (s : SimState K) (index : ℕ) : SimState K × K :=
  let price := single_liquidation_price inp s
  let ratio := single_liquidation_ratio inp s
  batch_liquidate inp s index price ratio
    (resolve_batch_slippage_bps m ctx inp.model inp.slippage_bps
      (price * (s.position_size * ratio)) index)
    (single_liquidation_fee_bps inp s)

/-- `fill_index`. -/
def batch_fill_index (inp : BatchInput K) (index : ℕ) : ℤ :=
  min ((index : ℤ) + inp.latency_bars) ((inp.bars : ℤ) - 1)

/-- The entry branch for a given execution. -/
def batch_enter (inp : BatchInput K) (s : SimState K) (fill_index : ℤ) (q : FillQuote K)
    (mark : K) : SimState K × K :=
  if q.executed_size ≤ 1e-9 then (s, mark)
  else
    let opened : SimState K :=
      { record_fill s q with
        fee_spend := s.fee_spend + batch_fill_cost inp q
        position_open := true
        position_size := q.executed_size
        entry_price := q.fill_price
        entry_index := fill_index
        -- a new position starts without a cooldown; `simulate_strategy` keeps the old one
        liquidation_cooldown_until := -1
        liquidation_step_index := 0 }
    (opened, equity_mark opened 0)

/-- The exit branch for a given execution. -/
def batch_exit (inp : BatchInput K) (s : SimState K) (q : FillQuote K) (mark : K) :
    SimState K × K :=
  if q.executed_size ≤ 1e-9 then (s, mark)
  else
    let closed := close_if_flat (exit_books inp.position_side s q (batch_fill_cost inp q))
    (closed, equity_mark closed 0)

/-- One iteration of the loop of `_simulate_single_python`. -/
def single_step (m : PyMath K) (inp : BatchInput K) (ctx : SlippageContext K) (s : SimState K)
    (index : ℕ) : SimState K × K :=
  let s := batch_accrue_funding inp s index
  let mark := batch_mark inp s index
  let fill_index := batch_fill_index inp index
  -- a liquidation takes precedence over the signals of its bar
  if single_liquidation_due inp s index then single_liquidate m inp ctx s index
  else if s.position_open = false ∧ inp.entry_signals.getD index false = true then
    batch_enter inp s fill_index
      (batch_execution_quote m inp ctx fill_index inp.position_leverage true) mark
  else if s.position_open = true ∧ inp.exit_signals.getD index false = true
      ∧ s.entry_index ≤ index then
    batch_exit inp s (batch_execution_quote m inp ctx fill_index s.position_size false) mark
  else (s, mark)

/-- The forced close of a position still open after the loop, at a given
slippage. -/
def batch_force_close (inp : BatchInput K) (s : SimState K) (exit_slippage_bps : K) :
    SimState K :=
  let fill_price := inp.close ((inp.bars : ℤ) - 1)
  let exit_cost := fill_price * s.position_size
    * ((inp.taker_fee_bps + exit_slippage_bps) / 10000)
  let trade_gross := price_delta fill_price s.entry_price inp.position_side * s.position_size
  count_win
    { s with
      fee_spend := s.fee_spend + exit_cost
      gross_pnl := s.gross_pnl + trade_gross
      trade_count := s.trade_count + 1 }
    (trade_gross - exit_cost)

/-- The books and the equity curve after the loop `done`: on a forced close the
last equity value is replaced. -/
def batch_close_out (inp : BatchInput K) (done : SimState K × List K) (exit_slippage_bps : K) :
    SimState K × List K :=
  if done.1.position_open then
    let final := batch_force_close inp done.1 exit_slippage_bps
    (final, done.2.set (inp.bars - 1) (equity_mark final 0))
  else done

/-- The loop and the forced close of `_simulate_single_python`. -/
def single_simulate_bars (m : PyMath K) (inp : BatchInput K) : SimState K × List K :=
  let ctx := prepare_slippage_context m inp
  let done := run (single_step m inp ctx) SimState.initial inp.bars
  batch_close_out inp done
    (resolve_batch_slippage_bps m ctx inp.model inp.slippage_bps
      (inp.close ((inp.bars : ℤ) - 1) * done.1.position_size) ((inp.bars : ℤ) - 1))

/-! ## The result -/

/-- `BatchSimResult`; `_simulate_single_python` returns a dict with the same
keys. -/
structure BatchSimResult (K : Type) where
  trade_count : ℕ
  winning_trades : ℕ
  gross_pnl : K
  fee_spend : K
  funding_spend : K
  net_pnl : K
  equity_curve : List K
  execution_pressure_summary : Option (PressureSummary K)
  deriving DecidableEq

/-- `BatchSimResult.win_rate`. -/
def BatchSimResult.win_rate (r : BatchSimResult K) : K :=
  if r.trade_count = 0 then 0 else (r.winning_trades : K) / (r.trade_count : K)

def simulate_single_python [FloorRing K] (m : PyMath K) (inp : BatchInput K) : BatchSimResult K :=
  let outcome := single_simulate_bars m inp
  let s := outcome.1
  { trade_count := s.trade_count
    winning_trades := s.winning_trades
    gross_pnl := s.gross_pnl
    fee_spend := s.fee_spend
    funding_spend := s.funding_spend
    net_pnl := s.gross_pnl - s.fee_spend - s.funding_spend
    equity_curve := outcome.2
    execution_pressure_summary := execution_pressure_summary (inp.model == "realistic") s }

/-! ## The step behaviour of a liquidation -/

/-- `_simulate_single_python` looks at the tier's own schedule or ratio. -/
def SingleReadsTier (settings : LiquidationSettings K) : Prop :=
  settings.liquidation_step_schedule = none ∧ settings.partial_liquidation_ratio = 1

/-- The explicit options decide unless the tier is looked at. -/
theorem single_step_behavior_explicit (inp : BatchInput K) (s : SimState K)
    (h : ¬SingleReadsTier inp.settings) :
    single_step_behavior inp s
      = (inp.settings.liquidation_step_schedule, inp.settings.partial_liquidation_ratio) := by
  -- one of the two options is set, which is all the source tests
  have hexplicit : (false || inp.settings.liquidation_step_schedule.isSome
      || decide (inp.settings.partial_liquidation_ratio ≠ 1)) = true := by
    unfold SingleReadsTier at h
    cases hs : inp.settings.liquidation_step_schedule with
    | none => simpa [hs] using h
    | some steps => rfl
  rw [single_step_behavior, resolve_liquidation_step_behavior_eq _ _ _ _ _ _ _ _
    fun hfull => absurd hfull Bool.false_ne_true, if_pos hexplicit]

/-- The tier decides when it is looked at. -/
theorem single_step_behavior_tier (inp : BatchInput K) (s : SimState K)
    (h : SingleReadsTier inp.settings) :
    single_step_behavior inp s
      = tier_step_behavior inp.position_leverage (position_notional s)
          inp.settings.partial_liquidation_ratio inp.settings.liquidation_step_schedule
          inp.settings.maintenance_margin_schedule := by
  obtain ⟨hschedule, hratio⟩ := h
  rw [single_step_behavior, resolve_liquidation_step_behavior_eq _ _ _ _ _ _ _ _
    fun hfull => absurd hfull Bool.false_ne_true, if_neg (by simp [hschedule, hratio])]

end ProofAlpha.Backtest
