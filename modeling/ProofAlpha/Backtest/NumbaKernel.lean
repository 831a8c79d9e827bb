/-
The JIT kernel of the batch simulator: `backtest/simulator_numba.py`,
`_simulate_core`, and the flat arrays and codes `simulate_strategy_batch` passes
to it.

The kernel has its own text for the tier lookup, the step schedules, the
slippage, the fill ratio and the adverse fill; those are written out here from
that text. What it shares line by line with `_simulate_single_python` (the
funding and mark of a bar, the bookkeeping of a liquidation, a fill and the
forced close) is taken from there.
-/
import ProofAlpha.Backtest.SimulatorNumba

set_option autoImplicit false

namespace ProofAlpha.Backtest

open ProofAlpha.Lib ProofAlpha.Lib.PyList ProofAlpha.Lib.IndexedLoop

variable {K : Type} [Field K] [LinearOrder K]

/-! ## The kernel's arguments -/

/-- The tier and schedule arrays. A limit that is `float("inf")` is `none`; row
`t` of `maintenance_tier_step_schedule` is tier `t`'s schedule, zero beyond its
length. -/
structure KernelTiers (K : Type) where
  explicit_liquidation_step_schedule : List K
  explicit_liquidation_step_schedule_len : ℕ
  maintenance_tier_max_leverage : List (Option K)
  maintenance_tier_max_notional : List (Option K)
  maintenance_tier_margin_ratio : List K
  maintenance_tier_partial_liquidation_ratio : List K
  maintenance_tier_step_schedule : List (List K)
  maintenance_tier_step_schedule_len : List ℕ
  liquidation_fee_tier_max_leverage : List (Option K)
  liquidation_fee_tier_max_notional : List (Option K)
  liquidation_fee_tier_bps : List K

/-- `_max_step_schedule_width`. -/
def max_step_schedule_width (explicit_schedule : List K)
    (maintenance_margin_schedule : List (Tier K (MarginRule K))) : ℕ :=
  max (maintenance_margin_schedule.foldl
    (fun width item => max width item.rule.liquidation_step_schedule.length)
    explicit_schedule.length) 1

/-- A row of `np.zeros(max_step_width)` with the schedule written into it. -/
def zero_padded (values : List K) (max_step_width : ℕ) : List K :=
  values ++ List.replicate (max_step_width - values.length) 0

/-- The arrays built from the sorted schedules. -/
def encode_tiers (settings : LiquidationSettings K) : KernelTiers K :=
  let sorted_maintenance_schedule := sort_tier_schedule settings.maintenance_margin_schedule
  let sorted_liquidation_fee_schedule := sort_tier_schedule settings.liquidation_fee_schedule
  let explicit := settings.liquidation_step_schedule.getD []
  let max_step_width := max_step_schedule_width explicit sorted_maintenance_schedule
  { explicit_liquidation_step_schedule := zero_padded explicit max_step_width
    explicit_liquidation_step_schedule_len := explicit.length
    maintenance_tier_max_leverage := sorted_maintenance_schedule.map Tier.max_leverage
    maintenance_tier_max_notional := sorted_maintenance_schedule.map Tier.max_notional
    maintenance_tier_margin_ratio :=
      sorted_maintenance_schedule.map fun item => item.rule.maintenance_margin_ratio
    maintenance_tier_partial_liquidation_ratio :=
      sorted_maintenance_schedule.map fun item => item.rule.partial_liquidation_ratio.getD 0
    maintenance_tier_step_schedule :=
      sorted_maintenance_schedule.map fun item =>
        zero_padded item.rule.liquidation_step_schedule max_step_width
    maintenance_tier_step_schedule_len :=
      sorted_maintenance_schedule.map fun item => item.rule.liquidation_step_schedule.length
    liquidation_fee_tier_max_leverage := sorted_liquidation_fee_schedule.map Tier.max_leverage
    liquidation_fee_tier_max_notional := sorted_liquidation_fee_schedule.map Tier.max_notional
    liquidation_fee_tier_bps := sorted_liquidation_fee_schedule.map Tier.rule }

/-- `slippage_model_code`: an unknown name is coded as the flat model. -/
def slippage_model_code (model : String) : ℕ :=
  if model = "realistic" then 2 else if model = "dynamic" then 1 else 0

/-! ## The kernel's own helpers -/

/-- `_resolve_slippage_bps_numba`. -/
def resolve_slippage_bps_numba (m : PyMath K) (ctx : SlippageContext K) (code : ℕ)
    (flat_slippage_bps trade_notional : K) (bar_index : ℤ) : K :=
  let roll_vol := item ctx.roll_vol bar_index 0
  let stressed := item ctx.oi_stressed bar_index false
  -- the codes are compared one by one, so code 0 takes in every unknown name
  if code = 0 then flat_slippage_bps
  else if code = 2 ∧ ctx.microstructure_available = true then
    let bid := item ctx.depth_bid_1bp_usd bar_index 0
    let ask := item ctx.depth_ask_1bp_usd bar_index 0
    let available_depth := if ask < bid then ask else bid
    -- written out by hand from `impact_cost_bps`, without its clamps of spread and latency
    let available_depth := if available_depth < 1e-9 then 1e-9 else available_depth
    let participation := |trade_notional| / available_depth
    let temp_bps := 0.10 * roll_vol * m.pow participation 0.50 * 10000
    let delay_bps := 0.01 * item ctx.latency_proxy_ms bar_index 0 * roll_vol
    let base_bps := item ctx.spread_bps bar_index 0 / 2 + temp_bps + delay_bps
    let base_bps := if 500 < base_bps then 500 else base_bps
    let total_bps := base_bps * ctx.cascade bar_index
    if 500 < total_bps then 500 else total_bps
  else
    let current_open_interest := item ctx.open_interest bar_index 0
    -- the fallback returns at once: the stress multiplier does not reach it
    if current_open_interest ≤ 0 then flat_slippage_bps
    else
      let participation := |trade_notional| / current_open_interest
      let base_bps := 0.1 * m.sqrt (max participation 0) * roll_vol * 10000
      let total_bps :=
        if stressed = true then base_bps * item ctx.regime_multiplier bar_index 1 else base_bps
      let total_bps := if 500 < total_bps then 500 else total_bps
      if total_bps < 0 then 0 else total_bps

/-- `_resolve_execution_fill_ratio_numba`. -/
def resolve_execution_fill_ratio_numba (ctx : SlippageContext K) (code : ℕ)
    (trade_notional : K) (bar_index : ℤ) : K :=
  if trade_notional ≤ 0 ∨ code ≠ 2 ∨ ctx.microstructure_available = false then 1
  else
    let bid := item ctx.depth_bid_1bp_usd bar_index 0
    let ask := item ctx.depth_ask_1bp_usd bar_index 0
    let available_depth := if ask < bid then ask else bid
    if available_depth ≤ 0 then 0
    else
      let depth_ratio := available_depth / max trade_notional 1e-9
      let cascade := ctx.cascade bar_index
      let depleted := item ctx.depth_depleted bar_index false
      -- deep enough and calm: filled completely
      if 2 ≤ depth_ratio ∧ cascade ≤ 1.25 ∧ depleted = false then 1
      else
        let fill_ratio := if 1 < depth_ratio then 1 else depth_ratio
        let fill_ratio := if 1 < cascade then fill_ratio / cascade else fill_ratio
        let fill_ratio :=
          if depleted = true ∧ depth_ratio < 1.5 then fill_ratio * 0.85 else fill_ratio
        if fill_ratio < 0.05 then 0.05 else if 1 < fill_ratio then 1 else fill_ratio

/-- `_resolve_adverse_fill_bps_numba`. -/
def resolve_adverse_fill_bps_numba (ctx : SlippageContext K) (code : ℕ)
    (effective_slippage_bps fill_ratio : K) (bar_index : ℤ) : K :=
  let stressed := item ctx.oi_stressed bar_index false
  let funding_z := item ctx.funding_z bar_index 0
  let liquidation_z := item ctx.liquidation_z bar_index 0
  let depleted := item ctx.depth_depleted bar_index false
  if code ≠ 2 ∨ effective_slippage_bps ≤ 0 then 0
  else
    let cascade := ctx.cascade bar_index
    let fill_shortfall := 1 - fill_ratio
    let fill_shortfall := if fill_shortfall < 0 then 0 else fill_shortfall
    if fill_shortfall < 1e-3 ∧ effective_slippage_bps < 25 then 0
    else
      let stress_pressure := fill_shortfall
      let stress_pressure :=
        if depleted = true ∧ stress_pressure < 0.10 then 0.10 else stress_pressure
      let stress_pressure := if stressed then stress_pressure + 0.05 else stress_pressure
      let stress_pressure := if 2 < |funding_z| then stress_pressure + 0.05 else stress_pressure
      let stress_pressure := if 2 < liquidation_z then stress_pressure + 0.05 else stress_pressure
      if cascade ≤ 1 ∧ stress_pressure < 0.10 then 0
      else
        let stress_pressure := if 0.90 < stress_pressure then 0.90 else stress_pressure
        let adverse_bps := effective_slippage_bps * (0.20 + stress_pressure)
        -- the factor is computed in any case and used only above 1
        let cascade_factor := if 1.50 < cascade / 1.25 then 1.50 else cascade / 1.25
        let adverse_bps := if 1 < cascade then adverse_bps * cascade_factor else adverse_bps
        let adverse_bps := if adverse_bps < 0 then 0 else adverse_bps
        if 150 < adverse_bps then 150 else adverse_bps

/-- The kernel's tier loop: the first tier whose limits hold, the last one when
none does, and `none` (the kernel's `-1`) when there is no tier. -/
def select_tier (max_leverage max_notional : List (Option K)) (tier_count : ℕ)
    (position_leverage position_notional : K) : Option ℕ :=
  if tier_count = 0 then none
  else
    some (((List.range tier_count).find? fun tier_index =>
      limit_le (some position_leverage) (max_leverage.getD tier_index none)
        && limit_le (some position_notional) (max_notional.getD tier_index none)).getD
      (tier_count - 1))

/-! ## The kernel's bar loop -/

/-- `selected_maintenance_tier`. -/
def core_maintenance_tier (inp : BatchInput K) (tiers : KernelTiers K) (s : SimState K) :
    Option ℕ :=
  select_tier tiers.maintenance_tier_max_leverage tiers.maintenance_tier_max_notional
    tiers.maintenance_tier_margin_ratio.length inp.position_leverage (position_notional s)

/-- `liq_price`. -/
def core_liquidation_price (inp : BatchInput K) (tiers : KernelTiers K) (s : SimState K) : K :=
  batch_liquidation_price inp s.entry_price
    (match core_maintenance_tier inp tiers s with
    | some tier => tiers.maintenance_tier_margin_ratio.getD tier 0
    | none => inp.settings.maintenance_margin_ratio)

/-- The condition of the kernel's liquidation branch. -/
def core_liquidation_due (inp : BatchInput K) (tiers : KernelTiers K) (s : SimState K)
    (index : ℕ) : Bool :=
  (s.position_open
      && liquidation_triggered (batch_trigger_price inp index) (core_liquidation_price inp tiers s)
        inp.position_side)
    && decide (s.entry_index < index) && decide (s.liquidation_cooldown_until < index)

/-- `liquidation_ratio`: a tier's schedule or ratio is looked at only when the
explicit schedule is empty, the ratio is `1.0` and there is no cooldown. -/
def core_liquidation_ratio (inp : BatchInput K) (tiers : KernelTiers K) (s : SimState K) : K :=
  let explicit_len := tiers.explicit_liquidation_step_schedule_len
  let ratio := inp.settings.partial_liquidation_ratio
  let clamp := fun len : ℕ => if len ≤ s.liquidation_step_index then len - 1
    else s.liquidation_step_index
  -- an explicit schedule is never overridden by a tier
  if 0 < explicit_len then tiers.explicit_liquidation_step_schedule.getD (clamp explicit_len) 0
  else if ratio = 1 ∧ inp.settings.liquidation_cooldown_bars = 0 then
    match core_maintenance_tier inp tiers s with
    | none => ratio
    | some tier =>
        let tier_schedule_len := tiers.maintenance_tier_step_schedule_len.getD tier 0
        if 0 < tier_schedule_len then
          (tiers.maintenance_tier_step_schedule.getD tier []).getD (clamp tier_schedule_len) 0
        else
          let tier_partial_ratio := tiers.maintenance_tier_partial_liquidation_ratio.getD tier 0
          -- a tier without a ratio is coded as 0
          if 0 < tier_partial_ratio then tier_partial_ratio else ratio
  else ratio

/-- `effective_liquidation_fee_bps`. -/
def core_liquidation_fee_bps (inp : BatchInput K) (tiers : KernelTiers K) (s : SimState K) : K :=
  match select_tier tiers.liquidation_fee_tier_max_leverage
      tiers.liquidation_fee_tier_max_notional tiers.liquidation_fee_tier_bps.length
      inp.position_leverage (position_notional s) with
  | some tier => tiers.liquidation_fee_tier_bps.getD tier 0
  | none => inp.settings.liquidation_fee_bps

/-- The kernel's liquidation branch. -/
def core_liquidate (m : PyMath K) (inp : BatchInput K) (tiers : KernelTiers K)
    (ctx : SlippageContext K) (s : SimState K) (index : ℕ) : SimState K × K :=
  let price := core_liquidation_price inp tiers s
  let ratio := core_liquidation_ratio inp tiers s
  batch_liquidate inp s index price ratio
    (resolve_slippage_bps_numba m ctx (slippage_model_code inp.model) inp.slippage_bps
      (price * (s.position_size * ratio)) index)
    (core_liquidation_fee_bps inp tiers s)

/-- `fill_index`. -/
def core_fill_index (inp : BatchInput K) (index : ℕ) : ℤ :=
  if (inp.bars : ℤ) ≤ (index : ℤ) + inp.latency_bars then (inp.bars : ℤ) - 1
  else (index : ℤ) + inp.latency_bars

/-- The execution of an order: the kernel keeps the executed size and recomputes
the fill ratio from it. -/
def core_execution_quote (m : PyMath K) (inp : BatchInput K) (ctx : SlippageContext K)
    (fill_index : ℤ) (requested_size : K) (is_entry : Bool) : FillQuote K :=
  let code := slippage_model_code inp.model
  let reference_fill_price := inp.close fill_index
  let executed_size := requested_size
    * resolve_execution_fill_ratio_numba ctx code (reference_fill_price * requested_size) fill_index
  -- an order for nothing has no ratio to recompute
  let fill_ratio := if 1e-9 < requested_size then executed_size / requested_size else 0
  let slippage_bps := resolve_slippage_bps_numba m ctx code inp.slippage_bps
    (reference_fill_price * executed_size) fill_index
  let adverse_fill_bps := resolve_adverse_fill_bps_numba ctx code slippage_bps fill_ratio fill_index
  let adverse_multiplier := adverse_fill_bps / 10000
  { fill_ratio := fill_ratio
    executed_size := executed_size
    slippage_bps := slippage_bps
    adverse_fill_bps := adverse_fill_bps
    fill_price :=
      if 0 < adverse_fill_bps then
        match inp.position_side, is_entry with
        | .short, true | .long, false => reference_fill_price * (1 - adverse_multiplier)
        | .long, true | .short, false => reference_fill_price * (1 + adverse_multiplier)
      else reference_fill_price }

/-- One iteration of the loop of `_simulate_core`. -/
def core_step (m : PyMath K) (inp : BatchInput K) (tiers : KernelTiers K)
    (ctx : SlippageContext K) (s : SimState K) (index : ℕ) : SimState K × K :=
  let s := batch_accrue_funding inp s index
  let mark := batch_mark inp s index
  let fill_index := core_fill_index inp index
  if core_liquidation_due inp tiers s index then core_liquidate m inp tiers ctx s index
  else if s.position_open = false ∧ inp.entry_signals.getD index false = true then
    batch_enter inp s fill_index
      (core_execution_quote m inp ctx fill_index inp.position_leverage true) mark
  else if s.position_open = true ∧ inp.exit_signals.getD index false = true
      ∧ s.entry_index ≤ index then
    batch_exit inp s (core_execution_quote m inp ctx fill_index s.position_size false) mark
  else (s, mark)

/-- The loop and the forced close of `_simulate_core`. -/
def core_simulate_bars (m : PyMath K) (inp : BatchInput K) : SimState K × List K :=
  let ctx := prepare_slippage_context m inp
  let done := run (core_step m inp (encode_tiers inp.settings) ctx) SimState.initial inp.bars
  batch_close_out inp done
    (resolve_slippage_bps_numba m ctx (slippage_model_code inp.model) inp.slippage_bps
      (inp.close ((inp.bars : ℤ) - 1) * done.1.position_size) ((inp.bars : ℤ) - 1))

/-! ## The kernel's result -/

/-- The 13 values `_simulate_core` returns. -/
structure KernelResult (K : Type) where
  trade_count : ℕ
  winning_trades : ℕ
  gross_pnl : K
  fee_spend : K
  funding_spend : K
  equity_curve : List K
  fill_event_count : ℕ
  partial_fill_event_count : ℕ
  average_fill_ratio : K
  min_fill_ratio : K
  adverse_fill_event_count : ℕ
  average_adverse_fill_bps : K
  max_adverse_fill_bps : K

def simulate_core (m : PyMath K) (inp : BatchInput K) : KernelResult K :=
  let outcome := core_simulate_bars m inp
  let s := outcome.1
  let code := slippage_model_code inp.model
  { trade_count := s.trade_count
    winning_trades := s.winning_trades
    gross_pnl := s.gross_pnl
    fee_spend := s.fee_spend
    funding_spend := s.funding_spend
    equity_curve := outcome.2
    fill_event_count := s.fill_event_count
    partial_fill_event_count := s.partial_fill_event_count
    average_fill_ratio :=
      if code = 2 ∧ 0 < s.fill_event_count then s.fill_ratio_sum / (s.fill_event_count : K) else 0
    min_fill_ratio := if code = 2 ∧ 0 < s.fill_event_count then s.min_fill_ratio else 0
    adverse_fill_event_count := s.adverse_fill_event_count
    average_adverse_fill_bps :=
      if code = 2 ∧ 0 < s.adverse_fill_event_count then
        s.adverse_fill_bps_sum / (s.adverse_fill_event_count : K)
      else 0
    max_adverse_fill_bps := s.max_adverse_fill_bps }

/-- The `BatchSimResult` that `simulate_strategy_batch` builds for one parameter
set from the kernel's tuple. -/
def simulate_strategy_batch [FloorRing K] (m : PyMath K) (inp : BatchInput K) :
    BatchSimResult K :=
  let r := simulate_core m inp
  { trade_count := r.trade_count
    winning_trades := r.winning_trades
    gross_pnl := r.gross_pnl
    fee_spend := r.fee_spend
    funding_spend := r.funding_spend
    net_pnl := r.gross_pnl - r.fee_spend - r.funding_spend
    equity_curve := r.equity_curve
    execution_pressure_summary :=
      if slippage_model_code inp.model = 2 ∧ 0 < r.fill_event_count then
        some
          { fill_event_count := r.fill_event_count
            partial_fill_event_count := r.partial_fill_event_count
            average_fill_ratio := pyRound r.average_fill_ratio 6
            min_fill_ratio := pyRound r.min_fill_ratio 6
            adverse :=
              if 0 < r.adverse_fill_event_count then
                some
                  { adverse_fill_event_count := r.adverse_fill_event_count
                    average_adverse_fill_bps := pyRound r.average_adverse_fill_bps 6
                    max_adverse_fill_bps := pyRound r.max_adverse_fill_bps 6 }
              else none }
      else none }

end ProofAlpha.Backtest
