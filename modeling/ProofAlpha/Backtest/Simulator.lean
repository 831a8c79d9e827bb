/-
The reference simulator: `backtest/simulator.py`, `simulate_strategy`.

An argument that defaults to `_UNSET` is `none` when omitted. The function is
split where the source's own comments split it: the defaults
(`resolve_liquidation_defaults`), the argument checks (`check_arguments`), the
precomputed series (`prepare_sim_context`), the bar loop (`bar_step`, run by
`IndexedLoop.run`) and the forced close at the last bar (`force_close`). A bar is
itself four phases: funding, liquidation, entry and exit.
-/
import ProofAlpha.Lib.Checks
import ProofAlpha.Lib.IndexedLoop
import ProofAlpha.Backtest.Drawdown
import ProofAlpha.Backtest.SimState
import ProofAlpha.Backtest.Snapshot

set_option autoImplicit false

namespace ProofAlpha.Backtest

open ProofAlpha.Lib ProofAlpha.Lib.PyList ProofAlpha.Lib.IndexedLoop

variable {K : Type} [Field K] [LinearOrder K]

/-! ## Arguments -/

/-- The arguments of `simulate_strategy` besides the snapshot. The outer `none`
is `_UNSET`; `liquidation_step_schedule` may also be given as `None`. -/
structure SimArguments (K : Type) where
  entry_signals : List Bool
  exit_signals : List Bool
  slippage_bps : K
  latency_bars : ℤ
  position_side : String
  position_leverage : K
  maintenance_margin_ratio : Option K
  liquidation_fee_bps : Option K
  liquidation_mark_price_weight : Option K
  partial_liquidation_ratio : Option K
  liquidation_cooldown_bars : Option ℤ
  liquidation_step_schedule : Option (Option (List K))
  liquidation_mark_premium_bps : Option K
  maintenance_margin_schedule : Option (List (MaintenanceItem K))
  liquidation_fee_schedule : Option (List (FeeItem K))
  slippage_model : String

/-- `_resolve_liquidation_style`: whether the style is `"partial"`. -/
def liquidation_style_is_partial (snapshot : DataSnapshot K) (args : SimArguments K) : Bool :=
  let explicit_partial_ratio :=
    match args.partial_liquidation_ratio with
    | some ratio => decide (ratio < 1)
    | none => false
  let explicit_partial_schedule :=
    match args.liquidation_step_schedule with
    | some (some schedule) => schedule.any fun value => decide (value < 1)
    | _ => false
  -- an explicit partial option wins over the profile
  if explicit_partial_ratio || explicit_partial_schedule then true
  else
    match snapshot.venue_profile with
    | none => false
    | some profile => pyLower (pyStrip profile.liquidation_style) == "partial"

/-- The nine values `_resolve_liquidation_defaults` returns, the schedules still
as dict items. -/
structure ResolvedDefaults (K : Type) where
  maintenance_margin_ratio : K
  liquidation_fee_bps : K
  liquidation_mark_price_weight : K
  partial_liquidation_ratio : K
  liquidation_cooldown_bars : ℤ
  liquidation_step_schedule : Option (List K)
  liquidation_mark_premium_bps : K
  maintenance_margin_schedule : List (MaintenanceItem K)
  liquidation_fee_schedule : List (FeeItem K)

/-- An argument, else the venue profile's value, else the module default. -/
def unset_or {α : Type} (argument : Option α) (profile_value : Option α) (default : α) : α :=
  argument.getD (profile_value.getD default)

def resolve_liquidation_defaults (snapshot : DataSnapshot K) (args : SimArguments K) :
    ResolvedDefaults K :=
  let profile := snapshot.venue_profile
  let full := ! liquidation_style_is_partial snapshot args
  { maintenance_margin_ratio := args.maintenance_margin_ratio.getD 0.01
    liquidation_fee_bps := args.liquidation_fee_bps.getD 0
    liquidation_mark_price_weight :=
      unset_or args.liquidation_mark_price_weight
        (profile.map VenueProfile.liquidation_mark_price_weight) 0
    partial_liquidation_ratio :=
      -- style "full": whatever ratio and schedule are given, all is liquidated at once
      if full then 1
      else
        unset_or args.partial_liquidation_ratio
          (profile.map VenueProfile.partial_liquidation_ratio) 1
    liquidation_cooldown_bars :=
      unset_or args.liquidation_cooldown_bars
        (profile.map VenueProfile.liquidation_cooldown_bars) 0
    liquidation_step_schedule :=
      if full then none else args.liquidation_step_schedule.getD none
    liquidation_mark_premium_bps :=
      unset_or args.liquidation_mark_premium_bps
        (profile.map VenueProfile.liquidation_mark_premium_bps) 0
    maintenance_margin_schedule :=
      unset_or args.maintenance_margin_schedule
        (profile.map VenueProfile.maintenance_margin_schedule) []
    liquidation_fee_schedule :=
      unset_or args.liquidation_fee_schedule
        (profile.map VenueProfile.liquidation_fee_schedule) [] }

/-! ## Argument checks -/

/-- A given limit must be positive. -/
def positive_limit (limit : Option K) : Bool :=
  match limit with
  | some value => decide (0 < value)
  | none => true

/-- The checks made on one `maintenance_margin_schedule` item; the tier it is
read as. -/
def check_maintenance_item (item : MaintenanceItem K) : Except String (Tier K (MarginRule K)) :=
  match item.maintenance_margin_ratio with
  | none => .error "maintenance_margin_schedule items must include maintenance_margin_ratio"
  | some ratio => do
      require (item.max_leverage.isSome || item.max_notional.isSome)
        "maintenance_margin_schedule items must include max_leverage or max_notional"
      require (positive_limit item.max_leverage)
        "maintenance_margin_schedule max_leverage must be positive"
      require (positive_limit item.max_notional)
        "maintenance_margin_schedule max_notional must be positive"
      require (decide (0 ≤ ratio ∧ ratio < 1))
        "maintenance_margin_schedule maintenance_margin_ratio must be between 0.0 and 1.0"
      require (item.liquidation_step_schedule.all fun value => decide (IsStepRatio value))
        "maintenance_margin_schedule liquidation_step_schedule values must be between 0.0 and 1.0"
      require (item.partial_liquidation_ratio.all fun value => decide (IsStepRatio value))
        "maintenance_margin_schedule partial_liquidation_ratio must be between 0.0 and 1.0"
      return ⟨item.max_leverage, item.max_notional,
        ⟨ratio, item.liquidation_step_schedule, item.partial_liquidation_ratio⟩⟩

/-- The checks made on one `liquidation_fee_schedule` item; the tier it is read
as. -/
def check_fee_item (item : FeeItem K) : Except String (Tier K K) :=
  match item.liquidation_fee_bps with
  | none => .error "liquidation_fee_schedule items must include liquidation_fee_bps"
  | some fee_bps => do
      require (item.max_leverage.isSome || item.max_notional.isSome)
        "liquidation_fee_schedule items must include max_leverage or max_notional"
      require (positive_limit item.max_leverage)
        "liquidation_fee_schedule max_leverage must be positive"
      require (positive_limit item.max_notional)
        "liquidation_fee_schedule max_notional must be positive"
      require (decide (0 ≤ fee_bps))
        "liquidation_fee_schedule liquidation_fee_bps must be non-negative"
      return ⟨item.max_leverage, item.max_notional, fee_bps⟩

/-- The check on `position_side`; the side it names. -/
def check_position_side (position_side : String) : Except String PositionSide :=
  if position_side = "long" then .ok .long
  else if position_side = "short" then .ok .short
  else .error "position_side must be 'long' or 'short'"

/-- The checks of `simulate_strategy` on its options, in order; the side and the
settings the loop runs with. -/
def check_options (snapshot : DataSnapshot K) (args : SimArguments K) :
    Except String (PositionSide × LiquidationSettings K) :=
  let r := resolve_liquidation_defaults snapshot args
  do
    require (decide (0 ≤ args.latency_bars)) "latency_bars must be non-negative"
    let side ← check_position_side args.position_side
    require (decide (1 ≤ args.position_leverage)) "position_leverage must be at least 1.0"
    require (decide (0 ≤ r.maintenance_margin_ratio ∧ r.maintenance_margin_ratio < 1))
      "maintenance_margin_ratio must be between 0.0 and 1.0"
    require (decide (0 ≤ r.liquidation_fee_bps)) "liquidation_fee_bps must be non-negative"
    require (decide (0 ≤ r.liquidation_mark_price_weight ∧ r.liquidation_mark_price_weight ≤ 1))
      "liquidation_mark_price_weight must be between 0.0 and 1.0"
    require (decide (0 < r.partial_liquidation_ratio ∧ r.partial_liquidation_ratio ≤ 1))
      "partial_liquidation_ratio must be between 0.0 and 1.0"
    require (decide (0 ≤ r.liquidation_cooldown_bars))
      "liquidation_cooldown_bars must be non-negative"
    require ((r.liquidation_step_schedule.getD []).all fun value => decide (IsStepRatio value))
      "liquidation_step_schedule values must be between 0.0 and 1.0"
    require (decide (0 ≤ r.liquidation_mark_premium_bps))
      "liquidation_mark_premium_bps must be non-negative"
    -- the schedules are checked last, item by item
    let maintenance_margin_schedule ← r.maintenance_margin_schedule.mapM check_maintenance_item
    let liquidation_fee_schedule ← r.liquidation_fee_schedule.mapM check_fee_item
    return (side,
      { maintenance_margin_ratio := r.maintenance_margin_ratio
        liquidation_fee_bps := r.liquidation_fee_bps
        liquidation_mark_price_weight := r.liquidation_mark_price_weight
        liquidation_mark_premium_bps := r.liquidation_mark_premium_bps
        partial_liquidation_ratio := r.partial_liquidation_ratio
        liquidation_cooldown_bars := r.liquidation_cooldown_bars
        liquidation_step_schedule := r.liquidation_step_schedule
        maintenance_margin_schedule := maintenance_margin_schedule
        liquidation_fee_schedule := liquidation_fee_schedule })

/-- All the argument checks: the lengths come first. -/
def check_arguments (snapshot : DataSnapshot K) (args : SimArguments K) :
    Except String (PositionSide × LiquidationSettings K) := do
  require (snapshot.candles.length = args.entry_signals.length
      ∧ args.entry_signals.length = args.exit_signals.length)
    "snapshot and signals must have equal lengths"
  check_options snapshot args

/-- The checked maintenance tier holds fractions and step ratios. -/
theorem check_maintenance_item_ok {item : MaintenanceItem K} {tier : Tier K (MarginRule K)}
    (h : check_maintenance_item item = .ok tier) :
    (0 ≤ tier.rule.maintenance_margin_ratio ∧ tier.rule.maintenance_margin_ratio < 1)
      ∧ (∀ value ∈ tier.rule.liquidation_step_schedule, IsStepRatio value)
      ∧ ∀ ratio, tier.rule.partial_liquidation_ratio = some ratio → IsStepRatio ratio := by
  unfold check_maintenance_item at h
  cases hratio : item.maintenance_margin_ratio with
  | none =>
      rw [hratio] at h
      cases h
  | some ratio =>
      rw [hratio] at h
      obtain ⟨-, h⟩ := require_bind_ok h
      obtain ⟨-, h⟩ := require_bind_ok h
      obtain ⟨-, h⟩ := require_bind_ok h
      obtain ⟨hmargin, h⟩ := require_bind_ok h
      obtain ⟨hsteps, h⟩ := require_bind_ok h
      obtain ⟨hown, h⟩ := require_bind_ok h
      cases h
      refine ⟨of_decide_eq_true hmargin, ?_, ?_⟩
      · intro value hvalue
        exact of_decide_eq_true (List.all_eq_true.mp hsteps value hvalue)
      · intro tier_ratio htier
        have hitem : item.partial_liquidation_ratio = some tier_ratio := htier
        rw [hitem] at hown
        exact of_decide_eq_true hown

/-- What is known once every argument check has passed. -/
theorem check_arguments_ok {snapshot : DataSnapshot K} {args : SimArguments K}
    {side : PositionSide} {settings : LiquidationSettings K}
    (h : check_arguments snapshot args = .ok (side, settings)) :
    1 ≤ args.position_leverage ∧ 0 ≤ args.latency_bars ∧ settings.Valid
      ∧ settings.partial_liquidation_ratio
        = (resolve_liquidation_defaults snapshot args).partial_liquidation_ratio
      ∧ settings.liquidation_step_schedule
        = (resolve_liquidation_defaults snapshot args).liquidation_step_schedule := by
  unfold check_arguments at h
  obtain ⟨-, h⟩ := require_bind_ok h
  unfold check_options at h
  obtain ⟨hlatency, h⟩ := require_bind_ok h
  obtain ⟨checked_side, -, h⟩ := bind_ok h
  obtain ⟨hleverage, h⟩ := require_bind_ok h
  obtain ⟨hmargin, h⟩ := require_bind_ok h
  obtain ⟨-, h⟩ := require_bind_ok h
  obtain ⟨-, h⟩ := require_bind_ok h
  obtain ⟨hratio, h⟩ := require_bind_ok h
  obtain ⟨-, h⟩ := require_bind_ok h
  obtain ⟨hsteps, h⟩ := require_bind_ok h
  obtain ⟨-, h⟩ := require_bind_ok h
  obtain ⟨tiers, htiers, h⟩ := bind_ok h
  obtain ⟨fee_tiers, -, h⟩ := bind_ok h
  cases h
  -- every tier has passed the checks of its item
  have hchecked := forall_of_mapM_ok (fun item tier => check_maintenance_item_ok) htiers
  refine ⟨of_decide_eq_true hleverage, of_decide_eq_true hlatency, ?_, rfl, rfl⟩
  exact
    { margin := of_decide_eq_true hmargin
      ratio := of_decide_eq_true hratio
      steps := fun value hvalue => of_decide_eq_true (List.all_eq_true.mp hsteps value hvalue)
      tier_margin := fun tier htier => (hchecked tier htier).1
      tier_steps := fun tier htier => (hchecked tier htier).2.1
      tier_ratio := fun tier htier => (hchecked tier htier).2.2 }

/-! ## Precomputed series -/

/-- The auxiliary arrays of the dynamic and realistic slippage models; all empty
under the flat model, but for `open_interest` and `microstructure`, which are
read off the snapshot in any case. -/
structure SimContext (K : Type) where
  open_interest : List K
  roll_vol : List K
  oi_stressed : List Bool
  regime_labels : List RegimeLabel
  funding_z : List K
  liquidation_z : List K
  depth_depleted : List Bool
  microstructure : Option (Microstructure K)

/-- `depth_series`: the thinner side of the book on each bar. -/
def depth_series (micro : Microstructure K) (length : ℕ) : List K :=
  (List.range length).map fun i =>
    min (micro.depth_bid_1bp_usd.getD i 0) (micro.depth_ask_1bp_usd.getD i 0)

def prepare_sim_context (m : PyMath K) (snapshot : DataSnapshot K)
    (use_dynamic_slippage use_realistic_slippage : Bool) : SimContext K :=
  let n := snapshot.candles.length
  let microstructure := load_microstructure_series snapshot n
  if use_dynamic_slippage || use_realistic_slippage then
    let oi_series := pad_series snapshot.open_interest n 0
    let funding_series := pad_series snapshot.funding_rates n 0
    let liquidation_series := pad_series snapshot.liquidation_notional n 0
    { open_interest := snapshot.open_interest
      roll_vol := compute_roll_vol_series m snapshot.closes
      -- percentiles and labels are taken over the whole series, later bars included
      oi_stressed := (List.range n).map fun i =>
        compute_oi_stress_flag oi_series (oi_series.getD i 0)
      regime_labels := label_snapshot_regimes snapshot
      funding_z := compute_abs_zscores m funding_series
      liquidation_z := compute_abs_zscores m liquidation_series
      depth_depleted :=
        match microstructure with
        | some micro => compute_low_percentile_flags (depth_series micro n) 10
        | none => List.replicate n false
      microstructure := microstructure }
  else
    { open_interest := snapshot.open_interest
      roll_vol := []
      oi_stressed := []
      regime_labels := []
      funding_z := []
      liquidation_z := []
      depth_depleted := []
      microstructure := microstructure }

/-- Everything the bar loop reads: the checked arguments, the snapshot's series
and the precomputed context. -/
structure SimConfig (K : Type) where
  candles : List (Candle K)
  funding_rates : List K
  funding_event_counts : List ℤ
  entry_signals : List Bool
  exit_signals : List Bool
  taker_fee_bps : K
  slippage_bps : K
  latency_bars : ℤ
  position_side : PositionSide
  position_leverage : K
  settings : LiquidationSettings K
  profile_forces_full_liquidation : Bool
  explicit_partial_liquidation_ratio : Bool
  explicit_liquidation_step_schedule : Bool
  use_dynamic_slippage : Bool
  use_realistic_slippage : Bool
  context : SimContext K

/-- `len(candles)`. -/
def SimConfig.bars (cfg : SimConfig K) : ℕ := cfg.candles.length

/-- `candles[index]`. -/
def SimConfig.candle (cfg : SimConfig K) (index : ℤ) : Candle K :=
  item cfg.candles index Candle.missing

/-! ## Pricing -/

/-- `_resolve_slippage_bps`. -/
def resolve_slippage_bps (m : PyMath K) (cfg : SimConfig K) (trade_notional : K)
    (bar_index : ℤ) : K :=
  let ctx := cfg.context
  match cfg.use_realistic_slippage, ctx.microstructure with
  | true, some micro =>
      let available_depth :=
        min (item micro.depth_bid_1bp_usd bar_index 0) (item micro.depth_ask_1bp_usd bar_index 0)
      -- the 500 bps cap comes after the cascade multiplier
      let base_bps := impact_cost_bps m trade_notional available_depth
        (item ctx.roll_vol bar_index 0) (item micro.spread_bps bar_index 0)
        (item micro.latency_proxy_ms bar_index 0) realistic_slippage_coeff
      min 500 (base_bps * cascade_multiplier (item ctx.oi_stressed bar_index false)
        (item ctx.funding_z bar_index 0) (item ctx.liquidation_z bar_index 0)
        (item ctx.depth_depleted bar_index false))
  | _, _ =>
      if cfg.use_dynamic_slippage || cfg.use_realistic_slippage then
        compute_dynamic_slippage m trade_notional (item ctx.roll_vol bar_index 0)
          (item ctx.open_interest bar_index 0) (item ctx.oi_stressed bar_index false)
          (item ctx.regime_labels bar_index .other) cfg.slippage_bps
      else cfg.slippage_bps

/-- `_resolve_execution_fill_ratio`. -/
def resolve_execution_fill_ratio (cfg : SimConfig K) (trade_notional : K) (bar_index : ℤ) : K :=
  let ctx := cfg.context
  match cfg.use_realistic_slippage, ctx.microstructure with
  | true, some micro =>
      if trade_notional ≤ 0 then 1
      else
        let available_depth :=
          min (item micro.depth_bid_1bp_usd bar_index 0) (item micro.depth_ask_1bp_usd bar_index 0)
        let depth_depleted := item ctx.depth_depleted bar_index false
        let cascade := cascade_multiplier (item ctx.oi_stressed bar_index false)
          (item ctx.funding_z bar_index 0) (item ctx.liquidation_z bar_index 0) depth_depleted
        depth_fill_ratio trade_notional available_depth cascade depth_depleted
  -- without microstructure every order fills completely
  | _, _ => 1

/-- The execution of an order for `requested_size` at bar `fill_index`, as the
entry and the exit branch both compute it. -/
def execution_quote (m : PyMath K) (cfg : SimConfig K) (fill_index : ℤ) (requested_size : K)
    (is_entry : Bool) : FillQuote K :=
  let ctx := cfg.context
  let reference_fill_price := (cfg.candle fill_index).close
  let fill_ratio :=
    resolve_execution_fill_ratio cfg (reference_fill_price * requested_size) fill_index
  let executed_size := requested_size * fill_ratio
  let eff_slippage_bps :=
    resolve_slippage_bps m cfg (reference_fill_price * executed_size) fill_index
  let adverse_fill_bps := resolve_execution_adverse_fill_bps eff_slippage_bps fill_ratio
    cfg.use_realistic_slippage (item ctx.oi_stressed fill_index false)
    (item ctx.funding_z fill_index 0) (item ctx.liquidation_z fill_index 0)
    (item ctx.depth_depleted fill_index false)
  { fill_ratio := fill_ratio
    executed_size := executed_size
    slippage_bps := eff_slippage_bps
    adverse_fill_bps := adverse_fill_bps
    fill_price := apply_adverse_fill_price reference_fill_price cfg.position_side is_entry
      adverse_fill_bps }

/-- Without the realistic model every order fills completely. -/
theorem resolve_execution_fill_ratio_unrealistic {cfg : SimConfig K}
    (h : cfg.use_realistic_slippage = false) (trade_notional : K) (bar_index : ℤ) :
    resolve_execution_fill_ratio cfg trade_notional bar_index = 1 := by
  unfold resolve_execution_fill_ratio
  rw [h]

/-- The fill is then a full one at the close of its bar, only its cost is left to price. -/
theorem execution_quote_unrealistic (m : PyMath K) {cfg : SimConfig K}
    (h : cfg.use_realistic_slippage = false) (bar : ℤ) (size : K) (is_entry : Bool) :
    execution_quote m cfg bar size is_entry
      = { fill_ratio := 1
          executed_size := size
          slippage_bps := resolve_slippage_bps m cfg ((cfg.candle bar).close * size) bar
          adverse_fill_bps := 0
          fill_price := (cfg.candle bar).close } := by
  unfold execution_quote
  simp only [resolve_execution_fill_ratio_unrealistic h, mul_one, h,
    resolve_execution_adverse_fill_bps, apply_adverse_fill_price, true_or, if_true, le_refl]

/-- The cost of a fill: an adverse fill price already embeds the slippage, so
only the fee is charged on top of it. -/
def fill_cost (cfg : SimConfig K) (q : FillQuote K) : K :=
  let residual_slippage_bps := if 0 < q.adverse_fill_bps then 0 else q.slippage_bps
  apply_trade_cost (q.fill_price * q.executed_size) cfg.taker_fee_bps residual_slippage_bps

/-! ## The bar loop -/

/-- A line of `liquidation_events`, its numbers before formatting. -/
structure LiquidationEvent (K : Type) where
  timestamp : ℤ
  liquidation_price : K
  trigger : K
  size : K
  deriving DecidableEq

/-- What a bar appends: its equity value, and the liquidation if there was one. -/
structure BarOutput (K : Type) where
  equity : K
  liquidation : Option (LiquidationEvent K)

/-- `current_bar_funding` added to the books while a position is open. -/
def accrue_funding (cfg : SimConfig K) (s : SimState K) (index : ℕ) : SimState K :=
  if s.position_open then
    { s with
      funding_spend := s.funding_spend
        + apply_funding ((cfg.candle index).close * s.position_size)
            (cfg.funding_rates.getD index 0) cfg.position_side
          * (cfg.funding_event_counts.getD index 0 : K) }
  else s

/-- The funding of a bar moves nothing but `funding_spend`. -/
theorem accrue_funding_frame (cfg : SimConfig K) (s : SimState K) (index : ℕ) :
    ∃ funding, accrue_funding cfg s index = { s with funding_spend := funding } := by
  unfold accrue_funding
  split_ifs
  · exact ⟨_, rfl⟩
  · exact ⟨s.funding_spend, rfl⟩

/-- A bar without a position charges nothing. -/
theorem accrue_funding_closed (cfg : SimConfig K) {s : SimState K}
    (hclosed : s.position_open = false) (index : ℕ) : accrue_funding cfg s index = s := by
  unfold accrue_funding
  rw [hclosed]
  rfl

/-- `mark_to_market` after the funding of the bar. -/
def mark_to_market (cfg : SimConfig K) (s : SimState K) (index : ℕ) : K :=
  equity_mark s (if s.position_open then
    unrealized_pnl (cfg.candle index).close cfg.position_side s else 0)

/-- The liquidation price of the open position. -/
def position_liquidation_price (cfg : SimConfig K) (s : SimState K) : K :=
  liquidation_price s.entry_price cfg.position_side cfg.position_leverage
    (resolve_maintenance_margin_ratio cfg.position_leverage (position_notional s)
      cfg.settings.maintenance_margin_ratio cfg.settings.maintenance_margin_schedule)

/-- The price the liquidation price is compared with on bar `index`. -/
def bar_trigger_price (cfg : SimConfig K) (index : ℕ) : K :=
  let candle := cfg.candle index
  liquidation_trigger_price candle.high candle.low candle.close cfg.position_side
    cfg.settings.liquidation_mark_price_weight cfg.settings.liquidation_mark_premium_bps

/-- The trigger price of bar `index` has crossed the position's liquidation
price. -/
def triggered_at (cfg : SimConfig K) (s : SimState K) (index : ℕ) : Bool :=
  s.position_open
    && liquidation_triggered (bar_trigger_price cfg index) (position_liquidation_price cfg s)
      cfg.position_side

/-- The condition of the liquidation branch. -/
def liquidation_due (cfg : SimConfig K) (s : SimState K) (index : ℕ) : Bool :=
  triggered_at cfg s index && decide (s.entry_index ≤ index)
    && decide (s.liquidation_cooldown_until < index)

/-- Only an open position is liquidated. -/
theorem liquidation_due_open {cfg : SimConfig K} {s : SimState K} {index : ℕ}
    (h : liquidation_due cfg s index = true) : s.position_open = true := by
  simp only [liquidation_due, triggered_at, Bool.and_eq_true] at h
  exact h.1.1.1

theorem liquidation_due_closed (cfg : SimConfig K) {s : SimState K}
    (hclosed : s.position_open = false) (index : ℕ) : liquidation_due cfg s index = false := by
  unfold liquidation_due triggered_at
  rw [hclosed]
  rfl

/-- The schedule and ratio a liquidation of this position uses. -/
def step_behavior (cfg : SimConfig K) (s : SimState K) : Option (List K) × K :=
  resolve_liquidation_step_behavior cfg.position_leverage (position_notional s)
    cfg.profile_forces_full_liquidation cfg.explicit_partial_liquidation_ratio
    cfg.explicit_liquidation_step_schedule cfg.settings.partial_liquidation_ratio
    cfg.settings.liquidation_step_schedule cfg.settings.maintenance_margin_schedule

/-- The share of the position a liquidation takes: `liquidation_ratio`. -/
def step_ratio (cfg : SimConfig K) (s : SimState K) : K :=
  let behavior := step_behavior cfg s
  liquidation_ratio_for_event behavior.1 behavior.2 s.liquidation_step_index

/-- `effective_liquidation_fee_bps`. -/
def position_liquidation_fee_bps (cfg : SimConfig K) (s : SimState K) : K :=
  resolve_tier_value cfg.position_leverage (position_notional s) cfg.settings.liquidation_fee_bps
    cfg.settings.liquidation_fee_schedule id

/-- The books after a liquidation, before the closing test. -/
def liquidation_books (m : PyMath K) (cfg : SimConfig K) (s : SimState K) (index : ℕ) :
    SimState K :=
  let price := position_liquidation_price cfg s
  let liquidation_size := s.position_size * step_ratio cfg s
  let exit_cost := apply_trade_cost (price * liquidation_size)
    (cfg.taker_fee_bps + position_liquidation_fee_bps cfg s)
    (resolve_slippage_bps m cfg (price * liquidation_size) index)
  let trade_gross := price_delta price s.entry_price cfg.position_side * liquidation_size
  { realize s liquidation_size trade_gross exit_cost with
    liquidation_cooldown_until := index + cfg.settings.liquidation_cooldown_bars
    liquidation_step_index := s.liquidation_step_index + 1 }

/-- The liquidation branch. -/
def liquidate (m : PyMath K) (cfg : SimConfig K) (s : SimState K) (index : ℕ) :
    SimState K × BarOutput K :=
  let closed := close_if_flat (liquidation_books m cfg s index)
  (closed,
    { equity := mark_to_market cfg closed index
      liquidation := some
        { timestamp := (cfg.candle index).timestamp
          liquidation_price := position_liquidation_price cfg s
          trigger := bar_trigger_price cfg index
          size := s.position_size * step_ratio cfg s } })

/-- `fill_index`: the signal bar plus the latency, clamped to the last bar. -/
def fill_index (cfg : SimConfig K) (index : ℕ) : ℤ :=
  min ((index : ℤ) + cfg.latency_bars) ((cfg.bars : ℤ) - 1)

/-- The entry branch; `mark` is the mark to market an unfilled entry appends. -/
def enter (m : PyMath K) (cfg : SimConfig K) (s : SimState K) (index : ℕ) (mark : K) :
    SimState K × BarOutput K :=
  let q := execution_quote m cfg (fill_index cfg index) cfg.position_leverage true
  -- nothing to execute: the bar is marked as one without a fill
  if q.executed_size ≤ 1e-9 then (s, ⟨mark, none⟩)
  else
    let opened : SimState K :=
      { record_fill s q with
        fee_spend := s.fee_spend + fill_cost cfg q
        position_open := true
        position_size := q.executed_size
        entry_price := q.fill_price
        entry_index := fill_index cfg index
        liquidation_step_index := 0 }
    -- the source appends `_equity_mark()` here, with no unrealized part
    (opened, ⟨equity_mark opened 0, none⟩)

/-- The exit branch. -/
def exit (m : PyMath K) (cfg : SimConfig K) (s : SimState K) (index : ℕ) (mark : K) :
    SimState K × BarOutput K :=
  let q := execution_quote m cfg (fill_index cfg index) s.position_size false
  if q.executed_size ≤ 1e-9 then (s, ⟨mark, none⟩)
  else
    let closed := close_if_flat (exit_books cfg.position_side s q (fill_cost cfg q))
    -- likewise after an exit, also when it leaves a part open
    (closed, ⟨equity_mark closed 0, none⟩)

/-- One iteration of the bar loop. -/
def bar_step (m : PyMath K) (cfg : SimConfig K) (s : SimState K) (index : ℕ) :
    SimState K × BarOutput K :=
  let s := accrue_funding cfg s index
  let mark := mark_to_market cfg s index
  -- a liquidation takes precedence over the signals of its bar
  if liquidation_due cfg s index then liquidate m cfg s index
  else if s.position_open = false ∧ cfg.entry_signals.getD index false = true then
    enter m cfg s index mark
  else if s.position_open = true ∧ cfg.exit_signals.getD index false = true
      ∧ s.entry_index ≤ index then
    exit m cfg s index mark
  else (s, ⟨mark, none⟩)

/-- A bar without a position takes its entry signal, or leaves the books as they are. -/
theorem bar_step_closed (m : PyMath K) (cfg : SimConfig K) {s : SimState K} {index : ℕ}
    (hclosed : s.position_open = false) :
    (bar_step m cfg s index).1
      = if cfg.entry_signals.getD index false = true then
          (enter m cfg s index (mark_to_market cfg s index)).1 else s := by
  unfold bar_step
  dsimp only
  rw [accrue_funding_closed cfg hclosed, liquidation_due_closed cfg hclosed]
  simp only [Bool.false_eq_true, if_false, hclosed, false_and, true_and]
  split_ifs <;> rfl

/-- The forced close of a position still open after the loop. -/
def force_close (m : PyMath K) (cfg : SimConfig K) (s : SimState K) : SimState K :=
  let last_idx : ℤ := (cfg.bars : ℤ) - 1
  let fill_price := (cfg.candle last_idx).close
  -- at the last close: the forced close has no adverse fill price
  let exit_cost := apply_trade_cost (fill_price * s.position_size) cfg.taker_fee_bps
    (resolve_slippage_bps m cfg (fill_price * s.position_size) last_idx)
  let trade_gross := price_delta fill_price s.entry_price cfg.position_side * s.position_size
  count_win
    { s with
      fee_spend := s.fee_spend + exit_cost
      gross_pnl := s.gross_pnl + trade_gross
      trade_count := s.trade_count + 1 }
    (trade_gross - exit_cost)

/-- The books and the equity curve after the whole run: on a forced close the
last equity value is replaced. -/
def simulate_bars (m : PyMath K) (cfg : SimConfig K) : SimState K × List K :=
  let done := run (bar_step m cfg) SimState.initial cfg.bars
  let curve := done.2.map BarOutput.equity
  if done.1.position_open then
    let final := force_close m cfg done.1
    -- the value the last bar has appended is overwritten
    (final, curve.set (cfg.bars - 1) (equity_mark final 0))
  else (done.1, curve)

/-- Where no forced close replaces it, an equity value is what its bar pushed. -/
theorem simulate_bars_getElem? (m : PyMath K) (cfg : SimConfig K) {i : ℕ} (hi : i < cfg.bars)
    (h : i + 1 < cfg.bars
      ∨ (stateAt (bar_step m cfg) SimState.initial cfg.bars).position_open = false) :
    (simulate_bars m cfg).2[i]?
      = some (outputAt (bar_step m cfg) SimState.initial i).equity := by
  have hpush : ((run (bar_step m cfg) SimState.initial cfg.bars).2.map BarOutput.equity)[i]?
      = some (outputAt (bar_step m cfg) SimState.initial i).equity := by
    rw [List.getElem?_map, run_snd_getElem? _ _ hi, Option.map_some]
  unfold simulate_bars
  dsimp only
  split_ifs with hopen
  · rcases h with hbefore | hclosed
    · rw [List.getElem?_set_ne (by omega)]
      exact hpush
    · rw [run_fst, hclosed] at hopen
      exact absurd hopen Bool.false_ne_true
  · exact hpush

/-- On a forced close the last equity value is that of the closed books. -/
theorem simulate_bars_getElem?_last (m : PyMath K) (cfg : SimConfig K) (hbars : 0 < cfg.bars)
    (hopen : (stateAt (bar_step m cfg) SimState.initial cfg.bars).position_open = true) :
    (simulate_bars m cfg).2[cfg.bars - 1]?
      = some (equity_mark (force_close m cfg
          (stateAt (bar_step m cfg) SimState.initial cfg.bars)) 0) := by
  unfold simulate_bars
  dsimp only
  rw [run_fst, if_pos hopen, List.getElem?_set_self]
  rw [List.length_map, run_snd_length]
  omega

/-! ## The result -/

/-- `BacktestResult`. -/
structure BacktestResult (K : Type) where
  trade_count : ℕ
  win_rate : K
  gross_pnl : K
  net_pnl : K
  fee_spend : K
  funding_spend : K
  sharpe : K
  sortino : K
  max_drawdown : K
  equity_curve : List K
  liquidation_events : List (LiquidationEvent K)
  execution_pressure_summary : Option (PressureSummary K)

/-- `_TIMEFRAME_BARS_PER_YEAR.get(timeframe.lower().strip())`. -/
def timeframe_bars_per_year (timeframe : String) : Option ℕ :=
  List.lookup (pyStrip (pyLower timeframe))
    [("1m", 525600), ("3m", 175200), ("5m", 105120), ("15m", 35040), ("30m", 17520),
      ("1h", 8760), ("2h", 4380), ("4h", 2190), ("6h", 1460), ("8h", 1095), ("12h", 730),
      ("1d", 365), ("3d", 121), ("1w", 52)]

/-- `_annualization_factor`. -/
def annualization_factor (m : PyMath K) (timeframe : String) : K :=
  match timeframe_bars_per_year timeframe with
  | some bars => m.sqrt (bars : K)
  | none => 1

/-- The differences of consecutive equity values. -/
def equity_returns (equity_curve : List K) : List K :=
  List.zipWith (fun previous current => current - previous) equity_curve equity_curve.tail

/-- The configuration of the loop for checked arguments. -/
def sim_config (m : PyMath K) (snapshot : DataSnapshot K) (args : SimArguments K)
    (side : PositionSide) (settings : LiquidationSettings K) : SimConfig K :=
  let use_dynamic_slippage := args.slippage_model == "dynamic"
  let use_realistic_slippage := args.slippage_model == "realistic"
  let profile_is_full :=
    match snapshot.venue_profile with
    | some profile => pyLower (pyStrip profile.liquidation_style) == "full"
    | none => false
  { candles := snapshot.candles
    funding_rates := snapshot.funding_rates
    funding_event_counts := compute_funding_event_counts snapshot.candles snapshot.venue
    entry_signals := args.entry_signals
    exit_signals := args.exit_signals
    taker_fee_bps := snapshot.taker_fee_bps
    slippage_bps := args.slippage_bps
    latency_bars := args.latency_bars
    position_side := side
    position_leverage := args.position_leverage
    settings := settings
    profile_forces_full_liquidation :=
      profile_is_full && args.partial_liquidation_ratio.isNone
        && args.liquidation_step_schedule.isNone
    explicit_partial_liquidation_ratio := args.partial_liquidation_ratio.isSome
    explicit_liquidation_step_schedule := args.liquidation_step_schedule.isSome
    use_dynamic_slippage := use_dynamic_slippage
    use_realistic_slippage := use_realistic_slippage
    context := prepare_sim_context m snapshot use_dynamic_slippage use_realistic_slippage }

def simulate_strategy [FloorRing K] (m : PyMath K) (snapshot : DataSnapshot K)
    (args : SimArguments K) : Except String (BacktestResult K) := do
  let (side, settings) ← check_arguments snapshot args
  let cfg := sim_config m snapshot args side settings
  let outcome := simulate_bars m cfg
  let s := outcome.1
  let equity_curve := outcome.2
  let returns := equity_returns equity_curve
  let ann := annualization_factor m snapshot.timeframe
  return {
    trade_count := s.trade_count
    win_rate := if s.trade_count = 0 then 0 else (s.winning_trades : K) / (s.trade_count : K)
    gross_pnl := s.gross_pnl
    net_pnl := s.gross_pnl - s.fee_spend - s.funding_spend
    fee_spend := s.fee_spend
    funding_spend := s.funding_spend
    sharpe := sharpe_ratio m returns ann
    sortino := sortino_ratio m returns ann
    max_drawdown := max_drawdown equity_curve
    equity_curve := equity_curve
    liquidation_events :=
      (run (bar_step m cfg) SimState.initial cfg.bars).2.filterMap BarOutput.liquidation
    execution_pressure_summary := execution_pressure_summary cfg.use_realistic_slippage s }

/-! ## Runs with every liquidation option unset -/

/-- The arguments of a long run that leaves the liquidation options unset. -/
def plain_args (entry_signals exit_signals : List Bool) (slippage_bps : K) (latency_bars : ℤ)
    (position_leverage : K) (slippage_model : String) : SimArguments K where
  entry_signals := entry_signals
  exit_signals := exit_signals
  slippage_bps := slippage_bps
  latency_bars := latency_bars
  position_side := "long"
  position_leverage := position_leverage
  maintenance_margin_ratio := none
  liquidation_fee_bps := none
  liquidation_mark_price_weight := none
  partial_liquidation_ratio := none
  liquidation_cooldown_bars := none
  liquidation_step_schedule := none
  liquidation_mark_premium_bps := none
  maintenance_margin_schedule := none
  liquidation_fee_schedule := none
  slippage_model := slippage_model

/-- The settings they resolve to without a venue profile. -/
def plain_settings : LiquidationSettings K where
  maintenance_margin_ratio := 0.01
  liquidation_fee_bps := 0
  liquidation_mark_price_weight := 0
  liquidation_mark_premium_bps := 0
  partial_liquidation_ratio := 1
  liquidation_cooldown_bars := 0
  liquidation_step_schedule := none
  maintenance_margin_schedule := []
  liquidation_fee_schedule := []

theorem check_arguments_plain [IsStrictOrderedRing K] {snapshot : DataSnapshot K}
    {entry_signals exit_signals : List Bool} (slippage_bps : K) {latency_bars : ℤ}
    {position_leverage : K} (slippage_model : String) (hvenue : snapshot.venue_profile = none)
    (hlengths : snapshot.candles.length = entry_signals.length
      ∧ entry_signals.length = exit_signals.length)
    (hlatency : 0 ≤ latency_bars) (hleverage : 1 ≤ position_leverage) :
    check_arguments snapshot (plain_args entry_signals exit_signals slippage_bps latency_bars
      position_leverage slippage_model) = .ok (.long, plain_settings) := by
  have hmargin : (0 : K) ≤ 0.01 ∧ (0.01 : K) < 1 := ⟨by norm_num, by norm_num⟩
  unfold check_arguments check_options resolve_liquidation_defaults liquidation_style_is_partial
  simp only [plain_args, hvenue, hlengths, hlatency, hleverage]
  simp [require, check_position_side, unset_or, hmargin, plain_settings]
  rfl

end ProofAlpha.Backtest
