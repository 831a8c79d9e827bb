/-
Orders against the Binance USD-M rules (`backtest/binance_usdm.py`).

`validate_binance_usdm_order` collects the reasons against an order, and
`simulate_binance_usdm_order` fills an order without reasons from the local depth,
in part where the depth does not suffice. Times are instants; what the two
functions do not read of a rule set, an order or a cost context is left out.
-/
import ProofAlpha.Lib.Checks
import ProofAlpha.Lib.PyMath
import ProofAlpha.Strategy.Artifacts

set_option autoImplicit false

namespace ProofAlpha.Backtest

open ProofAlpha.Lib
open ProofAlpha.Strategy (sorted_set)

/-- `BINANCE_USDM_V3_EXECUTION_MODEL_ID`. -/
def BINANCE_USDM_V3_EXECUTION_MODEL_ID : String := "binance_usdm_v3"

/-- `OrderSide`. -/
inductive OrderSide where
  | BUY
  | SELL
deriving DecidableEq

/-- `OrderIntent`. -/
inductive OrderIntent where
  | increase
  | reduce
deriving DecidableEq

/-- `LiquidityPath`. -/
inductive LiquidityPath where
  | maker
  | taker
deriving DecidableEq

/-- `TimeInForce`. -/
inductive TimeInForce where
  | GTC
  | IOC
  | FOK
  | GTX
deriving DecidableEq

/-- `BinanceUsdMRuleSet`. -/
structure BinanceUsdMRuleSet (K : Type) where
  tick_size : K
  step_size : K
  min_notional : K
  maker_fee_bps : K
  taker_fee_bps : K
  max_participation_rate : K

/-- `BinanceUsdMOrderRequest`. -/
structure BinanceUsdMOrderRequest (K : Type) where
  side : OrderSide
  quantity : K
  price : K
  intent : OrderIntent := .increase
  liquidity_path : LiquidityPath := .taker
  time_in_force : TimeInForce := .GTC
  reduce_only : Bool := false
  post_only : Bool := false
  current_position_qty : K
  book_best_bid : Option K := none
  book_best_ask : Option K := none
  submitted_at : Option ℤ := none
  expires_at : Option ℤ := none

/-- `DynamicCostContext`. -/
structure DynamicCostContext (K : Type) where
  liquidity_path : LiquidityPath
  hour_of_day : ℤ
  volatility_percentile : K
  spread_percentile : K
  order_size_pct_local_liquidity : K
  oi_percentile : K
  liquidation_intensity_percentile : K

/-- `BinanceUsdMExecutionReport`. -/
structure BinanceUsdMExecutionReport (K : Type) where
  execution_model_id : String
  accepted : Bool
  status : String
  reason_codes : List String
  rounded_price : Option K
  rounded_quantity : Option K
  notional : K
  maker_taker : LiquidityPath
  fill_ratio : K
  fee_bps : K
  spread_bps : K
  impact_bps : K
  total_cost_bps : K
  capacity_ok : Bool
  queue_position_estimate : Option K
deriving DecidableEq

variable {K : Type} [Field K] [LinearOrder K] [FloorRing K]

/-! ## Rounding to the grid of the exchange -/

/-- `_round_to_tick`. -/
def round_to_tick (price tick_size : K) : Except String K := do
  require (0 < tick_size) "tick_size must be positive"
  .ok (pyRound (roundHalfEven (price / tick_size) * tick_size) 12)

/-- `_round_down`. -/
def round_down (quantity step_size : K) : Except String K := do
  require (0 < step_size) "step_size must be positive"
  .ok (⌊quantity / step_size⌋ * step_size)

/-! ## Validation -/

omit [Field K] [FloorRing K] in
/-- `_would_cross_book`. -/
def would_cross_book (order : BinanceUsdMOrderRequest K) : Bool :=
  match order.side, order.book_best_ask, order.book_best_bid with
  | .BUY, some ask, _ => ask ≤ order.price
  | .SELL, _, some bid => order.price ≤ bid
  | _, _, _ => false

omit [Field K] [LinearOrder K] [FloorRing K] in
/-- The order expires by the time it is submitted. -/
def order_expired (order : BinanceUsdMOrderRequest K) : Bool :=
  match order.expires_at, order.submitted_at with
  | some expires_at, some submitted_at => expires_at ≤ submitted_at
  | _, _ => false

/-- `validate_binance_usdm_order`. -/
def validate_binance_usdm_order (order : BinanceUsdMOrderRequest K) (rules : BinanceUsdMRuleSet K) :
    Except String (List String) := do
  let rounded_qty ← round_down order.quantity rules.step_size
  let rounded_price ← round_to_tick order.price rules.tick_size
  .ok (reason_if (order.quantity ≤ 0) "quantity_must_be_positive"
    ++ reason_if (order.price ≤ 0) "price_must_be_positive"
    ++ reason_if (rounded_qty ≤ 0) "quantity_below_step_size"
    ++ reason_if (order.price ≠ rounded_price) "price_precision_violation"
    ++ reason_if (rounded_qty * order.price < rules.min_notional) "min_notional_violation"
    ++ reason_if (order.post_only && order.liquidity_path != .maker) "post_only_requires_maker_path"
    ++ reason_if (order.post_only && would_cross_book order) "post_only_would_take_liquidity"
    ++ reason_if (order.time_in_force == .GTX && !order.post_only) "gtx_requires_post_only"
    ++ reason_if (order.reduce_only && order.intent != .reduce) "reduce_only_requires_reduce_intent"
    ++ reason_if (order.reduce_only && |order.current_position_qty| ≤ 0)
      "reduce_only_without_position"
    ++ reason_if (order.reduce_only && |order.current_position_qty| + 1e-12 < rounded_qty)
      "reduce_only_quantity_exceeds_position"
    ++ reason_if (order_expired order) "order_expired")

/-! ## Costs and fills -/

omit [FloorRing K] in
/-- `_clamp01`. -/
def clamp01 (value : K) : K := min 1 (max 0 value)

omit [FloorRing K] in
/-- `dynamic_cost_bps`. -/
def dynamic_cost_bps (m : PyMath K) (context : DynamicCostContext K) : K :=
  let maker_discount := if context.liquidity_path = .maker then 0.35 else 1
  let urgency := 1 + clamp01 context.volatility_percentile + 0.5 * clamp01 context.spread_percentile
  let liquidity_term := m.sqrt (max 0 context.order_size_pct_local_liquidity)
  let oi_term := 1 + 0.25 * clamp01 context.oi_percentile
  let liquidation_term := 1 + 0.75 * clamp01 context.liquidation_intensity_percentile
  let hour_term := if context.hour_of_day ∈ [0, 8, 16] then 1.15 else 1
  let base_bps := 2 + 20 * liquidity_term * urgency * oi_term * liquidation_term
  min 500 (max 0 (base_bps * hour_term * maker_discount))

omit [FloorRing K] in
/-- `_spread_bps`. -/
def spread_bps (order : BinanceUsdMOrderRequest K) : K :=
  match order.book_best_bid, order.book_best_ask with
  | some bid, some ask =>
      let mid := (bid + ask) / 2
      if mid ≤ 0 then 0 else (ask - bid) / mid * 10000
  | _, _ => 0

omit [LinearOrder K] [FloorRing K] in
/-- The part of the local depth that an order on the path can take. -/
def depth_multiplier : LiquidityPath → K
  | .maker => 0.5
  | .taker => 1

omit [FloorRing K] in
/-- `_fill_ratio_from_depth`. -/
def fill_ratio_from_depth (notional local_depth_notional : K) (path : LiquidityPath) : K :=
  if notional ≤ 0 then 0
  else if local_depth_notional ≤ 0 then 0
  else max 0 (min 1 (local_depth_notional * depth_multiplier path / notional))

/-- `simulate_binance_usdm_order`. -/
def simulate_binance_usdm_order (m : PyMath K) (order : BinanceUsdMOrderRequest K)
    (rules : BinanceUsdMRuleSet K) (cost_context : DynamicCostContext K)
    (local_depth_notional : K) : Except String (BinanceUsdMExecutionReport K) := do
  let reasons ← validate_binance_usdm_order order rules
  let rounded_price ← round_to_tick order.price rules.tick_size
  let rounded_quantity ← round_down order.quantity rules.step_size
  let notional := rounded_price * rounded_quantity
  let participation := notional / max local_depth_notional 1e-9
  let capacity_ok := decide (participation ≤ rules.max_participation_rate)
  let reason_codes := reasons ++ reason_if (!capacity_ok) "capacity_limit_exceeded"
  if reason_codes.isEmpty then
    let fee_bps :=
      if order.liquidity_path = .maker then rules.maker_fee_bps else rules.taker_fee_bps
    let spread := if order.liquidity_path = .maker then 0 else spread_bps order
    let impact_bps := dynamic_cost_bps m cost_context
    let fill_ratio := fill_ratio_from_depth notional local_depth_notional order.liquidity_path
    .ok
      { execution_model_id := BINANCE_USDM_V3_EXECUTION_MODEL_ID
        accepted := true
        status := if 1 ≤ fill_ratio then "filled" else "partial_fill"
        reason_codes := []
        rounded_price := some rounded_price
        rounded_quantity := some rounded_quantity
        notional := notional
        maker_taker := order.liquidity_path
        fill_ratio := fill_ratio
        fee_bps := fee_bps
        spread_bps := spread
        impact_bps := impact_bps
        total_cost_bps := fee_bps + spread + impact_bps
        capacity_ok := capacity_ok
        queue_position_estimate :=
          if order.liquidity_path = .maker then some local_depth_notional else none }
  else
    .ok
      { execution_model_id := BINANCE_USDM_V3_EXECUTION_MODEL_ID
        accepted := false
        status := "rejected"
        reason_codes := sorted_set reason_codes
        rounded_price := some rounded_price
        rounded_quantity := some rounded_quantity
        notional := notional
        maker_taker := order.liquidity_path
        fill_ratio := 0
        fee_bps := 0
        spread_bps := 0
        impact_bps := 0
        total_cost_bps := 0
        capacity_ok := capacity_ok
        queue_position_estimate := none }

end ProofAlpha.Backtest
