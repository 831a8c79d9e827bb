/-
The paper fill model: `simulate_fill_model_v2` of `execution/paper.py`.

A post-only limit order is filled from the queue at its limit; every other order
walks the opposite side of the book, whatever its limit. Depth levels are decoded
JSON, which `_normalize_depth_levels` filters; where none is left the walk runs on
one level made of the last trade price. `walk_depth` computes the greedy
allocation of `Lib.DepthWalk`.
-/
import ProofAlpha.Execution.PaperDaemon
import ProofAlpha.Lib.DepthWalk
import ProofAlpha.Lib.PyMath

set_option autoImplicit false

namespace ProofAlpha.Execution

open ProofAlpha.Lib

/-! ## Intents and snapshots -/

/-- `PaperOrderIntent` with the columns that the fill reads. -/
structure PaperFillIntent (K : Type) extends PaperOrderIntent K where
  limit_price : Option K
  order_type : String
  post_only : Bool
  time_in_force : String

/-- `PaperMarketSnapshot` with the columns that the fill reads. -/
structure PaperFillSnapshot (K : Type) extends PaperMarketSnapshot K where
  last_trade_price : K
  traded_qty_at_price : K
  canceled_ahead_qty : K
  depth_ahead_qty : K
  funding_rate : K
  bid_depth_levels : JsonValue K
  ask_depth_levels : JsonValue K
  adverse_price_after_fill : Option K

/-- `queue_approximation`. -/
structure QueueApproximation (K : Type) where
  order_qty : K
  depth_ahead_qty : K
  traded_qty_at_price : K
  canceled_ahead_qty : K
  filled_qty : K
  fill_ratio : K

/-- What `simulate_fill_model_v2` returns. -/
structure PaperFill (K : Type) where
  fill_model_version : String
  fill_path : String
  time_in_force : String
  timeout : Bool
  qty_submitted : K
  qty_filled : K
  qty_canceled : K
  live_vwap_price : K
  fee_quote : K
  fee_rate : K
  maker_ratio : K
  spread_bps : K
  spread_crossing_bps : K
  impact_bps : K
  drift_bps : K
  adverse_selection_bps : K
  non_fill_opportunity_loss_quote : K
  latency_bucket : String
  queue_ahead_qty : K
  queue_progress_qty : K
  queue_approximation : QueueApproximation K
  slip_px : K
  slip_bps : K

section Model

variable {K : Type} [Field K] [LinearOrder K] [FloorRing K] (texts : PyTexts K)

/-! ## The book -/

/-- A level of the payload, if it is a pair of positive numbers. -/
def depth_level : JsonValue K → Option (PriceLevel K)
  | .list (price :: qty :: _) =>
      match float_or_none texts.parse_float price, float_or_none texts.parse_float qty with
      | some price, some qty => if 0 < price ∧ 0 < qty then some ⟨price, qty⟩ else none
      | _, _ => none
  | _ => none

/-- `_normalize_depth_levels`. -/
def normalize_depth_levels : JsonValue K → List (PriceLevel K)
  | .list raw_levels => raw_levels.filterMap (depth_level texts)
  | _ => []

/-- The depth of the one level where the snapshot lists none: the first of the
three that is not zero. -/
def fallback_qty (intent : PaperFillIntent K) (snapshot : PaperFillSnapshot K) : K :=
  if snapshot.visible_depth_qty ≠ 0 then snapshot.visible_depth_qty
  else if snapshot.topn_depth_qty ≠ 0 then snapshot.topn_depth_qty
  else intent.qty

/-- `_depth_levels_for_market_fill`. -/
def depth_levels_for_market_fill (intent : PaperFillIntent K) (snapshot : PaperFillSnapshot K) :
    List (PriceLevel K) :=
  let raw_levels :=
    if pyUpper intent.side = "BUY" then snapshot.ask_depth_levels else snapshot.bid_depth_levels
  let levels := normalize_depth_levels texts raw_levels
  if levels.isEmpty then [⟨snapshot.last_trade_price, fallback_qty intent snapshot⟩] else levels

/-- What the loop of `_walk_depth` carries. -/
structure WalkState (K : Type) where
  remaining : K
  filled : K
  notional : K

/-- One level; after the `break` the rest of the levels changes nothing. -/
def walk_level (st : WalkState K) (level : PriceLevel K) : WalkState K :=
  if st.remaining ≤ 0 then st
  else
    let take_qty := min st.remaining level.qty
    { remaining := st.remaining - take_qty
      filled := st.filled + take_qty
      notional := st.notional + take_qty * level.price }

/-- What `_walk_depth` returns. -/
structure DepthWalk (K : Type) where
  qty_filled : K
  vwap_price : K

/-- `_walk_depth`. -/
def walk_depth (levels : List (PriceLevel K)) (order_qty : K) : DepthWalk K :=
  let st := levels.foldl walk_level ⟨max 0 order_qty, 0, 0⟩
  if st.filled ≤ 0 then ⟨0, (levels.head?.map PriceLevel.price).getD 0⟩
  else ⟨pyRound st.filled 12, pyRound (st.notional / st.filled) 12⟩

/-! ## Prices and quantities -/

/-- `1.0 if side.upper() == "BUY" else -1.0`. -/
def side_multiplier (side : String) : K := if pyUpper side = "BUY" then 1 else -1

/-- `_side_aware_bps`. -/
def side_aware_bps (side : String) (base_price observed_price : K) : K :=
  if base_price = 0 then 0
  else side_multiplier side * (observed_price - base_price) / base_price * 10000

/-- `calculate_side_aware_slippage`: `slip_px` and `slip_bps`. -/
def calculate_side_aware_slippage (side : String) (expected_price live_vwap_price : K) : K × K :=
  let slip_px := side_multiplier side * (live_vwap_price - expected_price)
  let slip_bps := if expected_price = 0 then 0 else slip_px / expected_price * 10000
  (pyRound slip_px 12, pyRound slip_bps 12)

/-- `_non_fill_opportunity_loss`. -/
def non_fill_opportunity_loss (side : String) (reference_price : K) (adverse_price : Option K)
    (qty_unfilled : K) : K :=
  match adverse_price with
  | none => 0
  | some adverse_price =>
      if qty_unfilled ≤ 0 then 0
      else if side_aware_bps side reference_price adverse_price ≤ 0 then 0
      else |adverse_price - reference_price| * qty_unfilled

/-- `_latency_bucket`. -/
def latency_bucket (latency_ms : K) : String :=
  if latency_ms < 50 then "lt_50ms"
  else if latency_ms < 250 then "50ms_250ms"
  else if latency_ms < 1000 then "250ms_1s"
  else "gte_1s"

/-- What the queue lets through. -/
def fillable_after_queue (snapshot : PaperFillSnapshot K) : K :=
  max 0 (snapshot.traded_qty_at_price + snapshot.canceled_ahead_qty - snapshot.depth_ahead_qty)

/-- `approximate_queue_fill`. -/
def approximate_queue_fill (order_qty : K) (snapshot : PaperFillSnapshot K) :
    QueueApproximation K :=
  let filled_qty := min order_qty (fillable_after_queue snapshot)
  { order_qty := order_qty
    depth_ahead_qty := snapshot.depth_ahead_qty
    traded_qty_at_price := snapshot.traded_qty_at_price
    canceled_ahead_qty := snapshot.canceled_ahead_qty
    filled_qty := pyRound filled_qty 12
    fill_ratio := pyRound (if order_qty = 0 then 0 else filled_qty / order_qty) 12 }

/-! ## The two paths -/

/-- The variables that the two branches set. -/
structure FillPath (K : Type) where
  queue : QueueApproximation K
  qty_filled : K
  live_vwap_price : K
  fill_path : String
  maker_ratio : K
  fee_rate : K
  impact_bps : K
  spread_crossing_bps : K

/-- `passive`: a post-only limit order. -/
def is_passive (intent : PaperFillIntent K) : Bool :=
  pyLower intent.order_type = "limit" && intent.post_only

/-- The queue branch. -/
def passive_path (intent : PaperFillIntent K) (snapshot : PaperFillSnapshot K)
    (maker_fee_rate : K) : FillPath K :=
  let queue := approximate_queue_fill intent.qty snapshot
  { queue := queue
    qty_filled := queue.filled_qty
    live_vwap_price := intent.limit_price.getD snapshot.last_trade_price
    fill_path := "passive"
    maker_ratio := if queue.filled_qty ≠ 0 then 1 else 0
    fee_rate := maker_fee_rate
    impact_bps := 0
    spread_crossing_bps := 0 }

/-- The branch that walks the book. -/
def market_path (intent : PaperFillIntent K) (snapshot : PaperFillSnapshot K)
    (taker_fee_rate spread_bps : K) : FillPath K :=
  let walk := walk_depth (depth_levels_for_market_fill texts intent snapshot) intent.qty
  let top_touch := if pyUpper intent.side = "BUY" then snapshot.ask else snapshot.bid
  { queue :=
      { order_qty := intent.qty
        depth_ahead_qty := 0
        traded_qty_at_price := snapshot.visible_depth_qty
        canceled_ahead_qty := 0
        filled_qty := pyRound walk.qty_filled 12
        fill_ratio := if intent.qty = 0 then 0 else pyRound (walk.qty_filled / intent.qty) 12 }
    qty_filled := walk.qty_filled
    live_vwap_price := walk.vwap_price
    fill_path := "market"
    maker_ratio := 0
    fee_rate := taker_fee_rate
    impact_bps := side_aware_bps (pyUpper intent.side) top_touch walk.vwap_price
    spread_crossing_bps := spread_bps / 2 }

/-- `simulate_fill_model_v2`. -/
def simulate_fill_model_v2 (intent : PaperFillIntent K) (snapshot : PaperFillSnapshot K)
    (latency_ms maker_fee_rate taker_fee_rate : K) : PaperFill K :=
  let side := pyUpper intent.side
  let passive := is_passive intent
  let mid := (snapshot.bid + snapshot.ask) / 2
  let spread_bps := if mid = 0 then 0 else (snapshot.ask - snapshot.bid) / mid * 10000
  let path :=
    if passive then passive_path intent snapshot maker_fee_rate
    else market_path texts intent snapshot taker_fee_rate spread_bps
  let qty_canceled := max 0 (intent.qty - path.qty_filled)
  let slippage := calculate_side_aware_slippage side intent.expected_price path.live_vwap_price
  let adverse_selection_bps :=
    match snapshot.adverse_price_after_fill with
    | some adverse_price =>
        if path.qty_filled ≠ 0 then
          max 0 (side_aware_bps side path.live_vwap_price adverse_price)
        else 0
    | none => 0
  { fill_model_version := "paper_fill_model_v2"
    fill_path := path.fill_path
    time_in_force := intent.time_in_force
    timeout := passive && decide (0 < qty_canceled)
    qty_submitted := intent.qty
    qty_filled := pyRound path.qty_filled 12
    qty_canceled := pyRound qty_canceled 12
    live_vwap_price := pyRound path.live_vwap_price 12
    fee_quote := pyRound (path.qty_filled * path.live_vwap_price * path.fee_rate) 12
    fee_rate := path.fee_rate
    maker_ratio := path.maker_ratio
    spread_bps := pyRound spread_bps 12
    spread_crossing_bps := pyRound path.spread_crossing_bps 12
    impact_bps := pyRound (max 0 path.impact_bps) 12
    drift_bps := slippage.2
    adverse_selection_bps := pyRound adverse_selection_bps 12
    non_fill_opportunity_loss_quote :=
      pyRound (non_fill_opportunity_loss side path.live_vwap_price
        snapshot.adverse_price_after_fill qty_canceled) 12
    latency_bucket := latency_bucket latency_ms
    queue_ahead_qty := if passive then snapshot.depth_ahead_qty else 0
    queue_progress_qty :=
      if passive then pyRound (snapshot.traded_qty_at_price + snapshot.canceled_ahead_qty) 12
      else 0
    queue_approximation := path.queue
    slip_px := slippage.1
    slip_bps := slippage.2 }

end Model

end ProofAlpha.Execution
