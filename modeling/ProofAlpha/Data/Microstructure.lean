/-
The features of a bar of captured market microstructure (`data/microstructure.py`,
`build_microstructure_features`).

Depth snapshots and trades are decoded JSON. The snapshots are put in the order of
their timestamps; each gives one row, whose trades are those after the snapshot before
it and up to its own time. `FeatureFloats` is what Python does with floats; nothing is
assumed of it, so NaN and infinities are among the floats.
-/
import Mathlib.Data.List.Sort
import ProofAlpha.Lib.Calendar
import ProofAlpha.Lib.Checks
import ProofAlpha.Lib.PyJson

set_option autoImplicit false

namespace ProofAlpha.Data

open ProofAlpha.Lib

/-! ## Floats and conversions -/

/-- Python floats. Of a conversion `none` is a `TypeError` or a `ValueError`, which most
of the callers catch, and an error is an `OverflowError`, which none of them does. -/
structure FeatureFloats (F : Type) where
  /-- `float(text)`. -/
  parse_float : String → Option F
  /-- `float(n)` of an integer. -/
  float_of_int : ℤ → Except String F
  /-- `int(x)`. -/
  int_of_float : F → Except String (Option ℤ)
  /-- `x < y`. -/
  lt : F → F → Bool
  /-- `x <= y`. -/
  le : F → F → Bool
  /-- `abs(x)`. -/
  abs : F → F

/-- The book's two sides. -/
inductive BookSide where
  | bid | ask
deriving DecidableEq

/-- A row of features. -/
structure FeatureRow (F : Type) where
  timestamp_ms : ℤ
  timestamp : String
  symbol : String
  last_update_id : ℤ
  best_bid : F
  best_ask : F
  spread_bps : F
  depth_bid_1bp_usd : F
  depth_ask_1bp_usd : F
  signed_trade_delta_usd : F
  stacked_imbalance_count : ℕ
  absorption_score : F
  depth_replenishment_rate : F
  spread_spike_flag : Bool
  trade_count : ℕ
  liquidation_notional_usd : F
  open_interest : F

/-- `_normalize_binance_symbol`. -/
def normalize_binance_symbol (symbol : String) : String :=
  let normalized := pyUpper (pyStrip symbol)
  let base := String.ofList (normalized.toList.takeWhile (· ≠ '/'))
  if '/' ∈ normalized.toList then base ++ "USDT"
  else if ':' ∈ normalized.toList ∧ '/' ∈ normalized.toList then base ++ "USDT"
  else normalized

/-- `datetime.fromtimestamp(ms / 1000.0, tz=timezone.utc).isoformat()`, which raises for
a time outside the years 1 to 9999. -/
def timestamp_text (ms : ℤ) : Except String String :=
  if -62135596800000 ≤ ms ∧ ms ≤ 253402300799999 then .ok (iso_text ms) else .error "ValueError"

section Model

variable {F : Type} (floats : FeatureFloats F)

/-- `float(value)`. -/
def as_float : JsonValue F → Except String (Option F)
  | .bool b => (floats.float_of_int b.toNat).map some
  | .int n => (floats.float_of_int n).map some
  | .float x => .ok (some x)
  | .str text => .ok (floats.parse_float text)
  | _ => .ok none

/-- `int(float(value))`. -/
def as_int (value : JsonValue F) : Except String (Option ℤ) := do
  match ← as_float floats value with
  | some x => floats.int_of_float x
  | none => return none

/-- `_depth_timestamp_ms` from a key on. -/
def first_timestamp (snapshot : JsonObject F) : List String → Except String ℤ
  | [] => .ok 0
  | key :: keys =>
      match snapshot.get key with
      | .null => first_timestamp snapshot keys
      | value => do
          match ← as_int floats value with
          | some timestamp => return timestamp
          | none => first_timestamp snapshot keys

/-- `_depth_timestamp_ms`. -/
def depth_timestamp_ms (snapshot : JsonObject F) : Except String ℤ :=
  if snapshot.isEmpty then .ok 0 else first_timestamp floats snapshot ["T", "E", "time"]

variable [Zero F] [DecidableEq F]

/-- `value or default`. -/
def value_or (value default : JsonValue F) : JsonValue F :=
  if truthy value then value else default

/-- `int(float(trade.get("T", 0) or 0))`. -/
def trade_time_ms (trade : JsonObject F) : Except String (Option ℤ) :=
  as_int floats (value_or (trade.get_or "T" (.int 0)) (.int 0))

/-- `_windowed_trades`: a trade that is no object or has no readable time is left out. -/
def windowed_trades (start_ms : Option ℤ) (end_ms : ℤ) :
    List (JsonValue F) → Except String (List (JsonObject F))
  | [] => .ok []
  | .dict trade :: trades => do
      match ← trade_time_ms floats trade with
      | none => windowed_trades start_ms end_ms trades
      | some trade_time =>
          if ∃ start ∈ start_ms, trade_time ≤ start then windowed_trades start_ms end_ms trades
          else if end_ms ≠ 0 ∧ end_ms < trade_time then windowed_trades start_ms end_ms trades
          else do
            let selected ← windowed_trades start_ms end_ms trades
            return trade :: selected
  | _ :: trades => windowed_trades start_ms end_ms trades

variable [Add F] [Sub F] [Mul F] [Div F] [Neg F] [OfScientific F]

/-! ## The book -/

/-- One entry of `_parse_levels`. -/
def parse_level : JsonValue F → Except String (Option (F × F))
  | .list (price :: qty :: _) => do
      match ← as_float floats price with
      | none => return none
      | some price =>
          match ← as_float floats qty with
          | none => return none
          | some qty =>
              return if floats.lt 0 price && floats.lt 0 qty then some (price, qty) else none
  | _ => .ok none

/-- `_parse_levels`. -/
def parse_levels : JsonValue F → Except String (List (F × F))
  | .list items => do
      let levels ← items.mapM (parse_level floats)
      return levels.filterMap id
  | _ => .ok []

/-- `sum(price * qty for price, qty in levels)`. -/
def notional (levels : List (F × F)) : F :=
  levels.foldl (fun total level => total + level.1 * level.2) 0

/-- `_depth_within_bps`. -/
def depth_within_bps (levels : List (F × F)) (mid : F) (side : BookSide) (bps : F) : F :=
  if floats.le mid 0 then 0
  else
    match side with
    | .bid => notional (levels.filter fun level => floats.le (mid * (1.0 - bps / 10000.0)) level.1)
    | .ask => notional (levels.filter fun level => floats.le level.1 (mid * (1.0 + bps / 10000.0)))

/-- `_top_notional`, of five levels. -/
def top_notional (levels : List (F × F)) : F := notional (levels.take 5)

/-- `_stacked_imbalance_count`. -/
def stacked_imbalance_count (bid_levels ask_levels : List (F × F)) (threshold : F) : ℕ :=
  ((bid_levels.zip ask_levels).take 5).countP fun level =>
    let bid_notional := level.1.1 * level.1.2
    let ask_notional := level.2.1 * level.2.2
    let total := bid_notional + ask_notional
    floats.lt 0 total && floats.le threshold (floats.abs (bid_notional - ask_notional) / total)

/-- `_absorption_score`; the flag it is given is not read. -/
def absorption_score (signed_delta_usd top_depth_usd : F) : F :=
  if signed_delta_usd = 0 ∨ floats.le top_depth_usd 0 then 0
  else
    let magnitude := floats.abs signed_delta_usd
    let ratio := top_depth_usd / (if floats.lt magnitude 1.0 then 1.0 else magnitude)
    if floats.lt ratio 1.0 then ratio else 1.0

/-- `_snapshot_top_depth` of a snapshot that is there. -/
def snapshot_top_depth (snapshot : JsonObject F) : Except String F := do
  let bid_levels ← parse_levels floats (snapshot.get "bids")
  let ask_levels ← parse_levels floats (snapshot.get "asks")
  return top_notional bid_levels + top_notional ask_levels

/-- `(best_ask - best_bid) / mid * 10_000.0`, where there is a mid price. -/
def spread_of (best_bid best_ask mid : F) : F :=
  if mid = 0 then 0 else (best_ask - best_bid) / mid * 10000.0

/-- `_snapshot_spread_bps` of a snapshot that is there. -/
def snapshot_spread_bps (snapshot : JsonObject F) : Except String F := do
  let bid_levels ← parse_levels floats (snapshot.get "bids")
  let ask_levels ← parse_levels floats (snapshot.get "asks")
  match bid_levels, ask_levels with
  | bid :: _, ask :: _ => return spread_of bid.1 ask.1 ((bid.1 + ask.1) / 2.0)
  | _, _ => return 0

/-! ## The trades -/

/-- One trade of `_signed_trade_delta_usd`; `m` says that the taker sold. -/
def add_trade (delta : F) (trade : JsonObject F) : Except String F := do
  match ← as_float floats (value_or (trade.get_or "p" (.float 0)) (.float 0)) with
  | none => return delta
  | some price =>
      match ← as_float floats (value_or (trade.get_or "q" (.float 0)) (.float 0)) with
      | none => return delta
      | some qty =>
          let sign := if truthy (trade.get "m") then -1.0 else 1.0
          return delta + sign * price * qty

/-- `_signed_trade_delta_usd`. -/
def signed_trade_delta_usd (trades : List (JsonValue F)) (start_ms : Option ℤ) (end_ms : ℤ) :
    Except String F := do
  let selected ← windowed_trades floats start_ms end_ms trades
  selected.foldlM (add_trade floats) 0

/-- `_trade_count`. -/
def count_trades (trades : List (JsonValue F)) (start_ms : Option ℤ) (end_ms : ℤ) :
    Except String ℕ := do
  let selected ← windowed_trades floats start_ms end_ms trades
  return selected.length

/-- `_open_interest_value`. -/
def open_interest_value : JsonValue F → Except String F
  | .dict open_interest => do
      let value ← as_float floats
        (value_or (JsonObject.get_or open_interest "openInterest" (.float 0)) (.float 0))
      return value.getD 0
  | _ => .ok 0

/-- `int(float(snapshot.get("lastUpdateId", 0) or 0))`, with nothing caught. -/
def last_update_id (snapshot : JsonObject F) : Except String ℤ := do
  match ← as_int floats (value_or (snapshot.get_or "lastUpdateId" (.int 0)) (.int 0)) with
  | some update_id => return update_id
  | none => .error "ValueError"

/-! ## The rows -/

/-- The arguments of `build_microstructure_features`; `open_interest` is `null` where
there is none. -/
structure FeatureInputs (F : Type) where
  symbol : String
  depth_snapshots : List (JsonValue F)
  agg_trades : List (JsonValue F)
  open_interest : JsonValue F
  imbalance_threshold : F
  spread_spike_multiplier : F

/-- `_depth_timestamp_ms(previous) if previous else None`. -/
def previous_timestamp_ms (previous : Option (JsonObject F)) : Except String (Option ℤ) :=
  match previous with
  | some (field :: fields) => (depth_timestamp_ms floats (field :: fields)).map some
  | _ => .ok none

/-- `reading(previous) if previous else 0.0`. -/
def previous_reading (reading : JsonObject F → Except String F)
    (previous : Option (JsonObject F)) : Except String F :=
  match previous with
  | some (field :: fields) => reading (field :: fields)
  | _ => .ok 0

variable (inputs : FeatureInputs F)

/-- The row of a snapshot. -/
def feature_row (previous : Option (JsonObject F)) (snapshot : JsonObject F) :
    Except String (FeatureRow F) := do
  let timestamp_ms ← depth_timestamp_ms floats snapshot
  let start_ms ← previous_timestamp_ms floats previous
  let bid_levels ← parse_levels floats (snapshot.get "bids")
  let ask_levels ← parse_levels floats (snapshot.get "asks")
  let best_bid := (bid_levels.head?.map Prod.fst).getD 0
  let best_ask := (ask_levels.head?.map Prod.fst).getD 0
  let mid := if best_bid ≠ 0 ∧ best_ask ≠ 0 then (best_bid + best_ask) / 2.0 else 0
  let spread_bps := spread_of best_bid best_ask mid
  let signed_delta ← signed_trade_delta_usd floats inputs.agg_trades start_ms timestamp_ms
  let total_top_depth := top_notional bid_levels + top_notional ask_levels
  let previous_top_depth ← previous_reading (snapshot_top_depth floats) previous
  let replenishment :=
    if floats.lt 0 previous_top_depth then
      (total_top_depth - previous_top_depth) / previous_top_depth
    else 0
  let previous_spread ← previous_reading (snapshot_spread_bps floats) previous
  let spread_spike := floats.lt 0 previous_spread &&
    floats.le (previous_spread * inputs.spread_spike_multiplier) spread_bps
  let trade_count ← count_trades floats inputs.agg_trades start_ms timestamp_ms
  let timestamp ← timestamp_text timestamp_ms
  let update_id ← last_update_id floats snapshot
  let open_interest ← open_interest_value floats inputs.open_interest
  return {
    timestamp_ms := timestamp_ms
    timestamp := timestamp
    symbol := normalize_binance_symbol inputs.symbol
    last_update_id := update_id
    best_bid := best_bid
    best_ask := best_ask
    spread_bps := spread_bps
    depth_bid_1bp_usd := depth_within_bps floats bid_levels mid .bid 1.0
    depth_ask_1bp_usd := depth_within_bps floats ask_levels mid .ask 1.0
    signed_trade_delta_usd := signed_delta
    stacked_imbalance_count :=
      stacked_imbalance_count floats bid_levels ask_levels inputs.imbalance_threshold
    absorption_score := absorption_score floats signed_delta total_top_depth
    depth_replenishment_rate := replenishment
    spread_spike_flag := spread_spike
    trade_count := trade_count
    liquidation_notional_usd := 0
    open_interest := open_interest }

/-- The loop over the ordered snapshots. -/
def feature_rows (previous : Option (JsonObject F)) :
    List (JsonObject F) → Except String (List (FeatureRow F))
  | [] => .ok []
  | snapshot :: rest => do
      let row ← feature_row floats inputs previous snapshot
      let rows ← feature_rows (some snapshot) rest
      return row :: rows

/-- The objects among the depth snapshots. -/
def depth_objects (depth_snapshots : List (JsonValue F)) : List (JsonObject F) :=
  depth_snapshots.filterMap fun snapshot =>
    match snapshot with
    | .dict fields => some fields
    | _ => none

/-- The order the snapshots are sorted in. -/
def KeyLe (a b : ℤ × JsonObject F) : Prop := a.1 ≤ b.1

instance (a b : ℤ × JsonObject F) : Decidable (KeyLe a b) :=
  inferInstanceAs (Decidable (a.1 ≤ b.1))

/-- `sorted(snapshots, key=_depth_timestamp_ms)`, a stable sort by keys read once. -/
def ordered_depths (depth_snapshots : List (JsonValue F)) :
    Except String (List (JsonObject F)) := do
  let keyed ← (depth_objects depth_snapshots).mapM fun snapshot =>
    (depth_timestamp_ms floats snapshot).map fun key => (key, snapshot)
  return (keyed.insertionSort KeyLe).map Prod.snd

/-- `build_microstructure_features`. -/
def build_microstructure_features : Except String (List (FeatureRow F)) := do
  let ordered ← ordered_depths floats inputs.depth_snapshots
  feature_rows floats inputs none ordered

end Model

end ProofAlpha.Data
