/-
The projections of the execution-event journal: `memory/store.py`,
`rebuild_execution_projections`.

The four tables are keyed stores. The loop is `project_event`; the accumulators
that only fills move (`fills`, `seen_fill_ids`, `position_qty`, `position_cost`)
are one record, `FillLedger`. `metadata_json` is kept decoded; the text of a
float, a list or a dict and the digest of the tables are parameters.
-/
import Mathlib.Algebra.Order.Group.Abs
import Mathlib.Algebra.Order.Field.Basic
import Mathlib.Data.Finset.Card
import ProofAlpha.Lib.PyDict
import ProofAlpha.Memory.ExecutionEvents

set_option autoImplicit false

namespace ProofAlpha.Memory

open ProofAlpha.Lib

/-! ## Tables -/

/-- A row of `orders_live`. -/
structure OrderRow (K : Type) where
  symbol : Option String
  side : Option String
  price : Option K
  qty : K
  filled_qty : K
  status : String
  order_id_exchange : Option String
  parent_intent_id : Option String
  last_event_id : ℕ
  metadata : JsonObject K

/-- A row of `fills`. -/
structure FillRow (K : Type) where
  order_id_client : Option String
  ts_exchange : String
  symbol : Option String
  side : Option String
  price : Option K
  qty : K
  fee : Option K
  maker_taker : Option String
  liquidity_flag : Option String
  source_event_id : ℕ
  metadata : JsonObject K

/-- A row of `positions`. -/
structure PositionRow (K : Type) where
  net_qty : K
  entry_price : Option K
  last_event_id : Option ℕ
  metadata : JsonObject K

/-- A row of `risk_state`. -/
structure RiskRow (K : Type) where
  last_event_id : ℕ
  metadata : JsonObject K

/-- The projection tables. -/
structure Projections (K : Type) where
  orders_live : Dict String (OrderRow K)
  fills : Dict String (FillRow K)
  positions : Dict String (PositionRow K)
  risk_state : Dict String (RiskRow K)

/-- A row of `replay_checkpoints`. -/
structure Checkpoint where
  created_at_utc : String
  last_event_id : ℕ
  projection_digest : String
  event_count : ℕ

/-- The part of the database that the rebuild reads and writes. -/
structure MemoryStore (K : Type) where
  execution_events : List (ExecutionEvent K)
  projections : Projections K
  replay_checkpoints : Dict String Checkpoint

/-- What the rebuild returns. -/
structure RebuildSummary where
  event_count : ℕ
  last_event_id : ℕ
  projection_digest : String
  fill_count : ℕ

/-! ## Events -/

/-- The event types that write `orders_live`. -/
def order_event_types : List String :=
  ["INTENT_CREATE", "ORDER_SUBMIT", "ORDER_ACK", "FILL", "ORDER_CANCEL_REQUEST",
    "ORDER_NEW_SUBMIT", "ORDER_NEW_ACK", "ORDER_PARTIAL_FILL", "ORDER_FILL",
    "ORDER_CANCEL_SUBMIT", "ORDER_CANCEL_ACK", "ORDER_CANCEL_REJECT", "ORDER_REJECT"]

/-- The event types that are fills. -/
def fill_event_types : List String := ["ORDER_PARTIAL_FILL", "ORDER_FILL", "FILL"]

/-- A column that holds a text and not an empty one. -/
def non_empty (column : Option String) : Option String := column.filter (· ≠ "")

section Events

variable {K : Type} [Field K] [LinearOrder K] (composite_text : JsonValue K → String)

/-- The order whose row an event replaces. -/
def projected_order (event : ExecutionEvent K) : Option String :=
  if event.event_type ∈ order_event_types then non_empty event.order_id_client else none

/-- Whether an event is a fill of an order. -/
def is_order_fill (event : ExecutionEvent K) : Bool :=
  decide (event.event_type ∈ fill_event_types) && (projected_order event).isSome

/-- `_signed_quantity`. -/
def signed_quantity (side : Option String) (qty : Option K) : K :=
  match qty with
  | none => 0
  | some qty =>
      let sign : K := if pyUpper (side.getD "") = "SELL" then -1 else 1
      sign * |qty|

/-- `abs(float(qty) if qty is not None else 0.0)`. -/
def fill_quantity (event : ExecutionEvent K) : K := |event.qty.getD 0|

/-- The id of a fill. -/
def fill_id (event : ExecutionEvent K) : String :=
  text_or composite_text (event.metadata.get "fill_id") ("event:" ++ toString event.event_id)

/-- `_float_or_none`. -/
def float_or_none : JsonValue K → Option K
  | .int n => some (n : K)
  | .float x => some x
  | _ => none

/-- `str(value) if value is not None else None`. -/
def text_or_none : JsonValue K → Option String
  | .null => none
  | value => some (py_str composite_text value)

/-- `status or event_type`. -/
def order_status (event : ExecutionEvent K) : String :=
  (non_empty event.status).getD event.event_type

/-- The row of a fill. -/
def fill_row (event : ExecutionEvent K) : FillRow K where
  order_id_client := event.order_id_client
  ts_exchange := event.ts_exchange
  symbol := event.symbol
  side := event.side
  price := event.price
  qty := fill_quantity event
  fee := float_or_none (event.metadata.get "fee")
  maker_taker := text_or_none composite_text (event.metadata.get "maker_taker")
  liquidity_flag := text_or_none composite_text (event.metadata.get "liquidity_flag")
  source_event_id := event.event_id
  metadata := event.metadata

end Events

/-! ## The loop -/

/-- The fills table and the accumulators beside it. -/
structure FillLedger (K : Type) where
  fills : Dict String (FillRow K)
  seen_fill_ids : Finset String
  position_qty : Dict String K
  position_cost : Dict String K

/-- What the loop over the journal carries. -/
structure RebuildState (K : Type) where
  orders_live : Dict String (OrderRow K)
  ledger : FillLedger K
  risk_state : Dict String (RiskRow K)

/-- No fill yet. -/
def FillLedger.empty {K : Type} : FillLedger K where
  fills := ∅
  seen_fill_ids := ∅
  position_qty := ∅
  position_cost := ∅

/-- The deleted tables. -/
def RebuildState.empty {K : Type} : RebuildState K where
  orders_live := ∅
  ledger := FillLedger.empty
  risk_state := ∅

section Rebuild

variable {K : Type} [Field K] [LinearOrder K] (composite_text : JsonValue K → String)

/-- A fill with a new id. -/
def post_fill (ledger : FillLedger K) (event : ExecutionEvent K) : FillLedger K where
  fills :=
    Dict.insert_or_ignore (fill_id composite_text event) (fill_row composite_text event)
      ledger.fills
  seen_fill_ids := insert (fill_id composite_text event) ledger.seen_fill_ids
  position_qty :=
    match non_empty event.symbol with
    | some symbol =>
        Dict.add ledger.position_qty symbol (signed_quantity event.side event.qty)
    | none => ledger.position_qty
  position_cost :=
    match non_empty event.symbol with
    | some symbol =>
        Dict.add ledger.position_cost symbol
          (signed_quantity event.side event.qty * event.price.getD 0)
    | none => ledger.position_cost

/-- A fill; an id that has been seen is skipped. -/
def record_fill (ledger : FillLedger K) (event : ExecutionEvent K) : FillLedger K :=
  if fill_id composite_text event ∈ ledger.seen_fill_ids then ledger
  else post_fill composite_text ledger event

/-- An event of an order: its fill, if it is one, and its row. -/
def project_order (st : RebuildState K) (event : ExecutionEvent K) (order_id_client : String) :
    RebuildState K :=
  let existing := st.orders_live.lookup order_id_client
  let order_qty := (existing.map OrderRow.qty).getD (event.qty.getD 0)
  let filled_qty := (existing.map OrderRow.filled_qty).getD 0
  -- the source sets the flag inside the fill branch, before the row is replaced
  let is_new_fill := decide (event.event_type ∈ fill_event_types) &&
    decide (fill_id composite_text event ∉ st.ledger.seen_fill_ids)
  { st with
    ledger :=
      if event.event_type ∈ fill_event_types then record_fill composite_text st.ledger event
      else st.ledger
    orders_live := st.orders_live.insert order_id_client
      { symbol := event.symbol
        side := event.side
        price := event.price
        qty := order_qty
        filled_qty := if is_new_fill then filled_qty + fill_quantity event else filled_qty
        status := order_status event
        order_id_exchange := event.order_id_exchange
        parent_intent_id := event.parent_intent_id
        last_event_id := event.event_id
        metadata := event.metadata } }

/-- The event of an order, if it is one. -/
def project_order_event (st : RebuildState K) (event : ExecutionEvent K) : RebuildState K :=
  match projected_order event with
  | some order_id_client => project_order composite_text st event order_id_client
  | none => st

/-- A row of the journal. -/
def project_event (st : RebuildState K) (event : ExecutionEvent K) : RebuildState K :=
  let st := project_order_event composite_text st event
  if event.event_type = "RISK_BLOCK" then
    { st with
      risk_state := st.risk_state.insert ((non_empty event.reason_code).getD "risk_block")
        { last_event_id := event.event_id
          metadata := event.metadata } }
  else st

/-- The loop over the journal. -/
def project_events (journal : List (ExecutionEvent K)) : RebuildState K :=
  journal.foldl (project_event composite_text) RebuildState.empty

/-- The row of a position. -/
def position_row (ledger : FillLedger K) (last_event_id : Option ℕ) (symbol : String)
    (net_qty : K) : PositionRow K where
  net_qty := net_qty
  entry_price :=
    if net_qty ≠ 0 then some |(ledger.position_cost.lookup symbol).getD 0 / net_qty| else none
  last_event_id := last_event_id
  metadata := [("source", .str "execution_event_replay")]

/-- The positions table. -/
def positions_table (ledger : FillLedger K) (last_event_id : Option ℕ) :
    Dict String (PositionRow K) :=
  ledger.position_qty.entries.foldl
    (fun table item => table.insert item.1 (position_row ledger last_event_id item.1 item.2)) ∅

/-- The tables of a journal. -/
def projections_of (journal : List (ExecutionEvent K)) : Projections K :=
  let st := project_events composite_text journal
  { orders_live := st.orders_live
    fills := st.ledger.fills
    positions := positions_table st.ledger (journal.getLast?.map ExecutionEvent.event_id)
    risk_state := st.risk_state }

/-- `rebuild_execution_projections`; `now` is the clock of the checkpoint. -/
def rebuild_execution_projections (projection_digest : Projections K → String) (now : String)
    (store : MemoryStore K) : MemoryStore K × RebuildSummary :=
  let projections := projections_of composite_text store.execution_events
  let last_event_id := (store.execution_events.getLast?.map ExecutionEvent.event_id).getD 0
  let digest := projection_digest projections
  let event_count := store.execution_events.length
  ({ store with
      projections := projections
      replay_checkpoints := store.replay_checkpoints.insert ("replay:" ++ toString last_event_id)
        { created_at_utc := now
          last_event_id := last_event_id
          projection_digest := digest
          event_count := event_count } },
    { event_count := event_count
      last_event_id := last_event_id
      projection_digest := digest
      fill_count :=
        (project_events composite_text store.execution_events).ledger.seen_fill_ids.card })

end Rebuild

/-! ## Plain events -/

/-- A text for every float, list and dict. -/
def plain_text (_ : JsonValue ℚ) : String := "[]"

/-- A buy event of BTCUSDT that carries nothing else. -/
def plain_event (event_id : ℕ) (event_type : String) (order_id_client : Option String) :
    ExecutionEvent ℚ where
  ts_exchange := "2026-04-25T00:00:00Z"
  ts_gateway := "2026-04-25T00:00:00Z"
  ts_engine := "2026-04-25T00:00:00Z"
  source := "EXCHANGE"
  event_type := event_type
  symbol := some "BTCUSDT"
  side := some "BUY"
  order_id_client := order_id_client
  order_id_exchange := none
  parent_intent_id := none
  qty := none
  price := none
  status := none
  reason_code := none
  metadata := []
  schema_version := 1
  event_id := event_id
  previous_digest := none
  event_digest := ""
  segment_digest := ""

end ProofAlpha.Memory
