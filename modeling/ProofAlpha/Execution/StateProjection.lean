/-
The in-memory projection of a ledger: `execution/state_projection.py` over the
events of `execution/ledger.py`.

A conversion that raises in Python (`payload["symbol"]` without a symbol,
`float(...)` of something that is no number) makes the whole projection raise;
here it is `none`. Positions are rounded to 12 decimals after every fill, the
sums of cash, fees and funding once at the end.
-/
import ProofAlpha.Lib.FirstBy
import ProofAlpha.Lib.PyDict
import ProofAlpha.Lib.PyJson
import ProofAlpha.Lib.PyMath

set_option autoImplicit false

namespace ProofAlpha.Execution

open ProofAlpha.Lib

/-! ## Events -/

/-- `LedgerEvent`. -/
structure LedgerEvent (K : Type) where
  event_id : String
  event_type : String
  payload : JsonObject K

/-- `LedgerEvent.fill`. -/
def LedgerEvent.fill {K : Type} (event_id order_id symbol side : String) (qty price fee : K) :
    LedgerEvent K where
  event_id := event_id
  event_type := "FILL"
  payload :=
    [("fill_id", .str event_id), ("order_id", .str order_id), ("symbol", .str symbol),
      ("side", .str (pyUpper side)), ("qty", .float qty), ("price", .float price),
      ("fee", .float fee)]

section Fields

variable {K : Type} [Field K] [LinearOrder K] (texts : PyTexts K)

/-- `float(payload.get(key, 0.0))`. -/
def float_field (payload : JsonObject K) (key : String) : Option K :=
  float_or_none texts.parse_float (payload.get_or key (.float 0))

/-- What a fill's payload says. -/
structure FillFields (K : Type) where
  symbol : String
  side : String
  qty : K
  price : K
  fee : K

/-- The reading of a fill's payload. -/
def fill_fields (payload : JsonObject K) : Option (FillFields K) := do
  let symbol ← List.lookup "symbol" payload
  let side ← List.lookup "side" payload
  let qty ← float_field texts payload "qty"
  let price ← float_field texts payload "price"
  let fee ← float_field texts payload "fee"
  some
    { symbol := py_str texts.composite_text symbol
      side := pyUpper (py_str texts.composite_text side)
      qty := qty
      price := price
      fee := fee }

/-- `signed_qty`. -/
def FillFields.signed_qty (fill : FillFields K) : K :=
  if fill.side = "BUY" then fill.qty else -fill.qty

/-- `str(payload.get("fill_id") or event.event_id)`. -/
def ledger_fill_id (event : LedgerEvent K) : String :=
  text_or texts.composite_text (event.payload.get "fill_id") event.event_id

end Fields

/-! ## The loop -/

/-- The local variables of the loop. -/
structure ProjectionState (K : Type) where
  positions : Dict String K
  cash : K
  fees : K
  funding : K
  realized_pnl : K
  seen_fills : Finset String

section Loop

variable {K : Type} [Field K] [LinearOrder K]

/-- The variables before the first event. -/
def ProjectionState.initial : ProjectionState K where
  positions := ∅
  cash := 0
  fees := 0
  funding := 0
  realized_pnl := 0
  seen_fills := ∅

/-- A funding amount. -/
def ProjectionState.add_funding (st : ProjectionState K) (amount : K) : ProjectionState K :=
  { st with funding := st.funding + amount, cash := st.cash + amount }

variable [FloorRing K]

/-- A fill with a new id. -/
def ProjectionState.add_fill (st : ProjectionState K) (fill_id : String) (fill : FillFields K) :
    ProjectionState K :=
  { st with
    seen_fills := insert fill_id st.seen_fills
    positions := st.positions.insert fill.symbol
      (pyRound ((st.positions.lookup fill.symbol).getD 0 + fill.signed_qty) 12)
    cash := st.cash - fill.signed_qty * fill.price - fill.fee
    fees := st.fees + fill.fee }

variable (texts : PyTexts K)

/-- One event. -/
def project_ledger_event (st : ProjectionState K) (event : LedgerEvent K) :
    Option (ProjectionState K) :=
  if event.event_type = "FILL" then
    if ledger_fill_id texts event ∈ st.seen_fills then some st
    else (fill_fields texts event.payload).map (st.add_fill (ledger_fill_id texts event))
  else if event.event_type = "FUNDING" then
    (float_field texts event.payload "amount").map st.add_funding
  else some st

/-- The loop over the events. -/
def project_ledger (events : List (LedgerEvent K)) : Option (ProjectionState K) :=
  events.foldlM (project_ledger_event texts) ProjectionState.initial

end Loop

/-! ## The projection -/

/-- The payload the projection is hashed from. -/
structure ProjectionPayload (K : Type) where
  positions : List (String × K)
  cash : K
  fees : K
  funding : K
  realized_pnl : K

/-- `StateProjection`. -/
structure StateProjection (K : Type) where
  positions : Dict String K
  cash : K
  fees : K
  funding : K
  realized_pnl : K
  projection_digest : String

section Projection

variable {K : Type} [Field K] [LinearOrder K] [FloorRing K] (texts : PyTexts K)
  (stable_hash : ProjectionPayload K → String)

/-- What is returned after the loop. -/
def state_projection (st : ProjectionState K) : StateProjection K where
  positions := st.positions
  cash := pyRound st.cash 12
  fees := pyRound st.fees 12
  funding := pyRound st.funding 12
  realized_pnl := pyRound st.realized_pnl 12
  projection_digest := stable_hash
    { positions := Dict.sorted_items st.positions
      cash := pyRound st.cash 12
      fees := pyRound st.fees 12
      funding := pyRound st.funding 12
      realized_pnl := pyRound st.realized_pnl 12 }

/-- `rebuild_state_projection`. -/
def rebuild_state_projection (events : List (LedgerEvent K)) : Option (StateProjection K) :=
  (project_ledger texts events).map (state_projection stable_hash)

/-- `projection.positions.get(symbol, 0.0)`. -/
def StateProjection.position (projection : StateProjection K) (symbol : String) : K :=
  (projection.positions.lookup symbol).getD 0

end Projection

end ProofAlpha.Execution
