/-
Recorded market-data streams: `execution/paper_streams.py`, its normalisation of
a websocket payload, the table `paper_stream_events` it records to, and
`replay_paper_stream_events`, which reads a session back in exchange order.

What the module takes from the Python runtime (text of a float, hashing, clock
text) is the structure `StreamRuntime`; no result assumes anything about it.
-/
import Mathlib.Data.List.Sort
import Mathlib.Data.Prod.Lex
import Mathlib.Data.String.Basic
import ProofAlpha.Lib.PyDict
import ProofAlpha.Lib.PyJson
import ProofAlpha.Lib.PyMath

set_option autoImplicit false

namespace ProofAlpha.Execution

open ProofAlpha.Lib

/-- What the module takes from the Python runtime. -/
structure StreamRuntime (K : Type) where
  /-- `float(text)`. -/
  parse_float : String → Option K
  /-- `str(value)` of a float, a list or a dict. -/
  composite_text : JsonValue K → String
  /-- `_stable_hash`. -/
  stable_hash : JsonObject K → String
  /-- `_ms_to_utc`. -/
  ms_to_utc : ℤ → String
  /-- `datetime.fromisoformat(text.replace("Z", "+00:00"))`, in microseconds. -/
  utc_micros : String → Option ℤ

/-- A runtime whose clock texts are the whole seconds of the first minute of the
epoch; a payload is hashed to the text of its `u`. -/
def minute_runtime : StreamRuntime ℚ where
  parse_float := fun text => (int_of_text text).map fun n => (n : ℚ)
  composite_text := fun _ => "[]"
  stable_hash := fun payload => toString ((int_or_none (payload.get "u")).getD 0)
  ms_to_utc := fun ms =>
    "1970-01-01T00:00:" ++ (if ms < 10000 then "0" else "") ++ toString (ms / 1000) ++ "Z"
  utc_micros := fun text =>
    (int_of_text (String.ofList ((text.toList.drop 17).take 2))).map fun s => s * 1000000

variable {K : Type}

/-! ## Normalisation -/

/-- The outcome of normalising a payload. -/
inductive ParseStatus
  | parsed
  | parse_error
  deriving DecidableEq

/-- `NormalizedPaperStreamEvent`; of its metadata only `event_time_ms` is read
again. -/
structure NormalizedPaperStreamEvent (K : Type) where
  stream_event_id : String
  session_id : String
  received_at_utc : String
  exchange_event_time : Option String
  stream_name : String
  symbol : Option String
  sequence_id : Option String
  payload_hash : String
  payload : JsonObject K
  parse_status : ParseStatus
  lag_ms : Option K
  event_time_ms : Option ℤ

/-- `_unwrap_combined_payload`. -/
def unwrap_combined_payload (payload : JsonObject K) : JsonObject K :=
  match payload.get "data", payload.get "stream" with
  | .dict data, .str _ => data
  | _, _ => payload

/-- The symbol of `payload["o"]`, the order of a force-order payload. -/
def order_symbol (payload : JsonObject K) : Option String :=
  match payload.get "o" with
  | .dict order =>
      match JsonObject.get order "s" with
      | .str s => some s
      | _ => none
  | _ => none

/-- `_symbol_from_payload`. -/
def symbol_from_payload (stream_name : String) (payload : JsonObject K) : Option String :=
  -- the payload's own symbol first, then its order's, then the stream name
  match payload.get "s", order_symbol payload with
  | .str s, _ => some (pyUpper s)
  | _, some s => some (pyUpper s)
  | _, none =>
      if '@' ∈ stream_name.toList then
        some (pyUpper (String.ofList (stream_name.toList.takeWhile (· != '@'))))
      else none

/-- `str(payload[key])`, `none` where the field is missing or null. -/
def field_text (rt : StreamRuntime K) (payload : JsonObject K) (key : String) : Option String :=
  match payload.get key with
  | .null => none
  | value => some (py_str rt.composite_text value)

/-- `_sequence_id`: the first of the ids and times that is present. -/
def sequence_id (rt : StreamRuntime K) (payload : JsonObject K) : Option String :=
  (["u", "a", "U", "T", "E"].findSome? (field_text rt payload)).or
    (match payload.get "o" with
    | .dict order => field_text rt order "T"
    | _ => none)

section Normalize

variable [Field K] [LinearOrder K] [FloorRing K]

/-- `_lag_ms`. -/
def lag_ms (rt : StreamRuntime K) (received_at_utc : String) (event_time_ms : Option ℤ) :
    Option K :=
  match event_time_ms, rt.utc_micros received_at_utc with
  | some event, some received => some (pyRound (((received - event * 1000 : ℤ) : K) / 1000) 3)
  | _, _ => none

/-- `normalize_binance_usdm_ws_event`. -/
def normalize_binance_usdm_ws_event (rt : StreamRuntime K) (session_id stream_name : String)
    (payload : JsonObject K) (received_at_utc : String) : NormalizedPaperStreamEvent K :=
  let raw_payload := unwrap_combined_payload payload
  let actual_stream_name := text_or rt.composite_text (payload.get "stream") stream_name
  let payload_hash := rt.stable_hash raw_payload
  let event_time_ms := int_or_none (raw_payload.get "E")
  let symbol := symbol_from_payload actual_stream_name raw_payload
  { stream_event_id := session_id ++ ":" ++ actual_stream_name ++ ":"
      ++ String.ofList (payload_hash.toList.take 16)
    session_id := session_id
    received_at_utc := received_at_utc
    exchange_event_time := event_time_ms.map rt.ms_to_utc
    stream_name := actual_stream_name
    symbol := symbol
    sequence_id := sequence_id rt raw_payload
    payload_hash := payload_hash
    payload := raw_payload
    parse_status := if symbol.getD "" = "" then .parse_error else .parsed
    lag_ms := lag_ms rt received_at_utc event_time_ms
    event_time_ms := event_time_ms }

end Normalize

/-! ## The record -/

/-- The table `paper_stream_events`, keyed by `stream_event_id`. -/
abbrev PaperStreamEvents (K : Type) := Dict String (NormalizedPaperStreamEvent K)

/-- `record_paper_stream_event`: `INSERT OR REPLACE`. -/
def record_paper_stream_event (table : PaperStreamEvents K)
    (event : NormalizedPaperStreamEvent K) : PaperStreamEvents K :=
  table.insert event.stream_event_id event

/-- The columns of the `ORDER BY` of a replay, the most significant first. -/
def replay_key (event : NormalizedPaperStreamEvent K) :
    ℕ ×ₗ ℤ ×ₗ String ×ₗ String ×ₗ String :=
  toLex (if event.event_time_ms.isNone then 1 else 0,
    toLex (event.event_time_ms.getD 0,
      toLex (event.exchange_event_time.getD event.received_at_utc,
        toLex (event.received_at_utc, event.stream_event_id))))

/-- The order rows are replayed in. -/
def ReplaysBefore (a b : NormalizedPaperStreamEvent K) : Prop := replay_key a ≤ replay_key b

instance (a b : NormalizedPaperStreamEvent K) : Decidable (ReplaysBefore a b) :=
  inferInstanceAs (Decidable (_ ≤ _))

/-- The rows a replay of a session reads, in order. -/
def session_rows (table : PaperStreamEvents K) (session_id : String) :
    List (NormalizedPaperStreamEvent K) :=
  (table.values.filter fun row => row.session_id = session_id).insertionSort ReplaysBefore

/-! ## Replay -/

/-- The state a replay keeps for a symbol. -/
structure SymbolState (K : Type) where
  symbol : String
  best_bid : Option K
  best_ask : Option K
  bid_qty : Option K
  ask_qty : Option K
  last_trade_price : Option K
  last_trade_qty : Option K
  mark_price : Option K
  index_price : Option K
  funding_rate : Option K
  next_funding_time : Option String
  last_depth_update_id : Option ℤ
  depth_gap_count : ℕ
  force_order_count : ℕ
  event_count : ℕ
  last_received_at_utc : Option String
  last_exchange_event_time : Option String

/-- The state `setdefault` creates for a new symbol. -/
def SymbolState.fresh (symbol : String) : SymbolState K where
  symbol := symbol
  best_bid := none
  best_ask := none
  bid_qty := none
  ask_qty := none
  last_trade_price := none
  last_trade_qty := none
  mark_price := none
  index_price := none
  funding_rate := none
  next_funding_time := none
  last_depth_update_id := none
  depth_gap_count := 0
  force_order_count := 0
  event_count := 0
  last_received_at_utc := none
  last_exchange_event_time := none

/-- `depth_gap`: the test a replay makes on a depth update. -/
def depth_gap (previous_u previous_from_payload first_u : Option ℤ) : Bool :=
  match previous_u, previous_from_payload, first_u with
  -- `pu` decides where the payload has it; `U` only where it has not
  | some previous, some from_payload, _ => from_payload != previous
  | some previous, none, some first => decide (previous + 1 < first)
  | _, _, _ => false

/-- The local variables of the replay loop. -/
structure ReplayState (K : Type) where
  state : Dict String (SymbolState K)
  stream_counts : Dict String ℕ
  gap_count : ℕ
  duplicate_count : ℕ
  seen_hashes : Finset String

/-- The variables before the first row. -/
def ReplayState.initial : ReplayState K where
  state := ∅
  stream_counts := ∅
  gap_count := 0
  duplicate_count := 0
  seen_hashes := ∅

section Replay

variable [Field K] [LinearOrder K] [FloorRing K]

/-- `event_type`. -/
def event_type (rt : StreamRuntime K) (payload : JsonObject K) : String :=
  text_or rt.composite_text (payload.get "e") ""

/-- What a payload changes in the state of its symbol; the second component is
whether it counts as a depth gap. -/
def apply_stream_payload (rt : StreamRuntime K) (payload : JsonObject K) (s : SymbolState K) :
    SymbolState K × Bool :=
  let number key := float_or_none rt.parse_float (payload.get key)
  let event := event_type rt payload
  if event = "aggTrade" then
    ({ s with last_trade_price := number "p", last_trade_qty := number "q" }, false)
  else if event = "bookTicker" then
    ({ s with
        best_bid := number "b"
        best_ask := number "a"
        bid_qty := number "B"
        ask_qty := number "A" }, false)
  else if event = "markPriceUpdate" then
    ({ s with
        mark_price := number "p"
        index_price := number "i"
        funding_rate := number "r"
        next_funding_time := (int_or_none (payload.get "T")).map rt.ms_to_utc }, false)
  else if event = "depthUpdate" then
    let gap := depth_gap s.last_depth_update_id (int_or_none (payload.get "pu"))
      (int_or_none (payload.get "U"))
    ({ s with
        depth_gap_count := if gap then s.depth_gap_count + 1 else s.depth_gap_count
        last_depth_update_id := (int_or_none (payload.get "u")).or s.last_depth_update_id }, gap)
  else if event = "forceOrder" then
    ({ s with force_order_count := s.force_order_count + 1 }, false)
  else (s, false)

/-- The counting a replay does on every row. -/
def count_row (st : ReplayState K) (row : NormalizedPaperStreamEvent K) : ReplayState K :=
  { st with
    stream_counts :=
      st.stream_counts.insert row.stream_name
        ((st.stream_counts.lookup row.stream_name).getD 0 + 1)
    duplicate_count :=
      if row.payload_hash ∈ st.seen_hashes then st.duplicate_count + 1 else st.duplicate_count
    seen_hashes := insert row.payload_hash st.seen_hashes }

/-- One iteration of the replay loop. -/
def replay_row (rt : StreamRuntime K) (st : ReplayState K) (row : NormalizedPaperStreamEvent K) :
    ReplayState K :=
  -- a row that could not be parsed is counted, and read no further
  let counted := count_row st row
  match row.parse_status, row.symbol with
  | .parsed, some symbol =>
      if symbol = "" then counted
      else
        let before := (counted.state.lookup symbol).getD (SymbolState.fresh symbol)
        let seen : SymbolState K :=
          { before with
            event_count := before.event_count + 1
            last_received_at_utc := some row.received_at_utc
            last_exchange_event_time := row.exchange_event_time }
        let after := apply_stream_payload rt row.payload seen
        { counted with
          state := counted.state.insert symbol after.1
          gap_count := if after.2 then counted.gap_count + 1 else counted.gap_count }
  | _, _ => counted

/-- The replay of a list of rows. -/
def replay_rows (rt : StreamRuntime K) (rows : List (NormalizedPaperStreamEvent K)) :
    ReplayState K :=
  rows.foldl (replay_row rt) ReplayState.initial

/-- `replay_paper_stream_events`, but for the checksum of its result. -/
def replay_paper_stream_events (rt : StreamRuntime K) (table : PaperStreamEvents K)
    (session_id : String) : ReplayState K :=
  replay_rows rt (session_rows table session_id)

end Replay

/-! ## What is recorded is what is replayed -/

/-- Rows recorded under distinct ids and in replay order are read back as they
came. -/
theorem session_rows_record {rows : List (NormalizedPaperStreamEvent K)} {session_id : String}
    (hsession : ∀ row ∈ rows, row.session_id = session_id)
    (hids : (rows.map NormalizedPaperStreamEvent.stream_event_id).Nodup)
    (horder : rows.Pairwise ReplaysBefore) :
    session_rows (rows.foldl record_paper_stream_event ∅) session_id = rows := by
  have hvalues : Dict.values (rows.foldl record_paper_stream_event ∅) = rows.reverse := by
    have hstore := Dict.values_foldl_insert NormalizedPaperStreamEvent.stream_event_id id rows
      (∅ : PaperStreamEvents K) hids (fun row _ => AList.notMem_empty _)
    rwa [List.map_id, Dict.values_empty, List.append_nil] at hstore
  unfold session_rows
  rw [hvalues, List.filter_eq_self.mpr fun row hrow =>
    decide_eq_true (hsession row (List.mem_reverse.mp hrow))]
  -- both lists are sorted, and equal keys mean equal ids
  have : Std.Total (ReplaysBefore (K := K)) := ⟨fun a b => le_total (replay_key a) (replay_key b)⟩
  have : IsTrans _ (ReplaysBefore (K := K)) := ⟨fun _ _ _ => le_trans⟩
  refine List.Perm.eq_of_pairwise ?_ (List.pairwise_insertionSort ..) horder
    ((List.perm_insertionSort ..).trans (List.reverse_perm rows))
  intro a b ha hb hab hba
  have hkey : replay_key a = replay_key b := le_antisymm hab hba
  have hid : a.stream_event_id = b.stream_event_id :=
    congrArg (fun key => (ofLex (ofLex (ofLex (ofLex key).2).2).2).2) hkey
  have ha' : a ∈ rows := List.mem_reverse.mp ((List.perm_insertionSort ..).mem_iff.mp ha)
  exact List.inj_on_of_nodup_map hids ha' hb hid

end ProofAlpha.Execution
