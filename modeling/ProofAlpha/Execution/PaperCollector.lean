/-
The live collector: `execution/paper_collector.py`, the counters a session keeps
(`_CollectorState`) and the recording of its messages.

`collect` is the message loop of `run_paper_ws_collector_fixture`: the live state
and the record are written side by side, one message after the other, each row
under an id that ends in the ordinal of its message.
-/
import ProofAlpha.Execution.PaperStreams

set_option autoImplicit false

namespace ProofAlpha.Execution

open ProofAlpha.Lib

variable {K : Type} [Field K] [LinearOrder K]

/-! ## The counters -/

/-- `_CollectorState`, the counters its messages touch. -/
structure CollectorState (K : Type) where
  max_stream_staleness_seconds : K
  message_count : ℕ
  recorded_event_count : ℕ
  reconnect_count : ℕ
  duplicate_count : ℕ
  gap_count : ℕ
  dropped_count : ℕ
  parse_error_count : ℕ
  stale_stream_count : ℕ
  last_seen_at : Option String
  last_lag_ms : Option K
  seen_payload_hashes : Finset String
  last_sequence_by_stream : Dict String ℤ
  last_received_by_stream : Dict String String

/-- `_CollectorState.__init__`. -/
def CollectorState.initial (max_stream_staleness_seconds : K) : CollectorState K where
  max_stream_staleness_seconds := max_stream_staleness_seconds
  message_count := 0
  recorded_event_count := 0
  reconnect_count := 0
  duplicate_count := 0
  gap_count := 0
  dropped_count := 0
  parse_error_count := 0
  stale_stream_count := 0
  last_seen_at := none
  last_lag_ms := none
  seen_payload_hashes := ∅
  last_sequence_by_stream := ∅
  last_received_by_stream := ∅

/-- The metadata `update_message` returns; the three flags are keys that are
present only when they hold. -/
structure MessageMetadata where
  message_count : ℕ
  recorded_event_count : ℕ
  reconnect_count : ℕ
  dropped_count : ℕ
  duplicate : Bool
  gap : Bool
  stale_stream_state : Bool

/-- `_seconds_between`. -/
def seconds_between (rt : StreamRuntime K) (started_at stopped_at : String) : K :=
  match rt.utc_micros started_at, rt.utc_micros stopped_at with
  | some start, some stop => max 0 (((stop - start : ℤ) : K) / 1000000)
  | _, _ => 0

/-- `_int_or_none(event.sequence_id)`. -/
def sequence (event : NormalizedPaperStreamEvent K) : Option ℤ :=
  event.sequence_id.bind int_of_text

/-- The test the collector makes on a message: its sequence number skips at least
one after the last number seen on its stream. -/
def sequence_gap (previous sequence : Option ℤ) : Bool :=
  match previous, sequence with
  | some previous, some sequence => decide (previous + 1 < sequence)
  | _, _ => false

/-- `_CollectorState.update_message`. -/
def update_message (rt : StreamRuntime K) (st : CollectorState K)
    (event : NormalizedPaperStreamEvent K) : CollectorState K × MessageMetadata :=
  -- all three flags are read off the state before the message
  let duplicate := decide (event.payload_hash ∈ st.seen_payload_hashes)
  let gap := sequence_gap (st.last_sequence_by_stream.lookup event.stream_name) (sequence event)
  let stale :=
    match st.last_received_by_stream.lookup event.stream_name with
    | some previous_received =>
        decide (previous_received ≠ ""
          ∧ st.max_stream_staleness_seconds
            < seconds_between rt previous_received event.received_at_utc)
    | none => false
  ({ st with
      message_count := st.message_count + 1
      recorded_event_count := st.recorded_event_count + 1
      duplicate_count := if duplicate then st.duplicate_count + 1 else st.duplicate_count
      gap_count := if gap then st.gap_count + 1 else st.gap_count
      parse_error_count :=
        if event.parse_status = .parsed then st.parse_error_count else st.parse_error_count + 1
      stale_stream_count := if stale then st.stale_stream_count + 1 else st.stale_stream_count
      last_seen_at := some event.received_at_utc
      last_lag_ms := event.lag_ms
      seen_payload_hashes := insert event.payload_hash st.seen_payload_hashes
      last_sequence_by_stream :=
        -- a message without a number leaves the last one standing
        match sequence event with
        | some number => st.last_sequence_by_stream.insert event.stream_name number
        | none => st.last_sequence_by_stream
      last_received_by_stream :=
        st.last_received_by_stream.insert event.stream_name event.received_at_utc },
    { message_count := st.message_count + 1
      recorded_event_count := st.recorded_event_count + 1
      reconnect_count := st.reconnect_count
      dropped_count := st.dropped_count
      duplicate := duplicate
      gap := gap
      stale_stream_state := stale })

/-! ## Recording -/

/-- A message item of a collector run. -/
structure CollectorItem (K : Type) where
  stream_name : String
  payload : JsonValue K
  received_at_utc : String

/-- The fields of an item's payload. -/
def CollectorItem.fields (item : CollectorItem K) : JsonObject K :=
  match item.payload with
  | .dict fields => fields
  | _ => []

/-- The item is a message: its payload is an object and its stream has a name. -/
def CollectorItem.IsMessage (item : CollectorItem K) : Prop :=
  item.payload = .dict item.fields ∧ item.stream_name ≠ ""

/-- The row of an event, its id ending in the ordinal of the message. -/
def recorded_row (event : NormalizedPaperStreamEvent K) (ordinal : ℕ) :
    NormalizedPaperStreamEvent K :=
  { event with stream_event_id := event.stream_event_id ++ ":" ++ toString ordinal }

section Collect

variable [FloorRing K]

/-- The event an item is normalised to. -/
def CollectorItem.event (rt : StreamRuntime K) (session_id : String) (item : CollectorItem K) :
    NormalizedPaperStreamEvent K :=
  normalize_binance_usdm_ws_event rt session_id item.stream_name item.fields item.received_at_utc

/-- `_record_message`. -/
def record_message (rt : StreamRuntime K) (session_id : String)
    (st : CollectorState K × PaperStreamEvents K) (item : CollectorItem K) (ordinal : ℕ) :
    CollectorState K × PaperStreamEvents K :=
  match item.payload with
  | .dict _ =>
      if item.stream_name = "" then ({ st.1 with dropped_count := st.1.dropped_count + 1 }, st.2)
      else
        ((update_message rt st.1 (item.event rt session_id)).1,
          record_paper_stream_event st.2 (recorded_row (item.event rt session_id) ordinal))
  | _ => ({ st.1 with dropped_count := st.1.dropped_count + 1 }, st.2)

/-- The message loop of a collector run; ordinals count from one. -/
def collect (rt : StreamRuntime K) (session_id : String) (max_stream_staleness_seconds : K)
    (items : List (CollectorItem K)) : CollectorState K × PaperStreamEvents K :=
  (items.zipIdx 1).foldl (fun st message => record_message rt session_id st message.1 message.2)
    (CollectorState.initial max_stream_staleness_seconds, ∅)

/-- The rows a run of messages records, in order. -/
def recorded_rows (rt : StreamRuntime K) (session_id : String) (items : List (CollectorItem K)) :
    List (NormalizedPaperStreamEvent K) :=
  (items.zipIdx 1).map fun message => recorded_row (message.1.event rt session_id) message.2

/-- What one message adds to a run. -/
theorem collect_append_singleton (rt : StreamRuntime K) (session_id : String) (max_stale : K)
    (items : List (CollectorItem K)) (item : CollectorItem K) :
    collect rt session_id max_stale (items ++ [item])
      = record_message rt session_id (collect rt session_id max_stale items) item
        (1 + items.length) := by
  unfold collect
  rw [List.zipIdx_append, List.foldl_append]
  rfl

theorem record_message_of_isMessage (rt : StreamRuntime K) (session_id : String)
    (st : CollectorState K × PaperStreamEvents K) {item : CollectorItem K} (ordinal : ℕ)
    (h : item.IsMessage) :
    record_message rt session_id st item ordinal
      = ((update_message rt st.1 (item.event rt session_id)).1,
        record_paper_stream_event st.2 (recorded_row (item.event rt session_id) ordinal)) := by
  unfold record_message
  -- the object test passes, and so does that of the stream name
  rw [h.1]
  exact if_neg h.2

/-- The record of a run of messages holds exactly the rows of its messages. -/
theorem collect_record (rt : StreamRuntime K) (session_id : String) (max_stale : K)
    {items : List (CollectorItem K)} (h : ∀ item ∈ items, item.IsMessage) :
    (collect rt session_id max_stale items).2
      = (recorded_rows rt session_id items).foldl record_paper_stream_event ∅ := by
  induction items using List.reverseRecOn with
  | nil => rfl
  | append_singleton items item ih =>
      have hitem : item.IsMessage := h item (List.mem_append_right _ (List.mem_singleton_self _))
      have hitems := ih fun x hx => h x (List.mem_append_left _ hx)
      rw [collect_append_singleton, record_message_of_isMessage _ _ _ _ hitem, hitems]
      unfold recorded_rows
      rw [List.zipIdx_append, List.map_append, List.foldl_append]
      rfl

/-- Two ids that end in ordinals are the same only for the same ordinal: no
ordinal contains the colon before it. -/
theorem ordinal_suffix_injective {a b : String} {i j : ℕ}
    (h : a ++ ":" ++ toString i = b ++ ":" ++ toString j) : i = j := by
  have hcolon : ∀ (n : ℕ) (c : Char), c ∈ (Nat.toDigits 10 n).reverse → (c != ':') = true := by
    intro n c hc
    have hdigit : c.isDigit = true :=
      Nat.isDigit_of_mem_toDigits (by decide) (by decide) (List.mem_reverse.mp hc)
    refine bne_iff_ne.mpr ?_
    rintro rfl
    exact absurd hdigit (by decide)
  -- read backwards up to the colon, each side is its ordinal
  have htail : ∀ (s : String) (n : ℕ), ((s ++ ":" ++ toString n).toList.reverse.takeWhile (· != ':'))
      = (Nat.toDigits 10 n).reverse := by
    intro s n
    have hlist : (s ++ ":" ++ toString n).toList = s.toList ++ ':' :: Nat.toDigits 10 n := by
      rw [String.toList_append, String.toList_append, Nat.toString_eq_repr, Nat.toList_repr,
        List.append_assoc]
      rfl
    rw [hlist, List.reverse_append, List.reverse_cons, List.append_assoc,
      List.takeWhile_append_of_pos (hcolon n)]
    simp
  have hdigits : Nat.toDigits 10 i = Nat.toDigits 10 j := by
    rw [← List.reverse_inj, ← htail a i, ← htail b j, h]
  rw [← Nat.ofDigitChars_ten_toDigits (n := i), hdigits, Nat.ofDigitChars_ten_toDigits]

/-- No two messages of a run are recorded under one id. -/
theorem recorded_rows_ids_nodup (rt : StreamRuntime K) (session_id : String)
    (items : List (CollectorItem K)) :
    ((recorded_rows rt session_id items).map NormalizedPaperStreamEvent.stream_event_id).Nodup := by
  unfold recorded_rows
  rw [List.map_map]
  have hordinals : ((items.zipIdx 1).map Prod.snd).Nodup := by
    rw [List.zipIdx_map_snd]
    exact List.nodup_range'
  -- the ids are distinct because the ordinals are
  refine List.Nodup.of_map Prod.snd ?_ |>.map_on ?_
  · exact hordinals
  · intro x hx y hy hid
    have hsame : x.2 = y.2 := ordinal_suffix_injective hid
    exact List.inj_on_of_nodup_map hordinals hx hy hsame

end Collect

end ProofAlpha.Execution
