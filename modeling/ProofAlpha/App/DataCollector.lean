/-
The status of a public stream capture: `app/data_collector.py`
(`_build_forward_capture_inventory` and what it calls).

A capture is ready when its events span the first window, both required streams of every
symbol are there, and the largest gap of a required stream is at most the setting: before
its first event, between its events, and from its last event to the latest activity of the
session. Gaps are whole seconds, rounded down.
-/
import ProofAlpha.Execution.PaperStreams
import ProofAlpha.Lib.RunningMaxima
import ProofAlpha.Lib.PyDatetime

set_option autoImplicit false

namespace ProofAlpha.App

open ProofAlpha.Lib
open ProofAlpha.Execution (NormalizedPaperStreamEvent PaperStreamEvents ParseStatus)

/-! ## Settings and rows -/

/-- `StrictDataCollectorSettings`, what the status of a capture reads of it. -/
structure StrictDataCollectorSettings where
  session_id : Option String := none
  symbols : List String := ["BTCUSDT", "ETHUSDT"]
  min_forward_seconds : ℤ := 28800
  target_forward_seconds : ℤ := 43200
  strong_forward_seconds : ℤ := 259200
  max_observed_gap_seconds : ℤ := 300

/-- A row of `paper_sessions`. -/
structure PaperSession where
  session_id : String
  status : String
  started_at_utc : String
  heartbeat_at_utc : Option String
  streams_json : String

/-- The database of a capture. -/
structure PublicWsDb (K : Type) where
  paper_sessions : List PaperSession
  paper_stream_events : PaperStreamEvents K

/-- How Python reads texts; `none` is a `ValueError`. -/
structure CollectorTexts (K : Type) where
  /-- `datetime.fromisoformat`. -/
  fromisoformat : String → Option PyDatetime
  /-- `json.loads`. -/
  loads : String → Option (JsonValue K)
  /-- `str(value)` of a float, a list or a dict. -/
  composite_text : JsonValue K → String

variable {K : Type} (texts : CollectorTexts K)

/-! ## Times -/

/-- `datetime.fromisoformat(value.replace("Z", "+00:00"))`. -/
def read_time (value : String) : Option PyDatetime :=
  texts.fromisoformat (String.ofList
    (value.toList.flatMap fun c => if c = 'Z' then "+00:00".toList else [c]))

/-- `datetime.min` in UTC. -/
def DATETIME_MIN : ℤ := (1 - EPOCH_ORDINAL) * DAY_US

/-- `_timestamp_sort_key`. -/
def timestamp_sort_key (value : String) : ℤ :=
  match read_time texts value with
  | some parsed => parsed.instant
  | none => DATETIME_MIN

/-- `_seconds_between`. -/
def seconds_between (start stop : Option String) (invalid_value : ℤ) : Except String ℤ :=
  match start.filter (· ≠ ""), stop.filter (· ≠ "") with
  | some start, some stop =>
      match read_time texts start, read_time texts stop with
      | some start_dt, some stop_dt =>
          if start_dt.utcoffset.isSome = stop_dt.utcoffset.isSome then
            .ok (max 0 ((stop_dt.instant - start_dt.instant).tdiv SECOND_US))
          else .error "TypeError: can't subtract offset-naive and offset-aware datetimes"
      | _, _ => .ok invalid_value
  | _, _ => .ok invalid_value

/-- `_latest_timestamp`. -/
def latest_timestamp (values : List (Option String)) : Option String :=
  let candidates := (values.reduceOption).filter (· ≠ "")
  let valid := candidates.filter fun value => timestamp_sort_key texts value ≠ DATETIME_MIN
  first_max (fun value kept =>
    decide (timestamp_sort_key texts kept < timestamp_sort_key texts value)) valid

/-! ## The rows of a session -/

/-- `WHERE session_id = ? AND parse_status = 'parsed'`. -/
def parsed_events (table : PaperStreamEvents K) (session_id : String) :
    List (NormalizedPaperStreamEvent K) :=
  table.values.filter fun row => row.session_id = session_id ∧ row.parse_status = .parsed

/-- `MIN(received_at_utc)`, if there is one. -/
def first_event (events : List (NormalizedPaperStreamEvent K)) : Option String :=
  ((events.map NormalizedPaperStreamEvent.received_at_utc).argmin id).filter (· ≠ "")

/-- `MAX(received_at_utc)`, if there is one. -/
def latest_event (events : List (NormalizedPaperStreamEvent K)) : Option String :=
  ((events.map NormalizedPaperStreamEvent.received_at_utc).argmax id).filter (· ≠ "")

/-- `stream_time_rows`. -/
def stream_time_rows (events : List (NormalizedPaperStreamEvent K)) : List (String × String) :=
  (events.insertionSort fun a b =>
      (toLex (a.stream_name, toLex (a.received_at_utc, a.stream_event_id)) :
        String ×ₗ String ×ₗ String)
      ≤ toLex (b.stream_name, toLex (b.received_at_utc, b.stream_event_id))).map fun event =>
    (event.stream_name, event.received_at_utc)

/-- `stream_counts`. -/
def stream_counts (events : List (NormalizedPaperStreamEvent K)) : List (String × ℕ) :=
  let names := events.map NormalizedPaperStreamEvent.stream_name
  (names.dedup.insertionSort (· ≤ ·)).map fun stream_name => (stream_name, names.count stream_name)

/-- `_latest_public_ws_session`. -/
def latest_public_ws_session (sessions : List PaperSession) : Option String :=
  (sessions.argmax fun session =>
      (toLex (session.started_at_utc, session.session_id) : String ×ₗ String)).map
    PaperSession.session_id

/-! ## Required streams -/

/-- The streams of a symbol that must not have a gap. -/
def STREAM_KINDS : List String := ["bookTicker", "markPrice@1s"]

/-- The name of a stream. -/
def stream_name (symbol stream_kind : String) : String := pyLower symbol ++ "@" ++ stream_kind

/-- `required_streams`. -/
def required_streams (settings : StrictDataCollectorSettings) : List String :=
  (settings.symbols.flatMap fun symbol => STREAM_KINDS.map (stream_name symbol)).dedup

/-- An item of `_stream_requirements`. -/
structure StreamRequirement where
  stream : String
  count : ℕ
  event_driven_zero_events_allowed : Bool
  ready : Bool

/-- `_stream_requirements`. -/
def stream_requirements (settings : StrictDataCollectorSettings) (streams : List String)
    (counts : List (String × ℕ)) : List StreamRequirement :=
  let count_of (name : String) : ℕ := (List.lookup name counts).getD 0
  settings.symbols.flatMap fun symbol =>
    (STREAM_KINDS.map fun stream_kind =>
        ⟨stream_name symbol stream_kind, count_of (stream_name symbol stream_kind), false,
          decide (0 < count_of (stream_name symbol stream_kind))⟩)
      -- a forced order is rare, so its stream only has to be subscribed
      ++ [⟨stream_name symbol "forceOrder", count_of (stream_name symbol "forceOrder"), true,
        decide ("forceorder" ∈ streams.map pyLower)⟩]

/-- The gaps of one stream, `none` with fewer than two events. -/
def stream_gaps (invalid_value : ℤ) (stream_times : List (String × String))
    (window_start window_end : Option String) (stream : String) :
    Except String (Option (List ℤ)) :=
  let timestamps := ((stream_times.filter fun row => row.1 = stream).map Prod.snd).insertionSort
    fun a b => timestamp_sort_key texts a ≤ timestamp_sort_key texts b
  if timestamps.length < 2 then .ok none
  else do
    let leading ← (window_start.toList).mapM fun start =>
      seconds_between texts (some start) timestamps.head? invalid_value
    let inner ← (timestamps.zip timestamps.tail).mapM fun pair =>
      seconds_between texts (some pair.1) (some pair.2) invalid_value
    let trailing ← (window_end.toList).mapM fun stop =>
      seconds_between texts timestamps.getLast? (some stop) invalid_value
    return some (leading ++ inner ++ trailing)

/-- The gaps of the streams, `none` as soon as one has fewer than two events. -/
def required_gaps (gaps_of : String → Except String (Option (List ℤ))) :
    List String → Except String (Option (List ℤ))
  | [] => .ok (some [])
  | stream :: rest => do
      match ← gaps_of stream with
      | none => .ok none
      | some gaps => return (← required_gaps gaps_of rest).map fun others => gaps ++ others

/-- `_max_required_stream_gap_seconds`. The set of streams is gone through in some order. -/
def max_required_stream_gap_seconds (settings : StrictDataCollectorSettings)
    (stream_times : List (String × String)) (window_start window_end : Option String) :
    Except String (Option ℤ) := do
  let gaps ← required_gaps
    (stream_gaps texts (settings.max_observed_gap_seconds + 1) stream_times
      (window_start.filter (· ≠ "")) (window_end.filter (· ≠ "")))
    (required_streams settings)
  return gaps.bind List.max?

/-! ## The status -/

/-- The status of a capture. -/
structure ForwardCapture where
  status : String
  session_id : Option String
  first_event_at_utc : Option String
  latest_event_at_utc : Option String
  observed_seconds : ℤ
  event_count : ℕ
  stream_counts : List (String × ℕ)
  required_streams_ready : Bool
  stream_requirements : List StreamRequirement
  continuous_window_ready : Bool
  max_required_stream_gap_seconds : Option ℤ
  latest_activity_at_utc : Option String
  stale_seconds : ℤ
  first_window_ready : Bool
  target_window_ready : Bool
  strong_window_ready : Bool
  remaining_to_first_window_seconds : ℤ

/-- `_empty_forward_capture`. -/
def empty_forward_capture (settings : StrictDataCollectorSettings) (status : String)
    (session_id : Option String) : ForwardCapture where
  status := status
  session_id := session_id
  first_event_at_utc := none
  latest_event_at_utc := none
  observed_seconds := 0
  event_count := 0
  stream_counts := []
  required_streams_ready := false
  stream_requirements := []
  continuous_window_ready := false
  max_required_stream_gap_seconds := none
  latest_activity_at_utc := none
  stale_seconds := 0
  first_window_ready := false
  target_window_ready := false
  strong_window_ready := false
  remaining_to_first_window_seconds := settings.min_forward_seconds

/-- `[str(item) for item in _loads_json_list(text)]`. -/
def loads_json_texts (text : String) : List String :=
  match texts.loads text with
  | some (.list items) => items.map (py_str texts.composite_text)
  | _ => []

/-- `latest_activity_at`. -/
def latest_activity (session : PaperSession) (events : List (NormalizedPaperStreamEvent K)) :
    Option String :=
  latest_timestamp texts [latest_event events, session.heartbeat_at_utc.filter (· ≠ "")]

/-- `stale_seconds`. -/
def stale_seconds_at (latest_activity_at : Option String) (now_utc : String) : Except String ℤ :=
  if latest_activity_at.isSome then seconds_between texts latest_activity_at (some now_utc) 0
  else .ok 0

/-- The status of a session that is in the database. -/
def session_capture (settings : StrictDataCollectorSettings) (session : PaperSession)
    (events : List (NormalizedPaperStreamEvent K)) (now_utc : String) :
    Except String ForwardCapture := do
  let counts := stream_counts events
  let observed_seconds ← seconds_between texts (first_event events) (latest_event events) 0
  let latest_activity_at := latest_activity texts session events
  let stale_seconds ← stale_seconds_at texts latest_activity_at now_utc
  let requirements := stream_requirements settings (loads_json_texts texts session.streams_json)
    counts
  let required_streams_ready := requirements.all StreamRequirement.ready
  let max_gap ← max_required_stream_gap_seconds texts settings (stream_time_rows events)
    (some ((first_event events).getD session.started_at_utc)) latest_activity_at
  let gaps_ready := max_gap.any fun gap => gap ≤ settings.max_observed_gap_seconds
  let window_ready (forward_seconds : ℤ) : Bool :=
    decide (forward_seconds ≤ observed_seconds) && required_streams_ready && gaps_ready
  let first_window_ready := window_ready settings.min_forward_seconds
  return {
    status :=
      if session.status = "running" ∧ settings.max_observed_gap_seconds < stale_seconds then
        if first_window_ready then "stale_complete" else "stale_incomplete"
      else if session.status = "completed" ∧ ¬ first_window_ready then "completed_incomplete"
      else session.status
    session_id := some session.session_id
    first_event_at_utc := first_event events
    latest_event_at_utc := latest_event events
    observed_seconds := observed_seconds
    event_count := events.length
    stream_counts := counts
    required_streams_ready := required_streams_ready
    stream_requirements := requirements
    continuous_window_ready :=
      decide (settings.min_forward_seconds ≤ observed_seconds) && gaps_ready
    max_required_stream_gap_seconds := max_gap
    latest_activity_at_utc := latest_activity_at
    stale_seconds := stale_seconds
    first_window_ready := first_window_ready
    target_window_ready := window_ready settings.target_forward_seconds
    strong_window_ready := window_ready settings.strong_forward_seconds
    remaining_to_first_window_seconds := max 0 (settings.min_forward_seconds - observed_seconds) }

/-- `_build_forward_capture_inventory`, of a database that may be missing. -/
def build_forward_capture_inventory (settings : StrictDataCollectorSettings)
    (public_ws_db : Option (PublicWsDb K)) (now_utc : String) : Except String ForwardCapture :=
  match public_ws_db with
  | none => .ok (empty_forward_capture settings "missing_db" none)
  | some db =>
      match ((settings.session_id.filter (· ≠ "")).or
          (latest_public_ws_session db.paper_sessions)).filter (· ≠ "") with
      | none => .ok (empty_forward_capture settings "missing_session" none)
      | some session_id =>
          match db.paper_sessions.find? fun session => session.session_id = session_id with
          | none => .ok (empty_forward_capture settings "missing_session" (some session_id))
          | some session =>
              session_capture texts settings session
                (parsed_events db.paper_stream_events session_id) now_utc

end ProofAlpha.App
