/-
Live gap counting against replayed gap counting.

The collector numbers a message by the first of its ids (`u` for a depth update)
and counts a gap when the number skips one on its stream; a replay compares the
previous-final-update id `pu` with the last `u` it saw for the symbol, and `U`
with it where `pu` is missing. `SameGapTest` says that the two tests come out the
same on a message after the messages before it, and
`collector_gap_count_eq_replay` that the two counts agree throughout a run of
depth messages exactly when every message passes it.
-/
import ProofAlpha.Execution.PaperCollector

set_option autoImplicit false

namespace ProofAlpha.Execution

open ProofAlpha.Lib

variable {K : Type} [Field K] [LinearOrder K]

/-! ## The two tests, read off the earlier messages -/

/-- The last sequence number seen on a stream. -/
def last_sequence (earlier : List (NormalizedPaperStreamEvent K)) (stream_name : String) :
    Option ℤ :=
  earlier.foldl
    (fun last event => if event.stream_name = stream_name then (sequence event).or last else last)
    none

section Tests

variable [FloorRing K]

/-- The last final update id seen. -/
def last_final_id (earlier : List (NormalizedPaperStreamEvent K)) : Option ℤ :=
  earlier.foldl (fun last event => (int_or_none (event.payload.get "u")).or last) none

/-- The live test and the replay test of a message come out the same. -/
def SameGapTest (earlier : List (NormalizedPaperStreamEvent K))
    (event : NormalizedPaperStreamEvent K) : Prop :=
  sequence_gap (last_sequence earlier event.stream_name) (sequence event)
    = depth_gap (last_final_id earlier) (int_or_none (event.payload.get "pu"))
        (int_or_none (event.payload.get "U"))

instance (earlier : List (NormalizedPaperStreamEvent K)) (event : NormalizedPaperStreamEvent K) :
    Decidable (SameGapTest earlier event) :=
  inferInstanceAs (Decidable (_ = _))

omit [Field K] [LinearOrder K] [FloorRing K] in
theorem last_sequence_append_singleton (earlier : List (NormalizedPaperStreamEvent K))
    (event : NormalizedPaperStreamEvent K) (stream_name : String) :
    last_sequence (earlier ++ [event]) stream_name
      = if event.stream_name = stream_name then
          (sequence event).or (last_sequence earlier stream_name)
        else last_sequence earlier stream_name := by
  rw [last_sequence, List.foldl_append]
  rfl

theorem last_final_id_append_singleton (earlier : List (NormalizedPaperStreamEvent K))
    (event : NormalizedPaperStreamEvent K) :
    last_final_id (earlier ++ [event])
      = (int_or_none (event.payload.get "u")).or (last_final_id earlier) := by
  rw [last_final_id, List.foldl_append]
  rfl

end Tests

/-! ## The live count -/

/-- The collector state after a list of events. -/
def live (rt : StreamRuntime K) (max_stale : K) (events : List (NormalizedPaperStreamEvent K)) :
    CollectorState K :=
  events.foldl (fun st event => (update_message rt st event).1) (CollectorState.initial max_stale)

theorem live_append_singleton (rt : StreamRuntime K) (max_stale : K)
    (events : List (NormalizedPaperStreamEvent K)) (event : NormalizedPaperStreamEvent K) :
    live rt max_stale (events ++ [event])
      = (update_message rt (live rt max_stale events) event).1 := by
  rw [live, List.foldl_append]
  rfl

/-- The number kept for a stream is the last one seen on it. -/
theorem live_last_sequence (rt : StreamRuntime K) (max_stale : K)
    (events : List (NormalizedPaperStreamEvent K)) (stream_name : String) :
    (live rt max_stale events).last_sequence_by_stream.lookup stream_name
      = last_sequence events stream_name := by
  induction events using List.reverseRecOn with
  | nil => rfl
  | append_singleton events event ih =>
      rw [live_append_singleton, last_sequence_append_singleton]
      unfold update_message
      dsimp only
      -- a message without a number leaves its stream's number as it was
      cases hsequence : sequence event with
      | none =>
          rw [Option.none_or, ih, ite_self]
      | some number =>
          by_cases hstream : event.stream_name = stream_name
          · subst hstream
            rw [if_pos rfl]
            exact AList.lookup_insert _
          · rw [if_neg hstream, ← ih]
            exact AList.lookup_insert_ne (Ne.symm hstream)

/-- A message raises the live count exactly when the live test holds. -/
theorem live_gap_count_succ (rt : StreamRuntime K) (max_stale : K)
    (events : List (NormalizedPaperStreamEvent K)) (event : NormalizedPaperStreamEvent K) :
    (live rt max_stale (events ++ [event])).gap_count
      = (live rt max_stale events).gap_count
        + (sequence_gap (last_sequence events event.stream_name) (sequence event)).toNat := by
  rw [live_append_singleton, ← live_last_sequence rt max_stale]
  unfold update_message
  dsimp only
  cases sequence_gap _ (sequence event) <;> rfl

/-! ## The replayed count -/

section Replay

variable [FloorRing K]

/-- A parsed depth update of a symbol. -/
structure IsDepthUpdate (rt : StreamRuntime K) (symbol : String)
    (event : NormalizedPaperStreamEvent K) : Prop where
  parsed : event.parse_status = .parsed
  of_symbol : event.symbol = some symbol
  named : symbol ≠ ""
  depth : event_type rt event.payload = "depthUpdate"

/-- A depth update sets the symbol's update id and counts its gap. -/
theorem apply_stream_payload_depth {rt : StreamRuntime K} {payload : JsonObject K}
    (hdepth : event_type rt payload = "depthUpdate") (s : SymbolState K) :
    apply_stream_payload rt payload s
      = ({ s with
            depth_gap_count :=
              if depth_gap s.last_depth_update_id (int_or_none (payload.get "pu"))
                (int_or_none (payload.get "U")) then s.depth_gap_count + 1
              else s.depth_gap_count
            last_depth_update_id := (int_or_none (payload.get "u")).or s.last_depth_update_id },
          depth_gap s.last_depth_update_id (int_or_none (payload.get "pu"))
            (int_or_none (payload.get "U"))) := by
  unfold apply_stream_payload
  dsimp only
  rw [hdepth]
  simp

/-- What a row with a depth update does to the replay. -/
theorem replay_row_depth {rt : StreamRuntime K} {symbol : String}
    {row : NormalizedPaperStreamEvent K} (h : IsDepthUpdate rt symbol row) (st : ReplayState K) :
    let previous := ((st.state.lookup symbol).getD (SymbolState.fresh symbol)).last_depth_update_id
    (∃ after : SymbolState K, (replay_row rt st row).state = st.state.insert symbol after
        ∧ after.last_depth_update_id = (int_or_none (row.payload.get "u")).or previous)
      ∧ (replay_row rt st row).gap_count
        = st.gap_count + (depth_gap previous (int_or_none (row.payload.get "pu"))
            (int_or_none (row.payload.get "U"))).toNat := by
  intro previous
  unfold replay_row
  -- counting the row and marking it as seen touch neither id nor gap count
  simp only [h.parsed, h.of_symbol, if_neg h.named, apply_stream_payload_depth h.depth]
  refine ⟨⟨_, rfl, rfl⟩, ?_⟩
  change (if depth_gap previous _ _ = true then st.gap_count + 1 else st.gap_count) = _
  cases depth_gap previous (int_or_none (row.payload.get "pu")) (int_or_none (row.payload.get "U"))
  · rfl
  · rfl

theorem replay_rows_append_singleton (rt : StreamRuntime K)
    (rows : List (NormalizedPaperStreamEvent K)) (row : NormalizedPaperStreamEvent K) :
    replay_rows rt (rows ++ [row]) = replay_row rt (replay_rows rt rows) row := by
  rw [replay_rows, List.foldl_append]
  rfl

/-- The update id kept for the symbol is the last one seen. -/
theorem replay_last_final_id {rt : StreamRuntime K} {symbol : String}
    {rows : List (NormalizedPaperStreamEvent K)}
    (h : ∀ row ∈ rows, IsDepthUpdate rt symbol row) :
    (((replay_rows rt rows).state.lookup symbol).getD
        (SymbolState.fresh symbol)).last_depth_update_id = last_final_id rows := by
  induction rows using List.reverseRecOn with
  | nil => rfl
  | append_singleton rows row ih =>
      have hrow : IsDepthUpdate rt symbol row :=
        h row (List.mem_append_right _ (List.mem_singleton_self _))
      have hrows := ih fun x hx => h x (List.mem_append_left _ hx)
      obtain ⟨⟨after, hstate, hafter⟩, -⟩ := replay_row_depth hrow (replay_rows rt rows)
      rw [replay_rows_append_singleton, hstate, AList.lookup_insert, Option.getD_some, hafter,
        hrows, last_final_id_append_singleton]

/-- A row raises the replayed count exactly when the replay test holds. -/
theorem replay_gap_count_succ {rt : StreamRuntime K} {symbol : String}
    {rows : List (NormalizedPaperStreamEvent K)} {row : NormalizedPaperStreamEvent K}
    (h : ∀ row ∈ rows, IsDepthUpdate rt symbol row) (hrow : IsDepthUpdate rt symbol row) :
    (replay_rows rt (rows ++ [row])).gap_count
      = (replay_rows rt rows).gap_count
        + (depth_gap (last_final_id rows) (int_or_none (row.payload.get "pu"))
            (int_or_none (row.payload.get "U"))).toNat := by
  obtain ⟨-, hcount⟩ := replay_row_depth hrow (replay_rows rt rows)
  rw [replay_rows_append_singleton, hcount, replay_last_final_id h]

end Replay

/-! ## Both counts over a run -/

/-- Two counters that start together and rise by one where a flag holds agree
throughout exactly when their flags do. -/
theorem counters_agree_iff {n : ℕ} {f g : ℕ → ℕ} {a b : ∀ k, k < n → Bool} (h0 : f 0 = g 0)
    (hf : ∀ k hk, f (k + 1) = f k + (a k hk).toNat)
    (hg : ∀ k hk, g (k + 1) = g k + (b k hk).toNat) :
    (∀ k, k ≤ n → f k = g k) ↔ ∀ k hk, a k hk = b k hk := by
  constructor
  · intro h k hk
    have hbefore : f k = g k := h k (Nat.le_of_lt hk)
    have hstep : f k + (a k hk).toNat = g k + (b k hk).toNat := by
      rw [← hf k hk, ← hg k hk]
      exact h (k + 1) hk
    -- equal before and after, the counters rose by the same
    rw [hbefore, Nat.add_left_cancel_iff] at hstep
    rw [← Bool.ofNat_toNat (a k hk), hstep, Bool.ofNat_toNat]
  · intro h k
    induction k with
    | zero =>
        intro _
        exact h0
    | succ k ih =>
        intro hk
        rw [hf k hk, hg k hk, ih (Nat.le_of_succ_le hk), h k hk]

section Run

variable [FloorRing K] (rt : StreamRuntime K) (session_id : String) (max_stale : K)

/-- The gap count the collector has after a run of messages. -/
def collector_gap_count (items : List (CollectorItem K)) : ℕ :=
  (collect rt session_id max_stale items).1.gap_count

/-- The gap count a replay of the record of that run computes. -/
def replayed_gap_count (items : List (CollectorItem K)) : ℕ :=
  (replay_paper_stream_events rt (collect rt session_id max_stale items).2 session_id).gap_count

/-- The events the messages of a run are normalised to. -/
def events_of (items : List (CollectorItem K)) : List (NormalizedPaperStreamEvent K) :=
  items.map fun item => item.event rt session_id

/-- A message with a parsed depth update of a symbol. -/
def IsDepthMessage (symbol : String) (item : CollectorItem K) : Prop :=
  item.IsMessage ∧ IsDepthUpdate rt symbol (item.event rt session_id)

theorem collect_live {items : List (CollectorItem K)} (h : ∀ item ∈ items, item.IsMessage) :
    (collect rt session_id max_stale items).1 = live rt max_stale (events_of rt session_id items) := by
  induction items using List.reverseRecOn with
  | nil => rfl
  | append_singleton items item ih =>
      have hitem : item.IsMessage := h item (List.mem_append_right _ (List.mem_singleton_self _))
      have hitems := ih fun x hx => h x (List.mem_append_left _ hx)
      rw [collect_append_singleton, record_message_of_isMessage _ _ _ _ hitem, hitems]
      unfold events_of
      rw [List.map_append, List.map_singleton, live_append_singleton]

omit [FloorRing K] in
/-- The ordinal in its id leaves a row a depth update. -/
theorem isDepthUpdate_recorded_row {rt : StreamRuntime K} {symbol : String}
    {event : NormalizedPaperStreamEvent K} (h : IsDepthUpdate rt symbol event) (ordinal : ℕ) :
    IsDepthUpdate rt symbol (recorded_row event ordinal) :=
  ⟨h.parsed, h.of_symbol, h.named, h.depth⟩

theorem recorded_rows_append_singleton (items : List (CollectorItem K)) (item : CollectorItem K) :
    recorded_rows rt session_id (items ++ [item])
      = recorded_rows rt session_id items
        ++ [recorded_row (item.event rt session_id) (1 + items.length)] := by
  unfold recorded_rows
  rw [List.zipIdx_append, List.map_append]
  rfl

/-- The rows carry the update ids of their events. -/
theorem last_final_id_recorded_rows (items : List (CollectorItem K)) :
    last_final_id (recorded_rows rt session_id items)
      = last_final_id (events_of rt session_id items) := by
  induction items using List.reverseRecOn with
  | nil => rfl
  | append_singleton items item ih =>
      unfold events_of at ih ⊢
      rw [recorded_rows_append_singleton, List.map_append, List.map_singleton,
        last_final_id_append_singleton, last_final_id_append_singleton, ih]
      rfl

theorem isDepthUpdate_recorded_rows {symbol : String} {items : List (CollectorItem K)}
    (h : ∀ item ∈ items, IsDepthMessage rt session_id symbol item) :
    ∀ row ∈ recorded_rows rt session_id items, IsDepthUpdate rt symbol row := by
  intro row hrow
  obtain ⟨⟨item, ordinal⟩, hmem, rfl⟩ := List.mem_map.mp hrow
  exact isDepthUpdate_recorded_row (h item (List.fst_mem_of_mem_zipIdx hmem)).2 ordinal

/-- A run recorded in replay order is replayed as it came. -/
theorem replayed_gap_count_eq {symbol : String} {items : List (CollectorItem K)}
    (hdepth : ∀ item ∈ items, IsDepthMessage rt session_id symbol item)
    (horder : (recorded_rows rt session_id items).Pairwise ReplaysBefore) :
    replayed_gap_count rt session_id max_stale items
      = (replay_rows rt (recorded_rows rt session_id items)).gap_count := by
  -- the session filter drops no row, and the ids keep every row apart
  have hsession : ∀ row ∈ recorded_rows rt session_id items, row.session_id = session_id := by
    intro row hrow
    obtain ⟨message, -, rfl⟩ := List.mem_map.mp hrow
    rfl
  unfold replayed_gap_count replay_paper_stream_events
  rw [collect_record rt session_id max_stale fun item hitem => (hdepth item hitem).1,
    session_rows_record hsession (recorded_rows_ids_nodup rt session_id items) horder]

/-- The order of a run is the order of its beginning. -/
theorem recorded_rows_take_order {items : List (CollectorItem K)}
    (horder : (recorded_rows rt session_id items).Pairwise ReplaysBefore) (k : ℕ) :
    (recorded_rows rt session_id (items.take k)).Pairwise ReplaysBefore := by
  rw [← List.take_append_drop k items] at horder
  unfold recorded_rows at horder
  rw [List.zipIdx_append, List.map_append] at horder
  exact (List.pairwise_append.mp horder).1

/-- One more message, live. -/
theorem collector_gap_count_append {items : List (CollectorItem K)} {item : CollectorItem K}
    (h : ∀ x ∈ items ++ [item], x.IsMessage) :
    collector_gap_count rt session_id max_stale (items ++ [item])
      = collector_gap_count rt session_id max_stale items
        + (sequence_gap
            (last_sequence (events_of rt session_id items) (item.event rt session_id).stream_name)
            (sequence (item.event rt session_id))).toNat := by
  unfold collector_gap_count
  rw [collect_live _ _ _ h, collect_live _ _ _ fun x hx => h x (List.mem_append_left _ hx)]
  unfold events_of
  rw [List.map_append, List.map_singleton, live_gap_count_succ]

/-- One more message, replayed. -/
theorem replayed_gap_count_append {symbol : String} {items : List (CollectorItem K)}
    {item : CollectorItem K}
    (hdepth : ∀ x ∈ items ++ [item], IsDepthMessage rt session_id symbol x)
    (horder : (recorded_rows rt session_id (items ++ [item])).Pairwise ReplaysBefore) :
    replayed_gap_count rt session_id max_stale (items ++ [item])
      = replayed_gap_count rt session_id max_stale items
        + (depth_gap (last_final_id (events_of rt session_id items))
            (int_or_none ((item.event rt session_id).payload.get "pu"))
            (int_or_none ((item.event rt session_id).payload.get "U"))).toNat := by
  have hitem := hdepth item (List.mem_append_right _ (List.mem_singleton_self _))
  have hitems : ∀ x ∈ items, IsDepthMessage rt session_id symbol x :=
    fun x hx => hdepth x (List.mem_append_left _ hx)
  -- the beginning of an ordered record is ordered
  have horder_items : (recorded_rows rt session_id items).Pairwise ReplaysBefore := by
    have htake := recorded_rows_take_order rt session_id horder items.length
    rwa [List.take_left] at htake
  rw [replayed_gap_count_eq rt session_id max_stale hdepth horder,
    replayed_gap_count_eq rt session_id max_stale hitems horder_items,
    recorded_rows_append_singleton,
    replay_gap_count_succ (isDepthUpdate_recorded_rows rt session_id hitems)
      (isDepthUpdate_recorded_row hitem.2 _),
    last_final_id_recorded_rows]
  rfl

end Run

/-! ## A feed that agrees and one that does not -/

/-- A depth message received in the second it was sent. -/
def depth_item (second : ℕ) (first_u final_u previous_u : ℤ) : CollectorItem ℚ where
  stream_name := "btcusdt@depth"
  payload := .dict
    [("e", .str "depthUpdate"), ("E", .int (1000 * second)), ("s", .str "BTCUSDT"),
      ("U", .int first_u), ("u", .int final_u), ("pu", .int previous_u)]
  received_at_utc := minute_runtime.ms_to_utc (1000 * second)

theorem depth_item_isDepthMessage (second : ℕ) (first_u final_u previous_u : ℤ) :
    IsDepthMessage minute_runtime "s" "BTCUSDT"
      (depth_item second first_u final_u previous_u) := by
  have hsymbol : pyUpper "BTCUSDT" = "BTCUSDT" := by decide +kernel
  have hof : ((depth_item second first_u final_u previous_u).event minute_runtime "s").symbol
      = some "BTCUSDT" := congrArg some hsymbol
  have hstream : "btcusdt@depth" ≠ "" := by decide
  refine ⟨⟨rfl, hstream⟩, ?_, hof, by decide, rfl⟩
  change (if (some (pyUpper "BTCUSDT")).getD "" = "" then ParseStatus.parse_error else .parsed) = _
  rw [hsymbol]
  rfl

end ProofAlpha.Execution
