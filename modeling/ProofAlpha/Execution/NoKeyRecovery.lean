/-
What the executor without keys leaves in the projections.

Positions and filled quantities are sums over the first fill of every fill id, so they are told
by the fills that a run posts (`PostedFill`): every event but a fill leaves these as they are.
A scenario that fills an order leaves one whole fill behind, whatever goes wrong on the way.
-/
import ProofAlpha.Execution.NoKeyExecutor
import ProofAlpha.Lib.Checks

set_option autoImplicit false

namespace ProofAlpha.Execution.NoKey

open ProofAlpha.Lib ProofAlpha.Memory

/-! ## Posted fills -/

section Posted

variable {K : Type} [Field K] [LinearOrder K] (text : JsonValue K → String)

/-- What the sums over a fill of an order read. -/
structure PostedFill (K : Type) where
  fill_id : String
  order_id_client : Option String
  symbol : Option String
  qty : K
  signed_qty : K

/-- The fill of a row. -/
def posted_fill (event : ExecutionEvent K) : PostedFill K where
  fill_id := Memory.fill_id text event
  order_id_client := event.order_id_client
  symbol := event.symbol
  qty := fill_quantity event
  signed_qty := signed_fill event

/-- The fills of a journal. -/
def posted_fills (journal : List (ExecutionEvent K)) : List (PostedFill K) :=
  (journal.filter is_order_fill).map (posted_fill text)

/-- The first of them with every id. -/
def distinct_posts (journal : List (ExecutionEvent K)) : List (PostedFill K) :=
  first_by PostedFill.fill_id (posted_fills text journal)

theorem distinct_posts_eq (journal : List (ExecutionEvent K)) :
    distinct_posts text journal = (distinct_fills text journal).map (posted_fill text) :=
  first_by_map PostedFill.fill_id (posted_fill text) (journal.filter is_order_fill)

/-- The net quantity of a symbol. -/
theorem net_position_posts [IsStrictOrderedRing K] (journal : List (ExecutionEvent K))
    {symbol : String} (hsymbol : symbol ≠ "") :
    net_position (projections_of text journal) symbol
      = (((distinct_posts text journal).filter fun post => post.symbol = some symbol).map
          PostedFill.signed_qty).sum := by
  rw [net_position_projections_of text journal hsymbol, distinct_posts_eq, List.filter_map,
    List.map_map]
  rfl

/-- The filled quantity of an order. -/
theorem order_filled_qty_posts (journal : List (ExecutionEvent K)) (order_id_client : String) :
    order_filled_qty (projections_of text journal) order_id_client
      = (((distinct_posts text journal).filter fun post =>
          post.order_id_client = some order_id_client).map PostedFill.qty).sum := by
  have hstored : order_filled_qty (projections_of text journal) order_id_client
      = stored_fill_qty (projections_of text journal).fills order_id_client :=
    (filledMatches_project_events text journal).filled order_id_client
  rw [hstored, stored_fill_qty, values_fills, ← List.map_reverse, List.filter_map, List.map_map,
    distinct_posts_eq, List.filter_map, List.map_map, List.filter_reverse, List.map_reverse,
    List.sum_reverse]
  rfl

end Posted

/-! ## What each event posts -/

section Events

variable {K : Type} [Field K] [LinearOrder K] {env : ExecutorEnv K}
  {config : NoKeyExecutorConfig}

/-- The fills of a run so far. -/
def run_posts (env : ExecutorEnv K) (run : ExecutorRun K) : List (PostedFill K) :=
  posted_fills env.composite_text run.journal

/-- The signed quantity of a request's fill. -/
def request_qty (request : NoKeyOrderRequest K) (qty : K) : K :=
  if pyUpper request.side = "SELL" then -|qty| else |qty|

/-- The fill of a request. -/
def request_post (request : NoKeyOrderRequest K) (qty : K) (fill_id : String) : PostedFill K where
  fill_id := fill_id
  order_id_client := some request.client_order_id
  symbol := some request.symbol
  qty := |qty|
  signed_qty := request_qty request qty

/-- It counts where the request names an order. -/
def fill_post (request : NoKeyOrderRequest K) (qty : K) (fill_id : String) :
    List (PostedFill K) :=
  if request.client_order_id = "" then [] else [request_post request qty fill_id]

theorem run_posts_append {event_type : String} {args : AppendArgs K} {run : ExecutorRun K} :
    run_posts env (append env config event_type args run)
      = run_posts env run ++ posted_fills env.composite_text
          [event_row env.digests (run.journal.length + 1) (read_previous_digest run.journal)
            (event_fields config event_type args)] := by
  unfold run_posts posted_fills
  rw [← List.map_append, ← List.filter_append]
  rfl

/-- An event that is no fill posts nothing. -/
theorem run_posts_append_other {event_type : String} (h : event_type ∉ fill_event_types)
    (args : AppendArgs K) (run : ExecutorRun K) :
    run_posts env (append env config event_type args run) = run_posts env run := by
  have hother : is_order_fill (event_row env.digests (run.journal.length + 1)
      (read_previous_digest run.journal) (event_fields config event_type args)) = false := by
    have htype : decide (event_type ∈ fill_event_types) = false := decide_eq_false h
    unfold is_order_fill
    exact (congrArg (· && _) htype).trans (Bool.false_and _)
  rw [run_posts_append, posted_fills, List.filter_singleton, hother]
  exact List.append_nil _

theorem run_posts_engine {event_type : String} (h : event_type ∉ fill_event_types)
    (status : String) (reason_code : Option String) (metadata : JsonObject K)
    (run : ExecutorRun K) :
    run_posts env (append_engine env config event_type status reason_code metadata run)
      = run_posts env run :=
  run_posts_append_other h _ run

theorem run_posts_submit (request : NoKeyOrderRequest K) (run : ExecutorRun K) :
    run_posts env (append_submit env config request run) = run_posts env run :=
  run_posts_append_other (by decide) _ run

theorem run_posts_ack (request : NoKeyOrderRequest K) (run : ExecutorRun K) :
    run_posts env (append_ack env config request run) = run_posts env run :=
  run_posts_append_other (by decide) _ _

theorem run_posts_reject (request : NoKeyOrderRequest K) (client_order_id reason_code : String)
    (run : ExecutorRun K) :
    run_posts env (append_reject env config request client_order_id reason_code run)
      = run_posts env run :=
  run_posts_append_other (by decide) _ run

variable [FloorRing K]

/-- A fill posts its own. -/
theorem run_posts_fill (request : NoKeyOrderRequest K) (qty : K)
    {fill_id : String} (hid : fill_id ≠ "") (status : String) (run : ExecutorRun K) :
    run_posts env (append_fill env config request qty fill_id status run)
      = run_posts env run ++ fill_post request qty fill_id := by
  unfold append_fill
  rw [run_posts_append]
  congr 1
  generalize hrow : event_row env.digests _ _ _ = row
  have htype : row.event_type = "FILL" := by rw [← hrow]; rfl
  have horder : row.order_id_client = some request.client_order_id := by rw [← hrow]; rfl
  have hside : row.side = some (pyUpper request.side) := by rw [← hrow]; rfl
  have hqty : row.qty = some qty := by rw [← hrow]; rfl
  have hsymbol : row.symbol = some request.symbol := by rw [← hrow]; rfl
  have hmetadata : row.metadata.get "fill_id" = .str fill_id := by rw [← hrow]; rfl
  have hprojected : projected_order row = non_empty (some request.client_order_id) := by
    rw [projected_order, htype, horder, if_pos (by decide)]
  have hfill : is_order_fill row = decide (request.client_order_id ≠ "") := by
    rw [is_order_fill, hprojected, htype]
    by_cases hempty : request.client_order_id = "" <;> simp [hempty, non_empty, fill_event_types]
  have hfill_id : Memory.fill_id env.composite_text row = fill_id := by
    rw [Memory.fill_id, hmetadata, text_or]
    exact if_pos (decide_eq_true hid)
  have hquantity : fill_quantity row = |qty| := by
    rw [fill_quantity, hqty, Option.getD_some]
  have hsigned : signed_fill row = request_qty request qty := by
    rw [signed_fill, hside, hquantity, Option.getD_some, pyUpper_pyUpper, request_qty]
  unfold posted_fills fill_post
  rw [List.filter_singleton, hfill]
  by_cases hempty : request.client_order_id = ""
  · simp [hempty]
  · simp only [hempty, not_false_eq_true, decide_true, ne_eq, ↓reduceIte, List.map_cons,
      List.map_nil, cond_true, List.cons.injEq, and_true]
    rw [posted_fill, request_post, hfill_id, horder, hsymbol, hquantity, hsigned]

/-- What a request leaves behind: its fill, unless it only reduces and would buy. -/
def lifecycle_posts (request : NoKeyOrderRequest K) : List (PostedFill K) :=
  if reduce_only_buy request then []
  else fill_post request request.qty (ordinal_fill_id request 1)

omit [Field K] [LinearOrder K] [FloorRing K] in
theorem ordinal_fill_id_ne (request : NoKeyOrderRequest K) (fill_ordinal : ℕ) :
    ordinal_fill_id request fill_ordinal ≠ "" := by
  intro h
  have hlength := congrArg String.length h
  simp [ordinal_fill_id, String.length_append] at hlength

theorem run_posts_ack_and_fill (request : NoKeyOrderRequest K) (qty : K) (status : String)
    (run : ExecutorRun K) :
    run_posts env (append_ack_and_fill env config request qty status run)
      = run_posts env run ++ fill_post request qty (ordinal_fill_id request 1) := by
  unfold append_ack_and_fill
  rw [run_posts_fill request qty (ordinal_fill_id_ne request 1), run_posts_ack]

theorem run_posts_lifecycle (request : NoKeyOrderRequest K) (run : ExecutorRun K) :
    run_posts env (record_order_lifecycle env config request run)
      = run_posts env run ++ lifecycle_posts request := by
  unfold record_order_lifecycle lifecycle_posts
  split_ifs
  · rw [run_posts_reject, run_posts_submit, List.append_nil]
    rfl
  · rw [run_posts_ack_and_fill, run_posts_submit]

/-! ## A list of requests -/

theorem run_posts_requests (requests : List (NoKeyOrderRequest K)) (run : ExecutorRun K) :
    run_posts env (requests.foldl
        (fun run request => record_order_lifecycle env config request run) run)
      = run_posts env run ++ requests.flatMap lifecycle_posts := by
  induction requests generalizing run with
  | nil => simp
  | cons request requests ih =>
      rw [List.foldl_cons, ih, run_posts_lifecycle, List.flatMap_cons, List.append_assoc]

theorem run_posts_fixture (requests : List (NoKeyOrderRequest K)) (run : ExecutorRun K) :
    run_posts env (fixture_events env config requests run)
      = run_posts env run ++ requests.flatMap lifecycle_posts := by
  unfold fixture_events
  rw [run_posts_engine (by decide), run_posts_engine (by decide), run_posts_requests,
    run_posts_engine (by decide)]

/-- Whether a request posts a fill at all. -/
def is_accepted (request : NoKeyOrderRequest K) : Bool :=
  decide (request.client_order_id ≠ "") && ! reduce_only_buy request

/-- The fill of an accepted request. -/
def accepted_post (request : NoKeyOrderRequest K) : PostedFill K :=
  request_post request request.qty (ordinal_fill_id request 1)

omit [FloorRing K] in
theorem flatMap_lifecycle_posts (requests : List (NoKeyOrderRequest K)) :
    requests.flatMap lifecycle_posts = (requests.filter is_accepted).map accepted_post := by
  induction requests with
  | nil => rfl
  | cons request requests ih =>
      rw [List.flatMap_cons, ih, List.filter_cons, lifecycle_posts, fill_post, is_accepted]
      cases reduce_only_buy request with
      | true => simp
      | false =>
          by_cases hempty : request.client_order_id = ""
          · simp [hempty]
          · simp [hempty, accepted_post]

omit [Field K] [LinearOrder K] [FloorRing K] in
/-- The fill id tells the client order id. -/
theorem ordinal_fill_id_inj (request other : NoKeyOrderRequest K) :
    ordinal_fill_id request 1 = ordinal_fill_id other 1
      ↔ request.client_order_id = other.client_order_id := by
  unfold ordinal_fill_id
  constructor
  · intro h
    have hlist := congrArg String.toList h
    simp only [String.toList_append, List.append_assoc] at hlist
    exact String.toList_injective (List.append_cancel_right hlist)
  · exact fun h => by rw [h]

variable (env) in
/-- The requests that fill: the first accepted one of every client order id, unless the journal
has its fill already. -/
def filled_requests (journal : List (ExecutionEvent K))
    (requests : List (NoKeyOrderRequest K)) : List (NoKeyOrderRequest K) :=
  (first_by NoKeyOrderRequest.client_order_id (requests.filter is_accepted)).filter
    fun request => ordinal_fill_id request 1
      ∉ (posted_fills env.composite_text journal).map PostedFill.fill_id

/-- What a list of requests adds to the first fills of a journal. -/
theorem distinct_posts_fixture (requests : List (NoKeyOrderRequest K)) (run : ExecutorRun K) :
    distinct_posts env.composite_text (fixture_events env config requests run).journal
      = distinct_posts env.composite_text run.journal
        ++ (filled_requests env run.journal requests).map accepted_post := by
  have hposts : posted_fills env.composite_text (fixture_events env config requests run).journal
      = posted_fills env.composite_text run.journal
        ++ (requests.filter is_accepted).map accepted_post := by
    rw [← flatMap_lifecycle_posts]
    exact run_posts_fixture requests run
  have hkeys : first_by (fun request => (accepted_post request).fill_id)
      (requests.filter is_accepted)
        = first_by NoKeyOrderRequest.client_order_id (requests.filter is_accepted) :=
    first_by_congr ordinal_fill_id_inj _
  rw [distinct_posts, hposts, first_by_append, first_by_map, List.filter_map, hkeys]
  rfl

theorem blocker_codes_lifecycle (request : NoKeyOrderRequest K) (run : ExecutorRun K) :
    (record_order_lifecycle env config request run).blocker_codes
      = run.blocker_codes ++ if reduce_only_buy request then ["reduce_only_reject"] else [] := by
  unfold record_order_lifecycle
  split_ifs
  · rfl
  · exact (List.append_nil _).symm

theorem blocker_codes_requests (requests : List (NoKeyOrderRequest K)) (run : ExecutorRun K) :
    (requests.foldl (fun run request => record_order_lifecycle env config request run)
        run).blocker_codes
      = run.blocker_codes
        ++ List.replicate (requests.countP reduce_only_buy) "reduce_only_reject" := by
  induction requests generalizing run with
  | nil => simp
  | cons request requests ih =>
      rw [List.foldl_cons, ih, blocker_codes_lifecycle, List.append_assoc]
      congr 1
      cases hreduce : reduce_only_buy request with
      | true => simp [hreduce, List.replicate_succ]
      | false => simp [hreduce]

/-- What a list of requests does to the books, on any journal: the fill of a request counts
where it is the first accepted one with its client order id and the journal has no fill of that
id, so a repeated request changes nothing; each such fill moves the position of its symbol and
the filled quantity of its order, and an order that only reduces and would buy is refused. -/
theorem no_key_run_conserves [IsStrictOrderedRing K] (requests : List (NoKeyOrderRequest K))
    (store : MemoryStore K) (result : MemoryStore K × ExecutorReport)
    (h : run_no_key_executor_fixture env config requests store = .ok result) :
    (∀ symbol, symbol ≠ "" → net_position result.1.projections symbol
      = net_position (projections_of env.composite_text store.execution_events) symbol
        + (((filled_requests env store.execution_events requests).filter fun request =>
            request.symbol = symbol).map fun request => request_qty request request.qty).sum)
    ∧ (∀ order_id_client, order_filled_qty result.1.projections order_id_client
      = order_filled_qty (projections_of env.composite_text store.execution_events) order_id_client
        + (((filled_requests env store.execution_events requests).filter fun request =>
            request.client_order_id = order_id_client).map fun request => |request.qty|).sum)
    ∧ result.2.blocker_codes
      = List.replicate (requests.countP reduce_only_buy) "reduce_only_reject" := by
  unfold run_no_key_executor_fixture at h
  split_ifs at h
  cases h
  have hposts : distinct_posts env.composite_text (fixture_events env config requests
      { journal := store.execution_events }).journal
        = distinct_posts env.composite_text store.execution_events
          ++ (filled_requests env store.execution_events requests).map accepted_post :=
    distinct_posts_fixture requests _
  refine ⟨fun symbol hsymbol => ?_, fun order_id_client => ?_, ?_⟩
  · change net_position (projections_of env.composite_text
      (fixture_events env config requests { journal := store.execution_events }).journal) symbol = _
    rw [net_position_posts _ _ hsymbol, hposts, List.filter_append, List.map_append,
      List.sum_append, ← net_position_posts _ _ hsymbol, List.filter_map, List.map_map]
    congr 1
    simp [Function.comp_def, accepted_post, request_post]
  · change order_filled_qty (projections_of env.composite_text
      (fixture_events env config requests { journal := store.execution_events }).journal)
        order_id_client = _
    rw [order_filled_qty_posts, hposts, List.filter_append, List.map_append, List.sum_append,
      ← order_filled_qty_posts, List.filter_map, List.map_map]
    congr 1
    simp [Function.comp_def, accepted_post, request_post]
  · exact (blocker_codes_requests requests _).trans (List.nil_append _)

/-- An order of BTCUSDT. -/
def btc_order (side client_order_id : String) (qty : ℚ) (reduce_only : Bool) :
    NoKeyOrderRequest ℚ where
  symbol := "BTCUSDT"
  side := side
  qty := qty
  price := 50000
  client_order_id := client_order_id
  reduce_only := reduce_only

/-- Every digest is the same text. -/
def plain_env : ExecutorEnv ℚ where
  digests :=
    { event_digest := fun _ _ => "digest"
      segment_digest := fun _ _ => "segment"
      event_digest_ne := fun _ _ => by decide }
  composite_text := plain_text
  projection_digest := fun _ => "projection"
  now := "2026-04-30T00:00:00Z"

/-- A buy, the same buy again, and a buy that may only reduce. -/
theorem no_key_run_conserves_repeat : ∃ result,
    run_no_key_executor_fixture plain_env {} [btc_order "buy" "a" 2 false,
        btc_order "buy" "a" 2 false, btc_order "BUY" "b" 1 true] empty_store = .ok result
      ∧ net_position result.1.projections "BTCUSDT" = 2 := by
  obtain ⟨result, h⟩ : ∃ result, run_no_key_executor_fixture plain_env {}
      [btc_order "buy" "a" 2 false, btc_order "buy" "a" 2 false, btc_order "BUY" "b" 1 true]
      empty_store = .ok result := ⟨_, rfl⟩
  exact ⟨result, h, ((no_key_run_conserves _ empty_store result h).1 "BTCUSDT" (by decide)).trans
    (by decide +kernel)⟩

/-! ## Chaos scenarios -/

/-- The scenarios. -/
def known_scenarios : List String :=
  ["normal", "mid_order_crash", "stale_websocket", "duplicate_fill", "orphan_order",
    "partial_fill_restart", "corrupted_projection", "disk_full", "db_lock_retry",
    "network_partition", "clock_drift", "reduce_only_reject", "exchange_error_storm"]

/-- Whether a scenario fills its order. -/
def scenario_fills (scenario : String) (request : NoKeyOrderRequest K) : Bool :=
  decide (request.client_order_id ≠ "")
    && (decide (scenario ∈ ["mid_order_crash", "partial_fill_restart", "duplicate_fill"])
      || decide (scenario ∈ ["normal", "corrupted_projection"]) && ! reduce_only_buy request)

/-- The fills that a scenario posts. -/
def scenario_posts (scenario : String) (request : NoKeyOrderRequest K) : List (PostedFill K) :=
  if scenario = "mid_order_crash" then
    fill_post request request.qty (ordinal_fill_id request 1)
  else if scenario = "partial_fill_restart" then
    fill_post request (request.qty / 2) (ordinal_fill_id request 1)
      ++ fill_post request (request.qty / 2) (ordinal_fill_id request 2)
  else if scenario = "duplicate_fill" then
    fill_post request request.qty (request.client_order_id ++ ":fill:duplicate")
      ++ fill_post request request.qty (request.client_order_id ++ ":fill:duplicate")
  else if scenario ∈ ["normal", "corrupted_projection"] then lifecycle_posts request
  else []

omit [FloorRing K] in
theorem run_posts_rejects (request : NoKeyOrderRequest K) (reason_code : String)
    (client_order_id : ℕ → String) (ordinals : List ℕ) (run : ExecutorRun K) :
    run_posts env (ordinals.foldl (fun run ordinal =>
        append_reject env config request (client_order_id ordinal) reason_code run) run)
      = run_posts env run := by
  induction ordinals generalizing run with
  | nil => rfl
  | cons ordinal ordinals ih => rw [List.foldl_cons, ih, run_posts_reject]

theorem run_posts_scenario {scenario : String} {request : NoKeyOrderRequest K}
    {run run' : ExecutorRun K} (h : scenario_events env config scenario request run = some run') :
    run_posts env run' = run_posts env run ++ scenario_posts scenario request := by
  have hduplicate : request.client_order_id ++ ":fill:duplicate" ≠ "" := by
    intro hempty
    have hlength := congrArg String.length hempty
    simp [String.length_append] at hlength
  have hblocker : ∀ code (run : ExecutorRun K),
      run_posts env (add_blocker code run) = run_posts env run := fun _ _ => rfl
  have hsafe : ∀ action (run : ExecutorRun K),
      run_posts env (add_safe_action action run) = run_posts env run := fun _ _ => rfl
  have hgateway : ∀ (gateway : Gateway K) (run : ExecutorRun K),
      run_posts env { run with gateway := gateway } = run_posts env run := fun _ _ => rfl
  have horder : ∀ order reason_code (run : ExecutorRun K),
      run_posts env (append_order_event env config "ORDER_ACK" order reason_code run)
        = run_posts env run := fun _ _ run => run_posts_append_other (by decide) _ run
  unfold scenario_events at h
  split at h <;> cases h <;>
  · simp (disch := first | decide | exact hduplicate | exact ordinal_fill_id_ne _ _) only
      [run_posts_engine, run_posts_submit, run_posts_ack, run_posts_reject, run_posts_rejects,
        run_posts_fill, run_posts_ack_and_fill, run_posts_lifecycle, hblocker, hsafe, hgateway,
        horder, scenario_posts, List.append_assoc]
    simp

omit [Field K] [LinearOrder K] [FloorRing K] in
theorem ordinal_fill_ids_ne (request : NoKeyOrderRequest K) :
    ordinal_fill_id request 2 ≠ ordinal_fill_id request 1 := by
  intro h
  have hlist := congrArg String.toList h
  simp only [ordinal_fill_id, String.toList_append, List.append_assoc] at hlist
  have hordinal := List.append_cancel_left (List.append_cancel_left hlist)
  exact absurd hordinal (by decide)

omit [FloorRing K] in
/-- The first fills of a scenario: none, a whole one, or two halves. -/
theorem distinct_scenario_posts (scenario : String) (request : NoKeyOrderRequest K) :
    scenario_fills scenario request = false
        ∧ first_by PostedFill.fill_id (scenario_posts scenario request) = []
      ∨ scenario_fills scenario request = true ∧ (
        (∃ id, first_by PostedFill.fill_id (scenario_posts scenario request)
          = [request_post request request.qty id])
        ∨ ∃ id id', first_by PostedFill.fill_id (scenario_posts scenario request)
          = [request_post request (request.qty / 2) id,
            request_post request (request.qty / 2) id']) := by
  unfold scenario_fills scenario_posts fill_post lifecycle_posts fill_post
  by_cases hempty : request.client_order_id = ""
  · left
    simp [hempty, first_by]
  · rcases eq_or_ne scenario "mid_order_crash" with rfl | hcrash
    · right
      exact ⟨by simp [hempty], Or.inl ⟨ordinal_fill_id request 1, by simp [hempty, first_by]⟩⟩
    · rcases eq_or_ne scenario "partial_fill_restart" with rfl | hpartial
      · right
        refine ⟨by simp [hempty], Or.inr
          ⟨ordinal_fill_id request 1, ordinal_fill_id request 2, ?_⟩⟩
        have hne := ordinal_fill_ids_ne request
        simp [hempty, first_by, request_post, hne]
      · rcases eq_or_ne scenario "duplicate_fill" with rfl | hrepeat
        · right
          exact ⟨by simp [hempty], Or.inl
            ⟨request.client_order_id ++ ":fill:duplicate", by simp [hempty, first_by]⟩⟩
        · by_cases hlife : scenario ∈ ["normal", "corrupted_projection"]
          · cases hreduce : reduce_only_buy request with
            | true =>
                left
                simp_all [first_by]
            | false =>
                right
                refine ⟨by simp_all, Or.inl ⟨ordinal_fill_id request 1, ?_⟩⟩
                simp_all [first_by]
          · left
            simp_all [first_by]

/-! ### The books after a scenario -/

omit [FloorRing K] in
/-- Two halves are signed as the whole. -/
theorem request_qty_halves [IsStrictOrderedRing K] (request : NoKeyOrderRequest K) (qty : K) :
    request_qty request (qty / 2) + request_qty request (qty / 2) = request_qty request qty := by
  have hhalf : |qty / 2| = |qty| / 2 := by rw [abs_div, abs_two]
  unfold request_qty
  rw [hhalf]
  split_ifs <;> ring

/-- What a scenario must leave: the position and the filled quantity of one whole fill where it
fills its order, nothing anywhere else, and a rebuild that gives the same tables again. -/
structure Recovered (scenario : String) (request : NoKeyOrderRequest K)
    (result : MemoryStore K × ExecutorReport) : Prop where
  scenario_id : result.2.scenario_id = scenario
  known : scenario ∈ known_scenarios
  position : ∀ symbol, symbol ≠ "" → net_position result.1.projections symbol
    = if scenario_fills scenario request = true ∧ request.symbol = symbol then
        request_qty request request.qty else 0
  filled : ∀ order_id_client, order_filled_qty result.1.projections order_id_client
    = if scenario_fills scenario request = true ∧ request.client_order_id = order_id_client then
        |request.qty| else 0
  replay_deterministic : result.2.projection.replay_deterministic = true

theorem scenario_events_isSome_iff {scenario : String} {request : NoKeyOrderRequest K}
    {run : ExecutorRun K} :
    (scenario_events env config scenario request run).isSome = true
      ↔ scenario ∈ known_scenarios := by
  unfold scenario_events
  split
  any_goals simp [known_scenarios]
  simp_all

theorem chaos_events_isSome_iff {request : NoKeyOrderRequest K} :
    (chaos_events env config request).isSome = true ↔ config.scenario_id ∈ known_scenarios := by
  unfold chaos_events
  rw [Option.isSome_map]
  exact scenario_events_isSome_iff

theorem run_posts_chaos {request : NoKeyOrderRequest K} {run : ExecutorRun K}
    (h : chaos_events env config request = some run) :
    run_posts env run = scenario_posts config.scenario_id request := by
  unfold chaos_events at h
  obtain ⟨filled, hfilled, rfl⟩ := Option.map_eq_some_iff.mp h
  have hsafe : ∀ run : ExecutorRun K,
      run_posts env (if "cancel_all_simulated" ∉ run.safe_actions
          ∧ config.scenario_id ∈ ["stale_websocket", "disk_full", "db_lock_retry"] then
        add_safe_action "cancel_all_simulated" run else run) = run_posts env run := by
    intro run
    split_ifs <;> rfl
  rw [run_posts_engine (by decide), hsafe, run_posts_engine (by decide),
    run_posts_scenario hfilled, run_posts_engine (by decide)]
  rfl

theorem recovered_of_ok [IsStrictOrderedRing K] {scenario_id : Option String}
    {request : NoKeyOrderRequest K} {result : MemoryStore K × ExecutorReport}
    (h : run_single_chaos_scenario env config scenario_id request = .ok result) :
    Recovered (called_scenario config scenario_id) request result := by
  unfold run_single_chaos_scenario at h
  dsimp only at h
  split_ifs at h
  split at h
  · cases h
  · next run hrun =>
      cases h
      have hknown : called_scenario config scenario_id ∈ known_scenarios :=
        chaos_events_isSome_iff.mp (Option.isSome_iff_exists.mpr ⟨run, hrun⟩)
      have hposts : distinct_posts env.composite_text run.journal
          = first_by PostedFill.fill_id
            (scenario_posts (called_scenario config scenario_id) request) :=
        congrArg (first_by PostedFill.fill_id) (run_posts_chaos hrun)
      have hcases := distinct_scenario_posts (called_scenario config scenario_id) request
      rw [← hposts] at hcases
      refine
        { scenario_id := rfl
          known := hknown
          position := fun symbol hsymbol => ?_
          filled := fun order_id_client => ?_
          replay_deterministic := decide_eq_true rfl }
      · change net_position (projections_of env.composite_text run.journal) symbol = _
        rw [net_position_posts _ _ hsymbol]
        rcases hcases with ⟨hfills, hfirst⟩ | ⟨hfills, ⟨id, hfirst⟩ | ⟨id, id', hfirst⟩⟩
        · rw [hfirst, hfills]
          simp
        · rw [hfirst, hfills]
          by_cases heq : request.symbol = symbol <;> simp [request_post, heq]
        · rw [hfirst, hfills]
          by_cases heq : request.symbol = symbol
          · simp [request_post, heq, request_qty_halves]
          · simp [request_post, heq]
      · change order_filled_qty (projections_of env.composite_text run.journal) order_id_client = _
        rw [order_filled_qty_posts]
        rcases hcases with ⟨hfills, hfirst⟩ | ⟨hfills, ⟨id, hfirst⟩ | ⟨id, id', hfirst⟩⟩
        · rw [hfirst, hfills]
          simp
        · rw [hfirst, hfills]
          by_cases heq : request.client_order_id = order_id_client <;> simp [request_post, heq]
        · rw [hfirst, hfills]
          by_cases heq : request.client_order_id = order_id_client
          · simp [request_post, heq, abs_div]
          · simp [request_post, heq]

/-- A single scenario runs exactly where live paths are off and it is a known one. -/
theorem run_single_chaos_scenario_ok_iff (scenario_id : Option String)
    (request : NoKeyOrderRequest K) :
    (∃ result, run_single_chaos_scenario env config scenario_id request = .ok result)
      ↔ config.allow_live_private_path = false
        ∧ called_scenario config scenario_id ∈ known_scenarios := by
  have hknown : (chaos_events env
      { config with scenario_id := called_scenario config scenario_id } request).isSome = true
        ↔ called_scenario config scenario_id ∈ known_scenarios := chaos_events_isSome_iff
  unfold run_single_chaos_scenario
  rw [← hknown]
  dsimp only
  generalize chaos_events env _ request = events
  by_cases hlive : config.allow_live_private_path = true
  · simp [hlive]
  · cases events <;> simp [hlive]

/-- Whatever a scenario does to an order, a crash between its submission and its fill, a restart
after half of it, a fill that is reported twice or a projection that must be rebuilt, the books
afterwards hold one whole fill of it; a scenario that never fills leaves every position and
every filled quantity at zero. -/
theorem chaos_scenario_recovers [IsStrictOrderedRing K] (scenario_id : Option String)
    (request : NoKeyOrderRequest K) (result : MemoryStore K × ExecutorReport)
    (h : run_single_chaos_scenario env config scenario_id request = .ok result) :
    Recovered (called_scenario config scenario_id) request result :=
  recovered_of_ok h

/-- A sell that is half filled before a restart. -/
theorem chaos_scenario_recovers_halves : ∃ result,
    run_single_chaos_scenario plain_env {} (some "partial_fill_restart")
        (btc_order "sell" "a" 3 false) = .ok result
      ∧ net_position result.1.projections "BTCUSDT" = -3 := by
  obtain ⟨result, h⟩ : ∃ result, run_single_chaos_scenario plain_env {}
      (some "partial_fill_restart") (btc_order "sell" "a" 3 false) = .ok result :=
    (run_single_chaos_scenario_ok_iff _ _).mpr ⟨rfl, by decide⟩
  exact ⟨result, h, ((chaos_scenario_recovers _ _ result h).position "BTCUSDT" (by decide)).trans
    (by decide +kernel)⟩

end Events

end ProofAlpha.Execution.NoKey
