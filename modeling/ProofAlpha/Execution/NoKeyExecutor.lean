/-
The executor without keys: src/engine/execution/no_key_executor.py, over the execution-event
journal and its projections.

A run appends events to the journal of its database while a fake gateway hands out order ids;
then the projections are rebuilt from the journal, twice. A list of requests is run on whatever
journal is there, a single chaos scenario on an empty one. The journal's digests, the digest of
the projections and the clock are those of the environment.
-/
import Mathlib.Data.Finset.Sort
import ProofAlpha.Lib.PyMath
import ProofAlpha.Memory.FillConservation

set_option autoImplicit false

namespace ProofAlpha.Execution.NoKey

open ProofAlpha.Lib ProofAlpha.Memory

variable {K : Type}

/-! ## Requests and the gateway -/

/-- `NoKeyExecutorConfig`; the database is an argument of its own. -/
structure NoKeyExecutorConfig where
  scenario_id : String := "normal"
  session_id : String := "phase2-no-key"
  base_timestamp : String := "2026-04-30T00:00:00Z"
  allow_live_private_path : Bool := false

/-- `NoKeyOrderRequest`. -/
structure NoKeyOrderRequest (K : Type) where
  symbol : String
  side : String
  qty : K
  price : K
  client_order_id : String
  reduce_only : Bool := false

/-- An order of the gateway. -/
structure GatewayOrder (K : Type) where
  order_id_client : String
  order_id_exchange : String
  symbol : String
  side : String
  qty : K
  price : K
  status : String

/-- `FakeBinancePrivateGateway`. -/
structure Gateway (K : Type) where
  exchange_order_id : ℕ := 1000
  orders : Dict String (GatewayOrder K) := ∅
  orphan_orders : Dict String (GatewayOrder K) := ∅
  clock_drift_seconds : ℤ := 0
  network_partitioned : Bool := false
  error_storm : Bool := false
  stale_account_snapshot : Bool := false

namespace Gateway

/-- An order under the next exchange id. -/
def next_order (gateway : Gateway K) (request : NoKeyOrderRequest K) (order_id_client : String) :
    GatewayOrder K where
  order_id_client := order_id_client
  order_id_exchange := "fake-" ++ toString (gateway.exchange_order_id + 1)
  symbol := request.symbol
  side := pyUpper request.side
  qty := request.qty
  price := request.price
  status := "ACKED"

/-- `submit_order` of an order that is not rejected. -/
def submit_order (gateway : Gateway K) (request : NoKeyOrderRequest K) :
    Gateway K × GatewayOrder K :=
  let order := gateway.next_order request request.client_order_id
  ({ gateway with
      exchange_order_id := gateway.exchange_order_id + 1
      orders := gateway.orders.insert request.client_order_id order }, order)

/-- `inject_orphan_order`. -/
def inject_orphan_order (gateway : Gateway K) (request : NoKeyOrderRequest K) :
    Gateway K × GatewayOrder K :=
  let order := gateway.next_order request (request.client_order_id ++ "-orphan")
  ({ gateway with
      exchange_order_id := gateway.exchange_order_id + 1
      orphan_orders := gateway.orphan_orders.insert order.order_id_client order }, order)

/-- The exchange id of a client id, if it has an order. -/
def exchange_id (gateway : Gateway K) (client_order_id : String) : Option String :=
  (gateway.orders.lookup client_order_id).map GatewayOrder.order_id_exchange

/-- `account_snapshot`. -/
def account_snapshot (gateway : Gateway K) : JsonObject K :=
  [("stale", .bool gateway.stale_account_snapshot),
    ("clock_drift_seconds", .int gateway.clock_drift_seconds),
    ("open_order_count",
      .int (gateway.orders.entries.length + gateway.orphan_orders.entries.length)),
    ("network_partitioned", .bool gateway.network_partitioned),
    ("error_storm", .bool gateway.error_storm)]

end Gateway

/-! ## Events -/

/-- What the executor takes from elsewhere. -/
structure ExecutorEnv (K : Type) where
  digests : Digests K
  /-- `str(value)` of a float, a list or a dict. -/
  composite_text : JsonValue K → String
  projection_digest : Projections K → String
  /-- The clock of a rebuild. -/
  now : String

/-- What a run has done so far. -/
structure ExecutorRun (K : Type) where
  journal : List (ExecutionEvent K)
  gateway : Gateway K := {}
  event_types : List String := []
  blocker_codes : List String := []
  safe_actions : List String := []

/-- The optional arguments of `_append`. -/
structure AppendArgs (K : Type) where
  symbol : Option String := none
  side : Option String := none
  order_id_client : Option String := none
  order_id_exchange : Option String := none
  qty : Option K := none
  price : Option K := none
  status : Option String := none
  reason_code : Option String := none
  metadata : JsonObject K := []

section Runs

variable (env : ExecutorEnv K) (config : NoKeyExecutorConfig)

/-- The fields of an event. -/
def event_fields (event_type : String) (args : AppendArgs K) : EventFields K where
  ts_exchange := config.base_timestamp
  ts_gateway := config.base_timestamp
  ts_engine := config.base_timestamp
  source := "phase2_no_key_fake_gateway"
  event_type := event_type
  symbol := args.symbol
  side := args.side
  order_id_client := args.order_id_client
  order_id_exchange := args.order_id_exchange
  parent_intent_id := none
  qty := args.qty
  price := args.price
  status := args.status
  reason_code := args.reason_code
  metadata :=
    JsonObject.update
      [("session_id", .str config.session_id),
        ("scenario_id", .str config.scenario_id),
        ("private_keys_required", .bool false),
        ("live_order_path_enabled", .bool false)]
      args.metadata
  schema_version := 1

/-- `_append`. -/
def append (event_type : String) (args : AppendArgs K) (run : ExecutorRun K) : ExecutorRun K :=
  { run with
    event_types := run.event_types ++ [event_type]
    journal := append_execution_event env.digests run.journal (event_fields config event_type args) }

/-- `_append_order_event`. -/
def append_order_event (event_type : String) (order : GatewayOrder K)
    (reason_code : Option String) (run : ExecutorRun K) : ExecutorRun K :=
  append env config event_type
    { symbol := non_empty (some order.symbol)
      side := non_empty (some order.side)
      order_id_client := non_empty (some order.order_id_client)
      order_id_exchange := non_empty (some order.order_id_exchange)
      qty := some order.qty
      price := some order.price
      status := non_empty (some order.status)
      reason_code := reason_code
      metadata := [("gateway", .str "fake_binance_usdm_private")] } run

/-- `_append_submit`. -/
def append_submit (request : NoKeyOrderRequest K) (run : ExecutorRun K) : ExecutorRun K :=
  append env config "ORDER_SUBMIT"
    { symbol := some request.symbol
      side := some (pyUpper request.side)
      order_id_client := some request.client_order_id
      qty := some request.qty
      price := some request.price
      status := some "SUBMITTED"
      metadata := [("private_keys_required", .bool false),
        ("live_order_path_enabled", .bool false)] } run

/-- `_append_ack`. -/
def append_ack (request : NoKeyOrderRequest K) (run : ExecutorRun K) : ExecutorRun K :=
  let submitted := run.gateway.submit_order request
  append_order_event env config "ORDER_ACK" submitted.2 none { run with gateway := submitted.1 }

/-- A rejected order. -/
def append_reject (request : NoKeyOrderRequest K) (client_order_id reason_code : String)
    (run : ExecutorRun K) : ExecutorRun K :=
  append env config "ORDER_REJECT"
    { symbol := some request.symbol
      side := some request.side
      order_id_client := some client_order_id
      qty := some request.qty
      price := some request.price
      status := some "REJECTED"
      reason_code := some reason_code } run

/-- An event of the engine or of its risk guard, with no order. -/
def append_engine (event_type status : String) (reason_code : Option String)
    (metadata : JsonObject K) (run : ExecutorRun K) : ExecutorRun K :=
  append env config event_type
    { status := some status
      reason_code := reason_code
      metadata := metadata } run

/-- `blocker_codes.append`. -/
def add_blocker (code : String) (run : ExecutorRun K) : ExecutorRun K :=
  { run with blocker_codes := run.blocker_codes ++ [code] }

/-- `safe_actions.append`. -/
def add_safe_action (action : String) (run : ExecutorRun K) : ExecutorRun K :=
  { run with safe_actions := run.safe_actions ++ [action] }

variable [Field K] [LinearOrder K] [FloorRing K]

/-- `_append_fill`, with the id of the fill. -/
def append_fill (request : NoKeyOrderRequest K) (qty : K) (fill_id status : String)
    (run : ExecutorRun K) : ExecutorRun K :=
  append env config "FILL"
    { symbol := some request.symbol
      side := some (pyUpper request.side)
      order_id_client := some request.client_order_id
      order_id_exchange := run.gateway.exchange_id request.client_order_id
      qty := some qty
      price := some request.price
      status := some status
      metadata := [("fill_id", .str fill_id),
        ("fee", .float (pyRound (|qty| * request.price * (5 / 10000)) 12)),
        ("maker_taker", .str "TAKER"),
        ("liquidity_flag", .str "taker")] } run

/-- The id of the fill with an ordinal. -/
def ordinal_fill_id (request : NoKeyOrderRequest K) (fill_ordinal : ℕ) : String :=
  request.client_order_id ++ ":fill:" ++ toString fill_ordinal

/-- `_append_ack_and_fill`. -/
def append_ack_and_fill (request : NoKeyOrderRequest K) (qty : K) (status : String)
    (run : ExecutorRun K) : ExecutorRun K :=
  append_fill env config request qty (ordinal_fill_id request 1) status
    (append_ack env config request run)

/-- Whether an order that only reduces would buy. -/
def reduce_only_buy (request : NoKeyOrderRequest K) : Bool :=
  request.reduce_only && decide (pyUpper request.side = "BUY")

/-- `_record_order_lifecycle`. -/
def record_order_lifecycle (request : NoKeyOrderRequest K) (run : ExecutorRun K) :
    ExecutorRun K :=
  if reduce_only_buy request then
    append_reject env config request request.client_order_id "reduce_only_reject"
      (append_submit env config request (add_blocker "reduce_only_reject" run))
  else
    append_ack_and_fill env config request request.qty "FILLED"
      (append_submit env config request run)

/-- What a rebuild returns after another one, with the digests of both. -/
structure RebuiltProjection where
  summary : RebuildSummary
  first_projection_digest : String
  second_projection_digest : String
  replay_deterministic : Bool

/-- `_rebuild_twice`. -/
def rebuild_twice (store : MemoryStore K) : MemoryStore K × RebuiltProjection :=
  let first := rebuild_execution_projections env.composite_text env.projection_digest env.now store
  let second :=
    rebuild_execution_projections env.composite_text env.projection_digest env.now first.1
  (second.1,
    { summary := second.2
      first_projection_digest := first.2.projection_digest
      second_projection_digest := second.2.projection_digest
      replay_deterministic := first.2.projection_digest = second.2.projection_digest })

/-- The report of a run. -/
structure ExecutorReport where
  scenario_id : String
  session_id : String
  event_types : List String
  blocker_codes : List String
  safe_actions : List String
  projection : RebuiltProjection

/-- The events of `run_no_key_executor_fixture`. -/
def fixture_events (order_requests : List (NoKeyOrderRequest K)) (run : ExecutorRun K) :
    ExecutorRun K :=
  let started := append_engine env config "ENGINE_START" "STARTED" none
    [("scenario_id", .str config.scenario_id)] run
  let recorded := order_requests.foldl
    (fun run request => record_order_lifecycle env config request run) started
  let reconciled := append_engine env config "POSITION_RECONCILE" "RECONCILED" none
    recorded.gateway.account_snapshot recorded
  append_engine env config "ENGINE_STOP" "STOPPED" none
    [("scenario_id", .str config.scenario_id)] reconciled

/-- `run_no_key_executor_fixture`. -/
def run_no_key_executor_fixture (order_requests : List (NoKeyOrderRequest K))
    (store : MemoryStore K) : Except String (MemoryStore K × ExecutorReport) :=
  if config.allow_live_private_path then
    .error "phase2_no_key_executor_forbids_live_private_path"
  else
    let run := fixture_events env config order_requests { journal := store.execution_events }
    let rebuilt := rebuild_twice env { store with execution_events := run.journal }
    .ok (rebuilt.1,
      { scenario_id := config.scenario_id
        session_id := config.session_id
        event_types := run.event_types
        blocker_codes := run.blocker_codes
        safe_actions := []
        projection := rebuilt.2 })

/-! ## Chaos scenarios -/

/-- The events of a scenario between the start of the engine and its reconciliation, none for
an unknown scenario. -/
def scenario_events (scenario : String) (request : NoKeyOrderRequest K) (run : ExecutorRun K) :
    Option (ExecutorRun K) :=
  match scenario with
  | "normal" => some (record_order_lifecycle env config request run)
  | "mid_order_crash" =>
      let submitted := append_submit env config request run
      let crashed := append_engine env config "ENGINE_STOP" "CRASHED" (some "mid_order_crash") []
        submitted
      let recovered := append_engine env config "ENGINE_RECOVER_REPLAY" "RECOVERED" none [] crashed
      some (append_ack_and_fill env config request request.qty "FILLED" recovered)
  | "partial_fill_restart" =>
      let submitted := append_submit env config request run
      let partly := append_ack_and_fill env config request (request.qty / 2) "PARTIALLY_FILLED"
        submitted
      let recovered := append_engine env config "ENGINE_RECOVER_REPLAY" "RECOVERED" none [] partly
      some (append_fill env config request (request.qty / 2) (ordinal_fill_id request 2) "FILLED"
        recovered)
  | "duplicate_fill" =>
      let acked := append_ack env config request (append_submit env config request run)
      let fill_id := request.client_order_id ++ ":fill:duplicate"
      let filled := append_fill env config request request.qty fill_id "FILLED" acked
      let repeated := append_fill env config request request.qty fill_id "FILLED" filled
      some (add_blocker "duplicate_fill_ignored" repeated)
  | "orphan_order" =>
      let injected := run.gateway.inject_orphan_order request
      let acked := append_order_event env config "ORDER_ACK" injected.2
        (some "orphan_exchange_order") { run with gateway := injected.1 }
      some (add_safe_action "cancel_all_simulated" (add_blocker "orphan_order_detected" acked))
  | "stale_websocket" =>
      let stale := { run with gateway := { run.gateway with stale_account_snapshot := true } }
      let acked := append_ack env config request (append_submit env config request stale)
      let seen := append_engine env config "ACCOUNT_SNAPSHOT" "STALE"
        (some "stale_account_snapshot") acked.gateway.account_snapshot acked
      let blocked := append_engine env config "RISK_BLOCK" "BLOCKED" (some "stale_websocket") []
        seen
      some (add_blocker "stale_websocket_detected" blocked)
  | "network_partition" =>
      let parted := { run with gateway := { run.gateway with network_partitioned := true } }
      let rejected := append_reject env config request request.client_order_id
        "network_partition" (append_submit env config request parted)
      let killed := append_engine env config "KILL_SWITCH_TRIGGER" "TRIGGERED"
        (some "network_partition") [] rejected
      some (add_safe_action "kill_switch_simulated"
        (add_blocker "network_partition_detected" killed))
  | "clock_drift" =>
      let drifted := { run with gateway := { run.gateway with clock_drift_seconds := 42 } }
      let seen := append_engine env config "ACCOUNT_SNAPSHOT" "CLOCK_DRIFT" (some "clock_drift")
        drifted.gateway.account_snapshot drifted
      let blocked := append_engine env config "RISK_BLOCK" "BLOCKED" (some "clock_drift") [] seen
      some (add_blocker "clock_drift_detected" blocked)
  | "reduce_only_reject" =>
      let rejected := append_reject env config request request.client_order_id
        "reduce_only_reject" (append_submit env config request run)
      some (add_blocker "reduce_only_reject" rejected)
  | "exchange_error_storm" =>
      let stormy := { run with gateway := { run.gateway with error_storm := true } }
      let rejected := (List.range 3).foldl
        (fun run ordinal => append_reject env config request
          (request.client_order_id ++ "-err-" ++ toString ordinal) "exchange_error_storm" run)
        stormy
      let killed := append_engine env config "KILL_SWITCH_TRIGGER" "TRIGGERED"
        (some "exchange_error_storm") [] rejected
      some (add_safe_action "kill_switch_simulated" (add_blocker "exchange_error_storm" killed))
  | "disk_full" =>
      let blocked := append_engine env config "RISK_BLOCK" "BLOCKED" (some "disk_full_simulated")
        [] run
      some (add_safe_action "engine_pause_simulated" (add_blocker "disk_full_simulated" blocked))
  | "db_lock_retry" =>
      let blocked := append_engine env config "RISK_BLOCK" "RETRY" (some "db_lock_retry") [] run
      some (add_blocker "db_lock_retry" blocked)
  | "corrupted_projection" =>
      let recorded := record_order_lifecycle env config request run
      let recovered := append_engine env config "ENGINE_RECOVER_REPLAY" "RECOVERED"
        (some "corrupted_projection") [] recorded
      some (add_blocker "corrupted_projection_rebuilt" recovered)
  | _ => none

/-- `sorted(set(values))`. -/
def sorted_set (values : List String) : List String := values.toFinset.sort (· ≤ ·)

/-- An empty database. -/
def empty_store : MemoryStore K where
  execution_events := []
  projections := ⟨∅, ∅, ∅, ∅⟩
  replay_checkpoints := ∅

/-- The events of `run_single_chaos_scenario` on an empty journal, none for an unknown
scenario. -/
def chaos_events (request : NoKeyOrderRequest K) : Option (ExecutorRun K) :=
  let started := append_engine env config "ENGINE_START" "STARTED" none
    [("scenario_id", .str config.scenario_id)] { journal := [] }
  (scenario_events env config config.scenario_id request started).map fun run =>
    let reconciled := append_engine env config "POSITION_RECONCILE" "RECONCILED" none
      run.gateway.account_snapshot run
    let safe :=
      if "cancel_all_simulated" ∉ reconciled.safe_actions
          ∧ config.scenario_id ∈ ["stale_websocket", "disk_full", "db_lock_retry"] then
        add_safe_action "cancel_all_simulated" reconciled
      else reconciled
    append_engine env config "ENGINE_STOP" "STOPPED" none
      [("scenario_id", .str config.scenario_id)] safe

/-- The scenario that a call runs. -/
def called_scenario (scenario_id : Option String) : String :=
  (non_empty scenario_id).getD config.scenario_id

/-- `run_single_chaos_scenario`: what it leaves in the database, which it resets first, and its
report. -/
def run_single_chaos_scenario (scenario_id : Option String) (request : NoKeyOrderRequest K) :
    Except String (MemoryStore K × ExecutorReport) :=
  let scenario := called_scenario config scenario_id
  if config.allow_live_private_path then
    .error "phase2_no_key_executor_forbids_live_private_path"
  else
    match chaos_events env { config with scenario_id := scenario } request with
    | none => .error ("unknown chaos scenario: " ++ scenario)
    | some run =>
        let rebuilt := rebuild_twice env { empty_store with execution_events := run.journal }
        .ok (rebuilt.1,
          { scenario_id := scenario
            session_id := config.session_id
            event_types := run.event_types
            blocker_codes := sorted_set run.blocker_codes
            safe_actions := sorted_set run.safe_actions
            projection := rebuilt.2 })

end Runs

end ProofAlpha.Execution.NoKey
