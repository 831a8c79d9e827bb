/-
The reconciliation with the gateway: `execution/reconciliation.py`,
`reconcile_projection_with_gateway`.

The journal is rebuilt, the local projection is loaded, and a list of checks
turns it and the gateway's snapshot into blocker codes; without a code the
status is `matched`. The checks on orders, fills and positions go over what the
gateway lists. `matched_sides_agree_iff` says what is left unchecked.
-/
import ProofAlpha.Execution.Phase3Ledgers
import ProofAlpha.Governance.StageWrites
import Mathlib.Data.Finset.Sort

set_option autoImplicit false

namespace ProofAlpha.Execution

open ProofAlpha.Lib ProofAlpha.Governance
open ProofAlpha.Memory hiding float_or_none

/-! ## The gateway -/

/-- `GatewayAccountSnapshot`. -/
structure GatewayAccountSnapshot (K : Type) where
  account_id : String
  stale : Bool
  equity : Option K
  cash_balance : Option K
  realized_pnl : Option K
  unrealized_pnl : Option K
  margin_usage : Option K
  exposure : Option K

/-- `GatewayOrderSnapshot`. -/
structure GatewayOrderSnapshot (K : Type) where
  order_id_client : String
  symbol : String
  side : String
  qty : K
  filled_qty : K
  status : String
  reduce_only : Bool

/-- `GatewayPositionSnapshot`. -/
structure GatewayPositionSnapshot (K : Type) where
  symbol : String
  net_qty : K
  entry_price : Option K
  unrealized_pnl : Option K

/-- `GatewayStateSnapshot`. -/
structure GatewayStateSnapshot (K : Type) where
  account : GatewayAccountSnapshot K
  open_orders : List (GatewayOrderSnapshot K)
  fills : List (JsonObject K)
  positions : List (GatewayPositionSnapshot K)
  funding : List (JsonObject K)

/-! ## The local projection -/

/-- What `_load_local_projection` returns. -/
structure LocalProjection (K : Type) where
  orders : Dict String (OrderRow K)
  fills : Dict String (FillRow K)
  positions : Dict String (AccountPositionRow K)
  risk : Option (AccountRiskRow K)
  funding_fee : K
  realized_pnl : K
  unrealized_pnl : K
  equity : Option K
  cash_balance : Option K

/-- A value as `json_extract` returns it. -/
inductive SqlValue (K : Type)
  | null
  | number (x : K)
  | text (s : String)
  deriving DecidableEq

section Reconciliation

variable {K : Type} [Field K] [LinearOrder K] (texts : PyTexts K)

/-- `_load_local_projection`. -/
def load_local_projection (projections : Projections K) (tables : Phase3Tables K) :
    LocalProjection K where
  orders := projections.orders_live
  fills := projections.fills
  positions := tables.positions
  risk := tables.risk_state.lookup "account"
  funding_fee := (tables.funding_ledger.map FundingRow.funding_fee).sum
  realized_pnl := (tables.pnl_attribution.map PnlRow.realized_strategy_pnl).sum
  unrealized_pnl := (tables.pnl_attribution.map PnlRow.unrealized_pnl).sum
  equity := tables.equity_snapshots.getLast?.map EquityRow.equity
  cash_balance := tables.equity_snapshots.getLast?.bind EquityRow.cash_balance

/-- `json_extract(metadata_json, '$.fill_id')`; `json_text` is the text of a list
or an object. -/
def sql_value (json_text : JsonValue K → String) : JsonValue K → SqlValue K
  | .null => .null
  | .bool b => .number b.toNat
  | .int n => .number n
  | .float x => .number x
  | .str s => .text s
  | value => .text (json_text value)

/-- `_local_duplicate_fill_count`. -/
def local_duplicate_fill_count (json_text : JsonValue K → String)
    (journal : List (ExecutionEvent K)) : ℕ :=
  let fill_ids := (fill_events journal).map fun event =>
    sql_value json_text (event.metadata.get "fill_id")
  (fill_ids.filter fun value => value ≠ .null ∧ 1 < fill_ids.count value).dedup.length

/-! ## Checks -/

/-- `_close`. -/
def close (left right : Option K) : Bool :=
  match left, right with
  | some left, some right => decide (|left - right| ≤ 1e-9)
  | none, none => true
  | _, _ => false

/-- A figure that the gateway reports and that is not close to the local one. -/
def differs (reported : Option K) (local_value : Option K) : Bool :=
  reported.isSome && ! close local_value reported

/-- `gateway_fill_ids`. -/
def reported_fill_ids (snapshot : GatewayStateSnapshot K) : List String :=
  (snapshot.fills.filter fun fill => truthy (JsonObject.get fill "fill_id")).map fun fill =>
    py_str texts.composite_text (JsonObject.get fill "fill_id")

/-- `local_order.get("metadata", {}).get("reduce_only", False)`, as a flag. -/
def local_reduce_only (row : OrderRow K) : Bool :=
  truthy (row.metadata.get_or "reduce_only" (.bool false))

/-- The codes of one open order. -/
def order_blockers (local_state : LocalProjection K) (order : GatewayOrderSnapshot K) :
    List String :=
  match local_state.orders.lookup order.order_id_client with
  | none => ["orphan_order_detected"]
  | some local_order =>
      (if close (some local_order.filled_qty) (some order.filled_qty) then []
        else ["filled_qty_mismatch"])
      ++ if local_reduce_only local_order = order.reduce_only then []
        else ["reduce_only_mismatch"]

/-- The codes of the fills. -/
def fill_blockers (local_state : LocalProjection K) (local_duplicates : ℕ)
    (snapshot : GatewayStateSnapshot K) : List String :=
  (if (reported_fill_ids texts snapshot).Nodup then [] else ["duplicate_fill_detected"])
  ++ (if ∀ fill_id ∈ reported_fill_ids texts snapshot, fill_id ∈ local_state.fills then []
    else ["missing_fill_detected"])
  ++ if 0 < local_duplicates then ["duplicate_fill_detected"] else []

/-- The codes of one position. -/
def position_blockers (local_state : LocalProjection K) (position : GatewayPositionSnapshot K) :
    List String :=
  match local_state.positions.lookup position.symbol with
  | none => ["symbol_exposure_drift"]
  | some local_position =>
      if ! close (some local_position.net_qty) (some position.net_qty) then
        ["symbol_exposure_drift"]
      else if position.entry_price.isSome && local_position.entry_price.isSome
          && ! close local_position.entry_price position.entry_price then
        ["symbol_exposure_drift"]
      else []

/-- The codes of the account's risk figures. -/
def risk_blockers (local_state : LocalProjection K) (account : GatewayAccountSnapshot K) :
    List String :=
  let mismatch :=
    match local_state.risk with
    | none => account.exposure.isSome || account.margin_usage.isSome
        || account.realized_pnl.isSome || account.unrealized_pnl.isSome
    | some risk => differs account.exposure (some risk.exposure)
        || differs account.margin_usage (some risk.margin_usage)
        || differs account.realized_pnl (some risk.realized_pnl)
        || differs account.unrealized_pnl (some risk.unrealized_pnl)
  if mismatch then ["risk_state_mismatch"] else []

/-- `sum(_float_or_zero(item.get("funding_fee")) for item in snapshot.funding)`. -/
def gateway_funding (snapshot : GatewayStateSnapshot K) : K :=
  (snapshot.funding.map fun item => figure_or_zero texts item "funding_fee").sum

/-- The codes of the account's money figures. -/
def account_blockers (local_state : LocalProjection K) (snapshot : GatewayStateSnapshot K) :
    List String :=
  let account := snapshot.account
  (if close (some local_state.funding_fee) (some (gateway_funding texts snapshot)) then []
    else ["funding_mismatch"])
  ++ (if differs account.equity local_state.equity
        || differs account.cash_balance local_state.cash_balance then ["cash_equity_mismatch"]
    else [])
  ++ if differs account.realized_pnl (some local_state.realized_pnl)
        || differs account.unrealized_pnl (some local_state.unrealized_pnl) then ["pnl_mismatch"]
    else []

/-- The codes in the order in which they are found. -/
def found_blockers (local_state : LocalProjection K) (local_duplicates : ℕ)
    (snapshot : GatewayStateSnapshot K) : List String :=
  (if snapshot.account.stale then ["stale_account_snapshot_detected"] else [])
  ++ snapshot.open_orders.flatMap (order_blockers local_state)
  ++ fill_blockers texts local_state local_duplicates snapshot
  ++ snapshot.positions.flatMap (position_blockers local_state)
  ++ risk_blockers local_state snapshot.account
  ++ account_blockers texts local_state snapshot

/-- `_reconciliation_blockers`: `sorted(blockers)`. -/
def reconciliation_blockers (local_state : LocalProjection K) (local_duplicates : ℕ)
    (snapshot : GatewayStateSnapshot K) : List String :=
  (found_blockers texts local_state local_duplicates snapshot).toFinset.sort (· ≤ ·)

/-! ## The run -/

/-- `_safe_actions_for_blockers`. -/
def safe_actions_for_blockers (blocker_codes : List String) : List String :=
  if blocker_codes = [] then []
  else ["pause_artifact", "cancel_all", "flatten_all", "force_reconcile"]

/-- The request of a safe action. -/
def safe_action_request (operator_id artifact_id action : String) : HumanOverrideRequest where
  action := action
  operator_id := operator_id
  artifact_id :=
    if action ∈ ["pause_artifact", "force_reconcile"] then some artifact_id else none
  confirmation :=
    if action ∈ ["cancel_all", "flatten_all"] then some ("CONFIRM:" ++ action) else none

/-- `_journal_safe_actions`; `stamp_of` is the stamp of each call. -/
def journal_safe_actions (stamp_of : String → CallStamp) (operator_id artifact_id : String)
    (governance : GovernanceStore) (safe_actions : List String) :
    GovernanceStore × List HumanOverrideResult :=
  safe_actions.foldl
    (fun acc action =>
      let applied := apply_human_override acc.1 (safe_action_request operator_id artifact_id action)
        (stamp_of action)
      (applied.1, acc.2 ++ [applied.2]))
    (governance, [])

/-- `rebuild_phase3_execution_projection`: the second of two rebuilds, and whether
their digests agree. -/
def rebuild_phase3_execution_projection (env : Phase3Env K) (store : MemoryStore K) :
    Option (MemoryStore K × Phase3Tables K × Phase3Summary × Bool) := do
  let first ← rebuild_phase3_once texts env store
  let second ← rebuild_phase3_once texts env first.1
  some (second.1, second.2.1, second.2.2,
    decide (first.2.2.phase3_projection_digest = second.2.2.phase3_projection_digest))

/-- The report of the reconciliation. -/
structure ReconciliationReport where
  status : String
  blocker_codes : List String
  safe_actions : List String
  operator_journal : List HumanOverrideResult
  projection : Phase3Summary
  replay_deterministic : Bool

/-- What a reconciliation reads and writes beside the gateway's snapshot. -/
structure ReconciliationRun (K : Type) where
  memory : MemoryStore K
  tables : Phase3Tables K
  governance : GovernanceStore
  report : ReconciliationReport

/-- The arguments of a reconciliation that its verdict does not depend on, and
the parts of its environment. -/
structure ReconciliationEnv (K : Type) extends Phase3Env K where
  json_text : JsonValue K → String
  stamp_of : String → CallStamp
  operator_id : String
  artifact_id : String

/-- `reconcile_projection_with_gateway`. -/
def reconcile_projection_with_gateway (env : ReconciliationEnv K) (store : MemoryStore K)
    (governance : GovernanceStore) (snapshot : GatewayStateSnapshot K) :
    Option (ReconciliationRun K) :=
  (rebuild_phase3_execution_projection texts env.toPhase3Env store).map fun rebuilt =>
    let local_state := load_local_projection rebuilt.1.projections rebuilt.2.1
    let blocker_codes := reconciliation_blockers texts local_state
      (local_duplicate_fill_count env.json_text rebuilt.1.execution_events) snapshot
    let safe_actions := safe_actions_for_blockers blocker_codes
    let journaled := journal_safe_actions env.stamp_of env.operator_id env.artifact_id governance
      safe_actions
    { memory := rebuilt.1
      tables := rebuilt.2.1
      governance := journaled.1
      report :=
        { status := if blocker_codes = [] then "matched" else "blocked"
          blocker_codes := blocker_codes
          safe_actions := safe_actions
          operator_journal := journaled.2
          projection := rebuilt.2.2.1
          replay_deterministic := rebuilt.2.2.2 } }

/-- The local projection that a reconciliation has loaded. -/
def ReconciliationRun.local_state (run : ReconciliationRun K) : LocalProjection K :=
  load_local_projection run.memory.projections run.tables

end Reconciliation

/-! ## What `matched` says -/

section Matched

variable {K : Type} [Field K] [LinearOrder K] (texts : PyTexts K)

/-- The local net quantity of a symbol, 0 where there is no row. -/
def LocalProjection.net_qty (local_state : LocalProjection K) (symbol : String) : K :=
  ((local_state.positions.lookup symbol).map fun row => row.net_qty).getD 0

/-- The gateway lists an order. -/
def lists_order (snapshot : GatewayStateSnapshot K) (order_id_client : String) : Prop :=
  ∃ order ∈ snapshot.open_orders, order.order_id_client = order_id_client

/-- The gateway lists a position of a symbol. -/
def lists_position (snapshot : GatewayStateSnapshot K) (symbol : String) : Prop :=
  ∃ position ∈ snapshot.positions, position.symbol = symbol

/-- An order is open locally. -/
def open_locally (is_open : String → Prop) (local_state : LocalProjection K)
    (order_id_client : String) : Prop :=
  ∃ row, local_state.orders.lookup order_id_client = some row ∧ is_open row.status

/-- The two sides agree on the net quantities, the open orders and the fill ids. -/
structure GatewayAgrees (is_open : String → Prop) (local_state : LocalProjection K)
    (snapshot : GatewayStateSnapshot K) : Prop where
  listed_positions : ∀ position ∈ snapshot.positions,
    local_state.net_qty position.symbol = position.net_qty
  other_positions : ∀ symbol, ¬ lists_position snapshot symbol → local_state.net_qty symbol = 0
  open_orders : ∀ order_id_client,
    open_locally is_open local_state order_id_client ↔ lists_order snapshot order_id_client
  fills : ∀ fill_id, fill_id ∈ local_state.fills ↔ fill_id ∈ reported_fill_ids texts snapshot

/-- Nothing escapes the checks: no local position on a symbol that the gateway
leaves out, no difference that the tolerance lets pass, no local open order or
local fill that the gateway does not list, and no order that it lists and that is
closed locally. -/
structure NothingUnchecked (is_open : String → Prop) (local_state : LocalProjection K)
    (snapshot : GatewayStateSnapshot K) : Prop where
  local_positions : ∀ symbol row, local_state.positions.lookup symbol = some row →
    ¬ lists_position snapshot symbol → row.net_qty = 0
  differences : ∀ position ∈ snapshot.positions, ∀ row,
    local_state.positions.lookup position.symbol = some row →
      |row.net_qty - position.net_qty| ≤ 1e-9 → row.net_qty = position.net_qty
  local_orders : ∀ order_id_client row, local_state.orders.lookup order_id_client = some row →
    is_open row.status → lists_order snapshot order_id_client
  closed_orders : ∀ order ∈ snapshot.open_orders, ∀ row,
    local_state.orders.lookup order.order_id_client = some row → is_open row.status
  local_fills : ∀ fill_id ∈ local_state.fills, fill_id ∈ reported_fill_ids texts snapshot

/-- What the checks establish when they find nothing. -/
structure Checked (local_state : LocalProjection K) (snapshot : GatewayStateSnapshot K) :
    Prop where
  orders : ∀ order ∈ snapshot.open_orders,
    ∃ row, local_state.orders.lookup order.order_id_client = some row
  fills : ∀ fill_id ∈ reported_fill_ids texts snapshot, fill_id ∈ local_state.fills
  positions : ∀ position ∈ snapshot.positions,
    ∃ row, local_state.positions.lookup position.symbol = some row
      ∧ |row.net_qty - position.net_qty| ≤ 1e-9

theorem checked_of_no_blocker {local_state : LocalProjection K} {local_duplicates : ℕ}
    {snapshot : GatewayStateSnapshot K}
    (h : reconciliation_blockers texts local_state local_duplicates snapshot = []) :
    Checked texts local_state snapshot := by
  have hfound : found_blockers texts local_state local_duplicates snapshot = [] := by
    refine List.eq_nil_iff_forall_not_mem.mpr fun code hcode => ?_
    have hsorted : code ∈ reconciliation_blockers texts local_state local_duplicates snapshot :=
      (Finset.mem_sort _).mpr (List.mem_toFinset.mpr hcode)
    rw [h] at hsorted
    exact List.not_mem_nil hsorted
  unfold found_blockers at hfound
  simp only [List.append_eq_nil_iff] at hfound
  obtain ⟨⟨⟨⟨⟨-, horders⟩, hfills⟩, hpositions⟩, -⟩, -⟩ := hfound
  refine ⟨fun order horder => ?_, ?_, fun position hposition => ?_⟩
  · have hone := List.flatMap_eq_nil_iff.mp horders order horder
    unfold order_blockers at hone
    cases hrow : local_state.orders.lookup order.order_id_client with
    | none =>
        rw [hrow] at hone
        cases hone
    | some row => exact ⟨row, rfl⟩
  · unfold fill_blockers at hfills
    simp only [List.append_eq_nil_iff] at hfills
    have hmissing := hfills.1.2
    split_ifs at hmissing with hknown
    exact hknown
  · have hone := List.flatMap_eq_nil_iff.mp hpositions position hposition
    unfold position_blockers at hone
    cases hrow : local_state.positions.lookup position.symbol with
    | none =>
        rw [hrow] at hone
        cases hone
    | some row =>
        rw [hrow] at hone
        dsimp only at hone
        refine ⟨row, rfl, ?_⟩
        by_contra hfar
        rw [close, decide_eq_false hfar] at hone
        exact absurd hone (List.cons_ne_nil _ _)

/-- Where the checks find nothing, the two sides agree if and only if nothing
escapes the checks. -/
theorem gatewayAgrees_iff {is_open : String → Prop} {local_state : LocalProjection K}
    {snapshot : GatewayStateSnapshot K} (hchecked : Checked texts local_state snapshot) :
    GatewayAgrees texts is_open local_state snapshot
      ↔ NothingUnchecked texts is_open local_state snapshot := by
  have hnet : ∀ symbol row, local_state.positions.lookup symbol = some row →
      local_state.net_qty symbol = row.net_qty := by
    intro symbol row hrow
    rw [LocalProjection.net_qty, hrow]
    rfl
  constructor
  · intro h
    constructor
    · intro symbol row hrow hunlisted
      rw [← hnet symbol row hrow]
      exact h.other_positions symbol hunlisted
    · intro position hposition row hrow _
      rw [← hnet position.symbol row hrow]
      exact h.listed_positions position hposition
    · intro order_id_client row hrow hopen
      exact (h.open_orders order_id_client).mp ⟨row, hrow, hopen⟩
    · intro order horder row hrow
      obtain ⟨row', hrow', hopen⟩ := (h.open_orders order.order_id_client).mpr ⟨order, horder, rfl⟩
      rw [hrow, Option.some_inj] at hrow'
      exact hrow' ▸ hopen
    · exact fun fill_id hfill => (h.fills fill_id).mp hfill
  · intro h
    constructor
    · intro position hposition
      obtain ⟨row, hrow, hclose⟩ := hchecked.positions position hposition
      rw [hnet position.symbol row hrow]
      exact h.differences position hposition row hrow hclose
    · intro symbol hunlisted
      cases hrow : local_state.positions.lookup symbol with
      | none =>
          rw [LocalProjection.net_qty, hrow]
          rfl
      | some row =>
          rw [hnet symbol row hrow]
          exact h.local_positions symbol row hrow hunlisted
    · intro order_id_client
      constructor
      · rintro ⟨row, hrow, hopen⟩
        exact h.local_orders order_id_client row hrow hopen
      · rintro ⟨order, horder, rfl⟩
        obtain ⟨row, hrow⟩ := hchecked.orders order horder
        exact ⟨row, hrow, h.closed_orders order horder row hrow⟩
    · exact fun fill_id => ⟨h.local_fills fill_id, hchecked.fills fill_id⟩

/-- When a reconciliation reports `matched`, the local projection and the gateway
agree if and only if nothing escapes the checks. -/
theorem matched_sides_agree_iff (is_open : String → Prop) {env : ReconciliationEnv K}
    {store : MemoryStore K} {governance : GovernanceStore} {snapshot : GatewayStateSnapshot K}
    {run : ReconciliationRun K}
    (hrun : reconcile_projection_with_gateway texts env store governance snapshot = some run)
    (hmatched : run.report.status = "matched") :
    GatewayAgrees texts is_open run.local_state snapshot
      ↔ NothingUnchecked texts is_open run.local_state snapshot := by
  obtain ⟨rebuilt, -, rfl⟩ := Option.map_eq_some_iff.mp hrun
  dsimp only at hmatched
  split_ifs at hmatched with hnone
  · exact gatewayAgrees_iff texts (checked_of_no_blocker texts hnone)
  · exact absurd hmatched (by decide)

end Matched

/-! ## A gateway that agrees, and one that knows nothing -/

/-- An environment in which nothing is journaled. -/
def plain_reconciliation : ReconciliationEnv ℚ where
  toPhase3Env := plain_env
  json_text := fun _ => ""
  stamp_of := stamp_at
  operator_id := "ops-1"
  artifact_id := "artifact-1"

/-- A governance database without artifacts. -/
def no_artifacts : GovernanceStore where
  artifacts := ∅
  deployments := ∅
  risk_events := []
  lifecycle_journal := []
  human_override_journal := []

/-- A gateway that reports no figures of the account. -/
def plain_snapshot (fills : List (JsonObject ℚ)) (positions : List (GatewayPositionSnapshot ℚ)) :
    GatewayStateSnapshot ℚ where
  account :=
    { account_id := "account"
      stale := false
      equity := none
      cash_balance := none
      realized_pnl := none
      unrealized_pnl := none
      margin_usage := none
      exposure := none }
  open_orders := []
  fills := fills
  positions := positions
  funding := []

/-- The gateway's side of one fill of 2 BTCUSDT. -/
def bought_snapshot : GatewayStateSnapshot ℚ :=
  plain_snapshot [[("fill_id", .str "f1")]]
    [{ symbol := "BTCUSDT", net_qty := 2, entry_price := none, unrealized_pnl := none }]

/-- The symbols and net quantities of a local projection. -/
def LocalProjection.position_quantities (local_state : LocalProjection ℚ) : List (String × ℚ) :=
  local_state.positions.entries.map fun item => (item.1, item.2.net_qty)

/-- The statuses of its orders. -/
def LocalProjection.order_statuses (local_state : LocalProjection ℚ) : List String :=
  local_state.orders.entries.map fun item => item.2.status

/-- A journal with one fill of 2 BTCUSDT, by an order that is then filled. -/
def bought_journal : MemoryStore ℚ :=
  journal_store [{ buy_fill 1 (some "c1") with status := some "FILLED" }]

theorem matched_sides_agree_bought :
    ∃ run, reconcile_projection_with_gateway plain_texts plain_reconciliation bought_journal
        no_artifacts bought_snapshot = some run
      ∧ run.report.status = "matched"
      ∧ GatewayAgrees plain_texts (fun status => status ≠ "FILLED") run.local_state
          bought_snapshot := by
  have hvalues : (reconcile_projection_with_gateway plain_texts plain_reconciliation bought_journal
      no_artifacts bought_snapshot).map (fun run =>
        (run.report.status, run.local_state.fills.keys, run.local_state.position_quantities,
          run.local_state.order_statuses))
      = some ("matched", ["f1"], [("BTCUSDT", 2)], ["FILLED"]) := by
    decide +kernel
  obtain ⟨run, hrun, heq⟩ := Option.map_eq_some_iff.mp hvalues
  simp only [Prod.mk.injEq] at heq
  obtain ⟨hmatched, hfills, hpositions, horders⟩ := heq
  refine ⟨run, hrun, hmatched, ?_⟩
  rw [matched_sides_agree_iff plain_texts (fun status => status ≠ "FILLED") hrun hmatched]
  have hposition : ∀ symbol row, run.local_state.positions.lookup symbol = some row →
      symbol = "BTCUSDT" ∧ row.net_qty = 2 := by
    intro symbol row hrow
    have hitem : (symbol, row.net_qty) ∈ run.local_state.position_quantities :=
      List.mem_map.mpr ⟨_, AList.mem_lookup_iff.mp hrow, rfl⟩
    rw [hpositions, List.mem_singleton, Prod.mk.injEq] at hitem
    exact hitem
  have horder : ∀ id row, run.local_state.orders.lookup id = some row → row.status = "FILLED" := by
    intro id row hrow
    have hitem : row.status ∈ run.local_state.order_statuses :=
      List.mem_map.mpr ⟨_, AList.mem_lookup_iff.mp hrow, rfl⟩
    rw [horders, List.mem_singleton] at hitem
    exact hitem
  constructor
  · intro symbol row hrow hunlisted
    obtain ⟨rfl, -⟩ := hposition symbol row hrow
    exact absurd ⟨_, List.mem_cons_self .., rfl⟩ hunlisted
  · intro position hlisted row hrow _
    have hsame := List.mem_singleton.mp hlisted
    subst hsame
    exact (hposition _ row hrow).2
  · intro id row hrow hopen
    exact absurd (horder id row hrow) hopen
  · intro order horder' _ _
    exact absurd horder' List.not_mem_nil
  · intro fill_id hfill
    have hkey : fill_id ∈ run.local_state.fills.keys := AList.mem_keys.mp hfill
    rw [hfills, List.mem_singleton] at hkey
    subst hkey
    decide +kernel

/-- The run is `matched` although the gateway knows neither the position nor the
fill. -/
theorem matched_misses_local_position :
    ∃ run, reconcile_projection_with_gateway plain_texts plain_reconciliation bought_journal
        no_artifacts (plain_snapshot [] []) = some run
      ∧ run.report.status = "matched"
      ∧ run.local_state.net_qty "BTCUSDT" = 2
      ∧ "f1" ∈ run.local_state.fills
      ∧ ∀ is_open, ¬ GatewayAgrees plain_texts is_open run.local_state (plain_snapshot [] []) := by
  have hvalues : (reconcile_projection_with_gateway plain_texts plain_reconciliation bought_journal
      no_artifacts (plain_snapshot [] [])).map (fun run =>
        (run.report.status, run.local_state.net_qty "BTCUSDT", run.local_state.fills.keys))
      = some ("matched", 2, ["f1"]) := by
    decide +kernel
  obtain ⟨run, hrun, heq⟩ := Option.map_eq_some_iff.mp hvalues
  simp only [Prod.mk.injEq] at heq
  obtain ⟨hmatched, hnet, hfills⟩ := heq
  have hfill : "f1" ∈ run.local_state.fills := by
    rw [AList.mem_keys, hfills]
    decide
  refine ⟨run, hrun, hmatched, hnet, hfill, fun is_open h => ?_⟩
  have hzero := h.other_positions "BTCUSDT" fun ⟨_, hposition, _⟩ =>
    List.not_mem_nil hposition
  rw [hnet] at hzero
  exact absurd hzero (by norm_num)

end ProofAlpha.Execution
