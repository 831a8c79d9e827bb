/-
The repair plan: `execution/reconciliation_repair.py`.

A plan passes when it lists no issue. Its loops run over what the gateway
reports, so a pass says nothing about what only the local ledger knows;
`repair_pass_agrees_iff` says exactly what is left unchecked.
-/
import Mathlib.Data.Finset.Sort
import ProofAlpha.Execution.StateProjection

set_option autoImplicit false

namespace ProofAlpha.Execution

open ProofAlpha.Lib

/-! ## The plan -/

/-- An entry of `issues`. -/
inductive RepairIssue
  | missing_fill (fill_id : String)
  | duplicate_fill (fill_id : String)
  | position_mismatch (symbol : String)
  | balance_mismatch
  | stale_websocket
  | clock_drift
  deriving DecidableEq

/-- The text of an issue. -/
def RepairIssue.text : RepairIssue → String
  | .missing_fill fill_id => "missing_fill:" ++ fill_id
  | .duplicate_fill fill_id => "duplicate_fill:" ++ fill_id
  | .position_mismatch symbol => "position_mismatch:" ++ symbol
  | .balance_mismatch => "balance_mismatch"
  | .stale_websocket => "stale_websocket"
  | .clock_drift => "clock_drift"

/-- The action that `_repair_actions` adds for an issue. -/
def RepairIssue.action : RepairIssue → String
  | .missing_fill _ => "ingest_missing_fill"
  | .duplicate_fill _ => "dedupe_fill"
  | .position_mismatch _ => "force_position_reconcile"
  | .balance_mismatch => "force_balance_reconcile"
  | .stale_websocket => "pause_new_exposure"
  | .clock_drift => "pause_new_exposure"

/-- `_repair_actions`: `sorted(set(actions))`. -/
def repair_actions (issues : List RepairIssue) : List String :=
  (issues.map RepairIssue.action).toFinset.sort (· ≤ ·)

/-- `ReconciliationRepairPlan`. -/
structure ReconciliationRepairPlan where
  status : String
  issues : List RepairIssue
  repair_actions : List String

/-- What the gateway reports. -/
structure GatewayReport (K : Type) where
  fills : List (JsonObject K)
  positions : Dict String K
  cash_balance : K

section Plan

variable {K : Type} (texts : PyTexts K)

/-- `str(fill.get("fill_id", ""))`. -/
def reported_fill_id (fill : JsonObject K) : String :=
  py_str texts.composite_text (fill.get_or "fill_id" (.str ""))

/-- One step of the loop of `detect_duplicate_fills`: the ids seen, and those
seen before. -/
def note_fill (st : Finset String × Finset String) (fill : JsonObject K) :
    Finset String × Finset String :=
  let fill_id := reported_fill_id texts fill
  if fill_id = "" then st
  else (insert fill_id st.1, if fill_id ∈ st.1 then insert fill_id st.2 else st.2)

/-- `detect_duplicate_fills`. -/
def detect_duplicate_fills (fills : List (JsonObject K)) : List String :=
  (fills.foldl (note_fill texts) (∅, ∅)).2.sort (· ≤ ·)

/-- The fill ids the gateway knows. -/
def gateway_fill_ids (gateway : GatewayReport K) : Finset String :=
  ((gateway.fills.map (reported_fill_id texts)).filter (· ≠ "")).toFinset

variable [Field K] [LinearOrder K]

/-- `event.event_type == "FILL"`. -/
def ledger_fills (events : List (LedgerEvent K)) : List (LedgerEvent K) :=
  events.filter fun event => event.event_type = "FILL"

/-- `local_fill_ids`. -/
def local_fill_ids (events : List (LedgerEvent K)) : Finset String :=
  ((ledger_fills events).map (ledger_fill_id texts)).toFinset

/-- The fills of the gateway that are missing locally. -/
def missing_fill_issues (events : List (LedgerEvent K)) (gateway : GatewayReport K) :
    List RepairIssue :=
  ((gateway.fills.map (reported_fill_id texts)).filter fun fill_id =>
    fill_id ≠ "" ∧ fill_id ∉ local_fill_ids texts events).map .missing_fill

/-- The positions of the gateway that the projection does not have. -/
def position_issues (projection : StateProjection K) (gateway : GatewayReport K) :
    List RepairIssue :=
  ((Dict.sorted_items gateway.positions).filter fun item =>
    1e-9 < |item.2 - projection.position item.1|).map fun item => .position_mismatch item.1

/-- The issues of a plan. -/
def repair_issues (events : List (LedgerEvent K)) (projection : StateProjection K)
    (gateway : GatewayReport K) (local_cash_balance : K) (stale_websocket : Bool)
    (clock_drift_seconds : ℤ) : List RepairIssue :=
  missing_fill_issues texts events gateway
    ++ (detect_duplicate_fills texts ((ledger_fills events).map LedgerEvent.payload)).map
      RepairIssue.duplicate_fill
    ++ position_issues projection gateway
    ++ (if 1e-9 < |gateway.cash_balance - local_cash_balance| then [RepairIssue.balance_mismatch]
      else [])
    ++ (if stale_websocket then [RepairIssue.stale_websocket] else [])
    ++ (if 5 < |clock_drift_seconds| then [RepairIssue.clock_drift] else [])

/-- The plan made of its issues. -/
def repair_plan (issues : List RepairIssue) : ReconciliationRepairPlan where
  status := if issues.isEmpty then "PASS" else "REPAIR_REQUIRED"
  issues := issues
  repair_actions := repair_actions issues

/-- `build_reconciliation_repair_plan`. -/
def build_reconciliation_repair_plan [FloorRing K] (stable_hash : ProjectionPayload K → String)
    (events : List (LedgerEvent K)) (gateway : GatewayReport K) (local_cash_balance : K)
    (stale_websocket : Bool) (clock_drift_seconds : ℤ) : Option ReconciliationRepairPlan :=
  (rebuild_state_projection texts stable_hash events).map fun projection =>
    repair_plan (repair_issues texts events projection gateway local_cash_balance stale_websocket
      clock_drift_seconds)

end Plan

/-! ## What a pass says -/

section Pass

variable {K : Type} [Field K] [LinearOrder K] [FloorRing K] (texts : PyTexts K)
  (stable_hash : ProjectionPayload K → String)

/-- The local ledger and the gateway agree: on the position of every symbol that
either side holds, and on the fill ids. -/
structure SidesAgree (events : List (LedgerEvent K)) (projection : StateProjection K)
    (gateway : GatewayReport K) : Prop where
  positions : ∀ symbol, symbol ∈ projection.positions ∨ symbol ∈ gateway.positions →
    projection.position symbol = (gateway.positions.lookup symbol).getD 0
  fills : local_fill_ids texts events = gateway_fill_ids texts gateway

/-- Nothing escapes the loops over the gateway's report: no local position on a
symbol that the gateway leaves out, no local fill that it does not know, and no
difference that the tolerance lets pass. -/
structure NothingEscapes (events : List (LedgerEvent K)) (projection : StateProjection K)
    (gateway : GatewayReport K) : Prop where
  local_positions : ∀ symbol ∈ projection.positions, symbol ∉ gateway.positions →
    projection.position symbol = 0
  local_fills : local_fill_ids texts events ⊆ gateway_fill_ids texts gateway
  differences : ∀ symbol qty, gateway.positions.lookup symbol = some qty →
    |qty - projection.position symbol| ≤ 1e-9 → projection.position symbol = qty

omit [Field K] [LinearOrder K] [FloorRing K] in
theorem mem_gateway_fill_ids {gateway : GatewayReport K} {fill_id : String} :
    fill_id ∈ gateway_fill_ids texts gateway
      ↔ fill_id ∈ gateway.fills.map (reported_fill_id texts) ∧ fill_id ≠ "" := by
  simp [gateway_fill_ids]

/-- A plan that passes lists no issue. -/
theorem issues_of_pass {events : List (LedgerEvent K)} {gateway : GatewayReport K}
    {local_cash_balance : K} {stale_websocket : Bool} {clock_drift_seconds : ℤ}
    {plan : ReconciliationRepairPlan}
    (hplan : build_reconciliation_repair_plan texts stable_hash events gateway local_cash_balance
      stale_websocket clock_drift_seconds = some plan) (hpass : plan.status = "PASS") :
    ∃ projection, rebuild_state_projection texts stable_hash events = some projection
      ∧ missing_fill_issues texts events gateway = [] ∧ position_issues projection gateway = [] := by
  obtain ⟨projection, hprojection, rfl⟩ := Option.map_eq_some_iff.mp hplan
  have hissues : repair_issues texts events projection gateway local_cash_balance stale_websocket
      clock_drift_seconds = [] := by
    unfold repair_plan at hpass
    dsimp only at hpass
    split_ifs at hpass with hempty
    · exact List.isEmpty_iff.mp hempty
    · exact absurd hpass (by decide)
  unfold repair_issues at hissues
  simp only [List.append_eq_nil_iff] at hissues
  exact ⟨projection, hprojection, hissues.1.1.1.1.1, hissues.1.1.1.2⟩

/-- When a plan passes, the ledger and the gateway agree if and only if nothing
escapes its loops. -/
theorem repair_pass_agrees_iff {events : List (LedgerEvent K)} {gateway : GatewayReport K}
    {local_cash_balance : K} {stale_websocket : Bool} {clock_drift_seconds : ℤ}
    {plan : ReconciliationRepairPlan}
    (hplan : build_reconciliation_repair_plan texts stable_hash events gateway local_cash_balance
      stale_websocket clock_drift_seconds = some plan) (hpass : plan.status = "PASS") :
    ∃ projection, rebuild_state_projection texts stable_hash events = some projection
      ∧ (SidesAgree texts events projection gateway
        ↔ NothingEscapes texts events projection gateway) := by
  obtain ⟨projection, hprojection, hfills, hpositions⟩ := issues_of_pass texts stable_hash hplan hpass
  refine ⟨projection, hprojection, ?_⟩
  -- what the loops have checked
  have hknown : gateway_fill_ids texts gateway ⊆ local_fill_ids texts events := by
    intro fill_id hmem
    rw [mem_gateway_fill_ids] at hmem
    rw [missing_fill_issues, List.map_eq_nil_iff, List.filter_eq_nil_iff] at hfills
    by_contra hmissing
    exact hfills fill_id hmem.1 (decide_eq_true ⟨hmem.2, hmissing⟩)
  have hclose : ∀ symbol qty, gateway.positions.lookup symbol = some qty →
      |qty - projection.position symbol| ≤ 1e-9 := by
    intro symbol qty hlookup
    rw [position_issues, List.map_eq_nil_iff, List.filter_eq_nil_iff] at hpositions
    have hitem := hpositions (symbol, qty) (Dict.mem_sorted_items.mpr hlookup)
    rw [decide_eq_true_eq] at hitem
    exact not_lt.mp hitem
  constructor
  · intro h
    refine ⟨fun symbol hlocal hgateway => ?_, h.fills.subset, fun symbol qty hlookup _ => ?_⟩
    · rw [h.positions symbol (Or.inl hlocal), AList.lookup_eq_none.mpr hgateway]
      rfl
    · have hmem : symbol ∈ gateway.positions :=
        AList.lookup_isSome.mp (Option.isSome_iff_exists.mpr ⟨qty, hlookup⟩)
      rw [h.positions symbol (Or.inr hmem), hlookup]
      rfl
  · intro h
    refine ⟨fun symbol hheld => ?_, Finset.Subset.antisymm h.local_fills hknown⟩
    cases hlookup : gateway.positions.lookup symbol with
    | none =>
        have hgateway : symbol ∉ gateway.positions := AList.lookup_eq_none.mp hlookup
        exact h.local_positions symbol (hheld.resolve_right hgateway) hgateway
    | some qty => exact h.differences symbol qty hlookup (hclose symbol qty hlookup)

end Pass

/-! ## A passing plan over two sides that agree, and over two that do not -/

/-- One fill: 1 BTCUSDT bought at 100. -/
def bought_ledger : List (LedgerEvent ℚ) :=
  [LedgerEvent.fill "f1" "o1" "BTCUSDT" "BUY" 1 100 0]

/-- A gateway that knows the fill and the position. -/
def matching_report : GatewayReport ℚ where
  fills := [[("fill_id", .str "f1")]]
  positions := AList.singleton "BTCUSDT" 1
  cash_balance := -100

/-- A gateway that knows neither. -/
def empty_report : GatewayReport ℚ where
  fills := []
  positions := ∅
  cash_balance := -100

theorem repair_pass_agrees_matching :
    ∃ projection, rebuild_state_projection plain_texts (fun _ => "") bought_ledger = some projection
      ∧ projection.position "BTCUSDT" = 1
      ∧ SidesAgree plain_texts bought_ledger projection matching_report := by
  have hstatus : (build_reconciliation_repair_plan plain_texts (fun _ => "") bought_ledger
      matching_report (-100) false 0).map ReconciliationRepairPlan.status = some "PASS" := by
    decide +kernel
  obtain ⟨plan, hplan, hpass⟩ := Option.map_eq_some_iff.mp hstatus
  obtain ⟨projection, hprojection, hiff⟩ :=
    repair_pass_agrees_iff plain_texts (fun _ => "") hplan hpass
  have hposition : (rebuild_state_projection plain_texts (fun _ => "") bought_ledger).map
      (fun projection => (projection.position "BTCUSDT", projection.positions.keys))
      = some (1, ["BTCUSDT"]) := by
    decide +kernel
  rw [hprojection, Option.map_some, Option.some_inj, Prod.mk.injEq] at hposition
  refine ⟨projection, hprojection, hposition.1, hiff.mpr ⟨?_, by decide +kernel, ?_⟩⟩
  · intro symbol hlocal hgateway
    have hkey : symbol ∈ projection.positions.keys := AList.mem_keys.mp hlocal
    rw [hposition.2, List.mem_singleton] at hkey
    rw [hkey] at hgateway
    exact absurd (by decide) hgateway
  · intro symbol qty hlookup _
    have hsymbol : symbol = "BTCUSDT" := by
      by_contra hne
      have hnone : matching_report.positions.lookup symbol = none :=
        AList.lookup_eq_none.mpr fun hmem => hne (List.mem_singleton.mp (AList.mem_keys.mp hmem))
      rw [hnone] at hlookup
      cases hlookup
    subst hsymbol
    rw [hposition.1]
    exact Option.some.inj hlookup

/-- The plan passes although the position and the fill exist only locally. -/
theorem repair_pass_misses_local_fill :
    ∃ plan projection, build_reconciliation_repair_plan plain_texts (fun _ => "") bought_ledger
        empty_report (-100) false 0 = some plan
      ∧ plan.status = "PASS"
      ∧ rebuild_state_projection plain_texts (fun _ => "") bought_ledger = some projection
      ∧ ¬ SidesAgree plain_texts bought_ledger projection empty_report := by
  have hstatus : (build_reconciliation_repair_plan plain_texts (fun _ => "") bought_ledger
      empty_report (-100) false 0).map ReconciliationRepairPlan.status = some "PASS" := by
    decide +kernel
  obtain ⟨plan, hplan, hpass⟩ := Option.map_eq_some_iff.mp hstatus
  obtain ⟨projection, hprojection, -⟩ := Option.map_eq_some_iff.mp hplan
  refine ⟨plan, projection, hplan, hpass, hprojection, fun h => ?_⟩
  have hfills : local_fill_ids plain_texts bought_ledger
      ≠ gateway_fill_ids plain_texts empty_report := by
    decide +kernel
  exact hfills h.fills

end ProofAlpha.Execution
