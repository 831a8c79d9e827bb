/-
The lifecycle of strategy artifacts: `governance/lifecycle.py`.

`evaluate_lifecycle_policy` turns a health snapshot into a decision, and
`apply_lifecycle_decision` writes it to four tables, if the evidence closes out
the runbook. The clock and `uuid4` are arguments. Timestamps are texts of one
format with one-second resolution, so SQL orders them as the clock does.

`lifecycle_status` reads two tables with `ORDER BY ... DESC LIMIT 1`. Which of
several rows with the latest timestamp it gets is not said; the choice is the
parameter `TopRow`.
-/
import Mathlib.Algebra.Field.Defs
import ProofAlpha.Lib.LastWrite
import ProofAlpha.Lib.PyDict
import ProofAlpha.Lib.PyJson
import ProofAlpha.Lib.PyMath

set_option autoImplicit false

namespace ProofAlpha.Governance

open ProofAlpha.Lib

/-! ## Runbooks -/

/-- `Automation`. -/
inductive Automation
  | ignore
  | pause
  | cancel
  | flatten
  | rollback
  | rotate_key
  | restart
  | manual_review
  deriving DecidableEq

/-- `AlertRunbook`. -/
structure AlertRunbook where
  alert_code : String
  severity : String
  default_automation : Automation
  required_evidence : List String

/-- A dict of runbooks. -/
abbrev Runbooks := List (String × AlertRunbook)

/-- A runbook under its own code. -/
def runbook_entry (alert_code severity : String) (default_automation : Automation)
    (required_evidence : List String) : String × AlertRunbook :=
  (alert_code,
    { alert_code := alert_code
      severity := severity
      default_automation := default_automation
      required_evidence := required_evidence })

/-- `DEFAULT_ALERT_RUNBOOKS`. -/
def DEFAULT_ALERT_RUNBOOKS : Runbooks :=
  [runbook_entry "none" "info" .ignore ["operator"],
    runbook_entry "liquidation" "critical" .rollback ["operator", "metric_window", "review_notes"],
    runbook_entry "artifact_checksum_mismatch" "critical" .rollback
      ["operator", "artifact_sha256", "review_notes"],
    runbook_entry "venue_rule_mismatch" "critical" .rollback
      ["operator", "exchange_rules_version", "review_notes"],
    runbook_entry "trailing_30d_live_sharpe_below_floor" "warning" .pause
      ["operator", "metric_window", "review_notes"],
    runbook_entry "realized_slippage_gt_2x_modeled_5d" "warning" .pause
      ["operator", "metric_window", "review_notes"],
    runbook_entry "pause_to_paper" "warning" .pause ["operator", "metric_window", "review_notes"],
    runbook_entry "fill_rejection_cluster" "warning" .pause ["operator", "metric_window", "review_notes"],
    runbook_entry "drawdown_limit_breached" "critical" .flatten
      ["operator", "metric_window", "review_notes"],
    runbook_entry "capacity_drift_breached" "warning" .pause
      ["operator", "metric_window", "review_notes"],
    runbook_entry "data_quality_degraded" "warning" .pause ["operator", "metric_window", "review_notes"],
    runbook_entry "two_pauses_within_90d" "critical" .rollback
      ["operator", "metric_window", "review_notes"],
    runbook_entry "holdout_assumptions_invalidated" "critical" .rollback ["operator", "review_notes"],
    runbook_entry "revalidation_required" "warning" .manual_review ["operator", "review_notes"],
    runbook_entry "venue_outage" "critical" .cancel ["operator", "metric_window", "review_notes"],
    runbook_entry "secret_rotation_due" "warning" .rotate_key ["operator", "review_notes"],
    runbook_entry "executor_restart_required" "warning" .restart ["operator", "review_notes"]]

/-- `DEFAULT_ALERT_RUNBOOKS["revalidation_required"]`. -/
def revalidation_runbook : AlertRunbook where
  alert_code := "revalidation_required"
  severity := "warning"
  default_automation := .manual_review
  required_evidence := ["operator", "review_notes"]

example : List.lookup "revalidation_required" DEFAULT_ALERT_RUNBOOKS = some revalidation_runbook :=
  rfl

/-! ## Decisions -/

/-- `ArtifactHealthSnapshot`. -/
structure ArtifactHealthSnapshot (K : Type) where
  artifact_id : String
  lifecycle_state : String
  liquidation_events : ℤ
  checksum_valid : Bool
  venue_rules_match : Bool
  trailing_30d_live_sharpe : Option K
  live_sample_count : ℤ
  realized_slippage_over_modeled_5d : Option K
  fill_rejection_cluster : Bool
  pause_count_90d : ℤ
  holdout_assumptions_invalidated : Bool
  drawdown_limit_breached : Bool
  capacity_drift_breached : Bool
  validation_expired : Bool
  scenario_pack_changed : Bool
  venue_api_rules_changed : Bool
  data_quality_degraded : Bool

/-- `LifecycleDecision`. -/
structure LifecycleDecision where
  artifact_id : String
  source_state : String
  target_state : String
  revalidation_required : Bool
  primary_reason : String
  reasons : List String
  runbook_code : String
  default_automation : Automation
  severity : String

/-- The reasons whose condition holds, in order. -/
def reasons_that_hold (rules : List (Bool × String)) : List String :=
  (rules.filter Prod.fst).map Prod.snd

section Policy

variable {K : Type} [Field K] [LinearOrder K]

/-- The reasons to retire an artifact. -/
def retire_reasons (snapshot : ArtifactHealthSnapshot K) : List String :=
  reasons_that_hold
    [(decide (0 < snapshot.liquidation_events), "liquidation"),
      (! snapshot.checksum_valid, "artifact_checksum_mismatch"),
      (! snapshot.venue_rules_match, "venue_rule_mismatch"),
      (decide (2 ≤ snapshot.pause_count_90d), "two_pauses_within_90d"),
      (snapshot.holdout_assumptions_invalidated, "holdout_assumptions_invalidated")]

/-- The Sharpe ratio is below its floor, over enough samples. -/
def sharpe_below_floor (snapshot : ArtifactHealthSnapshot K) : Bool :=
  match snapshot.trailing_30d_live_sharpe with
  | some sharpe => decide (sharpe < -0.5) && decide (30 ≤ snapshot.live_sample_count)
  | none => false

/-- The slippage is more than twice what was modelled. -/
def slippage_above_modeled (snapshot : ArtifactHealthSnapshot K) : Bool :=
  match snapshot.realized_slippage_over_modeled_5d with
  | some slippage => decide (2 < slippage)
  | none => false

/-- `pause_reasons`. -/
def pause_reasons (snapshot : ArtifactHealthSnapshot K) : List String :=
  reasons_that_hold
    [(sharpe_below_floor snapshot, "trailing_30d_live_sharpe_below_floor"),
      (slippage_above_modeled snapshot, "realized_slippage_gt_2x_modeled_5d"),
      (snapshot.fill_rejection_cluster, "fill_rejection_cluster"),
      (snapshot.drawdown_limit_breached, "drawdown_limit_breached"),
      (snapshot.capacity_drift_breached, "capacity_drift_breached"),
      (snapshot.data_quality_degraded, "data_quality_degraded")]

/-- `revalidation_reasons`. -/
def revalidation_reasons (snapshot : ArtifactHealthSnapshot K) : List String :=
  reasons_that_hold
    [(snapshot.validation_expired, "validation_expired"),
      (snapshot.scenario_pack_changed, "scenario_pack_changed"),
      (snapshot.venue_api_rules_changed, "venue_api_rules_changed")]

/-- `_decision`. -/
def lifecycle_decision (snapshot : ArtifactHealthSnapshot K) (target_state : String)
    (revalidation_required : Bool) (primary_reason : String) (reasons : List String) :
    LifecycleDecision :=
  let runbook_code := if target_state = "paused" then "pause_to_paper" else primary_reason
  let runbook := (List.lookup runbook_code DEFAULT_ALERT_RUNBOOKS).getD revalidation_runbook
  { artifact_id := snapshot.artifact_id
    source_state := snapshot.lifecycle_state
    target_state := target_state
    revalidation_required := revalidation_required
    primary_reason := primary_reason
    reasons := reasons
    runbook_code := runbook.alert_code
    default_automation := runbook.default_automation
    severity := runbook.severity }

/-- `evaluate_lifecycle_policy`. -/
def evaluate_lifecycle_policy (snapshot : ArtifactHealthSnapshot K) : LifecycleDecision :=
  match retire_reasons snapshot with
  | primary :: others =>
      lifecycle_decision snapshot "retired" false primary (primary :: others)
  | [] =>
      match pause_reasons snapshot with
      | primary :: others =>
          lifecycle_decision snapshot "paused" false primary (primary :: others)
      | [] =>
          match revalidation_reasons snapshot with
          | reason :: others =>
              lifecycle_decision snapshot snapshot.lifecycle_state true "revalidation_required"
                (reason :: others)
          | [] => lifecycle_decision snapshot snapshot.lifecycle_state false "none" []

/-- The policy pauses an artifact: no reason to retire it, and a reason to pause
it or a snapshot that says it is paused. -/
def PolicyPauses (snapshot : ArtifactHealthSnapshot K) : Prop :=
  retire_reasons snapshot = []
    ∧ (pause_reasons snapshot ≠ [] ∨ snapshot.lifecycle_state = "paused")

theorem evaluate_lifecycle_policy_artifact_id (snapshot : ArtifactHealthSnapshot K) :
    (evaluate_lifecycle_policy snapshot).artifact_id = snapshot.artifact_id := by
  unfold evaluate_lifecycle_policy
  split
  · rfl
  · split
    · rfl
    · split <;> rfl

theorem target_paused_iff (snapshot : ArtifactHealthSnapshot K) :
    (evaluate_lifecycle_policy snapshot).target_state = "paused" ↔ PolicyPauses snapshot := by
  unfold evaluate_lifecycle_policy PolicyPauses
  cases hretire : retire_reasons snapshot with
  | cons primary others => simp [lifecycle_decision]
  | nil =>
      cases hpause : pause_reasons snapshot with
      | cons primary others => simp [lifecycle_decision]
      | nil =>
          cases revalidation_reasons snapshot with
          | cons reason others => simp [lifecycle_decision]
          | nil => simp [lifecycle_decision]

/-- A decision to pause is closed out by the runbook `pause_to_paper`. -/
theorem runbook_of_paused {snapshot : ArtifactHealthSnapshot K}
    (h : (evaluate_lifecycle_policy snapshot).target_state = "paused") :
    (evaluate_lifecycle_policy snapshot).runbook_code = "pause_to_paper" := by
  have hcode : ∀ (target reason : String) (required : Bool) (reasons : List String),
      target = "paused" →
        (lifecycle_decision snapshot target required reason reasons).runbook_code
          = "pause_to_paper" := by
    rintro target reason required reasons rfl
    rfl
  unfold evaluate_lifecycle_policy at h ⊢
  split at h
  · exact hcode _ _ _ _ h
  · split at h
    · exact hcode _ _ _ _ h
    · split at h
      · exact hcode _ _ _ _ h
      · exact hcode _ _ _ _ h

end Policy

/-! ## Evidence -/

/-- `EvidenceValidation`. -/
structure EvidenceValidation where
  passed : Bool
  reasons : List String
  deriving DecidableEq

section Evidence

variable {K : Type}

/-- `evidence.get(field) in (None, "")`. -/
def no_evidence (evidence : JsonObject K) (field : String) : Bool :=
  match evidence.get field with
  | .null => true
  | .str text => decide (text = "")
  | _ => false

/-- `validate_alert_closeout`. -/
def validate_alert_closeout (runbooks : Runbooks) (runbook_code : String)
    (evidence : JsonObject K) : EvidenceValidation :=
  match List.lookup runbook_code runbooks with
  | none => { passed := false, reasons := ["unknown_runbook:" ++ runbook_code] }
  | some runbook =>
      let missing := (runbook.required_evidence.filter (no_evidence evidence)).map
        ("missing_closeout_evidence:" ++ ·)
      { passed := missing.isEmpty, reasons := missing }

end Evidence

/-! ## Tables -/

/-- A row of `artifacts`. -/
structure ArtifactRow where
  rollout_stage : String
  approved : Bool

/-- A row of `deployments`. -/
structure DeploymentRow where
  artifact_id : String
  rollout_stage : String
  status : String
  started_at_utc : String

/-- A row of `risk_events`. -/
structure RiskEventRow where
  risk_event_id : String
  ts_utc : String
  reason_code : String
  severity : String
  action : String

/-- A row of `lifecycle_journal`. -/
structure LifecycleEventRow where
  lifecycle_event_id : String
  artifact_id : String
  source_state : String
  target_state : String
  revalidation_required : Bool
  reason_code : String
  runbook_code : String
  automation : Automation
  severity : String
  ts_utc : String

/-- A row of `human_override_journal`. -/
structure OverrideRow where
  override_event_id : String
  ts_utc : String
  operator_id : String
  action : String
  artifact_id : Option String
  confirmation : Option String
  status : String
  reason_code : String

/-- The part of the database that governance reads and writes. -/
structure GovernanceStore where
  artifacts : Dict String ArtifactRow
  deployments : Dict String DeploymentRow
  risk_events : List RiskEventRow
  lifecycle_journal : List LifecycleEventRow
  human_override_journal : List OverrideRow

/-- The text of an automation. -/
def Automation.text : Automation → String
  | .ignore => "ignore"
  | .pause => "pause"
  | .cancel => "cancel"
  | .flatten => "flatten"
  | .rollback => "rollback"
  | .rotate_key => "rotate_key"
  | .restart => "restart"
  | .manual_review => "manual_review"

/-- `UPDATE artifacts SET rollout_stage = ? WHERE artifact_id = ?`. -/
def set_rollout_stage (artifacts : Dict String ArtifactRow) (artifact_id stage : String) :
    Dict String ArtifactRow :=
  match artifacts.lookup artifact_id with
  | some row => artifacts.insert artifact_id { row with rollout_stage := stage }
  | none => artifacts

/-- The stage that `artifacts` shows. -/
def GovernanceStore.rollout_stage (store : GovernanceStore) (artifact_id : String) :
    Option String :=
  (store.artifacts.lookup artifact_id).map ArtifactRow.rollout_stage

/-- An update writes the stage of an artifact that has a row. -/
theorem lookup_set_rollout_stage (artifacts : Dict String ArtifactRow)
    (artifact_id stage other : String) :
    ((set_rollout_stage artifacts artifact_id stage).lookup other).map ArtifactRow.rollout_stage
      = if other = artifact_id then
          ((artifacts.lookup other).map ArtifactRow.rollout_stage).map fun _ => stage
        else (artifacts.lookup other).map ArtifactRow.rollout_stage := by
  unfold set_rollout_stage
  by_cases hsame : other = artifact_id
  · subst hsame
    rw [if_pos rfl]
    cases hrow : artifacts.lookup other with
    | none => simp [hrow]
    | some row => simp
  · rw [if_neg hsame]
    cases artifacts.lookup artifact_id with
    | none => rfl
    | some row => rw [AList.lookup_insert_ne hsame]

/-! ## Applying a decision -/

/-- `LifecycleApplyResult`. -/
structure LifecycleApplyResult where
  applied : Bool
  lifecycle_event_id : String
  reasons : List String
  deriving DecidableEq

/-- What a call reads from outside: two fresh ids and the clock. -/
structure CallStamp where
  event_uuid : String
  risk_uuid : String
  now : String

/-- The id of the deployment row of an artifact. -/
def deployment_id (artifact_id : String) : String := "deployment:" ++ artifact_id ++ ":lifecycle"

/-- The deployment row of a decision. -/
def deployment_row (decision : LifecycleDecision) (now : String) : DeploymentRow where
  artifact_id := decision.artifact_id
  rollout_stage := decision.target_state
  status :=
    if decision.revalidation_required then "revalidation_required" else decision.target_state
  started_at_utc := now

/-- The journal row of a decision. -/
def lifecycle_event_row (decision : LifecycleDecision) (stamp : CallStamp) :
    LifecycleEventRow where
  lifecycle_event_id := "lifecycle:" ++ decision.artifact_id ++ ":" ++ stamp.event_uuid
  artifact_id := decision.artifact_id
  source_state := decision.source_state
  target_state := decision.target_state
  revalidation_required := decision.revalidation_required
  reason_code := decision.primary_reason
  runbook_code := decision.runbook_code
  automation := decision.default_automation
  severity := decision.severity
  ts_utc := stamp.now

/-- The risk event of a decision. -/
def decision_risk_event (decision : LifecycleDecision) (stamp : CallStamp) : RiskEventRow where
  risk_event_id := "risk:" ++ decision.artifact_id ++ ":" ++ stamp.risk_uuid
  ts_utc := stamp.now
  reason_code := decision.primary_reason
  severity := decision.severity
  action := decision.default_automation.text

/-- What an accepted decision writes. -/
def write_decision (store : GovernanceStore) (decision : LifecycleDecision) (stamp : CallStamp) :
    GovernanceStore :=
  { store with
    artifacts :=
      if decision.target_state ∈ ["paused", "retired"] then
        set_rollout_stage store.artifacts decision.artifact_id decision.target_state
      else store.artifacts
    deployments :=
      store.deployments.insert (deployment_id decision.artifact_id)
        (deployment_row decision stamp.now)
    risk_events := store.risk_events ++ [decision_risk_event decision stamp]
    lifecycle_journal := store.lifecycle_journal ++ [lifecycle_event_row decision stamp] }

/-- `apply_lifecycle_decision`. -/
def apply_lifecycle_decision {K : Type} (runbooks : Runbooks) (store : GovernanceStore)
    (decision : LifecycleDecision) (evidence : JsonObject K) (stamp : CallStamp) :
    GovernanceStore × LifecycleApplyResult :=
  let validation := validate_alert_closeout runbooks decision.runbook_code evidence
  let lifecycle_event_id := "lifecycle:" ++ decision.artifact_id ++ ":" ++ stamp.event_uuid
  if validation.passed then
    (write_decision store decision stamp,
      { applied := true, lifecycle_event_id := lifecycle_event_id, reasons := [] })
  else
    (store,
      { applied := false, lifecycle_event_id := lifecycle_event_id, reasons := validation.reasons })

/-- A decision writes the stage of its own artifact, and only to pause or retire
it. -/
theorem rollout_stage_write_decision (store : GovernanceStore) (decision : LifecycleDecision)
    (stamp : CallStamp) (artifact_id : String) :
    (write_decision store decision stamp).rollout_stage artifact_id
      = if artifact_id = decision.artifact_id ∧ decision.target_state ∈ ["paused", "retired"] then
          (store.rollout_stage artifact_id).map fun _ => decision.target_state
        else store.rollout_stage artifact_id := by
  unfold GovernanceStore.rollout_stage write_decision
  dsimp only
  by_cases htarget : decision.target_state ∈ ["paused", "retired"]
  · rw [if_pos htarget, lookup_set_rollout_stage]
    simp only [htarget, and_true]
  · rw [if_neg htarget, if_neg fun h => htarget h.2]

/-! ## Status -/

/-- `latest_lifecycle_event` of the status. -/
structure LatestLifecycleEvent where
  target_state : String
  revalidation_required : Bool
  reason_code : String
  runbook_code : String
  automation : Automation
  severity : String
  ts_utc : String
  deriving DecidableEq

/-- What the status shows of a row of the journal. -/
def LifecycleEventRow.latest (row : LifecycleEventRow) : LatestLifecycleEvent where
  target_state := row.target_state
  revalidation_required := row.revalidation_required
  reason_code := row.reason_code
  runbook_code := row.runbook_code
  automation := row.automation
  severity := row.severity
  ts_utc := row.ts_utc

/-- What `lifecycle_status` returns. -/
structure LifecycleStatus where
  artifact_id : String
  rollout_stage : Option String
  approved : Bool
  deployment_status : Option String
  deployment_rollout_stage : Option String
  latest_lifecycle_event : Option LatestLifecycleEvent
  deriving DecidableEq

/-- `lifecycle_status`. -/
def lifecycle_status (top_deployment : TopRow DeploymentRow) (top_event : TopRow LifecycleEventRow)
    (store : GovernanceStore) (artifact_id : String) : LifecycleStatus :=
  let artifact := store.artifacts.lookup artifact_id
  let deployment := latest_row top_deployment DeploymentRow.started_at_utc
    ((Dict.values store.deployments).filter fun row => row.artifact_id = artifact_id)
  let journal := latest_row top_event LifecycleEventRow.ts_utc
    (store.lifecycle_journal.filter fun row => row.artifact_id = artifact_id)
  { artifact_id := artifact_id
    rollout_stage := artifact.map ArtifactRow.rollout_stage
    approved := (artifact.map ArtifactRow.approved).getD false
    deployment_status := deployment.map DeploymentRow.status
    deployment_rollout_stage := deployment.map DeploymentRow.rollout_stage
    latest_lifecycle_event := journal.map LifecycleEventRow.latest }

end ProofAlpha.Governance
