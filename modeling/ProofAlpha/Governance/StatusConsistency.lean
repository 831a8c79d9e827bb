/-
Whether `lifecycle_status` reports what was applied last.

A decision writes `deployments` and `lifecycle_journal`, and `artifacts` only to
pause or retire; an override writes `artifacts` alone; and the journal is read
back by a timestamp of one second. `lifecycle_status_consistent_iff` says which
operations leave the three tables in agreement.
-/
import ProofAlpha.Governance.StageWrites
import ProofAlpha.Lib.LastWrite

set_option autoImplicit false

namespace ProofAlpha.Governance

open ProofAlpha.Lib

/-! ## Runs -/

/-- A lifecycle decision or a human override. -/
inductive LifecycleOp (K : Type)
  | decision (decision : LifecycleDecision) (evidence : JsonObject K) (stamp : CallStamp)
  | override (request : HumanOverrideRequest) (stamp : CallStamp)

section Runs

variable {K : Type} (runbooks : Runbooks)

/-- One operation. -/
def lifecycle_step (store : GovernanceStore) : LifecycleOp K → GovernanceStore
  | .decision decision evidence stamp =>
      (apply_lifecycle_decision runbooks store decision evidence stamp).1
  | .override request stamp => (apply_human_override store request stamp).1

/-- A database with artifacts and no lifecycle operation yet. -/
def ingested_store (artifacts : Dict String ArtifactRow) : GovernanceStore where
  artifacts := artifacts
  deployments := ∅
  risk_events := []
  lifecycle_journal := []
  human_override_journal := []

/-- A run. -/
def lifecycle_run (artifacts : Dict String ArtifactRow) (ops : List (LifecycleOp K)) :
    GovernanceStore :=
  ops.foldl (lifecycle_step runbooks) (ingested_store artifacts)

theorem lifecycle_run_concat (artifacts : Dict String ArtifactRow) (ops : List (LifecycleOp K))
    (op : LifecycleOp K) :
    lifecycle_run runbooks artifacts (ops ++ [op])
      = lifecycle_step runbooks (lifecycle_run runbooks artifacts ops) op :=
  List.foldl_concat ..

/-- The journal row of an operation, if it is an applied decision on the
artifact. -/
def decision_event (artifact_id : String) : LifecycleOp K → Option LifecycleEventRow
  | .decision decision evidence stamp =>
      if (validate_alert_closeout runbooks decision.runbook_code evidence).passed = true
          ∧ decision.artifact_id = artifact_id then
        some (lifecycle_event_row decision stamp)
      else none
  | .override _ _ => none

/-- The stage that an operation takes the artifact to, if it is applied. -/
def to_stage (artifact_id : String) : LifecycleOp K → Option String
  | .decision decision evidence stamp =>
      (decision_event runbooks artifact_id (.decision decision evidence stamp)).map
        LifecycleEventRow.target_state
  | .override request _ =>
      ((override_write request).filter fun written => written.1 = artifact_id).map Prod.snd

/-- The rows of the applied decisions on an artifact. -/
def decision_events (artifact_id : String) (ops : List (LifecycleOp K)) :
    List LifecycleEventRow :=
  ops.filterMap (decision_event runbooks artifact_id)

/-- The deployment row beside a journal row. -/
def LifecycleEventRow.deployment (row : LifecycleEventRow) : DeploymentRow where
  artifact_id := row.artifact_id
  rollout_stage := row.target_state
  status := if row.revalidation_required then "revalidation_required" else row.target_state
  started_at_utc := row.ts_utc

/-- The status reports a stage everywhere, and a decision as the latest. -/
structure Reports (status : LifecycleStatus) (stage : String) (last : LifecycleEventRow) :
    Prop where
  rollout_stage : status.rollout_stage = some stage
  deployment_rollout_stage : status.deployment_rollout_stage = some stage
  deployment_status : status.deployment_status
    = some (if last.revalidation_required then "revalidation_required" else last.target_state)
  latest_lifecycle_event : status.latest_lifecycle_event = some last.latest
  target_state : last.target_state = stage

/-- After a run, if an operation on the artifact was applied, the status reports
its stage and the last applied decision, whichever rows the queries return. -/
def StatusConsistent (artifacts : Dict String ArtifactRow) (artifact_id : String)
    (ops : List (LifecycleOp K)) : Prop :=
  ∀ stage, latest (to_stage runbooks artifact_id) ops = some stage →
    ∃ last, latest (decision_event runbooks artifact_id) ops = some last
      ∧ ∀ top_deployment top_event, Reports
          (lifecycle_status top_deployment top_event (lifecycle_run runbooks artifacts ops)
            artifact_id) stage last

/-- The operations that keep the tables in agreement, in the state before them.
A decision on the artifact that is applied finds its row if it pauses or retires
it, and its stage to be the decision's otherwise; and no journaled decision on
the artifact that is stamped at or after it shows anything else. An override that
writes its stage finds its row, and a deployment with that stage. -/
def KeepsAgreement (store : GovernanceStore) (artifact_id : String) : LifecycleOp K → Prop
  | .decision decision evidence stamp =>
      decision.artifact_id = artifact_id →
        (validate_alert_closeout runbooks decision.runbook_code evidence).passed = true →
          (if decision.target_state ∈ ["paused", "retired"] then
              store.rollout_stage artifact_id ≠ none
            else store.rollout_stage artifact_id = some decision.target_state)
          ∧ ∀ row ∈ store.lifecycle_journal, row.artifact_id = artifact_id →
              stamp.now ≤ row.ts_utc →
                row.latest = (lifecycle_event_row decision stamp).latest
  | .override request _ =>
      ∀ stage, override_write request = some (artifact_id, stage) →
        store.rollout_stage artifact_id ≠ none
          ∧ (store.deployments.lookup (deployment_id artifact_id)).map DeploymentRow.rollout_stage
            = some stage

end Runs

/-! ## The tables of a run -/

section Tables

variable {K : Type} (runbooks : Runbooks) (artifacts : Dict String ArtifactRow)

theorem deployment_id_injective : Function.Injective deployment_id := by
  intro a b h
  unfold deployment_id at h
  have htext := congrArg String.toList h
  simp only [String.toList_append] at htext
  exact String.toList_inj.mp (List.append_cancel_left (List.append_cancel_right htext))

/-- What an operation does to the journal and the deployments: an applied decision writes
its rows, and any other operation leaves both as they are. -/
theorem lifecycle_step_cases (store : GovernanceStore) (op : LifecycleOp K) :
    (∃ decision evidence stamp, op = .decision decision evidence stamp
      ∧ (validate_alert_closeout runbooks decision.runbook_code evidence).passed = true
      ∧ lifecycle_step runbooks store op = write_decision store decision stamp)
    ∨ (∀ artifact_id, decision_event runbooks artifact_id op = none)
      ∧ (lifecycle_step runbooks store op).lifecycle_journal = store.lifecycle_journal
      ∧ (lifecycle_step runbooks store op).deployments = store.deployments := by
  cases op with
  | decision decision evidence stamp =>
      unfold lifecycle_step apply_lifecycle_decision
      dsimp only
      by_cases hpassed : (validate_alert_closeout runbooks decision.runbook_code
          evidence).passed = true
      · refine Or.inl ⟨decision, evidence, stamp, rfl, hpassed, ?_⟩
        rw [if_pos hpassed]
      · refine Or.inr ⟨fun artifact_id => if_neg fun h => hpassed h.1, ?_⟩
        rw [if_neg hpassed]
        exact ⟨rfl, rfl⟩
  | override request stamp =>
      refine Or.inr ⟨fun artifact_id => rfl, ?_⟩
      unfold lifecycle_step apply_human_override
      dsimp only
      split_ifs <;> exact ⟨rfl, rfl⟩

/-- The journal holds the rows of the applied decisions. -/
theorem journal_of_run (artifact_id : String) (ops : List (LifecycleOp K)) :
    ((lifecycle_run runbooks artifacts ops).lifecycle_journal.filter fun row =>
        row.artifact_id = artifact_id)
      = decision_events runbooks artifact_id ops := by
  induction ops using List.reverseRecOn with
  | nil => rfl
  | append_singleton ops op ih =>
      rw [lifecycle_run_concat, decision_events, List.filterMap_append, ← decision_events, ← ih]
      rcases lifecycle_step_cases runbooks (lifecycle_run runbooks artifacts ops) op with
        ⟨decision, evidence, stamp, rfl, hpassed, hstep⟩ | ⟨hnone, hjournal, -⟩
      · rw [hstep, write_decision]
        dsimp only
        rw [List.filter_append, List.filter_singleton]
        by_cases hartifact : decision.artifact_id = artifact_id
        · simp [decision_event, hpassed, hartifact, lifecycle_event_row]
        · simp [decision_event, hartifact, lifecycle_event_row]
      · rw [hjournal, List.filterMap_cons_none (hnone artifact_id), List.filterMap_nil,
          List.append_nil]

/-- Every deployment row has the id of its artifact, and it is the row beside the
last applied decision. -/
theorem deployments_of_run (ops : List (LifecycleOp K)) :
    (∀ id row, (lifecycle_run runbooks artifacts ops).deployments.lookup id = some row →
        id = deployment_id row.artifact_id)
      ∧ ∀ artifact_id,
          (lifecycle_run runbooks artifacts ops).deployments.lookup (deployment_id artifact_id)
            = (latest (decision_event runbooks artifact_id) ops).map
                LifecycleEventRow.deployment := by
  induction ops using List.reverseRecOn with
  | nil => exact ⟨fun id row h => absurd h (Option.some_ne_none row).symm, fun _ => rfl⟩
  | append_singleton ops op ih =>
      obtain ⟨hids, hrows⟩ := ih
      simp only [latest_append_singleton, lifecycle_run_concat]
      rcases lifecycle_step_cases runbooks (lifecycle_run runbooks artifacts ops) op with
        ⟨decision, evidence, stamp, rfl, hpassed, hstep⟩ | ⟨hnone, -, hdeployments⟩
      · rw [hstep, write_decision]
        dsimp only
        constructor
        · intro id row hrow
          by_cases hid : id = deployment_id decision.artifact_id
          · rw [hid, AList.lookup_insert, Option.some_inj] at hrow
            rw [hid, ← hrow]
            rfl
          · rw [AList.lookup_insert_ne hid] at hrow
            exact hids id row hrow
        · intro artifact_id
          by_cases hartifact : decision.artifact_id = artifact_id
          · subst hartifact
            rw [AList.lookup_insert, decision_event, if_pos ⟨hpassed, rfl⟩]
            rfl
          · have hne : deployment_id artifact_id ≠ deployment_id decision.artifact_id :=
              fun h => hartifact (deployment_id_injective h).symm
            rw [AList.lookup_insert_ne hne, hrows, decision_event,
              if_neg fun h => hartifact h.2]
            rfl
      · rw [hdeployments]
        refine ⟨hids, fun artifact_id => ?_⟩
        rw [hrows, hnone artifact_id]
        rfl

/-- The status of a run, by the rows of its applied decisions. -/
theorem lifecycle_status_of_run (top_deployment : TopRow DeploymentRow)
    (top_event : TopRow LifecycleEventRow) (artifact_id : String) (ops : List (LifecycleOp K)) :
    let status := lifecycle_status top_deployment top_event (lifecycle_run runbooks artifacts ops)
      artifact_id
    let last := latest (decision_event runbooks artifact_id) ops
    status.rollout_stage = (lifecycle_run runbooks artifacts ops).rollout_stage artifact_id
      ∧ status.deployment_rollout_stage = last.map LifecycleEventRow.target_state
      ∧ status.deployment_status = last.map (fun row => row.deployment.status)
      ∧ status.latest_lifecycle_event
        = (latest_row top_event LifecycleEventRow.ts_utc
            (decision_events runbooks artifact_id ops)).map LifecycleEventRow.latest := by
  intro status last
  have hrows : (Dict.values (lifecycle_run runbooks artifacts ops).deployments).filter
      (fun row => row.artifact_id = artifact_id)
        = (last.map LifecycleEventRow.deployment).toList := by
    rw [← (deployments_of_run runbooks artifacts ops).2]
    exact Dict.values_filter_of_key deployment_id_injective
      (deployments_of_run runbooks artifacts ops).1 artifact_id
  have hdeployment : latest_row top_deployment DeploymentRow.started_at_utc
      ((Dict.values (lifecycle_run runbooks artifacts ops).deployments).filter fun row =>
        row.artifact_id = artifact_id) = last.map LifecycleEventRow.deployment := by
    rw [hrows]
    cases last with
    | none =>
        refine Option.eq_none_iff_forall_ne_some.mpr fun row hrow => ?_
        exact absurd (top_deployment.take_mem _ _ hrow) (List.not_mem_nil)
    | some row => exact latest_row_singleton top_deployment _ _
  have hjournal := journal_of_run runbooks artifacts artifact_id ops
  refine ⟨rfl, ?_, ?_, ?_⟩
  · change Option.map _ (latest_row _ _ _) = _
    rw [hdeployment, Option.map_map]
    rfl
  · change Option.map _ (latest_row _ _ _) = _
    rw [hdeployment, Option.map_map]
    rfl
  · change Option.map _ (latest_row _ _ _) = _
    rw [hjournal]

/-- The status of a run reports a stage and a decision if and only if the stage is
the artifact's and the decision's, and no decision that is stamped at or after
that one shows anything else. -/
theorem reports_iff {artifact_id : String} {ops : List (LifecycleOp K)}
    {last : LifecycleEventRow}
    (hlast : latest (decision_event runbooks artifact_id) ops = some last) (stage : String) :
    (∀ top_deployment top_event, Reports
        (lifecycle_status top_deployment top_event (lifecycle_run runbooks artifacts ops)
          artifact_id) stage last)
      ↔ (lifecycle_run runbooks artifacts ops).rollout_stage artifact_id = some stage
        ∧ last.target_state = stage
        ∧ ∀ row ∈ decision_events runbooks artifact_id ops, last.ts_utc ≤ row.ts_utc →
            row.latest = last.latest := by
  have hmem : last ∈ decision_events runbooks artifact_id ops := List.mem_of_getLast? hlast
  have hview : ∀ row other : LifecycleEventRow, row.latest = other.latest →
      row.ts_utc = other.ts_utc := fun _ _ h => congrArg LatestLifecycleEvent.ts_utc h
  rw [← latest_row_view_iff LifecycleEventRow.ts_utc hview hmem]
  constructor
  · intro h
    have hfirst := h (TopRow.first _) (TopRow.first _)
    refine ⟨?_, hfirst.target_state, fun top => ?_⟩
    · rw [← hfirst.rollout_stage]
      rfl
    · rw [← (h (TopRow.first _) top).latest_lifecycle_event]
      exact (lifecycle_status_of_run runbooks artifacts (TopRow.first _) top artifact_id
        ops).2.2.2.symm
  · rintro ⟨hstage, htarget, hevent⟩ top_deployment top_event
    obtain ⟨hrollout, hdeployment, hstatus, hjournal⟩ :=
      lifecycle_status_of_run runbooks artifacts top_deployment top_event artifact_id ops
    refine ⟨hrollout.trans hstage, ?_, ?_, hjournal.trans (hevent top_event), htarget⟩
    · rw [hdeployment, hlast, Option.map_some, htarget]
    · rw [hstatus, hlast]
      rfl

/-- An operation that does not concern the artifact leaves the agreement as it
is. -/
theorem statusConsistent_of_quiet {artifact_id : String} {ops : List (LifecycleOp K)}
    {op : LifecycleOp K} (hevent : decision_event runbooks artifact_id op = none)
    (hstage : to_stage runbooks artifact_id op = none)
    (hrollout : (lifecycle_run runbooks artifacts (ops ++ [op])).rollout_stage artifact_id
      = (lifecycle_run runbooks artifacts ops).rollout_stage artifact_id)
    (h : StatusConsistent runbooks artifacts artifact_id ops) :
    StatusConsistent runbooks artifacts artifact_id (ops ++ [op]) := by
  intro stage hlatest
  rw [latest_append_singleton, hstage, Option.none_or] at hlatest
  obtain ⟨last, hlast, hreports⟩ := h stage hlatest
  have hlast' : latest (decision_event runbooks artifact_id) (ops ++ [op]) = some last := by
    rw [latest_append_singleton, hevent, Option.none_or, hlast]
  have hevents : decision_events runbooks artifact_id (ops ++ [op])
      = decision_events runbooks artifact_id ops := by
    simp [decision_events, hevent]
  refine ⟨last, hlast', ?_⟩
  rw [reports_iff runbooks artifacts hlast', hrollout, hevents]
  exact (reports_iff runbooks artifacts hlast stage).mp hreports

/-- The stage of the artifact after an applied decision. -/
theorem rollout_after_decision_iff {artifact_id : String} {ops : List (LifecycleOp K)}
    {decision : LifecycleDecision} {evidence : JsonObject K} {stamp : CallStamp}
    (hpassed : (validate_alert_closeout runbooks decision.runbook_code evidence).passed = true)
    (hartifact : decision.artifact_id = artifact_id) :
    (lifecycle_run runbooks artifacts
        (ops ++ [.decision decision evidence stamp])).rollout_stage artifact_id
          = some decision.target_state
      ↔ if decision.target_state ∈ ["paused", "retired"] then
          (lifecycle_run runbooks artifacts ops).rollout_stage artifact_id ≠ none
        else (lifecycle_run runbooks artifacts ops).rollout_stage artifact_id
          = some decision.target_state := by
  rw [lifecycle_run_concat, lifecycle_step, apply_lifecycle_decision, if_pos hpassed,
    rollout_stage_write_decision]
  by_cases htarget : decision.target_state ∈ ["paused", "retired"]
  · rw [if_pos ⟨hartifact.symm, htarget⟩, if_pos htarget]
    cases (lifecycle_run runbooks artifacts ops).rollout_stage artifact_id with
    | none => simp
    | some held => simp
  · rw [if_neg fun h => htarget h.2, if_neg htarget]

/-- The decisions that a new row of the journal competes with. -/
theorem latest_of_journal_iff {artifact_id : String} {ops : List (LifecycleOp K)}
    (row : LifecycleEventRow) :
    (∀ other ∈ decision_events runbooks artifact_id ops ++ [row],
        row.ts_utc ≤ other.ts_utc → other.latest = row.latest)
      ↔ ∀ other ∈ (lifecycle_run runbooks artifacts ops).lifecycle_journal,
          other.artifact_id = artifact_id → row.ts_utc ≤ other.ts_utc →
            other.latest = row.latest := by
  rw [← journal_of_run runbooks artifacts]
  constructor
  · intro h other hother hsame hlater
    refine h other (List.mem_append_left _ ?_) hlater
    exact List.mem_filter.mpr ⟨hother, decide_eq_true hsame⟩
  · intro h other hother hlater
    rcases List.mem_append.mp hother with hold | hnew
    · obtain ⟨hother', hsame⟩ := List.mem_filter.mp hold
      exact h other hother' (of_decide_eq_true hsame) hlater
    · rw [List.mem_singleton.mp hnew]

/-- A decision that is applied to the artifact. -/
theorem statusConsistent_decision_iff {artifact_id : String} {ops : List (LifecycleOp K)}
    {decision : LifecycleDecision} {evidence : JsonObject K} {stamp : CallStamp}
    (hpassed : (validate_alert_closeout runbooks decision.runbook_code evidence).passed = true)
    (hartifact : decision.artifact_id = artifact_id) :
    StatusConsistent runbooks artifacts artifact_id (ops ++ [.decision decision evidence stamp])
      ↔ KeepsAgreement runbooks (lifecycle_run runbooks artifacts ops) artifact_id
        (.decision decision evidence stamp) := by
  let row := lifecycle_event_row decision stamp
  have hevent : decision_event runbooks artifact_id (.decision decision evidence stamp)
      = some row := if_pos ⟨hpassed, hartifact⟩
  have hlast : latest (decision_event runbooks artifact_id)
      (ops ++ [.decision decision evidence stamp]) = some row := by
    rw [latest_append_singleton, hevent, Option.some_or]
  have hstage : latest (to_stage runbooks artifact_id) (ops ++ [.decision decision evidence stamp])
      = some decision.target_state := by
    rw [latest_append_singleton, to_stage, hevent]
    rfl
  have hevents : decision_events runbooks artifact_id (ops ++ [.decision decision evidence stamp])
      = decision_events runbooks artifact_id ops ++ [row] := by
    simp [decision_events, hevent]
  have hreports := reports_iff runbooks artifacts hlast decision.target_state
  rw [hevents, latest_of_journal_iff runbooks artifacts,
    rollout_after_decision_iff runbooks artifacts hpassed hartifact] at hreports
  constructor
  · intro h _ _
    obtain ⟨last, hlast', hall⟩ := h _ hstage
    rw [hlast, Option.some_inj] at hlast'
    subst hlast'
    obtain ⟨hheld, -, hrows⟩ := hreports.mp hall
    exact ⟨hheld, hrows⟩
  · intro h stage hstage'
    rw [hstage, Option.some_inj] at hstage'
    subst hstage'
    obtain ⟨hheld, hrows⟩ := h hartifact hpassed
    exact ⟨row, hlast, hreports.mpr ⟨hheld, rfl, hrows⟩⟩

/-- A decision that was applied took the artifact to a stage. -/
theorem exists_to_stage_of_decision {artifact_id : String} {ops : List (LifecycleOp K)}
    {last : LifecycleEventRow}
    (h : latest (decision_event runbooks artifact_id) ops = some last) :
    ∃ stage, latest (to_stage runbooks artifact_id) ops = some stage := by
  obtain ⟨op, hop, hevent⟩ := List.mem_filterMap.mp (List.mem_of_getLast? h)
  have hstage : to_stage runbooks artifact_id op = some last.target_state := by
    cases op with
    | decision decision evidence stamp =>
        rw [to_stage, hevent]
        rfl
    | override request stamp => cases hevent
  have hne : ops.filterMap (to_stage runbooks artifact_id) ≠ [] :=
    List.ne_nil_of_mem (List.mem_filterMap.mpr ⟨op, hop, hstage⟩)
  exact ⟨_, List.getLast?_eq_some_getLast hne⟩

/-- The stage of an artifact after an override. -/
theorem rollout_after_override (ops : List (LifecycleOp K)) (request : HumanOverrideRequest)
    (stamp : CallStamp) (artifact_id : String) :
    (lifecycle_run runbooks artifacts (ops ++ [.override request stamp])).rollout_stage artifact_id
      = match override_write request with
        | some (target, stage) =>
            if artifact_id = target then
              ((lifecycle_run runbooks artifacts ops).rollout_stage artifact_id).map fun _ => stage
            else (lifecycle_run runbooks artifacts ops).rollout_stage artifact_id
        | none => (lifecycle_run runbooks artifacts ops).rollout_stage artifact_id := by
  rw [lifecycle_run_concat]
  exact rollout_stage_apply_human_override _ request stamp artifact_id

/-- An override that writes the stage of the artifact. -/
theorem statusConsistent_override_iff {artifact_id stage : String} {ops : List (LifecycleOp K)}
    {request : HumanOverrideRequest} {stamp : CallStamp}
    (hwrite : override_write request = some (artifact_id, stage))
    (h : StatusConsistent runbooks artifacts artifact_id ops) :
    StatusConsistent runbooks artifacts artifact_id (ops ++ [.override request stamp])
      ↔ KeepsAgreement runbooks (lifecycle_run runbooks artifacts ops) artifact_id
        (LifecycleOp.override (K := K) request stamp) := by
  have hevent : decision_event (K := K) runbooks artifact_id (.override request stamp) = none := rfl
  have hlast : latest (decision_event runbooks artifact_id) (ops ++ [.override request stamp])
      = latest (decision_event runbooks artifact_id) ops := by
    rw [latest_append_singleton, hevent, Option.none_or]
  have hevents : decision_events runbooks artifact_id (ops ++ [.override request stamp])
      = decision_events runbooks artifact_id ops := by
    simp [decision_events, hevent]
  have hstage : latest (to_stage runbooks artifact_id) (ops ++ [.override request stamp])
      = some stage := by
    rw [latest_append_singleton, to_stage, hwrite, Option.filter_some,
      if_pos (decide_eq_true rfl)]
    rfl
  have hrollout : (lifecycle_run runbooks artifacts (ops ++ [.override request stamp])).rollout_stage
        artifact_id = some stage
      ↔ (lifecycle_run runbooks artifacts ops).rollout_stage artifact_id ≠ none := by
    rw [rollout_after_override, hwrite]
    dsimp only
    rw [if_pos rfl]
    cases (lifecycle_run runbooks artifacts ops).rollout_stage artifact_id with
    | none => simp
    | some held => simp
  have hdeployment : ((lifecycle_run runbooks artifacts ops).deployments.lookup
        (deployment_id artifact_id)).map DeploymentRow.rollout_stage
      = (latest (decision_event runbooks artifact_id) ops).map LifecycleEventRow.target_state := by
    rw [(deployments_of_run runbooks artifacts ops).2, Option.map_map]
    rfl
  constructor
  · intro hafter stage' hwrite'
    rw [hwrite, Option.some_inj, Prod.mk.injEq] at hwrite'
    obtain ⟨last, hlast', hreports⟩ := hafter stage hstage
    obtain ⟨hheld, htarget, -⟩ := (reports_iff runbooks artifacts hlast' stage).mp hreports
    rw [← hwrite'.2, hdeployment, ← hlast, hlast', Option.map_some, htarget]
    exact ⟨hrollout.mp hheld, rfl⟩
  · intro hkeeps stage' hstage'
    rw [hstage, Option.some_inj] at hstage'
    subst hstage'
    obtain ⟨hheld, hshown⟩ := hkeeps stage hwrite
    rw [hdeployment, Option.map_eq_some_iff] at hshown
    obtain ⟨last, hlast', htarget⟩ := hshown
    -- the last decision was reported before, and the override journals nothing
    have hbefore : ∃ stage', latest (to_stage runbooks artifact_id) ops = some stage' :=
      exists_to_stage_of_decision runbooks hlast'
    obtain ⟨stage', hstage'⟩ := hbefore
    obtain ⟨last', hlast'', hreports⟩ := h stage' hstage'
    rw [hlast', Option.some_inj] at hlast''
    subst hlast''
    obtain ⟨-, -, hrows⟩ := (reports_iff runbooks artifacts hlast' stage').mp hreports
    refine ⟨last, hlast.trans hlast', ?_⟩
    rw [reports_iff runbooks artifacts (hlast.trans hlast'), hevents]
    exact ⟨hrollout.mpr hheld, htarget, hrows⟩

/-- A decision that is not applied, or is on another artifact. -/
theorem statusConsistent_other_decision {artifact_id : String} {ops : List (LifecycleOp K)}
    {decision : LifecycleDecision} {evidence : JsonObject K} (stamp : CallStamp)
    (hother : ¬ ((validate_alert_closeout runbooks decision.runbook_code evidence).passed = true
      ∧ decision.artifact_id = artifact_id))
    (h : StatusConsistent runbooks artifacts artifact_id ops) :
    StatusConsistent runbooks artifacts artifact_id
      (ops ++ [.decision decision evidence stamp]) := by
  have hevent : decision_event runbooks artifact_id (.decision decision evidence stamp)
      = none := if_neg hother
  refine statusConsistent_of_quiet runbooks artifacts hevent ?_ ?_ h
  · rw [to_stage, hevent]
    rfl
  · rw [lifecycle_run_concat, lifecycle_step, apply_lifecycle_decision]
    split_ifs with hpassed
    · rw [rollout_stage_write_decision, if_neg]
      exact fun hwrites => hother ⟨hpassed, hwrites.1.symm⟩
    · rfl

/-- An override that does not write the stage of the artifact. -/
theorem statusConsistent_other_override {artifact_id : String} {ops : List (LifecycleOp K)}
    {request : HumanOverrideRequest} (stamp : CallStamp)
    (hother : ∀ stage, override_write request ≠ some (artifact_id, stage))
    (h : StatusConsistent runbooks artifacts artifact_id ops) :
    StatusConsistent runbooks artifacts artifact_id (ops ++ [.override request stamp]) := by
  refine statusConsistent_of_quiet runbooks artifacts rfl ?_ ?_ h
  · cases hwrite : override_write request with
    | none =>
        rw [to_stage, hwrite]
        rfl
    | some written =>
        have hne : written.1 ≠ artifact_id := by
          rintro rfl
          exact hother written.2 hwrite
        rw [to_stage, hwrite, Option.filter_some, if_neg (by simpa using hne)]
        rfl
  · rw [rollout_after_override]
    cases hwrite : override_write request with
    | none => rfl
    | some written =>
        refine if_neg fun hsame => hother written.2 ?_
        rw [hwrite, hsame]

/-- In every state of a run the status reports what was applied last to an
artifact if and only if every operation keeps the tables in agreement. -/
theorem lifecycle_status_consistent_iff (artifact_id : String) (ops : List (LifecycleOp K)) :
    (∀ before rest, ops = before ++ rest →
        StatusConsistent runbooks artifacts artifact_id before)
      ↔ ∀ before op rest, ops = before ++ op :: rest →
        KeepsAgreement runbooks (lifecycle_run runbooks artifacts before) artifact_id op := by
  refine forall_beginning_iff (fun stage h => absurd h (by simp)) (fun before op hbefore => ?_) ops
  cases op with
  | decision decision evidence stamp =>
      by_cases happlied : (validate_alert_closeout runbooks decision.runbook_code
          evidence).passed = true ∧ decision.artifact_id = artifact_id
      · exact statusConsistent_decision_iff runbooks artifacts happlied.1 happlied.2
      · refine iff_of_true
          (statusConsistent_other_decision runbooks artifacts stamp happlied hbefore) ?_
        exact fun hartifact hpassed => absurd ⟨hpassed, hartifact⟩ happlied
  | override request stamp =>
      by_cases hwrites : ∃ stage, override_write request = some (artifact_id, stage)
      · obtain ⟨stage, hwrite⟩ := hwrites
        exact statusConsistent_override_iff runbooks artifacts hwrite hbefore
      · refine iff_of_true (statusConsistent_other_override runbooks artifacts stamp
          (not_exists.mp hwrites) hbefore) ?_
        exact fun stage hwrite => absurd ⟨stage, hwrite⟩ hwrites

end Tables

/-! ## An override that the status does not see -/

/-- A live artifact whose drawdown limit is breached. -/
def breached_snapshot : ArtifactHealthSnapshot ℚ where
  artifact_id := "artifact-1"
  lifecycle_state := "pilot_live"
  liquidation_events := 0
  checksum_valid := true
  venue_rules_match := true
  trailing_30d_live_sharpe := none
  live_sample_count := 0
  realized_slippage_over_modeled_5d := none
  fill_rejection_cluster := false
  pause_count_90d := 0
  holdout_assumptions_invalidated := false
  drawdown_limit_breached := true
  capacity_drift_breached := false
  validation_expired := false
  scenario_pack_changed := false
  venue_api_rules_changed := false
  data_quality_degraded := false

/-- Evidence that closes out a pause. -/
def pause_evidence : JsonObject ℚ :=
  [("operator", .str "ops-1"), ("metric_window", .str "5d"), ("review_notes", .str "reviewed")]

/-- The policy pauses the artifact and an override resumes it: `artifacts` says
`paper`, the other two tables say `paused`. -/
theorem lifecycle_status_misses_override :
    ¬ StatusConsistent DEFAULT_ALERT_RUNBOOKS
      (AList.singleton "artifact-1" { rollout_stage := "pilot_live", approved := true }) "artifact-1"
      [.decision (evaluate_lifecycle_policy breached_snapshot) pause_evidence
          (stamp_at "2026-04-25T00:00:00Z"),
        .override (plain_override "resume_artifact") (stamp_at "2026-04-25T00:00:01Z")] := by
  intro h
  obtain ⟨last, -, hreports⟩ := h "paper" (by decide +kernel)
  have hstage := (hreports (TopRow.first _) (TopRow.first _)).deployment_rollout_stage
  exact absurd hstage (by decide +kernel)

end ProofAlpha.Governance
