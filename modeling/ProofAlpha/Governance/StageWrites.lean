/-
The other two writers of `rollout_stage`: the human overrides of
`portfolio/allocator.py` and the ingestion of runcards in `memory/store.py`.

An override journals every request and acts on the ones without a rejection. An
ingestion replaces the whole row of the artifact.
-/
import ProofAlpha.Governance.Lifecycle

set_option autoImplicit false

namespace ProofAlpha.Governance

open ProofAlpha.Lib

/-! ## Human overrides -/

/-- `OVERRIDE_ACTIONS`. -/
def OVERRIDE_ACTIONS : List String :=
  ["pause_artifact", "resume_artifact", "cancel_all", "flatten_all", "kill_switch",
    "rollback_artifact", "view_journal", "force_reconcile"]

/-- `DESTRUCTIVE_OVERRIDES`. -/
def DESTRUCTIVE_OVERRIDES : List String :=
  ["cancel_all", "flatten_all", "kill_switch", "rollback_artifact"]

/-- The actions that name an artifact. -/
def ARTIFACT_OVERRIDES : List String :=
  ["pause_artifact", "resume_artifact", "rollback_artifact", "force_reconcile"]

/-- `HumanOverrideRequest`. -/
structure HumanOverrideRequest where
  action : String
  operator_id : String
  artifact_id : Option String
  confirmation : Option String

/-- A text argument that is given and not empty. -/
def given (argument : Option String) : Bool := argument.any (· ≠ "")

/-- `_override_rejections`. -/
def override_rejections (request : HumanOverrideRequest) : List String :=
  (if request.action ∉ OVERRIDE_ACTIONS then ["invalid_override_action"] else [])
    ++ (if request.operator_id = "" then ["operator_id_required"] else [])
    ++ (if request.action ∈ ARTIFACT_OVERRIDES ∧ ! given request.artifact_id then
        ["artifact_id_required"] else [])
    ++ (if request.action ∈ DESTRUCTIVE_OVERRIDES
          ∧ request.confirmation ≠ some ("CONFIRM:" ++ request.action) then
        ["confirmation_required:CONFIRM:" ++ request.action] else [])

/-- The stage that an override writes. -/
def override_stage (action : String) : Option String :=
  if action = "pause_artifact" then some "paused"
  else if action = "resume_artifact" then some "paper"
  else if action = "rollback_artifact" then some "retired"
  else none

/-- `_apply_override_db_effect`. -/
def apply_override_db_effect (artifacts : Dict String ArtifactRow)
    (request : HumanOverrideRequest) : Dict String ArtifactRow :=
  match override_stage request.action, request.artifact_id.filter (· ≠ "") with
  | some stage, some artifact_id => set_rollout_stage artifacts artifact_id stage
  | _, _ => artifacts

/-- `HumanOverrideResult`. -/
structure HumanOverrideResult where
  applied : Bool
  override_event_id : String
  action : String
  reasons : List String

/-- The journal row of an override. -/
def override_row (request : HumanOverrideRequest) (stamp : CallStamp) : OverrideRow where
  override_event_id := "override-" ++ stamp.event_uuid
  ts_utc := stamp.now
  operator_id := request.operator_id
  action := request.action
  artifact_id := request.artifact_id
  confirmation := request.confirmation
  status := if override_rejections request = [] then "applied" else "rejected"
  reason_code := (override_rejections request).headD ("human_override_" ++ request.action)

/-- The risk event of an override. -/
def override_risk_event (request : HumanOverrideRequest) (stamp : CallStamp) : RiskEventRow where
  risk_event_id := "risk-override-" ++ stamp.event_uuid
  ts_utc := stamp.now
  reason_code := "human_override_" ++ request.action
  severity := if request.action ∈ DESTRUCTIVE_OVERRIDES then "critical" else "info"
  action := request.action

/-- `apply_human_override`. -/
def apply_human_override (store : GovernanceStore) (request : HumanOverrideRequest)
    (stamp : CallStamp) : GovernanceStore × HumanOverrideResult :=
  let reasons := override_rejections request
  let journaled :=
    { store with
      human_override_journal := store.human_override_journal ++ [override_row request stamp] }
  (if reasons = [] then
      { journaled with
        artifacts := apply_override_db_effect store.artifacts request
        risk_events := store.risk_events ++ [override_risk_event request stamp] }
    else journaled,
    { applied := decide (reasons = [])
      override_event_id := "override-" ++ stamp.event_uuid
      action := request.action
      reasons := reasons })

/-- The artifact and the stage that an override writes, if it is applied. -/
def override_write (request : HumanOverrideRequest) : Option (String × String) :=
  if override_rejections request = [] then
    (override_stage request.action).bind fun stage =>
      (request.artifact_id.filter (· ≠ "")).map fun artifact_id => (artifact_id, stage)
  else none

/-- An override writes the stage of the artifact it names. -/
theorem rollout_stage_apply_human_override (store : GovernanceStore)
    (request : HumanOverrideRequest) (stamp : CallStamp) (artifact_id : String) :
    (apply_human_override store request stamp).1.rollout_stage artifact_id
      = match override_write request with
        | some (target, stage) =>
            if artifact_id = target then (store.rollout_stage artifact_id).map fun _ => stage
            else store.rollout_stage artifact_id
        | none => store.rollout_stage artifact_id := by
  unfold apply_human_override override_write
  dsimp only
  by_cases hreasons : override_rejections request = []
  · rw [if_pos hreasons, if_pos hreasons]
    unfold GovernanceStore.rollout_stage apply_override_db_effect
    dsimp only
    cases override_stage request.action with
    | none => rfl
    | some stage =>
        cases request.artifact_id.filter (· ≠ "") with
        | none => rfl
        | some target => exact lookup_set_rollout_stage store.artifacts target stage artifact_id
  · rw [if_neg hreasons, if_neg hreasons]
    rfl

/-! ## Ingestion -/

/-- The part of a runcard that its row in `artifacts` is made of. -/
structure Runcard (K : Type) where
  run_id : String
  artifacts : JsonObject K
  decision : String

section Ingestion

variable {K : Type} [Zero K] [DecidableEq K] (texts : PyTexts K)

/-- `artifact_id`. -/
def Runcard.artifact_id (runcard : Runcard K) : String :=
  text_or texts.composite_text (runcard.artifacts.get "artifact_id")
    ("artifact:" ++ runcard.run_id)

/-- The row of `artifacts`. -/
def Runcard.artifact_row (runcard : Runcard K) : ArtifactRow where
  rollout_stage :=
    text_or texts.composite_text (runcard.artifacts.get "rollout_stage") "research_candidate"
  approved := runcard.decision ∈ ["promoted", "approved"]

/-- `_upsert_v3_registry_rows`, on `artifacts`. -/
def upsert_artifact (store : GovernanceStore) (runcard : Runcard K) : GovernanceStore :=
  { store with
    artifacts := store.artifacts.insert (runcard.artifact_id texts) (runcard.artifact_row texts) }

/-- An ingestion writes the stage of its own artifact. -/
theorem rollout_stage_upsert_artifact (store : GovernanceStore) (runcard : Runcard K)
    (artifact_id : String) :
    (upsert_artifact texts store runcard).rollout_stage artifact_id
      = if artifact_id = runcard.artifact_id texts then
          some (runcard.artifact_row texts).rollout_stage
        else store.rollout_stage artifact_id := by
  unfold GovernanceStore.rollout_stage upsert_artifact
  by_cases hsame : artifact_id = runcard.artifact_id texts
  · rw [if_pos hsame, hsame, AList.lookup_insert]
    rfl
  · rw [if_neg hsame, AList.lookup_insert_ne hsame]

end Ingestion

/-! ## Plain calls -/

/-- A request that needs no confirmation. -/
def plain_override (action : String) : HumanOverrideRequest where
  action := action
  operator_id := "ops-1"
  artifact_id := some "artifact-1"
  confirmation := none

/-- A stamp. -/
def stamp_at (now : String) : CallStamp where
  event_uuid := now
  risk_uuid := now
  now := now

end ProofAlpha.Governance
