/-
Whether retirement is final.

Three kinds of operations write `rollout_stage`, and none of them looks at the
stage it replaces. `retirement_final_iff` says which operations, in the state
before them, break the finality of a retirement or resume an artifact that is
not paused.
-/
import ProofAlpha.Governance.StageWrites

set_option autoImplicit false

namespace ProofAlpha.Governance

open ProofAlpha.Lib

/-! ## Runs -/

/-- An operation that may write a stage. -/
inductive StageOp (K : Type)
  | ingest (runcard : Runcard K)
  | policy (snapshot : ArtifactHealthSnapshot K) (evidence : JsonObject K) (stamp : CallStamp)
  | override (request : HumanOverrideRequest) (stamp : CallStamp)

section Runs

variable {K : Type} [Field K] [LinearOrder K] (texts : PyTexts K) (runbooks : Runbooks)

/-- One operation. -/
def stage_step (store : GovernanceStore) : StageOp K → GovernanceStore
  | .ingest runcard => upsert_artifact texts store runcard
  | .policy snapshot evidence stamp =>
      (apply_lifecycle_decision runbooks store (evaluate_lifecycle_policy snapshot) evidence
        stamp).1
  | .override request stamp => (apply_human_override store request stamp).1

/-- A run. -/
def stage_run (start : GovernanceStore) (ops : List (StageOp K)) : GovernanceStore :=
  ops.foldl (stage_step texts runbooks) start

theorem stage_run_concat (start : GovernanceStore) (ops : List (StageOp K)) (op : StageOp K) :
    stage_run texts runbooks start (ops ++ [op])
      = stage_step texts runbooks (stage_run texts runbooks start ops) op :=
  List.foldl_concat ..

/-- In a run, a retired artifact stays retired, and a resume changes the stage of
paused artifacts only. -/
structure RetirementFinal (start : GovernanceStore) (ops : List (StageOp K)) : Prop where
  stays : ∀ before between after artifact_id, ops = before ++ between ++ after →
    (stage_run texts runbooks start before).rollout_stage artifact_id = some "retired" →
      (stage_run texts runbooks start (before ++ between)).rollout_stage artifact_id
        = some "retired"
  resumes : ∀ before request stamp after, ops = before ++ .override request stamp :: after →
    request.action = "resume_artifact" → ∀ artifact_id,
      (stage_run texts runbooks start (before ++ [.override request stamp])).rollout_stage
          artifact_id
        ≠ (stage_run texts runbooks start before).rollout_stage artifact_id →
      (stage_run texts runbooks start before).rollout_stage artifact_id = some "paused"

/-- The operations that keep to it, in the state before them. An ingestion does
not give a retired artifact another stage; the policy does not pause a retired
artifact with evidence that closes out the pause; an override that is accepted
does not pause a retired artifact and does not resume one that is neither paused
nor in paper. -/
def KeepsRetirement (store : GovernanceStore) : StageOp K → Prop
  | .ingest runcard =>
      store.rollout_stage (runcard.artifact_id texts) = some "retired" →
        (runcard.artifact_row texts).rollout_stage = "retired"
  | .policy snapshot evidence _ =>
      PolicyPauses snapshot →
        (validate_alert_closeout runbooks "pause_to_paper" evidence).passed = true →
          store.rollout_stage snapshot.artifact_id ≠ some "retired"
  | .override request _ =>
      override_rejections request = [] → ∀ artifact_id, request.artifact_id = some artifact_id →
        (request.action = "pause_artifact" → store.rollout_stage artifact_id ≠ some "retired")
        ∧ (request.action = "resume_artifact" → ∀ stage, store.rollout_stage artifact_id = some stage →
            stage = "paused" ∨ stage = "paper")

end Runs

/-! ## One operation -/

section Steps

variable {K : Type} [Field K] [LinearOrder K] (texts : PyTexts K) (runbooks : Runbooks)

/-- What one operation may not do. -/
structure StepFinal (store : GovernanceStore) (op : StageOp K) : Prop where
  stays : ∀ artifact_id, store.rollout_stage artifact_id = some "retired" →
    (stage_step texts runbooks store op).rollout_stage artifact_id = some "retired"
  resumes : ∀ request stamp, op = .override request stamp → request.action = "resume_artifact" →
    ∀ artifact_id,
      (stage_step texts runbooks store op).rollout_stage artifact_id
        ≠ store.rollout_stage artifact_id →
      store.rollout_stage artifact_id = some "paused"

theorem ingest_final_iff (store : GovernanceStore) (runcard : Runcard K) :
    StepFinal texts runbooks store (.ingest runcard)
      ↔ KeepsRetirement texts runbooks store (.ingest runcard) := by
  have hstage := rollout_stage_upsert_artifact texts store runcard
  constructor
  · intro h hretired
    have hstays := h.stays _ hretired
    rw [stage_step, hstage, if_pos rfl] at hstays
    exact Option.some.inj hstays
  · intro h
    refine ⟨fun artifact_id hretired => ?_, fun _ _ hop => by cases hop⟩
    rw [stage_step, hstage]
    split_ifs with hsame
    · rw [h (hsame ▸ hretired)]
    · exact hretired

theorem rollout_stage_policy (store : GovernanceStore) (snapshot : ArtifactHealthSnapshot K)
    (evidence : JsonObject K) (stamp : CallStamp) (artifact_id : String) :
    (stage_step texts runbooks store (.policy snapshot evidence stamp)).rollout_stage artifact_id
      = if (validate_alert_closeout runbooks (evaluate_lifecycle_policy snapshot).runbook_code
            evidence).passed = true
          ∧ artifact_id = snapshot.artifact_id
          ∧ (evaluate_lifecycle_policy snapshot).target_state ∈ ["paused", "retired"] then
          (store.rollout_stage artifact_id).map fun _ =>
            (evaluate_lifecycle_policy snapshot).target_state
        else store.rollout_stage artifact_id := by
  unfold stage_step apply_lifecycle_decision
  dsimp only
  by_cases hpassed : (validate_alert_closeout runbooks
      (evaluate_lifecycle_policy snapshot).runbook_code evidence).passed = true
  · rw [if_pos hpassed, rollout_stage_write_decision, evaluate_lifecycle_policy_artifact_id]
    simp only [hpassed, true_and]
  · rw [if_neg hpassed, if_neg fun h => hpassed h.1]

theorem policy_final_iff (store : GovernanceStore) (snapshot : ArtifactHealthSnapshot K)
    (evidence : JsonObject K) (stamp : CallStamp) :
    StepFinal texts runbooks store (.policy snapshot evidence stamp)
      ↔ KeepsRetirement texts runbooks store (.policy snapshot evidence stamp) := by
  have hstage := rollout_stage_policy texts runbooks store snapshot evidence stamp
  constructor
  · intro h hpauses hpassed hretired
    have htarget := (target_paused_iff snapshot).mpr hpauses
    have hstays := h.stays _ hretired
    rw [hstage, runbook_of_paused htarget, htarget, if_pos ⟨hpassed, rfl, by decide⟩, hretired]
      at hstays
    exact absurd hstays (by decide)
  · intro h
    refine ⟨fun artifact_id hretired => ?_, fun _ _ hop => by cases hop⟩
    rw [hstage]
    split_ifs with hwrites
    · obtain ⟨hpassed, rfl, htarget⟩ := hwrites
      rw [List.mem_pair] at htarget
      rcases htarget with hpaused | hretire
      · rw [runbook_of_paused hpaused] at hpassed
        exact absurd hretired (h ((target_paused_iff snapshot).mp hpaused) hpassed)
      · rw [hretire, hretired]
        rfl
    · exact hretired

/-- The writes of an override, by its action. -/
theorem override_write_eq_some {request : HumanOverrideRequest} {artifact_id stage : String} :
    override_write request = some (artifact_id, stage)
      ↔ override_rejections request = [] ∧ request.artifact_id = some artifact_id
        ∧ artifact_id ≠ "" ∧ override_stage request.action = some stage := by
  unfold override_write
  split_ifs with hreasons
  · simp only [Option.bind_eq_some_iff, Option.map_eq_some_iff, Option.filter_eq_some_iff,
      decide_eq_true_eq, Prod.mk.injEq]
    constructor
    · rintro ⟨_, hstage, _, ⟨hid, hne⟩, rfl, rfl⟩
      exact ⟨hreasons, hid, hne, hstage⟩
    · rintro ⟨-, hid, hne, hstage⟩
      exact ⟨stage, hstage, artifact_id, ⟨hid, hne⟩, rfl, rfl⟩
  · simp [hreasons]

/-- An accepted override of an artifact names it. -/
theorem artifact_id_ne_of_accepted {request : HumanOverrideRequest}
    (haccepted : override_rejections request = []) (haction : request.action ∈ ARTIFACT_OVERRIDES)
    {artifact_id : String} (hid : request.artifact_id = some artifact_id) : artifact_id ≠ "" := by
  rintro rfl
  unfold override_rejections at haccepted
  simp only [List.append_eq_nil_iff] at haccepted
  have hgiven := haccepted.1.2
  rw [if_pos ⟨haction, by rw [hid]; rfl⟩] at hgiven
  exact absurd hgiven (List.cons_ne_nil _ _)

/-- An override that writes nothing leaves all stages. -/
theorem rollout_stage_override_none (store : GovernanceStore) {request : HumanOverrideRequest}
    (stamp : CallStamp) (hwrite : override_write request = none) (artifact_id : String) :
    (stage_step texts runbooks store (.override request stamp)).rollout_stage artifact_id
      = store.rollout_stage artifact_id := by
  rw [stage_step, rollout_stage_apply_human_override, hwrite]

/-- An override that writes a stage gives it to its artifact. -/
theorem rollout_stage_override_some (store : GovernanceStore) {request : HumanOverrideRequest}
    (stamp : CallStamp) {target stage : String} (hwrite : override_write request = some (target, stage))
    (artifact_id : String) :
    (stage_step texts runbooks store (.override request stamp)).rollout_stage artifact_id
      = if artifact_id = target then (store.rollout_stage artifact_id).map fun _ => stage
        else store.rollout_stage artifact_id := by
  rw [stage_step, rollout_stage_apply_human_override, hwrite]

/-- An override that is final keeps retirement. -/
theorem keeps_of_override_final {store : GovernanceStore} {request : HumanOverrideRequest}
    {stamp : CallStamp} (h : StepFinal texts runbooks store (.override request stamp)) :
    KeepsRetirement texts runbooks store (.override request stamp) := by
  intro haccepted artifact_id hid
  constructor
  · intro haction hretired
    have hne := artifact_id_ne_of_accepted haccepted (by rw [haction]; decide) hid
    have hwrite : override_write request = some (artifact_id, "paused") :=
      override_write_eq_some.mpr ⟨haccepted, hid, hne, by rw [haction]; decide⟩
    have hstays := h.stays artifact_id hretired
    rw [rollout_stage_override_some texts runbooks store stamp hwrite, if_pos rfl, hretired]
      at hstays
    exact absurd hstays (by decide)
  · intro haction stage hheld
    have hne := artifact_id_ne_of_accepted haccepted (by rw [haction]; decide) hid
    have hwrite : override_write request = some (artifact_id, "paper") :=
      override_write_eq_some.mpr ⟨haccepted, hid, hne, by rw [haction]; decide⟩
    by_contra hother
    obtain ⟨hnot_paused, hnot_paper⟩ := not_or.mp hother
    have hchange : (stage_step texts runbooks store (.override request stamp)).rollout_stage
        artifact_id ≠ store.rollout_stage artifact_id := by
      rw [rollout_stage_override_some texts runbooks store stamp hwrite, if_pos rfl, hheld]
      exact fun heq => hnot_paper (Option.some.inj heq).symm
    have hpaused := h.resumes request stamp rfl haction artifact_id hchange
    rw [hheld] at hpaused
    exact hnot_paused (Option.some.inj hpaused)

/-- An override that keeps retirement leaves a retired artifact retired. -/
theorem retired_stays_of_keeps {store : GovernanceStore} {request : HumanOverrideRequest}
    {stamp : CallStamp} (h : KeepsRetirement texts runbooks store (.override request stamp))
    {artifact_id : String} (hretired : store.rollout_stage artifact_id = some "retired") :
    (stage_step texts runbooks store (.override request stamp)).rollout_stage artifact_id
      = some "retired" := by
  cases hwrite : override_write request with
  | none =>
      rw [rollout_stage_override_none texts runbooks store stamp hwrite]
      exact hretired
  | some written =>
      obtain ⟨target, stage⟩ := written
      obtain ⟨haccepted, hid, -, hto⟩ := override_write_eq_some.mp hwrite
      obtain ⟨hpause, hresume⟩ := h haccepted target hid
      rw [rollout_stage_override_some texts runbooks store stamp hwrite]
      split_ifs with hsame
      · subst hsame
        unfold override_stage at hto
        split_ifs at hto with hpausing hresuming
        · exact absurd hretired (hpause hpausing)
        · rcases hresume hresuming _ hretired with heq | heq
          · exact absurd heq (by decide)
          · exact absurd heq (by decide)
        · rw [hretired]
          exact hto.symm
      · exact hretired

/-- A resume that keeps retirement changes a paused artifact only. -/
theorem paused_of_resume_changes {store : GovernanceStore} {request : HumanOverrideRequest}
    {stamp : CallStamp} (h : KeepsRetirement texts runbooks store (.override request stamp))
    (haction : request.action = "resume_artifact") {artifact_id : String}
    (hchange : (stage_step texts runbooks store (.override request stamp)).rollout_stage artifact_id
      ≠ store.rollout_stage artifact_id) :
    store.rollout_stage artifact_id = some "paused" := by
  cases hwrite : override_write request with
  | none =>
      exact absurd (rollout_stage_override_none texts runbooks store stamp hwrite artifact_id) hchange
  | some written =>
      obtain ⟨target, stage⟩ := written
      obtain ⟨haccepted, hid, -, hto⟩ := override_write_eq_some.mp hwrite
      obtain ⟨-, hresume⟩ := h haccepted target hid
      rw [rollout_stage_override_some texts runbooks store stamp hwrite] at hchange
      split_ifs at hchange with hsame
      · subst hsame
        have hpaper : stage = "paper" := by
          rw [haction] at hto
          exact (Option.some.inj hto).symm
        cases hheld : store.rollout_stage artifact_id with
        | none =>
            rw [hheld] at hchange
            exact absurd rfl hchange
        | some held =>
            rcases hresume haction held hheld with hpaused | hpaperHeld
            · rw [hpaused]
            · rw [hheld, hpaperHeld, hpaper] at hchange
              exact absurd rfl hchange
      · exact absurd rfl hchange

theorem override_final_iff (store : GovernanceStore) (request : HumanOverrideRequest)
    (stamp : CallStamp) :
    StepFinal texts runbooks store (.override request stamp)
      ↔ KeepsRetirement texts runbooks store (.override request stamp) := by
  constructor
  · exact keeps_of_override_final texts runbooks
  · intro h
    refine ⟨fun artifact_id => retired_stays_of_keeps texts runbooks h, ?_⟩
    intro request' stamp' hop haction artifact_id hchange
    cases hop
    exact paused_of_resume_changes texts runbooks h haction hchange

/-- One operation, of any kind. -/
theorem step_final_iff (store : GovernanceStore) (op : StageOp K) :
    StepFinal texts runbooks store op ↔ KeepsRetirement texts runbooks store op := by
  cases op with
  | ingest runcard => exact ingest_final_iff texts runbooks store runcard
  | policy snapshot evidence stamp => exact policy_final_iff texts runbooks store snapshot evidence stamp
  | override request stamp => exact override_final_iff texts runbooks store request stamp

/-- In a run, retirement is final and a resume touches paused artifacts only, if
and only if every operation keeps to it in the state before it. -/
theorem retirement_final_iff (start : GovernanceStore) (ops : List (StageOp K)) :
    RetirementFinal texts runbooks start ops
      ↔ ∀ before op after, ops = before ++ op :: after →
          KeepsRetirement texts runbooks (stage_run texts runbooks start before) op := by
  have hsteps : (∀ before op after, ops = before ++ op :: after →
      KeepsRetirement texts runbooks (stage_run texts runbooks start before) op)
      ↔ ∀ before op after, ops = before ++ op :: after →
        StepFinal texts runbooks (stage_run texts runbooks start before) op := by
    simp only [step_final_iff]
  rw [hsteps]
  constructor
  · intro h before op after hops
    constructor
    · intro artifact_id hretired
      rw [← stage_run_concat]
      exact h.stays before [op] after artifact_id (by rw [hops, List.append_assoc]; rfl) hretired
    · rintro request stamp rfl haction artifact_id hchange
      rw [← stage_run_concat] at hchange
      exact h.resumes before request stamp after hops haction artifact_id hchange
  · intro h
    constructor
    · intro before between
      -- the stage is kept operation by operation
      induction between using List.reverseRecOn with
      | nil =>
          intro after artifact_id _ hretired
          rw [List.append_nil]
          exact hretired
      | append_singleton between op ih =>
          intro after artifact_id hops hretired
          have hkept := ih (op :: after) artifact_id (by rw [hops]; simp) hretired
          have hstep := h (before ++ between) op after (by rw [hops]; simp)
          rw [← List.append_assoc, stage_run_concat]
          exact hstep.stays artifact_id hkept
    · intro before request stamp after hops haction artifact_id hchange
      rw [stage_run_concat] at hchange
      exact (h before _ after hops).resumes request stamp rfl haction artifact_id hchange

end Steps

/-! ## A retired artifact that comes back -/

/-- A database with one artifact. -/
def one_artifact (stage : String) : GovernanceStore where
  artifacts := AList.singleton "artifact-1" { rollout_stage := stage, approved := true }
  deployments := ∅
  risk_events := []
  lifecycle_journal := []
  human_override_journal := []

/-- A rollback retires an artifact, and a resume puts it back into paper. -/
theorem retirement_not_final :
    ¬ RetirementFinal (K := ℚ) plain_texts DEFAULT_ALERT_RUNBOOKS (one_artifact "paper")
      [.override { plain_override "rollback_artifact" with
          confirmation := some "CONFIRM:rollback_artifact" } (stamp_at "2026-04-25T00:00:00Z"),
        .override (plain_override "resume_artifact") (stamp_at "2026-04-25T00:00:01Z")] := by
  intro h
  have hstays := h.stays [_] [_] [] "artifact-1" rfl (by decide +kernel)
  exact absurd hstays (by decide +kernel)

end ProofAlpha.Governance
