/-
The operator's loop: `app/operator_loop.py`, `run_operate_loop`.

The operator records a study in the candidate queue and starts the guarded loop on it, unless
its data or a strategy evidence card speak against that. Whether an improvement may be claimed
is decided from what the guarded loop reports and from the data of the study that it began with.
-/
import ProofAlpha.App.GuardedRepeat

set_option autoImplicit false

namespace ProofAlpha.App

open ProofAlpha.Lib ProofAlpha.Lib.Traced

/-! ## Advice -/

/-- What `_next_action` returns. -/
structure NextAction where
  id : String
  priority : ℤ
  action : String
  evidence : List String

/-- `_next_action`. -/
def next_action (action_id : String) (priority : ℤ) (action : String) (evidence : List String) :
    NextAction :=
  ⟨action_id, priority, action,
    (first_by id (evidence.filter fun item => item ≠ "")).insertionSort (· ≤ ·)⟩

/-- `_data_sufficiency_next_actions`. -/
def data_sufficiency_next_actions (data_sufficiency : DataSufficiency) : List NextAction :=
  let blockers := data_sufficiency.blockers
  let missing := data_sufficiency.missing_data_requirements
  let actions :=
    (if "strict_v3_history" ∈ missing ∨ "insufficient_history_for_v3_improvement" ∈ blockers then
      [next_action "collect_strict_v3_data" 1
        "Collect BTCUSDT/ETHUSDT 1h and 15m public archive history before claiming improvement."
        (blockers ++ missing)] else [])
    ++ (if "observed_liquidation_sidecar" ∈ missing
        ∨ "liquidation_feature_missing_observed_sidecar" ∈ blockers then
      [next_action "collect_observed_liquidation_sidecar" 2
        ("Capture public forceOrder liquidation buckets; do not treat missing historical "
          ++ "liquidations as zero.")
        (blockers ++ missing)] else [])
    ++ (if "paper_executor_feedback" ∈ missing then
      [next_action "collect_paper_executor_feedback" 3
        ("Collect paper dashboard, postrun summary, and calibration feedback before improvement "
          ++ "claims.")
        missing] else [])
  if actions = [] ∧ blockers ≠ [] then
    [next_action "repair_data_sufficiency" 4
      "Repair strict data blockers before operating the loop." blockers]
  else actions

/-! ## What stops the operator -/

/-- `OperateLoopSettings`. -/
structure OperateLoopSettings where
  output_dir : String
  config_path : Option String := none
  study_dir : Option String := none
  profile : String := "strict_v3"
  max_cycles : ℤ := 3
  paper : PaperPaths := {}
  strategy_evidence_card_path : Option String := none
  require_research_ready : Bool := false
  require_improvement_ready : Bool := false
  allow_smoke : Bool := false

/-- `_operate_loop_data_blocker`. -/
def operate_loop_data_blocker (data_sufficiency : DataSufficiency)
    (settings : OperateLoopSettings) : Option String :=
  if settings.require_improvement_ready ∧ ¬ data_sufficiency.improvement_ready then
    some "require_improvement_ready was set but data_sufficiency.improvement_ready is false."
  else if settings.require_research_ready ∧ ¬ data_sufficiency.research_ready then
    some "require_research_ready was set but data_sufficiency.research_ready is false."
  else if settings.allow_smoke then
    if data_sufficiency.run_ready then none
    else some "allow_smoke was set but data_sufficiency.run_ready is false."
  else if data_sufficiency.research_ready then none
  else some "operate-loop requires research_ready data unless --allow-smoke is set."

/-- What the operator finds outside of this module. `read_card` and `read_payload` are
`json.loads` of a file, `queue_file` is the candidate queue's, and the rest is what the guarded
loop finds. -/
structure OperateWorld (K : Type) extends RepeatWorld K where
  read_card : String → Except String (JsonValue K)
  read_payload : String → Except String (JsonObject K)
  queue_file : Option (JsonValue K)
  floats : JsonFloats K
  hexdigest : String → String

variable {K : Type} [Field K] [LinearOrder K]

section Card

variable (composite : CompositeText K)

/-- `_load_strategy_evidence_card`. -/
def load_strategy_evidence_card (world : OperateWorld K) :
    Option String → Except String (Option (JsonObject K))
  | none => .ok none
  | some path => do
      match ← world.read_card path with
      | .dict card => return some card
      | _ => .error ("strategy evidence card must be a JSON object: " ++ path)

/-- `_strategy_evidence_card_blocker`. -/
def strategy_evidence_card_blocker (card : Option (JsonObject K))
    (settings : OperateLoopSettings) : Option String :=
  match card with
  | none =>
      if settings.require_improvement_ready then
        some "require_improvement_ready was set but no strategy evidence card was provided."
      else none
  | some card =>
      if truthy (card.get "can_claim_strategy_improvement") then none
      else
        let blockers := string_list composite.text (card.get "blockers")
        if blockers = [] then
          some "strategy evidence card does not allow strategy-improvement claims."
        else some ("strategy evidence card blocks improvement: " ++ ", ".intercalate blockers)

/-- `_strategy_evidence_card_next_actions`. -/
def strategy_evidence_card_next_actions (card : Option (JsonObject K)) (blocker : String) :
    List NextAction :=
  match card with
  | none =>
      [next_action "build_strategy_evidence_card" 1
        ("Build a strategy evidence card before rerunning or promoting candidates under "
          ++ "require-improvement-ready.") [blocker]]
  | some card =>
      let action := text_or composite.text (card.get "next_allowed_action")
        "repair_strategy_evidence"
      let blockers := string_list composite.text (card.get "blockers")
      [next_action action 1 "Repair blocked strategy evidence before operating the loop."
        (if blockers = [] then [blocker] else blockers)]

end Card

/-! ## The loop -/

/-- The `operator_loop_report`; of the advice that the guarded loop gives nothing is kept. -/
structure OperatorReport (K : Type) where
  status : String
  can_claim_strategy_improvement : Bool := false
  strategy_improvement_supported : Bool := false
  improvement_gate_path : Option String := none
  next_actions : List NextAction := []
  candidate_queue : Option (JsonObject K) := none

variable [FloorRing K] (texts : LoopTexts K)

omit [LinearOrder K] [FloorRing K] in
/-- `_latest_improvement_gate_path`. -/
def latest_improvement_gate_path (report : RepeatReport K) : Option String :=
  report.cycles.reverse.findSome? fun cycle => cycle.report.improvement_gate_path

/-- The call of `record_candidate_queue_entry`. -/
def queue_call (study_payload : JsonObject K) (config_path : String) (study : LoopStudy K)
    (data_sufficiency : DataSufficiency) (profile : String) : QueueCall K where
  study_payload := study_payload
  config_path := config_path
  run_id := study.run_id
  readiness := data_sufficiency.to_dict
  next_action_ids := ((data_sufficiency_next_actions data_sufficiency).map NextAction.id).filter
    fun id => id ≠ ""
  profile := profile

/-- The settings of the guarded loop. -/
def OperateLoopSettings.repeat_settings (settings : OperateLoopSettings) : RepeatSettings K where
  output_dir := settings.output_dir
  study_dir := if settings.config_path.isNone then settings.study_dir else none
  config_path := settings.config_path
  max_cycles := settings.max_cycles
  paper := settings.paper

/-- `run_operate_loop` without a configuration. -/
def operate_without_config (world : OperateWorld K) (settings : OperateLoopSettings)
    (card : Option (JsonObject K)) : LoopRun (OperatorReport K) :=
  match strategy_evidence_card_blocker texts.toCompositeText card settings with
  | some blocker => pure {
      status := "blocked_strategy_evidence_card"
      next_actions := strategy_evidence_card_next_actions texts.toCompositeText card blocker }
  | none => do
      let report ← run_guarded_loop_repeat texts world.toRepeatWorld settings.repeat_settings
      return {
        status := if report.status = "" then "blocked_missing_initial_study" else report.status
        strategy_improvement_supported := report.strategy_improvement_supported }

/-- `run_operate_loop` on a configuration, from the report on its data on. -/
def operate_on (world : OperateWorld K) (settings : OperateLoopSettings)
    (card : Option (JsonObject K)) (data_sufficiency : DataSufficiency) (queue : JsonObject K) :
    LoopRun (OperatorReport K) :=
  match operate_loop_data_blocker data_sufficiency settings with
  | some blocker =>
      let next_actions := data_sufficiency_next_actions data_sufficiency
      pure {
        status := "blocked_data_sufficiency"
        next_actions := if next_actions = [] then
          [next_action "repair_data_sufficiency" 1 blocker []] else next_actions
        candidate_queue := some queue }
  | none =>
      match strategy_evidence_card_blocker texts.toCompositeText card settings with
      | some blocker => pure {
          status := "blocked_strategy_evidence_card"
          next_actions := strategy_evidence_card_next_actions texts.toCompositeText card blocker
          candidate_queue := some queue }
      | none => do
          let report ← run_guarded_loop_repeat texts world.toRepeatWorld settings.repeat_settings
          return {
            status := if report.status = "" then "completed" else report.status
            can_claim_strategy_improvement :=
              report.strategy_improvement_supported && data_sufficiency.improvement_ready
            strategy_improvement_supported := report.strategy_improvement_supported
            improvement_gate_path := latest_improvement_gate_path report
            candidate_queue := some queue }

/-- `run_operate_loop`. -/
def run_operate_loop (world : OperateWorld K) (settings : OperateLoopSettings) :
    LoopRun (OperatorReport K) := do
  let card ← lift (load_strategy_evidence_card world settings.strategy_evidence_card_path)
  match settings.config_path with
  | none => operate_without_config texts world settings card
  | some config_path => do
      let study ← lift (world.load_study_config config_path)
      let study_payload ← lift (world.read_payload config_path)
      let data_sufficiency ←
        lift (build_data_sufficiency_report texts.toCompositeText study settings.profile)
      let _ ← lift (build_loop_readiness_report texts.toCompositeText study config_path)
      let queue ← lift (record_candidate_queue_entry ⟨world.floats, world.hexdigest, texts.text⟩
        world.queue_file
        (queue_call study_payload config_path study data_sufficiency settings.profile))
      operate_on texts world settings card data_sufficiency queue

/-! ## What a claim rests on -/

/-- What the operator has found before it lets an improvement be claimed. -/
structure ClaimEvidence (world : OperateWorld K) (settings : OperateLoopSettings)
    (report : OperatorReport K) : Prop where
  /-- The data of the study that the loop began with have no blockers. -/
  data : ∃ config_path study data_sufficiency, settings.config_path = some config_path
    ∧ world.load_study_config config_path = .ok study
    ∧ build_data_sufficiency_report texts.toCompositeText study settings.profile
      = .ok data_sufficiency
    ∧ data_sufficiency.blockers = []
  /-- A card that is given allows the claim, and where one is needed it is given. -/
  card : ∃ card,
    load_strategy_evidence_card world settings.strategy_evidence_card_path = .ok card
    ∧ (∀ given ∈ card, truthy (JsonObject.get given "can_claim_strategy_improvement") = true)
    ∧ (settings.require_improvement_ready = true → card.isSome = true)
  /-- The last cycle of the guarded loop has the evidence for it. -/
  loop : ∃ done last,
    (run_guarded_loop_repeat texts world.toRepeatWorld settings.repeat_settings).result = .ok done
    ∧ done.cycles.getLast? = some last
    ∧ SupportedCycle texts {} last.report
  supported : report.strategy_improvement_supported = true

variable {texts}

omit [FloorRing K] in
theorem card_allows {card : Option (JsonObject K)} {settings : OperateLoopSettings}
    (h : strategy_evidence_card_blocker texts.toCompositeText card settings = none) :
    (∀ given ∈ card, truthy (JsonObject.get given "can_claim_strategy_improvement") = true)
      ∧ (settings.require_improvement_ready = true → card.isSome = true) := by
  unfold strategy_evidence_card_blocker at h
  cases card with
  | none =>
      refine ⟨by simp, fun hrequired => ?_⟩
      rw [hrequired] at h
      cases h
  | some card =>
      refine ⟨fun given hgiven => ?_, fun _ => rfl⟩
      obtain rfl : card = given := by simpa using hgiven
      by_contra hclaim
      dsimp only at h
      rw [if_neg hclaim] at h
      split_ifs at h

/-- What an operator's run on a configuration has computed before it decides. -/
theorem run_operate_loop_of_config {world : OperateWorld K} {settings : OperateLoopSettings}
    {config_path : String} {report : OperatorReport K}
    (hconfig : settings.config_path = some config_path)
    (h : (run_operate_loop texts world settings).result = .ok report) :
    ∃ card study data_sufficiency queue,
      load_strategy_evidence_card world settings.strategy_evidence_card_path = .ok card
      ∧ world.load_study_config config_path = .ok study
      ∧ build_data_sufficiency_report texts.toCompositeText study settings.profile
        = .ok data_sufficiency
      ∧ (operate_on texts world settings card data_sufficiency queue).result = .ok report := by
  unfold run_operate_loop at h
  rw [hconfig] at h
  simp only [result_bind, result_lift] at h
  obtain ⟨card, hcard, h⟩ := bind_ok h
  obtain ⟨study, hstudy, h⟩ := bind_ok h
  obtain ⟨study_payload, -, h⟩ := bind_ok h
  obtain ⟨data_sufficiency, hsufficiency, h⟩ := bind_ok h
  obtain ⟨-, -, h⟩ := bind_ok h
  obtain ⟨queue, -, h⟩ := bind_ok h
  exact ⟨card, study, data_sufficiency, queue, hcard, hstudy, hsufficiency, h⟩

/-- Where the operator lets an improvement be claimed, the data of the study have no blockers, no
evidence card speaks against it, and the last cycle of the guarded loop ran on an eligible study
whose agent loop promoted a run without a failed gate, and has the paper run and the calibration
that the gate asks for. -/
theorem operate_loop_claim_is_evidenced {world : OperateWorld K} {settings : OperateLoopSettings}
    {report : OperatorReport K} (h : (run_operate_loop texts world settings).result = .ok report)
    (hclaim : report.can_claim_strategy_improvement = true) :
    ClaimEvidence texts world settings report := by
  cases hconfig : settings.config_path with
  | none =>
      unfold run_operate_loop at h
      rw [hconfig, result_bind, result_lift] at h
      obtain ⟨card, -, h⟩ := bind_ok h
      dsimp only at h
      unfold operate_without_config at h
      split at h
      · cases h
        cases hclaim
      · rw [result_bind] at h
        obtain ⟨done, -, h⟩ := bind_ok h
        cases h
        cases hclaim
  | some config_path =>
      obtain ⟨card, study, data_sufficiency, queue, hcard, hstudy, hsufficiency, h⟩ :=
        run_operate_loop_of_config hconfig h
      unfold operate_on at h
      split at h
      · cases h
        cases hclaim
      · split at h
        · cases h
          cases hclaim
        · rename_i hallowed
          rw [result_bind] at h
          obtain ⟨done, hdone, h⟩ := bind_ok h
          cases h
          obtain ⟨hsupported, hready⟩ := Bool.and_eq_true_iff.mp hclaim
          have hcycles : done.cycles ≠ [] := by
            intro hnone
            rw [RepeatReport.strategy_improvement_supported, hnone] at hsupported
            cases hsupported
          obtain ⟨active_config, hran⟩ := run_guarded_loop_repeat_ran hdone hcycles
          obtain ⟨last, hlast, hlast_supported⟩ := hran.supported_iff.mp hsupported
          exact {
            data := ⟨config_path, study, data_sufficiency, hconfig, hstudy, hsufficiency,
              (improvement_ready_iff hsufficiency).mp hready⟩
            card := ⟨card, hcard, card_allows hallowed⟩
            loop := ⟨done, last, hdone, hlast, hran.supported_cycle hlast hlast_supported⟩
            supported := hsupported }

/-- A study with a card, found where `strict_world` finds it. -/
def strict_operator : OperateWorld ℚ where
  toRepeatWorld := strict_world
  read_card := fun _ => .ok (.dict [("can_claim_strategy_improvement", .bool true)])
  read_payload := fun _ => .ok []
  queue_file := none
  floats := .rat
  hexdigest := id

/-- An operator's run with all paper artifacts. -/
def strict_run : OperateLoopSettings where
  output_dir := "out"
  config_path := some "study.json"
  paper := ⟨some "dashboard.json", some "postrun.json", some "calibration.json"⟩
  strategy_evidence_card_path := some "card.json"
  require_improvement_ready := true

theorem operate_loop_claim_is_evidenced_strict : ∃ report,
    (run_operate_loop plain_loop_texts strict_operator strict_run).result = .ok report
      ∧ ClaimEvidence plain_loop_texts strict_operator strict_run report := by
  obtain ⟨report, hreport, hclaim⟩ := exists_ok_of_any
    (x := (run_operate_loop plain_loop_texts strict_operator strict_run).result)
    (p := OperatorReport.can_claim_strategy_improvement) (by decide +kernel)
  exact ⟨report, hreport, operate_loop_claim_is_evidenced hreport hclaim⟩

/-! ## What lets the loop start -/

/-- Neither an evidence card nor the data of the study stand against the guarded loop. -/
def OperatorAllows (texts : LoopTexts K) (world : OperateWorld K)
    (settings : OperateLoopSettings) : Prop :=
  ∃ card, load_strategy_evidence_card world settings.strategy_evidence_card_path = .ok card
    ∧ strategy_evidence_card_blocker texts.toCompositeText card settings = none
    ∧ ∀ config_path, settings.config_path = some config_path →
      ∃ study data_sufficiency, world.load_study_config config_path = .ok study
        ∧ build_data_sufficiency_report texts.toCompositeText study settings.profile
          = .ok data_sufficiency
        ∧ operate_loop_data_blocker data_sufficiency settings = none

/-- A log of the operator: that of the guarded loop, and nothing where it may not start. -/
def OperatorLog (texts : LoopTexts K) (world : OperateWorld K) (settings : OperateLoopSettings)
    (log : List LoopEvent) : Prop :=
  log = [] ∨ OperatorAllows texts world settings
    ∧ log = (run_guarded_loop_repeat texts world.toRepeatWorld settings.repeat_settings).log

theorem operatorLog_run_operate_loop (texts : LoopTexts K) (world : OperateWorld K)
    (settings : OperateLoopSettings) :
    OperatorLog texts world settings (run_operate_loop texts world settings).log := by
  have hnothing : OperatorLog texts world settings [] := .inl rfl
  unfold run_operate_loop
  refine log_lift_bind hnothing fun card hcard => ?_
  cases hconfig : settings.config_path with
  | none =>
      dsimp only
      unfold operate_without_config
      split
      · exact hnothing
      · rename_i hallowed
        refine .inr ⟨⟨card, hcard, hallowed, fun config_path hsome => ?_⟩, log_bind_pure _ _⟩
        rw [hconfig] at hsome
        cases hsome
  | some config_path =>
      refine log_lift_bind hnothing fun study hstudy => ?_
      refine log_lift_bind hnothing fun study_payload _ => ?_
      refine log_lift_bind hnothing fun data_sufficiency hsufficiency => ?_
      refine log_lift_bind hnothing fun _ _ => ?_
      refine log_lift_bind hnothing fun queue _ => ?_
      unfold operate_on
      split
      · exact hnothing
      · rename_i hunblocked
        split
        · exact hnothing
        · rename_i hallowed
          refine .inr ⟨⟨card, hcard, hallowed, fun path hsome => ?_⟩, log_bind_pure _ _⟩
          rw [hconfig, Option.some.injEq] at hsome
          subst hsome
          exact ⟨study, data_sufficiency, hstudy, hsufficiency, hunblocked⟩

/-- In every run of the operator, also one that raises, the agent loop is started on a study
right after the readiness report of that study has found it eligible, never with paper feedback
that is incomplete, and only where neither a card nor the data of the operator's study stand
against it. -/
theorem agent_loop_starts_are_guarded (world : OperateWorld K) (settings : OperateLoopSettings)
    (before after : List LoopEvent) (config_path : String) (improvement_gate_path : Option String)
    (paper_feedback : String)
    (h : (run_operate_loop texts world settings).log
      = before ++ .agent_loop config_path improvement_gate_path paper_feedback :: after) :
    before.getLast? = some (.readiness config_path true)
      ∧ (paper_feedback = "not_requested" ∨ paper_feedback = "ready")
      ∧ OperatorAllows texts world settings := by
  rcases operatorLog_run_operate_loop texts world settings with hlog | ⟨hallows, hlog⟩
  · rw [hlog] at h
    exact absurd h.symm (by simp)
  · have hguarded :=
      guardedLog_run_guarded_loop_repeat texts world.toRepeatWorld settings.repeat_settings
    rw [← hlog, h] at hguarded
    have hlast := hguarded.1.getLast? rfl
    rw [Option.or_none] at hlast
    have hpaper : paper_feedback ∈ ["not_requested", "ready"] :=
      hguarded.2 _ (List.mem_append_right before (List.mem_cons_self ..))
    exact ⟨hlast, by simpa using hpaper, hallows⟩

theorem agent_loop_starts_are_guarded_strict :
    OperatorAllows plain_loop_texts strict_operator strict_run := by
  have hlog : (run_operate_loop plain_loop_texts strict_operator strict_run).log
      = [.readiness "study.json" true] ++ .agent_loop "study.json" none "ready"
        :: [.improvement_gate true] := by decide +kernel
  exact (agent_loop_starts_are_guarded strict_operator strict_run _ _ _ _ _ hlog).2.2

end ProofAlpha.App
