/-
One cycle of the guarded loop: `app/guarded_loop.py`, `run_guarded_loop_cycle`.

A cycle reports the readiness of a study, and only where that finds it eligible, and the paper
artifacts complete, starts the agent loop on it.

What happens outside of this module is given cycle by cycle (`CycleWorld`): the files, the agent
loop, the ledger that is built from its artifacts. An artifact that a cycle writes and reads back
is passed on as a value. A run keeps a log of what it did.
-/
import ProofAlpha.App.ImprovementGate
import ProofAlpha.Lib.Traced

set_option autoImplicit false

namespace ProofAlpha.App

open ProofAlpha.Lib ProofAlpha.Lib.Traced

/-! ## Paper feedback -/

/-- The three artifacts of a paper run, where they are given. -/
structure PaperPaths where
  dashboard : Option String := none
  postrun_summary : Option String := none
  calibration_feedback : Option String := none

/-- What a reader finds under a path. -/
inductive PaperFile (K : Type) where
  | missing
  | unreadable (error : String)
  | json (value : JsonValue K)

/-- The report of `_paper_feedback_preflight`. -/
structure PaperPreflight where
  status : String
  provided_inputs : List String
  missing_inputs : List String
  missing_files : List String
  invalid_files : List (String × String × String)

/-- `inputs` of `_paper_feedback_preflight`. -/
def PaperPaths.inputs (paths : PaperPaths) : List (String × Option String) :=
  [("paper_dashboard", paths.dashboard), ("paper_postrun_summary", paths.postrun_summary),
    ("paper_calibration_feedback", paths.calibration_feedback)]

/-- `provided`. -/
def PaperPaths.provided (paths : PaperPaths) : List (String × String) :=
  paths.inputs.filterMap fun input => input.2.map fun path => (input.1, path)

section Preflight

variable {K : Type} (paper_file : String → PaperFile K)

/-- `_invalid_paper_feedback_files`: the input, its path and the error. -/
def invalid_paper_feedback_files (provided : List (String × String)) :
    List (String × String × String) :=
  (provided.insertionSort fun a b => a.1 ≤ b.1).filterMap fun input =>
    match paper_file input.2 with
    | .missing => none
    | .unreadable error => some (input.1, input.2, error)
    | .json (.dict _) => none
    | .json _ => some (input.1, input.2, "paper feedback artifact must be a JSON object")

/-- `path.exists()`. -/
def paper_exists (path : String) : Bool :=
  match paper_file path with
  | .missing => false
  | _ => true

/-- `_paper_feedback_preflight`. -/
def paper_feedback_preflight (paths : PaperPaths) : PaperPreflight :=
  let provided := paths.provided
  if provided = [] then ⟨"not_requested", [], [], [], []⟩
  else
    let missing_inputs := (paths.inputs.filter fun input => input.2.isNone).map Prod.fst
    let missing_files := (provided.map Prod.snd).filter fun path => !paper_exists paper_file path
    let invalid_files := invalid_paper_feedback_files paper_file provided
    { status := if missing_inputs = [] ∧ missing_files = [] ∧ invalid_files = [] then "ready"
        else "incomplete"
      provided_inputs := (provided.map Prod.fst).insertionSort (· ≤ ·)
      missing_inputs := missing_inputs
      missing_files := missing_files
      invalid_files := invalid_files }

theorem paper_feedback_preflight_status (paths : PaperPaths) :
    (paper_feedback_preflight paper_file paths).status
      ∈ ["not_requested", "ready", "incomplete"] := by
  unfold paper_feedback_preflight
  dsimp only
  split_ifs <;> simp

end Preflight

/-! ## One cycle -/

/-- What varies between the `GuardedLoopCycleSettings` of a repeat; the settings of the agent
loop are part of `CycleWorld.agent_loop`. -/
structure CycleSettings (K : Type) [Field K] where
  config_path : String
  output_dir : String
  liquidations_path : Option String := none
  hydrated_config_path : Option String := none
  improvement_gate_path : Option String := none
  paper : PaperPaths := {}
  thresholds : GateThresholds K := {}

/-- What a cycle finds outside of this module. -/
structure CycleWorld (K : Type) where
  verify_study_liquidations : String → String → Except String (JsonObject K)
  hydrate_study_liquidations : String → String → String → Except String (JsonObject K)
  load_study_config : String → Except String (LoopStudy K)
  paper_file : String → PaperFile K
  read_payload : String → Except String (JsonObject K)
  /-- `AgentLoopController.run` with the path of the gate it is told about. -/
  agent_loop : Option String → String → JsonObject K → Except String (JsonObject K)
  /-- The ledger of an agent loop's report, of a readiness report and of paper artifacts. -/
  build_loop_evidence_ledger : Option String → String → PaperPaths → Except String (JsonObject K)
  /-- `_load_object` after the agent loop. -/
  load_object : String → Except String (JsonObject K)
  /-- `load_study_config` after the cycle. -/
  load_candidate : String → Except String (LoopStudy K)

/-- The `guarded_loop_cycle_report`, without its advice. The improvement gate is given with
what it was built from. -/
structure CycleReport (K : Type) where
  status : String
  config_path : String
  active_config_path : String
  readiness : Option LoopReadiness := none
  paper_feedback_preflight : Option PaperPreflight := none
  agent_loop : Option (JsonObject K) := none
  evidence_ledger : Option (JsonObject K) := none
  improvement_gate : Option (GateInputs K × ImprovementGate) := none
  improvement_gate_path : Option String := none

/-- `_strategy_improvement_supported` of the gate of a report. -/
def CycleReport.strategy_improvement_supported {K : Type} (report : CycleReport K) : Bool :=
  (report.improvement_gate.map fun gate => gate.2.strategy_improvement_supported).getD false

/-- What a run of the loop does. -/
inductive LoopEvent where
  /-- A readiness report is written. -/
  | readiness (config_path : String) (eligible : Bool)
  /-- The agent loop is started. -/
  | agent_loop (config_path : String) (improvement_gate_path : Option String)
      (paper_feedback : String)
  /-- An improvement gate is written. -/
  | improvement_gate (supported : Bool)
  /-- The readiness report of the next candidate is written. -/
  | candidate (config_path : String) (eligible : Bool)
  deriving DecidableEq

abbrev LoopRun (α : Type) := Traced String LoopEvent α

/-- `payload[key]`. -/
def index {K : Type} (payload : JsonObject K) (key : String) : Except String (JsonValue K) :=
  match List.lookup key payload with
  | some value => .ok value
  | none => .error key

/-- What the gate reads of a data sufficiency report. -/
def DataSufficiency.to_dict {K : Type} (report : DataSufficiency) : JsonObject K :=
  [("run_ready", .bool report.run_ready),
    ("research_ready", .bool report.research_ready),
    ("improvement_ready", .bool report.improvement_ready),
    ("blockers", .list (report.blockers.map .str)),
    ("missing_data_requirements", .list (report.missing_data_requirements.map .str))]

variable {K : Type} [Field K] [LinearOrder K] [FloorRing K] (texts : LoopTexts K)

omit [LinearOrder K] [FloorRing K] in
/-- The status of a stage that a cycle tries: `try` around the call, and the status it wants. -/
def stage_ready (outcome : Except String (JsonObject K)) (status : String) : Except String Bool :=
  match outcome with
  | .error _ => .ok false
  | .ok payload => (index payload "status").map fun value => is_text value status

omit [LinearOrder K] [FloorRing K] in
/-- The first stages of `run_guarded_loop_cycle`: the configuration that the cycle goes on with,
or the report that it ends with. -/
def prepare_config (world : CycleWorld K) (settings : CycleSettings K) :
    Except String (CycleReport K ⊕ String) :=
  match settings.liquidations_path with
  | none => .ok (.inr settings.config_path)
  | some liquidations_path => do
      let blocked (status : String) : CycleReport K :=
        { status := status
          config_path := settings.config_path
          active_config_path := settings.config_path }
      let hydrated_config_path :=
        settings.hydrated_config_path.getD (settings.output_dir ++ "/hydrated-study.json")
      let verified ← stage_ready
        (world.verify_study_liquidations settings.config_path liquidations_path) "ready"
      if !verified then return .inl (blocked "blocked_sidecar_not_ready")
      let hydrated ← stage_ready
        (world.hydrate_study_liquidations settings.config_path liquidations_path
          hydrated_config_path) "hydrated"
      if !hydrated then return .inl (blocked "blocked_hydration_not_ready")
      return .inr hydrated_config_path

/-- The improvement gate of a cycle, where all paper artifacts are given. -/
def cycle_improvement_gate (world : CycleWorld K) (settings : CycleSettings K)
    (readiness : LoopReadiness) (ledger : JsonObject K) :
    Except String (Option (GateInputs K × ImprovementGate)) :=
  match settings.paper.dashboard, settings.paper.postrun_summary,
    settings.paper.calibration_feedback with
  | some dashboard_path, some postrun_path, some calibration_path => do
      let dashboard ← world.load_object dashboard_path
      let postrun ← world.load_object postrun_path
      let calibration ← world.load_object calibration_path
      let inputs : GateInputs K :=
        { ledger := ledger
          dashboard := dashboard
          postrun := postrun
          calibration := calibration
          data_sufficiency := some readiness.data_sufficiency.to_dict }
      let gate ← build_loop_improvement_gate texts settings.thresholds inputs
      return some (inputs, gate)
  | _, _, _ => .ok none

/-- `run_guarded_loop_cycle` from the agent loop on. -/
def run_agent_stage (world : CycleWorld K) (settings : CycleSettings K) (config_path : String)
    (readiness : LoopReadiness) (preflight : PaperPreflight) : LoopRun (CycleReport K) := do
  let base_payload ← lift (world.read_payload config_path)
  note (.agent_loop config_path settings.improvement_gate_path preflight.status)
  let agent_loop_report ←
    lift (world.agent_loop settings.improvement_gate_path settings.output_dir base_payload)
  let report_path ← lift (index agent_loop_report "report_path")
  let ledger ← lift (world.build_loop_evidence_ledger (some (py_str texts.text report_path))
    config_path settings.paper)
  let gate ← lift (cycle_improvement_gate texts world settings readiness ledger)
  notes (gate.toList.map fun gate => .improvement_gate gate.2.strategy_improvement_supported)
  return {
    status := text_or texts.text (JsonObject.get agent_loop_report "status") "completed"
    config_path := settings.config_path
    active_config_path := config_path
    readiness := some readiness
    paper_feedback_preflight := some preflight
    agent_loop := some agent_loop_report
    evidence_ledger := some ledger
    improvement_gate := gate
    improvement_gate_path :=
      gate.map fun _ => settings.output_dir ++ "/loop-improvement-gate.json" }

/-- `run_guarded_loop_cycle` from the readiness report on. -/
def run_guarded_stages (world : CycleWorld K) (settings : CycleSettings K) (config_path : String) :
    LoopRun (CycleReport K) := do
  let study ← lift (world.load_study_config config_path)
  let readiness ← lift (build_loop_readiness_report texts.toCompositeText study config_path)
  note (.readiness config_path readiness.eligible)
  let preflight := paper_feedback_preflight world.paper_file settings.paper
  if !readiness.eligible then
    let ledger ← lift (world.build_loop_evidence_ledger none config_path {})
    return {
      status := "blocked_loop_readiness"
      config_path := settings.config_path
      active_config_path := config_path
      readiness := some readiness
      evidence_ledger := some ledger }
  else if preflight.status = "incomplete" then
    let ledger ← lift (world.build_loop_evidence_ledger none config_path {})
    return {
      status := "blocked_paper_feedback_incomplete"
      config_path := settings.config_path
      active_config_path := config_path
      readiness := some readiness
      paper_feedback_preflight := some preflight
      evidence_ledger := some ledger }
  else run_agent_stage texts world settings config_path readiness preflight

/-- `run_guarded_loop_cycle`. -/
def run_guarded_loop_cycle (world : CycleWorld K) (settings : CycleSettings K) :
    LoopRun (CycleReport K) := do
  match ← lift (prepare_config world settings) with
  | .inl report => return report
  | .inr config_path => run_guarded_stages texts world settings config_path

/-! ## What a cycle logs -/

/-- An agent loop needs a readiness report on its study that finds it eligible. -/
def needs_readiness : LoopEvent → Option LoopEvent
  | .agent_loop config_path _ _ => some (.readiness config_path true)
  | _ => none

/-- An agent loop runs with complete paper feedback or with none. -/
def PaperComplete : LoopEvent → Prop
  | .agent_loop _ _ paper_feedback => paper_feedback ∈ ["not_requested", "ready"]
  | _ => True

/-- What the events of a log are and where they stand. -/
def GuardedLog (log : List LoopEvent) : Prop :=
  AnswersFrom needs_readiness none log ∧ ∀ event ∈ log, PaperComplete event

theorem guardedLog_nil : GuardedLog [] := ⟨trivial, fun _ hevent => nomatch hevent⟩

theorem GuardedLog.bind {α β : Type} {x : LoopRun α} {f : α → LoopRun β} (hx : GuardedLog x.log)
    (hf : ∀ a, GuardedLog (f a).log) : GuardedLog (x >>= f).log :=
  ⟨Answers.bind hx.1 fun a => (hf a).1, Logs.bind hx.2 fun a => (hf a).2⟩

/-- Gates are written whatever stands before them. -/
theorem guardedLog_of_gates {log : List LoopEvent}
    (h : ∀ event ∈ log, ∃ supported, event = .improvement_gate supported) : GuardedLog log := by
  refine ⟨?_, fun event hevent => ?_⟩
  · induction log with
    | nil => trivial
    | cons event log ih =>
        obtain ⟨⟨supported, rfl⟩, hrest⟩ := List.forall_mem_cons.mp h
        exact ⟨nofun, (ih hrest).of_none⟩
  · obtain ⟨supported, rfl⟩ := h event hevent
    trivial

/-- The log of the agent stage, behind the report that lets it start. -/
theorem guardedLog_run_agent_stage (world : CycleWorld K) (settings : CycleSettings K)
    (config_path : String) (readiness : LoopReadiness) {preflight : PaperPreflight}
    (hpaper : preflight.status ∈ ["not_requested", "ready"]) :
    GuardedLog (.readiness config_path true
      :: (run_agent_stage texts world settings config_path readiness preflight).log) := by
  have hfirst : GuardedLog [.readiness config_path true] := by
    refine ⟨⟨nofun, trivial⟩, List.forall_mem_singleton.mpr trivial⟩
  have hstart : GuardedLog [.readiness config_path true,
      .agent_loop config_path settings.improvement_gate_path preflight.status] := by
    refine ⟨⟨nofun, fun needed hneeds => hneeds, trivial⟩, ?_⟩
    exact List.forall_mem_cons.mpr ⟨trivial, List.forall_mem_singleton.mpr hpaper⟩
  unfold run_agent_stage
  refine log_lift_bind (Q := fun log => GuardedLog (.readiness config_path true :: log)) hfirst
    fun base_payload _ => ?_
  rw [log_note_bind]
  have hgates : ∀ {log : List LoopEvent},
      (∀ event ∈ log, ∃ supported, event = .improvement_gate supported) →
        GuardedLog (.readiness config_path true
          :: .agent_loop config_path settings.improvement_gate_path preflight.status :: log) :=
    fun h => ⟨hstart.1.append (guardedLog_of_gates h).1,
      List.forall_mem_append.mpr ⟨hstart.2, (guardedLog_of_gates h).2⟩⟩
  refine hgates ?_
  -- what is left computes a report and logs its gate
  refine (logs_lift _).bind fun agent_loop_report => (logs_lift _).bind fun report_path =>
    (logs_lift _).bind fun ledger => (logs_lift _).bind fun gate => ?_
  refine (logs_notes fun event hevent => ?_).bind fun _ => logs_pure _
  obtain ⟨written, -, rfl⟩ := List.mem_map.mp hevent
  exact ⟨_, rfl⟩

theorem guardedLog_run_guarded_stages (world : CycleWorld K) (settings : CycleSettings K)
    (config_path : String) :
    GuardedLog (run_guarded_stages texts world settings config_path).log := by
  have hreport : ∀ eligible, GuardedLog [.readiness config_path eligible] := fun eligible =>
    ⟨⟨nofun, trivial⟩, List.forall_mem_singleton.mpr trivial⟩
  have hblocked : ∀ {eligible} (x : Except String (JsonObject K))
      (report : JsonObject K → CycleReport K),
      GuardedLog (.readiness config_path eligible
        :: (lift x >>= fun ledger => (pure (report ledger) : LoopRun (CycleReport K))).log) :=
    fun x report => log_lift_bind (Q := fun log => GuardedLog (_ :: log)) (hreport _)
      fun _ _ => hreport _
  unfold run_guarded_stages
  refine log_lift_bind guardedLog_nil fun study _ => ?_
  refine log_lift_bind guardedLog_nil fun readiness _ => ?_
  rw [log_note_bind]
  dsimp only
  cases heligible : readiness.eligible with
  | false => exact hblocked _ _
  | true =>
      rw [Bool.not_true, if_neg Bool.false_ne_true]
      by_cases hincomplete :
          (paper_feedback_preflight world.paper_file settings.paper).status = "incomplete"
      · rw [if_pos hincomplete]
        exact hblocked _ _
      · rw [if_neg hincomplete]
        refine guardedLog_run_agent_stage texts world settings config_path readiness ?_
        have hstatus := paper_feedback_preflight_status world.paper_file settings.paper
        simpa [hincomplete] using hstatus

/-- Whatever a cycle does, it starts the agent loop on a study that it has found eligible, with
complete paper feedback or with none. -/
theorem guardedLog_run_guarded_loop_cycle (world : CycleWorld K) (settings : CycleSettings K) :
    GuardedLog (run_guarded_loop_cycle texts world settings).log := by
  unfold run_guarded_loop_cycle
  refine log_lift_bind guardedLog_nil fun prepared _ => ?_
  cases prepared with
  | inl report => exact guardedLog_nil
  | inr config_path => exact guardedLog_run_guarded_stages texts world settings config_path

/-! ## What a supported cycle rests on -/

/-- A cycle whose gate supports a claim: what its study, its agent loop and the paper run have
shown. -/
structure SupportedCycle (thresholds : GateThresholds K) (report : CycleReport K) : Prop where
  readiness : ∃ readiness, report.readiness = some readiness ∧ readiness.eligible = true
    ∧ readiness.data_sufficiency.improvement_ready = true
  agent_loop : ∃ agent_loop_report, report.agent_loop = some agent_loop_report
  paper : ∃ preflight, report.paper_feedback_preflight = some preflight
    ∧ preflight.status = "ready"
  evidence : ∃ inputs gate, report.improvement_gate = some (inputs, gate)
    ∧ report.evidence_ledger = some inputs.ledger ∧ SupportingEvidence texts thresholds inputs

variable {texts}

omit [FloorRing K] in
theorem improvement_ready_of_data {report : DataSufficiency}
    (h : DataReady texts (report.to_dict : JsonObject K)) : report.improvement_ready = true :=
  h.improvement_ready

/-- What a gate that supports a claim was built from. -/
theorem cycle_improvement_gate_supported {world : CycleWorld K} {settings : CycleSettings K}
    {readiness : LoopReadiness} {ledger : JsonObject K} {inputs : GateInputs K}
    {gate : ImprovementGate}
    (h : cycle_improvement_gate texts world settings readiness ledger = .ok (some (inputs, gate)))
    (hsupported : gate.strategy_improvement_supported = true) :
    inputs.ledger = ledger ∧ readiness.data_sufficiency.improvement_ready = true
      ∧ settings.paper.provided ≠ []
      ∧ SupportingEvidence texts settings.thresholds inputs := by
  unfold cycle_improvement_gate at h
  split at h
  · rename_i dashboard_path postrun_path calibration_path hdashboard hpostrun hcalibration
    obtain ⟨dashboard, -, h⟩ := bind_ok h
    obtain ⟨postrun, -, h⟩ := bind_ok h
    obtain ⟨calibration, -, h⟩ := bind_ok h
    obtain ⟨gate', hgate, h⟩ := bind_ok h
    cases h
    have hevidence := evidence_of_supported hgate hsupported
    obtain ⟨_, hsome, hdata⟩ := hevidence.data
    cases hsome
    refine ⟨rfl, improvement_ready_of_data hdata, ?_, hevidence⟩
    simp [PaperPaths.provided, PaperPaths.inputs, hdashboard]
  · cases h

theorem run_agent_stage_supported {world : CycleWorld K} {settings : CycleSettings K}
    {config_path : String} {readiness : LoopReadiness} {report : CycleReport K}
    (heligible : readiness.eligible = true)
    (hcomplete : (paper_feedback_preflight world.paper_file settings.paper).status ≠ "incomplete")
    (h : (run_agent_stage texts world settings config_path readiness
      (paper_feedback_preflight world.paper_file settings.paper)).result = .ok report)
    (hsupported : report.strategy_improvement_supported = true) :
    SupportedCycle texts settings.thresholds report := by
  unfold run_agent_stage at h
  simp only [result_bind, result_lift, result_note, result_notes, result_pure] at h
  obtain ⟨base_payload, -, h⟩ := bind_ok h
  obtain ⟨-, -, h⟩ := bind_ok h
  obtain ⟨agent_loop_report, -, h⟩ := bind_ok h
  obtain ⟨report_path, -, h⟩ := bind_ok h
  obtain ⟨ledger, -, h⟩ := bind_ok h
  obtain ⟨gate, hgate, h⟩ := bind_ok h
  cases h
  cases gate with
  | none => cases hsupported
  | some gate =>
      obtain ⟨inputs, gate⟩ := gate
      obtain ⟨hledger, hready, hprovided, hevidence⟩ :=
        cycle_improvement_gate_supported hgate hsupported
      refine ⟨⟨readiness, rfl, heligible, hready⟩, ⟨agent_loop_report, rfl⟩, ⟨_, rfl, ?_⟩,
        inputs, gate, rfl, congrArg some hledger.symm, hevidence⟩
      unfold paper_feedback_preflight at hcomplete ⊢
      dsimp only at hcomplete ⊢
      rw [if_neg hprovided] at hcomplete ⊢
      by_contra hstatus
      split_ifs at hcomplete hstatus
      · exact hstatus rfl
      · exact hcomplete rfl

theorem run_guarded_stages_supported {world : CycleWorld K} {settings : CycleSettings K}
    {config_path : String} {report : CycleReport K}
    (h : (run_guarded_stages texts world settings config_path).result = .ok report)
    (hsupported : report.strategy_improvement_supported = true) :
    SupportedCycle texts settings.thresholds report := by
  unfold run_guarded_stages at h
  simp only [result_bind, result_lift, result_note] at h
  obtain ⟨study, -, h⟩ := bind_ok h
  obtain ⟨readiness, -, h⟩ := bind_ok h
  obtain ⟨-, -, h⟩ := bind_ok h
  cases heligible : readiness.eligible with
  | false =>
      rw [heligible, Bool.not_false, if_pos rfl, result_bind] at h
      obtain ⟨ledger, -, h⟩ := bind_ok h
      cases h
      cases hsupported
  | true =>
      rw [heligible, Bool.not_true, if_neg Bool.false_ne_true] at h
      by_cases hincomplete :
          (paper_feedback_preflight world.paper_file settings.paper).status = "incomplete"
      · rw [if_pos hincomplete, result_bind] at h
        obtain ⟨ledger, -, h⟩ := bind_ok h
        cases h
        cases hsupported
      · rw [if_neg hincomplete] at h
        exact run_agent_stage_supported heligible hincomplete h hsupported

/-- A cycle that supports a claim of improvement has the evidence for it. -/
theorem run_guarded_loop_cycle_supported {world : CycleWorld K} {settings : CycleSettings K}
    {report : CycleReport K} (h : (run_guarded_loop_cycle texts world settings).result = .ok report)
    (hsupported : report.strategy_improvement_supported = true) :
    SupportedCycle texts settings.thresholds report := by
  unfold run_guarded_loop_cycle at h
  simp only [result_bind, result_lift] at h
  obtain ⟨prepared, hprepared, h⟩ := bind_ok h
  cases prepared with
  | inr config_path => exact run_guarded_stages_supported h hsupported
  | inl ended =>
      -- a cycle that ends before its readiness report has no gate
      cases h
      unfold prepare_config at hprepared
      split at hprepared
      · cases hprepared
      · obtain ⟨verified, -, hprepared⟩ := bind_ok hprepared
        cases verified with
        | false =>
            cases hprepared
            cases hsupported
        | true =>
            obtain ⟨hydrated, -, hprepared⟩ := bind_ok hprepared
            cases hydrated with
            | false =>
                cases hprepared
                cases hsupported
            | true => cases hprepared

end ProofAlpha.App
