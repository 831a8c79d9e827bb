/-
The guarded loop: `app/guarded_loop.py`, `run_guarded_loop_repeat`.

The repeat runs cycle after cycle, each on the candidate that the one before it wrote, until one
is blocked, supports a claim or leaves no candidate that is ready (`guarded_repeat_chain`).
-/
import ProofAlpha.App.GuardedCycles

set_option autoImplicit false

namespace ProofAlpha.App

open ProofAlpha.Lib ProofAlpha.Lib.Traced

variable {K : Type} [Field K] [LinearOrder K] [FloorRing K] {texts : LoopTexts K}

/-! ## The repeat -/

/-- What varies in `GuardedLoopRepeatSettings`. -/
structure RepeatSettings (K : Type) [Field K] where
  output_dir : String
  study_dir : Option String := none
  config_path : Option String := none
  liquidations_path : Option String := none
  hydrated_config_path : Option String := none
  max_cycles : ℤ := 3
  paper : PaperPaths := {}
  thresholds : GateThresholds K := {}

/-- What a repeat finds outside of this module: the studies under a path, and what each cycle
finds. -/
structure RepeatWorld (K : Type) where
  iter_candidate_study_paths : String → List String
  load_study_config : String → Except String (LoopStudy K)
  cycle : ℕ → CycleWorld K

/-- A cycle of a repeat: its number, what it was given and what it reported. -/
structure CycleRun (K : Type) [Field K] where
  number : ℕ
  settings : CycleSettings K
  report : CycleReport K

/-- An entry of `candidate_readiness_reports`. -/
structure CandidateReadiness where
  config_path : String
  eligible : Bool
  blockers : List String

/-- The `guarded_loop_repeat_report`, without its scan and its advice. -/
structure RepeatReport (K : Type) [Field K] where
  status : String
  cycles : List (CycleRun K)
  candidate_readiness_reports : List CandidateReadiness

def RepeatReport.strategy_improvement_supported (report : RepeatReport K) : Bool :=
  report.cycles.any fun cycle => cycle.report.strategy_improvement_supported

/-- `output_dir / f"cycle-{number:03d}"`. -/
def cycle_dir (output_dir : String) (number : ℕ) : String :=
  output_dir ++ "/cycle-" ++ String.ofList ((Nat.toDigits 10 number).leftpad 3 '0')

/-- The settings of a cycle of a repeat. -/
def cycle_settings (settings : RepeatSettings K) (number : ℕ) (active_config : String)
    (improvement_gate_path : Option String) : CycleSettings K where
  config_path := active_config
  output_dir := cycle_dir settings.output_dir number
  liquidations_path := if number = 1 then settings.liquidations_path else none
  hydrated_config_path := if number = 1 then settings.hydrated_config_path else none
  improvement_gate_path := improvement_gate_path
  paper := settings.paper
  thresholds := settings.thresholds

/-- The candidate that a run of a ledger names. -/
def run_candidate : JsonValue K → Option String
  | .dict run =>
      if truthy (JsonObject.get run "next_candidate_exists") then
        match JsonObject.get run "next_candidate_path" with
        | .str path => if path = "" then none else some path
        | _ => none
      else none
  | _ => none

/-- `_next_candidate_from_cycle`. -/
def next_candidate_from_cycle (report : CycleReport K) : Option String :=
  match report.evidence_ledger with
  | none => none
  | some ledger =>
      match ledger.get "runs" with
      | .list runs => runs.findSome? run_candidate
      | _ => none

variable (texts)

/-- The loop of `run_guarded_loop_repeat` with `left` cycles to go. -/
def repeat_from (world : RepeatWorld K) (settings : RepeatSettings K) :
    ℕ → ℕ → String → Option String → LoopRun (RepeatReport K)
  | 0, _, _, _ => pure ⟨"completed_max_cycles", [], []⟩
  | left + 1, number, active_config, improvement_gate_path => do
      let cycle_settings := cycle_settings settings number active_config improvement_gate_path
      let report ← run_guarded_loop_cycle texts (world.cycle number) cycle_settings
      let cycle : CycleRun K := ⟨number, cycle_settings, report⟩
      if starts_with "blocked_" report.status then return ⟨report.status, [cycle], []⟩
      else if report.strategy_improvement_supported then
        return ⟨"completed_strategy_improvement_supported", [cycle], []⟩
      else
        match next_candidate_from_cycle report with
        | none => return ⟨"completed_no_next_candidate", [cycle], []⟩
        | some next_candidate_path => do
            let study ← lift ((world.cycle number).load_candidate next_candidate_path)
            let readiness ←
              lift (build_loop_readiness_report texts.toCompositeText study next_candidate_path)
            note (.candidate next_candidate_path readiness.eligible)
            let candidate : CandidateReadiness :=
              ⟨next_candidate_path, readiness.eligible, readiness.blockers⟩
            if !readiness.eligible then
              return ⟨"stopped_next_candidate_not_ready", [cycle], [candidate]⟩
            else do
              let rest ← repeat_from world settings left (number + 1) next_candidate_path
                report.improvement_gate_path
              return {
                status := rest.status
                cycles := cycle :: rest.cycles
                candidate_readiness_reports := candidate :: rest.candidate_readiness_reports }

/-- The eligible studies of `build_loop_readiness_scan`. -/
def eligible_studies (world : RepeatWorld K) (root : String) : List LoopReadiness :=
  (world.iter_candidate_study_paths root).filterMap fun config_path =>
    match world.load_study_config config_path >>= fun study =>
        build_loop_readiness_report texts.toCompositeText study config_path with
    | .ok report => if report.eligible then some report else none
    | .error _ => none

/-- `run_guarded_loop_repeat` from the first cycle on. -/
def run_cycles (world : RepeatWorld K) (settings : RepeatSettings K) (active_config : String) :
    LoopRun (RepeatReport K) := do
  let report ← repeat_from texts world settings settings.max_cycles.toNat 1 active_config none
  if report.cycles.isEmpty && settings.max_cycles ≤ 0 then
    return { report with status := "blocked_zero_cycle_budget" }
  else return report

/-- `run_guarded_loop_repeat`. -/
def run_guarded_loop_repeat (world : RepeatWorld K) (settings : RepeatSettings K) :
    LoopRun (RepeatReport K) :=
  match settings.config_path, settings.study_dir with
  | some config_path, _ => run_cycles texts world settings config_path
  | none, none => pure ⟨"blocked_missing_initial_study", [], []⟩
  | none, some study_dir =>
      match eligible_studies texts world study_dir with
      | [] => pure ⟨"blocked_no_eligible_study", [], []⟩
      | report :: _ => run_cycles texts world settings report.config_path

/-! ## A run of the repeat -/

/-- A log of a repeat, whether it raises or not. -/
theorem guardedLog_repeat_from (world : RepeatWorld K) (settings : RepeatSettings K) :
    ∀ (left number : ℕ) (active_config : String) (improvement_gate_path : Option String),
      GuardedLog
        (repeat_from texts world settings left number active_config improvement_gate_path).log
  | 0, _, _, _ => guardedLog_nil
  | left + 1, number, active_config, improvement_gate_path => by
      have hcandidate : ∀ path eligible, GuardedLog [.candidate path eligible] :=
        fun path eligible => ⟨⟨nofun, trivial⟩, List.forall_mem_singleton.mpr trivial⟩
      rw [repeat_from]
      refine (guardedLog_run_guarded_loop_cycle texts _ _).bind fun report => ?_
      dsimp only
      split_ifs with hblocked hsupported
      · exact guardedLog_nil
      · exact guardedLog_nil
      · cases hnext : next_candidate_from_cycle report with
        | none => exact guardedLog_nil
        | some path =>
            refine log_lift_bind guardedLog_nil fun study _ => ?_
            refine log_lift_bind guardedLog_nil fun readiness _ => ?_
            refine GuardedLog.bind (hcandidate path readiness.eligible) fun _ => ?_
            split_ifs with hready
            · exact guardedLog_nil
            · exact (guardedLog_repeat_from world settings left (number + 1) path _).bind fun _ =>
                guardedLog_nil

theorem guardedLog_run_cycles (world : RepeatWorld K) (settings : RepeatSettings K)
    (active_config : String) : GuardedLog (run_cycles texts world settings active_config).log := by
  unfold run_cycles
  refine (guardedLog_repeat_from texts world settings _ _ _ _).bind fun report => ?_
  split_ifs
  · exact guardedLog_nil
  · exact guardedLog_nil

theorem guardedLog_run_guarded_loop_repeat (world : RepeatWorld K) (settings : RepeatSettings K) :
    GuardedLog (run_guarded_loop_repeat texts world settings).log := by
  unfold run_guarded_loop_repeat
  split
  · exact guardedLog_run_cycles texts world settings _
  · exact guardedLog_nil
  · split
    · exact guardedLog_nil
    · exact guardedLog_run_cycles texts world settings _

/-! ## What a repeat reports -/

/-- A cycle that was run on the candidate of the one before it. -/
structure Continues (world : RepeatWorld K) (cycle next : CycleRun K) : Prop where
  number : next.number = cycle.number + 1
  not_blocked : starts_with "blocked_" cycle.report.status = false
  not_supported : cycle.report.strategy_improvement_supported = false
  candidate : next_candidate_from_cycle cycle.report = some next.settings.config_path
  ready : ∃ study readiness,
    (world.cycle cycle.number).load_candidate next.settings.config_path = .ok study
      ∧ build_loop_readiness_report texts.toCompositeText study next.settings.config_path
        = .ok readiness
      ∧ readiness.eligible = true
  gate : next.settings.improvement_gate_path = cycle.report.improvement_gate_path

/-- How the last cycle decides the status of a repeat. -/
inductive Decides (cycle : CycleRun K) : String → Prop where
  | blocked (h : starts_with "blocked_" cycle.report.status = true) :
      Decides cycle cycle.report.status
  | supported (hunblocked : starts_with "blocked_" cycle.report.status = false)
      (h : cycle.report.strategy_improvement_supported = true) :
      Decides cycle "completed_strategy_improvement_supported"
  | no_candidate (hunsupported : cycle.report.strategy_improvement_supported = false)
      (h : next_candidate_from_cycle cycle.report = none) :
      Decides cycle "completed_no_next_candidate"
  | not_ready (hunsupported : cycle.report.strategy_improvement_supported = false)
      (h : (next_candidate_from_cycle cycle.report).isSome = true) :
      Decides cycle "stopped_next_candidate_not_ready"
  | max_cycles (hunsupported : cycle.report.strategy_improvement_supported = false)
      (h : (next_candidate_from_cycle cycle.report).isSome = true) :
      Decides cycle "completed_max_cycles"

/-- The cycles of a repeat with `left` to go. -/
structure RanFrom (world : RepeatWorld K) (settings : RepeatSettings K) (left number : ℕ)
    (active_config : String) (improvement_gate_path : Option String) (report : RepeatReport K) :
    Prop where
  length : report.cycles.length ≤ left
  ran : ∀ cycle ∈ report.cycles,
    cycle.settings = cycle_settings settings cycle.number cycle.settings.config_path
        cycle.settings.improvement_gate_path
      ∧ (run_guarded_loop_cycle texts (world.cycle cycle.number) cycle.settings).result
        = .ok cycle.report
  first : ∀ cycle ∈ report.cycles.head?, cycle.number = number
    ∧ cycle.settings.config_path = active_config
    ∧ cycle.settings.improvement_gate_path = improvement_gate_path
  chain : report.cycles.IsChain (Continues texts world)
  last : ∀ cycle ∈ report.cycles.getLast?, Decides cycle report.status
  budget : report.status = "completed_max_cycles" → report.cycles.length = left
  empty : report.cycles = [] → left = 0 ∧ report.status = "completed_max_cycles"

variable {texts}

/-- A repeat that ends with its first cycle. -/
theorem RanFrom.of_last {world : RepeatWorld K} {settings : RepeatSettings K}
    {left number : ℕ} {active_config : String} {improvement_gate_path : Option String}
    {cycle_report : CycleReport K} {status : String} {candidates : List CandidateReadiness}
    (hran : (run_guarded_loop_cycle texts (world.cycle number)
      (cycle_settings settings number active_config improvement_gate_path)).result
        = .ok cycle_report)
    (hdecides : Decides ⟨number, cycle_settings settings number active_config
      improvement_gate_path, cycle_report⟩ status)
    (hbudget : status ≠ "completed_max_cycles") :
    RanFrom texts world settings (left + 1) number active_config improvement_gate_path
      ⟨status, [⟨number, cycle_settings settings number active_config improvement_gate_path,
        cycle_report⟩], candidates⟩ where
  length := by simp
  ran := List.forall_mem_singleton.mpr ⟨rfl, hran⟩
  first := by simp [cycle_settings]
  chain := .singleton _
  last := by simpa using hdecides
  budget := fun h => absurd h hbudget
  empty := fun h => absurd h (List.cons_ne_nil _ _)

/-- A repeat that goes on after its first cycle. -/
theorem RanFrom.cons {world : RepeatWorld K} {settings : RepeatSettings K}
    {left number : ℕ} {active_config : String} {improvement_gate_path : Option String}
    {cycle_report : CycleReport K} {path : String} {candidates : List CandidateReadiness}
    {rest : RepeatReport K}
    (hran : (run_guarded_loop_cycle texts (world.cycle number)
      (cycle_settings settings number active_config improvement_gate_path)).result
        = .ok cycle_report)
    (hunblocked : starts_with "blocked_" cycle_report.status = false)
    (hunsupported : cycle_report.strategy_improvement_supported = false)
    (hnext : next_candidate_from_cycle cycle_report = some path)
    (hready : ∃ study readiness, (world.cycle number).load_candidate path = .ok study
      ∧ build_loop_readiness_report texts.toCompositeText study path = .ok readiness
      ∧ readiness.eligible = true)
    (hrest : RanFrom texts world settings left (number + 1) path
      cycle_report.improvement_gate_path rest) :
    RanFrom texts world settings (left + 1) number active_config improvement_gate_path
      ⟨rest.status, ⟨number, cycle_settings settings number active_config improvement_gate_path,
        cycle_report⟩ :: rest.cycles, candidates⟩ where
  length := Nat.succ_le_succ hrest.length
  ran := List.forall_mem_cons.mpr ⟨⟨rfl, hran⟩, hrest.ran⟩
  first := by simp [cycle_settings]
  chain := by
    refine List.isChain_cons.mpr ⟨fun next hhead => ?_, hrest.chain⟩
    obtain ⟨hnumber, hconfig, hgate⟩ := hrest.first next hhead
    rw [← hconfig] at hnext hready
    exact ⟨hnumber, hunblocked, hunsupported, hnext, hready, hgate⟩
  last := by
    intro cycle hcycle
    rw [List.getLast?_cons, Option.mem_some_iff] at hcycle
    cases hlast : rest.cycles.getLast? with
    | none =>
        -- the budget is used up
        rw [hlast, Option.getD_none] at hcycle
        subst hcycle
        have hstatus := (hrest.empty (List.getLast?_eq_none_iff.mp hlast)).2
        rw [hstatus]
        exact .max_cycles hunsupported (by rw [hnext]; rfl)
    | some last =>
        rw [hlast, Option.getD_some] at hcycle
        subst hcycle
        exact hrest.last _ hlast
  budget := fun h => congrArg Nat.succ (hrest.budget h)
  empty := fun h => absurd h (List.cons_ne_nil _ _)

theorem repeat_from_ran {world : RepeatWorld K} {settings : RepeatSettings K} :
    ∀ {left number : ℕ} {active_config : String} {improvement_gate_path : Option String}
      {report : RepeatReport K},
      (repeat_from texts world settings left number active_config improvement_gate_path).result
        = .ok report →
      RanFrom texts world settings left number active_config improvement_gate_path report
  | 0, _, _, _, report, h => by
      cases h
      exact {
        length := le_rfl
        ran := List.forall_mem_nil _
        first := by simp
        chain := .nil
        last := by simp
        budget := fun _ => rfl
        empty := fun _ => ⟨rfl, rfl⟩ }
  | left + 1, number, active_config, improvement_gate_path, report, h => by
      rw [repeat_from, result_bind] at h
      obtain ⟨cycle_report, hcycle, h⟩ := bind_ok h
      dsimp only at h
      split_ifs at h with hblocked hsupported
      · cases h
        refine .of_last hcycle (.blocked hblocked) ?_
        rintro hstatus
        rw [hstatus] at hblocked
        exact absurd hblocked (by decide)
      · cases h
        exact .of_last hcycle (.supported (Bool.not_eq_true _ ▸ hblocked) hsupported) (by decide)
      · have hunblocked := Bool.eq_false_of_not_eq_true hblocked
        have hunsupported := Bool.eq_false_of_not_eq_true hsupported
        cases hnext : next_candidate_from_cycle cycle_report with
        | none =>
            rw [hnext] at h
            cases h
            exact .of_last hcycle (.no_candidate hunsupported hnext) (by decide)
        | some path =>
            have hsome : (next_candidate_from_cycle cycle_report).isSome = true := by
              rw [hnext]
              rfl
            rw [hnext] at h
            simp only [result_bind, result_lift, result_note] at h
            obtain ⟨study, hstudy, h⟩ := bind_ok h
            obtain ⟨readiness, hreadiness, h⟩ := bind_ok h
            obtain ⟨-, -, h⟩ := bind_ok h
            split_ifs at h with hready
            · cases h
              exact .of_last hcycle (.not_ready hunsupported hsome) (by decide)
            · rw [result_bind] at h
              obtain ⟨rest, hrest, h⟩ := bind_ok h
              cases h
              refine .cons hcycle hunblocked hunsupported hnext
                ⟨study, readiness, hstudy, hreadiness, ?_⟩ (repeat_from_ran hrest)
              simpa using hready

/-- A repeat that made a cycle ran them one after the other. -/
theorem run_guarded_loop_repeat_ran {world : RepeatWorld K} {settings : RepeatSettings K}
    {report : RepeatReport K}
    (h : (run_guarded_loop_repeat texts world settings).result = .ok report)
    (hcycles : report.cycles ≠ []) :
    ∃ active_config, RanFrom texts world settings settings.max_cycles.toNat 1 active_config none
      report := by
  have hrun : ∀ {active_config},
      (run_cycles texts world settings active_config).result = .ok report →
        RanFrom texts world settings settings.max_cycles.toNat 1 active_config none report := by
    intro active_config h
    unfold run_cycles at h
    rw [result_bind] at h
    obtain ⟨done, hdone, h⟩ := bind_ok h
    split_ifs at h with hempty
    · cases h
      have hnone : done.cycles.isEmpty = true := (Bool.and_eq_true_iff.mp hempty).1
      exact absurd (List.isEmpty_iff.mp hnone) hcycles
    · cases h
      exact repeat_from_ran hdone
  unfold run_guarded_loop_repeat at h
  split at h
  · exact ⟨_, hrun h⟩
  · cases h
    exact absurd rfl hcycles
  · split at h
    · cases h
      exact absurd rfl hcycles
    · exact ⟨_, hrun h⟩

/-- Only the last cycle of a repeat can support a claim. -/
theorem RanFrom.supported_iff {world : RepeatWorld K} {settings : RepeatSettings K}
    {left number : ℕ} {active_config : String} {improvement_gate_path : Option String}
    {report : RepeatReport K}
    (h : RanFrom texts world settings left number active_config improvement_gate_path report) :
    report.strategy_improvement_supported = true
      ↔ ∃ last, report.cycles.getLast? = some last
          ∧ last.report.strategy_improvement_supported = true := by
  unfold RepeatReport.strategy_improvement_supported
  rw [List.any_eq_true]
  constructor
  · rintro ⟨cycle, hcycle, hsupported⟩
    obtain ⟨before, after, hsplit⟩ := List.append_of_mem hcycle
    cases after with
    | nil => exact ⟨cycle, by rw [hsplit, List.getLast?_concat], hsupported⟩
    | cons next after =>
        have hchain := h.chain
        rw [hsplit] at hchain
        have hnext := (List.isChain_append_cons_cons.mp hchain).2.1
        exact absurd hsupported (by simp [hnext.not_supported])
  · rintro ⟨last, hlast, hsupported⟩
    exact ⟨last, List.mem_of_getLast? hlast, hsupported⟩

/-- The last cycle of a repeat that supports a claim. -/
theorem RanFrom.supported_cycle {world : RepeatWorld K} {settings : RepeatSettings K}
    {left number : ℕ} {active_config : String} {improvement_gate_path : Option String}
    {report : RepeatReport K} {last : CycleRun K}
    (h : RanFrom texts world settings left number active_config improvement_gate_path report)
    (hlast : report.cycles.getLast? = some last)
    (hsupported : last.report.strategy_improvement_supported = true) :
    SupportedCycle texts settings.thresholds last.report := by
  obtain ⟨hsettings, hresult⟩ := h.ran last (List.mem_of_getLast? hlast)
  have hevidence := run_guarded_loop_cycle_supported hresult hsupported
  rwa [hsettings] at hevidence

/-- Texts that are no numbers. -/
def plain_loop_texts : LoopTexts ℚ where
  toCompositeText := plain_composite
  parse_float := fun _ => none

/-- The artifacts of a healthy paper run, in one object. -/
def healthy_paper : JsonObject ℚ :=
  [("status", .str "completed"),
    ("orders", .dict [("order_count", .int 10), ("max_abs_slip_bps", .int 1)]),
    ("pnl", .dict [("telemetry_quality_score", .int 1)]),
    ("calibration_readiness",
      .dict [("ready_for_model_update", .bool true), ("sample_count", .int 10)]),
    ("model_update_allowed", .bool true),
    ("sample_count", .int 10)]

/-- Every study is `strict_study`, and the agent loop promotes a run of it. -/
def strict_cycle : CycleWorld ℚ where
  verify_study_liquidations := fun _ _ => .error "not used"
  hydrate_study_liquidations := fun _ _ _ => .error "not used"
  load_study_config := fun _ => .ok strict_study
  paper_file := fun _ => .json (.dict healthy_paper)
  read_payload := fun _ => .ok []
  agent_loop := fun _ _ _ => .ok [("report_path", .str "agent-loop.json")]
  build_loop_evidence_ledger := fun _ _ _ => .ok [("promoted_run_count", .int 1),
    ("runs", .list [.dict [("next_candidate_exists", .bool true),
      ("next_candidate_path", .str "next.json")]])]
  load_object := fun _ => .ok healthy_paper
  load_candidate := fun _ => .ok strict_study

def strict_world : RepeatWorld ℚ where
  iter_candidate_study_paths := fun _ => ["study.json"]
  load_study_config := fun _ => .ok strict_study
  cycle := fun _ => strict_cycle

/-- Two cycles without paper feedback. -/
def two_cycles : RepeatSettings ℚ where
  output_dir := "out"
  study_dir := some "studies"
  max_cycles := 2

end ProofAlpha.App
