/-
The agent loop (src/engine/agent/controller.py), with the working payload file
of src/engine/agent/karpathy_target.py.

The planner, the materializer, the validator, the memory updater and the
refinement planner are functions of the context that may raise; a callable with
a state of its own is a function of the iteration number in the context. The
event log and the artifacts that are written after the loop are left out, as is
what only they read.
-/
import ProofAlpha.Agent.Scratchpad
import ProofAlpha.Lib.CanonicalJson
import ProofAlpha.Lib.GuardedLoop

set_option autoImplicit false

namespace ProofAlpha.Agent

open ProofAlpha.Lib

variable {F K : Type}

/-! ## Settings -/

/-- `AgentLoopSettings`. -/
structure AgentLoopSettings where
  objective : String := "maximize_validation_score"
  loop_mode : String := "auto"
  karpathy_target_kind : String := "json_config"
  max_iterations : ℤ := 3
  run_budget : ℤ := 3
  max_stagnation_rounds : ℤ := 2
  max_duplicate_baseline_plateau_rounds : ℤ := 2
  max_repeated_regime_failures : ℤ := 3
  max_repeated_scenario_failures : ℤ := 3

/-- `_resolve_effective_loop_mode`. -/
def resolve_effective_loop_mode (settings : AgentLoopSettings) (initial_payload : Payload K) :
    LoopMode × String :=
  let requested_mode := if settings.loop_mode = "" then "bounded" else settings.loop_mode
  if requested_mode = "karpathy" then (.karpathy, "explicit_karpathy_requested")
  else if requested_mode = "bounded" then (.bounded, "explicit_bounded_requested")
  else if settings.karpathy_target_kind = "python_source" then
    (.karpathy, "auto_selected_karpathy_python_source_target")
  else
    match initial_payload.get "karpathy_target_kind" with
    | .str "python_source" => (.karpathy, "auto_selected_karpathy_python_source_payload")
    | _ => (.bounded, "auto_selected_bounded_standard_study_loop")

/-! ## What the callbacks see and return -/

/-- The context of an iteration. -/
structure LoopContext (K : Type) where
  iteration : ℕ
  root_run_id : String
  payload : Payload K
  scratchpad : ResearchScratchpad K
  settings : AgentLoopSettings
  loop_mode : LoopMode
  loop_mode_selection_reason : String
  trace_advisory_summary : Payload K
  follow_up_queue : List (Payload K)
  validation_result : Option (Payload K) := none

/-- The five callbacks of the controller. -/
structure Callbacks (K : Type) where
  planner : LoopContext K → Except String (Payload K)
  materializer : LoopContext K → Payload K → Except String (Payload K)
  validator : LoopContext K → Payload K → Except String (Payload K)
  memory_updater : LoopContext K → LoopIterationResult K → Except String (Payload K)
  refinement_planner :
    LoopContext K → LoopIterationResult K → Payload K → Except String (Payload K)

/-- The file that carries the payload from one iteration to the next in karpathy mode: `load`
is `load_karpathy_working_payload`, `write` is `write_karpathy_working_payload` and what it
leaves in the file. -/
structure WorkingTarget (F K : Type) where
  load : ℕ → Payload K → F → Except String (Option (Payload K))
  write : Payload K → F → F × Except String Unit

/-- What the loop is given. -/
structure LoopEnvironment (F K : Type) where
  settings : AgentLoopSettings
  callbacks : Callbacks K
  target : WorkingTarget F K
  /-- `_build_upstream_adaptation_summary` on runs that are there. -/
  linked_resource_summary : List String → Except String (Payload K)
  trace_advisory_summary : Payload K
  initial_payload : Payload K
  /-- `str(value)` of a float, a list or a dict. -/
  composite_text : JsonValue (PyFloat K) → String
  /-- `float(n)` of an integer, which raises when it is too large. -/
  float_of_int : ℤ → Except String (PyFloat K)

/-! ## Reading a validation result -/

/-- The texts of a list. -/
def str_items (items : List (JsonValue (PyFloat K))) : List String :=
  items.filterMap fun item =>
    match item with
    | .str s => some s
    | _ => none

/-- `_coerce_str_list`. -/
def coerce_str_list : JsonValue (PyFloat K) → List String
  | .list items => str_items items
  | _ => []

/-- `_CONTROLLED_FAILURE_TAXONOMY`. -/
def CONTROLLED_FAILURE_TAXONOMY : List String :=
  ["resource_license_risk", "upstream_provenance_gap", "data_quality_failure",
    "venue_profile_gap", "liquidation_realism_failure", "insufficient_backtest_length",
    "multiple_testing_failure", "overfit_high_pbo", "holdout_failure", "stress_failure",
    "regime_brittleness", "agent_schema_violation", "catalog_violation", "forecast_unavailable",
    "forecast_leakage", "forecast_baseline_failure"]

/-- `_coerce_failure_taxonomy`. -/
def coerce_failure_taxonomy (raw : JsonValue (PyFloat K)) : List String :=
  CONTROLLED_FAILURE_TAXONOMY.filter fun label => label ∈ coerce_str_list raw

namespace LoopEnvironment

variable (env : LoopEnvironment F K)

/-- `_to_float_or_none`. -/
def to_float_or_none : JsonValue (PyFloat K) → Except String (Option (PyFloat K))
  | .int n => (env.float_of_int n).map some
  | .float x => .ok (some x)
  | _ => .ok none

/-- `str(value)`. -/
def text (value : JsonValue (PyFloat K)) : String := py_str env.composite_text value

/-- `[str(value) for value in values]` of a list, nothing otherwise. -/
def id_list : JsonValue (PyFloat K) → List String
  | .list items => items.map env.text
  | _ => []

/-- `str(value)` of a text, `None` otherwise. -/
def str_or_none : JsonValue (PyFloat K) → Option String
  | .str s => some s
  | _ => none

/-- `_normalize_iteration_result`. -/
def normalize_iteration_result (iteration : ℕ) (payload : Payload K) :
    Except String (LoopIterationResult K) := do
  let objective_score ← env.to_float_or_none (payload.get "objective_score")
  let metric_value ← env.to_float_or_none (payload.get "metric_value")
  let duplicate_baseline_score ← env.to_float_or_none (payload.get "duplicate_baseline_score")
  .ok {
    iteration := iteration
    run_ids := env.id_list (payload.get "run_ids")
    promoted_run_ids := env.id_list (payload.get "promoted_run_ids")
    validation_status := env.text (payload.get_or "status" (.str "unknown"))
    objective_score := objective_score
    metric_name := str_or_none (payload.get "metric_name")
    metric_value := metric_value
    metric_direction := str_or_none (payload.get "metric_direction")
    failed_gates := coerce_str_list (payload.get "failed_gates")
    regime_failure_labels := coerce_str_list (payload.get "regime_failure_labels")
    scenario_failure_names := coerce_str_list (payload.get "scenario_failure_names")
    failure_taxonomy := coerce_failure_taxonomy (payload.get "failure_taxonomy")
    duplicate_baseline_score := duplicate_baseline_score
    next_hypotheses := coerce_str_list (payload.get "next_hypotheses") }

/-- `_build_upstream_adaptation_summary`. -/
def build_upstream_adaptation_summary (run_ids : List String) : Except String (Payload K) :=
  if run_ids = [] then .ok [] else env.linked_resource_summary run_ids

end LoopEnvironment

section Governance

variable [DecidableEq K] [Zero K]

/-- `list(value)` of a list that is there. -/
def list_or_empty : JsonValue (PyFloat K) → JsonValue (PyFloat K)
  | .list items => .list items
  | _ => .list []

/-- What `_augment_validation_result_with_upstream_governance` does with a summary. -/
def with_upstream_governance (updated summary : Payload K) : Payload K :=
  let memory_summary : Payload K :=
    match updated.get "memory_summary" with
    | .dict fields => fields
    | _ => []
  let has_blocked_resources := truthy (summary.get_or "blocked_resource_count" (.int 0))
  let has_provenance_gaps := truthy (summary.get_or "provenance_gap_count" (.int 0))
  let upstream_governance : Payload K :=
    [("has_blocked_resources", .bool has_blocked_resources),
      ("has_provenance_gaps", .bool has_provenance_gaps),
      ("blocked_resource_ids", list_or_empty (summary.get "blocked_resource_ids")),
      ("provenance_gap_resource_ids", list_or_empty (summary.get "provenance_gap_resource_ids")),
      ("recommended_stop_reason", summary.get "recommended_stop_reason")]
  let memory_summary := memory_summary.set "upstream_adaptation_summary" (.dict summary)
  let memory_summary := memory_summary.set "upstream_governance" (.dict upstream_governance)
  let labels := coerce_str_list (updated.get "failure_taxonomy")
    ++ (if has_blocked_resources then ["resource_license_risk"] else [])
    ++ (if has_provenance_gaps then ["upstream_provenance_gap"] else [])
  let updated := updated.set "memory_summary" (.dict memory_summary)
  updated.set "failure_taxonomy"
    (.list ((CONTROLLED_FAILURE_TAXONOMY.filter fun label => label ∈ labels).map .str))

/-- `_augment_validation_result_with_upstream_governance`. -/
def augment_validation_result (env : LoopEnvironment F K) (validation_result : Payload K) :
    Except String (Payload K) := do
  let summary ← env.build_upstream_adaptation_summary
    (coerce_str_list (validation_result.get "run_ids"))
  .ok (if summary.isEmpty then validation_result
    else with_upstream_governance validation_result summary)

end Governance

/-! ## Advisory notes -/

/-- `_dedupe_strings`. -/
def dedupe_strings (values : List String) : List String :=
  values.foldl (fun result value => if value ≠ "" ∧ value ∉ result then result ++ [value] else result)
    []

/-- `_TAXONOMY_ACTION_HINTS`. -/
def TAXONOMY_ACTION_HINTS : List (String × String) :=
  [("resource_license_risk", "review_upstream_license_boundary"),
    ("upstream_provenance_gap", "repair_upstream_provenance"),
    ("data_quality_failure", "repair_snapshot_quality"),
    ("venue_profile_gap", "complete_venue_profile"),
    ("liquidation_realism_failure", "tighten_liquidation_realism"),
    ("insufficient_backtest_length", "extend_backtest_window"),
    ("multiple_testing_failure", "reduce_multiple_testing_risk"),
    ("overfit_high_pbo", "reduce_overfit_risk"),
    ("holdout_failure", "raise_holdout_robustness"),
    ("stress_failure", "harden_stress_scenarios"),
    ("regime_brittleness", "improve_regime_coverage"),
    ("agent_schema_violation", "repair_agent_schema"),
    ("catalog_violation", "repair_catalog_bounds"),
    ("forecast_unavailable", "skip_or_cache_forecast_feature"),
    ("forecast_leakage", "repair_forecast_timing_contract"),
    ("forecast_baseline_failure", "compare_forecast_against_baselines")]

/-- `_merge_trace_advisory_next_hypotheses`. -/
def merge_trace_advisory_next_hypotheses (existing : List String)
    (trace_advisory_summary : Payload K) : List String :=
  dedupe_strings (existing
    ++ coerce_str_list (trace_advisory_summary.get "next_hypotheses")
    ++ (coerce_str_list (trace_advisory_summary.get "failure_taxonomy_hints")).filterMap
        (fun label => TAXONOMY_ACTION_HINTS.lookup label)
    ++ (coerce_str_list (trace_advisory_summary.get "planner_notes")).map
        (fun note => "trace_advisory_note:" ++ note))

/-- The texts as a JSON list. -/
def str_list (values : List String) : JsonValue (PyFloat K) := .list (values.map .str)

/-- `_merge_trace_advisory_into_memory_summary`. -/
def merge_trace_advisory_into_memory_summary (memory_summary trace_advisory_summary : Payload K) :
    Payload K :=
  if trace_advisory_summary.isEmpty then memory_summary
  else
    let merged := memory_summary.set "trace_advisory" (.dict trace_advisory_summary)
    let merged := merged.set "failure_taxonomy_hints" (str_list (dedupe_strings
      (coerce_str_list (merged.get "failure_taxonomy_hints")
        ++ coerce_str_list (trace_advisory_summary.get "failure_taxonomy_hints"))))
    merged.set "next_hypotheses" (str_list (merge_trace_advisory_next_hypotheses
      (coerce_str_list (merged.get "next_hypotheses")) trace_advisory_summary))

/-- `_apply_trace_advisory_to_next_payload`. -/
def apply_trace_advisory_to_next_payload (next_payload trace_advisory_summary : Payload K)
    (next_hypotheses : List String) : Payload K :=
  if trace_advisory_summary.isEmpty then next_payload
  else
    let research_hypotheses : Payload K :=
      match next_payload.get "research_hypotheses" with
      | .dict fields => fields
      | _ => []
    let research_hypotheses := research_hypotheses.set "next_hypotheses"
      (str_list (dedupe_strings
        (coerce_str_list (research_hypotheses.get "next_hypotheses") ++ next_hypotheses)))
    let research_hypotheses := research_hypotheses.set "trace_advisory" (.dict
      [("failure_taxonomy_hints",
          str_list (coerce_str_list (trace_advisory_summary.get "failure_taxonomy_hints"))),
        ("planner_notes",
          str_list (coerce_str_list (trace_advisory_summary.get "planner_notes")))])
    next_payload.set "research_hypotheses" (.dict research_hypotheses)

/-! ## The working payload file -/

/-- What is in the working payload file of a `json_config` target. -/
inductive WorkingFile (K : Type) where
  | missing
  | malformed
  | json (value : JsonValue (PyFloat K))

/-- What `json.loads` reads of a payload that was written with sorted keys. -/
def reread (payload : Payload K) : Payload K := by_key (sort_keys_fields payload)

/-- `load_karpathy_working_payload` and `write_karpathy_working_payload` of a `json_config`
target. -/
def json_config_target : WorkingTarget (WorkingFile K) K where
  load _ _ file :=
    match file with
    | .missing => .ok none
    | .malformed => .error "JSONDecodeError"
    | .json (.dict payload) => .ok (some payload)
    | .json _ => .error "Karpathy working payload must be a JSON object"
  write payload _ := (.json (.dict (reread payload)), .ok ())

/-! ## Keep or discard -/

/-- The decisions of karpathy mode. -/
inductive Decision where
  | keep
  | discard
deriving DecidableEq

/-- What `_build_karpathy_summary` says about the last iteration. -/
structure KarpathySummary (K : Type) where
  objective : String
  decision : Decision
  reason : String
  validation_status : String
  metric_name : String
  metric_value : Option (PyFloat K)
  metric_direction : Option String
  candidate_run_ids : List String
  candidate_score : Option (PyFloat K)
  incumbent_run_ids : List String
  incumbent_score : Option (PyFloat K)
  kept_run_ids : List String
  kept_score : Option (PyFloat K)

/-- What `_build_karpathy_decision_entry` adds to the summary. -/
structure KarpathyDecisionEntry (K : Type) where
  summary : KarpathySummary K
  iteration : ℕ
  proposed_next_payload_run_id : Option String
  selected_next_payload_run_id : Option String

section Decisions

variable [LinearOrder K] [Zero K]

/-- `_best_scored_result`; a best score of zero compares as `-inf`. -/
def best_scored_result (results : List (LoopIterationResult K)) :
    Option (LoopIterationResult K) :=
  results.foldl (fun best_result result =>
    match result.objective_score, best_result with
    | none, _ => best_result
    | some _, none => some result
    | some score, some best =>
        let best_score := best.objective_score.getD .neg_inf
        let best_score := if best_score = 0 then .neg_inf else best_score
        if score.gt best_score then some result else best_result) none

/-- The decision, its reason and the result that is kept. -/
def karpathy_decision (candidate : LoopIterationResult K)
    (incumbent : Option (LoopIterationResult K)) :
    Decision × String × Option (LoopIterationResult K) :=
  match candidate.objective_score, incumbent.bind LoopIterationResult.objective_score with
  | none, _ => (.discard, "missing_objective_score", incumbent)
  | some _, none => (.keep, "first_scored_run", some candidate)
  | some candidate_score, some incumbent_score =>
      if candidate_score.gt incumbent_score then (.keep, "objective_improved", some candidate)
      else (.discard, "objective_not_improved", incumbent)

/-- `_build_karpathy_summary` of at least one result. -/
def build_karpathy_summary (settings : AgentLoopSettings)
    (earlier : List (LoopIterationResult K)) (candidate : LoopIterationResult K) :
    KarpathySummary K :=
  let incumbent := best_scored_result earlier
  let verdict := karpathy_decision candidate incumbent
  { objective := settings.objective
    decision := verdict.1
    reason := verdict.2.1
    validation_status := candidate.validation_status
    metric_name := if candidate.metric_name.getD "" = "" then settings.objective
      else candidate.metric_name.getD ""
    metric_value := candidate.metric_value.or candidate.objective_score
    metric_direction := candidate.metric_direction
    candidate_run_ids := candidate.run_ids
    candidate_score := candidate.objective_score
    incumbent_run_ids := (incumbent.map LoopIterationResult.run_ids).getD []
    incumbent_score := incumbent.bind LoopIterationResult.objective_score
    kept_run_ids := (verdict.2.2.map LoopIterationResult.run_ids).getD []
    kept_score := verdict.2.2.bind LoopIterationResult.objective_score }

end Decisions

/-! ## One iteration -/

/-- The variables of `AgentLoopController.run` that live across iterations. -/
structure LoopState (F K : Type) where
  scratchpad : ResearchScratchpad K
  current_payload : Payload K
  iteration_results : List (LoopIterationResult K) := []
  follow_up_queue : List (Payload K) := []
  karpathy_kept_next_payload : Option (Payload K) := none
  karpathy_decisions : List (KarpathyDecisionEntry K) := []
  file : F

/-- The local variables of an iteration that a reader asks about afterwards: the payload of its
context, the summary, the payload the refinement proposed and the one selected. -/
structure IterationReport (K : Type) where
  payload : Payload K
  karpathy_summary : Option (KarpathySummary K) := none
  proposed_next_payload : Option (Payload K) := none
  selected_current_payload : Option (Payload K) := none

namespace LoopState

/-- `record_iteration` and the append to `iteration_results`. -/
def record [LinearOrder K] (st : LoopState F K) (result : LoopIterationResult K) : LoopState F K :=
  { st with
    scratchpad := st.scratchpad.record_iteration result
    iteration_results := st.iteration_results ++ [result] }

/-- The memory summary goes into the scratchpad. -/
def note_memory_summary (st : LoopState F K) (memory_summary : Payload K) : LoopState F K :=
  { st with scratchpad := { st.scratchpad with latest_memory_summary := memory_summary } }

/-- What the handler does once the iteration is recorded. -/
def after_crash (st : LoopState F K) : LoopState F K :=
  match st.follow_up_queue with
  | payload :: rest => { st with current_payload := payload, follow_up_queue := rest }
  | [] => { st with scratchpad := { st.scratchpad with stop_reason := some "pipeline_crash" } }

end LoopState

/-- The dicts of a list. -/
def dict_items (items : List (JsonValue (PyFloat K))) : List (Payload K) :=
  items.filterMap fun item =>
    match item with
    | .dict fields => some fields
    | _ => none

namespace LoopEnvironment

variable (env : LoopEnvironment F K)

/-- The effective loop mode. -/
def loop_mode : LoopMode := (resolve_effective_loop_mode env.settings env.initial_payload).1

/-- The current payload after `_load_karpathy_working_payload`. -/
def load_working_payload (iteration : ℕ) (st : LoopState F K) : Except String (Payload K) :=
  match env.loop_mode with
  | .bounded => .ok st.current_payload
  | .karpathy =>
      (env.target.load iteration st.current_payload st.file).map fun working_payload =>
        working_payload.getD st.current_payload

/-- `_build_context`. -/
def build_context (iteration : ℕ) (st : LoopState F K) : LoopContext K where
  iteration := iteration
  root_run_id := env.text (env.initial_payload.get_or "run_id" (.str "agent-loop"))
  payload := st.current_payload
  scratchpad := st.scratchpad
  settings := env.settings
  loop_mode := env.loop_mode
  loop_mode_selection_reason := (resolve_effective_loop_mode env.settings env.initial_payload).2
  trace_advisory_summary := env.trace_advisory_summary
  follow_up_queue := st.follow_up_queue

/-- The result that stands for an iteration that raised before it had one. -/
def crashed_result (iteration : ℕ) (st : LoopState F K) : LoopIterationResult K where
  iteration := iteration
  run_ids :=
    [env.text (st.current_payload.get_or "run_id" (.str ("crash-iter-" ++ toString iteration)))]
  promoted_run_ids := []
  validation_status := "failed"

/-- The next hypotheses after a refinement. -/
def noted_next_hypotheses (scratchpad : ResearchScratchpad K) (refinement : Payload K) :
    List String :=
  match refinement.get "next_hypotheses" with
  | .list items =>
      merge_trace_advisory_next_hypotheses (str_items items) env.trace_advisory_summary
  | _ =>
      if env.trace_advisory_summary.isEmpty then scratchpad.next_hypotheses
      else merge_trace_advisory_next_hypotheses [] env.trace_advisory_summary

/-- The stop reason after a refinement: an explicit one counts. -/
def noted_stop_reason (scratchpad : ResearchScratchpad K) (refinement : Payload K) :
    Option String :=
  match refinement.get "stop_reason" with
  | .str explicit_stop_reason =>
      if explicit_stop_reason = "" then scratchpad.stop_reason else some explicit_stop_reason
  | _ => scratchpad.stop_reason

/-- The payloads that a refinement queues. -/
def queued_payloads (refinement : Payload K) : List (Payload K) :=
  match refinement.get "queued_payloads" with
  | .list items => dict_items items
  | _ => []

/-- The next payload that a refinement proposes, with the advisory notes applied. -/
def proposed_next_payload (scratchpad : ResearchScratchpad K) (refinement : Payload K) :
    Option (Payload K) :=
  match refinement.get "next_payload" with
  | .dict next_payload =>
      some (apply_trace_advisory_to_next_payload next_payload env.trace_advisory_summary
        scratchpad.next_hypotheses)
  | _ => none

/-- `str(payload.get("run_id"))` of a payload that has one. -/
def run_id_of (payload : Option (Payload K)) : Option String :=
  payload.bind fun payload =>
    match payload.get "run_id" with
    | .null => none
    | run_id => some (env.text run_id)

variable [LinearOrder K] [Zero K]

/-- Planning, materializing, validating and normalizing. -/
def validate (context : LoopContext K) :
    Except String (Payload K × LoopIterationResult K) := do
  let plan ← env.callbacks.planner context
  let materialized ← env.callbacks.materializer context plan
  let validation_result ← env.callbacks.validator context materialized
  let validation_result ← augment_validation_result env validation_result
  let iteration_result ← env.normalize_iteration_result context.iteration validation_result
  .ok (validation_result, iteration_result)

/-- The karpathy selection: what becomes of the proposal, of the remembered proposal and of the
decisions. -/
def select_next_payload (st : LoopState F K) (result : LoopIterationResult K)
    (earlier : List (LoopIterationResult K)) (proposed : Option (Payload K)) :
    LoopState F K × Option (KarpathySummary K) × Option (Payload K) :=
  match env.loop_mode with
  | .bounded => (st, none, proposed)
  | .karpathy =>
      let summary := build_karpathy_summary env.settings earlier result
      let next_payload :=
        match proposed, st.karpathy_kept_next_payload with
        | some proposal, some kept => some (if summary.decision = .discard then kept else proposal)
        | _, _ => proposed
      let kept :=
        match proposed, st.karpathy_kept_next_payload with
        | some proposal, some kept => some (if summary.decision = .discard then kept else proposal)
        | some proposal, none => some proposal
        | none, kept => kept
      let decision_entry : KarpathyDecisionEntry K :=
        { summary := summary
          iteration := result.iteration
          proposed_next_payload_run_id := env.run_id_of proposed
          selected_next_payload_run_id := env.run_id_of next_payload }
      ({ st with
          karpathy_kept_next_payload := kept
          karpathy_decisions := st.karpathy_decisions ++ [decision_entry] },
        some summary, next_payload)

/-- The scratchpad of an iteration that found no next payload: it stops the loop when the
refinement says not to go on and no other reason is known. -/
def refinement_stopped (scratchpad : ResearchScratchpad K) (refinement : Payload K) :
    ResearchScratchpad K :=
  { scratchpad with
    stop_reason :=
      match refinement.get "continue", scratchpad.stop_reason with
      | .bool false, none => some "refinement_stopped"
      | _, stop_reason => stop_reason }

/-- The payload for the next iteration: the next payload, else the first one of the queue, else
none. -/
def select_current_payload (st : LoopState F K) (refinement : Payload K)
    (next_payload : Option (Payload K)) : LoopState F K × Option (Payload K) :=
  match next_payload with
  | some payload => ({ st with current_payload := payload }, some payload)
  | none =>
      match st.follow_up_queue with
      | payload :: rest =>
          ({ st with current_payload := payload, follow_up_queue := rest }, some payload)
      | [] => ({ st with scratchpad := refinement_stopped st.scratchpad refinement }, none)

/-- `_write_karpathy_working_payload`, whose failure counts as a crash. -/
def write_working_payload (st : LoopState F K) (selected : Option (Payload K)) : LoopState F K :=
  match env.loop_mode with
  | .bounded => st
  | .karpathy =>
      match selected with
      | none => st
      | some payload =>
          match env.target.write payload st.file with
          | (file, .ok ()) => { st with file := file }
          | (file, .error _) => { st with file := file }.after_crash

/-- What a crash and the selection of a payload move is not read: the current payload, the
queue, the stop reason and the file. -/
structure SkipsSelection {β : Type} (read : LoopState F K → β) : Prop where
  payload : ∀ st payload queue,
    read { st with current_payload := payload, follow_up_queue := queue } = read st
  stop_reason : ∀ st reason,
    read { st with scratchpad := { st.scratchpad with stop_reason := reason } } = read st
  file : ∀ st file, read { st with file := file } = read st

namespace SkipsSelection

variable {env} {β : Type} {read : LoopState F K → β}

omit [LinearOrder K] [Zero K] in
theorem after_crash (h : SkipsSelection read) (st : LoopState F K) :
    read st.after_crash = read st := by
  rw [LoopState.after_crash]
  split
  · exact h.payload st _ _
  · exact h.stop_reason st (some "pipeline_crash")

omit [LinearOrder K] [Zero K] in
theorem select_current_payload (h : SkipsSelection read) (st : LoopState F K)
    (refinement : Payload K) (next_payload : Option (Payload K)) :
    read (LoopEnvironment.select_current_payload st refinement next_payload).1 = read st := by
  unfold LoopEnvironment.select_current_payload
  cases next_payload with
  | some payload => exact h.payload st payload st.follow_up_queue
  | none =>
      dsimp only
      split
      · exact h.payload st _ _
      · exact h.stop_reason st (refinement_stopped st.scratchpad refinement).stop_reason

omit [LinearOrder K] [Zero K] in
theorem write_working_payload (h : SkipsSelection read) (st : LoopState F K)
    (selected : Option (Payload K)) : read (env.write_working_payload st selected) = read st := by
  unfold LoopEnvironment.write_working_payload
  cases env.loop_mode with
  | bounded => rfl
  | karpathy =>
      cases selected with
      | none => rfl
      | some payload =>
          dsimp only
          split
          · exact h.file st _
          · -- a file that cannot be written counts as a crash
            rw [h.after_crash]
            exact h.file st _

end SkipsSelection

/-- What an iteration does with the refinement. -/
def apply_refinement (st : LoopState F K) (payload : Payload K) (result : LoopIterationResult K)
    (earlier : List (LoopIterationResult K)) (refinement : Payload K) :
    LoopState F K × IterationReport K :=
  let scratchpad :=
    { st.scratchpad with
      next_hypotheses := env.noted_next_hypotheses st.scratchpad refinement
      stop_reason := noted_stop_reason st.scratchpad refinement }
  let proposed := env.proposed_next_payload scratchpad refinement
  let st :=
    { st with
      scratchpad := scratchpad
      follow_up_queue := st.follow_up_queue ++ queued_payloads refinement }
  let selection := env.select_next_payload st result earlier proposed
  let current := select_current_payload selection.1 refinement selection.2.2
  (env.write_working_payload current.1 current.2,
    { payload := payload
      karpathy_summary := selection.2.1
      proposed_next_payload := proposed
      selected_current_payload := current.2 })

/-- The part of an iteration after its result is recorded. -/
def refine (context : LoopContext K) (st : LoopState F K) (result : LoopIterationResult K) :
    LoopState F K × IterationReport K :=
  let recorded := st.record result
  match env.callbacks.memory_updater context result with
  | .error _ => (recorded.after_crash, { payload := context.payload })
  | .ok memory_summary =>
      let memory_summary :=
        merge_trace_advisory_into_memory_summary memory_summary env.trace_advisory_summary
      let noted := recorded.note_memory_summary memory_summary
      match env.callbacks.refinement_planner context result memory_summary with
      | .error _ => (noted.after_crash, { payload := context.payload })
      | .ok refinement =>
          env.apply_refinement noted context.payload result st.iteration_results refinement

/-- One pass of the loop of `AgentLoopController.run`. -/
def iterate (st : LoopState F K) : Except String (LoopState F K × IterationReport K) := do
  let iteration := st.scratchpad.iteration_index + 1
  let payload ← env.load_working_payload iteration st
  let st := { st with current_payload := payload }
  let context := env.build_context iteration st
  .ok (match env.validate context with
    | .error _ =>
        ((st.record (env.crashed_result iteration st)).after_crash, { payload := payload })
    | .ok (validation_result, result) =>
        env.refine { context with validation_result := some validation_result } st result)

/-- After its result is recorded an iteration either crashes or applies a refinement. -/
theorem refine_cases (context : LoopContext K) (st : LoopState F K)
    (result : LoopIterationResult K) :
    (env.refine context st result
        = ((st.record result).after_crash, { payload := context.payload }))
      ∨ ∃ memory_summary, (env.refine context st result
            = (((st.record result).note_memory_summary memory_summary).after_crash,
                { payload := context.payload }))
          ∨ ∃ refinement, env.refine context st result
            = env.apply_refinement ((st.record result).note_memory_summary memory_summary)
                context.payload result st.iteration_results refinement := by
  rw [refine]
  cases env.callbacks.memory_updater context result with
  | error error => exact .inl rfl
  | ok memory_summary =>
      right
      refine ⟨merge_trace_advisory_into_memory_summary memory_summary env.trace_advisory_summary, ?_⟩
      dsimp only
      cases env.callbacks.refinement_planner context result
          (merge_trace_advisory_into_memory_summary memory_summary env.trace_advisory_summary) with
      | error error => exact .inl rfl
      | ok refinement => exact .inr ⟨refinement, rfl⟩

/-- An iteration loads its payload and then either records a crash or goes on with a result. -/
theorem iterate_cases {st st' : LoopState F K} {report : IterationReport K}
    (h : env.iterate st = .ok (st', report)) :
    ∃ payload, env.load_working_payload (st.scratchpad.iteration_index + 1) st = .ok payload
      ∧ ((st', report)
            = (({ st with current_payload := payload }.record
                (env.crashed_result (st.scratchpad.iteration_index + 1)
                  { st with current_payload := payload })).after_crash, { payload := payload })
        ∨ ∃ validation_result result,
            env.validate (env.build_context (st.scratchpad.iteration_index + 1)
                { st with current_payload := payload }) = .ok (validation_result, result)
              ∧ (st', report) = env.refine
                  { env.build_context (st.scratchpad.iteration_index + 1)
                      { st with current_payload := payload } with
                    validation_result := some validation_result }
                  { st with current_payload := payload } result) := by
  rw [iterate] at h
  cases hpayload : env.load_working_payload (st.scratchpad.iteration_index + 1) st with
  | error error =>
      rw [hpayload] at h
      exact absurd h (by simp [bind, Except.bind])
  | ok payload =>
      rw [hpayload] at h
      refine ⟨payload, rfl, ?_⟩
      have hresult := (Except.ok.inj h).symm
      cases hvalidate : env.validate (env.build_context (st.scratchpad.iteration_index + 1)
          { st with current_payload := payload }) with
      | error error =>
          simp only [hvalidate] at hresult
          exact .inl hresult
      | ok validated =>
          simp only [hvalidate] at hresult
          exact .inr ⟨validated.1, validated.2, rfl, hresult⟩

/-- The loop of `AgentLoopController.run`. -/
def loop : Loop (LoopState F K) (IterationReport K) String String where
  guard st := st.scratchpad.resolve_stop_reason
  body := env.iterate

/-- The variables before the loop, over what the working payload file holds. -/
def initial_state (file : F) : LoopState F K where
  scratchpad :=
    { objective := env.settings.objective
      study_budget := env.settings.run_budget
      max_iterations := env.settings.max_iterations
      loop_mode := env.loop_mode
      max_stagnation_rounds := env.settings.max_stagnation_rounds
      max_duplicate_baseline_plateau_rounds := env.settings.max_duplicate_baseline_plateau_rounds
      max_repeated_regime_failures := env.settings.max_repeated_regime_failures
      max_repeated_scenario_failures := env.settings.max_repeated_scenario_failures }
  current_payload := env.initial_payload
  file := file

/-- `AgentLoopController.run` up to the end of its loop, `none` when the fuel does not
suffice. -/
def run (file : F) (stop_requested : Bool) (fuel : ℕ) :
    Option (LoopRun (LoopState F K) (IterationReport K) String String) :=
  if stop_requested then some ⟨[], env.initial_state file, .stopped "user_stop_requested"⟩
  else env.loop.run fuel (env.initial_state file)

end LoopEnvironment

end ProofAlpha.Agent
