/-
The scratchpad of the agent loop (src/engine/agent/scratchpad.py): what an
iteration leaves in the books, and when the loop has to stop.

Scores are Python floats with NaN (`PyFloat K`). Fields that the loop only
passes on are left out.
-/
import ProofAlpha.Lib.PyDict
import ProofAlpha.Lib.PyFloat
import ProofAlpha.Lib.PyJson

set_option autoImplicit false

namespace ProofAlpha.Agent

open ProofAlpha.Lib

/-- A payload: a dict from JSON, its floats with NaN. -/
abbrev Payload (K : Type) := JsonObject (PyFloat K)

/-- `LoopIterationResult`. -/
structure LoopIterationResult (K : Type) where
  iteration : ℕ
  run_ids : List String
  promoted_run_ids : List String
  validation_status : String
  objective_score : Option (PyFloat K) := none
  metric_name : Option String := none
  metric_value : Option (PyFloat K) := none
  metric_direction : Option String := none
  failed_gates : List String := []
  regime_failure_labels : List String := []
  scenario_failure_names : List String := []
  failure_taxonomy : List String := []
  duplicate_baseline_score : Option (PyFloat K) := none
  next_hypotheses : List String := []

/-- How the loop runs. -/
inductive LoopMode where
  | bounded
  | karpathy
deriving DecidableEq

/-- `ResearchScratchpad`. -/
structure ResearchScratchpad (K : Type) where
  objective : String
  study_budget : ℤ
  max_iterations : ℤ
  loop_mode : LoopMode
  max_stagnation_rounds : ℤ
  max_duplicate_baseline_plateau_rounds : ℤ
  max_repeated_regime_failures : ℤ
  max_repeated_scenario_failures : ℤ
  iteration_index : ℕ := 0
  remaining_budget : ℤ := max 0 study_budget
  completed_runs : List String := []
  promoted_runs : List String := []
  failed_gates : Dict String ℕ := ∅
  failure_taxonomy_counts : Dict String ℕ := ∅
  repeated_regime_failure_counts : Dict String ℕ := ∅
  repeated_scenario_failure_counts : Dict String ℕ := ∅
  next_hypotheses : List String := []
  latest_memory_summary : Payload K := []
  stop_reason : Option String := none
  best_result : Option (LoopIterationResult K) := none
  last_result : Option (LoopIterationResult K) := none
  stagnation_rounds : ℕ := 0
  duplicate_baseline_plateau_rounds : ℕ := 0

variable {K : Type} [LinearOrder K]

/-- `_is_better_result`. -/
def is_better_result (result : LoopIterationResult K)
    (best_result : Option (LoopIterationResult K)) : Bool :=
  match best_result with
  | none => true
  | some best_result => better result.objective_score best_result.objective_score

/-- `_next_duplicate_baseline_plateau_rounds`; a NaN differs from itself. -/
def next_duplicate_baseline_plateau_rounds (previous_result : Option (LoopIterationResult K))
    (result : LoopIterationResult K) (scratchpad : ResearchScratchpad K) : ℕ :=
  match previous_result with
  | none => 0
  | some previous_result =>
      match result.duplicate_baseline_score, previous_result.duplicate_baseline_score with
      | some score, some previous =>
          if previous.eq score then scratchpad.duplicate_baseline_plateau_rounds + 1 else 0
      | _, _ => 0

/-- `counts[label] = counts.get(label, 0) + 1` for every label. -/
def count_labels (counts : Dict String ℕ) (labels : List String) : Dict String ℕ :=
  labels.foldl (fun counts label => counts.add label 1) counts

namespace ResearchScratchpad

/-- `ResearchScratchpad.record_iteration`. -/
def record_iteration (scratchpad : ResearchScratchpad K) (result : LoopIterationResult K) :
    ResearchScratchpad K :=
  let improved := is_better_result result scratchpad.best_result
  { scratchpad with
    iteration_index := result.iteration
    remaining_budget := max 0 (scratchpad.remaining_budget - result.run_ids.length)
    completed_runs := scratchpad.completed_runs ++ result.run_ids
    promoted_runs := scratchpad.promoted_runs ++ result.promoted_run_ids
    failed_gates := count_labels scratchpad.failed_gates result.failed_gates
    failure_taxonomy_counts :=
      count_labels scratchpad.failure_taxonomy_counts result.failure_taxonomy
    repeated_regime_failure_counts :=
      count_labels scratchpad.repeated_regime_failure_counts result.regime_failure_labels
    repeated_scenario_failure_counts :=
      count_labels scratchpad.repeated_scenario_failure_counts result.scenario_failure_names
    next_hypotheses := result.next_hypotheses
    best_result := if improved then some result else scratchpad.best_result
    last_result := some result
    stagnation_rounds := if improved then 0 else scratchpad.stagnation_rounds + 1
    duplicate_baseline_plateau_rounds :=
      next_duplicate_baseline_plateau_rounds scratchpad.last_result result scratchpad }

/-- `_failure_taxonomy_stop_reason`. -/
def failure_taxonomy_stop_reason (scratchpad : ResearchScratchpad K) : Option String :=
  let count label := (scratchpad.failure_taxonomy_counts.lookup label).getD 0
  if 1 ≤ count "resource_license_risk" then some "resource_license_risk"
  else if 1 ≤ count "upstream_provenance_gap" then some "upstream_provenance_gap"
  else if 2 ≤ count "data_quality_failure" + count "venue_profile_gap" then
    some "repeated_data_contract_failures"
  else if 2 ≤ count "holdout_failure" then some "repeated_holdout_failures"
  else if scratchpad.max_repeated_scenario_failures ≤ count "stress_failure" then
    some "repeated_stress_failures"
  else none

/-- `_max_count`. -/
def max_count (counts : Dict String ℕ) : ℕ := counts.values.foldl max 0

/-- `ResearchScratchpad.resolve_stop_reason`. -/
def resolve_stop_reason (scratchpad : ResearchScratchpad K) : Option String :=
  if scratchpad.max_iterations ≤ scratchpad.iteration_index then some "max_iterations_reached"
  else if scratchpad.remaining_budget ≤ 0 then some "run_budget_exhausted"
  else if scratchpad.stop_reason.isSome then scratchpad.stop_reason
  else if scratchpad.loop_mode = .karpathy then none
  else if scratchpad.max_stagnation_rounds ≤ scratchpad.stagnation_rounds then
    some "no_improvement_plateau"
  else if scratchpad.max_duplicate_baseline_plateau_rounds
      ≤ scratchpad.duplicate_baseline_plateau_rounds then
    some "duplicate_baseline_plateau"
  else
    match scratchpad.failure_taxonomy_stop_reason with
    | some taxonomy_stop_reason => some taxonomy_stop_reason
    | none =>
        if scratchpad.max_repeated_regime_failures
            ≤ max_count scratchpad.repeated_regime_failure_counts then
          some "repeated_regime_failures"
        else if scratchpad.max_repeated_scenario_failures
            ≤ max_count scratchpad.repeated_scenario_failure_counts then
          some "repeated_scenario_failures"
        else none

omit [LinearOrder K] in
/-- As long as no reason to stop is found, iterations and budget are left. -/
theorem lt_of_resolve_stop_reason {scratchpad : ResearchScratchpad K}
    (h : scratchpad.resolve_stop_reason = none) :
    (scratchpad.iteration_index : ℤ) < scratchpad.max_iterations
      ∧ 0 < scratchpad.remaining_budget := by
  rw [resolve_stop_reason] at h
  split_ifs at h with hiterations hbudget <;>
    exact ⟨lt_of_not_ge hiterations, lt_of_not_ge hbudget⟩

end ResearchScratchpad

end ProofAlpha.Agent
