/-
The books of the agent loop.

`LoopBooks` is what the loop accounts for: the recorded iterations and the
counters, the completed runs and the best result of the scratchpad. Every part of
an iteration leaves the books alone except the one call of `record_iteration`, on
all the branches and in the crash handler (`iterate_books`). From there the books
balance along every run; only the best result depends on the scores, which must
not begin with a NaN.
-/
import ProofAlpha.Agent.Controller
import ProofAlpha.Lib.Checks

set_option autoImplicit false

namespace ProofAlpha.Agent

open ProofAlpha.Lib

variable {F K : Type} [LinearOrder K] [Zero K]

/-! ## The books -/

/-- What the loop accounts for. -/
structure LoopBooks (K : Type) where
  iteration_results : List (LoopIterationResult K)
  iteration_index : ℕ
  max_iterations : ℤ
  remaining_budget : ℤ
  completed_runs : List String
  best_result : Option (LoopIterationResult K)

omit [LinearOrder K] [Zero K] in
/-- The books in a state. -/
def LoopState.books (st : LoopState F K) : LoopBooks K where
  iteration_results := st.iteration_results
  iteration_index := st.scratchpad.iteration_index
  max_iterations := st.scratchpad.max_iterations
  remaining_budget := st.scratchpad.remaining_budget
  completed_runs := st.scratchpad.completed_runs
  best_result := st.scratchpad.best_result

/-- The objective score of a result, as it is compared. -/
abbrev score_of (result : LoopIterationResult K) : Option (PyFloat K) := result.objective_score

/-- The books with one more result. -/
def LoopBooks.record (books : LoopBooks K) (result : LoopIterationResult K) : LoopBooks K where
  iteration_results := books.iteration_results ++ [result]
  iteration_index := result.iteration
  max_iterations := books.max_iterations
  remaining_budget := max 0 (books.remaining_budget - result.run_ids.length)
  completed_runs := books.completed_runs ++ result.run_ids
  best_result := keep_best score_of books.best_result result

omit [Zero K] in
theorem books_record (st : LoopState F K) (result : LoopIterationResult K) :
    (st.record result).books = st.books.record result := by
  have hbest : (st.scratchpad.record_iteration result).best_result
      = keep_best score_of st.scratchpad.best_result result := by
    rw [ResearchScratchpad.record_iteration]
    cases st.scratchpad.best_result with
    | none => rfl
    | some best => rfl
  simp only [LoopState.books, LoopState.record, LoopBooks.record, ← hbest]
  rfl

omit [LinearOrder K] [Zero K] in
theorem skipsSelection_books :
    LoopEnvironment.SkipsSelection (LoopState.books : LoopState F K → LoopBooks K) :=
  ⟨fun _ _ _ => rfl, fun _ _ => rfl, fun _ _ => rfl⟩

namespace LoopEnvironment

variable (env : LoopEnvironment F K)

theorem books_select_next_payload (st : LoopState F K) (result : LoopIterationResult K)
    (earlier : List (LoopIterationResult K)) (proposed : Option (Payload K)) :
    (env.select_next_payload st result earlier proposed).1.books = st.books := by
  rw [select_next_payload]
  cases env.loop_mode with
  | bounded => rfl
  | karpathy => rfl

/-- An iteration changes the books by recording one result, the next one by number. -/
theorem books_refine (context : LoopContext K) (st : LoopState F K)
    (result : LoopIterationResult K) :
    (env.refine context st result).1.books = st.books.record result := by
  rw [← books_record]
  rcases env.refine_cases context st result with h | ⟨memory_summary, h | ⟨refinement, h⟩⟩
  · rw [h]
    exact skipsSelection_books.after_crash _
  · rw [h]
    exact skipsSelection_books.after_crash _
  · rw [h, apply_refinement, skipsSelection_books.write_working_payload,
      skipsSelection_books.select_current_payload,
      books_select_next_payload]
    rfl

theorem iteration_of_validate {context : LoopContext K} {validation_result : Payload K}
    {result : LoopIterationResult K} (h : env.validate context = .ok (validation_result, result)) :
    result.iteration = context.iteration := by
  obtain ⟨plan, -, h⟩ := bind_ok h
  obtain ⟨materialized, -, h⟩ := bind_ok h
  obtain ⟨validated, -, h⟩ := bind_ok h
  obtain ⟨augmented, -, h⟩ := bind_ok h
  obtain ⟨normalized, hnormalized, h⟩ := bind_ok h
  obtain ⟨-, rfl⟩ := Prod.mk.inj (Except.ok.inj h)
  obtain ⟨objective_score, -, hnormalized⟩ := bind_ok hnormalized
  obtain ⟨metric_value, -, hnormalized⟩ := bind_ok hnormalized
  obtain ⟨duplicate_baseline_score, -, hnormalized⟩ := bind_ok hnormalized
  rw [← Except.ok.inj hnormalized]

/-- One iteration records one result, the next one by number, whatever raises in it. -/
theorem iterate_books {st st' : LoopState F K} {report : IterationReport K}
    (h : env.iterate st = .ok (st', report)) :
    ∃ result : LoopIterationResult K, result.iteration = st.scratchpad.iteration_index + 1
      ∧ st'.books = st.books.record result := by
  obtain ⟨payload, -, h | ⟨validation_result, result, hvalidate, h⟩⟩ := env.iterate_cases h
  · obtain ⟨rfl, -⟩ := Prod.mk.inj h
    refine ⟨env.crashed_result _ { st with current_payload := payload }, rfl, ?_⟩
    rw [skipsSelection_books.after_crash, books_record]
    rfl
  · refine ⟨result, env.iteration_of_validate hvalidate, ?_⟩
    have hst' := congrArg Prod.fst h
    dsimp only at hst'
    rw [hst', books_refine]
    rfl

end LoopEnvironment

/-! ## The invariant -/

/-- The books balance: the iterations are numbered from one on and stay within the limit, the
completed runs and what is left of the budget are theirs, and the best result is the one that
was kept. -/
structure Balanced (settings : AgentLoopSettings) (books : LoopBooks K) : Prop where
  index : books.iteration_index = books.iteration_results.length
  numbered : books.iteration_results.map LoopIterationResult.iteration
    = List.range' 1 books.iteration_results.length
  limit : books.max_iterations = settings.max_iterations
  bounded : books.iteration_results.length ≤ settings.max_iterations.toNat
  completed : books.completed_runs = books.iteration_results.flatMap LoopIterationResult.run_ids
  remaining : books.remaining_budget = max 0 (settings.run_budget - books.completed_runs.length)
  best : books.best_result = books.iteration_results.foldl (keep_best score_of) none

omit [Zero K] in
theorem Balanced.record {settings : AgentLoopSettings} {books : LoopBooks K}
    {result : LoopIterationResult K} (h : Balanced settings books)
    (hnext : result.iteration = books.iteration_index + 1)
    (hlimit : (books.iteration_index : ℤ) < books.max_iterations) :
    Balanced settings (books.record result) where
  index := by
    rw [LoopBooks.record, List.length_append, List.length_singleton, ← h.index]
    exact hnext
  numbered := by
    rw [LoopBooks.record, List.map_append, h.numbered, List.length_append, List.length_singleton,
      List.range'_1_concat, List.map_singleton, hnext, h.index, Nat.add_comm 1]
  limit := h.limit
  bounded := by
    rw [LoopBooks.record, List.length_append, List.length_singleton]
    rw [h.limit, h.index] at hlimit
    omega
  completed := by
    rw [LoopBooks.record, List.flatMap_append, ← h.completed, List.flatMap_singleton]
  remaining := by
    simp only [LoopBooks.record, h.remaining, List.length_append]
    omega
  best := by
    rw [LoopBooks.record, List.foldl_concat, ← h.best]

namespace LoopEnvironment

variable (env : LoopEnvironment F K)

omit [Zero K] in
theorem balanced_initial (file : F) : Balanced env.settings (env.initial_state file).books where
  index := rfl
  numbered := rfl
  limit := rfl
  bounded := Nat.zero_le _
  completed := rfl
  remaining := by
    rw [initial_state, LoopState.books, List.length_nil]
    simp
  best := rfl

/-- A pass keeps the books balanced and has one iteration less in front of it. -/
theorem balanced_pass {pass : Pass (LoopState F K) (IterationReport K)}
    (hpass : env.loop.IsPass pass) (h : Balanced env.settings pass.before.books) :
    Balanced env.settings pass.after.books
      ∧ env.settings.max_iterations.toNat - pass.after.books.iteration_index
          < env.settings.max_iterations.toNat - pass.before.books.iteration_index := by
  obtain ⟨hguard, hbody⟩ := hpass
  obtain ⟨result, hnext, hbooks⟩ := env.iterate_books hbody
  have hlimit := (ResearchScratchpad.lt_of_resolve_stop_reason hguard).1
  have hlt : (pass.before.books.iteration_index : ℤ) < env.settings.max_iterations :=
    lt_of_lt_of_eq hlimit h.limit
  rw [hbooks]
  refine ⟨h.record hnext hlimit, ?_⟩
  have hindex : (pass.before.books.record result).iteration_index
      = pass.before.books.iteration_index + 1 := hnext
  rw [hindex]
  omega

end LoopEnvironment

/-! ## Every run -/

/-- What the books of a run should say. -/
structure BooksBalance (settings : AgentLoopSettings)
    (run : LoopRun (LoopState F K) (IterationReport K) String String) : Prop where
  bounded : run.last.iteration_results.length ≤ settings.max_iterations.toNat
  numbered : run.last.iteration_results.map LoopIterationResult.iteration
    = List.range' 1 run.last.iteration_results.length
  completed : run.last.scratchpad.completed_runs
    = run.last.iteration_results.flatMap LoopIterationResult.run_ids
  within_budget : ∀ st ∈ run.starts,
    ((st.iteration_results.flatMap LoopIterationResult.run_ids).length : ℤ) < settings.run_budget
  best : run.last.scratchpad.best_result
    = run.last.iteration_results.argmax fun result => rank result.objective_score

/-- The loop ends, with one run for every fuel above the limit of iterations. -/
theorem LoopEnvironment.run_ends (env : LoopEnvironment F K) (file : F) (stop_requested : Bool) :
    ∃ run, ∀ fuel, env.settings.max_iterations.toNat < fuel →
      env.run file stop_requested fuel = some run := by
  cases stop_requested with
  | true => exact ⟨_, fun _ _ => rfl⟩
  | false =>
      obtain ⟨run, hrun⟩ := Loop.run_total
        (fun st : LoopState F K => Balanced env.settings st.books)
        (fun st : LoopState F K =>
          env.settings.max_iterations.toNat - st.books.iteration_index)
        (fun pass hpass => env.balanced_pass hpass) _ (env.initial_state file)
        (Nat.lt_succ_self _) (env.balanced_initial file)
      exact ⟨run, fun fuel hfuel => hrun fuel (by exact hfuel)⟩

/-- A run's last books are balanced, and it starts no iteration without budget. -/
theorem LoopEnvironment.run_balanced (env : LoopEnvironment F K) {file : F} {stop_requested : Bool}
    {fuel : ℕ} {run : LoopRun (LoopState F K) (IterationReport K) String String}
    (hrun : env.run file stop_requested fuel = some run) :
    Balanced env.settings run.last.books ∧ ∀ st ∈ run.starts,
      ((st.iteration_results.flatMap LoopIterationResult.run_ids).length : ℤ)
        < env.settings.run_budget := by
  cases stop_requested with
  | true =>
      obtain rfl := Option.some.inj hrun
      exact ⟨env.balanced_initial file, fun st hst => absurd hst (by simp [LoopRun.starts])⟩
  | false =>
      obtain ⟨hlast, hstarts⟩ := Loop.run_invariant
        (fun st : LoopState F K => Balanced env.settings st.books)
        (fun pass hpass h => (env.balanced_pass hpass h).1) hrun (env.balanced_initial file)
      refine ⟨hlast, fun st hst => ?_⟩
      obtain ⟨hguard, hst⟩ := hstarts st hst
      have hbudget : 0 < st.books.remaining_budget :=
        (ResearchScratchpad.lt_of_resolve_stop_reason hguard).2
      rw [hst.remaining, hst.completed] at hbudget
      have hresults : st.books.iteration_results = st.iteration_results := rfl
      rw [hresults] at hbudget
      omega

/-- The loop ends after at most `max_iterations` recorded iterations with its books balanced,
and the best result is the first iteration with the highest objective score exactly when the
scores do not begin with a NaN. -/
theorem loop_books_balance_iff (env : LoopEnvironment F K) (file : F) (stop_requested : Bool) :
    ∃ run, (∀ fuel, env.settings.max_iterations.toNat < fuel →
        env.run file stop_requested fuel = some run)
      ∧ (BooksBalance env.settings run
          ↔ ComparableScores LoopIterationResult.objective_score run.last.iteration_results) := by
  obtain ⟨run, hrun⟩ := env.run_ends file stop_requested
  obtain ⟨hbalanced, hbudget⟩ := env.run_balanced (hrun _ (Nat.lt_succ_self _))
  have hbest : run.last.scratchpad.best_result
      = run.last.iteration_results.foldl (keep_best LoopIterationResult.objective_score) none :=
    hbalanced.best
  refine ⟨run, hrun, fun h => ?_, fun h => ?_⟩
  · rw [← foldl_keep_best_eq_argmax_iff, ← hbest]
    exact h.best
  · rw [← foldl_keep_best_eq_argmax_iff, ← hbest] at h
    exact ⟨hbalanced.bounded, hbalanced.numbered, hbalanced.completed, hbudget, h⟩

/-! A validator that scores its first run NaN and its second one 1.0. -/

/-- Two iterations that pass their payload through. -/
def nan_first_environment : LoopEnvironment (WorkingFile ℤ) ℤ where
  settings := { loop_mode := "bounded", max_iterations := 2 }
  callbacks :=
    { planner := fun context => .ok context.payload
      materializer := fun _ plan => .ok plan
      validator := fun context _ => .ok
        [("run_ids", .list [.str (if context.iteration = 1 then "run-1" else "run-2")]),
          ("objective_score", .float (if context.iteration = 1 then .nan else .of 1))]
      memory_updater := fun _ _ => .ok []
      refinement_planner := fun context _ _ => .ok [("next_payload", .dict context.payload)] }
  target := json_config_target
  linked_resource_summary := fun _ => .ok []
  trace_advisory_summary := []
  initial_payload := [("run_id", .str "study")]
  composite_text := fun _ => ""
  float_of_int := fun n => .ok (.of n)

/-- The NaN stays the best result although the second iteration has a score. -/
theorem nan_score_stays_best : ∃ run, nan_first_environment.run .missing false 3 = some run
    ∧ ¬ BooksBalance nan_first_environment.settings run := by
  have hiterations : (nan_first_environment.run .missing false 3).map (fun run =>
      (run.last.scratchpad.best_result.map LoopIterationResult.iteration,
        (run.last.iteration_results.argmax fun result => rank result.objective_score).map
          LoopIterationResult.iteration)) = some (some 1, some 2) := by
    decide +kernel
  obtain ⟨run, hrun, hbest⟩ := Option.map_eq_some_iff.mp hiterations
  refine ⟨run, hrun, fun h => ?_⟩
  rw [h.best] at hbest
  obtain ⟨hone, htwo⟩ := Prod.mk.inj hbest
  exact absurd (hone.symm.trans htwo) (by decide)

end ProofAlpha.Agent
