/-
What karpathy mode goes back to after a discard.

The loop remembers the payload that was proposed after the last kept iteration,
not the payload that was kept. `iterate_lineage` says what one iteration does to
the remembered payload and to the working payload file; along a run the
remembered payload is the proposal of the last kept iteration that made one
(`lineage_of_run`). So a discard selects that proposal again, which right after
the keep is the payload that has just been discarded.
-/
import ProofAlpha.Agent.Controller
import ProofAlpha.Lib.Checks

set_option autoImplicit false

namespace ProofAlpha.Agent

open ProofAlpha.Lib

variable {F K : Type} [LinearOrder K] [Zero K]

/-- A pass of the loop. -/
abbrev LoopPass (F K : Type) := Pass (LoopState F K) (IterationReport K)

/-- The decision of an iteration, when it came to one. -/
def decision_of (pass : LoopPass F K) : Option Decision :=
  pass.report.karpathy_summary.map KarpathySummary.decision

/-- An iteration was kept and its refinement proposed a next payload. -/
def KeptWith (pass : LoopPass F K) (proposal : Payload K) : Prop :=
  decision_of pass = some .keep ∧ pass.report.proposed_next_payload = some proposal

/-! ## One iteration -/

omit [LinearOrder K] [Zero K] in
theorem skipsSelection_kept : LoopEnvironment.SkipsSelection
    (LoopState.karpathy_kept_next_payload : LoopState F K → Option (Payload K)) :=
  ⟨fun _ _ _ => rfl, fun _ _ => rfl, fun _ _ => rfl⟩

namespace LoopEnvironment

variable (env : LoopEnvironment F K)

/-- What a discard turns a proposal into. -/
def selection (decision : Decision) (kept : Option (Payload K)) (proposal : Payload K) :
    Payload K :=
  if decision = .discard then kept.getD proposal else proposal

/-- What an iteration does to the remembered payload: a proposal is selected, or after a discard
the payload remembered before, and the payload selected is remembered; without a proposal, and
in an iteration without a decision, the remembered payload stays. -/
structure Lineage (kept kept' : Option (Payload K)) (report : IterationReport K) : Prop where
  proposed : ∀ summary proposal, report.karpathy_summary = some summary →
    report.proposed_next_payload = some proposal →
      report.selected_current_payload = some (selection summary.decision kept proposal)
        ∧ kept' = some (selection summary.decision kept proposal)
  unproposed : report.proposed_next_payload = none → kept' = kept
  undecided : report.karpathy_summary = none → report.proposed_next_payload = none

theorem lineage_apply_refinement (hmode : env.loop_mode = .karpathy) (st : LoopState F K)
    (payload : Payload K) (result : LoopIterationResult K)
    (earlier : List (LoopIterationResult K)) (refinement : Payload K) :
    Lineage st.karpathy_kept_next_payload
      (env.apply_refinement st payload result earlier refinement).1.karpathy_kept_next_payload
      (env.apply_refinement st payload result earlier refinement).2 := by
  rw [apply_refinement]
  dsimp only
  rw [skipsSelection_kept.write_working_payload, skipsSelection_kept.select_current_payload,
    select_next_payload, hmode]
  dsimp only
  cases env.proposed_next_payload
      { st.scratchpad with
        next_hypotheses := env.noted_next_hypotheses st.scratchpad refinement
        stop_reason := noted_stop_reason st.scratchpad refinement } refinement with
  | none => exact ⟨fun _ _ _ h => absurd h (by simp), fun _ => rfl, fun h => absurd h (by simp)⟩
  | some proposal =>
      refine ⟨fun summary proposal' hsummary hproposal => ?_, fun h => absurd h (by simp),
        fun h => absurd h (by simp)⟩
      obtain rfl := Option.some.inj hsummary
      obtain rfl := Option.some.inj hproposal
      cases st.karpathy_kept_next_payload with
      | none =>
          rw [selection, Option.getD_none, ite_self]
          exact ⟨rfl, rfl⟩
      | some kept => exact ⟨rfl, rfl⟩

omit [LinearOrder K] [Zero K] in
/-- A crash leaves the remembered payload alone. -/
theorem lineage_crash (st : LoopState F K) (payload : Payload K) :
    Lineage st.karpathy_kept_next_payload st.after_crash.karpathy_kept_next_payload
      { payload := payload } where
  proposed _ _ h := absurd h (by simp)
  unproposed _ := skipsSelection_kept.after_crash st
  undecided _ := rfl

theorem iterate_lineage (hmode : env.loop_mode = .karpathy) {st st' : LoopState F K}
    {report : IterationReport K} (h : env.iterate st = .ok (st', report)) :
    Lineage st.karpathy_kept_next_payload st'.karpathy_kept_next_payload report := by
  obtain ⟨payload, -, h | ⟨validation_result, result, -, h⟩⟩ := env.iterate_cases h
  · obtain ⟨rfl, rfl⟩ := Prod.mk.inj h
    exact lineage_crash ({ st with current_payload := payload }.record _) payload
  · rcases env.refine_cases { env.build_context (st.scratchpad.iteration_index + 1)
        { st with current_payload := payload } with
        validation_result := some validation_result }
      { st with current_payload := payload } result with
      hrefine | ⟨memory_summary, hrefine | ⟨refinement, hrefine⟩⟩
    · obtain ⟨rfl, rfl⟩ := Prod.mk.inj (h.trans hrefine)
      exact lineage_crash ({ st with current_payload := payload }.record result) payload
    · obtain ⟨rfl, rfl⟩ := Prod.mk.inj (h.trans hrefine)
      exact lineage_crash (({ st with current_payload := payload }.record result).note_memory_summary
        memory_summary) payload
    · obtain ⟨rfl, rfl⟩ := Prod.mk.inj (h.trans hrefine)
      exact env.lineage_apply_refinement hmode
        (({ st with current_payload := payload }.record result).note_memory_summary memory_summary)
        _ _ _ _

/-- The report of an iteration names the payload of its context. -/
theorem payload_refine (context : LoopContext K) (st : LoopState F K)
    (result : LoopIterationResult K) :
    (env.refine context st result).2.payload = context.payload := by
  rcases env.refine_cases context st result with h | ⟨memory_summary, h | ⟨refinement, h⟩⟩
  · rw [h]
  · rw [h]
  · rw [h]
    rfl

/-! ## The working payload file -/

omit [LinearOrder K] [Zero K] in
/-- A selected payload is in the file of a `json_config` target after the iteration. -/
theorem file_write_working_payload {env : LoopEnvironment (WorkingFile K) K}
    (hmode : env.loop_mode = .karpathy) (htarget : env.target = json_config_target)
    (st : LoopState (WorkingFile K) K) (payload : Payload K) :
    (env.write_working_payload st (some payload)).file = .json (.dict (reread payload)) := by
  unfold write_working_payload
  rw [hmode, htarget]
  rfl

theorem file_refine {env : LoopEnvironment (WorkingFile K) K} (hmode : env.loop_mode = .karpathy)
    (htarget : env.target = json_config_target) (context : LoopContext K)
    (st : LoopState (WorkingFile K) K) (result : LoopIterationResult K) {payload : Payload K}
    (hselected : (env.refine context st result).2.selected_current_payload = some payload) :
    (env.refine context st result).1.file = .json (.dict (reread payload)) := by
  rcases env.refine_cases context st result with h | ⟨memory_summary, h | ⟨refinement, h⟩⟩
  · rw [h] at hselected
    exact absurd hselected (by simp)
  · rw [h] at hselected
    exact absurd hselected (by simp)
  · rw [h, apply_refinement] at hselected ⊢
    dsimp only at hselected ⊢
    rw [hselected, file_write_working_payload hmode htarget]

theorem iterate_file {env : LoopEnvironment (WorkingFile K) K} (hmode : env.loop_mode = .karpathy)
    (htarget : env.target = json_config_target) {st st' : LoopState (WorkingFile K) K}
    {report : IterationReport K} (h : env.iterate st = .ok (st', report)) {payload : Payload K}
    (hselected : report.selected_current_payload = some payload) :
    st'.file = .json (.dict (reread payload)) := by
  obtain ⟨loaded, -, h | ⟨validation_result, result, -, h⟩⟩ := env.iterate_cases h
  · obtain ⟨-, rfl⟩ := Prod.mk.inj h
    exact absurd hselected (by simp)
  · obtain ⟨rfl, rfl⟩ := Prod.mk.inj h
    exact file_refine hmode htarget _ _ _ hselected

/-- An iteration evaluates what the file holds. -/
theorem iterate_payload {env : LoopEnvironment (WorkingFile K) K}
    (hmode : env.loop_mode = .karpathy) (htarget : env.target = json_config_target)
    {st st' : LoopState (WorkingFile K) K} {report : IterationReport K}
    (h : env.iterate st = .ok (st', report)) {payload : Payload K}
    (hfile : st.file = .json (.dict payload)) : report.payload = payload := by
  obtain ⟨loaded, hloaded, h⟩ := env.iterate_cases h
  have hpayload : report.payload = loaded := by
    rcases h with h | ⟨validation_result, result, -, h⟩
    · obtain ⟨-, rfl⟩ := Prod.mk.inj h
      rfl
    · obtain ⟨-, rfl⟩ := Prod.mk.inj h
      exact env.payload_refine _ _ _
  unfold load_working_payload at hloaded
  rw [hmode, htarget] at hloaded
  dsimp only [json_config_target] at hloaded
  rw [hfile] at hloaded
  rw [hpayload, ← Except.ok.inj hloaded]
  rfl

end LoopEnvironment

/-! ## A run -/

/-- The remembered payload is the proposal of the last kept iteration that made one. -/
def RemembersLineage (past : List (LoopPass F K)) (st : LoopState F K) : Prop :=
  ∀ earlier kept later proposal, past = earlier ++ kept :: later → KeptWith kept proposal →
    (∀ pass ∈ later, ∀ other, ¬ KeptWith pass other) →
      st.karpathy_kept_next_payload = some proposal

omit [LinearOrder K] [Zero K] in
theorem decision_cases {pass : LoopPass F K} {decision : Decision}
    (h : decision_of pass = some decision) :
    ∃ summary, pass.report.karpathy_summary = some summary ∧ summary.decision = decision :=
  Option.map_eq_some_iff.mp h

/-- After the remembered payload is set only a kept iteration with a proposal changes it. -/
theorem remembersLineage_pass {env : LoopEnvironment F K} (hmode : env.loop_mode = .karpathy)
    {past : List (LoopPass F K)} {pass : LoopPass F K} (hpass : env.loop.IsPass pass)
    (hpast : RemembersLineage past pass.before) : RemembersLineage (past ++ [pass]) pass.after := by
  have hlineage := env.iterate_lineage hmode hpass.2
  intro earlier kept later proposal hsplit hkept hlast
  rcases List.eq_nil_or_concat later with rfl | ⟨later, last, rfl⟩
  · obtain ⟨-, hpass⟩ := List.append_inj' hsplit rfl
    obtain rfl := List.singleton_inj.mp hpass
    obtain ⟨summary, hsummary, hdecision⟩ := decision_cases hkept.1
    obtain ⟨-, hafter⟩ := hlineage.proposed summary proposal hsummary hkept.2
    rw [hafter, LoopEnvironment.selection, hdecision, if_neg (by decide)]
  · rw [List.concat_eq_append] at hsplit hlast
    rw [← List.cons_append, ← List.append_assoc] at hsplit
    obtain ⟨hpast_split, hpass⟩ := List.append_inj' hsplit rfl
    obtain rfl := List.singleton_inj.mp hpass
    have hbefore := hpast earlier kept later proposal hpast_split hkept
      fun other hother => hlast other (List.mem_append_left _ hother)
    cases hproposed : pass.report.proposed_next_payload with
    | none => rw [hlineage.unproposed hproposed, hbefore]
    | some other =>
        cases hsummary : pass.report.karpathy_summary with
        | none =>
            rw [hlineage.undecided hsummary] at hproposed
            exact absurd hproposed (by simp)
        | some summary =>
            obtain ⟨-, hafter⟩ := hlineage.proposed summary other hsummary hproposed
            rw [hafter, LoopEnvironment.selection, hbefore]
            cases hdecision : summary.decision with
            | discard => rfl
            | keep =>
                have hdecided : decision_of pass = some .keep := by
                  rw [decision_of, hsummary, Option.map_some, hdecision]
                exact absurd ⟨hdecided, hproposed⟩ (hlast pass (by simp) other)

/-- In front of every pass of a run the remembered payload is the proposal of the last kept
iteration that made one. -/
theorem lineage_of_run {env : LoopEnvironment F K} (hmode : env.loop_mode = .karpathy) {file : F}
    {fuel : ℕ} {run : LoopRun (LoopState F K) (IterationReport K) String String}
    (hrun : env.run file false fuel = some run) :
    ∀ before pass after, run.passes = before ++ pass :: after →
      env.loop.IsPass pass ∧ RemembersLineage before pass.before := by
  have hinitial : RemembersLineage [] (env.initial_state file) :=
    fun earlier kept later proposal hsplit => absurd hsplit (by simp)
  obtain ⟨-, -, hpasses⟩ := Loop.run_history RemembersLineage
    (fun past pass hpass => remembersLineage_pass hmode hpass) [] hrun hinitial
  exact hpasses

/-- The iteration after one that selected a payload evaluates that payload. -/
theorem next_payload_of_selected {env : LoopEnvironment (WorkingFile K) K}
    (hmode : env.loop_mode = .karpathy) (htarget : env.target = json_config_target)
    {file : WorkingFile K} {fuel : ℕ}
    {run : LoopRun (LoopState (WorkingFile K) K) (IterationReport K) String String}
    (hrun : env.run file false fuel = some run)
    (before : List (LoopPass (WorkingFile K) K)) {after : List (LoopPass (WorkingFile K) K)}
    {pass next : LoopPass (WorkingFile K) K}
    (hsplit : run.passes = before ++ pass :: next :: after) {payload : Payload K}
    (hselected : pass.report.selected_current_payload = some payload) :
    next.report.payload = reread payload := by
  obtain ⟨hpass, -⟩ := lineage_of_run hmode hrun before pass (next :: after) hsplit
  have hsplit' : run.passes = (before ++ [pass]) ++ next :: after := by
    rw [hsplit, List.append_assoc, List.singleton_append]
  obtain ⟨hnext, -⟩ := lineage_of_run hmode hrun _ next after hsplit'
  have hconsecutive : next.before = pass.after :=
    Option.some.inj (Loop.run_consecutive hrun before pass (next :: after) hsplit)
  apply LoopEnvironment.iterate_payload hmode htarget hnext.2
  rw [hconsecutive]
  exact LoopEnvironment.iterate_file hmode htarget hpass.2 hselected

omit [LinearOrder K] [Zero K] in
/-- An explicit karpathy mode is the effective one. -/
theorem loop_mode_of_karpathy {env : LoopEnvironment F K} (h : env.settings.loop_mode = "karpathy") :
    env.loop_mode = .karpathy := by
  rw [LoopEnvironment.loop_mode, resolve_effective_loop_mode, h]
  rfl

/-- What a discard selects after an earlier iteration was kept with a proposal. -/
theorem selected_of_discard {env : LoopEnvironment F K} (hmode : env.loop_mode = .karpathy)
    {file : F} {fuel : ℕ} {run : LoopRun (LoopState F K) (IterationReport K) String String}
    (hrun : env.run file false fuel = some run)
    (earlier between : List (LoopPass F K)) {later : List (LoopPass F K)}
    {kept discarded : LoopPass F K} {lineage proposal : Payload K}
    (hsplit : run.passes = (earlier ++ kept :: between) ++ discarded :: later)
    (hkept : KeptWith kept lineage) (hlast : ∀ pass ∈ between, ∀ other, ¬ KeptWith pass other)
    (hdiscard : decision_of discarded = some .discard)
    (hproposed : discarded.report.proposed_next_payload = some proposal) :
    discarded.report.selected_current_payload = some lineage := by
  obtain ⟨hpass, hremembers⟩ := lineage_of_run hmode hrun _ discarded later hsplit
  have hremembered := hremembers earlier kept between lineage rfl hkept hlast
  obtain ⟨summary, hsummary, hdecision⟩ := decision_cases hdiscard
  obtain ⟨hselected, -⟩ :=
    (env.iterate_lineage hmode hpass.2).proposed summary proposal hsummary hproposed
  rw [hselected, LoopEnvironment.selection, hdecision, hremembered]
  rfl

/-- A kept iteration selects what it proposed. -/
theorem selected_of_keep {env : LoopEnvironment F K} (hmode : env.loop_mode = .karpathy)
    {pass : LoopPass F K} (hpass : env.loop.IsPass pass) {lineage : Payload K}
    (hkept : KeptWith pass lineage) : pass.report.selected_current_payload = some lineage := by
  obtain ⟨summary, hsummary, hdecision⟩ := decision_cases hkept.1
  obtain ⟨hselected, -⟩ :=
    (env.iterate_lineage hmode hpass.2).proposed summary lineage hsummary hkept.2
  rw [hselected, LoopEnvironment.selection, hdecision, if_neg (by decide)]

/-- Discard goes back to the kept lineage: over every run in karpathy mode with a `json_config`
target, an iteration that is discarded, and whose refinement proposes a next payload, selects
the payload that was proposed after the last kept iteration that proposed one. The next
iteration evaluates it; right after that keep it is the payload just discarded. -/
theorem discard_selects_kept_lineage (env : LoopEnvironment (WorkingFile K) K)
    (hmode : env.settings.loop_mode = "karpathy") (htarget : env.target = json_config_target)
    (file : WorkingFile K) (fuel : ℕ)
    (run : LoopRun (LoopState (WorkingFile K) K) (IterationReport K) String String)
    (hrun : env.run file false fuel = some run)
    (earlier between later : List (LoopPass (WorkingFile K) K))
    (kept discarded : LoopPass (WorkingFile K) K) (lineage proposal : Payload K)
    (hsplit : run.passes = (earlier ++ kept :: between) ++ discarded :: later)
    (hkept : KeptWith kept lineage) (hlast : ∀ pass ∈ between, ∀ other, ¬ KeptWith pass other)
    (hdiscard : decision_of discarded = some .discard)
    (hproposed : discarded.report.proposed_next_payload = some proposal) :
    discarded.report.selected_current_payload = some lineage
      ∧ (∀ next after, later = next :: after → next.report.payload = reread lineage)
      ∧ (between = [] → discarded.report.payload = reread lineage) := by
  have hkarpathy := loop_mode_of_karpathy hmode
  have hselected := selected_of_discard hkarpathy hrun earlier between hsplit hkept hlast
    hdiscard hproposed
  refine ⟨hselected, fun next after hlater => ?_, fun hbetween => ?_⟩
  · subst hlater
    exact next_payload_of_selected hkarpathy htarget hrun _ hsplit hselected
  · subst hbetween
    have hsplit' : run.passes = earlier ++ kept :: discarded :: later := by
      rw [hsplit, List.append_assoc]
      rfl
    obtain ⟨hpass, -⟩ := lineage_of_run hkarpathy hrun earlier kept _ hsplit'
    exact next_payload_of_selected hkarpathy htarget hrun _ hsplit'
      (selected_of_keep hkarpathy hpass hkept)

/-! Three iterations: the first is kept, the second one is discarded and selected again. -/

/-- The planner and the materializer pass the payload through, and the validator is a function
of the payload. -/
structure PassesThrough (callbacks : Callbacks K) : Prop where
  planner : ∀ context, callbacks.planner context = .ok context.payload
  materializer : ∀ context plan, callbacks.materializer context plan = .ok plan
  validator : ∃ validate : Payload K → Except String (Payload K),
    ∀ context payload, callbacks.validator context payload = validate payload

/-- The iteration after a discard, with an earlier keep, evaluates another payload. -/
def DiscardReverts (run : LoopRun (LoopState F K) (IterationReport K) String String) : Prop :=
  ∀ earlier kept between discarded next later,
    run.passes = (earlier ++ kept :: between) ++ discarded :: next :: later →
      decision_of kept = some .keep → decision_of discarded = some .discard →
        next.report.payload ≠ discarded.report.payload

/-- A payload with this run id. -/
def named_payload (run_id : String) : Payload ℤ := [("run_id", .str run_id)]

/-- The first payload scores 1 and every other one 0; `b` is proposed first, then `c`. -/
def lineage_environment : LoopEnvironment (WorkingFile ℤ) ℤ where
  settings := { loop_mode := "karpathy", max_iterations := 3 }
  callbacks :=
    { planner := fun context => .ok context.payload
      materializer := fun _ plan => .ok plan
      validator := fun _ payload => .ok
        [("run_ids", .list [payload.get "run_id"]),
          ("objective_score", .int (if is_text (payload.get "run_id") "a" then 1 else 0))]
      memory_updater := fun _ _ => .ok []
      refinement_planner := fun context _ _ => .ok
        [("next_payload", .dict (named_payload (if context.iteration = 1 then "b" else "c")))] }
  target := json_config_target
  linked_resource_summary := fun _ => .ok []
  trace_advisory_summary := []
  initial_payload := named_payload "a"
  composite_text := fun _ => ""
  float_of_int := fun n => .ok (.of n)

theorem lineage_environment_run :
    ∃ run kept discarded next lineage proposal,
      lineage_environment.run .missing false 4 = some run ∧ run.passes = [kept, discarded, next]
        ∧ KeptWith kept lineage ∧ decision_of discarded = some .discard
        ∧ discarded.report.proposed_next_payload = some proposal := by
  have hpasses : (lineage_environment.run .missing false 4).map (fun run =>
      run.passes.map fun pass =>
        (decision_of pass, pass.report.proposed_next_payload.isSome))
        = some [(some .keep, true), (some .discard, true), (some .discard, true)] := by
    decide +kernel
  obtain ⟨run, hrun, hpasses⟩ := Option.map_eq_some_iff.mp hpasses
  obtain ⟨kept, rest, hsplit, hkept, hrest⟩ := List.map_eq_cons_iff.mp hpasses
  obtain ⟨discarded, rest, rfl, hdiscarded, hrest⟩ := List.map_eq_cons_iff.mp hrest
  obtain ⟨next, rest, rfl, -, hrest⟩ := List.map_eq_cons_iff.mp hrest
  obtain rfl := List.map_eq_nil_iff.mp hrest
  obtain ⟨hkeep, hlineage⟩ := Prod.mk.inj hkept
  obtain ⟨hdiscard, hproposal⟩ := Prod.mk.inj hdiscarded
  obtain ⟨lineage, hlineage⟩ := Option.isSome_iff_exists.mp hlineage
  obtain ⟨proposal, hproposal⟩ := Option.isSome_iff_exists.mp hproposal
  exact ⟨run, kept, discarded, next, lineage, proposal, hrun, hsplit, ⟨hkeep, hlineage⟩, hdiscard,
    hproposal⟩

/-- The payload discarded right after the keep is the one proposed there, and it is evaluated
once more. -/
theorem discard_selects_kept_lineage_again :
    ∃ run kept discarded next lineage,
      lineage_environment.run .missing false 4 = some run ∧ run.passes = [kept, discarded, next]
        ∧ KeptWith kept lineage ∧ decision_of discarded = some .discard
        ∧ discarded.report.payload = reread lineage ∧ next.report.payload = reread lineage := by
  obtain ⟨run, kept, discarded, next, lineage, proposal, hrun, hpasses, hkept, hdiscard, hproposed⟩ :=
    lineage_environment_run
  obtain ⟨-, hnext, hdiscarded⟩ := discard_selects_kept_lineage lineage_environment rfl rfl .missing
    4 run hrun [] [] [next] kept discarded lineage proposal hpasses hkept
    (fun pass hpass => absurd hpass (by simp)) hdiscard hproposed
  exact ⟨run, kept, discarded, next, lineage, hrun, hpasses, hkept, hdiscard, hdiscarded rfl,
    hnext next [] rfl⟩

/-- The second payload is discarded and evaluated again, after the first one was kept. -/
theorem discarded_payload_selected_again :
    PassesThrough lineage_environment.callbacks
      ∧ ∃ run, lineage_environment.run .missing false 4 = some run ∧ ¬ DiscardReverts run := by
  refine ⟨⟨fun _ => rfl, fun _ _ => rfl, _, fun _ _ => rfl⟩, ?_⟩
  obtain ⟨run, kept, discarded, next, lineage, proposal, hrun, hpasses, hkept, hdiscard, hproposed⟩ :=
    lineage_environment_run
  have hmode : lineage_environment.loop_mode = .karpathy := loop_mode_of_karpathy rfl
  obtain ⟨hpass, -⟩ := lineage_of_run hmode hrun [] kept [discarded, next] hpasses
  have hdiscarded := next_payload_of_selected hmode rfl hrun [] hpasses
    (selected_of_keep hmode hpass hkept)
  have hselected := selected_of_discard hmode hrun [] [] hpasses hkept
    (fun pass hpass => absurd hpass (by simp)) hdiscard hproposed
  have hnext := next_payload_of_selected hmode rfl hrun [kept] hpasses hselected
  exact ⟨run, hrun, fun h => h [] kept [] discarded next [] hpasses hkept.1 hdiscard
    (hnext.trans hdiscarded.symm)⟩

end ProofAlpha.Agent
