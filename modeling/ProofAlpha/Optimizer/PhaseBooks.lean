/-
The records of an optimisation run against the strategy it returns
(`optimizer/phases.py`, `OvernightRunner.run_pipeline`).

A record does not hold its layer, only the layer's name; its layer is the candidate it
was written for. `Replayed` adds the layers of the accepted records one by one. A
sequential phase writes what it adds. The directional phase adds one layer and marks
every candidate of that name, so a run is what its records say exactly where the best
directional candidate has a name of its own (`phase_books_iff`).
-/
import ProofAlpha.Optimizer.Phases

set_option autoImplicit false

namespace ProofAlpha.Optimizer

open ProofAlpha.Lib ProofAlpha.Config

section Books

variable {K : Type}

/-! ## Records and layers -/

/-- A record with the candidate it was written for. -/
abbrev BookedRecord (K : Type) := LayerSpec K × PhaseRecord K

/-- The layers of the records marked accepted. -/
def accepted_layers (booked : List (BookedRecord K)) : List (LayerSpec K) :=
  (booked.filter fun entry => entry.2.accepted).map Prod.fst

/-- A strategy with more layers. -/
def with_layers (strategy : StrategyGraph K) (layers : List (LayerSpec K)) : StrategyGraph K :=
  { strategy with layers := strategy.layers ++ layers }

@[simp] theorem with_layers_nil (strategy : StrategyGraph K) :
    with_layers strategy [] = strategy := by
  rw [with_layers, List.append_nil]

theorem with_layers_cons (strategy : StrategyGraph K) (layer : LayerSpec K)
    (layers : List (LayerSpec K)) :
    with_layers strategy (layer :: layers) = with_layers (strategy.with_layer layer) layers := by
  rw [with_layers, with_layers, StrategyGraph.with_layer, List.append_cons]

theorem accepted_layers_cons_true {layer : LayerSpec K} {record : PhaseRecord K}
    (h : record.accepted = true) (booked : List (BookedRecord K)) :
    accepted_layers ((layer, record) :: booked) = layer :: accepted_layers booked := by
  rw [accepted_layers, List.filter_cons, if_pos h]
  rfl

theorem accepted_layers_cons_false {layer : LayerSpec K} {record : PhaseRecord K}
    (h : record.accepted = false) (booked : List (BookedRecord K)) :
    accepted_layers ((layer, record) :: booked) = accepted_layers booked := by
  rw [accepted_layers, List.filter_cons, if_neg (by rw [h]; decide)]
  rfl

/-- What the books of a run owe: a record for the backbone and one for each candidate
that was evaluated, in order; the strategy has the layers of the accepted ones, at most
one of them directional; and the score of an accepted one is the score that the
evaluator gives its layer on the strategy so far. -/
structure Books (evaluator : Evaluator K) (incumbent : StrategyGraph K)
    (directional_layers sequential_layers : List (LayerSpec K)) (report : OvernightRunReport K)
    (first : PhaseRecord K) (booked : List (BookedRecord K)) : Prop where
  records : report.phase_records = first :: booked.map Prod.snd
  backbone : first.accepted = false
  candidates : booked.map Prod.fst = directional_layers ++ sequential_layers ∨
    report.status = "aborted" ∧ booked = []
  names : ∀ entry ∈ booked, entry.2.layer_name = entry.1.name
  layers : report.final_strategy = with_layers incumbent (accepted_layers booked)
  one_directional : (accepted_layers (booked.take directional_layers.length)).length ≤ 1
  scores : ∀ before layer record after, booked = before ++ (layer, record) :: after →
    record.accepted = true → ∃ evaluation,
      evaluator (with_layers incumbent (accepted_layers before)) layer = .ok evaluation ∧
        record.oos_sharpe = some evaluation.oos_result.sharpe

/-- The records of a run and the strategy it returns agree. -/
def PhaseBooks (evaluator : Evaluator K) (incumbent : StrategyGraph K)
    (directional_layers sequential_layers : List (LayerSpec K))
    (report : OvernightRunReport K) : Prop :=
  ∃ first booked,
    Books evaluator incumbent directional_layers sequential_layers report first booked

/-! ## Replaying records -/

/-- The records, replayed from a strategy, lead to another one. -/
inductive Replayed (evaluator : Evaluator K) :
    StrategyGraph K → List (BookedRecord K) → StrategyGraph K → Prop
  | nil (strategy : StrategyGraph K) : Replayed evaluator strategy [] strategy
  | rejected {strategy final : StrategyGraph K} {layer : LayerSpec K} {record : PhaseRecord K}
      {booked : List (BookedRecord K)} (hrecord : record.accepted = false)
      (hname : record.layer_name = layer.name) (hrest : Replayed evaluator strategy booked final) :
      Replayed evaluator strategy ((layer, record) :: booked) final
  | accepted {strategy final : StrategyGraph K} {layer : LayerSpec K} {record : PhaseRecord K}
      {evaluation : CandidateEvaluation K} {booked : List (BookedRecord K)}
      (hrecord : record.accepted = true) (hname : record.layer_name = layer.name)
      (hevaluation : evaluator strategy layer = .ok evaluation)
      (hscore : record.oos_sharpe = some evaluation.oos_result.sharpe)
      (hrest : Replayed evaluator (strategy.with_layer layer) booked final) :
      Replayed evaluator strategy ((layer, record) :: booked) final

namespace Replayed

variable {evaluator : Evaluator K} {strategy middle final : StrategyGraph K}
  {booked booked' : List (BookedRecord K)}

theorem append (h : Replayed evaluator strategy booked middle)
    (h' : Replayed evaluator middle booked' final) :
    Replayed evaluator strategy (booked ++ booked') final := by
  induction h with
  | nil => exact h'
  | rejected hrecord hname _ ih => exact .rejected hrecord hname (ih h')
  | accepted hrecord hname hevaluation hscore _ ih =>
      exact .accepted hrecord hname hevaluation hscore (ih h')

theorem of_rejected (h : ∀ entry ∈ booked,
    entry.2.accepted = false ∧ entry.2.layer_name = entry.1.name) :
    Replayed evaluator strategy booked strategy := by
  induction booked with
  | nil => exact .nil strategy
  | cons entry booked ih =>
      obtain ⟨hrecord, hname⟩ := h entry List.mem_cons_self
      exact .rejected hrecord hname
        (ih fun entry' hentry' => h entry' (List.mem_cons_of_mem _ hentry'))

theorem names (h : Replayed evaluator strategy booked final) :
    ∀ entry ∈ booked, entry.2.layer_name = entry.1.name := by
  induction h with
  | nil => exact fun entry hentry => absurd hentry List.not_mem_nil
  | rejected _ hname _ ih => exact List.forall_mem_cons.mpr ⟨hname, ih⟩
  | accepted _ hname _ _ _ ih => exact List.forall_mem_cons.mpr ⟨hname, ih⟩

theorem final_eq (h : Replayed evaluator strategy booked final) :
    final = with_layers strategy (accepted_layers booked) := by
  induction h with
  | nil strategy => exact (with_layers_nil strategy).symm
  | rejected hrecord _ _ ih => rw [accepted_layers_cons_false hrecord, ih]
  | accepted hrecord _ _ _ _ ih =>
      rw [accepted_layers_cons_true hrecord, with_layers_cons, ih]

theorem scores (h : Replayed evaluator strategy booked final) :
    ∀ before layer record after, booked = before ++ (layer, record) :: after →
      record.accepted = true → ∃ evaluation,
        evaluator (with_layers strategy (accepted_layers before)) layer = .ok evaluation ∧
          record.oos_sharpe = some evaluation.oos_result.sharpe := by
  induction h with
  | nil =>
      intro before layer record after heq
      simp at heq
  | rejected hrecord _ _ ih =>
      intro before layer record after heq haccepted
      cases before with
      | nil =>
          cases heq
          rw [hrecord] at haccepted
          cases haccepted
      | cons entry before =>
          cases heq
          rw [accepted_layers_cons_false hrecord]
          exact ih before layer record after rfl haccepted
  | accepted hrecord _ hevaluation hscore _ ih =>
      intro before layer record after heq haccepted
      cases before with
      | nil =>
          cases heq
          refine ⟨_, ?_, hscore⟩
          rw [accepted_layers, List.filter_nil, List.map_nil, with_layers_nil]
          exact hevaluation
      | cons entry before =>
          cases heq
          rw [accepted_layers_cons_true hrecord, with_layers_cons]
          exact ih before layer record after rfl haccepted

end Replayed

/-! ## The sequential phases -/

section Phases

variable {evaluator : Evaluator K}

/-- A sequential phase writes the records of what it adds. -/
theorem sequential_replayed {phase_name : String} {candidate_layers : List (LayerSpec K)} :
    ∀ {current final : StrategyGraph K} {phase_records phase_records' : List (PhaseRecord K)},
      run_sequential_phase_with_records evaluator current candidate_layers phase_name phase_records
        = .ok (final, phase_records') →
      ∃ booked, phase_records' = phase_records ++ booked.map Prod.snd ∧
        booked.map Prod.fst = candidate_layers ∧ Replayed evaluator current booked final := by
  induction candidate_layers with
  | nil =>
      intro current final phase_records phase_records' h
      cases h
      exact ⟨[], (List.append_nil _).symm, rfl, .nil current⟩
  | cons layer candidate_layers ih =>
      intro current final phase_records phase_records' h
      rw [run_sequential_phase_with_records, List.foldlM_cons] at h
      obtain ⟨s, hstep, hrest⟩ := bind_ok h
      obtain ⟨evaluation, hevaluation, hs⟩ := bind_ok hstep
      cases hs
      obtain ⟨booked, hrecords, hlayers, hreplayed⟩ := ih hrest
      refine ⟨(layer, phase_record phase_name layer.name evaluation.decision.decision
        evaluation.accepts evaluation) :: booked, ?_, ?_, ?_⟩
      · rw [hrecords, List.map_cons, List.append_assoc]
        rfl
      · rw [List.map_cons, hlayers]
      · by_cases haccepts : evaluation.accepts = true
        · rw [if_pos haccepts] at hreplayed
          exact .accepted haccepts rfl hevaluation rfl hreplayed
        · rw [if_neg haccepts] at hreplayed
          exact .rejected (Bool.eq_false_iff.mpr haccepts) rfl hreplayed

/-- The phase with records builds the strategy of the phase without. -/
theorem sequential_phase_agrees (phase_name : String) (candidate_layers : List (LayerSpec K))
    (current : StrategyGraph K) (phase_records : List (PhaseRecord K)) :
    (run_sequential_phase_with_records evaluator current candidate_layers phase_name
      phase_records).map Prod.fst = run_sequential_phase evaluator current candidate_layers := by
  induction candidate_layers generalizing current phase_records with
  | nil => rfl
  | cons layer candidate_layers ih =>
      rw [run_sequential_phase_with_records, run_sequential_phase, List.foldlM_cons,
        List.foldlM_cons, sequential_step]
      cases hevaluation : evaluator current layer with
      | error message => rfl
      | ok evaluation => exact ih _ _

/-! ## The directional phase -/

/-- The candidates are evaluated on one strategy, in order. -/
theorem evaluate_layers_eq_ok {incumbent : StrategyGraph K} {layers : List (LayerSpec K)}
    {evaluations : List (LayerSpec K × CandidateEvaluation K)}
    (h : evaluate_layers evaluator incumbent layers = .ok evaluations) :
    evaluations.map Prod.fst = layers ∧
      ∀ item ∈ evaluations, evaluator incumbent item.1 = .ok item.2 := by
  induction layers generalizing evaluations with
  | nil =>
      cases h
      exact ⟨rfl, fun item hitem => absurd hitem List.not_mem_nil⟩
  | cons layer layers ih =>
      rw [evaluate_layers, List.mapM_cons] at h
      obtain ⟨item, hitem, h⟩ := bind_ok h
      obtain ⟨evaluation, hevaluation, hpair⟩ := bind_ok hitem
      obtain ⟨rest, hrest, h⟩ := bind_ok h
      cases hpair
      cases h
      obtain ⟨hlayers, hevaluations⟩ := ih hrest
      exact ⟨by rw [List.map_cons, hlayers], List.forall_mem_cons.mpr ⟨hevaluation, hevaluations⟩⟩

variable {before after : List (LayerSpec K × CandidateEvaluation K)}
  {evaluation : CandidateEvaluation K} {item : LayerSpec K × CandidateEvaluation K}

/-- The records of the directional phase, booked. -/
def booked_directional (best : Option (LayerSpec K × K))
    (evaluations : List (LayerSpec K × CandidateEvaluation K)) : List (BookedRecord K) :=
  evaluations.map fun item => (item.1, directional_record best item)

theorem booked_directional_snd (best : Option (LayerSpec K × K))
    (evaluations : List (LayerSpec K × CandidateEvaluation K)) :
    (booked_directional best evaluations).map Prod.snd
      = evaluations.map (directional_record best) := by
  rw [booked_directional, List.map_map]
  rfl

theorem booked_directional_fst (best : Option (LayerSpec K × K))
    (evaluations : List (LayerSpec K × CandidateEvaluation K)) :
    (booked_directional best evaluations).map Prod.fst = evaluations.map Prod.fst := by
  rw [booked_directional, List.map_map]
  rfl

/-- A candidate of another name than the best is not marked. -/
theorem directional_record_other {layer : LayerSpec K} {sharpe : K}
    (h : item.1.name ≠ layer.name) :
    (directional_record (some (layer, sharpe)) item).accepted = false :=
  beq_eq_false_iff_ne.mpr h

/-- Two candidates of the best one's name are both marked. -/
theorem two_accepted {best : LayerSpec K} {sharpe : K}
    {other : LayerSpec K × CandidateEvaluation K} {layer : LayerSpec K}
    (hlayer : layer.name = best.name) (hother : other.1.name = best.name)
    (hmem : other ∈ before ++ after) :
    2 ≤ ((before ++ (layer, evaluation) :: after).map
      (directional_record (some (best, sharpe)))).countP PhaseRecord.accepted := by
  have hmark : ∀ item : LayerSpec K × CandidateEvaluation K, item.1.name = best.name →
      (directional_record (some (best, sharpe)) item).accepted = true :=
    fun item hname => beq_iff_eq.mpr hname
  have hrest : 1 ≤ ((before ++ after).map (directional_record (some (best, sharpe)))).countP
      PhaseRecord.accepted :=
    List.countP_pos_iff.mpr ⟨_, List.mem_map_of_mem hmem, hmark other hother⟩
  rw [List.map_append, List.countP_append] at hrest ⊢
  rw [List.map_cons, List.countP_cons_of_pos (hmark (layer, evaluation) hlayer)]
  omega

section Best

variable [LinearOrder K]

theorem directional_phase_agrees (incumbent : StrategyGraph K)
    (directional_layers : List (LayerSpec K)) (phase_records : List (PhaseRecord K)) :
    (run_directional_phase_with_records evaluator incumbent directional_layers phase_records).map
      Prod.fst = run_directional_phase evaluator incumbent directional_layers := by
  rw [run_directional_phase_with_records, run_directional_phase]
  cases evaluate_layers evaluator incumbent directional_layers with
  | error message => rfl
  | ok evaluations => rfl

/-- Where the best layer stands among the evaluations: above every accepted one before
it, and not below one after it. -/
structure BestOf (before : List (LayerSpec K × CandidateEvaluation K))
    (evaluation : CandidateEvaluation K) (after : List (LayerSpec K × CandidateEvaluation K)) :
    Prop where
  accepts : evaluation.accepts = true
  above : ∀ item ∈ before, item.2.accepts = true →
    item.2.oos_result.sharpe < evaluation.oos_result.sharpe
  not_below : ∀ item ∈ after, item.2.accepts = true →
    item.2.oos_result.sharpe ≤ evaluation.oos_result.sharpe

/-- The best stays the best when one follows that is rejected or not better. -/
theorem BestOf.push (h : BestOf before evaluation after)
    (hitem : item.2.accepts = true → item.2.oos_result.sharpe ≤ evaluation.oos_result.sharpe) :
    BestOf before evaluation (after ++ [item]) := by
  refine ⟨h.accepts, h.above, fun other hother haccepts => ?_⟩
  rcases List.mem_append.mp hother with hafter | hlast
  · exact h.not_below other hafter haccepts
  · rw [List.mem_singleton.mp hlast] at haccepts ⊢
    exact hitem haccepts

/-- A better one that follows is the best. -/
theorem BestOf.replace (h : BestOf before evaluation after) {layer : LayerSpec K}
    (haccepts : item.2.accepts = true)
    (hbetter : evaluation.oos_result.sharpe < item.2.oos_result.sharpe) :
    BestOf (before ++ (layer, evaluation) :: after) item.2 [] := by
  refine ⟨haccepts, fun other hother haccepts' => ?_, by simp⟩
  rcases List.mem_append.mp hother with hbefore | hrest
  · exact (h.above other hbefore haccepts').trans hbetter
  · rcases List.mem_cons.mp hrest with rfl | hafter
    · exact hbetter
    · exact (h.not_below other hafter haccepts').trans_lt hbetter

theorem keep_best_layer_of_rejected (best : Option (LayerSpec K × K))
    (h : item.2.accepts = false) : keep_best_layer best item = best := by
  unfold keep_best_layer
  rw [h]
  rfl

theorem keep_best_layer_none (h : item.2.accepts = true) :
    keep_best_layer none item = some (item.1, item.2.oos_result.sharpe) := by
  unfold keep_best_layer
  rw [h]
  rfl

theorem keep_best_layer_some (layer : LayerSpec K) (sharpe : K) (h : item.2.accepts = true) :
    keep_best_layer (some (layer, sharpe)) item
      = if sharpe < item.2.oos_result.sharpe then some (item.1, item.2.oos_result.sharpe)
        else some (layer, sharpe) := by
  unfold keep_best_layer
  rw [h]
  rfl

/-- What the loop over the evaluations keeps: nothing where all are rejected, and
otherwise the best. -/
theorem foldl_keep_best_layer (evaluations : List (LayerSpec K × CandidateEvaluation K)) :
    (evaluations.foldl keep_best_layer none = none ∧
      ∀ item ∈ evaluations, item.2.accepts = false) ∨
    ∃ before layer evaluation after, evaluations = before ++ (layer, evaluation) :: after ∧
      BestOf before evaluation after ∧
      evaluations.foldl keep_best_layer none = some (layer, evaluation.oos_result.sharpe) := by
  induction evaluations using List.reverseRecOn with
  | nil => exact Or.inl ⟨rfl, fun item hitem => absurd hitem List.not_mem_nil⟩
  | append_singleton evaluations item ih =>
      rw [List.foldl_concat]
      by_cases haccepts : item.2.accepts = true
      · rcases ih with ⟨hnone, hrejected⟩ | ⟨before, layer, evaluation, after, heq, hbest, hfold⟩
        · -- the first one that is accepted
          refine Or.inr ⟨evaluations, item.1, item.2, [], rfl, ⟨haccepts, ?_, by simp⟩, ?_⟩
          · exact fun other hother haccepts' =>
              absurd haccepts' (by rw [hrejected other hother]; decide)
          · rw [hnone, keep_best_layer_none haccepts]
        · rw [hfold, keep_best_layer_some _ _ haccepts]
          by_cases hbetter : evaluation.oos_result.sharpe < item.2.oos_result.sharpe
          · rw [if_pos hbetter]
            exact Or.inr ⟨evaluations, item.1, item.2, [], rfl,
              heq ▸ hbest.replace haccepts hbetter, rfl⟩
          · rw [if_neg hbetter]
            exact Or.inr ⟨before, layer, evaluation, after ++ [item], by simp [heq],
              hbest.push fun _ => not_lt.mp hbetter, rfl⟩
      · have hrejects : item.2.accepts = false := Bool.eq_false_iff.mpr haccepts
        rw [keep_best_layer_of_rejected _ hrejects]
        rcases ih with ⟨hnone, hrejected⟩ | ⟨before, layer, evaluation, after, heq, hbest, hfold⟩
        · refine Or.inl ⟨hnone, fun other hother => ?_⟩
          rcases List.mem_append.mp hother with hold | hlast
          · exact hrejected other hold
          · rw [List.mem_singleton.mp hlast]
            exact hrejects
        · exact Or.inr ⟨before, layer, evaluation, after ++ [item], by simp [heq],
            hbest.push fun h => absurd h haccepts, hfold⟩

/-- There is one best only. -/
theorem BestOf.unique {before' after' : List (LayerSpec K × CandidateEvaluation K)}
    {evaluation' : CandidateEvaluation K} {layer layer' : LayerSpec K}
    (h : BestOf before evaluation after) (h' : BestOf before' evaluation' after')
    (heq : before ++ (layer, evaluation) :: after = before' ++ (layer', evaluation') :: after') :
    before = before' ∧ layer = layer' ∧ after = after' := by
  rcases List.append_eq_append_iff.mp heq with ⟨between, hbefore, hrest⟩ | ⟨between, hbefore, hrest⟩
  · cases between with
    | nil =>
        cases hrest
        exact ⟨by rw [hbefore, List.append_nil], rfl, rfl⟩
    | cons first between =>
        -- the first best would be below the second and not below it
        cases hrest
        have hlt := h'.above (layer, evaluation) (by rw [hbefore]; simp) h.accepts
        have hle := h.not_below (layer', evaluation') (by simp) h'.accepts
        exact absurd hle (not_le.mpr hlt)
  · cases between with
    | nil =>
        cases hrest
        exact ⟨by rw [hbefore, List.append_nil], rfl, rfl⟩
    | cons first between =>
        cases hrest
        have hlt := h.above (layer', evaluation') (by rw [hbefore]; simp) h'.accepts
        have hle := h'.not_below (layer, evaluation) (by simp) h.accepts
        exact absurd hle (not_le.mpr hlt)

/-- The directional phase writes what it adds if the best has a name of its own. -/
theorem directional_replayed {incumbent : StrategyGraph K}
    {evaluations : List (LayerSpec K × CandidateEvaluation K)}
    (hevaluations : ∀ item ∈ evaluations, evaluator incumbent item.1 = .ok item.2)
    (hown : ∀ before layer evaluation after, evaluations = before ++ (layer, evaluation) :: after →
      BestOf before evaluation after → ∀ other ∈ before ++ after, other.1.name ≠ layer.name) :
    Replayed evaluator incumbent
      (booked_directional (evaluations.foldl keep_best_layer none) evaluations)
      (with_best_layer incumbent (evaluations.foldl keep_best_layer none)) := by
  rcases foldl_keep_best_layer evaluations with
    ⟨hnone, -⟩ | ⟨before, layer, evaluation, after, heq, hbest, hfold⟩
  · rw [hnone]
    refine Replayed.of_rejected fun entry hentry => ?_
    obtain ⟨item, -, rfl⟩ := List.mem_map.mp hentry
    exact ⟨rfl, rfl⟩
  · rw [hfold]
    have hother := hown before layer evaluation after heq hbest
    have hrejected : ∀ items : List (LayerSpec K × CandidateEvaluation K),
        (∀ item ∈ items, item.1.name ≠ layer.name) → ∀ strategy : StrategyGraph K,
        Replayed evaluator strategy
          (booked_directional (some (layer, evaluation.oos_result.sharpe)) items) strategy := by
      intro items hitems strategy
      refine Replayed.of_rejected fun entry hentry => ?_
      obtain ⟨item, hitem, rfl⟩ := List.mem_map.mp hentry
      exact ⟨directional_record_other (hitems item hitem), rfl⟩
    rw [heq, booked_directional, List.map_append, List.map_cons]
    refine (hrejected before (fun item hitem =>
      hother item (List.mem_append_left _ hitem)) incumbent).append ?_
    refine .accepted (beq_self_eq_true layer.name) rfl
      (hevaluations (layer, evaluation) (by rw [heq]; simp)) rfl ?_
    exact hrejected after (fun item hitem => hother item (List.mem_append_right _ hitem)) _

end Best

/-! ## The run -/

section Run

variable [Field K] [LinearOrder K]

/-- What a run does: it stops at the backbone, or it goes through the phases. -/
theorem run_pipeline_cases {incumbent : StrategyGraph K}
    {directional_layers known_good_filters custom_filters exit_layers : List (LayerSpec K)}
    {validation_executor : Option (ValidationExecutor K)} {report : OvernightRunReport K}
    (h : run_pipeline evaluator incumbent directional_layers known_good_filters custom_filters
      exit_layers validation_executor = .ok report) :
    ∃ backbone, evaluator incumbent (backbone_layer incumbent) = .ok backbone ∧
      ((backbone.oos_result.sharpe < 0.05 ∧ report.status = "aborted" ∧
          report.final_strategy = incumbent ∧
          report.phase_records = [phase_record "phase-1" incumbent.backbone "abort" false backbone]) ∨
        (¬ backbone.oos_result.sharpe < 0.05 ∧ ∃ evaluations booked,
          evaluate_layers evaluator incumbent directional_layers = .ok evaluations ∧
          report.phase_records = phase_record "phase-1" incumbent.backbone
              backbone.decision.decision false backbone ::
            (booked_directional (evaluations.foldl keep_best_layer none) evaluations
              ++ booked).map Prod.snd ∧
          booked.map Prod.fst = known_good_filters ++ custom_filters ++ exit_layers ∧
          Replayed evaluator
            (with_best_layer incumbent (evaluations.foldl keep_best_layer none)) booked
            report.final_strategy)) := by
  rw [run_pipeline] at h
  obtain ⟨backbone, hbackbone, h⟩ := bind_ok h
  refine ⟨backbone, hbackbone, ?_⟩
  split_ifs at h with habort
  · cases h
    exact Or.inl ⟨habort, rfl, rfl, rfl⟩
  · refine Or.inr ⟨habort, ?_⟩
    obtain ⟨directional, hdirectional, h⟩ := bind_ok h
    obtain ⟨evaluations, hevaluations, hphase⟩ := bind_ok hdirectional
    cases hphase
    -- between the phases the strategy is evaluated again, which writes no record
    obtain ⟨_, -, h⟩ := bind_ok h
    obtain ⟨⟨current, records⟩, hknown, h⟩ := bind_ok h
    obtain ⟨_, -, h⟩ := bind_ok h
    obtain ⟨⟨current', records'⟩, hcustom, h⟩ := bind_ok h
    obtain ⟨_, -, h⟩ := bind_ok h
    obtain ⟨⟨final, records''⟩, hexit, h⟩ := bind_ok h
    obtain ⟨_, -, h⟩ := bind_ok h
    obtain ⟨known, hrecords, hknown_layers, hknown_replayed⟩ := sequential_replayed hknown
    obtain ⟨custom, hrecords', hcustom_layers, hcustom_replayed⟩ := sequential_replayed hcustom
    obtain ⟨exits, hrecords'', hexit_layers, hexit_replayed⟩ := sequential_replayed hexit
    have hreport : report.final_strategy = final ∧ report.phase_records = records'' := by
      unfold validated_report at h
      split at h
      · cases h
        exact ⟨rfl, rfl⟩
      · obtain ⟨protocol, -, h⟩ := bind_ok h
        cases h
        exact ⟨rfl, rfl⟩
    refine ⟨evaluations, known ++ custom ++ exits, hevaluations, ?_, ?_, ?_⟩
    · rw [hreport.2, hrecords'', hrecords', hrecords]
      simp [booked_directional_snd]
    · rw [List.map_append, List.map_append, hknown_layers, hcustom_layers, hexit_layers]
    · rw [hreport.1]
      exact (hknown_replayed.append hcustom_replayed).append hexit_replayed

/-- The layer that the directional phase adds: the first accepted one of the highest
out-of-sample Sharpe ratio. -/
def IsBestLayer (evaluator : Evaluator K) (incumbent : StrategyGraph K)
    (before : List (LayerSpec K)) (layer : LayerSpec K) (after : List (LayerSpec K)) : Prop :=
  ∃ evaluation, evaluator incumbent layer = .ok evaluation ∧ evaluation.accepts = true ∧
    (∀ earlier ∈ before, ∀ evaluation', evaluator incumbent earlier = .ok evaluation' →
      evaluation'.accepts = true →
        evaluation'.oos_result.sharpe < evaluation.oos_result.sharpe) ∧
    (∀ later ∈ after, ∀ evaluation', evaluator incumbent later = .ok evaluation' →
      evaluation'.accepts = true →
        evaluation'.oos_result.sharpe ≤ evaluation.oos_result.sharpe)

/-- Unless the run stops at the backbone, the best directional candidate shares its name
with no other. -/
def BestHasOwnName (evaluator : Evaluator K) (incumbent : StrategyGraph K)
    (directional_layers : List (LayerSpec K)) : Prop :=
  (∀ backbone, evaluator incumbent (backbone_layer incumbent) = .ok backbone →
    ¬ backbone.oos_result.sharpe < 0.05) →
  ∀ before layer after, directional_layers = before ++ layer :: after →
    IsBestLayer evaluator incumbent before layer after →
    ∀ other ∈ before ++ after, other.name ≠ layer.name

omit [Field K] in
/-- The best of the evaluations is the best of the candidates. -/
theorem bestOf_iff {incumbent : StrategyGraph K} {layer : LayerSpec K}
    (hbefore : ∀ item ∈ before, evaluator incumbent item.1 = .ok item.2)
    (hlayer : evaluator incumbent layer = .ok evaluation)
    (hafter : ∀ item ∈ after, evaluator incumbent item.1 = .ok item.2) :
    IsBestLayer evaluator incumbent (before.map Prod.fst) layer (after.map Prod.fst) ↔
      BestOf before evaluation after := by
  have hread : ∀ items : List (LayerSpec K × CandidateEvaluation K),
      (∀ item ∈ items, evaluator incumbent item.1 = .ok item.2) →
      ∀ p : CandidateEvaluation K → Prop,
        (∀ layer' ∈ items.map Prod.fst, ∀ evaluation',
          evaluator incumbent layer' = .ok evaluation' → p evaluation') ↔
            ∀ item ∈ items, p item.2 := by
    intro items hitems p
    rw [List.forall_mem_map]
    refine forall₂_congr fun item hitem => ?_
    rw [hitems item hitem]
    simp only [Except.ok.injEq, forall_eq']
  rw [IsBestLayer, hlayer]
  simp only [Except.ok.injEq, exists_eq_left']
  rw [hread before hbefore fun evaluation' => evaluation'.accepts = true →
      evaluation'.oos_result.sharpe < evaluation.oos_result.sharpe,
    hread after hafter fun evaluation' => evaluation'.accepts = true →
      evaluation'.oos_result.sharpe ≤ evaluation.oos_result.sharpe]
  exact ⟨fun h => ⟨h.1, h.2.1, h.2.2⟩, fun h => ⟨h.accepts, h.above, h.not_below⟩⟩

/-! ## What the records say -/

omit [Field K] [LinearOrder K] in
theorem length_accepted_layers (booked : List (BookedRecord K)) :
    (accepted_layers booked).length = (booked.map Prod.snd).countP PhaseRecord.accepted := by
  rw [accepted_layers, List.length_map, ← List.countP_eq_length_filter, List.countP_map]
  rfl

omit [Field K] [LinearOrder K] in
/-- The books mark one directional candidate at most. -/
theorem Books.marks_one {incumbent : StrategyGraph K}
    {directional_layers sequential_layers : List (LayerSpec K)} {report : OvernightRunReport K}
    {first first' : PhaseRecord K} {booked rest : List (BookedRecord K)}
    {best : Option (LayerSpec K × K)} {evaluations : List (LayerSpec K × CandidateEvaluation K)}
    (h : Books evaluator incumbent directional_layers sequential_layers report first booked)
    (hlayers : evaluations.map Prod.fst = directional_layers)
    (hrecords : report.phase_records
      = first' :: (booked_directional best evaluations ++ rest).map Prod.snd) :
    (evaluations.map (directional_record best)).countP PhaseRecord.accepted ≤ 1 := by
  have hbooked : booked.map Prod.snd
      = evaluations.map (directional_record best) ++ rest.map Prod.snd := by
    rw [h.records, List.map_append, booked_directional_snd] at hrecords
    exact (List.cons.inj hrecords).2
  have hlength : directional_layers.length
      = (evaluations.map (directional_record best)).length := by
    rw [← hlayers, List.length_map, List.length_map]
  have htake : (booked.take directional_layers.length).map Prod.snd
      = evaluations.map (directional_record best) := by
    rw [List.map_take, hbooked, hlength, List.take_left]
  have hone := h.one_directional
  rw [length_accepted_layers, htake] at hone
  exact hone

omit [Field K] in
/-- If one directional candidate is marked at most, the best has a name of its own. -/
theorem own_name_of_marks_one {incumbent : StrategyGraph K}
    {evaluations : List (LayerSpec K × CandidateEvaluation K)}
    (hevaluations : ∀ item ∈ evaluations, evaluator incumbent item.1 = .ok item.2)
    (hone : (evaluations.map (directional_record (evaluations.foldl keep_best_layer none))).countP
      PhaseRecord.accepted ≤ 1)
    {layers_before layers_after : List (LayerSpec K)} {layer other : LayerSpec K}
    (heq : evaluations.map Prod.fst = layers_before ++ layer :: layers_after)
    (hbest : IsBestLayer evaluator incumbent layers_before layer layers_after)
    (hother : other ∈ layers_before ++ layers_after) : other.name ≠ layer.name := by
  -- the evaluations are cut where the candidates are
  obtain ⟨before, rest, rfl, rfl, hrest⟩ := List.map_eq_append_iff.mp heq
  obtain ⟨⟨best, evaluation⟩, after, rfl, rfl, rfl⟩ := List.map_eq_cons_iff.mp hrest
  have hbestOf : BestOf before evaluation after :=
    (bestOf_iff (fun item hitem => hevaluations item (List.mem_append_left _ hitem))
      (hevaluations (best, evaluation) (by simp))
      fun item hitem => hevaluations item
        (List.mem_append_right _ (List.mem_cons_of_mem _ hitem))).mp hbest
  have hfold : (before ++ (best, evaluation) :: after).foldl keep_best_layer none
      = some (best, evaluation.oos_result.sharpe) := by
    rcases foldl_keep_best_layer (before ++ (best, evaluation) :: after) with
      ⟨-, hrejected⟩ | ⟨before', layer', evaluation', after', heq', hbest', hfold⟩
    · exact absurd hbestOf.accepts (by rw [hrejected (best, evaluation) (by simp)]; decide)
    · obtain ⟨rfl, rfl, rfl⟩ := hbestOf.unique hbest' heq'
      rw [hfold]
      obtain ⟨-, hcons⟩ := List.append_inj heq' rfl
      cases hcons
      rfl
  -- the other one of its name would be marked beside it
  rw [hfold] at hone
  rw [← List.map_append] at hother
  obtain ⟨item, hitem, rfl⟩ := List.mem_map.mp hother
  intro hname
  have htwo : 2 ≤ ((before ++ (best, evaluation) :: after).map
      (directional_record (some (best, evaluation.oos_result.sharpe)))).countP
        PhaseRecord.accepted := two_accepted rfl hname hitem
  omega

omit [Field K] in
/-- The best layer has a name of its own among the candidates, read for the evaluations. -/
theorem own_name_of_candidates {incumbent : StrategyGraph K}
    {evaluations : List (LayerSpec K × CandidateEvaluation K)}
    (hevaluations : ∀ item ∈ evaluations, evaluator incumbent item.1 = .ok item.2)
    (hown : ∀ before layer after, evaluations.map Prod.fst = before ++ layer :: after →
      IsBestLayer evaluator incumbent before layer after →
      ∀ other ∈ before ++ after, other.name ≠ layer.name)
    (before : List (LayerSpec K × CandidateEvaluation K)) (layer : LayerSpec K)
    (evaluation : CandidateEvaluation K) (after : List (LayerSpec K × CandidateEvaluation K))
    (heq : evaluations = before ++ (layer, evaluation) :: after)
    (hbest : BestOf before evaluation after) :
    ∀ other ∈ before ++ after, other.1.name ≠ layer.name := by
  subst heq
  have hlayer : IsBestLayer evaluator incumbent (before.map Prod.fst) layer
      (after.map Prod.fst) :=
    (bestOf_iff (fun item hitem => hevaluations item (List.mem_append_left _ hitem))
      (hevaluations (layer, evaluation) (by simp))
      fun item hitem => hevaluations item
        (List.mem_append_right _ (List.mem_cons_of_mem _ hitem))).mpr hbest
  intro other hother
  refine hown (before.map Prod.fst) layer (after.map Prod.fst) ?_ hlayer other.1 ?_
  · rw [List.map_append, List.map_cons]
  · rw [← List.map_append]
    exact List.mem_map_of_mem hother

omit [Field K] [LinearOrder K] in
/-- A replay of the records of all candidates is a set of books. -/
theorem books_of_replayed {incumbent : StrategyGraph K}
    {directional_layers sequential_layers : List (LayerSpec K)} {report : OvernightRunReport K}
    {first : PhaseRecord K} {directional booked : List (BookedRecord K)}
    {best : Option (LayerSpec K × K)} (hfirst : first.accepted = false)
    (hrecords : report.phase_records = first :: (directional ++ booked).map Prod.snd)
    (hdirectional : directional.map Prod.fst = directional_layers)
    (hbooked : booked.map Prod.fst = sequential_layers)
    (hadded : Replayed evaluator incumbent directional (with_best_layer incumbent best))
    (hreplayed : Replayed evaluator (with_best_layer incumbent best) booked
      report.final_strategy) :
    Books evaluator incumbent directional_layers sequential_layers report first
      (directional ++ booked) := by
  have hall := hadded.append hreplayed
  refine ⟨hrecords, hfirst, Or.inl ?_, hall.names, hall.final_eq, ?_, hall.scores⟩
  · rw [List.map_append, hdirectional, hbooked]
  · -- the phase adds one layer at most, and its records those of the accepted
    rw [← hdirectional, List.length_map, List.take_left]
    have hlayers := congrArg StrategyGraph.layers hadded.final_eq
    cases best with
    | none =>
        have hnone := List.self_eq_append_right.mp hlayers
        rw [hnone]
        exact Nat.zero_le 1
    | some best =>
        have hone := List.append_cancel_left hlayers
        rw [← hone]
        exact le_refl 1

/-- Where the records are what a run did, the best directional candidate has a name of
its own. -/
theorem own_name_of_books {incumbent : StrategyGraph K}
    {directional_layers known_good_filters custom_filters exit_layers : List (LayerSpec K)}
    {validation_executor : Option (ValidationExecutor K)} {report : OvernightRunReport K}
    (h : run_pipeline evaluator incumbent directional_layers known_good_filters custom_filters
      exit_layers validation_executor = .ok report)
    (hbooks : PhaseBooks evaluator incumbent directional_layers
      (known_good_filters ++ custom_filters ++ exit_layers) report) :
    BestHasOwnName evaluator incumbent directional_layers := by
  intro hgoes_on before layer after heq hbest other hother
  obtain ⟨first, booked', hbooks⟩ := hbooks
  obtain ⟨backbone, hbackbone, ⟨habort, -⟩ | ⟨-, evaluations, booked, hevaluations, hrecords, -⟩⟩ :=
    run_pipeline_cases h
  · exact absurd habort (hgoes_on backbone hbackbone)
  · obtain ⟨hlayers, hitems⟩ := evaluate_layers_eq_ok hevaluations
    exact own_name_of_marks_one hitems (hbooks.marks_one hlayers hrecords) (hlayers.trans heq)
      hbest hother

/-- A run's records are what it did exactly where it stops at the backbone or the best
directional candidate has a name of its own. -/
theorem phase_books_iff (evaluator : Evaluator K) (incumbent : StrategyGraph K)
    (directional_layers known_good_filters custom_filters exit_layers : List (LayerSpec K))
    (validation_executor : Option (ValidationExecutor K)) {report : OvernightRunReport K}
    (h : run_pipeline evaluator incumbent directional_layers known_good_filters custom_filters
      exit_layers validation_executor = .ok report) :
    PhaseBooks evaluator incumbent directional_layers
        (known_good_filters ++ custom_filters ++ exit_layers) report ↔
      BestHasOwnName evaluator incumbent directional_layers := by
  refine ⟨own_name_of_books h, fun hown => ?_⟩
  obtain ⟨backbone, hbackbone, ⟨-, hstatus, hfinal, hrecords⟩ |
    ⟨hgoes_on, evaluations, booked, hevaluations, hrecords, hbooked, hreplayed⟩⟩ :=
    run_pipeline_cases h
  · -- the run stops at the backbone: there is nothing to book
    refine ⟨_, [], hrecords, rfl, Or.inr ⟨hstatus, rfl⟩, by simp, ?_, by simp [accepted_layers], ?_⟩
    · rw [hfinal, accepted_layers, List.filter_nil, List.map_nil, with_layers_nil]
    · intro before layer record after heq
      simp at heq
  · obtain ⟨hlayers, hitems⟩ := evaluate_layers_eq_ok hevaluations
    have hnames := hown fun backbone' hbackbone' => by
      rw [hbackbone] at hbackbone'
      cases hbackbone'
      exact hgoes_on
    rw [← hlayers] at hnames
    exact ⟨_, _, books_of_replayed rfl hrecords ((booked_directional_fst _ _).trans hlayers)
      hbooked (directional_replayed hitems (own_name_of_candidates hitems hnames)) hreplayed⟩

end Run

end Phases

end Books

/-! ## A name that two candidates share -/

/-- An evaluation that accepts, or rejects. -/
def kama_evaluation (layer : LayerSpec ℚ) (accepts : Bool) : CandidateEvaluation ℚ where
  layer_name := layer.name
  decision := if accepts then .accept else .reject ["net_profit"]
  train_result := ⟨4, 1, 1, 1, 0, 0, 1, 1, 0, [], [], none⟩
  oos_result := ⟨4, 1, 1, 1, 0, 0, 1, 1, 0, [], [], none⟩
  bootstrap_report := ⟨1, 0⟩

/-- Accepts a layer of a precedence below 1. -/
def kama_evaluator : Evaluator ℚ := fun _ layer =>
  .ok (kama_evaluation layer (decide (layer.precedence < 1)))

def kama_strategy : StrategyGraph ℚ := { backbone := "momentum" }

def kama : LayerSpec ℚ := { name := "kama", family := .directional_filter }

def other_kama : LayerSpec ℚ := { name := "kama", family := .directional_filter, precedence := 1 }

/-- The run on two candidates of one name, of which the evaluator accepts the first. -/
theorem kama_run :
    ∃ report, run_pipeline kama_evaluator kama_strategy [kama, other_kama] [] [] [] none
        = .ok report ∧
      report.phase_records.map (fun record => (record.layer_name, record.decision, record.accepted))
        = [("momentum", "accept", false), ("kama", "accept", true), ("kama", "reject", true)] ∧
      report.final_strategy.layers.length = 1 := by
  have hok : (run_pipeline kama_evaluator kama_strategy [kama, other_kama] [] [] [] none).map
      (fun report => (report.phase_records.map
          (fun record => (record.layer_name, record.decision, record.accepted)),
        report.final_strategy.layers.length))
      = .ok ([("momentum", "accept", false), ("kama", "accept", true), ("kama", "reject", true)],
          1) := by
    decide +kernel
  cases hrun : run_pipeline kama_evaluator kama_strategy [kama, other_kama] [] [] [] none with
  | error message =>
      rw [hrun] at hok
      cases hok
  | ok report =>
      rw [hrun] at hok
      obtain ⟨hrecords, hlayers⟩ := Prod.mk.inj (Except.ok.inj hok)
      exact ⟨report, rfl, hrecords, hlayers⟩

theorem kama_shares_its_name :
    ¬ BestHasOwnName kama_evaluator kama_strategy [kama, other_kama] := by
  intro hown
  refine hown ?_ [] kama [other_kama] rfl ⟨kama_evaluation kama true, rfl, rfl, ?_, ?_⟩
    other_kama List.mem_cons_self rfl
  · intro backbone hbackbone
    cases hbackbone
    decide +kernel
  · exact fun earlier hearlier => absurd hearlier List.not_mem_nil
  · intro later hlater evaluation hevaluation haccepts
    rw [List.mem_singleton.mp hlater] at hevaluation
    cases hevaluation
    cases haccepts

/-- The candidate that is rejected is marked accepted: it has the name of the one that
is added. -/
theorem directional_records_marked_by_name :
    ∃ report, run_pipeline kama_evaluator kama_strategy [kama, other_kama] [] [] [] none
        = .ok report ∧
      report.phase_records.map (fun record => (record.layer_name, record.decision, record.accepted))
        = [("momentum", "accept", false), ("kama", "accept", true), ("kama", "reject", true)] ∧
      report.final_strategy.layers.length = 1 ∧
      ¬ PhaseBooks kama_evaluator kama_strategy [kama, other_kama] [] report := by
  obtain ⟨report, hrun, hrecords, hlayers⟩ := kama_run
  exact ⟨report, hrun, hrecords, hlayers, fun hbooks =>
    kama_shares_its_name (own_name_of_books hrun hbooks)⟩

/-- The run that adds one of the two. -/
theorem phase_books_iff_kama :
    ∃ report, run_pipeline kama_evaluator kama_strategy [kama, other_kama] [] [] [] none
        = .ok report ∧
      (PhaseBooks kama_evaluator kama_strategy [kama, other_kama] ([] ++ [] ++ []) report ↔
        BestHasOwnName kama_evaluator kama_strategy [kama, other_kama]) := by
  obtain ⟨report, hrun, -⟩ := kama_run
  exact ⟨report, hrun,
    phase_books_iff kama_evaluator kama_strategy [kama, other_kama] [] [] [] none hrun⟩

end ProofAlpha.Optimizer
