/-
The governance report on a candidate and the stage it appends to a validation:
`validation/phase4_governance.py`.
-/
import ProofAlpha.Lib.FirstBy
import ProofAlpha.Lib.Checks
import ProofAlpha.Validation.Protocol

set_option autoImplicit false

namespace ProofAlpha.Validation

open ProofAlpha.Lib

/-- `REQUIRED_ABLATION_LAYERS`. -/
def REQUIRED_ABLATION_LAYERS : List String :=
  ["backbone", "directional_filters", "flat_filters", "exits", "risk_hooks", "execution_policy"]

/-- `FAILURE_ROUTE_ACTIONS`. -/
def FAILURE_ROUTE_ACTIONS : List (String × String) :=
  [("slippage_fragile", "cost_execution_research"),
    ("regime_specific_only", "regime_scope_research"),
    ("capacity_fail", "sizing_liquidity_research"),
    ("feature_leakage", "block_candidate")]

/-- `HARD_GATE_NAMES`. -/
def HARD_GATE_NAMES : List String :=
  ["dsr", "pbo", "spa", "cpcv", "capacity_5x", "no_liquidation", "max_drawdown", "execution_rules"]

/-- `MetricSnapshot`. -/
structure MetricSnapshot (K : Type) where
  net_post_cost_return : K
  cpcv_p10_sharpe : K
  pbo_score : K
  deflated_sharpe_ratio : K
  spa_pvalue : K
  bootstrap_survival : K
  plateau_width : K
  oos_decay : K
  regime_coverage : K
  capacity_5x_edge_erosion : K
  cross_symbol_pass_rate : K
  paper_forward_score : Option K

/-- `AblationResult`. -/
structure AblationResult (K : Type) where
  layer : String
  full_return : K
  ablated_return : K

/-- `ChampionSnapshot`. -/
structure ChampionSnapshot (K : Type) where
  artifact_id : String
  net_post_cost_return : K
  hard_gate_results : Dict String Bool

/-- `CandidateGovernanceInputs`. -/
structure CandidateGovernanceInputs (K : Type) where
  candidate_id : String
  metrics : MetricSnapshot K
  ablations : List (AblationResult K)
  candidate_gate_results : Dict String Bool
  champion : Option (ChampionSnapshot K)
  failure_codes : List String
  robustness_floor : K
  paper_forward_floor : K

/-- An entry of `_ablation_payload`. -/
structure AblationRow (K : Type) where
  full_return : K
  ablated_return : K
  contribution : K

/-- The dict of `_champion_challenger`; its figures are there when there is a
champion. -/
structure ChampionChallenger (K : Type) where
  status : String
  champion_artifact_id : Option String
  champion_net_post_cost_return : Option K
  challenger_net_post_cost_return : Option K
  return_delta : Option K
  weakened_hard_gates : List String

/-- The dict of `route_failure_taxonomy`. -/
structure NextAction where
  action : String
  secondary_actions : List String

/-- `CandidateGovernanceReport`. -/
structure CandidateGovernanceReport (K : Type) where
  candidate_id : String
  status : String
  robustness_score : K
  component_scores : List (String × K)
  ablations : Dict String (AblationRow K)
  champion_challenger : ChampionChallenger K
  next_action : NextAction
  paper_forward_score : Option K
  promotion_decision : PromotionDecision

section Report

variable {K : Type} [Field K] [LinearOrder K] [FloorRing K]

omit [FloorRing K] in
/-- `_clamp` of a number. -/
def clamp (value : K) : K := max 0 (min 1 value)

/-- `_component_scores`. -/
def component_scores (metrics : MetricSnapshot K) : List (String × K) :=
  ([("cpcv_p10", clamp ((metrics.cpcv_p10_sharpe + 0.2) / 0.6)),
    ("pbo", clamp ((0.20 - metrics.pbo_score) / 0.20)),
    ("dsr", clamp ((metrics.deflated_sharpe_ratio - 0.50) / 0.50)),
    ("spa", clamp ((0.10 - metrics.spa_pvalue) / 0.10)),
    ("bootstrap_survival", clamp metrics.bootstrap_survival),
    ("plateau_width", clamp (metrics.plateau_width / 0.25)),
    ("oos_decay", clamp (1 - metrics.oos_decay / 0.50)),
    ("regime_coverage", clamp metrics.regime_coverage),
    ("capacity_5x", clamp (1 - metrics.capacity_5x_edge_erosion / 0.25)),
    ("cross_symbol_portability", clamp metrics.cross_symbol_pass_rate)]
  ++ (match metrics.paper_forward_score with
    | some score => [("paper_forward", clamp score)]
    | none => [])).map fun component => (component.1, pyRound component.2 6)

/-- `_ablation_payload`. -/
def ablation_payload (ablations : List (AblationResult K)) : Dict String (AblationRow K) :=
  ablations.foldl (fun payload ablation => payload.insert ablation.layer
    { full_return := ablation.full_return
      ablated_return := ablation.ablated_return
      contribution := pyRound (ablation.full_return - ablation.ablated_return) 6 }) ∅

/-- `_champion_challenger`. -/
def champion_challenger (inputs : CandidateGovernanceInputs K) : ChampionChallenger K :=
  match inputs.champion with
  | none =>
      { status := "no_champion"
        champion_artifact_id := none
        champion_net_post_cost_return := none
        challenger_net_post_cost_return := none
        return_delta := none
        weakened_hard_gates := [] }
  | some champion =>
      let weakened := HARD_GATE_NAMES.filter fun gate_name =>
        champion.hard_gate_results.lookup gate_name = some true
          ∧ inputs.candidate_gate_results.lookup gate_name = some false
      let return_delta := inputs.metrics.net_post_cost_return - champion.net_post_cost_return
      { status :=
          if weakened ≠ [] then "hard_gate_weakened"
          else if return_delta ≤ 0 then "challenger_loses"
          else "challenger_wins"
        champion_artifact_id := some champion.artifact_id
        champion_net_post_cost_return := some champion.net_post_cost_return
        challenger_net_post_cost_return := some inputs.metrics.net_post_cost_return
        return_delta := some (pyRound return_delta 6)
        weakened_hard_gates := weakened }

/-- `route_failure_taxonomy`. -/
def route_failure_taxonomy (failure_codes : List String) : NextAction :=
  let unique_actions := first_by id (failure_codes.filterMap fun code =>
    FAILURE_ROUTE_ACTIONS.lookup code)
  if "block_candidate" ∈ unique_actions then
    { action := "block_candidate"
      secondary_actions := unique_actions.filter fun action => action ≠ "block_candidate" }
  else
    match unique_actions with
    | [] => { action := "promote_to_paper_forward_review", secondary_actions := [] }
    | action :: rest => { action := action, secondary_actions := rest }

/-- The last loop of `_rejection_reasons`: a failure code is a reason when it
leaks features, or has a route and is not one yet. -/
def append_failure_code (reasons : List String) (code : String) : List String :=
  if code = "feature_leakage" ∨ code ∉ reasons ∧ (FAILURE_ROUTE_ACTIONS.lookup code).isSome then
    reasons ++ [code]
  else reasons

/-- `_rejection_reasons`. -/
def rejection_reasons (inputs : CandidateGovernanceInputs K) (robustness_score : K)
    (ablations : Dict String (AblationRow K)) (challenger : ChampionChallenger K) : List String :=
  let metrics := inputs.metrics
  let reasons :=
    reason_if (robustness_score < inputs.robustness_floor) "robustness_score_below_floor"
    ++ reason_if (metrics.cpcv_p10_sharpe ≤ 0) "cpcv_p10_fail"
    ++ reason_if (0.20 ≤ metrics.pbo_score) "pbo_fail"
    ++ reason_if (metrics.deflated_sharpe_ratio < 0.95) "dsr_fail"
    ++ reason_if (0.05 ≤ metrics.spa_pvalue) "spa_fail"
    ++ reason_if (metrics.bootstrap_survival < 0.60) "bootstrap_survival_fail"
    ++ reason_if (metrics.plateau_width < 0.10) "plateau_width_fail"
    ++ reason_if (0.40 < metrics.oos_decay) "oos_decay_fail"
    ++ reason_if (metrics.regime_coverage < 0.50) "regime_specific_only"
    ++ reason_if (0.25 ≤ metrics.capacity_5x_edge_erosion) "capacity_fail"
    ++ reason_if (metrics.cross_symbol_pass_rate < 0.67) "cross_symbol_portability_fail"
    ++ reason_if (metrics.paper_forward_score.any fun score => score < inputs.paper_forward_floor)
      "paper_forward_fail"
    ++ (REQUIRED_ABLATION_LAYERS.flatMap fun layer =>
      reason_if (layer ∉ ablations) ("missing_ablation:" ++ layer))
    ++ reason_if (challenger.status = "challenger_loses") "champion_challenger_return_fail"
    ++ challenger.weakened_hard_gates.map fun gate_name =>
      "champion_challenger_hard_gate_weakened:" ++ gate_name
  first_by id (inputs.failure_codes.foldl append_failure_code reasons)

/-- The reasons of the report on a candidate. -/
def governance_reasons (inputs : CandidateGovernanceInputs K) : List String :=
  let components := component_scores inputs.metrics
  rejection_reasons inputs
    (pyRound ((components.map Prod.snd).sum / (components.length : K)) 6)
    (ablation_payload inputs.ablations) (champion_challenger inputs)

/-- `build_candidate_governance_report`. -/
def build_candidate_governance_report (inputs : CandidateGovernanceInputs K) :
    CandidateGovernanceReport K :=
  let components := component_scores inputs.metrics
  let reasons := governance_reasons inputs
  { candidate_id := inputs.candidate_id
    status := if reasons = [] then "passed" else "failed"
    robustness_score := pyRound ((components.map Prod.snd).sum / (components.length : K)) 6
    component_scores := components
    ablations := ablation_payload inputs.ablations
    champion_challenger := champion_challenger inputs
    next_action :=
      if reasons ≠ [] then route_failure_taxonomy inputs.failure_codes
      else { action := "promote_to_paper_forward_review", secondary_actions := [] }
    paper_forward_score := inputs.metrics.paper_forward_score
    promotion_decision :=
      if reasons = [] then PromotionDecision.accept else PromotionDecision.reject reasons }

omit [Field K] [LinearOrder K] [FloorRing K] in
/-- `append_phase4_governance_stage`. -/
def append_phase4_governance_stage (validation : ValidationProtocol K)
    (report : CandidateGovernanceReport K) : ValidationProtocol K :=
  { validation with
    status := if validation.status = "passed" ∧ report.status = "passed" then "passed" else "failed"
    stage_results := validation.stage_results ++
      [{ stage_name := "phase4_candidate_governance"
         passed := report.status = "passed"
         reasons := report.promotion_decision.reasons }]
    validation_gate_results := validation.validation_gate_results.insert
      "phase4_candidate_governance" (report.status = "passed")
    promotion_decision :=
      if report.status ≠ "passed" then report.promotion_decision
      else validation.promotion_decision }

/-- The report passes without a reason. -/
theorem build_candidate_governance_report_passed {inputs : CandidateGovernanceInputs K}
    (h : governance_reasons inputs = []) :
    (build_candidate_governance_report inputs).status = "passed" := by
  unfold build_candidate_governance_report
  dsimp only
  rw [if_pos h]

/-- With one it fails, and rejects. -/
theorem build_candidate_governance_report_failed {inputs : CandidateGovernanceInputs K}
    (h : governance_reasons inputs ≠ []) :
    (build_candidate_governance_report inputs).status = "failed"
      ∧ (build_candidate_governance_report inputs).promotion_decision.decision = "reject" := by
  unfold build_candidate_governance_report
  dsimp only
  rw [if_neg h, if_neg h]
  exact ⟨rfl, rfl⟩

end Report

end ProofAlpha.Validation
