/-
The verdict of a validation over the stages that are appended to it.

A protocol that rejects keeps rejecting (`stage_verdict_reject`). Its status and
its decision tell the same story but in one case: `run_validation_protocol`
accepts with the status `warning` when only gates that are not enforced fail, and
the appended stages know no status but `passed` and `failed`, so a stage that
passes makes a failed protocol of it that still accepts. `verdict_sound_iff` says
when this happens.
-/
import ProofAlpha.Validation.CandidateGovernance
import ProofAlpha.Validation.Promotion

set_option autoImplicit false

namespace ProofAlpha.Validation

open ProofAlpha.Lib
open ProofAlpha.Backtest (BacktestResult)

/-! ## Verdicts -/

/-- The status of a protocol and the word of its decision. -/
structure Verdict where
  status : String
  decision : String
  deriving DecidableEq

/-- The verdict of a protocol. -/
def ValidationProtocol.verdict {K : Type} (validation : ValidationProtocol K) : Verdict :=
  ⟨validation.status, validation.promotion_decision.decision⟩

theorem ValidationProtocol.verdict_decision {K : Type} (validation : ValidationProtocol K) :
    validation.verdict.decision = validation.promotion_decision.decision := rfl

/-- The status is `failed` exactly when the decision rejects. -/
def Verdict.Consistent (verdict : Verdict) : Prop :=
  verdict.status = "failed" ↔ verdict.decision = "reject"

/-- What a stage makes of a verdict: one that does not pass rejects, one that
passes keeps the decision, and the status `passed`. -/
def stage_verdict (verdict : Verdict) (passed : Prop) [Decidable passed] : Verdict :=
  if passed then
    ⟨if verdict.status = "passed" then "passed" else "failed", verdict.decision⟩
  else ⟨"failed", "reject"⟩

/-- No stage takes a rejection back. -/
theorem stage_verdict_reject {verdict : Verdict} (passed : Prop) [Decidable passed]
    (h : verdict.decision = "reject") : (stage_verdict verdict passed).decision = "reject" := by
  unfold stage_verdict
  by_cases hpassed : passed
  · rw [if_pos hpassed]
    exact h
  · rw [if_neg hpassed]

/-- A stage keeps status and decision together unless it passes on a protocol
that accepts without the status `passed`. -/
theorem stage_verdict_consistent_iff {verdict : Verdict} (hconsistent : verdict.Consistent)
    (passed : Prop) [Decidable passed] : (stage_verdict verdict passed).Consistent
      ↔ ¬ (passed ∧ verdict.status ≠ "passed" ∧ verdict.decision ≠ "reject") := by
  unfold stage_verdict Verdict.Consistent
  by_cases hpassed : passed
  · rw [if_pos hpassed]
    dsimp only
    by_cases hstatus : verdict.status = "passed"
    · have haccepts : verdict.decision ≠ "reject" := by
        intro hreject
        have hfailed := hconsistent.mpr hreject
        rw [hstatus] at hfailed
        exact absurd hfailed (by decide)
      simp [hstatus, haccepts]
    · simp [hpassed, hstatus]
  · simp [hpassed]

section Chain

variable {K : Type} [Field K] [LinearOrder K] [FloorRing K]

/-! ## The verdicts of the chain -/

/-- The verdict of a run: failed on an enforced gate, with a warning on another,
else passed. -/
theorem verdict_run_validation_protocol (evidence : ValidationEvidence K)
    (opts : ProtocolOptions K) : (run_validation_protocol evidence opts).verdict
      = if failed_gates evidence opts ≠ [] then ⟨"failed", "reject"⟩
        else if soft_failed_gates evidence opts ≠ [] then ⟨"warning", "accept"⟩
        else ⟨"passed", "accept"⟩ := by
  unfold run_validation_protocol ValidationProtocol.verdict
  dsimp only
  split_ifs with hfailed hsoft
  · rfl
  · rfl
  · rfl

omit [FloorRing K] in
/-- The V3 stage passes when all its gates do. -/
theorem verdict_append_v3 (validation : ValidationProtocol K) (inputs : V3PromotionInputs K) :
    (append_v3_gate_stage validation (evaluate_v3_promotion_gates inputs)).verdict
      = stage_verdict validation.verdict (AllGatesPass (v3_gate_results inputs)) := by
  unfold append_v3_gate_stage ValidationProtocol.verdict stage_verdict
  dsimp only
  by_cases hpassed : AllGatesPass (v3_gate_results inputs)
  · have hstatus := evaluate_v3_promotion_gates_passed hpassed
    simp [hpassed, hstatus]
  · obtain ⟨hstatus, hdecision⟩ := evaluate_v3_promotion_gates_failed hpassed
    simp [hpassed, hstatus, hdecision]

/-- The governance stage passes when the report has no reason against it. -/
theorem verdict_append_phase4 (validation : ValidationProtocol K)
    (inputs : CandidateGovernanceInputs K) :
    (append_phase4_governance_stage validation (build_candidate_governance_report inputs)).verdict
      = stage_verdict validation.verdict (governance_reasons inputs = []) := by
  unfold append_phase4_governance_stage ValidationProtocol.verdict stage_verdict
  dsimp only
  by_cases hpassed : governance_reasons inputs = []
  · have hstatus := build_candidate_governance_report_passed hpassed
    simp [hpassed, hstatus]
  · obtain ⟨hstatus, hdecision⟩ := build_candidate_governance_report_failed hpassed
    simp [hpassed, hstatus, hdecision]

/-- The protocol with the V3 stage. -/
def with_v3_stage (evidence : ValidationEvidence K) (opts : ProtocolOptions K)
    (inputs : V3PromotionInputs K) : ValidationProtocol K :=
  append_v3_gate_stage (run_validation_protocol evidence opts) (evaluate_v3_promotion_gates inputs)

/-- The protocol with both stages. -/
def with_governance_stage (evidence : ValidationEvidence K) (opts : ProtocolOptions K)
    (inputs : V3PromotionInputs K) (governance : CandidateGovernanceInputs K) :
    ValidationProtocol K :=
  append_phase4_governance_stage (with_v3_stage evidence opts inputs)
    (build_candidate_governance_report governance)

/-- The verdict is consistent at every stage, and a rejection is final. -/
structure VerdictSound (evidence : ValidationEvidence K) (opts : ProtocolOptions K)
    (inputs : V3PromotionInputs K) (governance : CandidateGovernanceInputs K) : Prop where
  consistent_run : (run_validation_protocol evidence opts).verdict.Consistent
  consistent_v3 : (with_v3_stage evidence opts inputs).verdict.Consistent
  consistent_governance :
    (with_governance_stage evidence opts inputs governance).verdict.Consistent
  final_v3 : (run_validation_protocol evidence opts).promotion_decision.decision = "reject" →
    (with_v3_stage evidence opts inputs).promotion_decision.decision = "reject"
  final_governance : (with_v3_stage evidence opts inputs).promotion_decision.decision = "reject" →
    (with_governance_stage evidence opts inputs governance).promotion_decision.decision = "reject"

/-- Every enforced gate that is required passes, and one that is not enforced
does not. -/
def FailsSoftlyOnly (evidence : ValidationEvidence K) (opts : ProtocolOptions K) : Prop :=
  (∀ name ∈ required_gate_names opts, gate_flag (gate_enforcement evidence opts) name = true →
      gate_flag (gate_results evidence opts) name = true)
    ∧ ∃ name ∈ required_gate_names opts, gate_flag (gate_enforcement evidence opts) name = false
      ∧ gate_flag (gate_results evidence opts) name = false

theorem failsSoftlyOnly_iff (evidence : ValidationEvidence K) (opts : ProtocolOptions K) :
    FailsSoftlyOnly evidence opts
      ↔ failed_gates evidence opts = [] ∧ soft_failed_gates evidence opts ≠ [] := by
  have hfailed : failed_gates evidence opts = [] ↔ ∀ name ∈ required_gate_names opts,
      gate_flag (gate_enforcement evidence opts) name = true →
        gate_flag (gate_results evidence opts) name = true := by
    rw [failed_gates, List.filter_eq_nil_iff]
    simp
  have hsoft : soft_failed_gates evidence opts ≠ [] ↔ ∃ name ∈ required_gate_names opts,
      gate_flag (gate_enforcement evidence opts) name = false
        ∧ gate_flag (gate_results evidence opts) name = false := by
    rw [soft_failed_gates, Ne, List.filter_eq_nil_iff]
    simp
  rw [FailsSoftlyOnly, hfailed, hsoft]

/-- The verdict is sound if and only if the V3 gates do not all pass on a protocol
whose only failures are gates that are not enforced. -/
theorem verdict_sound_iff (evidence : ValidationEvidence K) (opts : ProtocolOptions K)
    (inputs : V3PromotionInputs K) (governance : CandidateGovernanceInputs K) :
    VerdictSound evidence opts inputs governance
      ↔ ¬ (FailsSoftlyOnly evidence opts ∧ AllGatesPass (v3_gate_results inputs)) := by
  have hrun := verdict_run_validation_protocol evidence opts
  have hv3 : (with_v3_stage evidence opts inputs).verdict
      = stage_verdict (run_validation_protocol evidence opts).verdict
        (AllGatesPass (v3_gate_results inputs)) := verdict_append_v3 _ inputs
  have hgovernance : (with_governance_stage evidence opts inputs governance).verdict
      = stage_verdict (with_v3_stage evidence opts inputs).verdict
        (governance_reasons governance = []) := verdict_append_phase4 _ governance
  have hconsistent : (run_validation_protocol evidence opts).verdict.Consistent := by
    rw [hrun]
    unfold Verdict.Consistent
    split_ifs with hfailed hsoft
    · simp
    · decide
    · decide
  have hfirst : (with_v3_stage evidence opts inputs).verdict.Consistent
      ↔ ¬ (FailsSoftlyOnly evidence opts ∧ AllGatesPass (v3_gate_results inputs)) := by
    rw [hv3, stage_verdict_consistent_iff hconsistent, hrun, not_iff_not]
    rw [failsSoftlyOnly_iff]
    split_ifs with hfailed hsoft
    · simp [hfailed]
    · simp [not_not.mp hfailed, hsoft]
    · simp [not_not.mp hsoft]
  constructor
  · exact fun hsound => hfirst.mp hsound.consistent_v3
  · intro h
    have hconsistent_v3 := hfirst.mpr h
    refine ⟨hconsistent, hconsistent_v3, ?_, fun hreject => ?_, fun hreject => ?_⟩
    · rw [hgovernance, stage_verdict_consistent_iff hconsistent_v3]
      rintro ⟨-, hstatus, haccepts⟩
      -- after an appended stage the status is `passed` or `failed`
      have hfailed : (with_v3_stage evidence opts inputs).verdict.status = "failed" := by
        rw [hv3] at hstatus ⊢
        unfold stage_verdict at hstatus ⊢
        split_ifs at hstatus ⊢ with hpassed hbefore
        · exact absurd rfl hstatus
        · rfl
        · rfl
      exact haccepts (hconsistent_v3.mp hfailed)
    · rw [← ValidationProtocol.verdict_decision] at hreject ⊢
      rw [hv3]
      exact stage_verdict_reject _ hreject
    · rw [← ValidationProtocol.verdict_decision] at hreject ⊢
      rw [hgovernance]
      exact stage_verdict_reject _ hreject

end Chain

/-! ## A protocol that is failed and accepts

A selection window of 10 bars relaxes the permutation gates, and the p-value of
the in-sample permutation is 2 %. -/

section Accepted

/-- A result that every gate accepts. -/
def profitable_result : BacktestResult ℚ where
  trade_count := 40
  win_rate := 3 / 5
  gross_pnl := 1 / 2
  net_pnl := 2 / 5
  fee_spend := 1 / 10
  funding_spend := 0
  sharpe := 2
  sortino := 2
  max_drawdown := -1 / 10
  equity_curve := [0, 2 / 5]
  liquidation_events := []
  execution_pressure_summary := none

/-- A capacity report that every gate accepts. -/
def capacity_report : JsonObject ℚ :=
  [("turnover_within_budget", .bool true), ("capacity_5x_edge_erosion", .float (1 / 10)),
    ("capacity_5x_fill_completion", .float (49 / 50))]

/-- A report that has passed. -/
def passed_report : JsonObject ℚ := [("passed", .bool true)]

/-- The evidence of the short window. -/
def short_window_evidence : ValidationEvidence ℚ where
  in_sample_result := profitable_result
  walk_forward_result := profitable_result
  final_holdout_result := profitable_result
  selection_oos_bars := 10
  sample_count := 9
  minimum_backtest_length := 5
  probabilistic_sharpe_ratio := 97 / 100
  deflated_sharpe_ratio := 97 / 100
  in_sample_pvalue := 2 / 100
  walk_forward_pvalue := 1 / 100
  pbo := some (1 / 10)
  spa_pvalues := some [1 / 100]
  capacity_report := .dict capacity_report
  scenario_report := .dict passed_report
  regime_report := .dict passed_report

/-- The options of the short window: no floor for the number of its trades. -/
def short_window_options : ProtocolOptions ℚ :=
  { validation_gate_spec := some { min_oos_trades_required := false } }

/-- The inputs of its promotion. -/
def short_window_promotion : V3PromotionInputs ℚ where
  snapshot_venue := "binance"
  snapshot_provenance := []
  validation_protocol := run_validation_protocol short_window_evidence short_window_options
  holdout_result := profitable_result
  execution_model_id := "binance_usdm_v3"
  signal_timeframe := "1h"
  execution_timeframe := "15m"
  walk_forward_fold_count := 8
  position_episode_count := 30
  months_of_data := 18
  cpcv_metrics := [("median_sharpe", .float 1), ("p10_sharpe", .float (1 / 5))]
  baseline_results := V3_BASELINE_SET.foldl (fun results name => results.insert name profitable_result) ∅
  capacity_report := capacity_report
  parameter_surface := [("plateau_ok", .bool true)]
  bootstrap_report := passed_report
  regime_report := passed_report
  reproducible := true
  execution_rule_failures := []

/-- A candidate without a reason against it. -/
def robust_candidate : CandidateGovernanceInputs ℚ where
  candidate_id := "candidate-a"
  metrics :=
    { net_post_cost_return := 6 / 25
      cpcv_p10_sharpe := 3 / 10
      pbo_score := 2 / 25
      deflated_sharpe_ratio := 97 / 100
      spa_pvalue := 1 / 100
      bootstrap_survival := 9 / 10
      plateau_width := 7 / 20
      oos_decay := 1 / 10
      regime_coverage := 4 / 5
      capacity_5x_edge_erosion := 3 / 25
      cross_symbol_pass_rate := 9 / 10
      paper_forward_score := some (41 / 50) }
  ablations := REQUIRED_ABLATION_LAYERS.map fun layer => ⟨layer, 6 / 25, 9 / 50⟩
  candidate_gate_results := ∅
  champion := none
  failure_codes := []
  robustness_floor := 7 / 10
  paper_forward_floor := 1 / 2

/-- After both stages the protocol of the short window has failed and accepts. -/
theorem failed_protocol_accepts :
    (with_governance_stage short_window_evidence short_window_options short_window_promotion
        robust_candidate).verdict = ⟨"failed", "accept"⟩
      ∧ ¬ VerdictSound short_window_evidence short_window_options short_window_promotion
        robust_candidate := by
  have hverdict : (with_governance_stage short_window_evidence short_window_options
      short_window_promotion robust_candidate).verdict = ⟨"failed", "accept"⟩ := by
    decide +kernel
  refine ⟨hverdict, fun hsound => ?_⟩
  have hconsistent := hsound.consistent_governance
  rw [hverdict] at hconsistent
  exact absurd (hconsistent.mp rfl) (by decide)

end Accepted

end ProofAlpha.Validation
