/-
When the kill switches of the candidate and of the scenarios see a total loss.

Both compare a drawdown with `-0.25 * leverage`. A drawdown stays above `-1`, because
the capital is floored, so from a leverage of four on no path trips the switch,
whatever it loses; below that a path does when it loses a quarter of its capital times
the leverage from some bar to a later one.
-/
import ProofAlpha.Backtest.Drawdown
import ProofAlpha.Optimizer.RelativeGates
import ProofAlpha.Validation.ScenarioGate

set_option autoImplicit false

namespace ProofAlpha.Optimizer

open ProofAlpha.Lib
open ProofAlpha.Backtest (max_drawdown pair_drawdowns max_drawdown_le_iff neg_one_lt_max_drawdown)
open ProofAlpha.Validation

variable {K : Type} [Field K] [LinearOrder K]

/-- The path falls to `-1` or below: all of the starting capital is lost. -/
def LosesAll (path : List K) : Prop := ∃ value ∈ path, value ≤ -1

instance (path : List K) : Decidable (LosesAll path) :=
  inferInstanceAs (Decidable (∃ value ∈ path, value ≤ -1))

/-- From some bar to a later one the path loses a quarter of its floored capital times the
leverage, or more. -/
def FallsByLeverage (position_leverage : K) (path : List K) : Prop :=
  ∃ d ∈ pair_drawdowns path, d ≤ -(position_leverage / 4)

/-- The worst drawdown of a bootstrap is the least of its paths'. -/
def WorstOf (paths : List (List K)) (worst_case_drawdown : K) : Prop :=
  IsLeast {d | ∃ path ∈ paths, max_drawdown path = d} worst_case_drawdown

/-- A gate other than the kill switch is against the candidate. -/
def OtherGateRejects (context : PromotionContext K) (candidate : CandidateFigures K) : Prop :=
  (candidate.oos.trade_count : ℤ) < context.min_oos_trades ∨
    |context.incumbent_train.max_drawdown| * 1.05 < |candidate.train.max_drawdown| ∨
    candidate.oos.sharpe < context.incumbent_oos.sharpe * 0.95 ∨
    candidate.train.liquidation_events ≠ [] ∨ candidate.oos.liquidation_events ≠ []

theorem not_passesGates_iff {context : PromotionContext K} {candidate : CandidateFigures K} :
    ¬ PassesGates context candidate ↔ OtherGateRejects context candidate ∨
      candidate.bootstrap_report.worst_case_drawdown
        ≤ -0.25 * max 1 context.position_leverage := by
  constructor
  · intro h
    by_contra hnone
    unfold OtherGateRejects at hnone
    push Not at hnone
    obtain ⟨⟨htrades, htrain, hsharpe, hliquidated, hoos⟩, hkill⟩ := hnone
    exact h ⟨htrades, htrain, hsharpe, hkill, hliquidated, hoos⟩
  · rintro ((htrades | htrain | hsharpe | hliquidated | hoos) | hkill) h
    · exact absurd h.trades (not_le.mpr htrades)
    · exact absurd h.train_drawdown (not_le.mpr htrain)
    · exact absurd h.oos_sharpe (not_le.mpr hsharpe)
    · exact hliquidated h.train_liquidations
    · exact hoos h.oos_liquidations
    · exact absurd h.kill_switch (not_lt.mpr hkill)

/-- Whether a scenario passed is read off its backtest. -/
theorem evaluate_scenario_passed {inputs : ScenarioInputs K} {kill_threshold : K}
    {scenario : StressScenario K} {result : ScenarioResult K}
    (h : evaluate_scenario inputs kill_threshold scenario = .ok result) :
    result.passed = false ↔ result.result.max_drawdown ≤ kill_threshold ∨
      result.result.liquidation_events ≠ [] := by
  unfold evaluate_scenario at h
  cases hbacktest : scenario_backtest inputs scenario with
  | none =>
      rw [hbacktest] at h
      cases h
  | some backtest =>
      rw [hbacktest] at h
      obtain rfl := Except.ok.inj h
      dsimp only
      rw [← not_iff_not, Bool.not_eq_false, List.isEmpty_iff, failure_reasons_eq_nil]

variable [IsStrictOrderedRing K]

/-- A path trips the kill switch when it falls by the leverage. -/
theorem max_drawdown_le_threshold_iff {position_leverage : K} (hleverage : 1 ≤ position_leverage)
    (path : List K) :
    max_drawdown path ≤ -0.25 * max 1 position_leverage
      ↔ FallsByLeverage position_leverage path := by
  have hthreshold : -0.25 * max 1 position_leverage = -(position_leverage / 4) := by
    rw [max_eq_right hleverage]
    ring
  rw [hthreshold, max_drawdown_le_iff (by linarith)]
  rfl

/-- The worst drawdown of a report trips the kill switch when some path falls by the
leverage. -/
theorem worst_case_le_threshold_iff {position_leverage : K} (hleverage : 1 ≤ position_leverage)
    {paths : List (List K)} {worst_case_drawdown : K}
    (hworst : WorstOf paths worst_case_drawdown) :
    worst_case_drawdown ≤ -0.25 * max 1 position_leverage
      ↔ ∃ path ∈ paths, FallsByLeverage position_leverage path := by
  obtain ⟨⟨worst, hmem, hdrawdown⟩, hleast⟩ := hworst
  constructor
  · intro hkill
    rw [← hdrawdown] at hkill
    exact ⟨worst, hmem, (max_drawdown_le_threshold_iff hleverage worst).mp hkill⟩
  · rintro ⟨path, hpath, hfalls⟩
    exact (hleast ⟨path, hpath, rfl⟩).trans
      ((max_drawdown_le_threshold_iff hleverage path).mpr hfalls)

/-- From a leverage of four on no path falls by it. -/
theorem not_fallsByLeverage {position_leverage : K} (hleverage : 4 ≤ position_leverage)
    (path : List K) : ¬ FallsByLeverage position_leverage path := by
  intro hfalls
  have hdrawdown := (max_drawdown_le_iff (by linarith)).mpr hfalls
  have habove := neg_one_lt_max_drawdown path
  linarith

/-- Total losses and the two gates. For a report of the worst of its paths, a path that
loses all makes the decision a rejection exactly where no path does so, another gate is
against the candidate, or some path falls by the leverage; likewise a scenario whose
backtest has the drawdown of its path fails. From a leverage of four on no path falls by
the leverage. -/
theorem total_loss_rejected_iff (context : PromotionContext K)
    (candidate : CandidateFigures K) (paths : List (List K))
    (hleverage : 1 ≤ context.position_leverage)
    (hworst : WorstOf paths candidate.bootstrap_report.worst_case_drawdown) :
    (((∃ path ∈ paths, LosesAll path) → (context.decision candidate).decision = "reject") ↔
      ((∀ path ∈ paths, ¬ LosesAll path) ∨ OtherGateRejects context candidate ∨
        ∃ path ∈ paths, FallsByLeverage context.position_leverage path)) ∧
    (∀ (scenarios : List (StressScenario K)) (inputs : ScenarioInputs K)
        (regime_scenario_pass_matrix : Dict String (Dict String Bool))
        (report : ScenarioEvaluationReport K),
      evaluate_scenarios scenarios inputs regime_scenario_pass_matrix context.position_leverage
        = .ok report →
      ∀ result ∈ report.results,
        result.result.max_drawdown = max_drawdown result.result.equity_curve →
        ((LosesAll result.result.equity_curve → result.passed = false) ↔
          (¬ LosesAll result.result.equity_curve ∨ result.result.liquidation_events ≠ [] ∨
            FallsByLeverage context.position_leverage result.result.equity_curve))) ∧
    (4 ≤ context.position_leverage →
      ∀ path, ¬ FallsByLeverage context.position_leverage path) := by
  refine ⟨?_, ?_, fun hfour path => not_fallsByLeverage hfour path⟩
  · rw [decision_reject_iff, not_passesGates_iff, worst_case_le_threshold_iff hleverage hworst,
      imp_iff_not_or]
    simp only [not_exists, not_and]
  · -- every result of the report comes from the evaluation of one scenario
    intro scenarios inputs matrix report hreport result hresult hdrawdown
    obtain ⟨evaluated, hevaluated, hreport⟩ := bind_ok hreport
    obtain rfl := Except.ok.inj hreport
    obtain ⟨scenario, -, hscenario⟩ := (mem_mapM_ok hevaluated result).mp hresult
    rw [evaluate_scenario_passed hscenario, hdrawdown, drawdown_kill_threshold,
      max_drawdown_le_threshold_iff hleverage, imp_iff_not_or,
      or_comm (a := FallsByLeverage context.position_leverage result.result.equity_curve)]

/-! ## A loss of everything at five times leverage -/

/-- The incumbent of Sharpe ratio one, at five times leverage. -/
def five_times_context : PromotionContext ℚ := { plain_context 1 with position_leverage := 5 }

/-- One bootstrap path that loses all is the worst of its report. -/
theorem worstOf_total_loss : WorstOf [[0, (-1 : ℚ)]] (1e-9 - 1) := by
  have hdrawdown : max_drawdown [0, (-1 : ℚ)] = 1e-9 - 1 := by decide +kernel
  refine ⟨⟨[0, -1], List.mem_singleton_self _, hdrawdown⟩, ?_⟩
  rintro d ⟨path, hpath, rfl⟩
  rw [List.mem_singleton.mp hpath, hdrawdown]

/-- At five times leverage the candidate is not rejected. -/
theorem total_loss_passes :
    ¬ ∀ (context : PromotionContext ℚ) (candidate : CandidateFigures ℚ)
      (paths : List (List ℚ)), 1 ≤ context.position_leverage →
      WorstOf paths candidate.bootstrap_report.worst_case_drawdown →
      (∃ path ∈ paths, LosesAll path) →
      (context.decision candidate).decision = "reject" := by
  intro hclaim
  have hreject := hclaim five_times_context (plain_candidate 1 (1e-9 - 1)) [[0, -1]]
    (by decide +kernel) worstOf_total_loss (by decide +kernel)
  revert hreject
  decide +kernel

/-- Without leverage it is. -/
theorem total_loss_rejected_iff_unlevered :
    ((∃ path ∈ [[0, (-1 : ℚ)]], LosesAll path) →
        ((plain_context 1).decision (plain_candidate 1 (1e-9 - 1))).decision = "reject") ↔
      ((∀ path ∈ [[0, (-1 : ℚ)]], ¬ LosesAll path) ∨
        OtherGateRejects (plain_context 1) (plain_candidate 1 (1e-9 - 1)) ∨
        ∃ path ∈ [[0, (-1 : ℚ)]], FallsByLeverage (plain_context 1).position_leverage path) :=
  (total_loss_rejected_iff (plain_context 1) (plain_candidate 1 (1e-9 - 1)) [[0, -1]] le_rfl
    worstOf_total_loss).1

end ProofAlpha.Optimizer
