/-
Whose simulation a scenario is judged on.

`run_research_cycle` of `app/service.py` simulates every scenario and keys the results by
the scenarios' own names. `evaluate_scenarios` asks for the canonical name first, and for
the own name only when there is none of that. In a list that holds both an alias and its
canonical name the aliased scenario is therefore judged on the other one's simulation
(`judged_on_own_result_iff`).
-/
import ProofAlpha.Validation.ScenarioGate

set_option autoImplicit false

namespace ProofAlpha.Validation

open ProofAlpha.Lib
open ProofAlpha.Backtest (BacktestResult)

section Results

variable {K : Type} [Field K] [LinearOrder K]

/-- `scenario_results` of `run_research_cycle`, for its final strategy. -/
def scenario_results (scenario_evaluator : StressScenario K → BacktestResult K)
    (scenarios : List (StressScenario K)) : Dict String (BacktestResult K) :=
  scenarios.foldl (fun results scenario =>
    results.insert scenario.name (scenario_evaluator scenario)) ∅

/-- What `evaluate_scenarios` is given by `run_research_cycle`. -/
def cycle_inputs (scenario_evaluator : StressScenario K → BacktestResult K)
    (scenarios : List (StressScenario K))
    (resolved_profiles : Dict String (JsonObject K))
    (stress_metrics_by_name : Dict String (StressMetrics K)) : ScenarioInputs K where
  results_by_name := scenario_results scenario_evaluator scenarios
  resolved_profiles_by_name := resolved_profiles
  stress_metrics_by_name := stress_metrics_by_name

/-- The entry of a report is about the scenario, carries the given backtest, and has the
verdict of that backtest. -/
structure JudgedOn (kill_threshold : K) (scenario : StressScenario K)
    (backtest : BacktestResult K) (entry : ScenarioResult K) : Prop where
  scenario_name : entry.scenario_name = scenario.name
  result : entry.result = backtest
  failure_reasons : entry.failure_reasons = Validation.failure_reasons kill_threshold backtest
  passed : entry.passed = (Validation.failure_reasons kill_threshold backtest).isEmpty

/-! ## The entry of a scenario -/

/-- What a scenario with the given backtest adds to the report. -/
def scenario_entry (inputs : ScenarioInputs K) (kill_threshold : K) (scenario : StressScenario K)
    (backtest : BacktestResult K) : ScenarioResult K where
  scenario_name := scenario.name
  severity := resolved_profile_severity (scenario_profile inputs scenario) scenario.severity
  passed := (failure_reasons kill_threshold backtest).isEmpty
  failure_reasons := failure_reasons kill_threshold backtest
  result := backtest
  resolved_profile := scenario_profile inputs scenario
  stress_metrics := (inputs.stress_metrics_by_name.lookup scenario.name).or
    (inputs.stress_metrics_by_name.lookup (resolve_scenario_profile scenario "").name)

theorem evaluate_scenario_of_backtest {inputs : ScenarioInputs K} {kill_threshold : K}
    {scenario : StressScenario K} {backtest : BacktestResult K}
    (h : scenario_backtest inputs scenario = some backtest) :
    evaluate_scenario inputs kill_threshold scenario
      = .ok (scenario_entry inputs kill_threshold scenario backtest) := by
  unfold evaluate_scenario
  rw [h]
  rfl

/-- An entry is judged on the backtest that it was made of, and on no other. -/
theorem judgedOn_scenario_entry_iff {inputs : ScenarioInputs K} {kill_threshold : K}
    {scenario : StressScenario K} {backtest other : BacktestResult K} :
    JudgedOn kill_threshold scenario other (scenario_entry inputs kill_threshold scenario backtest)
      ↔ other = backtest := by
  constructor
  · intro h
    exact h.result.symm
  · rintro rfl
    exact ⟨rfl, rfl, rfl, rfl⟩

/-- When every scenario finds a backtest, the report holds their entries in order. -/
theorem evaluate_scenarios_of_backtests {scenarios : List (StressScenario K)}
    {inputs : ScenarioInputs K} {backtest : StressScenario K → BacktestResult K}
    (h : ∀ scenario ∈ scenarios, scenario_backtest inputs scenario = some (backtest scenario))
    (matrix : Dict String (Dict String Bool)) (position_leverage : K) :
    ∃ report, evaluate_scenarios scenarios inputs matrix position_leverage = .ok report
      ∧ report.results = scenarios.map fun scenario =>
          scenario_entry inputs (drawdown_kill_threshold position_leverage) scenario
            (backtest scenario) := by
  unfold evaluate_scenarios
  rw [mapM_eq_ok_map fun scenario hscenario => evaluate_scenario_of_backtest (h scenario hscenario)]
  exact ⟨_, rfl, rfl⟩

/-! ## The backtest that a scenario finds -/

section Lookup

variable {scenario_evaluator : StressScenario K → BacktestResult K}
  {scenarios : List (StressScenario K)}
  (hnames : (scenarios.map StressScenario.name).Nodup)

/-- The backtest that the dict of results gives a scenario: that of its canonical name. -/
def found_result (scenario_evaluator : StressScenario K → BacktestResult K)
    (scenarios : List (StressScenario K)) (scenario : StressScenario K) : BacktestResult K :=
  ((scenario_results scenario_evaluator scenarios).lookup
    (canonical_scenario_name scenario.name)).getD (scenario_evaluator scenario)

include hnames

omit [LinearOrder K] in
theorem lookup_scenario_results {scenario_name : String} {backtest : BacktestResult K} :
    (scenario_results scenario_evaluator scenarios).lookup scenario_name = some backtest
      ↔ ∃ scenario ∈ scenarios, scenario.name = scenario_name
        ∧ scenario_evaluator scenario = backtest :=
  Dict.lookup_foldl_insert_of_nodup hnames

/-- The own name of a scenario is always found, so no scenario is without a backtest. -/
theorem scenario_backtest_eq (resolved_profiles : Dict String (JsonObject K))
    (stress_metrics_by_name : Dict String (StressMetrics K)) {scenario : StressScenario K}
    (hscenario : scenario ∈ scenarios) :
    scenario_backtest
        (cycle_inputs scenario_evaluator scenarios resolved_profiles stress_metrics_by_name) scenario
      = some (found_result scenario_evaluator scenarios scenario) := by
  have hown : (scenario_results scenario_evaluator scenarios).lookup scenario.name
      = some (scenario_evaluator scenario) :=
    (lookup_scenario_results hnames).mpr ⟨scenario, hscenario, rfl, rfl⟩
  have hresolved : (resolve_scenario_profile scenario "").name
      = canonical_scenario_name scenario.name := foldl_fill_field_name _ _
  unfold scenario_backtest found_result cycle_inputs
  rw [hresolved, hown]
  cases (scenario_results scenario_evaluator scenarios).lookup
    (canonical_scenario_name scenario.name) with
  | none => rfl
  | some backtest => rfl

omit [LinearOrder K] in
/-- A scenario finds its own backtest when whoever has its canonical name has the same. -/
theorem found_result_eq_iff {scenario : StressScenario K} :
    scenario_evaluator scenario = found_result scenario_evaluator scenarios scenario
      ↔ ∀ other ∈ scenarios, other.name = canonical_scenario_name scenario.name →
        scenario_evaluator other = scenario_evaluator scenario := by
  unfold found_result
  cases hlookup : (scenario_results scenario_evaluator scenarios).lookup
      (canonical_scenario_name scenario.name) with
  | none =>
      rw [Option.getD_none]
      refine iff_of_true rfl fun other hother hname => ?_
      have hfound : (scenario_results scenario_evaluator scenarios).lookup
          (canonical_scenario_name scenario.name) = some (scenario_evaluator other) :=
        (lookup_scenario_results hnames).mpr ⟨other, hother, hname, rfl⟩
      rw [hlookup] at hfound
      cases hfound
  | some backtest =>
      rw [Option.getD_some]
      obtain ⟨owner, howner, hname, hbacktest⟩ := (lookup_scenario_results hnames).mp hlookup
      constructor
      · intro hsame other hother hcanonical
        have hother' : other = owner :=
          List.inj_on_of_nodup_map hnames hother howner (hcanonical.trans hname.symm)
        rw [hother', hbacktest, hsame]
      · intro hall
        rw [← hbacktest, hall owner howner hname]

end Lookup

/-- Every scenario of a list with distinct names is judged on its own simulation if and
only if the list has no scenario under the canonical name of another one, or these two
have the same simulation. -/
theorem judged_on_own_result_iff (scenario_evaluator : StressScenario K → BacktestResult K)
    {scenarios : List (StressScenario K)} (hnames : (scenarios.map StressScenario.name).Nodup)
    (resolved_profiles : Dict String (JsonObject K))
    (stress_metrics_by_name : Dict String (StressMetrics K))
    (matrix : Dict String (Dict String Bool)) (position_leverage : K) :
    (∃ report, evaluate_scenarios scenarios
          (cycle_inputs scenario_evaluator scenarios resolved_profiles stress_metrics_by_name)
          matrix position_leverage = .ok report
        ∧ List.Forall₂ (fun scenario entry =>
            JudgedOn (drawdown_kill_threshold position_leverage) scenario
              (scenario_evaluator scenario) entry) scenarios report.results)
      ↔ ∀ scenario ∈ scenarios, ∀ other ∈ scenarios,
        other.name = canonical_scenario_name scenario.name →
          scenario_evaluator other = scenario_evaluator scenario := by
  obtain ⟨report, hreport, hresults⟩ := evaluate_scenarios_of_backtests
    (fun scenario hscenario => scenario_backtest_eq hnames resolved_profiles stress_metrics_by_name
      hscenario) matrix position_leverage
  rw [hreport]
  constructor
  · rintro ⟨_, hok, hjudged⟩ scenario hscenario
    cases hok
    rw [hresults, List.forall₂_map_right_iff, List.forall₂_same] at hjudged
    exact (found_result_eq_iff hnames).mp
      (judgedOn_scenario_entry_iff.mp (hjudged scenario hscenario))
  · intro hown
    refine ⟨report, rfl, ?_⟩
    rw [hresults, List.forall₂_map_right_iff, List.forall₂_same]
    intro scenario hscenario
    exact judgedOn_scenario_entry_iff.mpr
      ((found_result_eq_iff hnames).mpr (hown scenario hscenario))

end Results

/-! ## An outage and its alias -/

/-- A moderate outage under the canonical name, and a severe one under the alias. -/
def outage_and_alias : List (StressScenario ℚ) :=
  [{ name := "venue_outage", severity := 0.4 }, { name := "outage-shock", severity := 0.95 }]

/-- The severe outage loses half of the equity. -/
def outage_evaluator (scenario : StressScenario ℚ) : BacktestResult ℚ :=
  stress_backtest (if scenario.severity < 0.9 then -0.1 else -0.5)

/-- Both are severe, so it does not matter whose simulation is read. -/
theorem judged_on_own_result_severe :
    ∃ report, evaluate_scenarios outage_and_alias
        (cycle_inputs (fun _ => stress_backtest (-0.5)) outage_and_alias ∅ ∅) ∅ 1 = .ok report
      ∧ List.Forall₂ (fun scenario entry =>
          JudgedOn (drawdown_kill_threshold 1) scenario (stress_backtest (-0.5)) entry)
        outage_and_alias report.results :=
  (judged_on_own_result_iff (fun _ => stress_backtest (-0.5)) (by decide) ∅ ∅ ∅ 1).mpr
    fun _ _ _ _ _ => rfl

/-- The severe outage fails on its own simulation and passes on that of the moderate one. -/
theorem aliased_outage_passes :
    (outage_and_alias.map StressScenario.name).Nodup
      ∧ ∃ report, evaluate_scenarios outage_and_alias
          (cycle_inputs outage_evaluator outage_and_alias ∅ ∅) ∅ 1 = .ok report
        ∧ ∃ entry ∈ report.results, entry.scenario_name = "outage-shock" ∧ entry.passed = true
          ∧ entry.result.max_drawdown = -0.1
          ∧ ∃ scenario ∈ outage_and_alias, scenario.name = entry.scenario_name
            ∧ (outage_evaluator scenario).max_drawdown = -0.5
            ∧ failure_reasons (drawdown_kill_threshold 1) (outage_evaluator scenario)
              = ["drawdown_kill_switch"] := by
  refine ⟨by decide, _, rfl, ?_⟩
  decide +kernel

end ProofAlpha.Validation
