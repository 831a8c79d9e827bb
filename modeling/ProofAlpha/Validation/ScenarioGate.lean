/-
The scenario gate: `evaluate_scenarios` of `validation/scenarios.py`, the matrix that
`_build_regime_scenario_pass_matrix` of `app/service.py` makes of its results, and the
gate that reads the matrix.

A result enters the matrix under the target regimes of its scenario that the data covers.
A scenario without such a regime is in no row, so its failure reaches the gate only when
the matrix is empty (`scenario_gate_sound_iff`).
-/
import ProofAlpha.Lib.Checks
import ProofAlpha.Lib.PyDict
import ProofAlpha.Validation.GateSpec
import ProofAlpha.Validation.ScenarioResolution

set_option autoImplicit false

namespace ProofAlpha.Validation

open ProofAlpha.Lib ProofAlpha.Lib.DictOfDicts
open ProofAlpha.Backtest (BacktestResult)

/-! ## The report -/

/-- `StressMetrics`. -/
structure StressMetrics (K : Type) where
  stress_slippage_quantile : K
  stress_tail_slippage : K
  liquidity_stress_score : K
  basis_stress_score : K
  cascade_liquidation_count : ℤ

/-- `ScenarioResult`. -/
structure ScenarioResult (K : Type) where
  scenario_name : String
  severity : K
  passed : Bool
  failure_reasons : List String
  result : BacktestResult K
  resolved_profile : Option (JsonObject K)
  stress_metrics : Option (StressMetrics K)

/-- `ScenarioEvaluationReport`. -/
structure ScenarioEvaluationReport (K : Type) where
  total_scenarios : ℕ
  passed_scenarios : ℕ
  pass_rate : K
  results : List (ScenarioResult K)
  stress_liquidity_metrics : JsonObject K
  regime_scenario_pass_matrix : Dict String (Dict String Bool)

section Evaluation

variable {K : Type} [Field K] [LinearOrder K]

/-- What `evaluate_scenarios` is given by name. `None` and the empty dict are the same
dict: the source reads `profiles or {}`. -/
structure ScenarioInputs (K : Type) where
  results_by_name : Dict String (BacktestResult K)
  resolved_profiles_by_name : Dict String (JsonObject K)
  stress_metrics_by_name : Dict String (StressMetrics K)

/-- `drawdown_kill_threshold`. -/
def drawdown_kill_threshold (position_leverage : K) : K := -0.25 * max 1 position_leverage

/-- `failure_reasons` of a result. -/
def failure_reasons (kill_threshold : K) (result : BacktestResult K) : List String :=
  reason_if (result.max_drawdown ≤ kill_threshold) "drawdown_kill_switch"
    ++ reason_if (! result.liquidation_events.isEmpty) "liquidation_events"

/-- `results_by_name.get(resolved.name) or results_by_name.get(scenario.name)`. -/
def scenario_backtest (inputs : ScenarioInputs K) (scenario : StressScenario K) :
    Option (BacktestResult K) :=
  (inputs.results_by_name.lookup (resolve_scenario_profile scenario "").name).or
    (inputs.results_by_name.lookup scenario.name)

/-- `profiles.get(scenario.name) or profiles.get(resolved.name)`. -/
def scenario_profile (inputs : ScenarioInputs K) (scenario : StressScenario K) :
    Option (JsonObject K) :=
  match inputs.resolved_profiles_by_name.lookup scenario.name with
  | some (field :: fields) => some (field :: fields)
  -- an empty profile counts as a missing one
  | _ => inputs.resolved_profiles_by_name.lookup (resolve_scenario_profile scenario "").name

/-- `_resolved_profile_severity`. -/
def resolved_profile_severity (profile : Option (JsonObject K)) (fallback : K) : K :=
  match profile with
  | some fields => (float_field (.dict fields) "severity").getD fallback
  | none => fallback

/-- One iteration of `evaluate_scenarios`. -/
def evaluate_scenario (inputs : ScenarioInputs K) (kill_threshold : K)
    (scenario : StressScenario K) : Except String (ScenarioResult K) :=
  match scenario_backtest inputs scenario with
  -- `KeyError(resolved.name)`
  | none => .error (resolve_scenario_profile scenario "").name
  | some result =>
      let reasons := failure_reasons kill_threshold result
      .ok
        { scenario_name := scenario.name
          severity := resolved_profile_severity (scenario_profile inputs scenario) scenario.severity
          passed := reasons.isEmpty
          failure_reasons := reasons
          result := result
          resolved_profile := scenario_profile inputs scenario
          stress_metrics := (inputs.stress_metrics_by_name.lookup scenario.name).or
            (inputs.stress_metrics_by_name.lookup (resolve_scenario_profile scenario "").name) }

/-- `_summarize_stress_metrics`. -/
def summarize_stress_metrics (results : List (ScenarioResult K)) : JsonObject K :=
  match results.filterMap ScenarioResult.stress_metrics with
  | [] => []
  | first :: rest =>
      let worst (field : StressMetrics K → K) : JsonValue K :=
        .float (rest.foldl (fun most metric => max most (field metric)) (field first))
      [("stress_slippage_quantile", worst StressMetrics.stress_slippage_quantile),
        ("stress_tail_slippage", worst StressMetrics.stress_tail_slippage),
        ("liquidity_stress_score", worst StressMetrics.liquidity_stress_score),
        ("basis_stress_score", worst StressMetrics.basis_stress_score),
        ("cascade_liquidation_count", .int (rest.foldl
          (fun most metric => max most metric.cascade_liquidation_count)
          first.cascade_liquidation_count))]

/-- `evaluate_scenarios`. -/
def evaluate_scenarios (scenarios : List (StressScenario K)) (inputs : ScenarioInputs K)
    (regime_scenario_pass_matrix : Dict String (Dict String Bool)) (position_leverage : K) :
    Except String (ScenarioEvaluationReport K) := do
  let evaluated ← scenarios.mapM
    (evaluate_scenario inputs (drawdown_kill_threshold position_leverage))
  let total := evaluated.length
  let passed := evaluated.countP ScenarioResult.passed
  return {
    total_scenarios := total
    passed_scenarios := passed
    pass_rate := if total = 0 then 0 else (passed : K) / (total : K)
    results := evaluated
    stress_liquidity_metrics := summarize_stress_metrics evaluated
    regime_scenario_pass_matrix := regime_scenario_pass_matrix }

/-! ## The matrix -/

/-- `target_regimes` of a profile: what is not a list names none. -/
def target_regimes (composite_text : JsonValue K → String) (profile : Option (JsonObject K)) :
    List String :=
  match (profile.getD []).get_or "target_regimes" (.list []) with
  | .list items => items.map (py_str composite_text)
  | _ => []

/-- `_build_regime_scenario_pass_matrix`. -/
def build_regime_scenario_pass_matrix (composite_text : JsonValue K → String)
    (regime_coverage : Dict String K) (scenario_results : List (ScenarioResult K)) :
    Dict String (Dict String Bool) :=
  scenario_results.foldl (fun matrix result =>
    (target_regimes composite_text result.resolved_profile).foldl (fun matrix regime_label =>
      if (regime_coverage.lookup regime_label).getD 0 ≤ 0 then matrix
      else set_entry matrix regime_label result.scenario_name result.passed) matrix) ∅

/-- The scenario report of `run_research_cycle`: evaluated, and then given the matrix of
its own results. -/
def scenario_report (composite_text : JsonValue K → String) (regime_coverage : Dict String K)
    (scenarios : List (StressScenario K)) (inputs : ScenarioInputs K) (position_leverage : K) :
    Except String (ScenarioEvaluationReport K) := do
  let report ← evaluate_scenarios scenarios inputs ∅ position_leverage
  return { report with
    regime_scenario_pass_matrix :=
      build_regime_scenario_pass_matrix composite_text regime_coverage report.results }

/-- The matrix as a dict of dicts of flags. -/
def matrix_fields (matrix : Dict String (Dict String Bool)) : JsonObject K :=
  matrix.entries.map fun row =>
    (row.1, .dict (row.2.entries.map fun cell => (cell.1, .bool cell.2)))

/-- The fields of a report that hold a value or a dict. No gate reads `results`. -/
def report_fields (report : ScenarioEvaluationReport K) : JsonValue K :=
  .dict
    [("total_scenarios", .int report.total_scenarios),
      ("passed_scenarios", .int report.passed_scenarios),
      ("pass_rate", .float report.pass_rate),
      ("stress_liquidity_metrics", .dict report.stress_liquidity_metrics),
      ("regime_scenario_pass_matrix", .dict (matrix_fields report.regime_scenario_pass_matrix))]

/-! ## What enters the matrix -/

/-- The target regimes of a profile that the data covers. -/
def covered_regimes (composite_text : JsonValue K → String) (regime_coverage : Dict String K)
    (profile : Option (JsonObject K)) : List String :=
  (target_regimes composite_text profile).filter fun regime_label =>
    0 < (regime_coverage.lookup regime_label).getD 0

/-- What a result writes into the matrix. -/
def matrix_writes (composite_text : JsonValue K → String) (regime_coverage : Dict String K)
    (result : ScenarioResult K) : List (Write String String Bool) :=
  (covered_regimes composite_text regime_coverage result.resolved_profile).map fun regime_label =>
    ((regime_label, result.scenario_name), result.passed)

theorem build_regime_scenario_pass_matrix_eq (composite_text : JsonValue K → String)
    (regime_coverage : Dict String K) (results : List (ScenarioResult K)) :
    build_regime_scenario_pass_matrix composite_text regime_coverage results
      = written (results.flatMap (matrix_writes composite_text regime_coverage)) := by
  unfold build_regime_scenario_pass_matrix written
  rw [List.foldl_flatMap]
  refine congrArg (fun step => results.foldl step ∅) ?_
  funext matrix result
  unfold matrix_writes covered_regimes
  rw [List.foldl_map, List.foldl_filter]
  refine congrArg (fun step => List.foldl step matrix _) ?_
  funext row regime_label
  by_cases hcovered : (regime_coverage.lookup regime_label).getD 0 ≤ 0
  · rw [if_pos hcovered, if_neg (by simpa using hcovered)]
  · rw [if_neg hcovered, if_pos (by simpa using hcovered)]

end Evaluation

/-! ## What the gate reads -/

section Gate

variable {K : Type} [Field K] [LinearOrder K]

omit [Field K] [LinearOrder K] in
/-- The gate passes on a matrix that has a row and holds no failure. -/
theorem scenario_matrix_passed_iff (report : ScenarioEvaluationReport K) :
    scenario_matrix_passed (report_fields report) = some true
      ↔ report.regime_scenario_pass_matrix.entries ≠ []
        ∧ ∀ regime_label scenario_name passed,
          entry report.regime_scenario_pass_matrix regime_label scenario_name = some passed →
            passed = true := by
  have hexplicit : bool_field (report_fields report) "passed" = none := rfl
  have hmatrix : report_field (report_fields report) "regime_scenario_pass_matrix"
      = .dict (matrix_fields report.regime_scenario_pass_matrix) := rfl
  have hcells : (∀ regime_label scenario_name passed,
        entry report.regime_scenario_pass_matrix regime_label scenario_name = some passed →
          passed = true)
      ↔ ∀ row ∈ report.regime_scenario_pass_matrix.entries, ∀ cell ∈ row.2.entries,
        cell.2 = true := by
    unfold entry
    constructor
    · intro hentries row hrow cell hcell
      have hlookup := AList.mem_lookup_iff.mpr hrow
      have hvalue := AList.mem_lookup_iff.mpr hcell
      refine hentries row.1 cell.1 cell.2 ?_
      rw [Option.mem_def.mp hlookup, Option.bind_some]
      exact hvalue
    · intro hrows regime_label scenario_name passed hentry
      obtain ⟨row, hrow, hvalue⟩ := Option.bind_eq_some_iff.mp hentry
      exact hrows _ (AList.mem_lookup_iff.mp hrow) _ (AList.mem_lookup_iff.mp hvalue)
  rw [hcells]
  unfold scenario_matrix_passed
  rw [hexplicit, hmatrix]
  unfold matrix_fields
  cases report.regime_scenario_pass_matrix.entries with
  | nil => simp
  | cons row rows => simp [is_true]

variable [FloorRing K]

/-- The scenario gate is there when it is required, and passes when the matrix does. -/
theorem scenario_gate_passes_iff (final_holdout_result : BacktestResult K)
    (selection_oos_result : Option (BacktestResult K))
    (capacity_report scenario_report regime_report : JsonValue K)
    (gate_spec : ValidationGateSpec K) :
    (∃ result ∈ evaluate_validation_gate_spec final_holdout_result selection_oos_result
        capacity_report scenario_report regime_report gate_spec,
      result.name = "scenario_pass_matrix" ∧ result.passed = true)
      ↔ gate_spec.scenario_pass_matrix_required = true
        ∧ scenario_matrix_passed scenario_report = some true := by
  simp [evaluate_validation_gate_spec, gate, or_and_right, exists_or]

end Gate

/-! ## Which failures reach the gate -/

section Soundness

variable {K : Type} [Field K] [LinearOrder K]

/-- The backtest of the scenario breaches the kill switch or was liquidated. -/
def ScenarioFails (inputs : ScenarioInputs K) (position_leverage : K)
    (scenario : StressScenario K) : Prop :=
  ∃ result, scenario_backtest inputs scenario = some result
    ∧ (result.max_drawdown ≤ drawdown_kill_threshold position_leverage
      ∨ result.liquidation_events ≠ [])

/-- The scenario targets a regime that the data covers. -/
def ScenarioCovered (composite_text : JsonValue K → String) (regime_coverage : Dict String K)
    (inputs : ScenarioInputs K) (scenario : StressScenario K) : Prop :=
  covered_regimes composite_text regime_coverage (scenario_profile inputs scenario) ≠ []

/-- What a scenario's result says of it. -/
structure ResultOf (inputs : ScenarioInputs K) (position_leverage : K)
    (scenario : StressScenario K) (result : ScenarioResult K) : Prop where
  name : result.scenario_name = scenario.name
  profile : result.resolved_profile = scenario_profile inputs scenario
  passed : result.passed = true ↔ ¬ ScenarioFails inputs position_leverage scenario

omit [Field K] in
theorem failure_reasons_eq_nil {kill_threshold : K} {result : BacktestResult K} :
    failure_reasons kill_threshold result = []
      ↔ ¬ (result.max_drawdown ≤ kill_threshold ∨ result.liquidation_events ≠ []) := by
  unfold failure_reasons
  simp

theorem evaluate_scenario_ok {inputs : ScenarioInputs K} {position_leverage : K}
    {scenario : StressScenario K} {result : ScenarioResult K}
    (h : evaluate_scenario inputs (drawdown_kill_threshold position_leverage) scenario
      = .ok result) : ResultOf inputs position_leverage scenario result := by
  unfold evaluate_scenario at h
  cases hbacktest : scenario_backtest inputs scenario with
  | none =>
      rw [hbacktest] at h
      cases h
  | some backtest =>
      rw [hbacktest] at h
      cases h
      refine ⟨rfl, rfl, ?_⟩
      dsimp only
      rw [List.isEmpty_iff, failure_reasons_eq_nil]
      unfold ScenarioFails
      simp [hbacktest]

/-- Scenarios of one name fail together: the backtests are looked up by name. -/
theorem ScenarioFails.of_name_eq {inputs : ScenarioInputs K} {position_leverage : K}
    {scenario other : StressScenario K} (hname : scenario.name = other.name)
    (h : ScenarioFails inputs position_leverage scenario) :
    ScenarioFails inputs position_leverage other := by
  have hbacktest : scenario_backtest inputs scenario = scenario_backtest inputs other := by
    unfold scenario_backtest resolve_scenario_profile
    rw [foldl_fill_field_name, foldl_fill_field_name, hname]
  unfold ScenarioFails at h ⊢
  rw [← hbacktest]
  exact h

/-- A report holds the results of its scenarios and the matrix of their writes. -/
theorem scenario_report_ok {composite_text : JsonValue K → String} {regime_coverage : Dict String K}
    {scenarios : List (StressScenario K)} {inputs : ScenarioInputs K} {position_leverage : K}
    {report : ScenarioEvaluationReport K}
    (h : scenario_report composite_text regime_coverage scenarios inputs position_leverage
      = .ok report) :
    (∀ result ∈ report.results, ∃ scenario ∈ scenarios,
        ResultOf inputs position_leverage scenario result)
      ∧ (∀ scenario ∈ scenarios, ∃ result ∈ report.results,
        ResultOf inputs position_leverage scenario result)
      ∧ report.regime_scenario_pass_matrix
        = written (report.results.flatMap (matrix_writes composite_text regime_coverage)) := by
  unfold scenario_report at h
  obtain ⟨evaluated, hevaluated, h⟩ := bind_ok h
  cases h
  unfold evaluate_scenarios at hevaluated
  obtain ⟨results, hresults, hevaluated⟩ := bind_ok hevaluated
  cases hevaluated
  refine ⟨?_, ?_, build_regime_scenario_pass_matrix_eq _ _ _⟩
  · intro result hresult
    obtain ⟨scenario, hscenario, hstep⟩ := (mem_mapM_ok hresults result).mp hresult
    exact ⟨scenario, hscenario, evaluate_scenario_ok hstep⟩
  · intro scenario hscenario
    obtain ⟨result, hstep⟩ := ok_of_mapM_ok hresults scenario hscenario
    exact ⟨result, (mem_mapM_ok hresults result).mpr ⟨scenario, hscenario, hstep⟩,
      evaluate_scenario_ok hstep⟩

/-- A result writes its name and whether it passed, under each covered regime. -/
theorem mem_matrix_writes {composite_text : JsonValue K → String} {regime_coverage : Dict String K}
    {result : ScenarioResult K} {write : Write String String Bool} :
    write ∈ matrix_writes composite_text regime_coverage result
      ↔ write.1.1 ∈ covered_regimes composite_text regime_coverage result.resolved_profile
        ∧ write.1.2 = result.scenario_name ∧ write.2 = result.passed := by
  unfold matrix_writes
  rw [List.mem_map]
  constructor
  · rintro ⟨regime_label, hcovered, rfl⟩
    exact ⟨hcovered, rfl, rfl⟩
  · rintro ⟨hcovered, hname, hpassed⟩
    exact ⟨write.1.1, hcovered, by rw [← hname, ← hpassed]⟩

section Report

variable {composite_text : JsonValue K → String} {regime_coverage : Dict String K}
  {scenarios : List (StressScenario K)} {inputs : ScenarioInputs K} {position_leverage : K}
  {report : ScenarioEvaluationReport K}
  (hreport : scenario_report composite_text regime_coverage scenarios inputs position_leverage
    = .ok report)

/-- What the matrix holds of a scenario: its name, and that it did not fail. -/
def WriteOf (inputs : ScenarioInputs K) (position_leverage : K) (scenario : StressScenario K)
    (write : Write String String Bool) : Prop :=
  write.1.2 = scenario.name ∧ (write.2 = true ↔ ¬ ScenarioFails inputs position_leverage scenario)

include hreport

/-- A write into the matrix is that of a covered scenario. -/
theorem covered_of_written {write : Write String String Bool}
    (h : write ∈ report.results.flatMap (matrix_writes composite_text regime_coverage)) :
    ∃ scenario ∈ scenarios, ScenarioCovered composite_text regime_coverage inputs scenario
      ∧ WriteOf inputs position_leverage scenario write := by
  obtain ⟨result, hresult, hwrite⟩ := List.mem_flatMap.mp h
  obtain ⟨hlabel, hname, hpassed⟩ := mem_matrix_writes.mp hwrite
  obtain ⟨scenario, hscenario, hof⟩ := (scenario_report_ok hreport).1 result hresult
  rw [hof.profile] at hlabel
  refine ⟨scenario, hscenario, List.ne_nil_of_mem hlabel, ?_, ?_⟩
  · rw [hname, hof.name]
  · rw [hpassed, hof.passed]

/-- A covered scenario writes into the matrix. -/
theorem written_of_covered {scenario : StressScenario K} (hscenario : scenario ∈ scenarios)
    (hcovered : ScenarioCovered composite_text regime_coverage inputs scenario) :
    ∃ write ∈ report.results.flatMap (matrix_writes composite_text regime_coverage),
      WriteOf inputs position_leverage scenario write := by
  obtain ⟨result, hresult, hof⟩ := (scenario_report_ok hreport).2.1 scenario hscenario
  obtain ⟨regime_label, hlabel⟩ := List.exists_mem_of_ne_nil _ hcovered
  rw [← hof.profile] at hlabel
  refine ⟨((regime_label, result.scenario_name), result.passed), ?_, hof.name, hof.passed⟩
  exact List.mem_flatMap.mpr ⟨result, hresult, mem_matrix_writes.mpr ⟨hlabel, rfl, rfl⟩⟩

/-- The matrix of a report passes when some scenario is covered and none of these fails. -/
theorem scenario_report_matrix_passed_iff :
    scenario_matrix_passed (report_fields report) = some true
      ↔ (∃ scenario ∈ scenarios, ScenarioCovered composite_text regime_coverage inputs scenario)
        ∧ ∀ scenario ∈ scenarios, ScenarioCovered composite_text regime_coverage inputs scenario →
          ¬ ScenarioFails inputs position_leverage scenario := by
  have hagree : ∀ a ∈ report.results.flatMap (matrix_writes composite_text regime_coverage),
      ∀ b ∈ report.results.flatMap (matrix_writes composite_text regime_coverage),
        a.1 = b.1 → a.2 = b.2 := by
    intro a ha b hb hkeys
    obtain ⟨one, -, -, hone, hapassed⟩ := covered_of_written hreport ha
    obtain ⟨other, -, -, hother, hbpassed⟩ := covered_of_written hreport hb
    have hname : one.name = other.name := by rw [← hone, ← hother, hkeys]
    have hfails : ScenarioFails inputs position_leverage one
        ↔ ScenarioFails inputs position_leverage other :=
      ⟨fun h => h.of_name_eq hname, fun h => h.of_name_eq hname.symm⟩
    rw [Bool.eq_iff_iff, hapassed, hbpassed, hfails]
  rw [scenario_matrix_passed_iff, (scenario_report_ok hreport).2.2, forall_entry_written_iff hagree,
    Ne, written_entries_eq_nil]
  constructor
  · rintro ⟨hwrites, hpassed⟩
    constructor
    · obtain ⟨write, hwrite⟩ := List.exists_mem_of_ne_nil _ hwrites
      obtain ⟨scenario, hscenario, hcovered, -⟩ := covered_of_written hreport hwrite
      exact ⟨scenario, hscenario, hcovered⟩
    · intro scenario hscenario hcovered
      obtain ⟨write, hwrite, -, hvalue⟩ := written_of_covered hreport hscenario hcovered
      exact hvalue.mp (hpassed write hwrite)
  · rintro ⟨⟨scenario, hscenario, hcovered⟩, hpassed⟩
    constructor
    · obtain ⟨write, hwrite, -⟩ := written_of_covered hreport hscenario hcovered
      exact List.ne_nil_of_mem hwrite
    · intro write hwrite
      obtain ⟨owner, howner, htarget, -, hvalue⟩ := covered_of_written hreport hwrite
      exact hvalue.mpr (hpassed owner howner htarget)

end Report

variable [FloorRing K]

/-- A passing scenario gate means that every scenario passed if and only if the gate is
not asked for, no scenario fails, no scenario targets a covered regime, or one that fails
does. -/
theorem scenario_gate_sound_iff {composite_text : JsonValue K → String}
    {regime_coverage : Dict String K} {scenarios : List (StressScenario K)}
    {inputs : ScenarioInputs K} {position_leverage : K} {report : ScenarioEvaluationReport K}
    (hreport : scenario_report composite_text regime_coverage scenarios inputs position_leverage
      = .ok report)
    (final_holdout_result : BacktestResult K) (selection_oos_result : Option (BacktestResult K))
    (capacity_report regime_report : JsonValue K) (gate_spec : ValidationGateSpec K) :
    ((∃ gate ∈ evaluate_validation_gate_spec final_holdout_result selection_oos_result
          capacity_report (report_fields report) regime_report gate_spec,
        gate.name = "scenario_pass_matrix" ∧ gate.passed = true) →
      ∀ result ∈ report.results, result.passed = true)
      ↔ gate_spec.scenario_pass_matrix_required = false
        ∨ (∀ scenario ∈ scenarios, ¬ ScenarioFails inputs position_leverage scenario)
        ∨ (∀ scenario ∈ scenarios,
          ¬ ScenarioCovered composite_text regime_coverage inputs scenario)
        ∨ ∃ scenario ∈ scenarios, ScenarioFails inputs position_leverage scenario
          ∧ ScenarioCovered composite_text regime_coverage inputs scenario := by
  obtain ⟨hsource, hresult, -⟩ := scenario_report_ok hreport
  have hpassed : (∀ result ∈ report.results, result.passed = true)
      ↔ ∀ scenario ∈ scenarios, ¬ ScenarioFails inputs position_leverage scenario := by
    constructor
    · intro hall scenario hscenario
      obtain ⟨result, hmem, hof⟩ := hresult scenario hscenario
      exact hof.passed.mp (hall result hmem)
    · intro hall result hmem
      obtain ⟨scenario, hscenario, hof⟩ := hsource result hmem
      exact hof.passed.mpr (hall scenario hscenario)
  rw [scenario_gate_passes_iff, scenario_report_matrix_passed_iff hreport, hpassed]
  constructor
  · intro hlaw
    by_cases hrequired : gate_spec.scenario_pass_matrix_required = true
    · refine Or.inr ?_
      by_cases hcovered : ∃ scenario ∈ scenarios,
          ScenarioCovered composite_text regime_coverage inputs scenario
      · by_cases hfails : ∃ scenario ∈ scenarios, ScenarioFails inputs position_leverage scenario
            ∧ ScenarioCovered composite_text regime_coverage inputs scenario
        · exact Or.inr (Or.inr hfails)
        · refine Or.inl (hlaw ⟨hrequired, hcovered, ?_⟩)
          intro scenario hscenario htarget hfail
          exact hfails ⟨scenario, hscenario, hfail, htarget⟩
      · refine Or.inr (Or.inl ?_)
        intro scenario hscenario htarget
        exact hcovered ⟨scenario, hscenario, htarget⟩
    · exact Or.inl (Bool.eq_false_iff.mpr hrequired)
  · rintro hwhen ⟨hrequired, ⟨scenario, hscenario, hcovered⟩, hpass⟩
    rcases hwhen with hoff | hnone | huncovered | ⟨failing, hfailing, hfail, htarget⟩
    · rw [hoff] at hrequired
      cases hrequired
    · exact hnone
    · exact absurd hcovered (huncovered scenario hscenario)
    · exact absurd hfail (hpass failing hfailing htarget)

end Soundness

/-! ## A failure that no row holds -/

/-- A stress backtest with the given drawdown. -/
def stress_backtest (max_drawdown : ℚ) : BacktestResult ℚ where
  trade_count := 200
  win_rate := 1 / 2
  gross_pnl := 1
  net_pnl := 1
  fee_spend := 0
  funding_spend := 0
  sharpe := 2
  sortino := 2
  max_drawdown := max_drawdown
  equity_curve := []
  liquidation_events := []
  execution_pressure_summary := none

/-- A scenario for a bull market, and one that names no regime. -/
def burst_and_outage : List (StressScenario ℚ) :=
  [{ name := "attention_burst", severity := 0.6, target_regimes := ["bull"] },
    { name := "venue_outage", severity := 0.9 }]

/-- The first keeps its drawdown small, the second loses what is given. -/
def burst_and_outage_inputs (outage_drawdown : ℚ) : ScenarioInputs ℚ where
  results_by_name :=
    (AList.insert "attention_burst" (stress_backtest (-0.1)) ∅).insert "venue_outage"
      (stress_backtest outage_drawdown)
  resolved_profiles_by_name :=
    (AList.insert "attention_burst" [("target_regimes", .list [.str "bull"])] ∅).insert
      "venue_outage" [("target_regimes", .list [])]
  stress_metrics_by_name := ∅

/-- Half of the data is a bull market. -/
def bull_coverage : Dict String ℚ := AList.insert "bull" (1 / 2) ∅

theorem burst_and_outage_report (outage_drawdown : ℚ) :
    ∃ report, scenario_report (fun _ => "") bull_coverage burst_and_outage
      (burst_and_outage_inputs outage_drawdown) 1 = .ok report :=
  ⟨_, rfl⟩

/-- No scenario fails, and the gate may pass. -/
theorem scenario_gate_sound_calm :
    ∃ report, scenario_report (fun _ => "") bull_coverage burst_and_outage
        (burst_and_outage_inputs (-0.2)) 1 = .ok report
      ∧ ((∃ gate ∈ evaluate_validation_gate_spec (stress_backtest (-0.1)) none .null
          (report_fields report) .null {},
        gate.name = "scenario_pass_matrix" ∧ gate.passed = true) →
        ∀ result ∈ report.results, result.passed = true) := by
  obtain ⟨report, hreport⟩ := burst_and_outage_report (-0.2)
  refine ⟨report, hreport, (scenario_gate_sound_iff hreport _ _ _ _ _).mpr (Or.inr (Or.inl ?_))⟩
  rintro scenario hscenario ⟨result, hresult, hbreach⟩
  have hburst : scenario_backtest (burst_and_outage_inputs (-0.2))
      { name := "attention_burst", severity := 0.6, target_regimes := ["bull"] }
      = some (stress_backtest (-0.1)) := rfl
  have houtage : scenario_backtest (burst_and_outage_inputs (-0.2))
      { name := "venue_outage", severity := 0.9 } = some (stress_backtest (-0.2)) := rfl
  have hcalm : ∀ drawdown : ℚ, -0.25 < drawdown →
      ¬ ((stress_backtest drawdown).max_drawdown ≤ drawdown_kill_threshold 1
        ∨ (stress_backtest drawdown).liquidation_events ≠ []) := by
    intro drawdown hdrawdown
    rintro (hkill | hliquidated)
    · unfold drawdown_kill_threshold at hkill
      rw [max_self, mul_one] at hkill
      exact absurd hkill (not_le.mpr hdrawdown)
    · exact hliquidated rfl
  rcases List.mem_pair.mp hscenario with rfl | rfl
  · rw [hburst] at hresult
    cases hresult
    exact hcalm (-0.1) (by norm_num) hbreach
  · rw [houtage] at hresult
    cases hresult
    exact hcalm (-0.2) (by norm_num) hbreach

/-- The outage loses half of the equity and fails; its scenario names no regime, so the
matrix does not hold it, and the gate passes. -/
theorem scenario_gate_passes_over_failure :
    ∃ report, scenario_report (fun _ => "") bull_coverage burst_and_outage
        (burst_and_outage_inputs (-0.5)) 1 = .ok report
      ∧ (∃ gate ∈ evaluate_validation_gate_spec (stress_backtest (-0.1)) none .null
          (report_fields report) .null {},
        gate.name = "scenario_pass_matrix" ∧ gate.passed = true)
      ∧ ∃ result ∈ report.results, result.scenario_name = "venue_outage" ∧ result.passed = false
        ∧ result.failure_reasons = ["drawdown_kill_switch"] := by
  refine ⟨_, rfl, ?_, ?_⟩
  · decide +kernel
  · decide +kernel

end ProofAlpha.Validation
