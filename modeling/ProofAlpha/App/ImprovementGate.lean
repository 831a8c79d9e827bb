/-
The gate for claims of improvement: `app/loop_improvement.py`.

The gate reads the evidence ledger of a loop, the three artifacts of a paper run and the data
sufficiency of the study, and lists what is missing. `supported_iff` says what has to be there
for the list to be empty.
-/
import ProofAlpha.App.CandidateQueue
import ProofAlpha.App.StudyReadiness
import ProofAlpha.Lib.PyMath

set_option autoImplicit false

namespace ProofAlpha.App

open ProofAlpha.Lib

/-! ## Reading the artifacts -/

/-- `str` and `float` of decoded values. -/
structure LoopTexts (K : Type) [Zero K] extends CompositeText K where
  /-- `float(text)`. -/
  parse_float : String → Option K

/-- `value if isinstance(value, dict) else {}`. -/
def object_of {K : Type} : JsonValue K → JsonObject K
  | .dict fields => fields
  | _ => []

/-- The values `len` takes. -/
def has_len {K : Type} : JsonValue K → Bool
  | .str _ => true
  | .list _ => true
  | .dict _ => true
  | _ => false

/-- The values that have `get`. -/
def has_get {K : Type} : JsonValue K → Bool
  | .dict _ => true
  | _ => false

variable {K : Type} [Field K] [LinearOrder K] [FloorRing K]

/-- `_int_value`. -/
def int_value (value : JsonValue K) : ℤ := (int_or_none value).getD 0

variable (texts : LoopTexts K)

omit [FloorRing K] in
/-- `_float_value`. -/
def float_value (value : JsonValue K) : K := (float_or_none texts.parse_float value).getD 0

/-- The thresholds of `build_loop_improvement_gate`. -/
structure GateThresholds (K : Type) [Field K] where
  max_abs_slip_bps : K := 25
  minimum_paper_orders : ℤ := 10
  minimum_telemetry_quality : K := 0.70

/-- The artifacts of `build_loop_improvement_gate`. -/
structure GateInputs (K : Type) where
  ledger : JsonObject K
  dashboard : JsonObject K
  postrun : JsonObject K
  calibration : JsonObject K
  data_sufficiency : Option (JsonObject K)

/-! ## The checks -/

omit [FloorRing K] in
/-- `_check_data_sufficiency`. -/
def check_data_sufficiency (data_sufficiency : Option (JsonObject K)) : List String :=
  match data_sufficiency with
  | none => ["strict_data_not_improvement_ready"]
  | some data_sufficiency =>
      let blockers := string_list texts.text (data_sufficiency.get "blockers")
      let missing_requirements :=
        string_list texts.text (data_sufficiency.get "missing_data_requirements")
      reason_if (!truthy (data_sufficiency.get "improvement_ready"))
          "strict_data_not_improvement_ready"
        ++ reason_if ("liquidation_feature_missing_observed_sidecar" ∈ blockers
            ∨ "observed_liquidation_sidecar" ∈ missing_requirements)
          "liquidation_feature_missing_observed_sidecar"
        ++ reason_if ("insufficient_history_for_v3_improvement" ∈ blockers
            ∨ "strict_v3_history" ∈ missing_requirements)
          "insufficient_history_for_v3_improvement"

/-- `_check_loop_evidence`. -/
def check_loop_evidence (ledger : JsonObject K) : List String :=
  reason_if (int_value (ledger.get "promoted_run_count") ≤ 0) "no_promoted_run"
    ++ reason_if (truthy (ledger.get "failed_gate_counts")) "validation_gates_failed"
    ++ reason_if (truthy (ledger.get "failure_taxonomy_counts")) "failure_taxonomy_present"
    ++ reason_if (truthy (ledger.get "readiness_blocker_counts")) "readiness_blockers_present"
    ++ reason_if (truthy (ledger.get "candidate_duplicate_without_new_evidence")
        ∨ 0 < int_value (ledger.get "candidate_duplicate_without_new_evidence_count"))
      "candidate_duplicate_without_new_evidence"

/-- `_check_paper_dashboard`. -/
def check_paper_dashboard (thresholds : GateThresholds K) (dashboard : JsonObject K) :
    List String :=
  let orders := object_of (dashboard.get "orders")
  let pnl := object_of (dashboard.get "pnl")
  let risk := object_of (dashboard.get "risk")
  reason_if (text_or texts.text (dashboard.get "status") "" ∉ ["completed", "healthy", "ok"])
      "paper_dashboard_attention"
    ++ reason_if (int_value (orders.get "order_count") < thresholds.minimum_paper_orders)
      "paper_sample_too_small"
    ++ reason_if (0 < int_value (orders.get "rejected_count")) "paper_rejections_present"
    ++ reason_if (0 < int_value (orders.get "risk_blocked_count")) "paper_risk_blocks_present"
    ++ reason_if (thresholds.max_abs_slip_bps < float_value texts (orders.get "max_abs_slip_bps"))
      "paper_slippage_too_high"
    ++ reason_if (float_value texts (pnl.get "telemetry_quality_score")
        < thresholds.minimum_telemetry_quality) "paper_telemetry_quality_low"
    ++ reason_if (0 < int_value (risk.get "risk_block_count")) "paper_risk_blocks_present"

/-- `_check_postrun_summary`. -/
def check_postrun_summary (thresholds : GateThresholds K) (postrun : JsonObject K) :
    List String :=
  let readiness := object_of (postrun.get "calibration_readiness")
  reason_if (!truthy (readiness.get "ready_for_model_update")) "paper_calibration_guarded"
    ++ reason_if (truthy (readiness.get "guard_reasons")) "paper_calibration_guarded"
    ++ reason_if (int_value (readiness.get "sample_count") < thresholds.minimum_paper_orders)
      "paper_sample_too_small"
    ++ reason_if (truthy (postrun.get "weak_artifacts")) "weak_paper_artifacts_present"

/-- `_check_calibration_feedback`. -/
def check_calibration_feedback (thresholds : GateThresholds K) (calibration : JsonObject K) :
    List String :=
  reason_if (text_or texts.text (calibration.get "status") ""
        ∈ ["sample_guarded", "blocked", "attention"]) "paper_calibration_guarded"
    ++ reason_if (truthy (calibration.get "guard_reasons")) "paper_calibration_guarded"
    ++ reason_if (!truthy (calibration.get "model_update_allowed"))
      "paper_model_update_not_allowed"
    ++ reason_if (int_value (calibration.get "sample_count") < thresholds.minimum_paper_orders)
      "paper_sample_too_small"

/-- `missing` after all checks. -/
def gate_missing (thresholds : GateThresholds K) (inputs : GateInputs K) : List String :=
  check_data_sufficiency texts inputs.data_sufficiency
    ++ check_loop_evidence inputs.ledger
    ++ check_paper_dashboard texts thresholds inputs.dashboard
    ++ check_postrun_summary thresholds inputs.postrun
    ++ check_calibration_feedback texts thresholds inputs.calibration

/-- The report of `build_loop_improvement_gate`, without the fields that show what it read and
the advice it gives. -/
structure ImprovementGate where
  status : String
  strategy_improvement_supported : Bool
  missing_evidence : List String

/-- `build_loop_improvement_gate`; its summary takes the length of the two counts and reads the
orders, and raises where they are of another kind. -/
def build_loop_improvement_gate (thresholds : GateThresholds K) (inputs : GateInputs K) :
    Except String ImprovementGate := do
  let missing := gate_missing texts thresholds inputs
  let supported := missing.isEmpty
  let counts := [inputs.ledger.get "failed_gate_counts",
    inputs.ledger.get "readiness_blocker_counts"]
  require (counts.all fun count => !truthy count || has_len count) "object has no len()"
  let orders := inputs.dashboard.get "orders"
  require (!truthy orders || has_get orders) "object has no attribute 'get'"
  return {
    status := if supported then "supported" else "not_supported"
    strategy_improvement_supported := supported
    missing_evidence := first_by id missing }

/-! ## What a supported claim rests on -/

/-- The data of the study are ready for improvement claims, and nothing in their report says
otherwise. -/
structure DataReady (data_sufficiency : JsonObject K) : Prop where
  improvement_ready : truthy (data_sufficiency.get "improvement_ready") = true
  liquidation_observed :
    "liquidation_feature_missing_observed_sidecar"
        ∉ string_list texts.text (data_sufficiency.get "blockers")
      ∧ "observed_liquidation_sidecar"
        ∉ string_list texts.text (data_sufficiency.get "missing_data_requirements")
  history_sufficient :
    "insufficient_history_for_v3_improvement"
        ∉ string_list texts.text (data_sufficiency.get "blockers")
      ∧ "strict_v3_history"
        ∉ string_list texts.text (data_sufficiency.get "missing_data_requirements")

/-- A run of the loop was promoted and none failed. -/
structure LoopPromoted (ledger : JsonObject K) : Prop where
  promoted : 0 < int_value (ledger.get "promoted_run_count")
  gates_passed : truthy (ledger.get "failed_gate_counts") = false
  no_failures : truthy (ledger.get "failure_taxonomy_counts") = false
  no_blockers : truthy (ledger.get "readiness_blocker_counts") = false
  not_duplicate : truthy (ledger.get "candidate_duplicate_without_new_evidence") = false
    ∧ int_value (ledger.get "candidate_duplicate_without_new_evidence_count") ≤ 0

/-- The paper run was healthy, long enough and within its slippage. -/
structure PaperHealthy (thresholds : GateThresholds K) (dashboard : JsonObject K) : Prop where
  status : text_or texts.text (dashboard.get "status") "" ∈ ["completed", "healthy", "ok"]
  orders : thresholds.minimum_paper_orders
    ≤ int_value (JsonObject.get (object_of (dashboard.get "orders")) "order_count")
  not_rejected :
    int_value (JsonObject.get (object_of (dashboard.get "orders")) "rejected_count") ≤ 0
  not_blocked :
    int_value (JsonObject.get (object_of (dashboard.get "orders")) "risk_blocked_count") ≤ 0
      ∧ int_value (JsonObject.get (object_of (dashboard.get "risk")) "risk_block_count") ≤ 0
  slippage :
    float_value texts (JsonObject.get (object_of (dashboard.get "orders")) "max_abs_slip_bps")
      ≤ thresholds.max_abs_slip_bps
  telemetry : thresholds.minimum_telemetry_quality
    ≤ float_value texts
      (JsonObject.get (object_of (dashboard.get "pnl")) "telemetry_quality_score")

/-- The calibration that came out of the paper run may be used. -/
structure CalibrationAllowed (thresholds : GateThresholds K) (postrun calibration : JsonObject K) :
    Prop where
  ready : truthy (JsonObject.get (object_of (postrun.get "calibration_readiness"))
    "ready_for_model_update") = true
  unguarded : truthy (JsonObject.get (object_of (postrun.get "calibration_readiness"))
      "guard_reasons") = false
    ∧ truthy (calibration.get "guard_reasons") = false
  strong : truthy (postrun.get "weak_artifacts") = false
  status : text_or texts.text (calibration.get "status") ""
    ∉ ["sample_guarded", "blocked", "attention"]
  update_allowed : truthy (calibration.get "model_update_allowed") = true
  samples : thresholds.minimum_paper_orders
      ≤ int_value (JsonObject.get (object_of (postrun.get "calibration_readiness")) "sample_count")
    ∧ thresholds.minimum_paper_orders ≤ int_value (calibration.get "sample_count")

/-- All that a claim of improvement needs. -/
structure SupportingEvidence (thresholds : GateThresholds K) (inputs : GateInputs K) : Prop where
  data : ∃ data_sufficiency, inputs.data_sufficiency = some data_sufficiency
    ∧ DataReady texts data_sufficiency
  loop : LoopPromoted inputs.ledger
  paper : PaperHealthy texts thresholds inputs.dashboard
  calibration : CalibrationAllowed texts thresholds inputs.postrun inputs.calibration

variable {texts}

omit [FloorRing K] in
theorem check_data_sufficiency_eq_nil_iff {data_sufficiency : Option (JsonObject K)} :
    check_data_sufficiency texts data_sufficiency = []
      ↔ ∃ found, data_sufficiency = some found ∧ DataReady texts found := by
  cases data_sufficiency with
  | none => simp [check_data_sufficiency]
  | some found =>
      simp only [check_data_sufficiency, List.append_eq_nil_iff, reason_if_eq_nil,
        Bool.not_eq_false', decide_eq_false_iff_not, not_or, Option.some.injEq]
      constructor
      · rintro ⟨⟨hready, hliquidation⟩, hhistory⟩
        exact ⟨found, rfl, hready, hliquidation, hhistory⟩
      · rintro ⟨_, rfl, hready, hliquidation, hhistory⟩
        exact ⟨⟨hready, hliquidation⟩, hhistory⟩

theorem check_loop_evidence_eq_nil_iff {ledger : JsonObject K} :
    check_loop_evidence ledger = [] ↔ LoopPromoted ledger := by
  simp only [check_loop_evidence, List.append_eq_nil_iff, reason_if_eq_nil,
    decide_eq_false_iff_not, not_or, not_le, not_lt, Bool.not_eq_true]
  constructor
  · rintro ⟨⟨⟨⟨hpromoted, hgates⟩, hfailures⟩, hblockers⟩, hduplicate⟩
    exact ⟨hpromoted, hgates, hfailures, hblockers, hduplicate⟩
  · rintro ⟨hpromoted, hgates, hfailures, hblockers, hduplicate⟩
    exact ⟨⟨⟨⟨hpromoted, hgates⟩, hfailures⟩, hblockers⟩, hduplicate⟩

theorem check_paper_dashboard_eq_nil_iff {thresholds : GateThresholds K}
    {dashboard : JsonObject K} :
    check_paper_dashboard texts thresholds dashboard = []
      ↔ PaperHealthy texts thresholds dashboard := by
  simp only [check_paper_dashboard, List.append_eq_nil_iff, reason_if_eq_nil,
    decide_eq_false_iff_not, not_not, not_lt]
  constructor
  · rintro ⟨⟨⟨⟨⟨⟨hstatus, horders⟩, hrejected⟩, hblocked⟩, hslippage⟩, htelemetry⟩, hrisk⟩
    exact ⟨hstatus, horders, hrejected, ⟨hblocked, hrisk⟩, hslippage, htelemetry⟩
  · rintro ⟨hstatus, horders, hrejected, ⟨hblocked, hrisk⟩, hslippage, htelemetry⟩
    exact ⟨⟨⟨⟨⟨⟨hstatus, horders⟩, hrejected⟩, hblocked⟩, hslippage⟩, htelemetry⟩, hrisk⟩

theorem check_calibration_eq_nil_iff {thresholds : GateThresholds K}
    {postrun calibration : JsonObject K} :
    check_postrun_summary thresholds postrun = []
        ∧ check_calibration_feedback texts thresholds calibration = []
      ↔ CalibrationAllowed texts thresholds postrun calibration := by
  simp only [check_postrun_summary, check_calibration_feedback, List.append_eq_nil_iff,
    reason_if_eq_nil, decide_eq_false_iff_not, not_lt, Bool.not_eq_false']
  constructor
  · rintro ⟨⟨⟨⟨hready, hguard⟩, hsamples⟩, hstrong⟩, ⟨⟨hstatus, hguard'⟩, hupdate⟩, hsamples'⟩
    exact ⟨hready, ⟨hguard, hguard'⟩, hstrong, hstatus, hupdate, hsamples, hsamples'⟩
  · rintro ⟨hready, ⟨hguard, hguard'⟩, hstrong, hstatus, hupdate, hsamples, hsamples'⟩
    exact ⟨⟨⟨⟨hready, hguard⟩, hsamples⟩, hstrong⟩, ⟨⟨hstatus, hguard'⟩, hupdate⟩, hsamples'⟩

/-- The gate supports a claim exactly where all the evidence is there. -/
theorem gate_missing_eq_nil_iff {thresholds : GateThresholds K} {inputs : GateInputs K} :
    gate_missing texts thresholds inputs = [] ↔ SupportingEvidence texts thresholds inputs := by
  simp only [gate_missing, List.append_eq_nil_iff, and_assoc]
  rw [check_data_sufficiency_eq_nil_iff, check_loop_evidence_eq_nil_iff,
    check_paper_dashboard_eq_nil_iff, check_calibration_eq_nil_iff]
  constructor
  · rintro ⟨hdata, hloop, hpaper, hcalibration⟩
    exact ⟨hdata, hloop, hpaper, hcalibration⟩
  · rintro ⟨hdata, hloop, hpaper, hcalibration⟩
    exact ⟨hdata, hloop, hpaper, hcalibration⟩

theorem evidence_of_supported {thresholds : GateThresholds K} {inputs : GateInputs K}
    {gate : ImprovementGate} (h : build_loop_improvement_gate texts thresholds inputs = .ok gate)
    (hsupported : gate.strategy_improvement_supported = true) :
    SupportingEvidence texts thresholds inputs := by
  unfold build_loop_improvement_gate at h
  obtain ⟨-, -, h⟩ := bind_ok h
  obtain ⟨-, -, h⟩ := bind_ok h
  cases h
  exact gate_missing_eq_nil_iff.mp (List.isEmpty_iff.mp hsupported)

end ProofAlpha.App
