/-
Records of a change between two payloads: `agent/model_governance.py`.

Two bounded specifications are compared in four groups of sections, and a group in which
they differ gets a record with the values before and after. The record of a change always
passes its own check (`change_record_passed`), so none is dropped. No group holds the
forecast configuration: a change of that alone leaves no record, although it changes the
identity of the specification (`changes_recorded_iff`).
-/
import ProofAlpha.Strategy.BoundedSpecPayload
import ProofAlpha.Strategy.NormalForm

set_option autoImplicit false

namespace ProofAlpha.Agent

open ProofAlpha.Lib ProofAlpha.Strategy

/-- `ALLOWED_MODEL_CHANGE_TYPES`. -/
def ALLOWED_MODEL_CHANGE_TYPES : List String :=
  ["strategy", "feature", "cost", "risk", "calibration", "execution"]

/-- `ALLOWED_APPROVAL_STATES`. -/
def ALLOWED_APPROVAL_STATES : List String := ["proposed", "approved", "rejected", "rollback_ready"]

/-- The fields that a record must fill in. -/
def RECORD_FIELDS : List String :=
  ["model_version", "diff_summary", "replay_comparison", "rollback_target", "approval_state"]

/-- The groups of sections that are compared, each under the type of its record. -/
def CHANGE_SECTIONS : List (String × List String) :=
  [("strategy", ["family", "structure", "parameter_schema"]), ("feature", ["feature_contracts"]),
    ("risk", ["risk_hooks"]), ("execution", ["execution_policy"])]

section Model

variable {K : Type}

/-- `ContractCheck`. -/
structure ContractCheck (K : Type) where
  passed : Bool
  reasons : List String
  payload : JsonObject K

/-- `value in (None, "", {}, [])`. -/
def is_unfilled : JsonValue K → Bool
  | .null => true
  | .str text => decide (text = "")
  | .dict fields => fields.isEmpty
  | .list items => items.isEmpty
  | _ => false

/-- The reason against a replay comparison that is there and no object. -/
def replay_reasons : JsonValue K → List String
  | .null => []
  | .dict _ => []
  | _ => ["replay_comparison_not_object"]

/-- `validate_model_change_record`. -/
def validate_model_change_record (record : JsonObject K) : Except String (ContractCheck K) := do
  let type_allowed ← is_member ALLOWED_MODEL_CHANGE_TYPES (record.get "model_type")
  let state_allowed ← is_member ALLOWED_APPROVAL_STATES (record.get "approval_state")
  let reasons :=
    reason_if (! type_allowed) "model_type_not_allowed"
      ++ (RECORD_FIELDS.filter fun field_name => is_unfilled (record.get field_name)).map
        (fun field_name => "missing:" ++ field_name)
      ++ reason_if (! state_allowed) "approval_state_not_allowed"
      ++ replay_reasons (record.get "replay_comparison")
  return ⟨reasons.isEmpty, reasons, record⟩

/-- The values of a specification that one record compares. -/
def section_values (spec : JsonObject K) (field_names : List String) : JsonObject K :=
  field_names.map fun field_name => (field_name, spec.get field_name)

/-- `(identity_hash or default)[:12]`. -/
def short_hash (identity_hash : Option String) (default : String) : String :=
  let text := identity_hash.getD ""
  String.ofList ((if text = "" then default else text).toList.take 12)

/-- What all records of one comparison share. -/
structure ChangeContext (K : Type) where
  previous_identity_hash : Option String
  next_identity_hash : Option String
  approval_state : String
  validation_status : String
  objective_score : Option K

variable [Field K] [DecidableEq K]

/-- `changed_fields`. -/
def changed_fields (before_value after_value : JsonObject K) : List String :=
  (((before_value.map Prod.fst ++ after_value.map Prod.fst).dedup).filter fun field_name =>
    ! py_eq (before_value.get field_name) (after_value.get field_name)).insertionSort (· ≤ ·)

/-- The `record` of `_append_change_record`. -/
def change_record (context : ChangeContext K) (model_type : String)
    (before_value after_value : JsonObject K) : JsonObject K :=
  let changed := changed_fields before_value after_value
  [("model_type", .str model_type),
    ("model_version", .str (model_type ++ "-" ++ short_hash context.next_identity_hash "unknown")),
    ("diff_summary", .str ("changed " ++ ", ".intercalate changed)),
    ("replay_comparison", .dict
      [("previous_identity_hash", (context.previous_identity_hash.map JsonValue.str).getD .null),
        ("next_identity_hash", (context.next_identity_hash.map JsonValue.str).getD .null),
        ("validation_status", .str context.validation_status),
        ("objective_score", (context.objective_score.map JsonValue.float).getD .null),
        ("changed_fields", text_list changed)]),
    ("rollback_target", .str
      (model_type ++ "-" ++ short_hash context.previous_identity_hash "baseline")),
    ("approval_state", .str context.approval_state),
    ("before", .dict before_value),
    ("after", .dict after_value)]

/-- `_append_change_record`. -/
def append_change_record (context : ChangeContext K) (previous_spec next_spec : JsonObject K)
    (records : List (JsonObject K)) (change : String × List String) :
    Except String (List (JsonObject K)) := do
  let before_value := section_values previous_spec change.2
  let after_value := section_values next_spec change.2
  if py_eq (.dict before_value) (.dict after_value) then return records
  let record := change_record context change.1 before_value after_value
  if (← validate_model_change_record record).passed then return records ++ [record]
  -- a record that fails its check is dropped
  return records

/-- The validation of the specification that a payload holds. -/
def validate_payload (runtime : DslRuntime K) (payload : JsonValue K) :
    Except String (BoundedStrategyValidation K) := do
  let spec ← build_bounded_strategy_spec_from_payload runtime payload
  validate_bounded_strategy_spec runtime (.dict spec)

/-- `build_model_change_records`. -/
def build_model_change_records (runtime : DslRuntime K)
    (previous_payload next_payload : JsonValue K) (validation_status : String)
    (objective_score : Option K) : Except String (List (JsonObject K)) := do
  let previous_validation ← validate_payload runtime previous_payload
  let next_validation ← validate_payload runtime next_payload
  require previous_validation.passed "ValueError: previous_payload_not_bounded_strategy"
  require next_validation.passed ("ValueError: " ++ ";".intercalate next_validation.reasons)
  let context : ChangeContext K :=
    { previous_identity_hash := previous_validation.identity_hash
      next_identity_hash := next_validation.identity_hash
      approval_state :=
        if validation_status ∈ ["evaluated", "validated", "promoted"] then "approved"
        else "proposed"
      validation_status := validation_status
      objective_score := objective_score }
  CHANGE_SECTIONS.foldlM (append_change_record context previous_validation.normalized_spec
    next_validation.normalized_spec) []

end Model

/-! ## The records of a change -/

section Records

variable {K : Type} [Field K] [DecidableEq K]

omit [Field K] [DecidableEq K] in
theorem lookup_section_values (spec : JsonObject K) {field_names : List String} {field_name : String}
    (h : field_name ∈ field_names) :
    List.lookup field_name (section_values spec field_names) = some (spec.get field_name) :=
  List.lookup_graph spec.get h

/-- Two groups of sections are equal when each of their sections is. -/
theorem section_values_eq_iff (spec spec' : JsonObject K) (field_names : List String) :
    py_eq (.dict (section_values spec field_names)) (.dict (section_values spec' field_names)) = true
      ↔ ∀ field_name ∈ field_names, py_eq (spec.get field_name) (spec'.get field_name) = true := by
  -- the fields that are left to compare, against all those of the other group
  have hfields : ∀ rest : List String, (∀ field_name ∈ rest, field_name ∈ field_names) →
      (fields_in (section_values spec rest) (section_values spec' field_names) = true
        ↔ ∀ field_name ∈ rest, py_eq (spec.get field_name) (spec'.get field_name) = true) := by
    intro rest
    induction rest with
    | nil => simp [section_values, fields_in_nil]
    | cons field_name rest ih =>
        intro hmem
        have hlookup := lookup_section_values spec' (hmem field_name List.mem_cons_self)
        have hrest := ih fun other hother => hmem other (List.mem_cons_of_mem field_name hother)
        rw [section_values] at hrest
        rw [section_values, List.map_cons, fields_in_cons, hlookup, Bool.and_eq_true, hrest,
          List.forall_mem_cons]
  have hlength : (section_values spec field_names).length
      = (section_values spec' field_names).length := by simp [section_values]
  rw [py_eq_dict, hlength, beq_self_eq_true, Bool.true_and]
  exact hfields field_names fun _ h => h

omit [Field K] [DecidableEq K] in
theorem is_unfilled_str {text : String} (h : text ≠ "") :
    is_unfilled (.str text : JsonValue K) = false :=
  decide_eq_false h

/-- The record of a change passes its own check. -/
theorem change_record_passed {context : ChangeContext K}
    (hstate : context.approval_state ∈ ALLOWED_APPROVAL_STATES) {model_type : String}
    (htype : model_type ∈ ALLOWED_MODEL_CHANGE_TYPES) (before_value after_value : JsonObject K) :
    validate_model_change_record (change_record context model_type before_value after_value)
      = .ok ⟨true, [], change_record context model_type before_value after_value⟩ := by
  have hversion : ∀ hash : String, model_type ++ "-" ++ hash ≠ "" := by
    intro hash hempty
    simpa using congrArg String.length hempty
  have hsummary : ∀ names : String, "changed " ++ names ≠ "" := by
    intro names hempty
    simpa using congrArg String.length hempty
  have happroval : context.approval_state ≠ "" := by
    intro hempty
    rw [hempty] at hstate
    exact absurd hstate (by decide)
  have hfilled : (RECORD_FIELDS.filter fun field_name => is_unfilled
      ((change_record context model_type before_value after_value).get field_name)) = [] := by
    apply List.filter_eq_nil_iff.mpr
    intro field_name hfield
    rw [Bool.not_eq_true]
    simp only [RECORD_FIELDS, List.mem_cons, List.not_mem_nil, or_false] at hfield
    rcases hfield with rfl | rfl | rfl | rfl | rfl
    · exact is_unfilled_str (hversion _)
    · exact is_unfilled_str (hsummary _)
    · rfl
    · exact is_unfilled_str (hversion _)
    · exact is_unfilled_str happroval
  have htype_allowed := is_member_eq_true.mpr
    ⟨model_type, rfl (a := (JsonValue.str model_type : JsonValue K)), htype⟩
  have hstate_allowed := is_member_eq_true.mpr
    ⟨context.approval_state, rfl (a := (JsonValue.str context.approval_state : JsonValue K)), hstate⟩
  have hget_type : (change_record context model_type before_value after_value).get "model_type"
      = .str model_type := rfl
  have hget_state : (change_record context model_type before_value after_value).get
      "approval_state" = .str context.approval_state := rfl
  rw [validate_model_change_record, hget_type, hget_state, htype_allowed, ok_bind, hstate_allowed,
    ok_bind]
  dsimp only
  rw [hfilled]
  rfl

/-- A comparison appends a record exactly when its sections differ. -/
theorem append_change_record_eq {context : ChangeContext K}
    (hstate : context.approval_state ∈ ALLOWED_APPROVAL_STATES) (previous_spec next_spec : JsonObject K)
    (records : List (JsonObject K)) {change : String × List String}
    (htype : change.1 ∈ ALLOWED_MODEL_CHANGE_TYPES) :
    append_change_record context previous_spec next_spec records change
      = .ok (records ++
        if py_eq (.dict (section_values previous_spec change.2))
            (.dict (section_values next_spec change.2)) then []
        else [change_record context change.1 (section_values previous_spec change.2)
          (section_values next_spec change.2)]) := by
  unfold append_change_record
  dsimp only
  split_ifs with heq
  · rw [List.append_nil]
    rfl
  · rw [change_record_passed hstate htype]
    rfl

/-- The records of all comparisons. -/
def change_records (context : ChangeContext K) (previous_spec next_spec : JsonObject K) :
    List (JsonObject K) :=
  CHANGE_SECTIONS.flatMap fun change =>
    if py_eq (.dict (section_values previous_spec change.2))
        (.dict (section_values next_spec change.2)) then []
    else [change_record context change.1 (section_values previous_spec change.2)
      (section_values next_spec change.2)]

theorem foldlM_append_change_record {context : ChangeContext K}
    (hstate : context.approval_state ∈ ALLOWED_APPROVAL_STATES)
    (previous_spec next_spec : JsonObject K) :
    CHANGE_SECTIONS.foldlM (append_change_record context previous_spec next_spec) []
      = .ok (change_records context previous_spec next_spec) := by
  have htypes : ∀ change ∈ CHANGE_SECTIONS, change.1 ∈ ALLOWED_MODEL_CHANGE_TYPES := by decide
  rw [foldlM_eq_ok_foldl fun records change hchange =>
    append_change_record_eq hstate previous_spec next_spec records (htypes change hchange)]
  exact congrArg Except.ok List.flatMap_eq_foldl.symm

theorem mem_change_records {context : ChangeContext K} {previous_spec next_spec : JsonObject K}
    {record : JsonObject K} :
    record ∈ change_records context previous_spec next_spec
      ↔ ∃ change ∈ CHANGE_SECTIONS,
        (∃ field_name ∈ change.2,
          py_eq (previous_spec.get field_name) (next_spec.get field_name) = false)
        ∧ record = change_record context change.1 (section_values previous_spec change.2)
          (section_values next_spec change.2) := by
  have hdiffer : ∀ field_names : List String,
      py_eq (.dict (section_values previous_spec field_names))
          (.dict (section_values next_spec field_names)) ≠ true
        ↔ ∃ field_name ∈ field_names,
          py_eq (previous_spec.get field_name) (next_spec.get field_name) = false := by
    intro field_names
    simp [section_values_eq_iff]
  unfold change_records
  rw [List.mem_flatMap]
  refine exists_congr fun change => and_congr_right fun _ => ?_
  rw [← hdiffer]
  split_ifs with heq
  · simp [heq]
  · simp [heq]

/-- Some record holds the values of a field before and after the change. -/
def Recorded (records : List (JsonObject K)) (previous_spec next_spec : JsonObject K)
    (field_name : String) : Prop :=
  ∃ record ∈ records, ∃ before_value after_value,
    record.get "before" = .dict before_value ∧ record.get "after" = .dict after_value
    ∧ List.lookup field_name before_value = some (previous_spec.get field_name)
    ∧ List.lookup field_name after_value = some (next_spec.get field_name)

/-- The records tell every change of a field other than the variant. -/
structure CompleteRecords (records : List (JsonObject K))
    (previous_spec next_spec : JsonObject K) : Prop where
  agree : records = [] → ∀ field_name ≠ "variant_id",
    py_eq (previous_spec.get field_name) (next_spec.get field_name) = true
  recorded : ∀ field_name ≠ "variant_id",
    py_eq (previous_spec.get field_name) (next_spec.get field_name) = false →
      Recorded records previous_spec next_spec field_name

omit [Field K] [DecidableEq K] in
/-- The fields of a normal specification that no group holds. -/
theorem field_cases (K : Type) (field_name : String) :
    (∃ change ∈ CHANGE_SECTIONS, field_name ∈ change.2) ∨ field_name = "variant_id"
      ∨ field_name = "forecast_feature_config"
      ∨ ∀ normal : NormalSections K, normal.spec.get field_name = .null := by
  by_cases hkey : field_name ∈ ALLOWED_KEYS
  · have hall : ∀ key ∈ ALLOWED_KEYS, (∃ change ∈ CHANGE_SECTIONS, key ∈ change.2)
        ∨ key = "variant_id" ∨ key = "forecast_feature_config" := by decide
    rcases hall field_name hkey with hgroup | hvariant | hforecast
    · exact Or.inl hgroup
    · exact Or.inr (Or.inl hvariant)
    · exact Or.inr (Or.inr (Or.inl hforecast))
  · right; right; right
    intro normal
    have hkeys : normal.spec.map Prod.fst = ALLOWED_KEYS := rfl
    have hnone : List.lookup field_name normal.spec = none := by
      apply List.lookup_eq_none_iff.mpr
      intro item hitem
      apply bne_iff_ne.mpr
      rintro rfl
      exact hkey (hkeys ▸ List.mem_map_of_mem hitem)
    rw [JsonObject.get, hnone]
    rfl

/-- A field is recorded when it is in a group that has changed. -/
theorem recorded_iff {context : ChangeContext K} {previous_spec next_spec : JsonObject K}
    {field_name : String} :
    Recorded (change_records context previous_spec next_spec) previous_spec next_spec field_name
      ↔ ∃ change ∈ CHANGE_SECTIONS, field_name ∈ change.2 ∧ ∃ changed ∈ change.2,
        py_eq (previous_spec.get changed) (next_spec.get changed) = false := by
  constructor
  · rintro ⟨record, hrecord, before_value, after_value, hbefore, -, hlookup, -⟩
    obtain ⟨change, hchange, hchanged, rfl⟩ := mem_change_records.mp hrecord
    refine ⟨change, hchange, ?_, hchanged⟩
    have hvalues : section_values previous_spec change.2 = before_value := JsonValue.dict.inj hbefore
    rw [← hvalues] at hlookup
    obtain ⟨name, hname, hpair⟩ := List.mem_map.mp (PyList.mem_of_lookup_eq_some hlookup)
    cases hpair
    exact hname
  · rintro ⟨change, hchange, hfield, hchanged⟩
    refine ⟨_, mem_change_records.mpr ⟨change, hchange, hchanged, rfl⟩, _, _, rfl, rfl, ?_, ?_⟩
    · exact lookup_section_values previous_spec hfield
    · exact lookup_section_values next_spec hfield

/-- The records of two normal specifications are complete when those have the same forecast
configuration. -/
theorem completeRecords_iff (context : ChangeContext K) (previous next : NormalSections K) :
    CompleteRecords (change_records context previous.spec next.spec) previous.spec next.spec
      ↔ py_eq (.dict previous.forecast_feature_config) (.dict next.forecast_feature_config)
        = true := by
  have hgroups : ∀ change ∈ CHANGE_SECTIONS, "forecast_feature_config" ∉ change.2 := by decide
  have hdiffers : ∀ field_name ≠ "variant_id",
      py_eq (.dict previous.forecast_feature_config) (.dict next.forecast_feature_config) = true →
      py_eq (previous.spec.get field_name) (next.spec.get field_name) = false →
        ∃ change ∈ CHANGE_SECTIONS, field_name ∈ change.2 := by
    intro field_name hvariant hforecast hdiffer
    rcases field_cases K field_name with hgroup | rfl | rfl | hnull
    · exact hgroup
    · exact absurd rfl hvariant
    · exact absurd (hdiffer.symm.trans hforecast) (by decide)
    · rw [hnull previous, hnull next] at hdiffer
      cases hdiffer
  constructor
  · -- no group holds the forecast configuration, so no record can tell its change
    intro hcomplete
    by_contra hdiffer
    obtain ⟨change, hchange, hfield, -⟩ := recorded_iff.mp
      (hcomplete.recorded "forecast_feature_config" (by decide) (Bool.not_eq_true _ ▸ hdiffer))
    exact hgroups change hchange hfield
  · intro hforecast
    constructor
    · intro hempty field_name hvariant
      by_contra hdiffer
      rw [Bool.not_eq_true] at hdiffer
      obtain ⟨change, hchange, hfield⟩ := hdiffers field_name hvariant hforecast hdiffer
      have hrecord : change_record context change.1 (section_values previous.spec change.2)
          (section_values next.spec change.2) ∈ change_records context previous.spec next.spec :=
        mem_change_records.mpr ⟨change, hchange, ⟨field_name, hfield, hdiffer⟩, rfl⟩
      rw [hempty] at hrecord
      cases hrecord
    · intro field_name hvariant hdiffer
      obtain ⟨change, hchange, hfield⟩ := hdiffers field_name hvariant hforecast hdiffer
      exact recorded_iff.mpr ⟨change, hchange, hfield, field_name, hfield, hdiffer⟩

end Records

/-! ## From two payloads -/

section Payloads

variable {K : Type} [Field K] [DecidableEq K] {runtime : DslRuntime K}

/-- The normal forecast configuration of a payload, with the issues of it. -/
def payload_forecast (runtime : DslRuntime K) :
    JsonValue K → Except String (JsonObject K × List String)
  | .dict payload =>
      normalize_forecast_feature_config runtime (JsonObject.get payload "forecast_feature_config")
  | _ => .ok ([], [])

/-- Two payloads have equal forecast configurations, in their normal forms. -/
def SameForecast (runtime : DslRuntime K) (payload payload' : JsonValue K) : Prop :=
  ∃ forecast forecast', payload_forecast runtime payload = .ok forecast
    ∧ payload_forecast runtime payload' = .ok forecast'
    ∧ py_eq (.dict forecast.1) (.dict forecast'.1) = true

/-- A specification has the forecast configuration of its payload. -/
theorem get_forecast_of_build {payload : JsonObject K} {spec : JsonObject K}
    (h : build_bounded_strategy_spec_from_payload runtime (.dict payload) = .ok spec) :
    spec.get "forecast_feature_config" = payload.get "forecast_feature_config" := by
  obtain ⟨schema, -, hspec⟩ := bind_ok h
  cases hspec
  have hfree : List.lookup "forecast_feature_config" (PROHIBITED_FREE_FORM_FIELDS.filterMap
      fun field_name => (List.lookup field_name payload).map fun value => (field_name, value))
        = none := by
    apply List.lookup_eq_none_iff.mpr
    intro item hitem
    obtain ⟨field_name, hfield, hvalue⟩ := List.mem_filterMap.mp hitem
    obtain ⟨value, -, rfl⟩ := Option.map_eq_some_iff.mp hvalue
    apply bne_iff_ne.mpr
    rintro rfl
    exact absurd hfield (by decide)
  have hget : ∀ value : JsonValue K, (if is_present value then
      [("forecast_feature_config", value)] else []).lookup "forecast_feature_config"
        = if is_present value then some value else none := by
    intro value
    split_ifs <;> rfl
  have hnull : ∀ value : JsonValue K,
      (if is_present value then some value else none).getD .null = value := by
    intro value
    cases value <;> rfl
  unfold JsonObject.get
  -- none of the seven fields before the configuration has its key
  rw [List.lookup_append, List.lookup_append, hfree, Option.or_none, hget]
  exact hnull _

/-- What a payload that validates holds. -/
theorem accepts_of_validate_payload {payload : JsonValue K}
    {validation : BoundedStrategyValidation K}
    (h : validate_payload runtime payload = .ok validation) (hpassed : validation.passed = true) :
    ∃ normal, validation = accepted runtime normal
      ∧ payload_forecast runtime payload = .ok (normal.forecast_feature_config, []) := by
  obtain ⟨spec, hbuild, hvalidate⟩ := bind_ok h
  obtain ⟨normal, haccepts, hvalidation⟩ := accepts_of_passed hvalidate hpassed
  refine ⟨normal, hvalidation, ?_⟩
  cases payload with
  | dict payload =>
      rw [payload_forecast, ← get_forecast_of_build hbuild]
      exact haccepts.forecast
  | _ => cases hbuild

/-- For two payloads that validate, the records tell every change if and only if the
forecast configurations have equal normal forms. -/
theorem changes_recorded_iff (runtime : DslRuntime K) {previous_payload next_payload : JsonValue K}
    {previous next : BoundedStrategyValidation K}
    (hprevious : validate_payload runtime previous_payload = .ok previous)
    (hprevious_passed : previous.passed = true)
    (hnext : validate_payload runtime next_payload = .ok next) (hnext_passed : next.passed = true)
    (validation_status : String) (objective_score : Option K) :
    ∃ records, build_model_change_records runtime previous_payload next_payload validation_status
        objective_score = .ok records
      ∧ (CompleteRecords records previous.normalized_spec next.normalized_spec
        ↔ SameForecast runtime previous_payload next_payload) := by
  obtain ⟨normal, rfl, hforecast⟩ := accepts_of_validate_payload hprevious hprevious_passed
  obtain ⟨normal', rfl, hforecast'⟩ := accepts_of_validate_payload hnext hnext_passed
  have hsame : SameForecast runtime previous_payload next_payload
      ↔ py_eq (.dict normal.forecast_feature_config) (.dict normal'.forecast_feature_config)
        = true := by
    constructor
    · rintro ⟨forecast, forecast', h, h', heq⟩
      cases hforecast.symm.trans h
      cases hforecast'.symm.trans h'
      exact heq
    · intro heq
      exact ⟨_, _, hforecast, hforecast', heq⟩
  unfold build_model_change_records
  rw [hprevious, hnext, ok_bind, ok_bind, require_ok hprevious_passed, require_ok hnext_passed]
  refine ⟨_, foldlM_append_change_record ?_ _ _, ?_⟩
  · dsimp only
    split_ifs
    · decide
    · decide
  · rw [hsame]
    exact completeRecords_iff _ normal normal'

end Payloads

/-! ## A change of the forecast configuration alone -/

/-- A forecast configuration with the given horizon. -/
def horizon_config (horizon : ℤ) : JsonObject ℚ :=
  forecast_feature_entry "sha256:timesfm" 512 ["timesfm_skew"] horizon "timesfm-2.5"

/-- A payload with this configuration. -/
def horizon_payload (horizon : ℤ) : JsonObject ℚ :=
  [("run_id", .str "v1"), ("snapshot", .dict []), ("backbone", .str "mom_squeeze"),
    ("forecast_feature_config", .dict (horizon_config horizon))]

/-- Exact numbers, and the digests of two such payloads. -/
def horizon_runtime : DslRuntime ℚ :=
  { plain_runtime with
    identity_digest := fun spec =>
      match spec.get "forecast_feature_config" with
      | .dict fields =>
          if py_eq (JsonObject.get fields "horizon") (.int 2) then
            "1b15eca44180e2b9159eae94f71c6cf0dcaaaf493360b06f3fc1b12626fc0b88"
          else "5df1a9f3c555d2eb449ab8923686b4782fb8058ae56924454b86153e04eda51e"
      | _ => "" }

/-- Its normal sections. -/
def horizon_normal (horizon : ℤ) : NormalSections ℚ where
  family := "momentum"
  variant_id := "v1"
  feature_contracts := ["forecast_feature", "ohlcv"]
  parameter_schema := [("mom_squeeze.entry_stride", parameter_bounds 2 10 1)]
  risk_hooks := ["max_drawdown", "venue_profile_guard"]
  execution_policy := [("execution_tf", .str "15m"), ("signal_tf", .str "1h"),
    ("venue", .str "binance")]
  struct := structure_entry "mom_squeeze" fun _ => []
  forecast_feature_config := horizon_config horizon

/-- The specification of such a payload. -/
def horizon_spec (horizon : ℤ) : JsonObject ℚ :=
  [("family", .str "momentum"), ("variant_id", .str "v1"),
    ("feature_contracts", text_list ["ohlcv", "forecast_feature"]),
    ("parameter_schema", .dict [("mom_squeeze.entry_stride", parameter_bounds 2 10 1)]),
    ("risk_hooks", text_list ["max_drawdown", "venue_profile_guard"]),
    ("execution_policy", .dict
      [("venue", .str "binance"), ("signal_tf", .str "1h"), ("execution_tf", .str "15m")]),
    ("structure", .dict [("backbone", .str "mom_squeeze"), ("directional_layers", .list []),
      ("known_good_filters", .list []), ("custom_filters", .list []), ("exit_layers", .list [])]),
    ("forecast_feature_config", .dict (horizon_config horizon))]

theorem build_horizon_payload (horizon : ℤ) :
    build_bounded_strategy_spec_from_payload horizon_runtime (.dict (horizon_payload horizon))
      = .ok (horizon_spec horizon) := by
  have htimeframe : normalize_signal_timeframe horizon_runtime (.str "1h") = "1h" := by
    decide +kernel
  have hpolicy : payload_policy horizon_runtime (horizon_payload horizon)
      = [("venue", .str "binance"), ("signal_tf", .str "1h"), ("execution_tf", .str "15m")] := by
    have hsnapshot : (horizon_payload horizon).get_or "snapshot" (.dict []) = .dict [] := rfl
    have hget : JsonObject.get_or ([] : JsonObject ℚ) "timeframe" (.str "1h") = .str "1h" := rfl
    unfold payload_policy
    rw [hsnapshot]
    dsimp only
    rw [hget, htimeframe]
    rfl
  have hbackbone : payload_backbone horizon_runtime (horizon_payload horizon) = "mom_squeeze" := by
    have hblank : pyStrip "" = "" := by decide
    -- without an incumbent the payload's own backbone is read
    change (if pyStrip "" = "" then pyStrip "mom_squeeze" else pyStrip "") = _
    rw [if_pos hblank]
    decide
  have hcontracts : payload_contracts (horizon_payload horizon) = ["ohlcv", "forecast_feature"] :=
    rfl
  have hschema : parameter_schema_from_payload horizon_runtime (horizon_payload horizon)
      ["mom_squeeze"] = .ok [("mom_squeeze.entry_stride", parameter_bounds 2 10 1)] := rfl
  have hlayers : (STRUCTURE_LISTS.flatMap fun field_name =>
      normalize_string_list ((horizon_payload horizon).get field_name)) = [] := rfl
  unfold build_bounded_strategy_spec_from_payload
  dsimp only
  rw [hbackbone, hcontracts, hlayers, hschema, hpolicy, ok_bind]
  rfl

theorem horizon_accepted {horizon : ℤ} (hpositive : 0 < horizon) :
    Accepts horizon_runtime (horizon_spec horizon) (horizon_normal horizon) := by
  have hentry : IsForecastEntry (horizon_config horizon) "sha256:timesfm" 512 ["timesfm_skew"]
      horizon "timesfm-2.5" :=
    ⟨rfl, by decide, by decide, ⟨List.pairwise_singleton _ _, by decide⟩, by decide, by decide,
      hpositive, by decide⟩
  have hkeys : ["family", "variant_id", "feature_contracts", "parameter_schema", "risk_hooks",
      "execution_policy", "structure", "forecast_feature_config"] ⊆ ALLOWED_KEYS := by decide
  exact
    { keys := fun item hitem => hkeys (List.mem_map_of_mem (f := Prod.fst) hitem)
      family := rfl
      family_allowed := (by decide : "momentum" ∈ ALLOWED_FAMILIES)
      variant_id := rfl
      variant_named := (by decide : pyStrip "v1" ≠ "")
      features := rfl
      features_some := List.cons_ne_nil _ _
      features_allowed :=
        (by decide : ∀ name ∈ ["forecast_feature", "ohlcv"], name ∈ ALLOWED_FEATURE_CONTRACTS)
      schema := rfl
      schema_some := List.cons_ne_nil _ _
      hooks := normalize_text_list ⟨by decide, by decide⟩
      hooks_allowed := (by decide :
        ∀ name ∈ ["max_drawdown", "venue_profile_guard"], name ∈ ALLOWED_RISK_HOOKS)
      policy := rfl
      policy_checked := rfl
      struct := rfl
      struct_checked := rfl
      forecast := normalize_forecast_entry hentry
      forecast_some := fun _ => List.cons_ne_nil _ _
      forecast_contract := fun _ => List.mem_cons_self }

theorem horizon_validated {horizon : ℤ} (hpositive : 0 < horizon) :
    validate_payload horizon_runtime (.dict (horizon_payload horizon))
      = .ok (accepted horizon_runtime (horizon_normal horizon)) := by
  unfold validate_payload
  rw [build_horizon_payload, ok_bind]
  exact passed_of_accepts (horizon_accepted hpositive)

/-- A payload against itself. -/
theorem changes_recorded_same :
    ∃ records, build_model_change_records horizon_runtime (.dict (horizon_payload 2))
        (.dict (horizon_payload 2)) "validated" none = .ok records
      ∧ (CompleteRecords records (horizon_normal 2).spec (horizon_normal 2).spec
        ↔ SameForecast horizon_runtime (.dict (horizon_payload 2)) (.dict (horizon_payload 2))) :=
  changes_recorded_iff horizon_runtime (horizon_validated (by decide)) rfl
    (horizon_validated (by decide)) rfl "validated" none

/-- Another horizon makes another specification, with another hash, and leaves no record. -/
theorem horizon_change_unrecorded :
    ∃ previous next,
      validate_payload horizon_runtime (.dict (horizon_payload 2)) = .ok previous
      ∧ validate_payload horizon_runtime (.dict (horizon_payload 4)) = .ok next
      ∧ previous.passed = true ∧ next.passed = true
      ∧ previous.identity_hash ≠ next.identity_hash
      ∧ build_model_change_records horizon_runtime (.dict (horizon_payload 2))
        (.dict (horizon_payload 4)) "validated" none = .ok []
      ∧ ¬ CompleteRecords [] previous.normalized_spec next.normalized_spec := by
  have hprevious := horizon_validated (by decide : (0 : ℤ) < 2)
  have hnext := horizon_validated (by decide : (0 : ℤ) < 4)
  refine ⟨_, _, hprevious, hnext, rfl, rfl, by decide +kernel, ?_, ?_⟩
  · unfold build_model_change_records
    rw [hprevious, hnext]
    rfl
  · intro hcomplete
    have hequal := hcomplete.agree rfl "forecast_feature_config" (by decide)
    revert hequal
    decide +kernel

end ProofAlpha.Agent
