/-
Strategy artifacts and their promotion manifests: `strategy/artifacts.py`.

An artifact is a decoded JSON object. `build_strategy_artifact` normalises a
payload, adds the promotion manifest and stamps the object with the hash of its
canonical text; `validate_strategy_artifact` checks such an object, and
`paper_authority_decision` decides on it whether it may trade on paper.

`none` is a `TypeError`: `validation_status in {"passed", "current"}` raises for a
list or a dict. Hashes are `env.hexdigest` of canonical texts, instants those of
`env.fromisoformat`, and `datetime.now` is the argument `clock`.
-/
import Mathlib.Data.List.Dedup
import ProofAlpha.Lib.CanonicalJson
import ProofAlpha.Lib.Checks
import ProofAlpha.Lib.PyDict

set_option autoImplicit false

namespace ProofAlpha.Strategy

open ProofAlpha.Lib

/-- `ARTIFACT_SCHEMA_VERSION`. -/
def ARTIFACT_SCHEMA_VERSION : String := "strategy-artifact-v1"

/-- `ALLOWED_ROLLOUT_STAGES`. -/
def ALLOWED_ROLLOUT_STAGES : List String :=
  ["backtest", "paper", "shadow_live", "tiny_live", "pilot_live", "scaled_live", "paused", "retired"]

/-- `REQUIRED_ARTIFACT_FIELDS`. -/
def REQUIRED_ARTIFACT_FIELDS : List String :=
  ["artifact_id", "created_at_utc", "strategy_id", "family", "variant_id", "venue",
    "signal_timeframe", "execution_timeframe", "symbol_scope", "regime_scope", "feature_version",
    "data_snapshot_ids", "execution_model", "cost_model", "scenario_pack", "parameters",
    "risk_limits", "order_policy", "validation_report_id", "code_sha", "artifact_sha256",
    "rollout_stage", "promotion_approved", "validation_status"]

/-- What the module takes from Python: the text of a float in JSON and of a
float, a list or a dict in `str`, the SHA-256 of a text in hexadecimal, and the
instant in UTC that `datetime.fromisoformat` reads. -/
structure ArtifactEnv (K T : Type) where
  floats : JsonFloats K
  composite_text : JsonValue K → String
  hexdigest : String → String
  fromisoformat : String → Option T
  hexdigest_injective : Function.Injective hexdigest
  hexdigest_ne : ∀ text, hexdigest text ≠ ""

/-- `ArtifactValidation`. -/
structure ArtifactValidation (K : Type) where
  passed : Bool
  reasons : List String
  artifact_sha256 : Option String
  normalized_artifact : JsonObject K

/-- `ManifestValidation`. -/
structure ManifestValidation where
  passed : Bool
  reasons : List String

/-- `PaperAuthorityDecision`. -/
structure PaperAuthorityDecision where
  allowed : Bool
  reduce_only : Bool
  reasons : List String

/-- `PromotionManifest`. -/
structure PromotionManifest (K : Type) where
  artifact_id : String
  strategy_graph_hash : String
  data_snapshot_hash : String
  feature_contract_hash : String
  validation_bundle_hash : String
  gate_results : Dict String Bool
  scenario_results : Dict String Bool
  regime_results : Dict String Bool
  capacity_result : JsonObject K
  turnover_result : JsonObject K
  paper_eligibility : Bool
  risk_limits : JsonObject K
  expiry_time_utc : String
  rollback_artifact_id : Option String

/-- `sorted(set(reasons))`. -/
def sorted_set (reasons : List String) : List String := reasons.dedup.insertionSort (· ≤ ·)

@[simp] theorem mem_sorted_set {reason : String} {reasons : List String} :
    reason ∈ sorted_set reasons ↔ reason ∈ reasons := by
  rw [sorted_set, List.mem_insertionSort, List.mem_dedup]

/-! ## Sections of an artifact -/

section Sections

variable {K : Type} [Field K] [DecidableEq K]

/-- `_json_object`. -/
def json_object : JsonValue K → JsonObject K
  | .dict fields => fields
  | _ => []

/-- `isinstance(value, dict)`. -/
def is_dict : JsonValue K → Bool
  | .dict _ => true
  | _ => false

/-- `_string_list`. -/
def string_list : JsonValue K → List String
  | .list items => items.filterMap fun
      | .str text => if pyStrip text = "" then none else some text
      | _ => none
  | _ => []

/-- `_bool_dict`. -/
def bool_dict : JsonValue K → Dict String Bool
  | .dict fields => fields.foldl (fun results field => results.insert field.1 (truthy field.2)) ∅
  | _ => ∅

/-- One item of `_gate_results_from_details`. -/
def record_gate (results : Dict String Bool) : JsonValue K → Dict String Bool
  | .dict item => match JsonObject.get item "name" with
    | .str name =>
        if name = "" then results
        else results.insert name (truthy (JsonObject.get_or item "passed" (.bool false)))
    | _ => results
  | _ => results

/-- `_gate_results_from_details`. -/
def gate_results_from_details : JsonValue K → Dict String Bool
  | .list items => items.foldl record_gate ∅
  | _ => ∅

/-- `all(results.values())`. -/
def all_pass (results : Dict String Bool) : Bool := (Dict.values results).all id

/-- `_paper_eligibility`. -/
def paper_eligibility (gate_results scenario_results regime_results : Dict String Bool)
    (capacity_result turnover_result : JsonObject K) : Bool :=
  (! gate_results.entries.isEmpty && all_pass gate_results)
    && (scenario_results.entries.isEmpty || all_pass scenario_results)
    && (regime_results.entries.isEmpty || all_pass regime_results)
    && is_true (JsonObject.get_or capacity_result "passed" (.bool true))
    && is_true (JsonObject.get_or turnover_result "passed" (.bool true))

/-- `validation_status in {"passed", "current"}`. -/
def status_passed : JsonValue K → Option Bool
  | .list _ => none
  | .dict _ => none
  | value => some (is_text value "passed" || is_text value "current")

end Sections

/-! ## Hashes and instants -/

section Environment

variable {K T : Type} [Field K] [DecidableEq K] (env : ArtifactEnv K T)

/-- `str(value)`. -/
def str (value : JsonValue K) : String := py_str env.composite_text value

/-- `_artifact_hash`. -/
def artifact_hash (payload : JsonObject K) : String :=
  env.hexdigest (canonical_json env.floats (.dict payload))

/-- `_stable_hash`. -/
def stable_hash (payload : JsonValue K) : String :=
  env.hexdigest (canonical_json env.floats payload)

/-- `_validation_bundle_hash`. -/
def validation_bundle_hash (artifact : JsonObject K) : String :=
  stable_hash env <| .dict
    [("validation_report_id", JsonObject.get_or artifact "validation_report_id" (.str "")),
      ("validation_status", JsonObject.get_or artifact "validation_status" (.str "")),
      ("validation_gate_details", JsonObject.get_or artifact "validation_gate_details" (.list []))]

/-- `value.replace("Z", "+00:00")`. -/
def replace_z (value : String) : String :=
  String.ofList (value.toList.flatMap fun c => if c = 'Z' then "+00:00".toList else [c])

/-- `_parse_utc`. -/
def parse_utc (value : String) : Option T :=
  if value = "" then none else env.fromisoformat (replace_z value)

/-! ## Promotion manifests -/

/-- The `rollback_artifact_id` of a payload, none where it is missing or empty. -/
def rollback_of (payload : JsonObject K) : Option String :=
  match JsonObject.get payload "rollback_artifact_id" with
  | .null => none
  | value => if is_text value "" then none else some (str env value)

/-- `PromotionManifest.from_dict`. -/
def from_dict : JsonValue K → Except String (PromotionManifest K)
  | .dict payload => .ok
      { artifact_id := str env (JsonObject.get_or payload "artifact_id" (.str ""))
        strategy_graph_hash := str env (JsonObject.get_or payload "strategy_graph_hash" (.str ""))
        data_snapshot_hash := str env (JsonObject.get_or payload "data_snapshot_hash" (.str ""))
        feature_contract_hash :=
          str env (JsonObject.get_or payload "feature_contract_hash" (.str ""))
        validation_bundle_hash :=
          str env (JsonObject.get_or payload "validation_bundle_hash" (.str ""))
        gate_results := bool_dict (JsonObject.get payload "gate_results")
        scenario_results := bool_dict (JsonObject.get payload "scenario_results")
        regime_results := bool_dict (JsonObject.get payload "regime_results")
        capacity_result := json_object (JsonObject.get payload "capacity_result")
        turnover_result := json_object (JsonObject.get payload "turnover_result")
        paper_eligibility := truthy (JsonObject.get_or payload "paper_eligibility" (.bool false))
        risk_limits := json_object (JsonObject.get payload "risk_limits")
        expiry_time_utc := str env (JsonObject.get_or payload "expiry_time_utc" (.str ""))
        rollback_artifact_id := rollback_of env payload }
  | _ => .error "not_promotion_manifest"

/-- The gate results of an artifact: from its gate details, else its own section,
else its validation status. -/
def gate_results_of (artifact : JsonObject K) : Option (Dict String Bool) :=
  let from_details :=
    gate_results_from_details (JsonObject.get_or artifact "validation_gate_details" (.list []))
  let from_section := bool_dict (JsonObject.get artifact "gate_results")
  if ! from_details.entries.isEmpty then some from_details
  else if ! from_section.entries.isEmpty then some from_section
  else (status_passed (JsonObject.get artifact "validation_status")).map fun passed =>
    AList.insert "validation_status" passed ∅

/-- `build_promotion_manifest`. -/
def build_promotion_manifest (artifact : JsonObject K) (expiry_time_utc : Option String) :
    Option (PromotionManifest K) :=
  (gate_results_of artifact).map fun gate_results =>
    let scenario_results := bool_dict (JsonObject.get artifact "scenario_results")
    let regime_results := bool_dict (JsonObject.get artifact "regime_results")
    let capacity_result := json_object (JsonObject.get artifact "capacity_result")
    let turnover_result := json_object (JsonObject.get artifact "turnover_result")
    let feature_contract := JsonObject.get artifact "feature_contract_hash"
    let expiry := (expiry_time_utc.filter (· ≠ "")).getD
      (text_or env.composite_text (JsonObject.get artifact "expiry_time_utc")
        "2099-12-31T00:00:00Z")
    { artifact_id := str env (JsonObject.get_or artifact "artifact_id" (.str ""))
      strategy_graph_hash := stable_hash env <| .dict
        [("strategy_id", JsonObject.get_or artifact "strategy_id" (.str "")),
          ("family", JsonObject.get_or artifact "family" (.str "")),
          ("variant_id", JsonObject.get_or artifact "variant_id" (.str "")),
          ("parameters", JsonObject.get_or artifact "parameters" (.dict []))]
      data_snapshot_hash :=
        stable_hash env (JsonObject.get_or artifact "data_snapshot_ids" (.list []))
      feature_contract_hash :=
        if truthy feature_contract then str env feature_contract
        else stable_hash env (JsonObject.get_or artifact "feature_version" (.str ""))
      validation_bundle_hash := validation_bundle_hash env artifact
      gate_results := gate_results
      scenario_results := scenario_results
      regime_results := regime_results
      capacity_result := capacity_result
      turnover_result := turnover_result
      paper_eligibility := paper_eligibility gate_results scenario_results regime_results
        capacity_result turnover_result
      risk_limits := json_object (JsonObject.get artifact "risk_limits")
      expiry_time_utc := expiry
      rollback_artifact_id := rollback_of env artifact }

/-- `left != right` of dicts of booleans. -/
def results_differ (left right : Dict String Bool) : Bool :=
  decide (Dict.sorted_items left ≠ Dict.sorted_items right)

/-- `{key: value for key, value in payload.items() if key != "artifact_sha256"}`. -/
def other_fields (payload : JsonObject K) : JsonObject K :=
  payload.filter fun field => field.1 != "artifact_sha256"

/-- `str(payload.get("artifact_sha256", ""))`. -/
def hash_text (payload : JsonObject K) : String :=
  str env (JsonObject.get_or payload "artifact_sha256" (.str ""))

/-! ## Building an artifact -/

/-- `PromotionManifest.to_dict`. -/
def manifest_to_dict (manifest : PromotionManifest K) : JsonObject K :=
  let results (section_results : Dict String Bool) : JsonValue K :=
    .dict (section_results.entries.map fun entry => (entry.1, .bool entry.2))
  [("artifact_id", .str manifest.artifact_id),
    ("strategy_graph_hash", .str manifest.strategy_graph_hash),
    ("data_snapshot_hash", .str manifest.data_snapshot_hash),
    ("feature_contract_hash", .str manifest.feature_contract_hash),
    ("validation_bundle_hash", .str manifest.validation_bundle_hash),
    ("gate_results", results manifest.gate_results),
    ("scenario_results", results manifest.scenario_results),
    ("regime_results", results manifest.regime_results),
    ("capacity_result", .dict manifest.capacity_result),
    ("turnover_result", .dict manifest.turnover_result),
    ("paper_eligibility", .bool manifest.paper_eligibility),
    ("risk_limits", .dict manifest.risk_limits),
    ("expiry_time_utc", .str manifest.expiry_time_utc),
    ("rollback_artifact_id", (manifest.rollback_artifact_id.map JsonValue.str).getD .null)]

/-- `payload[key] = value`. -/
def set_field (payload : JsonObject K) (key : String) (value : JsonValue K) : JsonObject K :=
  if (List.lookup key payload).isSome then
    payload.map fun field => if field.1 = key then (key, value) else field
  else payload ++ [(key, value)]

/-- The fields that are copied where the payload has them. -/
def OPTIONAL_ARTIFACT_FIELDS : List String :=
  ["feature_contract_hash", "scenario_results", "regime_results", "capacity_result",
    "turnover_result", "promotion_manifest", "rollback_manifest"]

/-- `_normalize_artifact_payload`. -/
def normalize_artifact_payload (payload : JsonObject K) : JsonObject K :=
  let text (field_name default : String) : String × JsonValue K :=
    (field_name, JsonObject.get_or payload field_name (.str default))
  let texts (field_name : String) : String × JsonValue K :=
    (field_name, .list (((string_list (JsonObject.get payload field_name)).insertionSort
      (· ≤ ·)).map JsonValue.str))
  let object (field_name : String) : String × JsonValue K :=
    (field_name, .dict (json_object (JsonObject.get payload field_name)))
  let given (field_name : String) (value : JsonValue K) : JsonObject K :=
    if (List.lookup field_name payload).isSome then [(field_name, value)] else []
  [("artifact_schema_version", .str ARTIFACT_SCHEMA_VERSION), text "artifact_id" "",
      text "created_at_utc" "", text "strategy_id" "", text "family" "", text "variant_id" "",
      text "venue" "", text "signal_timeframe" "", text "execution_timeframe" "",
      texts "symbol_scope", texts "regime_scope", text "feature_version" "",
      texts "data_snapshot_ids", text "execution_model" "", text "cost_model" "",
      text "scenario_pack" "", object "parameters", object "risk_limits", object "order_policy",
      text "validation_report_id" "", text "code_sha" "", text "rollout_stage" "backtest",
      ("promotion_approved",
        .bool (truthy (JsonObject.get_or payload "promotion_approved" (.bool false)))),
      text "validation_status" "", text "expiry_time_utc" "2099-12-31T00:00:00Z"]
    ++ given "cost_model_config" (.dict (json_object (JsonObject.get payload "cost_model_config")))
    ++ given "validation_gate_details" (match JsonObject.get payload "validation_gate_details" with
      | .list items => .list items
      | _ => .list [])
    ++ OPTIONAL_ARTIFACT_FIELDS.flatMap fun field_name =>
      given field_name (JsonObject.get payload field_name)

/-- `_default_artifact_id`. -/
def default_artifact_id (artifact : JsonObject K) : String :=
  "artifact-" ++ String.ofList ((artifact_hash env
    [("strategy_id", JsonObject.get_or artifact "strategy_id" (.str "")),
      ("variant_id", JsonObject.get_or artifact "variant_id" (.str "")),
      ("validation_report_id", JsonObject.get_or artifact "validation_report_id" (.str "")),
      ("code_sha", JsonObject.get_or artifact "code_sha" (.str ""))]).toList.take 16)

/-- An artifact with the hash of its other fields. -/
def stamp_artifact (artifact : JsonObject K) : JsonObject K :=
  set_field artifact "artifact_sha256" (.str (artifact_hash env (other_fields artifact)))

/-- `build_strategy_artifact`. -/
def build_strategy_artifact (payload : JsonObject K) : Option (JsonObject K) :=
  let normalized := normalize_artifact_payload payload
  let artifact :=
    if truthy (JsonObject.get normalized "artifact_id") then normalized
    else set_field normalized "artifact_id" (.str (default_artifact_id env normalized))
  let with_manifest :=
    if is_true (JsonObject.get artifact "promotion_approved")
        && (List.lookup "promotion_manifest" artifact).isNone then
      (build_promotion_manifest env artifact none).map fun manifest =>
        set_field artifact "promotion_manifest" (.dict (manifest_to_dict manifest))
    else some artifact
  with_manifest.map (stamp_artifact env)

/-! ## Validation -/

variable [LinearOrder T]

/-- `_is_expired`, at the time `clock` where no other is given. -/
def is_expired (clock : T) (expiry_time_utc : String) (now_utc : Option String) : Bool :=
  match parse_utc env expiry_time_utc with
  | none => true
  | some expiry => decide (expiry < (now_utc.bind (parse_utc env)).getD clock)

/-- What `validate_promotion_manifest` compares of a manifest. -/
def manifest_reasons (clock : T) (artifact : JsonObject K)
    (manifest expected : PromotionManifest K) (now_utc : Option String) : List String :=
  reason_if (! is_text (JsonObject.get artifact "artifact_id") manifest.artifact_id)
      "manifest_artifact_id_mismatch"
    ++ reason_if (manifest.strategy_graph_hash != expected.strategy_graph_hash)
      "manifest_strategy_graph_hash_mismatch"
    ++ reason_if (manifest.data_snapshot_hash != expected.data_snapshot_hash)
      "manifest_data_snapshot_hash_mismatch"
    ++ reason_if (manifest.feature_contract_hash != expected.feature_contract_hash)
      "manifest_feature_contract_hash_mismatch"
    ++ reason_if (manifest.validation_bundle_hash != expected.validation_bundle_hash)
      "manifest_validation_bundle_hash_mismatch"
    ++ reason_if (results_differ manifest.gate_results expected.gate_results)
      "manifest_gate_results_mismatch"
    ++ reason_if (! py_eq (.dict manifest.risk_limits) (.dict expected.risk_limits))
      "manifest_risk_limits_mismatch"
    ++ reason_if (! manifest.paper_eligibility) "manifest_paper_ineligible"
    ++ reason_if (is_expired env clock manifest.expiry_time_utc now_utc) "artifact_expired"

/-- `validate_promotion_manifest`. -/
def validate_promotion_manifest (clock : T) (artifact : JsonObject K)
    (manifest_payload : JsonValue K) (now_utc : Option String) : Option ManifestValidation :=
  match manifest_payload with
  | .dict _ => match from_dict env manifest_payload with
    | .error reason => some { passed := false, reasons := [reason] }
    | .ok manifest =>
        (build_promotion_manifest env artifact (some manifest.expiry_time_utc)).map
          fun expected =>
            let reasons := manifest_reasons env clock artifact manifest expected now_utc
            { passed := reasons.isEmpty, reasons := sorted_set reasons }
  | _ => some { passed := false, reasons := ["missing_promotion_manifest"] }

/-- The reasons that `validate_strategy_artifact` has before it looks at the hash. -/
def field_reasons (clock : T) (payload : JsonObject K) : Option (List String) :=
  (status_passed (JsonObject.get payload "validation_status")).bind fun status_ok =>
    let missing := REQUIRED_ARTIFACT_FIELDS.filter fun field_name =>
      (List.lookup field_name payload).isNone
    let approved := is_true (JsonObject.get payload "promotion_approved")
    let manifest_validation :=
      if approved then
        validate_promotion_manifest env clock payload (JsonObject.get payload "promotion_manifest")
          none
      else some { passed := true, reasons := [] }
    manifest_validation.map fun manifest_validation =>
      missing.map ("missing:" ++ ·)
        ++ reason_if (! is_text (JsonObject.get payload "venue") "binance_usdm")
          "venue_not_allowed"
        ++ reason_if (! is_text (JsonObject.get payload "signal_timeframe") "1h")
          "signal_timeframe_not_allowed"
        ++ reason_if (! is_text (JsonObject.get payload "execution_timeframe") "15m")
          "execution_timeframe_not_allowed"
        ++ reason_if (! is_text (JsonObject.get payload "execution_model") "binance_usdm_v3")
          "execution_model_not_allowed"
        ++ reason_if (! ALLOWED_ROLLOUT_STAGES.any (is_text (JsonObject.get payload "rollout_stage")))
          "rollout_stage_not_allowed"
        ++ reason_if (! approved) "artifact_not_approved"
        ++ reason_if (! status_ok) "validation_not_current"
        ++ manifest_validation.reasons
        ++ ["symbol_scope", "regime_scope", "data_snapshot_ids"].flatMap (fun field_name =>
          reason_if (match JsonObject.get payload field_name with
            | .list items => items.isEmpty
            | _ => true) ("invalid:" ++ field_name))
        ++ ["parameters", "risk_limits", "order_policy"].flatMap (fun field_name =>
          reason_if (! is_dict (JsonObject.get payload field_name)) ("invalid:" ++ field_name))
        ++ reason_if ((List.lookup "cost_model_config" payload).isSome
            && ! is_dict (JsonObject.get payload "cost_model_config"))
          "invalid:cost_model_config"

/-- `validate_strategy_artifact`. -/
def validate_strategy_artifact (clock : T) (payload : JsonObject K) :
    Option (ArtifactValidation K) :=
  if ! is_text (JsonObject.get payload "artifact_schema_version") ARTIFACT_SCHEMA_VERSION then
    some
      { passed := false
        reasons := ["not_strategy_artifact"]
        artifact_sha256 := none
        normalized_artifact := [] }
  else
    (field_reasons env clock payload).map fun field_reasons =>
      let expected_hash := artifact_hash env (other_fields payload)
      let artifact_hash := hash_text env payload
      let reasons := field_reasons
        ++ reason_if (artifact_hash != "" && artifact_hash != expected_hash)
          "artifact_checksum_mismatch"
      { passed := reasons.isEmpty
        reasons := sorted_set reasons
        artifact_sha256 := some expected_hash
        normalized_artifact := by_key (other_fields payload) }

/-- `paper_authority_decision`. The validation reads the clock first, the check of
the expiry reads it again. -/
def paper_authority_decision (clock later : T) (artifact : JsonObject K) (now_utc : Option String)
    (reduce_only : Bool) : Option (Except String PaperAuthorityDecision) :=
  (validate_strategy_artifact env clock artifact).map fun validation =>
    if ! validation.passed then
      let expired_only := ! validation.reasons.isEmpty
        && validation.reasons.all (· == "artifact_expired")
      if expired_only && reduce_only then
        .ok { allowed := true, reduce_only := true, reasons := ["artifact_expired"] }
      else
        .ok { allowed := false, reduce_only := expired_only, reasons := validation.reasons }
    else do
      let manifest ← from_dict env (JsonObject.get artifact "promotion_manifest")
      if is_expired env later manifest.expiry_time_utc now_utc then
        if reduce_only then
          pure { allowed := true, reduce_only := true, reasons := ["artifact_expired"] }
        else pure { allowed := false, reduce_only := true, reasons := ["artifact_expired"] }
      else pure { allowed := true, reduce_only := false, reasons := [] }

end Environment

/-! ## An artifact -/

/-- Hashes that keep the whole text, and one instant that is read. -/
def plain_env : ArtifactEnv ℚ ℕ where
  floats := JsonFloats.rat
  composite_text := fun _ => "[]"
  hexdigest := fun text => "#" ++ text
  fromisoformat := fun text =>
    if text = "2099-01-01T00:00:00+00:00" then some 4070908800 else none
  hexdigest_injective := by
    intro text text' h
    have hchars := congrArg String.toList h
    rw [String.toList_append, String.toList_append] at hchars
    exact String.toList_inj.mp (List.append_cancel_left hchars)
  hexdigest_ne := by
    intro text h
    have hchars := congrArg String.toList h
    rw [String.toList_append] at hchars
    cases hchars

/-- The payload of an approved artifact with one gate result. -/
def plain_payload (gate_passed : Bool) : JsonObject ℚ :=
  [("artifact_id", .str "artifact-a"), ("strategy_id", .str "strategy-a"),
    ("family", .str "momentum"), ("variant_id", .str "variant-a"), ("venue", .str "binance_usdm"),
    ("signal_timeframe", .str "1h"), ("execution_timeframe", .str "15m"),
    ("symbol_scope", .list [.str "BTCUSDT"]), ("regime_scope", .list [.str "trend"]),
    ("feature_version", .str "feature-v1"), ("data_snapshot_ids", .list [.str "snapshot-v1"]),
    ("execution_model", .str "binance_usdm_v3"), ("rollout_stage", .str "paper"),
    ("promotion_approved", .bool true), ("validation_status", .str "passed"),
    ("validation_gate_details",
      .list [.dict [("name", .str "final_holdout_calmar"), ("passed", .bool gate_passed)]]),
    ("expiry_time_utc", .str "2099-01-01T00:00:00Z")]

/-- The artifact that is built from it. -/
def plain_artifact : JsonObject ℚ :=
  (build_strategy_artifact plain_env (plain_payload true)).getD []

/-- 2026-05-07T00:00:00Z. -/
def plain_clock : ℕ := 1778112000

end ProofAlpha.Strategy
