/-
The bounded strategy language (`strategy/dsl.py`, with the layer names of
`strategy/catalog.py`).

A specification is a decoded JSON value. Each optional or nested section has a
normaliser of its own; `validate_bounded_strategy_spec` collects the reasons against
a specification and, where there are none, puts the normal sections together and
hashes them.

Nothing here computes with floats: they are read from texts and integers, compared
and written back. `DslRuntime` holds what Python does there.
-/
import ProofAlpha.App.StrategyGraph
import ProofAlpha.Lib.CanonicalJson
import ProofAlpha.Lib.Checks

set_option autoImplicit false

namespace ProofAlpha.Strategy

open ProofAlpha.Lib ProofAlpha.App

/-! ## Names -/

/-- `BACKBONES`. -/
def BACKBONES : List LayerSpec :=
  [⟨"mom_squeeze", .backbone⟩, ⟨"kama_hma", .backbone⟩, ⟨"keltner_fade", .backbone⟩]

/-- `DIRECTIONAL_FILTERS`. -/
def DIRECTIONAL_FILTERS : List LayerSpec :=
  [⟨"ema", .directional_filter⟩, ⟨"kama", .directional_filter⟩, ⟨"hull", .directional_filter⟩]

/-- `KNOWN_GOOD_FLAT_FILTERS`. -/
def KNOWN_GOOD_FLAT_FILTERS : List LayerSpec :=
  ["flat9", "flat11", "flat12", "flat13", "flat14"].map fun name =>
    ⟨name, .known_good_flat_filter⟩

/-- `CUSTOM_FLAT_FILTERS`. -/
def CUSTOM_FLAT_FILTERS : List LayerSpec :=
  ["adx_weak", "choppiness", "volume_dead"].map fun name => ⟨name, .custom_flat_filter⟩

/-- `EXIT_LAYERS`. -/
def EXIT_LAYERS : List LayerSpec := [⟨"time_stop", .exit⟩]

/-- `approved_layer_names`. -/
def approved_layer_names : List String :=
  [BACKBONES, DIRECTIONAL_FILTERS, KNOWN_GOOD_FLAT_FILTERS, CUSTOM_FLAT_FILTERS,
    EXIT_LAYERS].flatMap fun layers => layers.map LayerSpec.name

def ALLOWED_FAMILIES : List String :=
  ["momentum", "breakout", "carry", "mean_reversion", "regime_overlay"]

def ALLOWED_FEATURE_CONTRACTS : List String :=
  ["ohlcv", "funding", "forecast_feature", "open_interest", "liquidation", "mark_price",
    "index_price", "premium_index", "spread", "depth", "regime_labels"]

def ALLOWED_RISK_HOOKS : List String :=
  ["max_drawdown", "funding_shock", "liquidation_guard", "venue_profile_guard", "regime_scope",
    "stale_data_pause"]

def ALLOWED_EXECUTION_POLICY_FIELDS : List String :=
  ["venue", "signal_tf", "execution_tf", "order_style", "post_only", "reduce_only"]

def ALLOWED_SIGNAL_TIMEFRAMES : List String := ["1m", "15m", "1h"]

def ALLOWED_EXECUTION_TIMEFRAMES : List String := ["1m", "15m"]

def ALLOWED_FORECAST_FEATURE_CONFIG_FIELDS : List String :=
  ["provider", "model_id", "feature_fields", "horizon", "context_length", "config_checksum"]

def ALLOWED_FORECAST_FEATURE_FIELDS : List String :=
  ["timesfm_q50_return", "timesfm_direction", "timesfm_interval_width",
    "timesfm_uncertainty_ratio", "timesfm_skew", "timesfm_confidence_bucket"]

def PROHIBITED_FORECAST_EXECUTION_FIELDS : List String :=
  ["raw_forecast_order", "forecast_order", "forecast_trade_action", "emit_buy_sell_size"]

def PROHIBITED_FREE_FORM_FIELDS : List String :=
  ["python_code", "source_code", "script", "code", "raw_order_logic", "raw_signal_logic"]

/-- `allowed_keys`. -/
def ALLOWED_KEYS : List String :=
  ["family", "variant_id", "feature_contracts", "parameter_schema", "risk_hooks",
    "execution_policy", "structure", "forecast_feature_config"]

/-! ## Python's part -/

/-- Floats, their conversions, and the hash of a normalised specification. -/
structure DslRuntime (F : Type) extends PyTexts F where
  /-- `float(n)` of an integer, which may overflow. -/
  float_of_int : ℤ → Except String F
  /-- `x > y`. -/
  gt : F → F → Bool
  /-- `x <= 0`. -/
  not_positive : F → Bool
  /-- `int(x)` of a float: `none` for NaN (a `ValueError`), an error for an infinity. -/
  int_of_float : F → Except String (Option ℤ)
  /-- The SHA-256 digest of `json.dumps(spec, sort_keys=True)`. -/
  identity_digest : JsonObject F → String

section Model

variable {F : Type} (runtime : DslRuntime F)

/-- `_to_float`. -/
def to_float : JsonValue F → Except String (Option F)
  | .bool b => (runtime.float_of_int b.toNat).map some
  | .int n => (runtime.float_of_int n).map some
  | .float x => .ok (some x)
  | .str text => .ok (runtime.parse_float text)
  | _ => .ok none

/-- `_to_int`. -/
def to_int : JsonValue F → Except String (Option ℤ)
  -- unlike `_to_float`, a bool is refused before it is converted
  | .bool _ => .ok none
  | .int n => .ok (some n)
  | .float x => runtime.int_of_float x
  | .str text => .ok (int_of_text text)
  | _ => .ok none

omit runtime in
/-- `value in names`, of a set of texts: a list or an object cannot be hashed. -/
def is_member (names : List String) : JsonValue F → Except String Bool
  | .str text => .ok (decide (text ∈ names))
  | .list _ => .error "TypeError: unhashable type"
  | .dict _ => .error "TypeError: unhashable type"
  | _ => .ok false

/-! ## The sections -/

omit runtime in
/-- The text that an item of a name list holds, unless it is blank. -/
def named_item : JsonValue F → Option String
  | .str text => if pyStrip text = "" then none else some text
  | _ => none

omit runtime in
/-- `_normalize_string_list`. -/
def normalize_string_list : JsonValue F → List String
  | .list items => (items.filterMap named_item).dedup.insertionSort (· ≤ ·)
  | _ => []

omit runtime in
/-- A list of texts as a JSON value. -/
def text_list (names : List String) : JsonValue F := .list (names.map .str)

omit runtime in
/-- The entry of one parameter. -/
def parameter_bounds (minimum maximum step : F) : JsonValue F :=
  .dict [("minimum", .float minimum), ("maximum", .float maximum), ("step", .float step)]

/-- The bounds of one parameter, if they are bounds. -/
def read_bounds : JsonValue F → Except String (Option (JsonValue F))
  | .dict bounds => do
      let minimum ← to_float runtime (JsonObject.get bounds "minimum")
      let maximum ← to_float runtime (JsonObject.get bounds "maximum")
      let step ← to_float runtime (JsonObject.get bounds "step")
      match minimum, maximum, step with
      | some minimum, some maximum, some step =>
          -- a comparison with NaN fails, so NaN bounds are kept
          if runtime.gt minimum maximum || runtime.not_positive step then .ok none
          else .ok (some (parameter_bounds minimum maximum step))
      | _, _, _ => .ok none
  | _ => .ok none

/-- One pass of the loop over the parameters. -/
def parameter_step (normalized : Dict String (JsonValue F)) (item : String × JsonValue F) :
    Except String (Dict String (JsonValue F)) := do
  match ← read_bounds runtime item.2 with
  | some bounds => .ok (normalized.insert item.1 bounds)
  | none => .ok normalized

/-- `_normalize_parameter_schema`. -/
def normalize_parameter_schema : JsonValue F → Except String (JsonObject F)
  | .dict items => (items.foldlM (parameter_step runtime) ∅).map Dict.sorted_items
  | _ => .ok []

omit runtime in
/-- `isinstance(value, (str, bool, int, float))`. -/
def is_scalar : JsonValue F → Bool
  | .str _ => true
  | .bool _ => true
  | .int _ => true
  | .float _ => true
  | _ => false

omit runtime in
/-- One pass of the loop over the fields of an execution policy. -/
def execution_policy_step (s : Dict String (JsonValue F) × List String)
    (item : String × JsonValue F) : Dict String (JsonValue F) × List String :=
  if item.1 ∈ PROHIBITED_FORECAST_EXECUTION_FIELDS then
    (s.1, s.2 ++ ["execution_policy_field_not_allowed:" ++ item.1])
  else if item.1 ∉ ALLOWED_EXECUTION_POLICY_FIELDS then
    (s.1, s.2 ++ ["execution_policy_field_not_allowed:" ++ item.1])
  else if is_scalar item.2 then (s.1.insert item.1 item.2, s.2)
  -- any other value is dropped without a reason
  else s

omit runtime in
/-- `_normalize_execution_policy`. -/
def normalize_execution_policy : JsonValue F → JsonObject F × List String
  | .dict fields =>
      let s := fields.foldl execution_policy_step (∅, [])
      (s.1.sorted_items, s.2)
  | _ => ([], [])

omit runtime in
/-- The lists of a structure. -/
def STRUCTURE_LISTS : List String :=
  ["directional_layers", "known_good_filters", "custom_filters", "exit_layers"]

/-- `_normalize_structure`. -/
def normalize_structure : JsonValue F → JsonObject F
  | .dict raw =>
      let backbone := pyStrip (py_str runtime.composite_text
        (JsonObject.get_or raw "backbone" (.str "")))
      -- one name that is not approved, and the section is as if it were not there
      if backbone ∉ approved_layer_names then []
      else if STRUCTURE_LISTS.any fun field_name =>
          (normalize_string_list (JsonObject.get raw field_name)).any fun name =>
            name ∉ approved_layer_names then []
      else
        by_key (("backbone", .str backbone) :: STRUCTURE_LISTS.map fun field_name =>
          (field_name, text_list (normalize_string_list (JsonObject.get raw field_name))))
  | _ => []

omit runtime in
/-- `isinstance(value, str) and value`. -/
def nonempty_text : JsonValue F → Option String
  | .str text => if text = "" then none else some text
  | _ => none

omit runtime in
/-- `number is not None and number > 0`. -/
def positive_int (number : Option ℤ) : Option ℤ := number.filter (0 < ·)

omit runtime in
/-- A normalised forecast configuration. -/
def forecast_feature_entry (config_checksum : String) (context_length : ℤ)
    (feature_fields : List String) (horizon : ℤ) (model_id : String) : JsonObject F :=
  [("config_checksum", .str config_checksum), ("context_length", .int context_length),
    ("feature_fields", text_list feature_fields), ("horizon", .int horizon),
    ("model_id", .str model_id), ("provider", .str "timesfm")]

/-- `_normalize_forecast_feature_config`. -/
def normalize_forecast_feature_config :
    JsonValue F → Except String (JsonObject F × List String)
  | .null => .ok ([], [])
  | .dict raw => do
      let horizon ← to_int runtime (JsonObject.get raw "horizon")
      let context_length ← to_int runtime (JsonObject.get raw "context_length")
      let model_id := nonempty_text (JsonObject.get raw "model_id")
      let config_checksum := nonempty_text (JsonObject.get raw "config_checksum")
      let feature_fields := normalize_string_list (JsonObject.get raw "feature_fields")
      let issues :=
        ((raw.filter fun item => item.1 ∉ ALLOWED_FORECAST_FEATURE_CONFIG_FIELDS).map
            fun item => "forecast_feature_config_field_not_allowed:" ++ item.1)
          ++ reason_if (! is_text (JsonObject.get raw "provider") "timesfm")
            "forecast_feature_provider_not_allowed"
          ++ reason_if model_id.isNone "missing_forecast_feature_model_id"
          ++ reason_if (positive_int horizon).isNone "invalid_forecast_feature_horizon"
          ++ reason_if (positive_int context_length).isNone
            "invalid_forecast_feature_context_length"
          ++ reason_if config_checksum.isNone "missing_forecast_feature_config_checksum"
          ++ reason_if feature_fields.isEmpty "missing_forecast_feature_fields"
          ++ reason_if (feature_fields.any fun name => name ∉ ALLOWED_FORECAST_FEATURE_FIELDS)
            "forecast_feature_field_not_allowed"
      -- with an issue nothing of the section is kept
      if issues ≠ [] then .ok ([], issues)
      else
        .ok (forecast_feature_entry (config_checksum.getD "") (context_length.getD 0)
          feature_fields (horizon.getD 0) (model_id.getD ""), [])
  | _ => .ok ([], ["invalid_forecast_feature_config"])

/-! ## The specification -/

/-- `BoundedStrategyValidation`. -/
structure BoundedStrategyValidation (F : Type) where
  passed : Bool
  reasons : List String
  identity_hash : Option String
  normalized_spec : JsonObject F

/-- The normal sections of a specification. -/
structure NormalSections (F : Type) where
  family : String
  variant_id : String
  feature_contracts : List String
  parameter_schema : JsonObject F
  risk_hooks : List String
  execution_policy : JsonObject F
  struct : JsonObject F
  forecast_feature_config : JsonObject F

omit runtime in
/-- `normalized_spec`. -/
def NormalSections.spec (sections : NormalSections F) : JsonObject F :=
  [("family", .str sections.family), ("variant_id", .str sections.variant_id),
    ("feature_contracts", text_list sections.feature_contracts),
    ("parameter_schema", .dict sections.parameter_schema),
    ("risk_hooks", text_list sections.risk_hooks),
    ("execution_policy", .dict sections.execution_policy),
    ("structure", .dict sections.struct),
    ("forecast_feature_config", .dict sections.forecast_feature_config)]

omit runtime in
/-- The reasons against an execution policy. -/
def execution_policy_reasons (policy : JsonObject F) : Except String (List String) := do
  if policy.isEmpty then .ok ["missing_execution_policy"]
  else
    let signal_tf ← is_member ALLOWED_SIGNAL_TIMEFRAMES (JsonObject.get policy "signal_tf")
    let execution_tf ← is_member ALLOWED_EXECUTION_TIMEFRAMES (JsonObject.get policy "execution_tf")
    .ok (reason_if (! is_text (JsonObject.get policy "venue") "binance") "venue_not_allowed"
      ++ reason_if (! signal_tf) "signal_tf_not_allowed"
      ++ reason_if (! execution_tf) "execution_tf_not_allowed")

omit runtime in
/-- `value is not None`. -/
def is_present : JsonValue F → Bool
  | .null => false
  | _ => true

omit runtime in
/-- The reasons against a structure. -/
def structure_reasons (raw : JsonValue F) (normalized : JsonObject F) : List String :=
  -- `raw_structure is not None`: an empty structure counts as one
  if is_present raw && normalized.isEmpty then ["invalid_structure"]
  else reason_if (! normalized.isEmpty
    && ! BACKBONES.any fun layer => is_text (JsonObject.get normalized "backbone") layer.name)
      "backbone_not_allowed"

/-- `validate_bounded_strategy_spec`. -/
def validate_bounded_strategy_spec :
    JsonValue F → Except String (BoundedStrategyValidation F)
  | .dict spec => do
      let family := JsonObject.get spec "family"
      let family_allowed ← is_member ALLOWED_FAMILIES family
      let variant_id := JsonObject.get spec "variant_id"
      let features := normalize_string_list (JsonObject.get spec "feature_contracts")
      let schema ← normalize_parameter_schema runtime (JsonObject.get spec "parameter_schema")
      let hooks := normalize_string_list (JsonObject.get spec "risk_hooks")
      let policy := normalize_execution_policy (JsonObject.get spec "execution_policy")
      let policy_reasons ← execution_policy_reasons policy.1
      let raw_structure := JsonObject.get spec "structure"
      let struct := normalize_structure runtime raw_structure
      let raw_forecast := JsonObject.get spec "forecast_feature_config"
      let forecast ← normalize_forecast_feature_config runtime raw_forecast
      let reasons :=
        reason_if (spec.any fun item => item.1 ∈ PROHIBITED_FREE_FORM_FIELDS)
            "free_form_code_not_allowed"
          ++ ((spec.filter fun item =>
              item.1 ∉ ALLOWED_KEYS ∧ item.1 ∉ PROHIBITED_FREE_FORM_FIELDS).map
            fun item => "unknown_field:" ++ item.1)
          ++ reason_if (! family_allowed) "family_not_allowed"
          ++ reason_if (named_item variant_id).isNone "missing_variant_id"
          ++ reason_if features.isEmpty "missing_feature_contracts"
          ++ reason_if (features.any fun name => name ∉ ALLOWED_FEATURE_CONTRACTS)
            "feature_contract_not_allowed"
          ++ reason_if schema.isEmpty "missing_parameter_schema"
          ++ reason_if (hooks.any fun name => name ∉ ALLOWED_RISK_HOOKS) "risk_hook_not_allowed"
          ++ policy.2
          ++ policy_reasons
          ++ structure_reasons raw_structure struct
          ++ forecast.2
          ++ reason_if (decide ("forecast_feature" ∈ features) && forecast.1.isEmpty)
            "missing_forecast_feature_config"
          ++ reason_if (is_present raw_forecast && decide ("forecast_feature" ∉ features))
            "forecast_feature_config_without_contract"
      -- a rejected specification has neither a hash nor a normal form
      if reasons ≠ [] then .ok ⟨false, reasons, none, []⟩
      else
        let normalized : NormalSections F :=
          ⟨py_str runtime.composite_text family, py_str runtime.composite_text variant_id, features,
            schema, hooks, policy.1, struct, forecast.1⟩
        .ok ⟨true, [], some (runtime.identity_digest normalized.spec), normalized.spec⟩
  | _ => .ok ⟨false, ["spec_not_object"], none, []⟩

end Model

end ProofAlpha.Strategy
