/-
From a payload to a bounded strategy specification:
`build_bounded_strategy_spec_from_payload` of `strategy/dsl.py`, with the parameter ranges
of `strategy/catalog.py`.

The specification names the backbone, the contracts that the snapshot can serve, and the
ranges of the parameters: those of the payload's grids, or else those that the catalog has
for the layers. A forecast configuration is taken over as it stands.
-/
import ProofAlpha.Config.Models
import ProofAlpha.Strategy.BoundedDsl

set_option autoImplicit false

namespace ProofAlpha.Strategy

open ProofAlpha.Lib
open ProofAlpha.Config (ParameterRange)

/-! ## The catalog -/

/-- `BACKBONE_TO_FAMILY`. -/
def BACKBONE_TO_FAMILY : List (String × String) :=
  [("mom_squeeze", "momentum"), ("kama_hma", "momentum"), ("keltner_fade", "mean_reversion")]

/-- The `parameters` of the layers in the catalog. A layer that is not here has none. -/
def LAYER_PARAMETERS : List (String × List (String × ParameterRange ℚ)) :=
  [("mom_squeeze", [("entry_stride", { minimum := 2, maximum := 10, step := 1 })]),
    ("kama_hma",
      [("n", { minimum := 6, maximum := 20, step := 2 }),
        ("f", { minimum := 2, maximum := 5, step := 1 }),
        ("s", { minimum := 20, maximum := 50, step := 5 }),
        ("theta_trend", { minimum := 0.45, maximum := 0.75, step := 0.05 }),
        ("theta_flat", { minimum := 0.15, maximum := 0.35, step := 0.05 }),
        ("n_hma", { minimum := 9, maximum := 55, step := 5 }),
        ("p_atr", { minimum := 10, maximum := 21, step := 1 }),
        ("k_stop", { minimum := 1.5, maximum := 3.5, step := 0.5 })]),
    ("keltner_fade",
      [("p_ema", { minimum := 14, maximum := 55, step := 5 }),
        ("p_atr", { minimum := 10, maximum := 21, step := 1 }),
        ("m", { minimum := 1.5, maximum := 3.5, step := 0.5 }),
        ("p_rsi", { minimum := 7, maximum := 21, step := 2 }),
        ("theta_os", { minimum := 20, maximum := 35, step := 5 }),
        ("theta_ob", { minimum := 65, maximum := 80, step := 5 }),
        ("k_stop", { minimum := 1.0, maximum := 2.5, step := 0.5 }),
        ("t_bars", { minimum := 5, maximum := 25, step := 5 }),
        ("z_threshold", { minimum := 1.5, maximum := 3.0, step := 0.5 })]),
    ("ema", [("len", { minimum := 10, maximum := 60, step := 10 })]),
    ("kama", [("len", { minimum := 10, maximum := 60, step := 10 })]),
    ("hull", [("len", { minimum := 10, maximum := 60, step := 10 })]),
    ("time_stop", [("hold_bars", { minimum := 1, maximum := 24, step := 1 })])]

variable {K : Type} [Field K] [DecidableEq K] (runtime : DslRuntime K)

/-! ## The parameters -/

/-- The range of a catalog parameter, as bounds. -/
def catalog_bounds (range : ParameterRange ℚ) : JsonValue K :=
  parameter_bounds (range.minimum : K) (range.maximum : K) (range.step : K)

/-- The catalog's parameters of one layer, under names with the layer's. -/
def catalog_step (normalized : Dict String (JsonValue K)) (layer_name : String) :
    Dict String (JsonValue K) :=
  ((List.lookup layer_name LAYER_PARAMETERS).getD []).foldl (fun normalized item =>
    normalized.insert (layer_name ++ "." ++ item.1) (catalog_bounds item.2)) normalized

/-- The parameters of one layer of `parameter_grids`. -/
def grid_step (normalized : Dict String (JsonValue K)) (item : String × JsonValue K) :
    Except String (Dict String (JsonValue K)) :=
  match item.2 with
  | .dict layer_grid =>
      (layer_grid.map fun bounds => (item.1 ++ "." ++ bounds.1, bounds.2)).foldlM
        (parameter_step runtime) normalized
  | _ => .ok normalized

/-- `_parameter_schema_from_payload`, of the layers that the structure names. -/
def parameter_schema_from_payload (payload : JsonObject K) (layer_names : List String) :
    Except String (JsonObject K) := do
  let normalized ←
    match payload.get "parameter_grids" with
    | .dict parameter_grids => parameter_grids.foldlM (grid_step runtime) ∅
    | _ => .ok ∅
  -- the catalog is read only when the grids have given nothing
  if ! normalized.sorted_items.isEmpty then return normalized.sorted_items
  return (layer_names.foldl catalog_step ∅).sorted_items

/-! ## The specification -/

/-- The backbone that the incumbent names, or else the payload. -/
def payload_backbone (payload : JsonObject K) : String :=
  let incumbent :=
    match payload.get_or "incumbent" (.dict []) with
    | .dict incumbent =>
        pyStrip (py_str runtime.composite_text (JsonObject.get_or incumbent "backbone" (.str "")))
    | _ => ""
  if incumbent = "" then
    pyStrip (py_str runtime.composite_text (payload.get_or "backbone" (.str "")))
  else incumbent

/-- The contracts that a snapshot serves with one of the given fields. -/
def SNAPSHOT_CONTRACTS : List (List String × String) :=
  [(["funding_rates"], "funding"), (["open_interest"], "open_interest"),
    (["liquidation_notional"], "liquidation"), (["mark_price"], "mark_price"),
    (["index_price"], "index_price"), (["spread_bps"], "spread"),
    (["depth_bid_1bp_usd", "depth_ask_1bp_usd"], "depth"),
    (["regime_id", "vol_regime"], "regime_labels")]

/-- `feature_contracts`. -/
def payload_contracts (payload : JsonObject K) : List String :=
  match payload.get_or "snapshot" (.dict []) with
  | .dict snapshot =>
      "ohlcv" :: (SNAPSHOT_CONTRACTS.filter fun contract =>
          contract.1.any fun field_name => is_present (JsonObject.get snapshot field_name)).map
            Prod.snd
        ++ (if is_present (JsonObject.get snapshot "forecast_features")
            || is_present (payload.get "forecast_feature_config") then ["forecast_feature"] else [])
  | _ => ["ohlcv"]

/-- The spellings of the time frames. -/
def TIMEFRAME_ALIASES : List (String × String) :=
  [("1min", "1m"), ("1minute", "1m"), ("1m", "1m"), ("15min", "15m"), ("15minute", "15m"),
    ("15m", "15m"), ("1hour", "1h"), ("1h", "1h")]

/-- `_normalize_signal_timeframe`. -/
def normalize_signal_timeframe (raw : JsonValue K) : String :=
  let text := pyStrip (text_or runtime.composite_text raw "1h")
  (List.lookup (pyLower text) TIMEFRAME_ALIASES).getD text

/-- `execution_policy`. -/
def payload_policy (payload : JsonObject K) : JsonObject K :=
  match payload.get_or "snapshot" (.dict []) with
  | .dict snapshot =>
      let signal_tf :=
        normalize_signal_timeframe runtime (JsonObject.get_or snapshot "timeframe" (.str "1h"))
      [("venue", .str (py_str runtime.composite_text
          (JsonObject.get_or snapshot "venue" (.str "binance")))),
        ("signal_tf", .str signal_tf),
        ("execution_tf", .str (if signal_tf = "1m" then "1m" else "15m"))]
  | _ => [("venue", .str "binance"), ("signal_tf", .str "1h"), ("execution_tf", .str "15m")]

/-- `build_bounded_strategy_spec_from_payload`. -/
def build_bounded_strategy_spec_from_payload :
    JsonValue K → Except String (JsonObject K)
  | .dict payload => do
      let backbone := payload_backbone runtime payload
      let feature_contracts := payload_contracts payload
      let layers (field_name : String) : List String :=
        normalize_string_list (JsonObject.get payload field_name)
      let parameter_schema ← parameter_schema_from_payload runtime payload
        (backbone :: STRUCTURE_LISTS.flatMap layers)
      let risk_hooks := ["max_drawdown", "venue_profile_guard"]
        ++ (if "funding" ∈ feature_contracts then ["funding_shock"] else [])
        ++ (if "liquidation" ∈ feature_contracts then ["liquidation_guard"] else [])
      return [("family", .str ((List.lookup backbone BACKBONE_TO_FAMILY).getD "momentum")),
          ("variant_id", .str (py_str runtime.composite_text
            (JsonObject.get_or payload "run_id" (.str "strategy-proposal")))),
          ("feature_contracts", text_list feature_contracts),
          ("parameter_schema", .dict parameter_schema),
          ("risk_hooks", text_list risk_hooks),
          ("execution_policy", .dict (payload_policy runtime payload)),
          ("structure", .dict (("backbone", .str backbone)
            :: STRUCTURE_LISTS.map fun field_name => (field_name, text_list (layers field_name))))]
        ++ (if is_present (JsonObject.get payload "forecast_feature_config") then
            [("forecast_feature_config", JsonObject.get payload "forecast_feature_config")] else [])
        -- a prohibited field is handed on, for the validator to find it
        ++ PROHIBITED_FREE_FORM_FIELDS.filterMap fun field_name =>
          (List.lookup field_name payload).map fun value => (field_name, value)
  | _ => .error "ValueError: payload_not_object"

end ProofAlpha.Strategy
