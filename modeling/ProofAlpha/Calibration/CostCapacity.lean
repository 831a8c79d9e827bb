/-
Cost and capacity calibration (`calibration/cost_capacity.py`): the model fitted to
the measurements of orders, the capacity ladder of a model, and the decision on a
fitted model that would replace the incumbent.

Numbers are exact. `VersionTexts` has the two texts that are not computed here: the
digest in a model version, and the text of a float. What the functions do not read of
a measurement is left out.
-/
import ProofAlpha.Backtest.Snapshot
import ProofAlpha.Lib.Checks
import ProofAlpha.Lib.PyDict
import ProofAlpha.Lib.PyJson
import ProofAlpha.Strategy.Artifacts

set_option autoImplicit false

namespace ProofAlpha.Calibration

open ProofAlpha.Lib
open ProofAlpha.Backtest (median)
open ProofAlpha.Strategy (sorted_set)

/-- `OrderTelemetryMeasurement`. -/
structure OrderTelemetryMeasurement (K : Type) where
  symbol : String
  regime : String
  funding_window : Bool
  participation_rate : K
  sqrt_q_over_adv : K
  fill_completion_rate : K
  realized_vs_modeled_fill_bps : K
  spread_bps : K
  vol_15m : K
  latency_rtt_ms : K
  maker_ratio : K

/-- `CalibrationModel`. -/
structure CalibrationModel (K : Type) where
  model_version : String
  source_model_version : String
  status : String
  sample_count : ℤ
  bucket_counts : Dict String ℕ
  square_root_impact_bps : K
  spread_coefficient : K
  volatility_coefficient : K
  latency_coefficient : K
  funding_window_bps : K
  queue_fill_coefficient : K
  max_participation_rate : K
  notes : List String

/-- `CapacityLadderRow`. -/
structure CapacityLadderRow (K : Type) where
  multiplier : ℤ
  modeled_cost_bps : K
  edge_erosion_bps : K
  edge_erosion_ratio : K
  modeled_fill_completion_rate : K
  scaled_participation_rate : K
  passed : Bool
  failure_reasons : List String

/-- `CapacityReport`. -/
structure CapacityReport (K : Type) where
  baseline_edge_bps : K
  multipliers : List ℤ
  rows : List (CapacityLadderRow K)
  passed : Bool
  failure_reasons : List String

/-- `CalibrationUpdateDecision`. -/
structure CalibrationUpdateDecision (K : Type) where
  allowed : Bool
  selected_model : CalibrationModel K
  reasons : List String

/-- The texts in a model: the first sixteen digits of the hash of a source and a payload, and
`str` of a float. -/
structure VersionTexts (K : Type) where
  digest : String → JsonObject K → String
  float_text : K → String

variable {K : Type}

/-- `_model_version`. -/
def model_version (texts : VersionTexts K) (kind source : String) (payload : JsonObject K) :
    String :=
  kind ++ "-" ++ texts.digest source payload

/-! ## Measurements -/

/-- The key of the bucket of a measurement. -/
def OrderTelemetryMeasurement.bucket (row : OrderTelemetryMeasurement K) : String :=
  row.symbol ++ "|" ++ row.regime

/-- `_bucket_counts`. -/
def bucket_counts (rows : List (OrderTelemetryMeasurement K)) : Dict String ℕ :=
  Dict.tally (fun row => some row.bucket) (fun _ => 1) rows

/-- The notes on buckets with fewer than `minimum` orders, in the order of their keys. -/
def insufficient_buckets (counts : Dict String ℕ) (minimum : ℤ) : List String :=
  (Dict.sorted_items counts).flatMap fun item =>
    reason_if (item.2 < minimum) ("insufficient_bucket_sample:" ++ item.1)

variable [Field K]

/-- `statistics.mean` of a list that is not empty. -/
def mean (values : List K) : K := values.sum / values.length

/-- `_average`. -/
def average (values : List K) (default : K) : K := if values.isEmpty then default else mean values

variable [LinearOrder K]

/-- `_adjusted_impact_target_bps`. -/
def adjusted_impact_target_bps (row : OrderTelemetryMeasurement K) : K :=
  let taker_spread := row.spread_bps * max 0 (1 - row.maker_ratio)
  max 0 (row.realized_vs_modeled_fill_bps - 0.5 * taker_spread)

/-- `_trimmed_mean`. -/
def trimmed_mean (values : List K) : K :=
  let clean := (values.filter fun value => 0 ≤ value).insertionSort (· ≤ ·)
  if clean.isEmpty then 0
  else if clean.length < 5 then mean clean
  else
    let trim := max 1 (clean.length / 10)
    let trimmed := (clean.take (clean.length - trim)).drop trim
    mean (if trimmed.isEmpty then clean else trimmed)

/-- `_bounded_mean_ratio`. -/
def bounded_mean_ratio (targets controls : List K) (cap : K) : K :=
  let ratios := ((targets.zip controls).filter fun pair => 0 < pair.2).map fun pair => pair.1 / pair.2
  if ratios.isEmpty then 0 else max 0 (min cap (median ratios))

/-- `_funding_window_delta`. -/
def funding_window_delta (rows : List (OrderTelemetryMeasurement K)) (targets : List K) : K :=
  let funding_targets := ((rows.zip targets).filter fun pair => pair.1.funding_window).map Prod.snd
  let non_funding_targets :=
    ((rows.zip targets).filter fun pair => !pair.1.funding_window).map Prod.snd
  if funding_targets.isEmpty || non_funding_targets.isEmpty then 0
  else max 0 (mean funding_targets - mean non_funding_targets)

/-! ## The fit -/

/-- The counts of the buckets as a JSON object. -/
def counts_object (counts : Dict String ℕ) : JsonObject K :=
  (Dict.sorted_items counts).map fun item => (item.1, .int item.2)

/-- `fit_impact_calibration`. -/
def fit_impact_calibration [FloorRing K] (texts : VersionTexts K)
    (rows : List (OrderTelemetryMeasurement K)) (source_model_version : String)
    (minimum_orders_per_bucket : ℤ) (max_participation_rate : K) : CalibrationModel K :=
  if rows.isEmpty then
    { model_version := model_version texts "empty" source_model_version []
      source_model_version := source_model_version
      status := "blocked"
      sample_count := 0
      bucket_counts := ∅
      square_root_impact_bps := 0
      spread_coefficient := 0
      volatility_coefficient := 0
      latency_coefficient := 0
      funding_window_bps := 0
      queue_fill_coefficient := 0
      max_participation_rate := max_participation_rate
      notes := ["no_order_telemetry_measurements"] }
  else
    let counts := bucket_counts rows
    let notes := insufficient_buckets counts minimum_orders_per_bucket
    let adjusted_targets := rows.map adjusted_impact_target_bps
    let square_root_samples :=
      ((adjusted_targets.zip rows).filter fun pair => 0 < pair.2.sqrt_q_over_adv).map fun pair =>
        pair.1 / max pair.2.sqrt_q_over_adv 1e-12
    let square_root_impact_bps := pyRound (trimmed_mean square_root_samples) 12
    let spread_coefficient := pyRound
      (bounded_mean_ratio adjusted_targets (rows.map fun row => row.spread_bps) 2) 12
    let volatility_coefficient := pyRound
      (bounded_mean_ratio adjusted_targets (rows.map fun row => row.vol_15m * 10000) 5) 12
    let latency_coefficient := pyRound
      (bounded_mean_ratio adjusted_targets (rows.map fun row => row.latency_rtt_ms) 0.25) 12
    let funding_window_bps := pyRound (funding_window_delta rows adjusted_targets) 12
    let queue_fill_coefficient := pyRound
      (max 0 (min 1 (mean (rows.map fun row => row.fill_completion_rate)))) 12
    let payload : JsonObject K :=
      [("source_model_version", .str source_model_version), ("sample_count", .int rows.length),
        ("bucket_counts", .dict (counts_object counts)), ("sqrt", .float square_root_impact_bps),
        ("spread", .float spread_coefficient), ("volatility", .float volatility_coefficient),
        ("latency", .float latency_coefficient), ("funding", .float funding_window_bps),
        ("queue", .float queue_fill_coefficient),
        ("max_participation_rate", .float (pyRound max_participation_rate 12))]
    { model_version := model_version texts "cost-capacity" source_model_version payload
      source_model_version := source_model_version
      status := if notes.isEmpty then "usable" else "sample_guarded"
      sample_count := rows.length
      bucket_counts := counts
      square_root_impact_bps := square_root_impact_bps
      spread_coefficient := spread_coefficient
      volatility_coefficient := volatility_coefficient
      latency_coefficient := latency_coefficient
      funding_window_bps := funding_window_bps
      queue_fill_coefficient := queue_fill_coefficient
      max_participation_rate := max_participation_rate
      notes := notes }

/-! ## The capacity ladder -/

/-- `_modeled_cost_bps`. -/
def modeled_cost_bps (m : PyMath K) (model : CalibrationModel K)
    (participation_rate spread_bps vol_15m latency_ms : K) (funding_window : Bool) : K :=
  max 0 (model.square_root_impact_bps * m.sqrt (max 0 participation_rate)
    + model.spread_coefficient * max 0 spread_bps
    + model.volatility_coefficient * max 0 vol_15m * 10000
    + model.latency_coefficient * max 0 latency_ms
    + if funding_window then model.funding_window_bps else 0)

/-- What the rows of a ladder are computed from: the averages of the measurements, the cost at
one times the participation, the limit and the edge. -/
structure LadderInputs (K : Type) where
  average_participation : K
  average_spread : K
  average_vol : K
  average_latency : K
  average_fill : K
  baseline_cost : K
  participation_limit : K
  baseline_edge_bps : K

/-- The inputs of `build_capacity_report`. -/
def ladder_inputs (m : PyMath K) (rows : List (OrderTelemetryMeasurement K))
    (model : CalibrationModel K) (baseline_edge_bps : K) (max_participation_rate : Option K) :
    LadderInputs K :=
  let average_participation := average (rows.map fun row => row.participation_rate) 0
  let average_spread := average (rows.map fun row => row.spread_bps) 0
  let average_vol := average (rows.map fun row => row.vol_15m) 0
  let average_latency := average (rows.map fun row => row.latency_rtt_ms) 0
  { average_participation := average_participation
    average_spread := average_spread
    average_vol := average_vol
    average_latency := average_latency
    average_fill := average (rows.map fun row => row.fill_completion_rate) 1
    baseline_cost := modeled_cost_bps m model average_participation average_spread average_vol
      average_latency false
    -- `max_participation_rate or model.max_participation_rate`: a rate of zero counts as none
    participation_limit :=
      if max_participation_rate.getD 0 = 0 then model.max_participation_rate
      else max_participation_rate.getD 0
    baseline_edge_bps := baseline_edge_bps }

/-- The cost at a multiple of the participation. -/
def LadderInputs.cost (inputs : LadderInputs K) (m : PyMath K) (model : CalibrationModel K)
    (multiplier : ℤ) : K :=
  modeled_cost_bps m model (inputs.average_participation * multiplier) inputs.average_spread
    inputs.average_vol inputs.average_latency false

/-- The edge that is lost to the cost above the baseline. -/
def LadderInputs.erosion (inputs : LadderInputs K) (m : PyMath K) (model : CalibrationModel K)
    (multiplier : ℤ) : K :=
  max 0 (inputs.cost m model multiplier - inputs.baseline_cost)

/-- The same as a part of the baseline edge. -/
def LadderInputs.erosion_ratio (inputs : LadderInputs K) (m : PyMath K)
    (model : CalibrationModel K) (multiplier : ℤ) : K :=
  inputs.erosion m model multiplier / max inputs.baseline_edge_bps 1e-12

/-- What is left of the fills above the participation limit. -/
def LadderInputs.fill_pressure (inputs : LadderInputs K) (multiplier : ℤ) : K :=
  let scaled_participation := inputs.average_participation * multiplier
  if inputs.participation_limit < scaled_participation ∧ 0 < inputs.participation_limit then
    inputs.participation_limit / scaled_participation
  else 1

/-- The part of the orders that is filled at a multiple of the participation. -/
def LadderInputs.fill (inputs : LadderInputs K) (model : CalibrationModel K) (multiplier : ℤ) : K :=
  max 0 (min 1
    (inputs.average_fill * model.queue_fill_coefficient * inputs.fill_pressure multiplier))

/-- The reasons against a row, which only the row of five times the participation can have. -/
def LadderInputs.row_reasons (inputs : LadderInputs K) (m : PyMath K) (model : CalibrationModel K)
    (multiplier : ℤ) : List String :=
  reason_if (multiplier = 5 && 0.25 < inputs.erosion_ratio m model multiplier)
      "capacity_fail_5x_edge_erosion"
    ++ reason_if (multiplier = 5 && inputs.fill model multiplier < 0.95)
      "capacity_fail_5x_fill_completion"

/-- A row of the ladder. -/
def LadderInputs.row [FloorRing K] (inputs : LadderInputs K) (m : PyMath K)
    (model : CalibrationModel K) (multiplier : ℤ) : CapacityLadderRow K :=
  { multiplier := multiplier
    modeled_cost_bps := pyRound (inputs.cost m model multiplier) 12
    edge_erosion_bps := pyRound (inputs.erosion m model multiplier) 12
    edge_erosion_ratio := pyRound (inputs.erosion_ratio m model multiplier) 12
    modeled_fill_completion_rate := pyRound (inputs.fill model multiplier) 12
    scaled_participation_rate := pyRound (inputs.average_participation * multiplier) 12
    passed := (inputs.row_reasons m model multiplier).isEmpty
    failure_reasons := inputs.row_reasons m model multiplier }

/-- `build_capacity_report`. -/
def build_capacity_report [FloorRing K] (m : PyMath K) (rows : List (OrderTelemetryMeasurement K))
    (model : CalibrationModel K) (baseline_edge_bps : K) (max_participation_rate : Option K)
    (multipliers : List ℤ) : CapacityReport K :=
  let inputs := ladder_inputs m rows model baseline_edge_bps max_participation_rate
  let unique_failures := sorted_set (multipliers.flatMap (inputs.row_reasons m model))
  { baseline_edge_bps := baseline_edge_bps
    multipliers := multipliers
    rows := multipliers.map (inputs.row m model)
    passed := unique_failures.isEmpty
    failure_reasons := unique_failures }

/-! ## The update -/

/-- `_shrink`. -/
def shrink [FloorRing K] (old new weight : K) : K := pyRound (old * (1 - weight) + new * weight) 12

/-- The reasons against an update. -/
def update_reasons (candidate : CalibrationModel K) (oos_passed bootstrap_passed : Bool)
    (minimum_orders_per_bucket : ℤ) : List String :=
  reason_if (!oos_passed) "oos_confidence_failed"
    ++ reason_if (!bootstrap_passed) "bootstrap_confidence_failed"
    ++ insufficient_buckets candidate.bucket_counts minimum_orders_per_bucket

/-- The weight of the candidate: half at most by default, and always between zero and one. -/
def update_weight (incumbent candidate : CalibrationModel K) (shrinkage_weight : Option K) : K :=
  let weight := shrinkage_weight.getD
    (min 0.5 ((candidate.sample_count : K)
      / (max (candidate.sample_count + incumbent.sample_count) 1 : ℤ)))
  max 0 (min 1 weight)

/-- `evaluate_calibration_update`. -/
def evaluate_calibration_update [FloorRing K] (texts : VersionTexts K)
    (incumbent candidate : CalibrationModel K) (oos_passed bootstrap_passed : Bool)
    (minimum_orders_per_bucket : ℤ) (shrinkage_weight : Option K) :
    CalibrationUpdateDecision K :=
  let reasons := update_reasons candidate oos_passed bootstrap_passed minimum_orders_per_bucket
  let lowers_cost := decide (candidate.square_root_impact_bps < incumbent.square_root_impact_bps)
  let raises_capacity :=
    decide (incumbent.max_participation_rate < candidate.max_participation_rate)
  if (lowers_cost || raises_capacity) && !reasons.isEmpty then
    { allowed := false, selected_model := incumbent, reasons := sorted_set reasons }
  else if !reasons.isEmpty then
    { allowed := false, selected_model := incumbent, reasons := sorted_set reasons }
  else
    let weight := update_weight incumbent candidate shrinkage_weight
    let selected : CalibrationModel K :=
      { model_version := model_version texts "cost-capacity-shrunk" candidate.source_model_version
          [("incumbent", .str incumbent.model_version),
            ("candidate", .str candidate.model_version), ("weight", .float weight)]
        source_model_version := candidate.source_model_version
        status := candidate.status
        sample_count := candidate.sample_count
        bucket_counts := candidate.bucket_counts
        square_root_impact_bps :=
          shrink incumbent.square_root_impact_bps candidate.square_root_impact_bps weight
        spread_coefficient := shrink incumbent.spread_coefficient candidate.spread_coefficient weight
        volatility_coefficient :=
          shrink incumbent.volatility_coefficient candidate.volatility_coefficient weight
        latency_coefficient :=
          shrink incumbent.latency_coefficient candidate.latency_coefficient weight
        funding_window_bps := shrink incumbent.funding_window_bps candidate.funding_window_bps weight
        queue_fill_coefficient :=
          shrink incumbent.queue_fill_coefficient candidate.queue_fill_coefficient weight
        max_participation_rate :=
          shrink incumbent.max_participation_rate candidate.max_participation_rate weight
        notes := candidate.notes
          ++ ["shrinkage_weight:" ++ texts.float_text (pyRound weight 12)] }
    { allowed := true, selected_model := selected, reasons := [] }

end ProofAlpha.Calibration
