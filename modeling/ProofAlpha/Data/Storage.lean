/-
The snapshot store (`data/storage.py`): `store_snapshot` writes one parquet row a
candle and one catalog row a snapshot, `load_snapshot` reads them back.

A column holds what is written to it: the `ts` column the candle's instant, whose
ISO texts sort as the instants do, a JSON column the value it encodes, a payload
with a missing key having `none` there. `isoformat` is the text of an instant.
-/
import ProofAlpha.Data.Snapshots
import ProofAlpha.Lib.Checks
import ProofAlpha.Lib.PyDict

set_option autoImplicit false

namespace ProofAlpha.Data

open ProofAlpha.Lib

variable {K : Type} [Field K]

/-- The exceptions of the store. -/
inductive StorageError where
  | index_error
  | file_not_found (text : String)
  | key_error (text : String)
deriving DecidableEq

/-! ## Payloads -/

/-- The dict of `_serialize_venue_profile`. -/
structure VenueProfilePayload (K : Type) where
  venue : String
  contract_type : Option String
  quote_currency : Option String
  settlement_currency : Option String
  funding_interval_h : Option ℤ
  mark_price_source : Option String
  leverage_tiers : Option (List (JsonObject K))
  maintenance_margin_schedule : Option (List (JsonObject K))
  liquidation_fee_schedule : Option (List (JsonObject K))
  liquidation_style : Option String
  partial_liquidation_ratio : Option K
  liquidation_cooldown_bars : Option ℤ
  liquidation_mark_price_weight : Option K
  liquidation_mark_premium_bps : Option K
  notes : Option (List String)

/-- `_serialize_venue_profile`; the profile's own fees are not written. -/
def serialize_venue_profile (profile : VenueProfile K) : VenueProfilePayload K where
  venue := profile.venue
  contract_type := some profile.contract_type
  quote_currency := profile.quote_currency
  settlement_currency := profile.settlement_currency
  funding_interval_h := profile.funding_interval_h
  mark_price_source := some profile.mark_price_source
  leverage_tiers := some profile.leverage_tiers
  maintenance_margin_schedule := some profile.maintenance_margin_schedule
  liquidation_fee_schedule := some profile.liquidation_fee_schedule
  liquidation_style := some profile.liquidation_style
  partial_liquidation_ratio := some profile.partial_liquidation_ratio
  liquidation_cooldown_bars := some profile.liquidation_cooldown_bars
  liquidation_mark_price_weight := some profile.liquidation_mark_price_weight
  liquidation_mark_premium_bps := some profile.liquidation_mark_premium_bps
  notes := some profile.notes

/-- `_deserialize_venue_profile`. -/
def deserialize_venue_profile (payload : VenueProfilePayload K) : VenueProfile K where
  venue := payload.venue
  contract_type := payload.contract_type.getD "perpetual"
  quote_currency := payload.quote_currency
  settlement_currency := payload.settlement_currency
  funding_interval_h := payload.funding_interval_h
  maker_fee_bps := none
  taker_fee_bps := none
  fee_schedule_source := none
  mark_price_source := payload.mark_price_source.getD "exchange_mark"
  leverage_tiers := payload.leverage_tiers.getD []
  maintenance_margin_schedule := payload.maintenance_margin_schedule.getD []
  liquidation_fee_schedule := payload.liquidation_fee_schedule.getD []
  liquidation_style := payload.liquidation_style.getD "full"
  partial_liquidation_ratio := payload.partial_liquidation_ratio.getD 1
  liquidation_cooldown_bars := payload.liquidation_cooldown_bars.getD 0
  liquidation_mark_price_weight := payload.liquidation_mark_price_weight.getD 0
  liquidation_mark_premium_bps := payload.liquidation_mark_premium_bps.getD 0
  notes := payload.notes.getD []

/-- The dict of `_serialize_quality_report`. -/
structure QualityReportPayload (K : Type) where
  report_id : String
  snapshot_id : String
  quality_score : Option K
  passed : Option Bool
  issues : Option (List String)
  metrics : Option (JsonObject K)
  source_checks : Option (JsonObject K)
  generated_at : Option String

/-- `_serialize_quality_report`. -/
def serialize_quality_report (report : SnapshotQualityReport K) : QualityReportPayload K where
  report_id := report.report_id
  snapshot_id := report.snapshot_id
  quality_score := some report.quality_score
  passed := some report.passed
  issues := some report.issues
  metrics := some report.metrics
  source_checks := some report.source_checks
  generated_at := report.generated_at

/-- `_deserialize_quality_report`. -/
def deserialize_quality_report (payload : QualityReportPayload K) : SnapshotQualityReport K where
  report_id := payload.report_id
  snapshot_id := payload.snapshot_id
  quality_score := payload.quality_score.getD 1
  passed := payload.passed.getD true
  issues := payload.issues.getD []
  metrics := payload.metrics.getD []
  source_checks := payload.source_checks.getD []
  generated_at := payload.generated_at

/-! ## Rows -/

/-- A row of `snapshot_rows_stage`. -/
structure SnapshotRow (K : Type) where
  snapshot_id : String
  symbol : String
  venue : String
  timeframe : String
  contract_type : String
  ts : ℤ
  open_ : K
  high : K
  low : K
  close : K
  volume : K
  trade_count : ℤ
  funding_rate : K
  open_interest : K
  liquidation_notional : K
  mark_price : K
  index_price : K
  next_funding_ts : String
  open_interest_usd : K
  basis_bps : K
  liq_long_usd : K
  liq_short_usd : K
  spread_bps : K
  depth_bid_1bp_usd : K
  depth_ask_1bp_usd : K
  latency_proxy_ms : K
  ret_1 : K
  ret_24 : K
  rv_24h : K
  funding_z : K
  d_oi : K
  d_oi_z : K
  liq_intensity_z : K
  vol_regime : String
  regime_id : String
  regime_probabilities_json : JsonObject K

/-- `values[index]`. -/
def entry_at {α : Type} (values : List α) (index : ℕ) : Except StorageError α :=
  match values[index]? with
  | some value => .ok value
  | none => .error .index_error

/-- `values[index] if values else default`. -/
def entry_or {α : Type} (values : List α) (index : ℕ) (default : α) : Except StorageError α :=
  if values.isEmpty then .ok default else entry_at values index

/-- The row `_snapshot_rows` makes of one candle. -/
def snapshot_row (isoformat : ℤ → String) (snapshot : DataSnapshot K) (candle : Candle K)
    (index : ℕ) : Except StorageError (SnapshotRow K) := do
  let funding_rate ← entry_at snapshot.funding_rates index
  let open_interest ← entry_at snapshot.open_interest index
  let liquidation_notional ← entry_at snapshot.liquidation_notional index
  let mark_price ← entry_or snapshot.mark_price index candle.close
  let index_price ← entry_or snapshot.index_price index candle.close
  let next_funding_ts ← entry_or snapshot.next_funding_ts index (isoformat candle.timestamp)
  let open_interest_usd ← entry_or snapshot.open_interest_usd index 0
  let basis_bps ← entry_or snapshot.basis_bps index 0
  let liq_long_usd ← entry_or snapshot.liq_long_usd index 0
  let liq_short_usd ← entry_or snapshot.liq_short_usd index 0
  let spread_bps ← entry_or snapshot.spread_bps index 0
  let depth_bid_1bp_usd ← entry_or snapshot.depth_bid_1bp_usd index 0
  let depth_ask_1bp_usd ← entry_or snapshot.depth_ask_1bp_usd index 0
  let latency_proxy_ms ← entry_or snapshot.latency_proxy_ms index 0
  let ret_1 ← entry_or snapshot.ret_1 index 0
  let ret_24 ← entry_or snapshot.ret_24 index 0
  let rv_24h ← entry_or snapshot.rv_24h index 0
  let funding_z ← entry_or snapshot.funding_z index 0
  let d_oi ← entry_or snapshot.d_oi index 0
  let d_oi_z ← entry_or snapshot.d_oi_z index 0
  let liq_intensity_z ← entry_or snapshot.liq_intensity_z index 0
  let vol_regime ← entry_or snapshot.vol_regime index ""
  let regime_id ← entry_or snapshot.regime_id index ""
  let regime_probabilities ←
    entry_or snapshot.regime_probabilities index [("unassigned", .float 1)]
  return {
    snapshot_id := snapshot.snapshot_id
    symbol := snapshot.symbol
    venue := snapshot.venue
    timeframe := snapshot.timeframe
    contract_type := snapshot.contract_type
    ts := candle.timestamp
    open_ := candle.open_
    high := candle.high
    low := candle.low
    close := candle.close
    volume := candle.volume
    trade_count := candle.trade_count
    funding_rate := funding_rate
    open_interest := open_interest
    liquidation_notional := liquidation_notional
    mark_price := mark_price
    index_price := index_price
    next_funding_ts := next_funding_ts
    open_interest_usd := open_interest_usd
    basis_bps := basis_bps
    liq_long_usd := liq_long_usd
    liq_short_usd := liq_short_usd
    spread_bps := spread_bps
    depth_bid_1bp_usd := depth_bid_1bp_usd
    depth_ask_1bp_usd := depth_ask_1bp_usd
    latency_proxy_ms := latency_proxy_ms
    ret_1 := ret_1
    ret_24 := ret_24
    rv_24h := rv_24h
    funding_z := funding_z
    d_oi := d_oi
    d_oi_z := d_oi_z
    liq_intensity_z := liq_intensity_z
    vol_regime := vol_regime
    regime_id := regime_id
    regime_probabilities_json := regime_probabilities }

/-- `_snapshot_rows`. -/
def snapshot_rows (isoformat : ℤ → String) (snapshot : DataSnapshot K) :
    Except StorageError (List (SnapshotRow K)) :=
  snapshot.candles.zipIdx.mapM fun item => snapshot_row isoformat snapshot item.1 item.2

/-! ## The store -/

/-- A row of `snapshot_catalog`. -/
structure CatalogRow (K : Type) where
  symbol : String
  venue : String
  timeframe : String
  contract_type : String
  parquet_path : String
  maker_fee_bps : K
  taker_fee_bps : K
  quality_flags_json : List String
  venue_profile_json : Option (VenueProfilePayload K)
  quality_report_json : Option (QualityReportPayload K)
  provenance_json : JsonObject K
  row_count : ℕ
  first_ts : Option String
  last_ts : Option String

/-- The files of one store root: the catalog, `none` before the database file is
there, and the parquet files by path. -/
structure SnapshotStore (K : Type) where
  catalog : Option (Dict String (CatalogRow K))
  parquet : Dict String (List (SnapshotRow K))

/-- `root / f"{snapshot_id}.parquet"`. -/
def parquet_path (root snapshot_id : String) : String := root ++ "/" ++ snapshot_id ++ ".parquet"

/-- `store_snapshot`. -/
def store_snapshot (isoformat : ℤ → String) (root : String) (snapshot : DataSnapshot K)
    (store : SnapshotStore K) : Except StorageError (SnapshotStore K) := do
  let path := parquet_path root snapshot.snapshot_id
  let rows ← snapshot_rows isoformat snapshot
  let catalog_row : CatalogRow K :=
    { symbol := snapshot.symbol
      venue := snapshot.venue
      timeframe := snapshot.timeframe
      contract_type := snapshot.contract_type
      parquet_path := path
      maker_fee_bps := snapshot.maker_fee_bps
      taker_fee_bps := snapshot.taker_fee_bps
      quality_flags_json := snapshot.quality_flags
      venue_profile_json := snapshot.venue_profile.map serialize_venue_profile
      quality_report_json := snapshot.quality_report.map serialize_quality_report
      provenance_json := snapshot.provenance
      row_count := snapshot.candles.length
      first_ts := snapshot.candles.head?.map fun candle => isoformat candle.timestamp
      last_ts := snapshot.candles.getLast?.map fun candle => isoformat candle.timestamp }
  return {
    catalog := some ((store.catalog.getD ∅).insert snapshot.snapshot_id catalog_row)
    parquet := store.parquet.insert path rows }

/-- The candle of a row. -/
def row_candle (row : SnapshotRow K) : Candle K where
  timestamp := row.ts
  open_ := row.open_
  high := row.high
  low := row.low
  close := row.close
  volume := row.volume
  trade_count := row.trade_count

/-- `load_snapshot`. -/
def load_snapshot (root snapshot_id : String) (store : SnapshotStore K) :
    Except StorageError (DataSnapshot K) := do
  let catalog ←
    match store.catalog with
    | some catalog => .ok catalog
    | none =>
        .error (.file_not_found ("snapshot store not found: " ++ root ++ "/snapshot_store.duckdb"))
  let catalog_row ←
    match catalog.lookup snapshot_id with
    | some row => .ok row
    | none => .error (.key_error ("unknown snapshot_id: " ++ snapshot_id))
  let rows ←
    match store.parquet.lookup catalog_row.parquet_path with
    | some rows => .ok rows
    | none => .error (.file_not_found catalog_row.parquet_path)
  -- `order by ts`
  let rows := rows.insertionSort fun a b => a.ts ≤ b.ts
  return {
    snapshot_id := snapshot_id
    symbol := catalog_row.symbol
    venue := catalog_row.venue
    timeframe := catalog_row.timeframe
    contract_type := catalog_row.contract_type
    candles := rows.map row_candle
    funding_rates := rows.map SnapshotRow.funding_rate
    open_interest := rows.map SnapshotRow.open_interest
    liquidation_notional := rows.map SnapshotRow.liquidation_notional
    maker_fee_bps := catalog_row.maker_fee_bps
    taker_fee_bps := catalog_row.taker_fee_bps
    mark_price := rows.map SnapshotRow.mark_price
    index_price := rows.map SnapshotRow.index_price
    next_funding_ts := rows.map SnapshotRow.next_funding_ts
    open_interest_usd := rows.map SnapshotRow.open_interest_usd
    basis_bps := rows.map SnapshotRow.basis_bps
    liq_long_usd := rows.map SnapshotRow.liq_long_usd
    liq_short_usd := rows.map SnapshotRow.liq_short_usd
    spread_bps := rows.map SnapshotRow.spread_bps
    depth_bid_1bp_usd := rows.map SnapshotRow.depth_bid_1bp_usd
    depth_ask_1bp_usd := rows.map SnapshotRow.depth_ask_1bp_usd
    latency_proxy_ms := rows.map SnapshotRow.latency_proxy_ms
    ret_1 := rows.map SnapshotRow.ret_1
    ret_24 := rows.map SnapshotRow.ret_24
    rv_24h := rows.map SnapshotRow.rv_24h
    funding_z := rows.map SnapshotRow.funding_z
    d_oi := rows.map SnapshotRow.d_oi
    d_oi_z := rows.map SnapshotRow.d_oi_z
    liq_intensity_z := rows.map SnapshotRow.liq_intensity_z
    vol_regime := rows.map SnapshotRow.vol_regime
    regime_id := rows.map SnapshotRow.regime_id
    regime_probabilities := rows.map SnapshotRow.regime_probabilities_json
    quality_flags := catalog_row.quality_flags_json
    venue_profile := catalog_row.venue_profile_json.map deserialize_venue_profile
    quality_report := catalog_row.quality_report_json.map deserialize_quality_report
    provenance := catalog_row.provenance_json }

end ProofAlpha.Data
