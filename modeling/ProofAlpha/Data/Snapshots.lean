/-
The market snapshot with all its series (`config/models.py`, `data/schema.py`)
and the one constructor every derived snapshot goes through (`data/snapshots.py`,
`clone_snapshot`).

A snapshot's per-bar series are parallel lists, one entry per candle where they
are there at all. `NumberSeries` and `TextSeries` name them, so that a statement
about every series of a snapshot is one statement.
-/
import ProofAlpha.Backtest.Snapshot
import ProofAlpha.Lib.PyJson

set_option autoImplicit false

namespace ProofAlpha.Data

open ProofAlpha.Lib

variable {K : Type}

/-! ## The data model -/

/-- `Candle`; `open_` is the field `open`, the timestamp is in microseconds since
the Unix epoch. -/
structure Candle (K : Type) where
  timestamp : ℤ
  open_ : K
  high : K
  low : K
  close : K
  volume : K
  trade_count : ℤ
deriving DecidableEq

/-- `VenueProfile`. -/
structure VenueProfile (K : Type) where
  venue : String
  contract_type : String
  quote_currency : Option String
  settlement_currency : Option String
  funding_interval_h : Option ℤ
  maker_fee_bps : Option K
  taker_fee_bps : Option K
  fee_schedule_source : Option String
  mark_price_source : String
  leverage_tiers : List (JsonObject K)
  maintenance_margin_schedule : List (JsonObject K)
  liquidation_fee_schedule : List (JsonObject K)
  liquidation_style : String
  partial_liquidation_ratio : K
  liquidation_cooldown_bars : ℤ
  liquidation_mark_price_weight : K
  liquidation_mark_premium_bps : K
  notes : List String

/-- `SnapshotQualityReport`. -/
structure SnapshotQualityReport (K : Type) where
  report_id : String
  snapshot_id : String
  quality_score : K
  passed : Bool
  issues : List String
  metrics : JsonObject K
  source_checks : JsonObject K
  generated_at : Option String

/-- `DataSnapshot`. -/
structure DataSnapshot (K : Type) where
  snapshot_id : String
  symbol : String
  venue : String
  timeframe : String
  candles : List (Candle K)
  funding_rates : List K
  open_interest : List K
  liquidation_notional : List K
  maker_fee_bps : K
  taker_fee_bps : K
  contract_type : String := "perpetual"
  mark_price : List K := []
  index_price : List K := []
  next_funding_ts : List String := []
  open_interest_usd : List K := []
  basis_bps : List K := []
  liq_long_usd : List K := []
  liq_short_usd : List K := []
  spread_bps : List K := []
  depth_bid_1bp_usd : List K := []
  depth_ask_1bp_usd : List K := []
  latency_proxy_ms : List K := []
  ret_1 : List K := []
  ret_24 : List K := []
  rv_24h : List K := []
  funding_z : List K := []
  d_oi : List K := []
  d_oi_z : List K := []
  liq_intensity_z : List K := []
  vol_regime : List String := []
  regime_id : List String := []
  regime_probabilities : List (JsonObject K) := []
  quality_flags : List String := []
  venue_profile : Option (VenueProfile K) := none
  quality_report : Option (SnapshotQualityReport K) := none
  provenance : JsonObject K := []

/-! ## The series of a snapshot -/

/-- The numeric per-bar series beside the candles. -/
inductive NumberSeries where
  | funding_rates | open_interest | liquidation_notional | mark_price | index_price
  | open_interest_usd | basis_bps | liq_long_usd | liq_short_usd | spread_bps
  | depth_bid_1bp_usd | depth_ask_1bp_usd | latency_proxy_ms | ret_1 | ret_24 | rv_24h
  | funding_z | d_oi | d_oi_z | liq_intensity_z
deriving DecidableEq

/-- The per-bar series of texts. -/
inductive TextSeries where
  | next_funding_ts | vol_regime | regime_id
deriving DecidableEq

def DataSnapshot.number (snapshot : DataSnapshot K) : NumberSeries → List K
  | .funding_rates => snapshot.funding_rates
  | .open_interest => snapshot.open_interest
  | .liquidation_notional => snapshot.liquidation_notional
  | .mark_price => snapshot.mark_price
  | .index_price => snapshot.index_price
  | .open_interest_usd => snapshot.open_interest_usd
  | .basis_bps => snapshot.basis_bps
  | .liq_long_usd => snapshot.liq_long_usd
  | .liq_short_usd => snapshot.liq_short_usd
  | .spread_bps => snapshot.spread_bps
  | .depth_bid_1bp_usd => snapshot.depth_bid_1bp_usd
  | .depth_ask_1bp_usd => snapshot.depth_ask_1bp_usd
  | .latency_proxy_ms => snapshot.latency_proxy_ms
  | .ret_1 => snapshot.ret_1
  | .ret_24 => snapshot.ret_24
  | .rv_24h => snapshot.rv_24h
  | .funding_z => snapshot.funding_z
  | .d_oi => snapshot.d_oi
  | .d_oi_z => snapshot.d_oi_z
  | .liq_intensity_z => snapshot.liq_intensity_z

def DataSnapshot.text (snapshot : DataSnapshot K) : TextSeries → List String
  | .next_funding_ts => snapshot.next_funding_ts
  | .vol_regime => snapshot.vol_regime
  | .regime_id => snapshot.regime_id

/-! ## `clone_snapshot` -/

/-- The keyword arguments of `clone_snapshot`; `none` keeps the snapshot's own. For
the quality report that is `_MISSING`, and `some none` is a passed `None`. -/
structure SnapshotUpdates (K : Type) where
  candles : Option (List (Candle K)) := none
  funding_rates : Option (List K) := none
  open_interest : Option (List K) := none
  liquidation_notional : Option (List K) := none
  mark_price : Option (List K) := none
  index_price : Option (List K) := none
  next_funding_ts : Option (List String) := none
  open_interest_usd : Option (List K) := none
  basis_bps : Option (List K) := none
  liq_long_usd : Option (List K) := none
  liq_short_usd : Option (List K) := none
  spread_bps : Option (List K) := none
  depth_bid_1bp_usd : Option (List K) := none
  depth_ask_1bp_usd : Option (List K) := none
  latency_proxy_ms : Option (List K) := none
  ret_1 : Option (List K) := none
  ret_24 : Option (List K) := none
  rv_24h : Option (List K) := none
  funding_z : Option (List K) := none
  d_oi : Option (List K) := none
  d_oi_z : Option (List K) := none
  liq_intensity_z : Option (List K) := none
  vol_regime : Option (List String) := none
  regime_id : Option (List String) := none
  regime_probabilities : Option (List (JsonObject K)) := none
  quality_flags : Option (List String) := none
  provenance_updates : JsonObject K := []
  quality_report : Option (Option (SnapshotQualityReport K)) := none

/-- The quality report under the derived snapshot's id. -/
def derived_quality_report (snapshot : DataSnapshot K) (snapshot_id : String)
    (report : SnapshotQualityReport K) : SnapshotQualityReport K :=
  if report.snapshot_id ≠ snapshot_id then
    { report with
      report_id := report.report_id ++ ":" ++ snapshot_id
      snapshot_id := snapshot_id
      source_checks := report.source_checks.set_default "derived_from_snapshot_id"
        (.str snapshot.snapshot_id) }
  else report

/-- `clone_snapshot`. -/
def clone_snapshot (snapshot : DataSnapshot K) (snapshot_id : String)
    (updates : SnapshotUpdates K) : DataSnapshot K :=
  let provenance :=
    if snapshot_id ≠ snapshot.snapshot_id then
      snapshot.provenance.set_default "derived_from_snapshot_id" (.str snapshot.snapshot_id)
    else snapshot.provenance
  { snapshot_id := snapshot_id
    symbol := snapshot.symbol
    venue := snapshot.venue
    timeframe := snapshot.timeframe
    contract_type := snapshot.contract_type
    candles := updates.candles.getD snapshot.candles
    funding_rates := updates.funding_rates.getD snapshot.funding_rates
    open_interest := updates.open_interest.getD snapshot.open_interest
    liquidation_notional := updates.liquidation_notional.getD snapshot.liquidation_notional
    mark_price := updates.mark_price.getD snapshot.mark_price
    index_price := updates.index_price.getD snapshot.index_price
    next_funding_ts := updates.next_funding_ts.getD snapshot.next_funding_ts
    open_interest_usd := updates.open_interest_usd.getD snapshot.open_interest_usd
    basis_bps := updates.basis_bps.getD snapshot.basis_bps
    liq_long_usd := updates.liq_long_usd.getD snapshot.liq_long_usd
    liq_short_usd := updates.liq_short_usd.getD snapshot.liq_short_usd
    maker_fee_bps := snapshot.maker_fee_bps
    taker_fee_bps := snapshot.taker_fee_bps
    spread_bps := updates.spread_bps.getD snapshot.spread_bps
    depth_bid_1bp_usd := updates.depth_bid_1bp_usd.getD snapshot.depth_bid_1bp_usd
    depth_ask_1bp_usd := updates.depth_ask_1bp_usd.getD snapshot.depth_ask_1bp_usd
    latency_proxy_ms := updates.latency_proxy_ms.getD snapshot.latency_proxy_ms
    ret_1 := updates.ret_1.getD snapshot.ret_1
    ret_24 := updates.ret_24.getD snapshot.ret_24
    rv_24h := updates.rv_24h.getD snapshot.rv_24h
    funding_z := updates.funding_z.getD snapshot.funding_z
    d_oi := updates.d_oi.getD snapshot.d_oi
    d_oi_z := updates.d_oi_z.getD snapshot.d_oi_z
    liq_intensity_z := updates.liq_intensity_z.getD snapshot.liq_intensity_z
    vol_regime := updates.vol_regime.getD snapshot.vol_regime
    regime_id := updates.regime_id.getD snapshot.regime_id
    regime_probabilities := updates.regime_probabilities.getD snapshot.regime_probabilities
    quality_flags := updates.quality_flags.getD snapshot.quality_flags
    venue_profile := snapshot.venue_profile
    quality_report :=
      (updates.quality_report.getD snapshot.quality_report).map
        (derived_quality_report snapshot snapshot_id)
    provenance := provenance.update updates.provenance_updates }

end ProofAlpha.Data

/-!
The part of a market snapshot the simulators read.

`DataSnapshot.simulated` keeps the fields `simulate_strategy` takes from a
snapshot and reads the dicts among them (`provenance["microstructure"]`, the
items of the two schedules) at the keys it uses. A value there is a number or a
list of numbers, as the source types it; any other value counts as absent.
-/

namespace ProofAlpha.Data

open ProofAlpha.Lib

variable {K : Type} [Field K] [LinearOrder K]

/-- `float(value)` of a decoded number. -/
def number_of : JsonValue K → Option K
  | .int n => some n
  | .float x => some x
  | _ => none

/-- The entries of a decoded list of numbers. -/
def numbers_of : JsonValue K → List K
  | .list items => items.filterMap number_of
  | _ => []

/-- An item of `maintenance_margin_schedule`. -/
def maintenance_item (item : JsonObject K) : Backtest.MaintenanceItem K where
  max_leverage := number_of (item.get "max_leverage")
  max_notional := number_of (item.get "max_notional")
  maintenance_margin_ratio := number_of (item.get "maintenance_margin_ratio")
  liquidation_step_schedule := numbers_of (item.get "liquidation_step_schedule")
  partial_liquidation_ratio := number_of (item.get "partial_liquidation_ratio")

/-- An item of `liquidation_fee_schedule`. -/
def fee_item (item : JsonObject K) : Backtest.FeeItem K where
  max_leverage := number_of (item.get "max_leverage")
  max_notional := number_of (item.get "max_notional")
  liquidation_fee_bps := number_of (item.get "liquidation_fee_bps")

def VenueProfile.simulated (profile : VenueProfile K) : Backtest.VenueProfile K where
  maintenance_margin_schedule := profile.maintenance_margin_schedule.map maintenance_item
  liquidation_fee_schedule := profile.liquidation_fee_schedule.map fee_item
  liquidation_style := profile.liquidation_style
  partial_liquidation_ratio := profile.partial_liquidation_ratio
  liquidation_cooldown_bars := profile.liquidation_cooldown_bars
  liquidation_mark_price_weight := profile.liquidation_mark_price_weight
  liquidation_mark_premium_bps := profile.liquidation_mark_premium_bps

def Candle.simulated (candle : Candle K) : Backtest.Candle K where
  timestamp := candle.timestamp
  high := candle.high
  low := candle.low
  close := candle.close

/-- `provenance.get("microstructure")` when it is a dict. -/
def provenance_microstructure (provenance : JsonObject K) : Option (Backtest.Microstructure K) :=
  match provenance.get "microstructure" with
  | .dict micro =>
      some
        { spread_bps := numbers_of (JsonObject.get micro "spread_bps")
          depth_bid_1bp_usd := numbers_of (JsonObject.get micro "depth_bid_1bp_usd")
          depth_ask_1bp_usd := numbers_of (JsonObject.get micro "depth_ask_1bp_usd")
          latency_proxy_ms := numbers_of (JsonObject.get micro "latency_proxy_ms") }
  | _ => none

/-- What `simulate_strategy` reads of a snapshot. -/
def DataSnapshot.simulated (snapshot : DataSnapshot K) : Backtest.DataSnapshot K where
  venue := snapshot.venue
  timeframe := snapshot.timeframe
  candles := snapshot.candles.map Candle.simulated
  funding_rates := snapshot.funding_rates
  open_interest := snapshot.open_interest
  liquidation_notional := snapshot.liquidation_notional
  taker_fee_bps := snapshot.taker_fee_bps
  spread_bps := snapshot.spread_bps
  depth_bid_1bp_usd := snapshot.depth_bid_1bp_usd
  depth_ask_1bp_usd := snapshot.depth_ask_1bp_usd
  latency_proxy_ms := snapshot.latency_proxy_ms
  venue_profile := snapshot.venue_profile.map VenueProfile.simulated
  provenance_microstructure := provenance_microstructure snapshot.provenance

end ProofAlpha.Data
