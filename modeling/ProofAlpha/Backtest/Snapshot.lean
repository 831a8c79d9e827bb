/-
The market snapshot a backtest reads, its deterministic regime labels
(`validation/regimes.py`, `label_snapshot_regimes`) and its funding-settlement
counts (`backtest/simulator.py`, `_compute_funding_event_counts`).

A timestamp is a number of microseconds since the Unix epoch in UTC. Only the
fields the simulators read are kept.
-/
import ProofAlpha.Lib.PyList
import ProofAlpha.Lib.PyText
import ProofAlpha.Backtest.MarketImpact

set_option autoImplicit false

namespace ProofAlpha.Backtest

open ProofAlpha.Lib ProofAlpha.Lib.PyList

variable {K : Type} [Field K] [LinearOrder K]

/-! ## The data model -/

/-- `Candle`. -/
structure Candle (K : Type) where
  timestamp : ℤ
  high : K
  low : K
  close : K

/-- The candle read past either end; its fields are the defaults of the series
taken from a candle list. -/
def Candle.missing : Candle K := ⟨0, 0, 0, 0⟩

/-- A `maintenance_margin_schedule` item as a dict: an absent key is `none`, an
absent step schedule the empty list. -/
structure MaintenanceItem (K : Type) where
  max_leverage : Option K
  max_notional : Option K
  maintenance_margin_ratio : Option K
  liquidation_step_schedule : List K
  partial_liquidation_ratio : Option K

/-- A `liquidation_fee_schedule` item as a dict. -/
structure FeeItem (K : Type) where
  max_leverage : Option K
  max_notional : Option K
  liquidation_fee_bps : Option K

/-- `VenueProfile`. -/
structure VenueProfile (K : Type) where
  maintenance_margin_schedule : List (MaintenanceItem K)
  liquidation_fee_schedule : List (FeeItem K)
  liquidation_style : String
  partial_liquidation_ratio : K
  liquidation_cooldown_bars : ℤ
  liquidation_mark_price_weight : K
  liquidation_mark_premium_bps : K

/-- The four microstructure series the realistic slippage model needs. -/
structure Microstructure (K : Type) where
  spread_bps : List K
  depth_bid_1bp_usd : List K
  depth_ask_1bp_usd : List K
  latency_proxy_ms : List K

/-- `DataSnapshot`. `provenance_microstructure` is `provenance["microstructure"]`
when it is a dict, a key whose value is not a list being the empty list. -/
structure DataSnapshot (K : Type) where
  venue : String
  timeframe : String
  candles : List (Candle K)
  funding_rates : List K
  open_interest : List K
  liquidation_notional : List K
  taker_fee_bps : K
  spread_bps : List K
  depth_bid_1bp_usd : List K
  depth_ask_1bp_usd : List K
  latency_proxy_ms : List K
  venue_profile : Option (VenueProfile K)
  provenance_microstructure : Option (Microstructure K)

/-- `[float(c.close) for c in candles]`. -/
def DataSnapshot.closes (snapshot : DataSnapshot K) : List K := snapshot.candles.map Candle.close

/-- The microstructure dict when all four lists are non-empty, each cut or padded
to `length`. -/
def normalize_microstructure (micro : Microstructure K) (length : ℕ) :
    Option (Microstructure K) :=
  if micro.spread_bps.isEmpty || micro.depth_bid_1bp_usd.isEmpty
      || micro.depth_ask_1bp_usd.isEmpty || micro.latency_proxy_ms.isEmpty then none
  else
    some
      { spread_bps := normalize_series micro.spread_bps length 0
        depth_bid_1bp_usd := normalize_series micro.depth_bid_1bp_usd length 0
        depth_ask_1bp_usd := normalize_series micro.depth_ask_1bp_usd length 0
        latency_proxy_ms := normalize_series micro.latency_proxy_ms length 0 }

/-- `_load_microstructure_series`: the typed fields, else the provenance dict. -/
def load_microstructure_series (snapshot : DataSnapshot K) (length : ℕ) :
    Option (Microstructure K) :=
  let typed : Microstructure K :=
    ⟨snapshot.spread_bps, snapshot.depth_bid_1bp_usd, snapshot.depth_ask_1bp_usd,
      snapshot.latency_proxy_ms⟩
  (normalize_microstructure typed length).or
    (snapshot.provenance_microstructure.bind fun micro => normalize_microstructure micro length)

/-! ## Regime labels -/

/-- `statistics.median` of a non-empty list. -/
def median (values : List K) : K :=
  let sorted_values := values.insertionSort (· ≤ ·)
  let n := values.length
  if n % 2 = 1 then sorted_values.getD (n / 2) 0
  else (sorted_values.getD (n / 2 - 1) 0 + sorted_values.getD (n / 2) 0) / 2

/-- `liquidation_baseline`: the median positive value of the whole series. -/
def liquidation_baseline (liquidation_notional : List K) : K :=
  let positive := liquidation_notional.filter fun value => decide (0 < value)
  median (if positive.isEmpty then [1] else positive)

/-- The label of bar `index`, the branches in the source's order. -/
def regime_label_at (closes funding_rates open_interest liquidation_notional : List K)
    (baseline : K) (index : ℕ) : RegimeLabel :=
  let close := closes.getD index 0
  let previous_close := if 0 < index then closes.getD (index - 1) 0 else close
  let lookback_close := closes.getD (index - 4) 0
  let short_return := if lookback_close = 0 then 0 else close / lookback_close - 1
  let one_bar_return := if previous_close = 0 then 0 else close / previous_close - 1
  let price_slope := close - lookback_close
  let running_peak := (closes.take (index + 1)).foldl max (closes.getD 0 0)
  let drawdown := if running_peak = 0 then 0 else close / running_peak - 1
  let funding := funding_rates.getD index 0
  let liquidation_ratio := liquidation_notional.getD index 0 / max 1 baseline
  let previous_open_interest :=
    if 0 < index then open_interest.getD (index - 1) 0 else open_interest.getD index 0
  let open_interest_change :=
    if previous_open_interest = 0 then 0
    else |open_interest.getD index 0 / previous_open_interest - 1|
  if one_bar_return ≤ -0.09 ∨ (drawdown ≤ -0.18 ∧ one_bar_return ≤ 0) then .crash
  else if 0.07 ≤ one_bar_return ∧ 0.01 ≤ funding ∧ 2 ≤ liquidation_ratio then .short_squeeze
  else if 0.015 ≤ |funding| ∨ 0.12 ≤ open_interest_change ∨ 2.5 ≤ liquidation_ratio then
    .liquidity_stress
  else if 0.04 ≤ short_return ∧ 0 < price_slope then .bull
  else if short_return ≤ -0.04 ∧ price_slope < 0 ∧ drawdown ≤ -0.03 then .bear
  else .sideways

def label_snapshot_regimes (snapshot : DataSnapshot K) : List RegimeLabel :=
  let closes := snapshot.closes
  let funding_rates := normalize_series snapshot.funding_rates closes.length 0
  let open_interest := normalize_series snapshot.open_interest closes.length 0
  let liquidation_notional := normalize_series snapshot.liquidation_notional closes.length 0
  let baseline := liquidation_baseline liquidation_notional
  (List.range closes.length).map
    (regime_label_at closes funding_rates open_interest liquidation_notional baseline)

/-! ## Funding settlements -/

/-- Microseconds in an hour and in a day. -/
def hour_us : ℤ := 3600000000

def day_us : ℤ := 86400000000

/-- `_FUNDING_SETTLEMENT_HOURS_BY_VENUE.get(venue.lower().strip())`. -/
def funding_settlement_hours (venue : String) : Option (List ℤ) :=
  let name := pyStrip (pyLower venue)
  if name = "binance" ∨ name = "bybit" ∨ name = "okx" then some [0, 8, 16] else none

/-- `_count_funding_events_between`: the settlement instants of the days from the
first timestamp's to the second's that lie after the first and not after the
second. -/
def count_funding_events_between (previous_timestamp current_timestamp : ℤ)
    (settlement_hours : List ℤ) : ℕ :=
  if current_timestamp ≤ previous_timestamp then 0
  else
    let day := previous_timestamp / day_us
    let final_day := current_timestamp / day_us
    let settlements := (List.range (final_day - day + 1).toNat).flatMap fun d =>
      settlement_hours.map fun hour => (day + (d : ℤ)) * day_us + hour * hour_us
    settlements.countP fun settlement =>
      decide (previous_timestamp < settlement ∧ settlement ≤ current_timestamp)

/-- The settlements charged on bar `index`. -/
def funding_event_count_at (candles : List (Candle K)) (venue : String) (index : ℕ) : ℕ :=
  match funding_settlement_hours venue with
  | none => 1
  | some settlement_hours =>
      if index = 0 then 0
      else
        count_funding_events_between (candles.getD (index - 1) Candle.missing).timestamp
          (candles.getD index Candle.missing).timestamp settlement_hours

/-- `_compute_funding_event_counts`. -/
def compute_funding_event_counts (candles : List (Candle K)) (venue : String) : List ℤ :=
  (List.range candles.length).map fun index => (funding_event_count_at candles venue index : ℤ)

end ProofAlpha.Backtest
