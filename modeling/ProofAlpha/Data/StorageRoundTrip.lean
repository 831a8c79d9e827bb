/-
What comes back from the snapshot store.

`stored_form` is the snapshot the store hands back: every series as it was, an
absent one filled with the writer's default for it, the venue profile without its
own fees. `load_store_snapshot` proves it of every valid snapshot and every store
the snapshot is written to.
-/
import ProofAlpha.Lib.PyList
import ProofAlpha.Data.Storage
import ProofAlpha.Data.Validate

set_option autoImplicit false

namespace ProofAlpha.Data

open ProofAlpha.Lib

variable {K : Type} [Field K]

/-! ## The stored form -/

/-- A series as the store hands it back: an absent one is its defaults. -/
def filled {α : Type} (values defaults : List α) : List α :=
  if values.isEmpty then defaults else values

/-- The profile as the store hands it back. -/
def stored_profile (profile : VenueProfile K) : VenueProfile K :=
  { profile with maker_fee_bps := none, taker_fee_bps := none, fee_schedule_source := none }

/-- The snapshot as the store hands it back. -/
def stored_form (isoformat : ℤ → String) (snapshot : DataSnapshot K) : DataSnapshot K :=
  let closes := snapshot.candles.map Candle.close
  let zeros := snapshot.candles.map fun _ => (0 : K)
  let blanks := snapshot.candles.map fun _ => ""
  { snapshot with
    mark_price := filled snapshot.mark_price closes
    index_price := filled snapshot.index_price closes
    next_funding_ts := filled snapshot.next_funding_ts
      (snapshot.candles.map fun candle => isoformat candle.timestamp)
    open_interest_usd := filled snapshot.open_interest_usd zeros
    basis_bps := filled snapshot.basis_bps zeros
    liq_long_usd := filled snapshot.liq_long_usd zeros
    liq_short_usd := filled snapshot.liq_short_usd zeros
    spread_bps := filled snapshot.spread_bps zeros
    depth_bid_1bp_usd := filled snapshot.depth_bid_1bp_usd zeros
    depth_ask_1bp_usd := filled snapshot.depth_ask_1bp_usd zeros
    latency_proxy_ms := filled snapshot.latency_proxy_ms zeros
    ret_1 := filled snapshot.ret_1 zeros
    ret_24 := filled snapshot.ret_24 zeros
    rv_24h := filled snapshot.rv_24h zeros
    funding_z := filled snapshot.funding_z zeros
    d_oi := filled snapshot.d_oi zeros
    d_oi_z := filled snapshot.d_oi_z zeros
    liq_intensity_z := filled snapshot.liq_intensity_z zeros
    vol_regime := filled snapshot.vol_regime blanks
    regime_id := filled snapshot.regime_id blanks
    regime_probabilities := filled snapshot.regime_probabilities
      (snapshot.candles.map fun _ => [("unassigned", .float 1)])
    venue_profile := snapshot.venue_profile.map stored_profile }

/-! ## Rows and columns -/

/-- The row of one candle of a valid snapshot. -/
def stored_row (isoformat : ℤ → String) (snapshot : DataSnapshot K) (candle : Candle K)
    (index : ℕ) : SnapshotRow K where
  snapshot_id := snapshot.snapshot_id
  symbol := snapshot.symbol
  venue := snapshot.venue
  timeframe := snapshot.timeframe
  contract_type := snapshot.contract_type
  ts := candle.timestamp
  open_ := candle.open_
  high := candle.high
  low := candle.low
  close := candle.close
  volume := candle.volume
  trade_count := candle.trade_count
  funding_rate := snapshot.funding_rates.getD index 0
  open_interest := snapshot.open_interest.getD index 0
  liquidation_notional := snapshot.liquidation_notional.getD index 0
  mark_price := snapshot.mark_price.getD index candle.close
  index_price := snapshot.index_price.getD index candle.close
  next_funding_ts := snapshot.next_funding_ts.getD index (isoformat candle.timestamp)
  open_interest_usd := snapshot.open_interest_usd.getD index 0
  basis_bps := snapshot.basis_bps.getD index 0
  liq_long_usd := snapshot.liq_long_usd.getD index 0
  liq_short_usd := snapshot.liq_short_usd.getD index 0
  spread_bps := snapshot.spread_bps.getD index 0
  depth_bid_1bp_usd := snapshot.depth_bid_1bp_usd.getD index 0
  depth_ask_1bp_usd := snapshot.depth_ask_1bp_usd.getD index 0
  latency_proxy_ms := snapshot.latency_proxy_ms.getD index 0
  ret_1 := snapshot.ret_1.getD index 0
  ret_24 := snapshot.ret_24.getD index 0
  rv_24h := snapshot.rv_24h.getD index 0
  funding_z := snapshot.funding_z.getD index 0
  d_oi := snapshot.d_oi.getD index 0
  d_oi_z := snapshot.d_oi_z.getD index 0
  liq_intensity_z := snapshot.liq_intensity_z.getD index 0
  vol_regime := snapshot.vol_regime.getD index ""
  regime_id := snapshot.regime_id.getD index ""
  regime_probabilities_json :=
    snapshot.regime_probabilities.getD index [("unassigned", .float 1)]

theorem entry_at_eq_ok {α : Type} {values : List α} {index : ℕ} (h : index < values.length)
    (default : α) : entry_at values index = .ok (values.getD index default) := by
  rw [entry_at, List.getD_eq_getElem _ _ h, List.getElem?_eq_getElem h]

theorem entry_or_eq_ok {α : Type} {values : List α} {bars index : ℕ} (hfilled : Filled bars values)
    (h : index < bars) (default : α) :
    entry_or values index default = .ok (values.getD index default) := by
  unfold entry_or
  rcases hfilled with hnil | hlength
  · rw [hnil]
    rfl
  · have hne : values.isEmpty = false := by
      rw [List.isEmpty_eq_false_iff, ← List.length_pos_iff]
      omega
    rw [hne]
    exact entry_at_eq_ok (by omega) default

/-- The rows of a valid snapshot. -/
def stored_rows (isoformat : ℤ → String) (snapshot : DataSnapshot K) : List (SnapshotRow K) :=
  snapshot.candles.zipIdx.map fun pair => stored_row isoformat snapshot pair.1 pair.2

/-- A column that depends on the candle alone. -/
theorem column_eq_map {α : Type} (isoformat : ℤ → String) (snapshot : DataSnapshot K)
    (column : SnapshotRow K → α) (read : Candle K → α)
    (hread : ∀ candle index, column (stored_row isoformat snapshot candle index) = read candle) :
    (stored_rows isoformat snapshot).map column = snapshot.candles.map read := by
  rw [stored_rows, List.map_map]
  refine Eq.trans ?_ (PyList.zipIdx_map_left read snapshot.candles)
  apply List.map_congr_left
  intro pair _
  exact hread pair.1 pair.2

/-- A column read back: the series, or its defaults where it was absent. -/
theorem column_eq_filled {α : Type} (isoformat : ℤ → String) {snapshot : DataSnapshot K}
    {values : List α} (hfilled : Filled snapshot.candles.length values)
    (column : SnapshotRow K → α) (default : Candle K → α)
    (hread : ∀ candle index, column (stored_row isoformat snapshot candle index)
      = values.getD index (default candle)) :
    (stored_rows isoformat snapshot).map column
      = filled values (snapshot.candles.map default) := by
  rcases hfilled with hnil | hlength
  · rw [filled, hnil]
    apply column_eq_map
    intro candle index
    rw [hread, hnil]
    rfl
  · have hcolumn : (stored_rows isoformat snapshot).map column = values := by
      rw [stored_rows, List.map_map]
      refine Eq.trans ?_ (PyList.zipIdx_map_getD hlength default)
      apply List.map_congr_left
      intro pair _
      exact hread pair.1 pair.2
    rw [hcolumn, filled]
    by_cases hempty : values.isEmpty = true
    · have hnil := List.isEmpty_iff.mp hempty
      rw [hnil] at hlength ⊢
      rw [List.length_eq_zero_iff.mp hlength.symm]
      rfl
    · rw [if_neg hempty]

/-- A column of a series with one entry per candle. -/
theorem column_eq_self {α : Type} (isoformat : ℤ → String) {snapshot : DataSnapshot K}
    {values : List α} (hlength : values.length = snapshot.candles.length)
    (column : SnapshotRow K → α) (default : α)
    (hread : ∀ candle index, column (stored_row isoformat snapshot candle index)
      = values.getD index default) :
    (stored_rows isoformat snapshot).map column = values := by
  rw [stored_rows, List.map_map]
  refine Eq.trans ?_ (PyList.zipIdx_map_getD hlength fun _ => default)
  apply List.map_congr_left
  intro pair _
  exact hread pair.1 pair.2

/-! ## The round trip -/

variable [LinearOrder K]

/-- A row of a valid snapshot is written without an error. -/
theorem snapshot_row_eq_ok {snapshot : DataSnapshot K} (isoformat : ℤ → String)
    (h : Valid snapshot) (candle : Candle K) {index : ℕ} (hindex : index < snapshot.candles.length) :
    snapshot_row isoformat snapshot candle index
      = .ok (stored_row isoformat snapshot candle index) := by
  have hzero : ∀ values : List K, Filled snapshot.candles.length values →
      entry_or values index 0 = .ok (values.getD index 0) :=
    fun _ hfilled => entry_or_eq_ok hfilled hindex 0
  have hprice : ∀ values : List K, Filled snapshot.candles.length values →
      entry_or values index candle.close = .ok (values.getD index candle.close) :=
    fun _ hfilled => entry_or_eq_ok hfilled hindex candle.close
  have htext : ∀ (values : List String) (default : String),
      Filled snapshot.candles.length values →
      entry_or values index default = .ok (values.getD index default) :=
    fun _ default hfilled => entry_or_eq_ok hfilled hindex default
  unfold snapshot_row
  simp only [entry_at_eq_ok (h.funding_rates.symm ▸ hindex) 0,
    entry_at_eq_ok (h.open_interest.symm ▸ hindex) 0,
    entry_at_eq_ok (h.liquidation_notional.symm ▸ hindex) 0,
    hprice snapshot.mark_price (h.number .mark_price), hprice snapshot.index_price (h.number .index_price),
    htext snapshot.next_funding_ts _ (h.text .next_funding_ts),
    hzero snapshot.open_interest_usd (h.number .open_interest_usd),
    hzero snapshot.basis_bps (h.number .basis_bps),
    hzero snapshot.liq_long_usd (h.number .liq_long_usd),
    hzero snapshot.liq_short_usd (h.number .liq_short_usd),
    hzero snapshot.spread_bps (h.number .spread_bps),
    hzero snapshot.depth_bid_1bp_usd (h.number .depth_bid_1bp_usd),
    hzero snapshot.depth_ask_1bp_usd (h.number .depth_ask_1bp_usd),
    hzero snapshot.latency_proxy_ms (h.number .latency_proxy_ms),
    hzero snapshot.ret_1 (h.number .ret_1),
    hzero snapshot.ret_24 (h.number .ret_24),
    hzero snapshot.rv_24h (h.number .rv_24h),
    hzero snapshot.funding_z (h.number .funding_z),
    hzero snapshot.d_oi (h.number .d_oi),
    hzero snapshot.d_oi_z (h.number .d_oi_z),
    hzero snapshot.liq_intensity_z (h.number .liq_intensity_z),
    htext snapshot.vol_regime _ (h.text .vol_regime),
    htext snapshot.regime_id _ (h.text .regime_id),
    entry_or_eq_ok h.regime_probabilities hindex, ok_bind]
  rfl

theorem snapshot_rows_eq_ok {snapshot : DataSnapshot K} (isoformat : ℤ → String)
    (h : Valid snapshot) :
    snapshot_rows isoformat snapshot
      = .ok (snapshot.candles.zipIdx.map fun pair =>
          stored_row isoformat snapshot pair.1 pair.2) := by
  apply mapM_eq_ok_map
  intro pair hpair
  have hindex := List.snd_lt_of_mem_zipIdx hpair
  exact snapshot_row_eq_ok isoformat h pair.1 (by simpa using hindex)

/-- The rows of a valid snapshot are in the order of their timestamps. -/
theorem sorted_rows {snapshot : DataSnapshot K} (isoformat : ℤ → String) (h : Valid snapshot) :
    ((stored_rows isoformat snapshot).insertionSort fun a b => a.ts ≤ b.ts)
      = stored_rows isoformat snapshot := by
  apply List.Pairwise.insertionSort_eq
  rw [stored_rows, List.pairwise_map]
  have hincreasing := h.increasing
  rw [← PyList.zipIdx_map_left Candle.timestamp, List.pairwise_map] at hincreasing
  exact hincreasing.imp fun hlt => le_of_lt hlt

/-- A valid snapshot comes back from the store in its stored form, whatever the
store held before. -/
theorem load_store_snapshot (isoformat : ℤ → String) (root : String) (store : SnapshotStore K)
    {snapshot : DataSnapshot K} (h : Valid snapshot) :
    (store_snapshot isoformat root snapshot store >>= load_snapshot root snapshot.snapshot_id)
      = .ok (stored_form isoformat snapshot) := by
  have hrows : snapshot_rows isoformat snapshot = .ok (stored_rows isoformat snapshot) :=
    snapshot_rows_eq_ok isoformat h
  have hcandles := column_eq_map isoformat snapshot row_candle id fun _ _ => rfl
  have hfunding := column_eq_self isoformat h.funding_rates SnapshotRow.funding_rate 0
    fun _ _ => rfl
  have hopen := column_eq_self isoformat h.open_interest SnapshotRow.open_interest 0
    fun _ _ => rfl
  have hliquidation := column_eq_self isoformat h.liquidation_notional
    SnapshotRow.liquidation_notional 0 fun _ _ => rfl
  have hregimes := column_eq_filled isoformat h.regime_probabilities
    SnapshotRow.regime_probabilities_json (fun _ => [("unassigned", .float 1)]) fun _ _ => rfl
  have hnumber := fun series => column_eq_filled isoformat (h.number series)
  have htext := fun series => column_eq_filled isoformat (h.text series)
  have hprofile : (snapshot.venue_profile.map serialize_venue_profile).map deserialize_venue_profile
      = snapshot.venue_profile.map stored_profile := by
    rw [Option.map_map]
    rfl
  have hreport : (snapshot.quality_report.map serialize_quality_report).map
      deserialize_quality_report = snapshot.quality_report := by
    rw [Option.map_map]
    exact Option.map_id'
  unfold store_snapshot load_snapshot
  simp only [hrows, ok_bind, pure_bind, AList.lookup_insert, sorted_rows isoformat h, hcandles,
    hfunding, hopen, hliquidation, hregimes, hprofile, hreport, List.map_id,
    hnumber .mark_price SnapshotRow.mark_price Candle.close fun _ _ => rfl,
    hnumber .index_price SnapshotRow.index_price Candle.close fun _ _ => rfl,
    htext .next_funding_ts SnapshotRow.next_funding_ts
      (fun candle => isoformat candle.timestamp) fun _ _ => rfl,
    hnumber .open_interest_usd SnapshotRow.open_interest_usd (fun _ => 0) fun _ _ => rfl,
    hnumber .basis_bps SnapshotRow.basis_bps (fun _ => 0) fun _ _ => rfl,
    hnumber .liq_long_usd SnapshotRow.liq_long_usd (fun _ => 0) fun _ _ => rfl,
    hnumber .liq_short_usd SnapshotRow.liq_short_usd (fun _ => 0) fun _ _ => rfl,
    hnumber .spread_bps SnapshotRow.spread_bps (fun _ => 0) fun _ _ => rfl,
    hnumber .depth_bid_1bp_usd SnapshotRow.depth_bid_1bp_usd (fun _ => 0) fun _ _ => rfl,
    hnumber .depth_ask_1bp_usd SnapshotRow.depth_ask_1bp_usd (fun _ => 0) fun _ _ => rfl,
    hnumber .latency_proxy_ms SnapshotRow.latency_proxy_ms (fun _ => 0) fun _ _ => rfl,
    hnumber .ret_1 SnapshotRow.ret_1 (fun _ => 0) fun _ _ => rfl,
    hnumber .ret_24 SnapshotRow.ret_24 (fun _ => 0) fun _ _ => rfl,
    hnumber .rv_24h SnapshotRow.rv_24h (fun _ => 0) fun _ _ => rfl,
    hnumber .funding_z SnapshotRow.funding_z (fun _ => 0) fun _ _ => rfl,
    hnumber .d_oi SnapshotRow.d_oi (fun _ => 0) fun _ _ => rfl,
    hnumber .d_oi_z SnapshotRow.d_oi_z (fun _ => 0) fun _ _ => rfl,
    hnumber .liq_intensity_z SnapshotRow.liq_intensity_z (fun _ => 0) fun _ _ => rfl,
    htext .vol_regime SnapshotRow.vol_regime (fun _ => "") fun _ _ => rfl,
    htext .regime_id SnapshotRow.regime_id (fun _ => "") fun _ _ => rfl]
  rfl

end ProofAlpha.Data
