/-
The windows of a study's snapshot: `validation/splits.py`, `build_split_pack`, with
`slice_snapshot` of `data/snapshots.py`.

The windows are sixty, twenty and the remaining percent of the bars, cut where the window
before ends. `slice_snapshot` cuts every per-bar series to the bars of its candles, so the
slices put together are the series again. The regime analysis of the pack is read by none of
the modelled functions.
-/
import ProofAlpha.App.Evaluation
import ProofAlpha.Lib.Checks

set_option autoImplicit false

namespace ProofAlpha.App

open ProofAlpha.Lib
open ProofAlpha.Data (DataSnapshot NumberSeries TextSeries clone_snapshot)

variable {K : Type}

/-- `items[start_index:end_index]` for indices that are not negative. -/
def slice_items {α : Type} (items : List α) (start_index end_index : ℕ) : List α :=
  (items.take end_index).drop start_index

/-- `slice_snapshot`. -/
def slice_snapshot (snapshot : DataSnapshot K) (start_index end_index : ℕ)
    (snapshot_id_suffix : String) : DataSnapshot K :=
  let part {α : Type} (items : List α) : Option (List α) :=
    some (slice_items items start_index end_index)
  clone_snapshot snapshot (snapshot.snapshot_id ++ ":" ++ snapshot_id_suffix)
    { candles := part snapshot.candles
      funding_rates := part snapshot.funding_rates
      open_interest := part snapshot.open_interest
      liquidation_notional := part snapshot.liquidation_notional
      mark_price := part snapshot.mark_price
      index_price := part snapshot.index_price
      next_funding_ts := part snapshot.next_funding_ts
      open_interest_usd := part snapshot.open_interest_usd
      basis_bps := part snapshot.basis_bps
      liq_long_usd := part snapshot.liq_long_usd
      liq_short_usd := part snapshot.liq_short_usd
      spread_bps := part snapshot.spread_bps
      depth_bid_1bp_usd := part snapshot.depth_bid_1bp_usd
      depth_ask_1bp_usd := part snapshot.depth_ask_1bp_usd
      latency_proxy_ms := part snapshot.latency_proxy_ms
      ret_1 := part snapshot.ret_1
      ret_24 := part snapshot.ret_24
      rv_24h := part snapshot.rv_24h
      funding_z := part snapshot.funding_z
      d_oi := part snapshot.d_oi
      d_oi_z := part snapshot.d_oi_z
      liq_intensity_z := part snapshot.liq_intensity_z
      vol_regime := part snapshot.vol_regime
      regime_id := part snapshot.regime_id
      regime_probabilities := part snapshot.regime_probabilities
      provenance_updates :=
        [("transformation", .str "slice"), ("start_index", .int start_index),
          ("end_index", .int end_index)] }

/-- A slice has the market data that is not per bar from its snapshot. -/
theorem slice_snapshot_frame (snapshot : DataSnapshot K) (start_index end_index : ℕ)
    (snapshot_id_suffix : String) :
    let slice := slice_snapshot snapshot start_index end_index snapshot_id_suffix
    slice.venue = snapshot.venue ∧ slice.timeframe = snapshot.timeframe
      ∧ slice.taker_fee_bps = snapshot.taker_fee_bps
      ∧ slice.venue_profile = snapshot.venue_profile :=
  ⟨rfl, rfl, rfl, rfl⟩

/-- `assert_candidate_feature_quality`. -/
def assert_candidate_feature_quality (texts : PyTexts K) (snapshot : DataSnapshot K) :
    Except String Unit := do
  match snapshot.provenance.get "feature_quality_report" with
  | .dict report =>
      match JsonObject.get report "passed" with
      | .bool false =>
          .error ("feature quality failed: "
            ++ py_str texts.composite_text (JsonObject.get_or report "issues" (.list [])))
      | _ => .ok ()
  | _ => .ok ()
  match snapshot.provenance.get "feature_quality_status" with
  | .str "failed" => .error "feature quality failed"
  | _ => .ok ()

/-- The windows of `build_split_pack`; the bootstrap source is the in-sample window. -/
structure SplitWindows (K : Type) extends SplitPack K where
  final_holdout : DataSnapshot K

/-- `build_split_pack`: sixty, twenty and twenty percent of the bars. -/
def build_split_pack (texts : PyTexts K) (snapshot : DataSnapshot K) :
    Except String (SplitWindows K) := do
  assert_candidate_feature_quality texts snapshot
  let total := snapshot.candles.length
  require (5 ≤ total) "snapshot must contain at least 5 candles"
  let in_sample_end := total * 60 / 100
  let selection_end := in_sample_end + total * 20 / 100
  return {
    in_sample := slice_snapshot snapshot 0 in_sample_end "in-sample"
    selection_oos := slice_snapshot snapshot in_sample_end selection_end "selection-oos"
    final_holdout := slice_snapshot snapshot selection_end total "final-holdout" }

/-- The windows of a pack are slices of one snapshot. -/
theorem build_split_pack_ok {texts : PyTexts K} {snapshot : DataSnapshot K}
    {split_pack : SplitWindows K} (h : build_split_pack texts snapshot = .ok split_pack) :
    ∃ in_sample_end selection_end,
      split_pack.in_sample = slice_snapshot snapshot 0 in_sample_end "in-sample"
        ∧ split_pack.selection_oos
          = slice_snapshot snapshot in_sample_end selection_end "selection-oos"
        ∧ split_pack.final_holdout
          = slice_snapshot snapshot selection_end snapshot.candles.length "final-holdout" := by
  obtain ⟨-, -, h⟩ := bind_ok h
  obtain ⟨-, h⟩ := require_bind_ok h
  rw [← Except.ok.inj h]
  exact ⟨_, _, rfl, rfl, rfl⟩

/-! ## The windows -/

/-- `SnapshotWindow`. -/
structure SnapshotWindow (K : Type) where
  snapshot : DataSnapshot K
  start_index : ℕ
  end_index : ℕ

/-- The windows of a `SplitPack`. -/
structure PackWindows (K : Type) where
  in_sample : SnapshotWindow K
  selection_oos : SnapshotWindow K
  final_holdout : SnapshotWindow K
  bootstrap_source : SnapshotWindow K

/-- `build_split_pack`, the windows with their bounds. -/
def split_pack_windows (texts : PyTexts K) (snapshot : DataSnapshot K) :
    Except String (PackWindows K) := do
  let split_pack ← build_split_pack texts snapshot
  let total := snapshot.candles.length
  let in_sample_end := total * 60 / 100
  let selection_end := in_sample_end + total * 20 / 100
  return {
    in_sample := ⟨split_pack.in_sample, 0, split_pack.in_sample.candles.length⟩
    selection_oos := ⟨split_pack.selection_oos, in_sample_end, selection_end⟩
    final_holdout := ⟨split_pack.final_holdout, selection_end, total⟩
    bootstrap_source := ⟨split_pack.in_sample, 0, split_pack.in_sample.candles.length⟩ }

/-- The windows that hold the data, in order. -/
def PackWindows.parts (pack : PackWindows K) : List (SnapshotWindow K) :=
  [pack.in_sample, pack.selection_oos, pack.final_holdout]

/-- Every per-bar series of the window's snapshot is that of the whole one between the
window's bounds. -/
structure CutToWindow (snapshot : DataSnapshot K) (window : SnapshotWindow K) : Prop where
  candles : window.snapshot.candles
    = slice_items snapshot.candles window.start_index window.end_index
  number : ∀ series : NumberSeries, window.snapshot.number series
    = slice_items (snapshot.number series) window.start_index window.end_index
  text : ∀ series : TextSeries, window.snapshot.text series
    = slice_items (snapshot.text series) window.start_index window.end_index
  regime_probabilities : window.snapshot.regime_probabilities
    = slice_items snapshot.regime_probabilities window.start_index window.end_index

/-- The windows lie one after the other over all bars, none of them empty; each is cut to
its bounds in every series, and the slices of a series that has no more entries than there
are candles give it back. -/
structure Tiles (snapshot : DataSnapshot K) (pack : PackWindows K) : Prop where
  first : pack.in_sample.start_index = 0
  second : pack.selection_oos.start_index = pack.in_sample.end_index
  third : pack.final_holdout.start_index = pack.selection_oos.end_index
  last : pack.final_holdout.end_index = snapshot.candles.length
  nonempty : ∀ window ∈ pack.parts,
    window.start_index < window.end_index ∧ window.snapshot.candles ≠ []
  once : ∀ i < snapshot.candles.length, ∃! k : ℕ, ∃ window, pack.parts[k]? = some window ∧
    window.start_index ≤ i ∧ i < window.end_index
  cut : ∀ window ∈ pack.parts, CutToWindow snapshot window
  candles : pack.parts.flatMap (fun window => window.snapshot.candles) = snapshot.candles
  number : ∀ series : NumberSeries,
    (snapshot.number series).length ≤ snapshot.candles.length →
    pack.parts.flatMap (fun window => window.snapshot.number series) = snapshot.number series
  text : ∀ series : TextSeries, (snapshot.text series).length ≤ snapshot.candles.length →
    pack.parts.flatMap (fun window => window.snapshot.text series) = snapshot.text series
  regime_probabilities : snapshot.regime_probabilities.length ≤ snapshot.candles.length →
    pack.parts.flatMap (fun window => window.snapshot.regime_probabilities)
      = snapshot.regime_probabilities
  bootstrap : pack.bootstrap_source = pack.in_sample

/-! ## Slices -/

section Slices

variable {α : Type} (items : List α)

theorem length_slice_items {start_index end_index : ℕ} (h : end_index ≤ items.length) :
    (slice_items items start_index end_index).length = end_index - start_index := by
  rw [slice_items, List.length_drop, List.length_take, min_eq_left h]

/-- Slices that follow one another are one slice. -/
theorem slice_items_append {a b c : ℕ} (hab : a ≤ b) (hbc : b ≤ c) :
    slice_items items a b ++ slice_items items b c = slice_items items a c := by
  have hsplit : items.take c = items.take b ++ (items.take c).drop b := by
    conv_lhs => rw [← List.take_append_drop b (items.take c)]
    rw [List.take_take, min_eq_left hbc]
  rw [slice_items, slice_items, slice_items]
  conv_rhs => rw [hsplit, List.drop_append]
  congr 1
  by_cases hlength : b ≤ items.length
  · rw [List.length_take, min_eq_left hlength, Nat.sub_eq_zero_of_le hab, List.drop_zero]
  · have hnil : (items.take c).drop b = [] := by
      rw [List.drop_eq_nil_iff, List.length_take]
      omega
    rw [hnil, List.drop_nil]

/-- Three slices from the first entry to past the last are the list. -/
theorem slice_items_three {a b c : ℕ} (hab : a ≤ b) (hbc : b ≤ c) (hlength : items.length ≤ c) :
    slice_items items 0 a ++ (slice_items items a b ++ slice_items items b c) = items := by
  rw [slice_items_append items hab hbc, slice_items_append items (Nat.zero_le a) (hab.trans hbc),
    slice_items, List.drop_zero, List.take_of_length_le hlength]

end Slices

theorem cutToWindow_slice (snapshot : DataSnapshot K) (start_index end_index : ℕ)
    (snapshot_id_suffix : String) :
    CutToWindow snapshot
      ⟨slice_snapshot snapshot start_index end_index snapshot_id_suffix, start_index,
        end_index⟩ := by
  refine ⟨rfl, ?_, ?_, rfl⟩
  · intro series
    cases series <;> rfl
  · intro series
    cases series <;> rfl

/-! ## The pack -/

/-- A bar lies in the window before the first cut, between the cuts, or after them. -/
theorem existsUnique_part {pack : PackWindows K} {a b total : ℕ}
    {in_sample selection_oos final_holdout : DataSnapshot K}
    (hin_sample : pack.in_sample = ⟨in_sample, 0, a⟩)
    (hselection : pack.selection_oos = ⟨selection_oos, a, b⟩)
    (hholdout : pack.final_holdout = ⟨final_holdout, b, total⟩) (hab : a ≤ b) {i : ℕ}
    (hi : i < total) :
    ∃! k : ℕ, ∃ window, pack.parts[k]? = some window ∧
      window.start_index ≤ i ∧ i < window.end_index := by
  rw [PackWindows.parts, hin_sample, hselection, hholdout]
  have hpart : ∀ k : ℕ, (∃ window : SnapshotWindow K,
      ([⟨in_sample, 0, a⟩, ⟨selection_oos, a, b⟩, ⟨final_holdout, b, total⟩] :
        List (SnapshotWindow K))[k]? = some window ∧
      window.start_index ≤ i ∧ i < window.end_index) ↔
      (k = 0 ∧ i < a) ∨ (k = 1 ∧ a ≤ i ∧ i < b) ∨ (k = 2 ∧ b ≤ i) := by
    intro k
    match k with
    | 0 => simp
    | 1 => simp
    | 2 => simp [hi]
    | k + 3 => simp
  simp only [hpart]
  by_cases ha : i < a
  · exact ⟨0, Or.inl ⟨rfl, ha⟩, fun k hk => by omega⟩
  · by_cases hb : i < b
    · exact ⟨1, Or.inr (Or.inl ⟨rfl, by omega, hb⟩), fun k hk => by omega⟩
    · exact ⟨2, Or.inr (Or.inr ⟨rfl, by omega⟩), fun k hk => by omega⟩

/-- Windows that are slices at two cuts between the ends tile the snapshot. -/
theorem tiles_of_cuts (snapshot : DataSnapshot K) {pack : PackWindows K} {a b : ℕ}
    (ha : 0 < a) (hab : a < b) (hb : b < snapshot.candles.length)
    (hin_sample : pack.in_sample = ⟨slice_snapshot snapshot 0 a "in-sample", 0, a⟩)
    (hselection : pack.selection_oos
      = ⟨slice_snapshot snapshot a b "selection-oos", a, b⟩)
    (hholdout : pack.final_holdout
      = ⟨slice_snapshot snapshot b snapshot.candles.length "final-holdout", b,
          snapshot.candles.length⟩)
    (hbootstrap : pack.bootstrap_source = pack.in_sample) : Tiles snapshot pack := by
  have hparts : ∀ window ∈ pack.parts, ∃ start_index end_index suffix,
      window = ⟨slice_snapshot snapshot start_index end_index suffix, start_index, end_index⟩ ∧
        start_index < end_index ∧ end_index ≤ snapshot.candles.length := by
    intro window hwindow
    rw [PackWindows.parts, hin_sample, hselection, hholdout] at hwindow
    simp only [List.mem_cons, List.not_mem_nil, or_false] at hwindow
    rcases hwindow with rfl | rfl | rfl
    · exact ⟨_, _, _, rfl, ha, by omega⟩
    · exact ⟨_, _, _, rfl, hab, hb.le⟩
    · exact ⟨_, _, _, rfl, hb, le_rfl⟩
  have hcut : ∀ window ∈ pack.parts, CutToWindow snapshot window := by
    intro window hwindow
    obtain ⟨start_index, end_index, suffix, rfl, -, -⟩ := hparts window hwindow
    exact cutToWindow_slice snapshot start_index end_index suffix
  have hjoin : ∀ {α : Type} (series : DataSnapshot K → List α),
      (∀ start_index end_index suffix,
        series (slice_snapshot snapshot start_index end_index suffix)
          = slice_items (series snapshot) start_index end_index) →
      (series snapshot).length ≤ snapshot.candles.length →
      pack.parts.flatMap (fun window => series window.snapshot) = series snapshot := by
    intro α series hslice hlength
    rw [PackWindows.parts, hin_sample, hselection, hholdout]
    simp only [List.flatMap_cons, List.flatMap_nil, List.append_nil, hslice]
    exact slice_items_three (series snapshot) hab.le hb.le hlength
  refine ⟨?_, ?_, ?_, ?_, ?_, ?_, hcut, ?_, ?_, ?_, ?_, hbootstrap⟩
  · rw [hin_sample]
  · rw [hin_sample, hselection]
  · rw [hselection, hholdout]
  · rw [hholdout]
  · intro window hwindow
    obtain ⟨start_index, end_index, suffix, rfl, hlt, hle⟩ := hparts window hwindow
    refine ⟨hlt, ?_⟩
    have hlength : (slice_items snapshot.candles start_index end_index).length
        = end_index - start_index := length_slice_items snapshot.candles hle
    rw [← List.length_pos_iff]
    change 0 < (slice_items snapshot.candles start_index end_index).length
    omega
  · intro i hi
    exact existsUnique_part hin_sample hselection hholdout hab.le hi
  · exact hjoin (fun s => s.candles) (fun _ _ _ => rfl) le_rfl
  · intro series
    apply hjoin (fun s => s.number series)
    intro start_index end_index suffix
    exact (cutToWindow_slice snapshot start_index end_index suffix).number series
  · intro series
    apply hjoin (fun s => s.text series)
    intro start_index end_index suffix
    exact (cutToWindow_slice snapshot start_index end_index suffix).text series
  · exact hjoin (fun s => s.regime_probabilities) (fun _ _ _ => rfl)

/-- The pack of a snapshot of at least five bars: it is built where the feature quality
has not failed, and its windows tile the snapshot. -/
theorem split_windows_tile (texts : PyTexts K) (snapshot : DataSnapshot K)
    (hlength : 5 ≤ snapshot.candles.length) :
    (assert_candidate_feature_quality texts snapshot = .ok () →
        ∃ pack, split_pack_windows texts snapshot = .ok pack) ∧
      ∀ pack, split_pack_windows texts snapshot = .ok pack → Tiles snapshot pack := by
  constructor
  · intro hquality
    rw [split_pack_windows, build_split_pack, hquality, ok_bind,
      require_ok (decide_eq_true hlength)]
    exact ⟨_, rfl⟩
  · intro pack h
    -- past the feature quality and the length, the pack is the cuts at 60 and 80 percent
    obtain ⟨split_pack, hpack, h⟩ := bind_ok h
    obtain ⟨-, -, hpack⟩ := bind_ok hpack
    obtain ⟨-, hpack⟩ := require_bind_ok hpack
    obtain rfl := Except.ok.inj hpack
    obtain rfl := Except.ok.inj h
    have hin_sample_end : snapshot.candles.length * 60 / 100 ≤ snapshot.candles.length := by omega
    -- the source ends the first window at the length of its slice, not at the cut
    have hlast : (slice_items snapshot.candles 0 (snapshot.candles.length * 60 / 100)).length
        = snapshot.candles.length * 60 / 100 :=
      length_slice_items snapshot.candles hin_sample_end
    have hcuts : 0 < snapshot.candles.length * 60 / 100 ∧
        snapshot.candles.length * 60 / 100
          < snapshot.candles.length * 60 / 100 + snapshot.candles.length * 20 / 100 ∧
        snapshot.candles.length * 60 / 100 + snapshot.candles.length * 20 / 100
          < snapshot.candles.length := by omega
    exact tiles_of_cuts snapshot hcuts.1 hcuts.2.1 hcuts.2.2
      (congrArg (SnapshotWindow.mk _ 0) hlast) rfl rfl rfl

/-- Five hourly bars. -/
def five_bars : DataSnapshot ℚ where
  snapshot_id := "five-bars"
  symbol := "BTCUSDT"
  venue := "binance"
  timeframe := "1h"
  candles := (List.range 5).map fun bar : ℕ => ⟨3600000000 * bar, 100, 101, 99, 100, 10, 0⟩
  funding_rates := [0, 1 / 10000, 0, 0, 2 / 10000]
  open_interest := [10, 11, 12, 13, 14]
  liquidation_notional := [0, 0, 5, 0, 0]
  maker_fee_bps := 2
  taker_fee_bps := 5
  vol_regime := ["low", "low", "mid", "high", "high"]

/-- The pack of these bars: three, one and one. -/
theorem split_windows_tile_five : ∃ pack,
    split_pack_windows plain_texts five_bars = .ok pack ∧ Tiles five_bars pack := by
  have htile := split_windows_tile plain_texts five_bars (by decide)
  obtain ⟨pack, hpack⟩ := htile.1 rfl
  exact ⟨pack, hpack, htile.2 pack hpack⟩

end ProofAlpha.App
