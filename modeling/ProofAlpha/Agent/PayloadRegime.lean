/-
The regime state of a payload: `_derive_payload_regime_state` of `agent/composer.py`.

A run records its parameter hints under the key of `derive_regime_state`; the composer looks
them up under a key that it derives from the payload. Both keys have the same buckets of
funding and of open interest. The volatility is that of the simple returns here and of the
log returns there, and the regime is found by thresholds here and is the most frequent label
of the bars there (`regime_keys_agree_iff`).
-/
import Mathlib.Data.Rat.Floor
import ProofAlpha.Data.Snapshots
import ProofAlpha.Strategy.BoundedDsl
import ProofAlpha.Validation.RegimeState

set_option autoImplicit false

namespace ProofAlpha.Agent

open ProofAlpha.Lib ProofAlpha.Validation
open ProofAlpha.Backtest (DataSnapshot RegimeLabel label_snapshot_regimes)
open ProofAlpha.Data (number_of numbers_of)
open ProofAlpha.Strategy (nonempty_text)

/-! ## The state of a payload -/

section Model

variable {K : Type} [Field K] [LinearOrder K]

/-- The close of a candle of the payload. -/
def payload_close : JsonValue K → Option K
  | .dict candle => number_of (JsonObject.get candle "close")
  | _ => none

/-- `closes`. -/
def payload_closes (snapshot_payload : JsonObject K) : List K :=
  match snapshot_payload.get_or "candles" (.list []) with
  | .list candles => candles.filterMap payload_close
  | _ => []

/-- `returns`. -/
def simple_returns (closes : List K) : List K :=
  ((close_pairs closes).filter fun pair => decide (pair.1 ≠ 0)).map fun pair =>
    pair.2 / pair.1 - 1

/-- `oi_change`. -/
def payload_oi_change (open_interest : List K) : K :=
  if 2 ≤ open_interest.length ∧ open_interest.headD 0 ≠ 0 then
    open_interest.getLastD 0 / open_interest.headD 0 - 1
  else 0

/-- The most frequent regime of the payload's own list, in alphabetical order on ties. -/
def frequent_regime_id : JsonValue K → Option String
  | .list regime_ids =>
      let names := regime_ids.filterMap nonempty_text
      (names.dedup.insertionSort fun a b =>
        names.count b < names.count a ∨ (names.count a = names.count b ∧ a ≤ b)).head?
  | _ => none

/-- The regime of a payload without a list of its own. -/
def threshold_regime (realized_vol avg_funding oi_change : K) : RegimeLabel :=
  if 0.04 ≤ realized_vol ∧ avg_funding < 0 then .crash
  else if 0.10 ≤ oi_change ∧ 0 < avg_funding then .short_squeeze
  else if 0.01 ≤ |avg_funding| ∨ 0.15 ≤ |oi_change| then .liquidity_stress
  else .sideways

/-- `_dominant_payload_regime`. -/
def dominant_payload_regime (snapshot_payload : JsonObject K)
    (realized_vol avg_funding oi_change : K) : String :=
  (frequent_regime_id (snapshot_payload.get "regime_id")).getD
    (label_text (threshold_regime realized_vol avg_funding oi_change))

/-- `_derive_payload_regime_state`. -/
def derive_payload_regime_state [FloorRing K] (m : PyMath K) : JsonValue K → JsonObject K
  | .dict snapshot_payload =>
      let funding_values := numbers_of (JsonObject.get snapshot_payload "funding_rates")
      let open_interest := numbers_of (JsonObject.get snapshot_payload "open_interest")
      let avg_funding := mean_or_zero funding_values
      let realized_vol :=
        stddev (fun x => m.pow x 0.5) (simple_returns (payload_closes snapshot_payload))
      let oi_change := payload_oi_change open_interest
      regime_state (dominant_payload_regime snapshot_payload realized_vol avg_funding oi_change)
        avg_funding realized_vol oi_change
  | _ => unknown_state

/-! ## A snapshot as a payload -/

/-- The payload form of a snapshot, without a regime list. -/
structure PayloadOf (snapshot_payload : JsonObject K) (snapshot : DataSnapshot K) : Prop where
  candles : ∃ items, snapshot_payload.get_or "candles" (.list []) = .list items
    ∧ List.Forall₂ (fun item candle => payload_close item = some candle.close) items
      snapshot.candles
  funding_rates : ∃ items, snapshot_payload.get "funding_rates" = .list items
    ∧ List.Forall₂ (fun item value => number_of item = some value) items snapshot.funding_rates
  open_interest : ∃ items, snapshot_payload.get "open_interest" = .list items
    ∧ List.Forall₂ (fun item value => number_of item = some value) items snapshot.open_interest
  regime_id : snapshot_payload.get "regime_id" = .null

/-- A list whose items all have a value is read as the list of those. -/
theorem filterMap_of_forall₂ {α β : Type} {f : α → Option β} {xs : List α} {ys : List β}
    (h : List.Forall₂ (fun x y => f x = some y) xs ys) : xs.filterMap f = ys := by
  induction h with
  | nil => rfl
  | cons hx _ ih => rw [List.filterMap_cons, hx, ih]

end Model

/-! ## The two keys -/

section Keys

variable {K : Type} [Field K] [LinearOrder K]

namespace PayloadOf

variable {snapshot_payload : JsonObject K} {snapshot : DataSnapshot K}

omit [LinearOrder K]

theorem closes_eq (h : PayloadOf snapshot_payload snapshot) :
    payload_closes snapshot_payload = snapshot.closes := by
  obtain ⟨items, hitems, hcandles⟩ := h.candles
  unfold payload_closes
  rw [hitems]
  exact filterMap_of_forall₂ (List.forall₂_map_right_iff.mpr hcandles)

theorem funding_eq (h : PayloadOf snapshot_payload snapshot) :
    numbers_of (snapshot_payload.get "funding_rates") = snapshot.funding_rates := by
  obtain ⟨items, hitems, hvalues⟩ := h.funding_rates
  rw [hitems]
  exact filterMap_of_forall₂ hvalues

theorem interest_eq (h : PayloadOf snapshot_payload snapshot) :
    numbers_of (snapshot_payload.get "open_interest") = snapshot.open_interest := by
  obtain ⟨items, hitems, hvalues⟩ := h.open_interest
  rw [hitems]
  exact filterMap_of_forall₂ hvalues

end PayloadOf

/-- The change of the open interest is the same in both forms. -/
theorem payload_oi_change_eq (open_interest : List K) :
    payload_oi_change open_interest
      = if open_interest.headD 0 = 0 then 0
        else open_interest.getLastD 0 / open_interest.headD 0 - 1 := by
  unfold payload_oi_change
  by_cases hstart : open_interest.headD 0 = 0
  · rw [if_pos hstart, if_neg (fun h => h.2 hstart)]
  · rw [if_neg hstart]
    by_cases hlength : 2 ≤ open_interest.length
    · rw [if_pos ⟨hlength, hstart⟩]
    · rw [if_neg (fun h => hlength h.1)]
      -- a single value has not changed
      match open_interest, hstart, hlength with
      | [], hstart, _ => exact absurd rfl hstart
      | [value], hstart, _ => exact (sub_eq_zero_of_eq (div_self hstart)).symm
      | _ :: _ :: rest, _, hlength => exact absurd (by simp) hlength

variable [FloorRing K]

omit [FloorRing K] in
theorem exists_most_common {snapshot : DataSnapshot K} (hcandles : snapshot.candles ≠ []) :
    ∃ label, most_common (label_snapshot_regimes snapshot) = some label := by
  apply Option.ne_none_iff_exists'.mp
  intro hnone
  have hempty := congrArg List.length (List.argmax_eq_none.mp hnone)
  rw [label_snapshot_regimes, List.length_map, List.length_range, DataSnapshot.closes,
    List.length_map] at hempty
  exact hcandles (List.length_eq_zero_iff.mp hempty)

/-- What the thresholds find in a snapshot. -/
def snapshot_threshold_regime (m : PyMath K) (snapshot : DataSnapshot K) : RegimeLabel :=
  threshold_regime (stddev (fun x => m.pow x 0.5) (simple_returns snapshot.closes))
    (mean_or_zero snapshot.funding_rates) (payload_oi_change snapshot.open_interest)

/-- The key of a payload, by the snapshot that it is the form of. -/
theorem payload_key_eq (m : PyMath K) {snapshot_payload : JsonObject K} {snapshot : DataSnapshot K}
    (h : PayloadOf snapshot_payload snapshot) :
    (derive_payload_regime_state m (.dict snapshot_payload)).get "regime_state_key"
      = .str (state_key (label_text (snapshot_threshold_regime m snapshot))
        (bucket_funding (mean_or_zero snapshot.funding_rates))
        (bucket_volatility (stddev (fun x => m.pow x 0.5) (simple_returns snapshot.closes)))
        (bucket_open_interest (payload_oi_change snapshot.open_interest))) := by
  have hregime : frequent_regime_id (snapshot_payload.get "regime_id") = none := by
    rw [h.regime_id]
    rfl
  unfold derive_payload_regime_state dominant_payload_regime
  dsimp only
  rw [hregime, h.closes_eq, h.funding_eq, h.interest_eq]
  rfl

/-- The key of a snapshot with candles. -/
theorem snapshot_key_eq (m : PyMath K) (l : PyLog K) {snapshot : DataSnapshot K}
    (hcandles : snapshot.candles ≠ [])
    (hfunding : snapshot.funding_rates.length = snapshot.candles.length)
    (hinterest : snapshot.open_interest.length = snapshot.candles.length) {label : RegimeLabel}
    (hlabel : most_common (label_snapshot_regimes snapshot) = some label) :
    (derive_regime_state m l snapshot none).get "regime_state_key"
      = .str (state_key (label_text label) (bucket_funding (mean_or_zero snapshot.funding_rates))
        (bucket_volatility (stddev m.sqrt (log_returns l.log snapshot.closes)))
        (bucket_open_interest (payload_oi_change snapshot.open_interest))) := by
  unfold derive_regime_state
  rw [if_neg (by simpa using hcandles), Option.getD_none]
  dsimp only
  rw [hlabel, PyList.normalize_series_of_length hfunding, PyList.normalize_series_of_length hinterest,
    payload_oi_change_eq]
  rfl

/-- The key of the payload form is the key of the snapshot if and only if there are candles,
the two deviations are in one band, and the regime by thresholds is the most frequent label. -/
theorem regime_keys_agree_iff [IsStrictOrderedRing K] (m : PyMath K) (l : PyLog K)
    {snapshot_payload : JsonObject K} {snapshot : DataSnapshot K}
    (h : PayloadOf snapshot_payload snapshot)
    (hfunding : snapshot.funding_rates.length = snapshot.candles.length)
    (hinterest : snapshot.open_interest.length = snapshot.candles.length) :
    (derive_payload_regime_state m (.dict snapshot_payload)).get "regime_state_key"
        = (derive_regime_state m l snapshot none).get "regime_state_key"
      ↔ snapshot.candles ≠ []
        ∧ SameBand (stddev (fun x => m.pow x 0.5) (simple_returns snapshot.closes))
          (stddev m.sqrt (log_returns l.log snapshot.closes))
        ∧ MostCommon (label_snapshot_regimes snapshot) (snapshot_threshold_regime m snapshot) := by
  rw [payload_key_eq m h]
  by_cases hcandles : snapshot.candles = []
  · -- without candles the snapshot has an unknown regime, which no threshold gives
    apply iff_of_false
    · intro hkey
      unfold derive_regime_state at hkey
      rw [hcandles] at hkey
      have hunknown : state_key _ _ _ _ = state_key "unknown" "flat" "low" "flat" :=
        JsonValue.str.inj hkey
      have hregime := (state_key_regime (label_text_free _) (by decide) hunknown).1
      revert hregime
      generalize snapshot_threshold_regime m snapshot = label
      cases label <;> decide
    · exact fun hkeys => hkeys.1 hcandles
  · obtain ⟨label, hlabel⟩ := exists_most_common hcandles
    rw [snapshot_key_eq m l hcandles hfunding hinterest hlabel, JsonValue.str.injEq,
      state_key_eq_iff (label_text_free _) (label_text_free _), label_text_injective.eq_iff,
      bucket_volatility_eq_iff, ← most_common_eq_some_iff, hlabel, Option.some_inj]
    constructor
    · rintro ⟨hregime, hband⟩
      exact ⟨hcandles, hband, hregime.symm⟩
    · rintro ⟨-, hband, hregime⟩
      exact ⟨hregime.symm, hband⟩

end Keys

/-! ## A rising market -/

/-- Hourly candles with the given closes, no funding and constant open interest. -/
def closing_snapshot (closes : List ℚ) : DataSnapshot ℚ where
  venue := "binance"
  timeframe := "1h"
  candles := closes.map fun close => ⟨0, close, close, close⟩
  funding_rates := closes.map fun _ => 0
  open_interest := closes.map fun _ => 1000
  liquidation_notional := closes.map fun _ => 0
  taker_fee_bps := 5
  spread_bps := []
  depth_bid_1bp_usd := []
  depth_ask_1bp_usd := []
  latency_proxy_ms := []
  venue_profile := none
  provenance_microstructure := none

/-- Its payload form. -/
def closing_payload (closes : List ℚ) : JsonObject ℚ :=
  [("candles", .list (closes.map fun close => .dict [("close", .float close)])),
    ("funding_rates", .list (closes.map fun _ => .float 0)),
    ("open_interest", .list (closes.map fun _ => .float 1000))]

theorem closing_payloadOf (closes : List ℚ) :
    PayloadOf (closing_payload closes) (closing_snapshot closes) := by
  refine ⟨⟨_, rfl, ?_⟩, ⟨_, rfl, ?_⟩, ⟨_, rfl, ?_⟩, rfl⟩
  · apply List.forall₂_map_left_iff.mpr
    apply List.forall₂_map_right_iff.mpr
    exact List.forall₂_same.mpr fun _ _ => rfl
  · apply List.forall₂_map_left_iff.mpr
    apply List.forall₂_map_right_iff.mpr
    exact List.forall₂_same.mpr fun _ _ => rfl
  · apply List.forall₂_map_left_iff.mpr
    apply List.forall₂_map_right_iff.mpr
    exact List.forall₂_same.mpr fun _ _ => rfl

/-- In a market that does not move the keys agree. -/
theorem regime_keys_agree_still :
    (derive_payload_regime_state PyMath.rat (.dict (closing_payload [100, 100, 100]))).get
        "regime_state_key"
      = (derive_regime_state PyMath.rat PyLog.rat (closing_snapshot [100, 100, 100]) none).get
        "regime_state_key" := by
  refine (regime_keys_agree_iff PyMath.rat PyLog.rat (closing_payloadOf [100, 100, 100]) rfl
    rfl).mpr ⟨List.cons_ne_nil _ _, ⟨?_, ?_⟩, most_common_eq_some_iff.mp ?_⟩
  · decide +kernel
  · decide +kernel
  · decide +kernel

/-- In a market that rises by a tenth every hour the bars are bullish, and the payload is
taken for a sideways market. -/
theorem rising_keys_differ :
    PayloadOf (closing_payload [100, 110, 121]) (closing_snapshot [100, 110, 121])
      ∧ (derive_payload_regime_state PyMath.rat (.dict (closing_payload [100, 110, 121]))).get
        "regime_state_key" = .str "sideways|flat|low|flat"
      ∧ (derive_regime_state PyMath.rat PyLog.rat (closing_snapshot [100, 110, 121]) none).get
        "regime_state_key" = .str "bull|flat|low|flat" := by
  have hpayload := payload_key_eq PyMath.rat (closing_payloadOf [100, 110, 121])
  have hlabel : most_common (label_snapshot_regimes (closing_snapshot [100, 110, 121]))
      = some .bull := by decide +kernel
  have hsnapshot := snapshot_key_eq PyMath.rat PyLog.rat (List.cons_ne_nil _ _)
    (rfl : (closing_snapshot [100, 110, 121]).funding_rates.length = _) rfl hlabel
  rw [hpayload, hsnapshot, JsonValue.str.injEq, JsonValue.str.injEq]
  refine ⟨closing_payloadOf _, ?_⟩
  decide +kernel

end ProofAlpha.Agent
