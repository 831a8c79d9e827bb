/-
The snapshot checks of the providers (`data/validate.py`) and what a snapshot
that passes them is like.

A timestamp is an instant in microseconds, the ISO text of the source read back.
`Valid` is what the rest of the development asks of a market snapshot: its
candles in order, at positive closes, and every per-bar series one entry per
candle, the optional ones possibly absent. `valid_of_validated` gets it from the
checks.
-/
import Mathlib.Algebra.Order.Field.Basic
import Mathlib.Data.List.Chain
import ProofAlpha.Data.Snapshots
import ProofAlpha.Lib.Checks
import ProofAlpha.Lib.PyList
import ProofAlpha.Lib.PyMath

set_option autoImplicit false

namespace ProofAlpha.Data

open ProofAlpha.Lib

variable {K : Type} [Field K] [LinearOrder K]

/-! ## `validate_snapshot_bundle` -/

/-- `_EXPECTED_STEP_SECONDS.get(timeframe, 3_600)`. -/
def expected_step_seconds (timeframe : String) : ℤ :=
  (List.lookup timeframe
    [("1Min", 60), ("5Min", 300), ("15Min", 900), ("30Min", 1800), ("1Hour", 3600),
      ("2Hour", 7200), ("4Hour", 14400), ("1Day", 86400)]).getD 3600

/-- `int((right - left).total_seconds())`, which truncates. -/
def whole_seconds (left right : ℤ) : ℤ := (right - left).tdiv 1000000

/-- `gap_count`: the steps that are not the expected one. -/
def gap_count (expected_step : ℤ) (timestamps : List ℤ) : ℕ :=
  (timestamps.zip timestamps.tail).countP fun step =>
    decide (whole_seconds step.1 step.2 ≠ expected_step)

/-- `_length_mismatch_count`; a series that is not given is `none`. -/
def length_mismatch_count (expected_length : ℕ) (series : List (Option (List K))) : ℕ :=
  series.countP fun values => values.any fun xs => decide (xs.length ≠ expected_length)

/-- The tests of `_price_sanity_count` on one bar. -/
def price_fails (open_price high_price low_price close_price : K) : Bool :=
  decide (min (min (min open_price high_price) low_price) close_price ≤ 0
    ∨ high_price < low_price ∨ high_price < max open_price close_price
    ∨ min open_price close_price < low_price)

/-- `_price_sanity_count`. -/
def price_sanity_count (candle_opens candle_highs candle_lows candle_closes : List K) : ℕ :=
  (candle_opens.zip (candle_highs.zip (candle_lows.zip candle_closes))).countP fun bar =>
    price_fails bar.1 bar.2.1 bar.2.2.1 bar.2.2.2

/-- `if count > 0: warnings.append(f"{name}={count}")`. -/
def count_warning (name : String) (count : ℕ) : List String :=
  reason_if (decide (0 < count)) (name ++ "=" ++ toString count)

/-- The warnings of `validate_snapshot_bundle`; `"passed"` is that there are none. -/
def validate_snapshot_bundle (candle_timestamps : List ℤ)
    (candle_opens candle_highs candle_lows candle_closes candle_volumes : Option (List K))
    (funding_rates open_interest liquidation_notional : List K) (timeframe : String) :
    List String :=
  count_warning "duplicate_timestamp_count"
      (candle_timestamps.length - candle_timestamps.dedup.length)
    ++ count_warning "timestamp_gap_count"
      (gap_count (expected_step_seconds timeframe) candle_timestamps)
    ++ count_warning "series_length_mismatch_count"
      (length_mismatch_count candle_timestamps.length
        [some funding_rates, some open_interest, some liquidation_notional, candle_opens,
          candle_highs, candle_lows, candle_closes, candle_volumes])
    ++ count_warning "price_sanity_count"
      (price_sanity_count (candle_opens.getD []) (candle_highs.getD []) (candle_lows.getD [])
        (candle_closes.getD []))
    ++ count_warning "negative_volume_count"
      ((candle_volumes.getD []).countP fun value => decide (value < 0))
    ++ count_warning "negative_open_interest_count"
      (open_interest.countP fun value => decide (value < 0))
    ++ count_warning "negative_liquidation_notional_count"
      (liquidation_notional.countP fun value => decide (value < 0))
    ++ count_warning "funding_rate_clamp_count"
      (funding_rates.countP fun value => decide (1 / 5 < |value|))

/-- The checks on a snapshot's own columns, as the providers make them. -/
def validate_snapshot (snapshot : DataSnapshot K) (timeframe : String) : List String :=
  validate_snapshot_bundle (snapshot.candles.map Candle.timestamp)
    (some (snapshot.candles.map Candle.open_)) (some (snapshot.candles.map Candle.high))
    (some (snapshot.candles.map Candle.low)) (some (snapshot.candles.map Candle.close))
    (some (snapshot.candles.map Candle.volume)) snapshot.funding_rates snapshot.open_interest
    snapshot.liquidation_notional timeframe

/-! ## Valid snapshots -/

/-- A series that is absent or has one entry per bar. -/
def Filled {α : Type} (bars : ℕ) (values : List α) : Prop := values = [] ∨ values.length = bars

/-- A market snapshot: candles in order at positive closes, one funding rate, open
interest and liquidation per candle, every optional series absent or complete. -/
structure Valid (snapshot : DataSnapshot K) : Prop where
  increasing : (snapshot.candles.map Candle.timestamp).Pairwise (· < ·)
  positive : ∀ candle ∈ snapshot.candles, 0 < candle.close
  funding_rates : snapshot.funding_rates.length = snapshot.candles.length
  open_interest : snapshot.open_interest.length = snapshot.candles.length
  liquidation_notional : snapshot.liquidation_notional.length = snapshot.candles.length
  number : ∀ series, Filled snapshot.candles.length (snapshot.number series)
  text : ∀ series, Filled snapshot.candles.length (snapshot.text series)
  regime_probabilities : Filled snapshot.candles.length snapshot.regime_probabilities

theorem count_warning_eq_nil {name : String} {count : ℕ} :
    count_warning name count = [] ↔ count = 0 := by
  rw [count_warning, reason_if_eq_nil, decide_eq_false_iff_not]
  omega

theorem expected_step_seconds_pos (timeframe : String) : 0 < expected_step_seconds timeframe := by
  have hgetD : ∀ step : Option ℤ, (∀ seconds, step = some seconds → 0 < seconds) →
      0 < step.getD 3600 := by
    intro step hstep
    cases step with
    | none => decide
    | some seconds => exact hstep seconds rfl
  refine hgetD _ fun seconds hseconds => ?_
  have hentry := PyList.mem_of_lookup_eq_some hseconds
  simp only [List.mem_cons, Prod.mk.injEq, List.not_mem_nil, or_false] at hentry
  omega

/-- Steps of a positive whole length put the timestamps in order. -/
theorem increasing_of_gap_count {expected_step : ℤ} (hpos : 0 < expected_step)
    {timestamps : List ℤ} (h : gap_count expected_step timestamps = 0) :
    timestamps.Pairwise (· < ·) := by
  rw [← List.isChain_iff_pairwise]
  induction timestamps with
  | nil => exact List.IsChain.nil
  | cons left rest ih =>
      cases rest with
      | nil => exact List.IsChain.singleton left
      | cons right rest =>
          unfold gap_count at h ih
          simp only [List.tail_cons, List.zip_cons_cons, List.countP_cons] at h ih
          have hstep : whole_seconds left right = expected_step := by
            by_contra hne
            simp [hne] at h
          refine List.IsChain.cons_cons ?_ (ih (by omega))
          by_contra hle
          have hback : 0 ≤ (left - right).tdiv 1000000 :=
            Int.tdiv_nonneg (by omega) (by omega)
          have hneg : (right - left).tdiv 1000000 = -(left - right).tdiv 1000000 := by
            rw [← Int.neg_tdiv, neg_sub]
          unfold whole_seconds at hstep
          omega

/-- A bar that passes the price tests closes at a positive price. -/
theorem close_pos_of_not_price_fails {open_price high_price low_price close_price : K}
    (h : price_fails open_price high_price low_price close_price = false) : 0 < close_price := by
  unfold price_fails at h
  rw [decide_eq_false_iff_not, not_or] at h
  exact lt_of_lt_of_le (not_le.mp h.1) (min_le_right _ _)

/-- A snapshot that passes the checks, its optional series absent or complete, is
valid. -/
theorem valid_of_validated {snapshot : DataSnapshot K} {timeframe : String}
    (h : validate_snapshot snapshot timeframe = [])
    (hnumber : ∀ series, Filled snapshot.candles.length (snapshot.number series))
    (htext : ∀ series, Filled snapshot.candles.length (snapshot.text series))
    (hregimes : Filled snapshot.candles.length snapshot.regime_probabilities) :
    Valid snapshot := by
  unfold validate_snapshot validate_snapshot_bundle at h
  simp only [List.append_eq_nil_iff, count_warning_eq_nil] at h
  obtain ⟨⟨⟨⟨⟨⟨⟨-, hgaps⟩, hlengths⟩, hprices⟩, -⟩, -⟩, -⟩, -⟩ := h
  have hlength : ∀ values ∈ [snapshot.funding_rates, snapshot.open_interest,
      snapshot.liquidation_notional], values.length = snapshot.candles.length := by
    intro values hvalues
    unfold length_mismatch_count at hlengths
    rw [List.countP_eq_zero] at hlengths
    have hsome := hlengths (some values) (by
      simp only [List.mem_cons, List.not_mem_nil, or_false] at hvalues
      rcases hvalues with rfl | rfl | rfl <;> simp)
    simpa using hsome
  refine ⟨increasing_of_gap_count (expected_step_seconds_pos timeframe) hgaps, ?_,
    hlength _ (by simp), hlength _ (by simp), hlength _ (by simp), hnumber, htext, hregimes⟩
  intro candle hcandle
  unfold price_sanity_count at hprices
  rw [List.countP_eq_zero] at hprices
  have hbar : (candle.open_, candle.high, candle.low, candle.close) ∈
      (snapshot.candles.map Candle.open_).zip ((snapshot.candles.map Candle.high).zip
        ((snapshot.candles.map Candle.low).zip (snapshot.candles.map Candle.close))) := by
    rw [List.zip_map', List.zip_map', List.zip_map']
    exact List.mem_map.mpr ⟨candle, hcandle, rfl⟩
  exact close_pos_of_not_price_fails (Bool.eq_false_iff.mpr (hprices _ hbar))

end ProofAlpha.Data
