/-
Which rate a funding settlement is charged with (`backtest/simulator.py`,
`data/fetch.py`).

A bar counts the settlements up to its timestamp, and its rate is the one that
`_align_series_to_timestamps` found: that of the last record stamped by then
(`holdsAt_records`). The two agree on a settlement at the bar's own timestamp
only if its record is stamped right at it (`settled_by`). The number of a
settlement is that of its eight-hour period.
-/
import ProofAlpha.Backtest.FundingEvents
import ProofAlpha.Backtest.Simulator
import ProofAlpha.Data.SeriesAlignment

set_option autoImplicit false

namespace ProofAlpha.Backtest

open ProofAlpha.Lib ProofAlpha.Data

variable {K : Type} [Field K] [LinearOrder K]

/-! ## A history of settlements -/

/-- The instant of a settlement. -/
def settlement_instant (number : ℤ) : ℤ := number * (8 * hour_us)

/-- A funding history with one record for each of `count` settlements, from the number `first` on,
stamped with some delay. -/
structure FundingHistory (K : Type) where
  first : ℤ
  count : ℕ
  rate : ℤ → K
  delay : ℤ → ℤ
  delay_nonneg : ∀ number, 0 ≤ delay number
  delay_lt : ∀ number, delay number < 8 * hour_us

namespace FundingHistory

variable (history : FundingHistory K)

/-- When the record of a settlement is stamped. -/
def stamp (number : ℤ) : ℤ := settlement_instant number + history.delay number

/-- The records with their times. -/
def records : List (ℤ × K) :=
  (List.range history.count).map fun k : ℕ =>
    (history.stamp (history.first + k), history.rate (history.first + k))

/-- The settlement has a record. -/
def Has (number : ℤ) : Prop := history.first ≤ number ∧ number < history.first + history.count

instance (number : ℤ) : Decidable (history.Has number) := inferInstanceAs (Decidable (_ ∧ _))

/-- The rate recorded of a settlement, zero before the first one. -/
def recorded_rate (number : ℤ) : K := if history.Has number then history.rate number else 0

/-- The last settlement whose record is stamped by a time: the one of the period, or the one
before where that is late. -/
def settled_by (t : ℤ) : ℤ :=
  if history.stamp (settlement_period t) ≤ t then settlement_period t else settlement_period t - 1

variable {history}

omit [Field K] [LinearOrder K] in
theorem mem_records {record : ℤ × K} :
    record ∈ history.records
      ↔ ∃ number, history.Has number ∧ record = (history.stamp number, history.rate number) := by
  unfold records Has
  rw [List.mem_map]
  constructor
  · rintro ⟨k, hk, rfl⟩
    have hlt := List.mem_range.mp hk
    exact ⟨history.first + k, ⟨by omega, by omega⟩, rfl⟩
  · rintro ⟨number, ⟨hle, hlt⟩, rfl⟩
    refine ⟨(number - history.first).toNat, List.mem_range.mpr (by omega), ?_⟩
    rw [Int.toNat_of_nonneg (by omega), add_sub_cancel]

omit [Field K] [LinearOrder K] in
/-- Records are stamped in the order of their settlements. -/
theorem stamp_lt_stamp {number later : ℤ} (h : number < later) :
    history.stamp number < history.stamp later := by
  have hdelay := history.delay_lt number
  have hlater := history.delay_nonneg later
  unfold stamp settlement_instant
  unfold hour_us at *
  omega

omit [Field K] [LinearOrder K] in
/-- A record is stamped by a time exactly when its settlement is no later than the last one. -/
theorem stamp_le_iff (number t : ℤ) : history.stamp number ≤ t ↔ number ≤ history.settled_by t := by
  have hnonneg := history.delay_nonneg number
  have hlt := history.delay_lt number
  have hstart : settlement_instant (settlement_period t) ≤ t :=
    Int.ediv_mul_le t (by unfold hour_us; omega)
  have hend : t < settlement_instant (settlement_period t + 1) :=
    Int.lt_ediv_add_one_mul_self t (by unfold hour_us; omega)
  unfold settled_by
  split_ifs with hstamped
  · -- the settlement of this period has its record by now
    constructor
    · intro hle
      unfold stamp settlement_instant hour_us at *
      omega
    · intro hle
      rcases hle.lt_or_eq with hbefore | rfl
      · exact (stamp_lt_stamp hbefore).le.trans hstamped
      · exact hstamped
  · -- it has not, so the settlement before is the last one
    constructor
    · intro hle
      by_contra! hlater
      refine hstamped (le_trans ?_ hle)
      rcases (show settlement_period t ≤ number by omega).lt_or_eq with hbefore | heq
      · exact (stamp_lt_stamp hbefore).le
      · rw [heq]
    · intro hle
      unfold stamp settlement_instant hour_us at *
      omega

omit [Field K] [LinearOrder K] in
theorem nodup_records : (history.records.map Prod.fst).Nodup := by
  unfold records
  rw [List.map_map]
  refine List.Nodup.map_on (fun k _ k' _ heq => ?_) List.nodup_range
  rcases lt_trichotomy k k' with hlt | heq' | hlt
  · exact absurd heq (stamp_lt_stamp (by omega)).ne
  · exact heq'
  · exact absurd heq (stamp_lt_stamp (by omega)).ne'

omit [LinearOrder K] in
/-- At a time the rate of the last record stamped by then holds. -/
theorem holdsAt_records {t : ℤ} (h : history.settled_by t < history.first + history.count) :
    HoldsAt history.records 0 t (history.recorded_rate (history.settled_by t)) := by
  unfold recorded_rate
  split_ifs with hhas
  · refine .entry (LastUpTo.of_nodup nodup_records
      (mem_records.mpr ⟨history.settled_by t, hhas, rfl⟩) ((stamp_le_iff _ t).mpr le_rfl) ?_)
    intro record hrecord hle
    obtain ⟨number, -, rfl⟩ := mem_records.mp hrecord
    rcases ((stamp_le_iff number t).mp hle).lt_or_eq with hlt | heq
    · exact (stamp_lt_stamp hlt).le
    · rw [heq]
  · -- no settlement of the history is stamped by then
    refine .none fun record hrecord => ?_
    obtain ⟨number, ⟨hfirst, hlast⟩, rfl⟩ := mem_records.mp hrecord
    refine not_le.mp fun hle => hhas ?_
    exact ⟨hfirst.trans ((stamp_le_iff number t).mp hle), h⟩

end FundingHistory

/-! ## The rate of a bar -/

/-- Every settlement that a bar counts is charged at its own rate. -/
def ChargedAtOwnRate (cfg : SimConfig K) (settlement_hours : List ℤ)
    (history : FundingHistory K) : Prop :=
  ∀ index, index + 1 < cfg.candles.length → ∀ t, IsSettlement settlement_hours t →
    bar_timestamp cfg.candles index < t → t ≤ bar_timestamp cfg.candles (index + 1) →
    cfg.funding_rates.getD (index + 1) 0 = history.rate (settlement_period t)

/-- Every settlement that a bar counts has a record. -/
def RecordsSettlements (candles : List (Candle K)) (settlement_hours : List ℤ)
    (history : FundingHistory K) : Prop :=
  ∀ index, index + 1 < candles.length → ∀ t, IsSettlement settlement_hours t →
    bar_timestamp candles index < t → t ≤ bar_timestamp candles (index + 1) →
    history.Has (settlement_period t)

/-- Every settlement that a bar counts is the last one whose record is stamped by the bar, or it has
the rate of that one. -/
def StampedInTime (candles : List (Candle K)) (settlement_hours : List ℤ)
    (history : FundingHistory K) : Prop :=
  ∀ index, index + 1 < candles.length → ∀ t, IsSettlement settlement_hours t →
    bar_timestamp candles index < t → t ≤ bar_timestamp candles (index + 1) →
    settlement_period t = history.settled_by (bar_timestamp candles (index + 1))
      ∨ history.rate (settlement_period t)
        = history.recorded_rate (history.settled_by (bar_timestamp candles (index + 1)))

omit [LinearOrder K] in
/-- The aligned series has at a bar the rate of the last record stamped by it. -/
theorem aligned_rate {candles : List (Candle K)}
    (hordered : candles.Pairwise fun a b => a.timestamp ≤ b.timestamp)
    {fromisoformat : String → Except String ℤ} {candle_timestamps : List String}
    (hcandles : candle_timestamps.mapM fromisoformat = .ok (candles.map Candle.timestamp))
    {series_rows : List (String × K)} {history : FundingHistory K}
    (hseries : read_series fromisoformat series_rows = .ok history.records)
    {aligned : List (String × K)}
    (haligned : align_series_to_timestamps fromisoformat candle_timestamps series_rows
      = .ok aligned) {index : ℕ} (hindex : index < candles.length)
    (hrecorded : history.settled_by (bar_timestamp candles index)
      < history.first + history.count) :
    (aligned.map Prod.snd).getD index 0
      = history.recorded_rate (history.settled_by (bar_timestamp candles index)) := by
  have hdts : (candles.map Candle.timestamp).Pairwise (· ≤ ·) := List.pairwise_map.mpr hordered
  rw [align_series_to_timestamps_eq hcandles hdts hseries] at haligned
  obtain rfl := Except.ok.inj haligned
  have hlength := length_of_mapM_ok hcandles
  rw [List.map_snd_zip (by rw [List.length_map, hlength]), List.map_map,
    List.getD_eq_getElem _ _ (by rwa [List.length_map]), List.getElem_map, Function.comp]
  have htime : candles[index].timestamp = bar_timestamp candles index := by
    rw [bar_timestamp, List.getD_eq_getElem _ _ hindex]
  rw [htime]
  exact (holdsAt_carried history.records 0 _).unique (FundingHistory.holdsAt_records hrecorded)

/-- The settlement of a bar's period is one of those the bar counts, if it counts any. -/
theorem period_settlement_counted {settlement_hours : List ℤ} {venue : String}
    (hvenue : funding_settlement_hours venue = some settlement_hours) {previous t current : ℤ}
    (hsettlement : IsSettlement settlement_hours t) (hafter : previous < t) (hle : t ≤ current) :
    IsSettlement settlement_hours (settlement_instant (settlement_period current))
      ∧ previous < settlement_instant (settlement_period current)
      ∧ settlement_instant (settlement_period current) ≤ current
      ∧ settlement_period (settlement_instant (settlement_period current))
        = settlement_period current := by
  rw [settlement_hours_of_venue hvenue, isSettlement_iff_dvd] at hsettlement ⊢
  obtain ⟨mark, rfl⟩ := hsettlement
  refine ⟨Dvd.intro_left _ rfl, ?_, Int.ediv_mul_le current (by unfold hour_us; omega), ?_⟩
  · unfold settlement_instant settlement_period hour_us at *
    omega
  · exact Int.mul_ediv_cancel _ (by unfold hour_us; omega)

/-- The settlements are charged at their own rates exactly when their records are stamped in time
for the bars that count them, or nothing changes by their delay. -/
theorem charged_at_own_rate_iff (m : PyMath K) {snapshot : DataSnapshot K} (args : SimArguments K)
    (side : PositionSide) (settings : LiquidationSettings K) {settlement_hours : List ℤ}
    (hvenue : funding_settlement_hours snapshot.venue = some settlement_hours)
    (hordered : snapshot.candles.Pairwise fun a b => a.timestamp ≤ b.timestamp)
    {fromisoformat : String → Except String ℤ} {candle_timestamps : List String}
    (hcandles : candle_timestamps.mapM fromisoformat
      = .ok (snapshot.candles.map Candle.timestamp))
    {series_rows : List (String × K)} {history : FundingHistory K}
    (hseries : read_series fromisoformat series_rows = .ok history.records)
    (hrecords : RecordsSettlements snapshot.candles settlement_hours history)
    {aligned : List (String × K)}
    (haligned : align_series_to_timestamps fromisoformat candle_timestamps series_rows
      = .ok aligned)
    (hfunding : snapshot.funding_rates = aligned.map Prod.snd) :
    ChargedAtOwnRate (sim_config m snapshot args side settings) settlement_hours history
      ↔ StampedInTime snapshot.candles settlement_hours history := by
  have hbars : (sim_config m snapshot args side settings).candles = snapshot.candles := rfl
  rw [ChargedAtOwnRate, hbars, StampedInTime]
  -- settlement by settlement: what the bar gets is the rate of the last record stamped by then
  refine forall₅_congr fun index hindex t hsettlement hafter => forall_congr' fun hle => ?_
  obtain ⟨hlast, hlast_after, hlast_le, hperiod⟩ :=
    period_settlement_counted hvenue hsettlement hafter hle
  have hhas := hrecords index hindex _ hlast hlast_after hlast_le
  rw [hperiod] at hhas
  have hrecorded : history.settled_by (bar_timestamp snapshot.candles (index + 1))
      < history.first + history.count := by
    refine lt_of_le_of_lt ?_ hhas.2
    unfold FundingHistory.settled_by
    split_ifs <;> omega
  have hrate := aligned_rate hordered hcandles hseries haligned hindex hrecorded
  change snapshot.funding_rates.getD (index + 1) 0 = _ ↔ _
  rw [hfunding, hrate]
  constructor
  · exact fun heq => .inr heq.symm
  · rintro (heq | heq)
    · rw [← heq, FundingHistory.recorded_rate,
        if_pos (hrecords index hindex t hsettlement hafter hle)]
    · exact heq.symm

/-! ## Five milliseconds late -/

/-- The settlements at midnight and at eight, each stamped `delay` later. -/
def morning_history (delay : ℤ) (hnonneg : 0 ≤ delay) (hlt : delay < 8 * hour_us) :
    FundingHistory ℚ where
  first := 0
  count := 2
  rate := fun number => if number = 0 then 1 / 1000 else 1 / 500
  delay := fun _ => delay
  delay_nonneg := fun _ => hnonneg
  delay_lt := fun _ => hlt

/-- The hourly bars at seven and at eight. -/
def morning_snapshot (funding_rates : List ℚ) : DataSnapshot ℚ where
  venue := "binance"
  timeframe := "1h"
  candles := [⟨7 * hour_us, 100, 100, 100⟩, ⟨8 * hour_us, 100, 100, 100⟩]
  funding_rates := funding_rates
  open_interest := [1, 1]
  liquidation_notional := [0, 0]
  taker_fee_bps := 0
  spread_bps := []
  depth_bid_1bp_usd := []
  depth_ask_1bp_usd := []
  latency_proxy_ms := []
  venue_profile := none
  provenance_microstructure := none

/-- Times of the first morning of 1970 in microseconds. -/
def morning_clock (text : String) : Except String ℤ :=
  if text = "1970-01-01T00:00:00+00:00" then .ok 0
  else if text = "1970-01-01T00:00:00.005000+00:00" then .ok 5000
  else if text = "1970-01-01T07:00:00+00:00" then .ok (7 * hour_us)
  else if text = "1970-01-01T08:00:00+00:00" then .ok (8 * hour_us)
  else if text = "1970-01-01T08:00:00.005000+00:00" then .ok (8 * hour_us + 5000)
  else .error "Invalid isoformat string"

/-- The bar at eight counts the settlement at eight. -/
theorem morning_settlement {index : ℕ} {t : ℤ} {funding_rates : List ℚ}
    (hindex : index + 1 < (morning_snapshot funding_rates).candles.length)
    (hsettlement : IsSettlement [0, 8, 16] t)
    (hafter : bar_timestamp (morning_snapshot funding_rates).candles index < t)
    (hle : t ≤ bar_timestamp (morning_snapshot funding_rates).candles (index + 1)) :
    index = 0 ∧ t = 8 * hour_us := by
  have hzero : index = 0 := by
    have hlength : (morning_snapshot funding_rates).candles.length = 2 := rfl
    omega
  subst hzero
  rw [isSettlement_iff_dvd] at hsettlement
  obtain ⟨mark, rfl⟩ := hsettlement
  have hafter' : 7 * hour_us < 8 * hour_us * mark := hafter
  have hle' : 8 * hour_us * mark ≤ 8 * hour_us := hle
  unfold hour_us at *
  exact ⟨rfl, by omega⟩

theorem charged_at_own_rate_iff_morning :
    ChargedAtOwnRate (sim_config PyMath.rat (morning_snapshot [1 / 1000, 1 / 500])
        (plain_args [true, false] [false, true] 0 0 1 "flat") .long plain_settings) [0, 8, 16]
        (morning_history 0 (by decide) (by decide))
      ↔ StampedInTime (morning_snapshot [1 / 1000, 1 / 500]).candles [0, 8, 16]
          (morning_history 0 (by decide) (by decide)) := by
  have hrecords : RecordsSettlements (morning_snapshot [1 / 1000, 1 / 500]).candles [0, 8, 16]
      (morning_history 0 (by decide) (by decide)) := by
    intro index hindex t hsettlement hafter hle
    obtain ⟨-, rfl⟩ := morning_settlement hindex hsettlement hafter hle
    decide
  have hcandles : ["1970-01-01T07:00:00+00:00", "1970-01-01T08:00:00+00:00"].mapM morning_clock
      = .ok ((morning_snapshot [1 / 1000, 1 / 500]).candles.map Candle.timestamp) := rfl
  have hseries : read_series morning_clock
      [("1970-01-01T00:00:00+00:00", 1 / 1000), ("1970-01-01T08:00:00+00:00", 1 / 500)]
      = .ok (morning_history 0 (by decide) (by decide)).records := rfl
  have haligned : align_series_to_timestamps morning_clock
      ["1970-01-01T07:00:00+00:00", "1970-01-01T08:00:00+00:00"]
      [("1970-01-01T00:00:00+00:00", (1 / 1000 : ℚ)), ("1970-01-01T08:00:00+00:00", 1 / 500)]
      = .ok [("1970-01-01T07:00:00+00:00", 1 / 1000), ("1970-01-01T08:00:00+00:00", 1 / 500)] :=
    rfl
  exact charged_at_own_rate_iff PyMath.rat (plain_args [true, false] [false, true] 0 0 1 "flat")
    .long plain_settings (by decide +kernel) (by decide) hcandles hseries hrecords haligned rfl

/-- A record five milliseconds late: the settlement at eight is charged at the rate of midnight. -/
theorem settlement_charged_at_earlier_rate :
    read_series morning_clock [("1970-01-01T00:00:00.005000+00:00", 1 / 1000),
        ("1970-01-01T08:00:00.005000+00:00", 1 / 500)]
      = .ok (morning_history 5000 (by decide) (by decide)).records
    ∧ align_series_to_timestamps morning_clock
        ["1970-01-01T07:00:00+00:00", "1970-01-01T08:00:00+00:00"]
        [("1970-01-01T00:00:00.005000+00:00", (1 / 1000 : ℚ)),
          ("1970-01-01T08:00:00.005000+00:00", 1 / 500)]
      = .ok [("1970-01-01T07:00:00+00:00", 1 / 1000), ("1970-01-01T08:00:00+00:00", 1 / 1000)]
    ∧ ¬ ChargedAtOwnRate (sim_config PyMath.rat (morning_snapshot [1 / 1000, 1 / 1000])
        (plain_args [true, false] [false, true] 0 0 1 "flat") .long plain_settings) [0, 8, 16]
        (morning_history 5000 (by decide) (by decide)) := by
  refine ⟨rfl, rfl, fun hcharged => ?_⟩
  have height := hcharged 0 (by decide) (8 * hour_us)
    ((isSettlement_iff_dvd _).mpr (dvd_refl _)) (by decide) (by decide)
  exact absurd height (by decide +kernel)

end ProofAlpha.Backtest
