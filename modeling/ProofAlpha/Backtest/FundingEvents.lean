/-
Funding settlements are counted once (`backtest/simulator.py`,
`_compute_funding_event_counts`).

A settlement instant is one of the venue's hours on some UTC day. A bar is charged
the settlements after the bar before it and not after itself
(`count_funding_events_between_eq`), so along bars in time order the charges add up
to the settlements between the first bar and the last, whatever lies between.
-/
import ProofAlpha.Backtest.Snapshot
import ProofAlpha.Lib.Windows

set_option autoImplicit false

namespace ProofAlpha.Backtest

open ProofAlpha.Lib

variable {K : Type} [Field K]

/-! ## Settlement instants -/

/-- An instant at one of the settlement hours of some UTC day. -/
def IsSettlement (settlement_hours : List ℤ) (t : ℤ) : Prop :=
  ∃ day : ℤ, ∃ hour ∈ settlement_hours, t = day * day_us + hour * hour_us

/-- The settlement instants after the first bar and not after the last. -/
def settlements_spanned (settlement_hours : List ℤ) (candles : List (Candle K)) : Set ℤ :=
  {t | IsSettlement settlement_hours t ∧ ∃ first ∈ candles.head?, ∃ last ∈ candles.getLast?,
    first.timestamp < t ∧ t ≤ last.timestamp}

/-- Hours of a day, each listed once. -/
structure DayHours (settlement_hours : List ℤ) : Prop where
  nodup : settlement_hours.Nodup
  nonneg : ∀ hour ∈ settlement_hours, 0 ≤ hour
  lt : ∀ hour ∈ settlement_hours, hour < 24

theorem dayHours_of_venue {venue : String} {settlement_hours : List ℤ}
    (h : funding_settlement_hours venue = some settlement_hours) : DayHours settlement_hours := by
  unfold funding_settlement_hours at h
  dsimp only at h
  split_ifs at h
  obtain rfl := Option.some.inj h
  exact ⟨by decide, by decide, by decide⟩

/-- The day of an instant at an hour of a day. -/
theorem day_of_settlement (day : ℤ) {hour : ℤ} (h0 : 0 ≤ hour) (h24 : hour < 24) :
    (day * day_us + hour * hour_us) / day_us = day := by
  unfold day_us hour_us
  omega

/-! ## One bar -/

/-- The settlements of the days from one instant's to another's. -/
def settlements_of_days (settlement_hours : List ℤ) (start finish : ℤ) : List ℤ :=
  (List.range (finish / day_us - start / day_us + 1).toNat).flatMap fun d : ℕ =>
    settlement_hours.map fun hour => (start / day_us + (d : ℤ)) * day_us + hour * hour_us

theorem mem_settlements_of_days {settlement_hours : List ℤ} (hhours : DayHours settlement_hours)
    {start finish t : ℤ} (hspan : start < t ∧ t ≤ finish) :
    t ∈ settlements_of_days settlement_hours start finish ↔ IsSettlement settlement_hours t := by
  unfold settlements_of_days IsSettlement
  simp only [List.mem_flatMap, List.mem_range, List.mem_map]
  constructor
  · rintro ⟨d, -, hour, hhour, rfl⟩
    exact ⟨start / day_us + d, hour, hhour, rfl⟩
  · rintro ⟨day, hour, hhour, rfl⟩
    have hday := day_of_settlement day (hhours.nonneg hour hhour) (hhours.lt hour hhour)
    -- the day of an instant between two others lies between their days
    have hfirst : start / day_us ≤ day := by
      rw [← hday]
      exact Int.ediv_le_ediv (by unfold day_us; omega) hspan.1.le
    have hlast : day ≤ finish / day_us := by
      rw [← hday]
      exact Int.ediv_le_ediv (by unfold day_us; omega) hspan.2
    have hindex := Int.toNat_of_nonneg (sub_nonneg.mpr hfirst)
    refine ⟨(day - start / day_us).toNat, by omega, hour, hhour, ?_⟩
    rw [hindex, add_sub_cancel]

theorem nodup_settlements_of_days {settlement_hours : List ℤ}
    (hhours : DayHours settlement_hours) (start finish : ℤ) :
    (settlements_of_days settlement_hours start finish).Nodup := by
  unfold settlements_of_days
  rw [List.nodup_flatMap]
  constructor
  · intro d _
    refine (List.nodup_map_iff_inj_on hhours.nodup).mpr ?_
    intro hour _ hour' _ heq
    unfold day_us hour_us at heq
    omega
  · refine List.Pairwise.imp ?_ List.nodup_range
    intro d d' hne t ht ht'
    obtain ⟨hour, hhour, rfl⟩ := List.mem_map.mp ht
    obtain ⟨hour', hhour', heq⟩ := List.mem_map.mp ht'
    have hday := congrArg (· / day_us) heq
    rw [day_of_settlement _ (hhours.nonneg _ hhour') (hhours.lt _ hhour'),
      day_of_settlement _ (hhours.nonneg _ hhour) (hhours.lt _ hhour)] at hday
    omega

/-- A bar is charged the settlements after the bar before it and not after itself. -/
theorem count_funding_events_between_eq {settlement_hours : List ℤ}
    (hhours : DayHours settlement_hours) (previous_timestamp current_timestamp : ℤ) :
    count_funding_events_between previous_timestamp current_timestamp settlement_hours
      = spanCount {t | IsSettlement settlement_hours t} previous_timestamp current_timestamp := by
  by_cases hle : current_timestamp ≤ previous_timestamp
  · rw [spanCount_of_le _ hle, count_funding_events_between, if_pos hle]
  · have hcount : count_funding_events_between previous_timestamp current_timestamp
        settlement_hours
        = (settlements_of_days settlement_hours previous_timestamp current_timestamp).countP
            fun t => decide (previous_timestamp < t ∧ t ≤ current_timestamp) := by
      rw [count_funding_events_between, if_neg hle, settlements_of_days]
      simp only [List.bind_eq_flatMap, List.pure_def, List.flatMap_assoc, List.flatMap_singleton]
    have hset : Set.Ioc previous_timestamp current_timestamp
          ∩ {t | IsSettlement settlement_hours t}
        = (((settlements_of_days settlement_hours previous_timestamp current_timestamp).filter
            fun t => decide (previous_timestamp < t ∧ t ≤ current_timestamp)).toFinset : Finset ℤ)
        := by
      ext t
      simp only [Set.mem_inter_iff, Set.mem_Ioc, Set.mem_ofPred_eq, Finset.mem_coe,
        List.mem_toFinset, List.mem_filter, decide_eq_true_eq]
      constructor
      · rintro ⟨hspan, ht⟩
        exact ⟨(mem_settlements_of_days hhours hspan).mpr ht, hspan⟩
      · rintro ⟨ht, hspan⟩
        exact ⟨hspan, (mem_settlements_of_days hhours hspan).mp ht⟩
    rw [hcount, List.countP_eq_length_filter, spanCount, hset, Set.ncard_coe_finset,
      List.toFinset_card_of_nodup ((nodup_settlements_of_days hhours _ _).filter _)]

/-! ## Eight-hour venues -/

/-- The number of eight-hour marks up to an instant. -/
def settlement_period (t : ℤ) : ℤ := t / (8 * hour_us)

theorem settlement_hours_of_venue {venue : String} {settlement_hours : List ℤ}
    (h : funding_settlement_hours venue = some settlement_hours) :
    settlement_hours = [0, 8, 16] := by
  unfold funding_settlement_hours at h
  dsimp only at h
  split_ifs at h
  exact (Option.some.inj h).symm

/-- Zero, eight and sixteen o'clock of every day are the multiples of eight hours. -/
theorem isSettlement_iff_dvd (t : ℤ) : IsSettlement [0, 8, 16] t ↔ 8 * hour_us ∣ t := by
  unfold IsSettlement day_us hour_us
  simp only [List.mem_cons, List.not_mem_nil, or_false]
  constructor
  · rintro ⟨day, hour, hhour, rfl⟩
    rcases hhour with rfl | rfl | rfl <;> omega
  · intro hdvd
    obtain ⟨mark, rfl⟩ := hdvd
    refine ⟨mark / 3, 8 * (mark % 3), ?_, ?_⟩ <;> omega

theorem spanCount_settlements {venue : String} {settlement_hours : List ℤ}
    (h : funding_settlement_hours venue = some settlement_hours) (a b : ℤ) :
    spanCount {t | IsSettlement settlement_hours t} a b
      = (settlement_period b - settlement_period a).toNat := by
  rw [settlement_hours_of_venue h]
  simp only [isSettlement_iff_dvd]
  exact spanCount_multiples (by unfold hour_us; omega) a b

theorem settlement_period_mono {a b : ℤ} (h : a ≤ b) :
    settlement_period a ≤ settlement_period b :=
  Int.ediv_le_ediv (by unfold hour_us; omega) h

/-! ## A run of bars -/

theorem sum_map_range_cast (f : ℕ → ℕ) (n : ℕ) :
    ((List.range n).map fun i => (f i : ℤ)).sum = (∑ i ∈ Finset.range n, f i : ℕ) := by
  induction n with
  | zero => rfl
  | succ n ih =>
      rw [List.range_succ, List.map_append, List.sum_append, ih, Finset.sum_range_succ]
      simp

/-- The timestamp of a bar. -/
def bar_timestamp (candles : List (Candle K)) (index : ℕ) : ℤ :=
  (candles.getD index Candle.missing).timestamp

theorem funding_event_count_at_succ {candles : List (Candle K)} {venue : String}
    {settlement_hours : List ℤ} (hvenue : funding_settlement_hours venue = some settlement_hours)
    (index : ℕ) :
    funding_event_count_at candles venue (index + 1)
      = spanCount {t | IsSettlement settlement_hours t} (bar_timestamp candles index)
          (bar_timestamp candles (index + 1)) := by
  rw [← count_funding_events_between_eq (dayHours_of_venue hvenue)]
  simp only [funding_event_count_at, hvenue, Nat.add_one_ne_zero, if_false,
    Nat.add_sub_cancel, bar_timestamp]

theorem funding_event_count_at_zero {candles : List (Candle K)} {venue : String}
    {settlement_hours : List ℤ}
    (hvenue : funding_settlement_hours venue = some settlement_hours) :
    funding_event_count_at candles venue 0 = 0 := by
  simp only [funding_event_count_at, hvenue, if_true]

theorem bar_timestamp_mono {candles : List (Candle K)}
    (hordered : candles.Pairwise fun a b => a.timestamp ≤ b.timestamp) {i j : ℕ} (hij : i ≤ j)
    (hj : j < candles.length) : bar_timestamp candles i ≤ bar_timestamp candles j := by
  rcases Nat.eq_or_lt_of_le hij with rfl | hlt
  · exact le_rfl
  · unfold bar_timestamp
    rw [List.getD_eq_getElem _ _ (hlt.trans hj), List.getD_eq_getElem _ _ hj]
    exact List.pairwise_iff_getElem.mp hordered i j _ hj hlt

/-- The charges of bars in time order add up to the settlements from the first bar to
the last. -/
theorem sum_compute_funding_event_counts {candles : List (Candle K)} {venue : String}
    {settlement_hours : List ℤ}
    (hvenue : funding_settlement_hours venue = some settlement_hours)
    (hordered : candles.Pairwise fun a b => a.timestamp ≤ b.timestamp) :
    (compute_funding_event_counts candles venue).sum
      = (spanCount {t | IsSettlement settlement_hours t} (bar_timestamp candles 0)
          (bar_timestamp candles (candles.length - 1)) : ℕ) := by
  rw [compute_funding_event_counts, sum_map_range_cast]
  refine congrArg Nat.cast ?_
  cases hlength : candles.length with
  | zero => rw [Nat.zero_sub, spanCount_of_le _ le_rfl, Finset.sum_range_zero]
  | succ n =>
      rw [Finset.sum_range_succ', funding_event_count_at_zero hvenue, add_zero,
        Finset.sum_congr rfl fun i _ => funding_event_count_at_succ hvenue i]
      refine (sum_spanCount _ (bar_timestamp candles) ?_).1
      intro i hi
      exact bar_timestamp_mono hordered (Nat.le_succ i) (by omega)

theorem settlements_spanned_eq (settlement_hours : List ℤ) {candles : List (Candle K)}
    (hne : candles ≠ []) :
    settlements_spanned settlement_hours candles
      = Set.Ioc (bar_timestamp candles 0) (bar_timestamp candles (candles.length - 1))
          ∩ {t | IsSettlement settlement_hours t} := by
  have hlast := List.getLast?_eq_some_getLast hne
  obtain ⟨first, rest, rfl⟩ := List.exists_cons_of_ne_nil hne
  have hend : bar_timestamp (first :: rest) ((first :: rest).length - 1)
      = ((first :: rest).getLast hne).timestamp := by
    rw [bar_timestamp, List.getLast_eq_getElem, List.getD_eq_getElem _ _ (by simp)]
  ext t
  simp only [settlements_spanned, List.head?_cons, hlast, Option.mem_some_iff, exists_eq_left',
    Set.mem_ofPred_eq, Set.mem_inter_iff, Set.mem_Ioc, hend]
  exact and_comm

theorem bar_timestamp_append_left {candles : List (Candle K)} (hne : candles ≠ [])
    (more : List (Candle K)) : bar_timestamp (candles ++ more) 0 = bar_timestamp candles 0 := by
  obtain ⟨first, rest, rfl⟩ := List.exists_cons_of_ne_nil hne
  rfl

theorem bar_timestamp_append_right {candles : List (Candle K)} (hne : candles ≠ [])
    (more : List (Candle K)) :
    bar_timestamp (more ++ candles) ((more ++ candles).length - 1)
      = bar_timestamp candles (candles.length - 1) := by
  have hpos : 0 < candles.length := List.length_pos_iff.mpr hne
  unfold bar_timestamp
  rw [List.length_append, List.getD_append_right _ _ _ _ (by omega)]
  congr 2
  omega

/-- **Funding settlements are counted once.** Over bars in time order the charges add
up to the number of settlement instants from the first bar to the last, and a bar in
between changes nothing. -/
theorem funding_settlements_counted_once {venue : String} {settlement_hours : List ℤ}
    (hvenue : funding_settlement_hours venue = some settlement_hours)
    {candles : List (Candle K)}
    (hordered : candles.Pairwise fun a b => a.timestamp ≤ b.timestamp) :
    ((settlements_spanned settlement_hours candles).Finite ∧
      (compute_funding_event_counts candles venue).sum
        = ((settlements_spanned settlement_hours candles).ncard : ℤ)) ∧
    ∀ before bar after, candles = before ++ bar :: after → before ≠ [] → after ≠ [] →
      (compute_funding_event_counts (before ++ after) venue).sum
        = (compute_funding_event_counts candles venue).sum := by
  refine ⟨?_, ?_⟩
  · rw [sum_compute_funding_event_counts hvenue hordered]
    by_cases hne : candles = []
    · have hempty : settlements_spanned settlement_hours candles = ∅ := by
        rw [hne]
        ext t
        simp [settlements_spanned]
      rw [hempty, hne, Set.ncard_empty]
      exact ⟨Set.finite_empty, congrArg Nat.cast (spanCount_of_le _ le_rfl)⟩
    · rw [settlements_spanned_eq settlement_hours hne]
      exact ⟨finite_span _ _ _, rfl⟩
  · rintro before bar after rfl hbefore hafter
    -- the shorter list is in time order too, and starts and ends on the same bars
    have hshort : (before ++ after).Pairwise fun a b => a.timestamp ≤ b.timestamp :=
      hordered.sublist (List.Sublist.append_left (List.sublist_cons_self bar after) before)
    rw [sum_compute_funding_event_counts hvenue hordered,
      sum_compute_funding_event_counts hvenue hshort]
    have hfirst := bar_timestamp_append_left hbefore
    have hlast := bar_timestamp_append_right hafter
    rw [hfirst after, hlast before, hfirst (bar :: after),
      List.append_cons, hlast (before ++ [bar])]

/-- Three bars of 1 January 1970, at seven, at nine and an hour after midnight. -/
def night_bars : List (Candle ℚ) :=
  [⟨7 * hour_us, 1, 1, 1⟩, ⟨9 * hour_us, 1, 1, 1⟩, ⟨25 * hour_us, 1, 1, 1⟩]

/-- They are charged the settlements at eight, at sixteen and at midnight. -/
theorem funding_settlements_counted_once_night :
    compute_funding_event_counts night_bars "binance" = [0, 1, 2] ∧
    (settlements_spanned [0, 8, 16] night_bars).ncard = 3 := by
  have hcounts : compute_funding_event_counts night_bars "binance" = [0, 1, 2] := by
    decide +kernel
  have hvenue : funding_settlement_hours "binance" = some [0, 8, 16] := by decide +kernel
  have honce := funding_settlements_counted_once hvenue
    (by decide +kernel : night_bars.Pairwise fun a b => a.timestamp ≤ b.timestamp)
  refine ⟨hcounts, ?_⟩
  have hsum := honce.1.2
  have htotal : ([0, 1, 2] : List ℤ).sum = 3 := rfl
  rw [hcounts, htotal] at hsum
  exact_mod_cast hsum.symm

end ProofAlpha.Backtest
