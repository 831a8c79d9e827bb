/-
Which bars an archive snapshot holds.

The server takes `endTime` as inclusive while the fetch passes the midnight at
which the period ends, so it also returns the bar that opens there (`overlap`),
unless the paging stops one bar short of it (`StopsShort`). `fetch_rows` gives the
rows of a period, by induction over the pages: one that is full has the bars up to
its last, where the next one begins (`full_page`).

The periods tile the range (`iter_archive_periods_tiles`). An archive has the bars
of its period, and the REST server one more when a bar opens at the midnight at
which the period ends (`SpillsOver`). The textual sort is the order of time, and
the rows are counted period by period: the snapshot has every bar of the range
once if and only if no period that falls back spills over.
-/
import ProofAlpha.Data.ArchivePeriods
import ProofAlpha.Lib.Paging

set_option autoImplicit false

namespace ProofAlpha.Data

open ProofAlpha.Lib

variable {K : Type}

section Pages

/-! ## Bars between two times -/

variable (exchange : Exchange K)

theorem bars_strict : Strict Kline.open_time exchange.bars := exchange.sorted

theorem bars_between_append {a b c : ℤ} (hab : a ≤ b) (hbc : b ≤ c) :
    exchange.bars_between a b ++ exchange.bars_between b c = exchange.bars_between a c :=
  between_append (bars_strict exchange).inOrder hab hbc

theorem mem_bars_between {a b : ℤ} {bar : Kline K} :
    bar ∈ exchange.bars_between a b ↔ bar ∈ exchange.bars ∧ a ≤ bar.open_time ∧ bar.open_time < b :=
  mem_between

theorem bars_between_sorted (a b : ℤ) :
    (exchange.bars_between a b).Pairwise fun x y => x.open_time < y.open_time :=
  exchange.sorted.filter _

/-- A full page ends at the bar `last`: it has the bars up to `last`, and the next page begins
right after it. -/
theorem full_page {a b : ℤ} {n : ℕ} {last : Kline K}
    (hlast : ((exchange.bars_between a b).take n).getLast? = some last) :
    (exchange.bars_between a b).take n = exchange.bars_between a (last.open_time + 1)
      ∧ a ≤ last.open_time ∧ last.open_time < b := by
  have hmem : last ∈ exchange.bars_between a b :=
    List.mem_of_mem_take (List.mem_of_getLast? hlast)
  exact ⟨(bars_strict exchange).take_between_eq hlast, ((mem_bars_between exchange).mp hmem).2⟩

/-! ## Pages -/

/-- The paging stops one bar short of the midnight: full pages bring it up to a bar that opens a
millisecond before. -/
def StopsShort (start stop : ℤ) : Prop :=
  BINANCE_MAX_KLINES ∣ (exchange.bars_between start stop).length
    ∧ ∃ bar ∈ exchange.bars, bar.open_time = stop - 1

instance (start stop : ℤ) : Decidable (StopsShort exchange start stop) :=
  inferInstanceAs (Decidable (_ ∧ _))

/-- Where the paging stops short there is a full page of bars. -/
theorem full_of_stopsShort {start stop : ℤ} (h : start < stop)
    (hshort : StopsShort exchange start stop) :
    BINANCE_MAX_KLINES ≤ (exchange.bars_between start stop).length := by
  obtain ⟨hdvd, bar, hbar, hopen⟩ := hshort
  have hmem : bar ∈ exchange.bars_between start stop :=
    (mem_bars_between exchange).mpr ⟨hbar, by omega, by omega⟩
  exact Nat.le_of_dvd (List.length_pos_of_mem hmem) hdvd

/-- What the server has for a request beyond the period: the bar that opens at its end. -/
def overlap (start stop : ℤ) : List (Kline K) :=
  if StopsShort exchange start stop then [] else exchange.bars_between stop (stop + 1)

/-- Past a full page that ends before the last millisecond, the rest of the period has the same
overlap. -/
theorem overlap_of_full_page {start middle stop : ℤ} (hle : start ≤ middle) (hlt : middle < stop)
    (hfull : (exchange.bars_between start middle).length = BINANCE_MAX_KLINES) :
    overlap exchange start stop = overlap exchange middle stop := by
  have hshort : StopsShort exchange start stop ↔ StopsShort exchange middle stop := by
    rw [StopsShort, StopsShort, ← bars_between_append exchange hle hlt.le, List.length_append, hfull,
      Nat.dvd_add_right (dvd_refl _)]
  rw [overlap, overlap, if_congr hshort rfl rfl]

/-- With less than a full page of bars before the midnight, everything up to the bar that opens
at it is fetched. -/
theorem overlap_of_lt_page {start stop : ℤ} (h : start < stop)
    (hlt : (exchange.bars_between start stop).length < BINANCE_MAX_KLINES) :
    exchange.bars_between start (stop + 1)
      = exchange.bars_between start stop ++ overlap exchange start stop := by
  rw [overlap, if_neg, bars_between_append exchange h.le (by omega)]
  intro hstops
  have hfull := full_of_stopsShort exchange h hstops
  omega

/-- A full page ends after its first bar. -/
theorem lt_of_full_page {a b : ℤ} {last : Kline K}
    (hfull : (exchange.bars_between a b).length = BINANCE_MAX_KLINES)
    (hlast : (exchange.bars_between a b).getLast? = some last) : a < last.open_time := by
  have htwo : 2 ≤ (exchange.bars_between a b).length := by
    rw [hfull]
    decide
  exact (bars_strict exchange).lt_getLast List.filter_sublist
    (fun bar hbar => ((mem_bars_between exchange).mp hbar).2.1) htwo hlast

theorem fetch_done {klines : ℤ → ℤ → List (Kline K)} {end_ms current_start : ℤ}
    (h : end_ms ≤ current_start) : fetch_binance_klines klines end_ms current_start = [] := by
  unfold fetch_binance_klines
  rw [if_neg (by omega)]

/-- The rows of a REST period: its bars, and the one that opens at its end. -/
theorem fetch_rows {start stop : ℤ} (h : start < stop) :
    fetch_binance_klines exchange.rest_klines stop start
      = (exchange.bars_between start stop ++ overlap exchange start stop).map rest_row := by
  -- by induction on the time left, page after page
  induction hn : (stop - start).toNat using Nat.strong_induction_on generalizing start with
  | _ n ih =>
  have hwhole := bars_between_append exchange h.le (show stop ≤ stop + 1 by omega)
  unfold fetch_binance_klines
  rw [if_pos h]
  dsimp only
  split
  · next hnone =>
      have hnil : exchange.bars_between start (stop + 1) = [] := by
        have htake := List.getLast?_eq_none_iff.mp hnone
        rw [Exchange.rest_klines, List.take_eq_nil_iff] at htake
        exact htake.resolve_left (by decide)
      rw [hnil, List.append_eq_nil_iff] at hwhole
      rw [← overlap_of_lt_page exchange h (by simp [hwhole.1, BINANCE_MAX_KLINES]), hnil, List.map_nil]
  · next last hlast =>
      obtain ⟨hpage, hle, hlt⟩ := full_page exchange hlast
      change exchange.rest_klines start stop = _ at hpage
      rcases Nat.lt_or_ge (exchange.rest_klines start stop).length BINANCE_MAX_KLINES with
        hlength | hlength
      · -- the last page
        rw [dif_pos (.inr hlength)]
        rw [Exchange.rest_klines, List.length_take] at hlength
        have hshort : (exchange.bars_between start (stop + 1)).length < BINANCE_MAX_KLINES := by omega
        have hbefore : (exchange.bars_between start stop).length < BINANCE_MAX_KLINES := by
          rw [← hwhole, List.length_append] at hshort
          omega
        rw [← overlap_of_lt_page exchange h hbefore, Exchange.rest_klines,
          List.take_of_length_le hshort.le]
      · have hfull : (exchange.rest_klines start stop).length = BINANCE_MAX_KLINES :=
          le_antisymm (List.length_take_le _ _) hlength
        rw [hpage] at hfull hlast
        have hafter : start < last.open_time := lt_of_full_page exchange hfull hlast
        have hbar : last ∈ exchange.bars :=
          ((mem_bars_between exchange).mp (List.mem_of_getLast? hlast)).1
        rw [dif_neg (by omega), hpage]
        rcases lt_trichotomy last.open_time (stop - 1) with hlast_lt | hlast_eq | hlast_gt
        · -- the next page begins within the period
          have hnext : last.open_time + 1 < stop := by omega
          rw [ih _ (by omega) hnext rfl, ← List.map_append, ← List.append_assoc,
            bars_between_append exchange (by omega) hnext.le,
            overlap_of_full_page exchange (by omega) hnext hfull]
        · have hstop : last.open_time + 1 = stop := by omega
          rw [hstop] at hfull ⊢
          have hstops : StopsShort exchange start stop :=
            ⟨by rw [hfull], last, hbar, hlast_eq⟩
          rw [fetch_done le_rfl, overlap, if_pos hstops, List.append_nil, List.append_nil]
        · -- the page ends with the bar that opens at the midnight
          have hstop : last.open_time = stop := by omega
          have hopens : last ∈ exchange.bars_between stop (stop + 1) :=
            (mem_bars_between exchange).mpr ⟨hbar, by omega, by omega⟩
          rw [hstop, ← hwhole, List.length_append] at hfull
          have hbefore : (exchange.bars_between start stop).length < BINANCE_MAX_KLINES := by
            have hpos := List.length_pos_of_mem hopens
            omega
          rw [fetch_done (by omega), hstop, List.append_nil, overlap_of_lt_page exchange h hbefore]

end Pages

/-! ## The bars of a tiling -/

/-- A candle without its trade count, which the REST rows do not have. -/
def CandleRow.candle (row : CandleRow K) : CandleRow K := { row with trade_count := none }

theorem candle_rest_row (bar : Kline K) : (rest_row bar).candle = rest_row bar := rfl

theorem candle_archive_row (bar : Kline K) : (archive_row bar).candle = rest_row bar := rfl

theorem midnight_mono {d d' : ℕ} (h : d ≤ d') : midnight d ≤ midnight d' := by
  unfold midnight DAY_MS
  omega

theorem midnight_lt {d d' : ℕ} (h : d < d') : midnight d < midnight d' := by
  unfold midnight DAY_MS
  omega

variable (exchange : Exchange K)

/-- The bars of a period. -/
def period_bars (period : ArchivePeriod) : List (Kline K) :=
  exchange.bars_between (midnight period.period_start) (midnight (period.period_end + 1))

/-- What a period that falls back to REST has beyond its bars. -/
def spill (available : ArchivePeriod → Bool) (period : ArchivePeriod) : List (Kline K) :=
  if available period then []
  else overlap exchange (midnight period.period_start) (midnight (period.period_end + 1))

/-- A period and the bar that opens at its end. -/
theorem period_rows_candles {available : ArchivePeriod → Bool} {period : ArchivePeriod}
    (h : period.period_start ≤ period.period_end) :
    (period_rows exchange available period).map CandleRow.candle
      = (period_bars exchange period ++ spill exchange available period).map rest_row := by
  rw [period_rows, spill]
  split_ifs with havailable
  · rw [List.append_nil, List.map_map]
    exact List.map_congr_left fun bar _ => candle_archive_row bar
  · rw [fetch_rows exchange (midnight_lt (Nat.lt_succ_of_le h)), List.map_map]
    exact List.map_congr_left fun bar _ => candle_rest_row bar

/-- The bars of the periods are those of the range they tile. -/
theorem flatMap_period_bars {stop first : ℕ} {periods : List ArchivePeriod}
    (h : Tiles stop first periods) :
    periods.flatMap (period_bars exchange) = exchange.bars_between (midnight first) (midnight stop) := by
  induction h with
  | done =>
      rw [List.flatMap_nil]
      symm
      rw [List.eq_nil_iff_forall_not_mem]
      intro bar hbar
      have hbetween := (mem_bars_between exchange).mp hbar
      omega
  | @cons _ first last _ hle _ hrest ih =>
      have hnext : first ≤ last + 1 := by omega
      rw [List.flatMap_cons, ih]
      exact bars_between_append exchange (midnight_mono hnext) (midnight_mono hrest.le)

theorem Tiles.period_le {stop first : ℕ} {periods : List ArchivePeriod} (h : Tiles stop first periods)
    {period : ArchivePeriod} (hperiod : period ∈ periods) : period.period_start ≤ period.period_end := by
  induction h with
  | done => contradiction
  | cons hle hlt hrest ih =>
      rcases List.mem_cons.mp hperiod with rfl | hperiod
      · exact hle
      · exact ih hperiod

/-- The rows of a tiling, before they are sorted. -/
theorem flatMap_period_rows_candles {available : ArchivePeriod → Bool} {stop first : ℕ}
    {periods : List ArchivePeriod} (h : Tiles stop first periods) :
    (periods.flatMap (period_rows exchange available)).map CandleRow.candle
      = (periods.flatMap fun period =>
          period_bars exchange period ++ spill exchange available period).map rest_row := by
  rw [List.map_flatMap, List.map_flatMap]
  refine List.flatMap_congr fun period hperiod => ?_
  exact period_rows_candles exchange (h.period_le hperiod)

theorem length_flatMap_append {α β : Type} (f g : α → List β) (xs : List α) :
    (xs.flatMap fun x => f x ++ g x).length = (xs.flatMap f).length + (xs.flatMap g).length := by
  induction xs with
  | nil => rfl
  | cons x xs ih =>
      simp only [List.flatMap_cons, List.length_append] at ih ⊢
      omega

/-- There is a row for each bar of the range, and one for each bar too many. -/
theorem length_flatMap_period_rows {available : ArchivePeriod → Bool} {stop first : ℕ}
    {periods : List ArchivePeriod} (h : Tiles stop first periods) :
    (periods.flatMap (period_rows exchange available)).length
      = (exchange.bars_between (midnight first) (midnight stop)).length
        + (periods.flatMap (spill exchange available)).length := by
  rw [← flatMap_period_bars exchange h, ← length_flatMap_append,
    ← List.length_map CandleRow.candle, flatMap_period_rows_candles exchange h, List.length_map]

/-! ## The order of the rows -/

/-- The days of the bars between two midnights are dates. -/
theorem ordinal_of_bounds {first stop : ℕ} {ms : ℤ} (hfirst : 1 ≤ first)
    (hstop : stop ≤ DATE_MAX + 1) (hle : midnight first ≤ ms) (hlt : ms < midnight stop) :
    1 ≤ ordinal_of ms ∧ ordinal_of ms ≤ DATE_MAX := by
  unfold midnight ordinal_of DAY_MS EPOCH_ORDINAL at *
  omega

/-- The texts of the bars' times are in the order of the bars. -/
theorem bars_between_texts_sorted {first stop : ℕ} (hfirst : 1 ≤ first)
    (hstop : stop ≤ DATE_MAX + 1) :
    ((exchange.bars_between (midnight first) (midnight stop)).map rest_row).Pairwise
      fun a b => a.timestamp ≤ b.timestamp := by
  rw [List.pairwise_map]
  refine (bars_between_sorted exchange _ _).imp_of_mem fun {a b} ha hb hlt => ?_
  obtain ⟨-, hafirst, hastop⟩ := (mem_bars_between exchange).mp ha
  obtain ⟨-, hbfirst, hbstop⟩ := (mem_bars_between exchange).mp hb
  exact iso_text_mono (ordinal_of_bounds hfirst hstop hafirst hastop).1
    (ordinal_of_bounds hfirst hstop hbfirst hbstop).2 hlt.le

/-- When nothing spills over, the rows are in order before they are sorted. -/
theorem insertionSort_flatMap_period_rows {available : ArchivePeriod → Bool} {stop first : ℕ}
    {periods : List ArchivePeriod} (h : Tiles stop first periods) (hfirst : 1 ≤ first)
    (hstop : stop ≤ DATE_MAX + 1) (hspill : ∀ period ∈ periods, spill exchange available period = []) :
    (((periods.flatMap (period_rows exchange available)).insertionSort fun a b =>
        a.timestamp ≤ b.timestamp).map CandleRow.candle)
      = (exchange.bars_between (midnight first) (midnight stop)).map rest_row := by
  have hcandles : (periods.flatMap (period_rows exchange available)).map CandleRow.candle
      = (exchange.bars_between (midnight first) (midnight stop)).map rest_row := by
    rw [flatMap_period_rows_candles exchange h, ← flatMap_period_bars exchange h]
    congr 1
    refine List.flatMap_congr fun period hperiod => ?_
    rw [hspill period hperiod, List.append_nil]
  have hsorted := bars_between_texts_sorted exchange hfirst hstop
  rw [← hcandles, List.pairwise_map] at hsorted
  rw [List.Pairwise.insertionSort_eq (r := fun a b : CandleRow K => a.timestamp ≤ b.timestamp) hsorted,
    hcandles]

/-! ## Each bar once -/

/-- A period that falls back to REST has a bar too many: one opens at the midnight at which the
period ends, and the paging does not stop short of it. -/
def SpillsOver (period : ArchivePeriod) : Prop :=
  (∃ bar ∈ exchange.bars, bar.open_time = midnight (period.period_end + 1))
    ∧ ¬StopsShort exchange (midnight period.period_start) (midnight (period.period_end + 1))

theorem spill_eq_nil_iff {available : ArchivePeriod → Bool} {period : ArchivePeriod} :
    spill exchange available period = []
      ↔ (available period = false → ¬SpillsOver exchange period) := by
  rw [spill, overlap, SpillsOver]
  cases available period with
  | true => simp
  | false =>
      rw [if_neg Bool.false_ne_true]
      split_ifs with hshort
      · simp [hshort]
      · rw [List.eq_nil_iff_forall_not_mem]
        constructor
        · rintro hnone - ⟨⟨bar, hbar, hopen⟩, -⟩
          exact hnone bar ((mem_bars_between exchange).mpr ⟨hbar, by omega, by omega⟩)
        · intro hnone bar hbar
          obtain ⟨hbar, hle, hlt⟩ := (mem_bars_between exchange).mp hbar
          exact hnone rfl ⟨⟨bar, hbar, by omega⟩, hshort⟩

/-- The result has every bar of the range once, in the order of time. -/
def HoldsEachBarOnce (start_day end_day : PyDate)
    (result : Except String (List (CandleRow K))) : Prop :=
  ∃ rows, result = .ok rows ∧ rows.map CandleRow.candle
    = (exchange.bars_between (midnight start_day.ordinal) (midnight (end_day.ordinal + 1))).map rest_row

theorem archive_candle_rows_eq (available : ArchivePeriod → Bool) {start_day end_day : PyDate}
    (h : start_day.ordinal ≤ end_day.ordinal) :
    archive_candle_rows exchange available start_day end_day
      = (iter_archive_periods start_day end_day).map fun periods =>
          (periods.flatMap (period_rows exchange available)).insertionSort fun a b =>
            a.timestamp ≤ b.timestamp := by
  rw [archive_candle_rows, decide_eq_true h]
  cases iter_archive_periods start_day end_day with
  | error error => rfl
  | ok periods => rfl

/-- As many rows as bars leave no row for a bar that spills over. -/
theorem no_spill_of_holdsEachBarOnce {available : ArchivePeriod → Bool} {start_day end_day : PyDate}
    (h : start_day.ordinal ≤ end_day.ordinal) {periods : List ArchivePeriod}
    (hperiods : iter_archive_periods start_day end_day = .ok periods)
    (hholds : HoldsEachBarOnce exchange start_day end_day
      (archive_candle_rows exchange available start_day end_day))
    {period : ArchivePeriod} (hperiod : period ∈ periods) (hrest : available period = false) :
    ¬SpillsOver exchange period := by
  obtain ⟨rows, hrows, hcandles⟩ := hholds
  rw [archive_candle_rows_eq exchange available h, hperiods] at hrows
  obtain rfl := Except.ok.inj hrows
  have htiles := iter_archive_periods_tiles (by omega) hperiods
  have hlength := congrArg List.length hcandles
  rw [List.length_map, List.length_map, (List.perm_insertionSort _ _).length_eq,
    length_flatMap_period_rows exchange htiles] at hlength
  have hnil : periods.flatMap (spill exchange available) = [] :=
    List.eq_nil_of_length_eq_zero (by omega)
  exact (spill_eq_nil_iff exchange).mp (List.flatMap_eq_nil_iff.mp hnil period hperiod) hrest

/-- Without a bar that spills over, the rows are the bars of the range. -/
theorem holdsEachBarOnce_of_no_spill {available : ArchivePeriod → Bool} {start_day end_day : PyDate}
    (h : start_day.ordinal ≤ end_day.ordinal) {periods : List ArchivePeriod}
    (hperiods : iter_archive_periods start_day end_day = .ok periods)
    (hspill : ∀ period ∈ periods, available period = false → ¬SpillsOver exchange period) :
    HoldsEachBarOnce exchange start_day end_day
      (archive_candle_rows exchange available start_day end_day) := by
  have htiles := iter_archive_periods_tiles (by omega) hperiods
  rw [archive_candle_rows_eq exchange available h, hperiods]
  refine ⟨_, rfl, insertionSort_flatMap_period_rows exchange htiles start_day.min ?_ ?_⟩
  · have hmax := end_day.max
    omega
  · intro period hperiod
    exact (spill_eq_nil_iff exchange).mpr (hspill period hperiod)

/-- A snapshot has every bar of its range once if and only if the range ends before December 9999
and no period that falls back to REST spills over. -/
theorem archive_holds_each_bar_once_iff (available : ArchivePeriod → Bool)
    {start_day end_day : PyDate} (h : start_day.ordinal ≤ end_day.ordinal) :
    HoldsEachBarOnce exchange start_day end_day
        (archive_candle_rows exchange available start_day end_day)
      ↔ end_day.ordinal < LAST_MONTH
        ∧ ∀ periods, iter_archive_periods start_day end_day = .ok periods →
          ∀ period ∈ periods, available period = false → ¬SpillsOver exchange period := by
  constructor
  · intro hholds
    obtain ⟨rows, hrows, -⟩ := id hholds
    rw [archive_candle_rows_eq exchange available h] at hrows
    obtain ⟨periods, hperiods, -⟩ := map_ok hrows
    refine ⟨before_last_of_iter_archive_periods h hperiods, fun periods hperiods period hperiod => ?_⟩
    exact no_spill_of_holdsEachBarOnce exchange h hperiods hholds hperiod
  · rintro ⟨hlast, hspill⟩
    obtain ⟨periods, hperiods⟩ := iter_archive_periods_ok hlast start_day
    exact holdsEachBarOnce_of_no_spill exchange h hperiods (hspill periods hperiods)

/-- The hours of a day from the noon on. -/
def afternoon : Exchange ℚ where
  bars := [⟨43200000, 100, 101, 99, 100, 5, 12⟩, ⟨46800000, 100, 102, 98, 101, 3, 9⟩]
  sorted := by decide

/-- The first of January 1970. -/
def first_day : PyDate := ⟨719163, by decide, by decide⟩

/-- A day of REST rows without a bar at its end. -/
theorem archive_holds_the_afternoon_once : HoldsEachBarOnce afternoon first_day first_day
    (archive_candle_rows afternoon (fun _ => false) first_day first_day) := by
  refine (archive_holds_each_bar_once_iff afternoon (fun _ => false) le_rfl).mpr ⟨by decide, ?_⟩
  rintro periods - period - - ⟨⟨bar, hbar, hopen⟩, -⟩
  have hnoon : ∀ bar ∈ afternoon.bars, bar.open_time % DAY_MS ≠ 0 := by decide
  refine hnoon bar hbar ?_
  rw [hopen, midnight, Int.mul_emod_left]

/-- The last hour of a day and the first of the next. -/
def around_midnight : Exchange ℚ where
  bars := [⟨82800000, 100, 101, 99, 100, 5, 12⟩, ⟨86400000, 100, 102, 98, 101, 3, 9⟩]
  sorted := by decide

/-- The REST rows of one day have the first bar of the next. -/
theorem archive_holds_a_bar_of_the_next_day : ¬HoldsEachBarOnce around_midnight first_day first_day
    (archive_candle_rows around_midnight (fun _ => false) first_day first_day) := by
  intro hholds
  have hperiods : iter_archive_periods first_day first_day = .ok [⟨.daily, 719163, 719163⟩] := by
    have hnext : first_day.next_month = .ok ⟨719194, by decide, by decide⟩ := rfl
    have htomorrow : first_day.add_days 1 = .ok ⟨719164, by decide, by decide⟩ := rfl
    rw [iter_archive_periods_daily le_rfl hnext (by decide) htomorrow,
      iter_archive_periods_done (by decide)]
    rfl
  refine no_spill_of_holdsEachBarOnce around_midnight le_rfl hperiods hholds
    (List.mem_singleton_self _) rfl ⟨?_, ?_⟩
  · decide
  · decide

end ProofAlpha.Data
