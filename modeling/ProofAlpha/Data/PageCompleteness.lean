/-
Which histories come back whole.

A server that answers with the earliest records from `startTime` to `endTime` makes the pages of
Binance full ones (`FullPages`), so every bar and every funding record of the range is fetched
once and in order. A CCXT venue answers from `since` on with as many records as it is asked for,
up to a cap of its own; a page that the cap cuts short counts as the last one, so the history
is whole exactly when it fits in one page or the cap is at least what is asked for
(`FitsPages`).
-/
import Mathlib.Data.Rat.Floor
import ProofAlpha.Data.Pagination

set_option autoImplicit false

namespace ProofAlpha.Data

open ProofAlpha.Lib

variable {K α : Type} {time : α → ℤ} {records : List α}

/-! ## Servers -/

/-- The earliest records from `startTime` to `endTime`, up to the limit of the server. -/
def earliest (time : α → ℤ) (records : List α) (limit : ℕ) (startTime endTime : ℤ) : List α :=
  (between time records startTime (endTime + 1)).take limit

/-- The earliest records from `since` on, up to the limit of the request and the venue's cap. -/
def earliest_since (time : α → ℤ) (records : List α) (cap : ℕ) (since : ℤ) (limit : ℕ) : List α :=
  (records.filter fun r => since ≤ time r).take (min limit cap)

theorem earliest_inOrder (h : InOrder time records) {limit : ℕ} {startTime endTime : ℤ} :
    InOrder time (earliest time records limit startTime endTime) :=
  (h.between startTime (endTime + 1)).sublist (List.take_sublist _ _)

theorem earliest_since_inOrder (h : InOrder time records) {cap limit : ℕ} {since : ℤ} :
    InOrder time (earliest_since time records cap since limit) :=
  (List.Pairwise.filter _ h).sublist (List.take_sublist _ _)

/-! ## Pages that follow their last record -/

/-- With the next request right after a full page's last record, the pages are full ones. -/
theorem fullPages_of_after_full_page {pager : Pager α} {size : ℕ} (hsize : 0 < size)
    (hadvance : pager.advance = after_full_page time size)
    (horder : ∀ cursor, InOrder time (pager.request cursor))
    (hlength : ∀ cursor, (pager.request cursor).length ≤ size)
    (hfirst : ∀ cursor, pager.kept time (pager.request cursor)
      = (between time records cursor (pager.stop + 1)).take size) :
    pager.FullPages time records size where
  length_le := hlength
  first := hfirst
  last := by
    intro cursor hnone
    rw [hadvance] at hnone
    cases hlast : (pager.request cursor).getLast? with
    | none =>
        rw [List.getLast?_eq_none_iff.mp hlast]
        exact .inl hsize
    | some last =>
        refine (after_full_page_eq_none hnone last hlast).symm.imp id fun hle r hr => ?_
        exact ((horder cursor).le_getLast hlast (List.mem_of_mem_filter hr)).trans hle
  next := by
    intro cursor next hnext
    rw [hadvance] at hnext
    obtain ⟨last, hlast, -, -, rfl⟩ := after_full_page_eq_some hnext
    refine ⟨⟨last, List.mem_of_getLast? hlast, rfl⟩, fun r hr => ?_⟩
    have hle := (horder cursor).le_getLast hlast (List.mem_of_mem_filter hr)
    omega

/-! ## Binance -/

/-- A pager of such a server that follows its last record fetches every record of the range. -/
theorem fetch_earliest {pager : Pager α} {size : ℕ} (hrecords : Spaced time records)
    (hsize : 2 ≤ size) (hadvance : pager.advance = after_full_page time size)
    (hrequest : ∀ cursor, pager.request cursor = earliest time records size cursor pager.stop)
    {cursor : ℤ} (hcursor : cursor < pager.stop) :
    pager.fetch cursor = between time records cursor (pager.stop + 1) := by
  -- a record of the answer is in the range
  have hrange : ∀ cursor, ∀ r ∈ pager.request cursor, decide (time r < pager.stop + 1) = true := by
    intro cursor r hr
    rw [hrequest cursor] at hr
    exact decide_eq_true (mem_between.mp (List.mem_of_mem_take hr)).2.2
  have hpages : pager.FullPages time records size :=
    fullPages_of_after_full_page (by omega) hadvance
      (fun cursor => by
        rw [hrequest cursor]
        exact earliest_inOrder hrecords.strict.inOrder)
      (fun cursor => by
        rw [hrequest cursor]
        exact List.length_take_le _ _)
      (fun cursor => by
        rw [Pager.kept, List.filter_eq_self.mpr (hrange cursor), hrequest cursor]
        rfl)
  have hkept := hpages.complete hrecords hsize hcursor
  rwa [Pager.kept, List.filter_eq_self.mpr (Pager.forall_mem_fetch hrange cursor)] at hkept

/-- The requests of `_fetch_binance_klines`. -/
def binance_klines_pages (klines : ℤ → ℤ → List (Kline K)) (end_ms : ℤ) : Pager (Kline K) where
  stop := end_ms
  request current_start := klines current_start end_ms
  advance := after_full_page Kline.open_time BINANCE_MAX_KLINES
  lt_advance := fun _ h => lt_after_full_page h

theorem fetch_binance_klines_eq (klines : ℤ → ℤ → List (Kline K)) (end_ms current_start : ℤ) :
    fetch_binance_klines klines end_ms current_start
      = ((binance_klines_pages klines end_ms).fetch current_start).map rest_row := by
  -- by induction on the time left: both loops make the same request and stop alike
  induction hn : (end_ms - current_start).toNat using Nat.strong_induction_on
    generalizing current_start with
  | _ n ih =>
  set pager := binance_klines_pages klines end_ms with hpager
  have hrequest : pager.request current_start = klines current_start end_ms := rfl
  have hadvance : pager.advance current_start (pager.request current_start)
      = after_full_page Kline.open_time BINANCE_MAX_KLINES current_start
          (klines current_start end_ms) := rfl
  rw [after_full_page] at hadvance
  unfold fetch_binance_klines
  split_ifs with hstart
  · dsimp only
    split
    · next hnone =>
        have hnil := List.getLast?_eq_none_iff.mp hnone
        rw [pager.fetch_of_last hstart (.inl hnil), hrequest, hnil]
        rfl
    · next last hlast =>
        have hne : pager.request current_start ≠ [] := by
          rintro hnil
          rw [hrequest] at hnil
          rw [hnil] at hlast
          cases hlast
        rw [hlast] at hadvance
        dsimp only at hadvance
        split_ifs at hadvance ⊢ with hend
        · rw [pager.fetch_of_last hstart (.inr hadvance), hrequest]
        · rw [pager.fetch_of_next hstart hne hadvance, List.map_append, hrequest,
            ih _ (by omega) _ rfl]
  · rw [pager.fetch_of_stop (not_lt.mp hstart), List.map_nil]

/-- Binance's candles and funding rates come back whole, each record of the range once and in
order. -/
theorem binance_rows_complete {bars : List (Kline K)} {funding : List (SeriesRecord K)}
    (hbars : Spaced Kline.open_time bars) (hfunding : Spaced SeriesRecord.time funding)
    {start_ms end_ms : ℤ} (h : start_ms < end_ms) :
    fetch_binance_klines (earliest Kline.open_time bars BINANCE_MAX_KLINES) end_ms start_ms
        = (between Kline.open_time bars start_ms (end_ms + 1)).map rest_row
      ∧ fetch_binance_funding_rows (earliest SeriesRecord.time funding BINANCE_MAX_FUNDING)
          start_ms end_ms
        = (between SeriesRecord.time funding start_ms (end_ms + 1)).map series_row := by
  constructor
  · rw [fetch_binance_klines_eq, fetch_earliest hbars (by decide) rfl (fun _ => rfl) h]
    rfl
  · rw [fetch_binance_funding_rows, fetch_earliest hfunding (by decide) rfl (fun _ => rfl) h]
    rfl

/-- A bar of the exchange in which nothing is traded. -/
def flat_bar (open_time : ℤ) : Kline ℚ := ⟨open_time, 100, 100, 100, 100, 0, 0⟩

theorem binance_rows_complete_two_hours :
    fetch_binance_klines
        (earliest Kline.open_time [flat_bar 0, flat_bar 3600000] BINANCE_MAX_KLINES) 3600000 0
        = [rest_row (flat_bar 0), rest_row (flat_bar 3600000)]
      ∧ fetch_binance_funding_rows
          (earliest SeriesRecord.time [(⟨8, 1⟩ : SeriesRecord ℚ)] BINANCE_MAX_FUNDING) 0 3600000
        = [series_row ⟨8, 1⟩] :=
  binance_rows_complete (show Spaced Kline.open_time [flat_bar 0, flat_bar 3600000] by decide)
    (show Spaced SeriesRecord.time [(⟨8, 1⟩ : SeriesRecord ℚ)] by decide) (by decide)

/-! ## CCXT -/

/-- The records of the range fit the pages of a venue: there are none, or the range is not empty
and the venue gives as many as it is asked for, or at least all of them. -/
def FitsPages (limit cap count : ℕ) (start_ms end_ms : ℤ) : Prop :=
  count = 0 ∨ start_ms < end_ms ∧ (limit ≤ cap ∨ count ≤ cap)

/-- A venue's pages, as far as they are in the range. -/
theorem kept_earliest_since (h : InOrder time records) {pager : Pager α} {cap limit : ℕ}
    {cursor : ℤ} (hrequest : pager.request cursor = earliest_since time records cap cursor limit) :
    pager.kept time (pager.request cursor)
      = (between time records cursor (pager.stop + 1)).take (min limit cap) := by
  rw [hrequest, earliest_since, Pager.kept,
    filter_take_of_inOrder (List.Pairwise.filter _ h), List.filter_filter, between]
  congr 1
  refine List.filter_congr fun r _ => ?_
  rw [← Bool.decide_and]
  exact decide_eq_decide.mpr and_comm

/-- What a pager of a venue has to do: it asks for `limit` records from the cursor on, a page
with fewer is the last one, and full pages follow one another. -/
structure VenuePages (pager : Pager α) (time : α → ℤ) (records : List α) (limit cap : ℕ) :
    Prop where
  request : ∀ cursor, pager.request cursor = earliest_since time records cap cursor limit
  short : ∀ cursor, (pager.request cursor).length < limit →
    pager.advance cursor (pager.request cursor) = none
  full : limit ≤ cap → pager.FullPages time records limit

/-- The pages of a venue have every record of the range exactly when the records fit them. -/
theorem VenuePages.complete_iff {pager : Pager α} {limit cap : ℕ} {start_ms : ℤ}
    (h : VenuePages pager time records limit cap) (hrecords : Spaced time records)
    (hlimit : 2 ≤ limit) :
    pager.kept time (pager.fetch start_ms) = between time records start_ms (pager.stop + 1)
      ↔ FitsPages limit cap (between time records start_ms (pager.stop + 1)).length start_ms
          pager.stop := by
  unfold FitsPages
  have hkept := kept_earliest_since hrecords.strict.inOrder (h.request start_ms)
  rcases lt_or_ge start_ms pager.stop with hstart | hstop
  · rcases le_or_gt limit cap with hcap | hcap
    · -- the venue gives what it is asked for
      exact iff_of_true ((h.full hcap).complete hrecords hlimit hstart)
        (.inr ⟨hstart, .inl hcap⟩)
    · -- the first page is the last one
      have hshort : (pager.request start_ms).length < limit := by
        rw [h.request, earliest_since, List.length_take]
        omega
      rw [Pager.fetch_of_last hstart (.inr (h.short start_ms hshort)), hkept, min_eq_right hcap.le]
      constructor
      · intro heq
        have hlength := congrArg List.length heq
        rw [List.length_take] at hlength
        omega
      · intro hfits
        exact List.take_of_length_le (by omega)
  · -- nothing is asked for
    rw [Pager.fetch_of_stop hstop]
    constructor
    · intro heq
      rw [← heq]
      exact .inl rfl
    · intro hfits
      rw [List.eq_nil_of_length_eq_zero (by omega : (between _ _ _ _).length = 0)]
      rfl

/-- A venue that gives what it is asked for makes the pages full ones. -/
theorem length_earliest_since_le {cap limit : ℕ} {since : ℤ} :
    (earliest_since time records cap since limit).length ≤ limit :=
  (List.length_take_le _ _).trans (min_le_left _ _)

theorem ohlcv_venuePages {bars : List (Kline K)} (hbars : Spaced Kline.open_time bars) (cap : ℕ)
    (end_ms : ℤ) :
    VenuePages (ccxt_ohlcv_pages (earliest_since Kline.open_time bars cap) end_ms) Kline.open_time
      bars 1000 cap where
  request := fun _ => rfl
  short := by
    intro cursor hshort
    change after_full_page _ _ _ _ = none
    rw [after_full_page]
    split
    · rfl
    · rw [if_pos (.inr hshort)]
  full := by
    intro hcap
    refine fullPages_of_after_full_page (by decide) rfl
      (fun cursor => earliest_since_inOrder hbars.strict.inOrder)
      (fun cursor => length_earliest_since_le) fun cursor => ?_
    rw [kept_earliest_since hbars.strict.inOrder rfl, min_eq_left hcap]

/-- The candles fetched from a venue are those of the range, where it keeps them all. -/
theorem fetch_ccxt_ohlcv_rows_eq (ohlcv : ℤ → ℕ → List (Kline K)) (start_ms end_ms : ℤ) :
    fetch_ccxt_ohlcv_rows ohlcv start_ms end_ms
      = ((ccxt_ohlcv_pages ohlcv end_ms).kept Kline.open_time
          ((ccxt_ohlcv_pages ohlcv end_ms).fetch start_ms)).map rest_row := by
  rw [fetch_ccxt_ohlcv_rows, Pager.kept, ← List.filterMap_eq_map, List.filterMap_filter]
  refine List.filterMap_congr fun item _ => ?_
  change _ = if decide (item.open_time < end_ms + 1) = true then some (rest_row item) else none
  rcases lt_or_ge end_ms item.open_time with hlt | hle
  · rw [if_pos hlt, if_neg (by rw [decide_eq_true_eq]; omega)]
  · rw [if_neg (not_lt.mpr hle), if_pos (decide_eq_true (by omega))]

theorem VenuePages.honest {pager : Pager α} {limit cap : ℕ}
    (h : VenuePages pager time records limit cap) (hrecords : InOrder time records) :
    pager.Honest time records where
  inOrder := hrecords
  first := by
    intro cursor
    rw [kept_earliest_since hrecords (h.request cursor)]
    exact List.take_prefix _ _
  past := by
    intro cursor next hnext
    rcases le_or_gt limit cap with hcap | hcap
    · exact ((h.full hcap).next cursor next hnext).2
    · rw [h.short cursor (by rw [h.request, earliest_since, List.length_take]; omega)] at hnext
      cases hnext

/-- So have the rows that are made of the records, one of each. -/
theorem VenuePages.rows_complete_iff {β : Type} {pager : Pager α} {limit cap : ℕ} {start_ms : ℤ}
    (h : VenuePages pager time records limit cap) (hrecords : Spaced time records)
    (hlimit : 2 ≤ limit) {rows : List α → List β}
    (hrows : ∀ page : List α, page.Sublist records → (rows page).length = page.length) :
    rows (pager.kept time (pager.fetch start_ms))
        = rows (between time records start_ms (pager.stop + 1))
      ↔ FitsPages limit cap (between time records start_ms (pager.stop + 1)).length start_ms
          pager.stop := by
  rw [← h.complete_iff hrecords hlimit]
  constructor
  · intro heq
    have hsub := (h.honest hrecords.strict.inOrder).kept_fetch_sublist start_ms
    have hlength := congrArg List.length heq
    rw [hrows _ (hsub.trans List.filter_sublist), hrows (between _ _ _ _) List.filter_sublist]
      at hlength
    exact hsub.eq_of_length hlength
  · intro heq
    rw [heq]

/-! ### Series -/

section Series

variable {read : JsonValue K → Option (ℤ × K)}

/-- The time of an item that can be read. -/
def item_time (read : JsonValue K → Option (ℤ × K)) (item : JsonValue K) : ℤ :=
  ((read item).map Prod.fst).getD 0

/-- The series of a venue: records with a time and a value, two milliseconds apart or more. -/
structure VenueSeries (read : JsonValue K → Option (ℤ × K)) where
  records : List (JsonValue K)
  readable : ∀ item ∈ records, (read item).isSome
  spaced : Spaced (item_time read) records

/-- The rows of items that can be read. -/
def series_rows (read : JsonValue K → Option (ℤ × K)) (items : List (JsonValue K)) :
    List (String × K) :=
  (items.filterMap read).map fun row => (iso_text row.1, row.2)

/-- The rows of a payload that can be read are those of its records up to `end_ms`. -/
theorem payload_rows_eq {payload : List (JsonValue K)} {end_ms : ℤ}
    (h : ∀ item ∈ payload, (read item).isSome) :
    payload_rows read end_ms payload
      = (payload.filter fun item => item_time read item < end_ms + 1).filterMap read := by
  rw [payload_rows, List.filterMap_filter]
  refine List.filterMap_congr fun item hitem => ?_
  obtain ⟨row, hrow⟩ := Option.isSome_iff_exists.mp (h item hitem)
  rw [item_time, hrow, Option.map_some, Option.getD_some, Option.filter_some]
  congr 1
  rw [decide_eq_true_eq, decide_eq_true_eq]
  exact propext (by omega)

theorem map_fst_filterMap_read {payload : List (JsonValue K)}
    (h : ∀ item ∈ payload, (read item).isSome) :
    (payload.filterMap read).map Prod.fst = payload.map (item_time read) := by
  rw [List.map_filterMap, ← List.filterMap_eq_map]
  refine List.filterMap_congr fun item hitem => ?_
  obtain ⟨row, hrow⟩ := Option.isSome_iff_exists.mp (h item hitem)
  rw [Function.comp, item_time, hrow]
  rfl

/-- `last_timestamp` is the latest of the times, or `current_start`. -/
theorem last_timestamp_spec (current_start : ℤ) (rows : List (ℤ × K)) :
    (∀ t ∈ rows.map Prod.fst, t ≤ last_timestamp current_start rows)
      ∧ (last_timestamp current_start rows = current_start
        ∨ last_timestamp current_start rows ∈ rows.map Prod.fst)
      ∧ current_start ≤ last_timestamp current_start rows := by
  induction rows generalizing current_start with
  | nil => exact ⟨fun t ht => absurd ht List.not_mem_nil, .inl rfl, le_rfl⟩
  | cons row rows ih =>
      obtain ⟨hle, hmem, hge⟩ := ih (max current_start row.1)
      rw [List.map_cons]
      refine ⟨fun t ht => ?_, ?_, (le_max_left _ _).trans hge⟩
      · rcases List.mem_cons.mp ht with rfl | ht
        · exact (le_max_right _ _).trans hge
        · exact hle t ht
      · rcases hmem with heq | hmem
        · rcases max_choice current_start row.1 with hmax | hmax
          · exact .inl (heq.trans hmax)
          · exact .inr (List.mem_cons.mpr (.inl (heq.trans hmax)))
        · exact .inr (List.mem_cons_of_mem _ hmem)

theorem series_venuePages (series : VenueSeries read) {limit : ℕ} (cap : ℕ) (end_ms : ℤ) :
    VenuePages (ccxt_series_pages read limit
      (earliest_since (item_time read) series.records cap) end_ms) (item_time read)
      series.records limit cap where
  request := fun _ => rfl
  short := fun _ hshort => if_pos (.inr hshort)
  full := by
    intro hcap
    set pager := ccxt_series_pages read limit
      (earliest_since (item_time read) series.records cap) end_ms with hpager
    have hadvance : ∀ cursor, pager.advance cursor (pager.request cursor)
        = if last_timestamp cursor (payload_rows read end_ms (pager.request cursor)) ≤ cursor
            ∨ (pager.request cursor).length < limit then none
          else some (last_timestamp cursor (payload_rows read end_ms (pager.request cursor)) + 1) :=
      fun _ => rfl
    -- the times that `last_timestamp` ranges over
    have htimes : ∀ cursor, (payload_rows read end_ms (pager.request cursor)).map Prod.fst
        = (pager.kept (item_time read) (pager.request cursor)).map (item_time read) := by
      intro cursor
      have hread : ∀ item ∈ pager.request cursor, (read item).isSome := fun item hitem =>
        series.readable item (List.mem_of_mem_filter (List.mem_of_mem_take hitem))
      rw [payload_rows_eq hread, map_fst_filterMap_read fun item hitem =>
        hread item (List.mem_of_mem_filter hitem)]
      rfl
    refine ⟨fun cursor => length_earliest_since_le, fun cursor => ?_, fun cursor hnone => ?_,
      fun cursor next hnext => ?_⟩
    · rw [kept_earliest_since series.spaced.strict.inOrder rfl, min_eq_left hcap]
    -- no time of the page is later than `last_timestamp`, which is one of them or the cursor
    all_goals
      obtain ⟨hle, hmem, -⟩ :=
        last_timestamp_spec cursor (payload_rows read end_ms (pager.request cursor))
      rw [htimes cursor] at hle hmem
    · rw [hadvance] at hnone
      split_ifs at hnone with hend
      rcases hend with hend | hshort
      · exact .inr fun item hitem => (hle _ (List.mem_map_of_mem hitem)).trans hend
      · exact .inl hshort
    · rw [hadvance] at hnext
      split_ifs at hnext with hend
      obtain rfl := Option.some.inj hnext
      refine ⟨?_, fun item hitem => ?_⟩
      · obtain ⟨item, hitem, htime⟩ := List.mem_map.mp (hmem.resolve_left fun heq => hend (.inl heq.le))
        exact ⟨item, List.mem_of_mem_filter hitem, by rw [htime]⟩
      · have hitem_le := hle _ (List.mem_map_of_mem hitem)
        omega

/-- The rows fetched of a series are those of the range exactly when they fit the pages. -/
theorem series_complete_iff (series : VenueSeries read) {limit : ℕ} (hlimit : 2 ≤ limit) (cap : ℕ)
    (start_ms end_ms : ℤ) :
    fetch_ccxt_series_rows read limit (earliest_since (item_time read) series.records cap)
        start_ms end_ms = series_rows read (between (item_time read) series.records start_ms (end_ms + 1))
      ↔ FitsPages limit cap
          (between (item_time read) series.records start_ms (end_ms + 1)).length start_ms
          end_ms := by
  have hread : ∀ item ∈ (ccxt_series_pages read limit
      (earliest_since (item_time read) series.records cap) end_ms).fetch start_ms,
      (read item).isSome :=
    Pager.forall_mem_fetch (fun cursor item hitem =>
      series.readable item (List.mem_of_mem_filter (List.mem_of_mem_take hitem))) start_ms
  have hrows : ∀ page : List (JsonValue K), page.Sublist series.records →
      (series_rows read page).length = page.length := by
    intro page hpage
    rw [series_rows, List.length_map]
    have htimes := congrArg List.length (map_fst_filterMap_read fun item hitem =>
      series.readable item (hpage.subset hitem))
    rwa [List.length_map, List.length_map] at htimes
  rw [fetch_ccxt_series_rows, payload_rows_eq hread]
  exact (series_venuePages series cap end_ms).rows_complete_iff series.spaced hlimit hrows

end Series

/-! ### A venue with its own cap -/

theorem ohlcv_complete_iff {bars : List (Kline K)} (hbars : Spaced Kline.open_time bars) (cap : ℕ)
    (start_ms end_ms : ℤ) :
    fetch_ccxt_ohlcv_rows (earliest_since Kline.open_time bars cap) start_ms end_ms
        = (between Kline.open_time bars start_ms (end_ms + 1)).map rest_row
      ↔ FitsPages 1000 cap (between Kline.open_time bars start_ms (end_ms + 1)).length start_ms
          end_ms := by
  rw [fetch_ccxt_ohlcv_rows_eq]
  exact (ohlcv_venuePages hbars cap end_ms).rows_complete_iff hbars (by decide)
    fun page _ => List.length_map _

variable [Field K] [LinearOrder K] [FloorRing K]

/-- A venue's candles, funding and open interest each come back whole exactly when they fit the
pages it gives. -/
theorem ccxt_rows_complete_iff (parse_float : String → Option K) {bars : List (Kline K)}
    (hbars : Spaced Kline.open_time bars) (funding : VenueSeries (funding_record parse_float))
    (open_interest : VenueSeries (open_interest_record parse_float)) (cap : ℕ)
    (start_ms end_ms : ℤ) :
    (fetch_ccxt_ohlcv_rows (earliest_since Kline.open_time bars cap) start_ms end_ms
          = (between Kline.open_time bars start_ms (end_ms + 1)).map rest_row
        ↔ FitsPages 1000 cap (between Kline.open_time bars start_ms (end_ms + 1)).length start_ms
            end_ms)
      ∧ (fetch_ccxt_funding_rows parse_float
            (earliest_since (item_time (funding_record parse_float)) funding.records cap) start_ms
            end_ms
          = series_rows (funding_record parse_float)
              (between (item_time (funding_record parse_float)) funding.records start_ms
                (end_ms + 1))
        ↔ FitsPages 1000 cap (between (item_time (funding_record parse_float)) funding.records
            start_ms (end_ms + 1)).length start_ms end_ms)
      ∧ (fetch_ccxt_open_interest_rows parse_float
            (earliest_since (item_time (open_interest_record parse_float)) open_interest.records
              cap) start_ms end_ms
          = series_rows (open_interest_record parse_float)
              (between (item_time (open_interest_record parse_float)) open_interest.records
                start_ms (end_ms + 1))
        ↔ FitsPages 500 cap (between (item_time (open_interest_record parse_float))
            open_interest.records start_ms (end_ms + 1)).length start_ms end_ms) :=
  ⟨ohlcv_complete_iff hbars cap start_ms end_ms,
    series_complete_iff funding (by decide) cap start_ms end_ms,
    series_complete_iff open_interest (by decide) cap start_ms end_ms⟩

/-- A venue with one funding record. -/
def one_funding_record : VenueSeries (funding_record fun _ => (none : Option ℚ)) where
  records := [.dict [("timestamp", .int 8), ("fundingRate", .float 1)]]
  readable := fun item hitem => by
    rw [List.mem_singleton.mp hitem]
    rfl
  spaced := List.pairwise_singleton _ _

theorem ccxt_rows_complete_iff_two_hours :
    (fetch_ccxt_ohlcv_rows
          (earliest_since Kline.open_time [flat_bar 0, flat_bar 3600000] 2) 0 3600000
        = [rest_row (flat_bar 0), rest_row (flat_bar 3600000)]
      ↔ FitsPages 1000 2 2 0 3600000)
    ∧ (fetch_ccxt_funding_rows (fun _ => none) (earliest_since
          (item_time (funding_record fun _ => none)) one_funding_record.records 2) 0 3600000
        = series_rows (funding_record fun _ => none)
            (between (item_time (funding_record fun _ => none)) one_funding_record.records 0
              (3600000 + 1))
      ↔ FitsPages 1000 2 (between (item_time (funding_record fun _ => none))
          one_funding_record.records 0 (3600000 + 1)).length 0 3600000) :=
  have hiffs := ccxt_rows_complete_iff (fun _ => (none : Option ℚ))
    (show Spaced Kline.open_time [flat_bar 0, flat_bar 3600000] by decide) one_funding_record
    ⟨[], fun item hitem => absurd hitem List.not_mem_nil, List.Pairwise.nil⟩ 2 0 3600000
  ⟨hiffs.1, hiffs.2.1⟩

/-- A venue that gives two bars at a time: of three hourly ones the last is not fetched. -/
theorem third_bar_not_fetched :
    fetch_ccxt_ohlcv_rows
        (earliest_since Kline.open_time [flat_bar 0, flat_bar 3600000, flat_bar 7200000] 2)
        0 7200000
      ≠ (between Kline.open_time [flat_bar 0, flat_bar 3600000, flat_bar 7200000] 0
          (7200000 + 1)).map rest_row := by
  rw [Ne, ohlcv_complete_iff (by decide), FitsPages]
  decide

end ProofAlpha.Data
