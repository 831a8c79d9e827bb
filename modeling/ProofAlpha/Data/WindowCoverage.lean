/-
When the windowed open-interest history comes back whole.

`_fetch_binance_open_interest_rows` goes on after a window that is not full, but an empty one
ends it, and so does a window that ends a millisecond before the range does. `Windowed` says of a
history that the scan gets through it: every window it comes to before the last record of the
range begins before the end and has a record, and none loses a record to the page limit.
`complete_iff_windowed` is by induction on the time that is left.
-/
import ProofAlpha.Data.PageCompleteness

set_option autoImplicit false

namespace ProofAlpha.Data

open ProofAlpha.Lib

variable {K α : Type} {time : α → ℤ} {records : List α} {limit width : ℕ} {start stop : ℤ}

/-! ## Windows -/

/-- The last millisecond of the window that begins at `start`. -/
def window_end (width : ℕ) (start stop : ℤ) : ℤ := min stop (start + width)

/-- The records of the window that begins at `start`. -/
def window_records (time : α → ℤ) (records : List α) (width : ℕ) (start stop : ℤ) : List α :=
  between time records start (window_end width start stop + 1)

/-- The range from `start` to `stop` falls into windows with records. A window of less than a page,
or of just one that all lies at `start`, is followed by the window after it; one with more by the
window after its first page, which has no time in common with the rest. -/
inductive Windowed (time : α → ℤ) (records : List α) (limit width : ℕ) (stop : ℤ) : ℤ → Prop
  | done {start : ℤ} (hnil : between time records start (stop + 1) = []) :
      Windowed time records limit width stop start
  | whole {start : ℤ} (hstart : start < stop)
      (hne : window_records time records width start stop ≠ [])
      (hpage : (window_records time records width start stop).length < limit
        ∨ (window_records time records width start stop).length = limit
          ∧ ∀ r ∈ window_records time records width start stop, time r ≤ start)
      (hrest : Windowed time records limit width stop (window_end width start stop + 1)) :
      Windowed time records limit width stop start
  | full {start : ℤ} {last : α} (hstart : start < stop)
      (hpage : limit ≤ (window_records time records width start stop).length)
      (hlast : ((window_records time records width start stop).take limit).getLast? = some last)
      (hpast : start < time last)
      (hrest : ∀ r ∈ (window_records time records width start stop).drop limit,
        time last < time r)
      (hnext : Windowed time records limit width stop (time last + 1)) :
      Windowed time records limit width stop start

/-- While records are left, the scan is before the end of the range and its window has some. -/
theorem Windowed.window (h : Windowed time records limit width stop start) (hlimit : 0 < limit)
    (hleft : between time records start (stop + 1) ≠ []) :
    start < stop ∧ window_records time records width start stop ≠ [] := by
  cases h with
  | done hnil => exact absurd hnil hleft
  | whole hstart hne _ _ => exact ⟨hstart, hne⟩
  | full hstart hpage _ _ _ _ =>
      exact ⟨hstart, List.ne_nil_of_length_pos (hlimit.trans_le hpage)⟩

/-- A window that the next one follows is on one page. -/
theorem windowed_iff_of_whole (hrecords : InOrder time records) (hstart : start < stop)
    (hleft : between time records start (stop + 1) ≠ [])
    (hne : window_records time records width start stop ≠ [])
    (hshort : ∀ last, ((window_records time records width start stop).take limit).getLast?
      = some last → time last ≤ start
        ∨ (window_records time records width start stop).length < limit) :
    Windowed time records limit width stop start
      ↔ (window_records time records width start stop).length ≤ limit
        ∧ Windowed time records limit width stop (window_end width start stop + 1) := by
  constructor
  · intro h
    cases h with
    | done hnil => exact absurd hnil hleft
    | whole _ _ hpage hrest => exact ⟨by omega, hrest⟩
    | full _ hpage hlast hpast _ _ =>
        have hcases := hshort _ hlast
        omega
  · rintro ⟨hle, hrest⟩
    refine .whole hstart hne ?_ hrest
    rcases hle.lt_or_eq with hlt | heq
    · exact .inl hlt
    · refine .inr ⟨heq, fun r hr => ?_⟩
      have hgetLast := List.getLast?_eq_some_getLast hne
      have hle := (hrecords.between _ _).le_getLast hgetLast hr
      have hcases := hshort _ (by rw [List.take_of_length_le heq.le]; exact hgetLast)
      omega

/-- A window that its first page is followed by has its other records later. -/
theorem windowed_iff_of_full {last : α} (hstart : start < stop)
    (hleft : between time records start (stop + 1) ≠ [])
    (hlast : ((window_records time records width start stop).take limit).getLast? = some last)
    (hpast : start < time last)
    (hfull : limit ≤ (window_records time records width start stop).length) :
    Windowed time records limit width stop start
      ↔ (∀ r ∈ (window_records time records width start stop).drop limit, time last < time r)
        ∧ Windowed time records limit width stop (time last + 1) := by
  constructor
  · intro h
    cases h with
    | done hnil => exact absurd hnil hleft
    | whole _ _ hpage _ =>
        rcases hpage with hlt | ⟨-, hall⟩
        · omega
        · have hle := hall last (List.mem_of_mem_take (List.mem_of_getLast? hlast))
          omega
    | full _ _ hlast' _ hrest hnext =>
        obtain rfl := Option.some.inj (hlast.symm.trans hlast')
        exact ⟨hrest, hnext⟩
  · rintro ⟨hrest, hnext⟩
    exact .full hstart hfull hlast hpast hrest hnext

/-! ## The scan -/

/-- The requests for windows of a history. -/
structure WindowPages (pager : Pager α) (time : α → ℤ) (records : List α) (limit width : ℕ) :
    Prop where
  request : ∀ cursor, pager.request cursor
    = earliest time records limit cursor (window_end width cursor pager.stop)
  advance : ∀ cursor page, pager.advance cursor page
    = some ((after_full_page time limit cursor page).getD (window_end width cursor pager.stop + 1))

variable {pager : Pager α} {cursor : ℤ}

theorem WindowPages.request_eq_take (h : WindowPages pager time records limit width) (cursor : ℤ) :
    pager.request cursor = (window_records time records width cursor pager.stop).take limit :=
  h.request cursor

/-- A window lies in the range. -/
theorem WindowPages.lt_of_mem_request (h : WindowPages pager time records limit width)
    (cursor : ℤ) : ∀ r ∈ pager.request cursor, decide (time r < pager.stop + 1) = true := by
  intro r hr
  rw [h.request_eq_take] at hr
  have hlt := (mem_between.mp (List.mem_of_mem_take hr)).2.2
  unfold window_end at hlt
  exact decide_eq_true (by omega)

theorem WindowPages.kept_request (h : WindowPages pager time records limit width) (cursor : ℤ) :
    pager.kept time (pager.request cursor) = pager.request cursor :=
  List.filter_eq_self.mpr (h.lt_of_mem_request cursor)

theorem window_records_isPrefix (hrecords : InOrder time records) (width : ℕ) (start stop : ℤ) :
    window_records time records width start stop <+: between time records start (stop + 1) := by
  unfold window_records window_end
  rcases le_or_gt start (stop + 1) with hle | hgt
  · refine ⟨between time records (min stop (start + width) + 1) (stop + 1), ?_⟩
    exact between_append hrecords (by omega) (by omega)
  · rw [between_eq_nil (by omega)]
    exact List.nil_prefix

theorem WindowPages.honest (h : WindowPages pager time records limit width)
    (hrecords : InOrder time records) : pager.Honest time records where
  inOrder := hrecords
  first := by
    intro cursor
    rw [h.kept_request, h.request_eq_take]
    exact (List.take_prefix _ _).trans (window_records_isPrefix hrecords _ _ _)
  past := by
    intro cursor next hnext r hr
    rw [h.kept_request] at hr
    have hordered : InOrder time (pager.request cursor) := by
      rw [h.request]
      exact earliest_inOrder hrecords
    rw [h.advance] at hnext
    obtain rfl := Option.some.inj hnext
    cases hafter : after_full_page time limit cursor (pager.request cursor) with
    | none =>
        rw [h.request_eq_take] at hr
        exact (mem_between.mp (List.mem_of_mem_take hr)).2.2
    | some next =>
        obtain ⟨last, hgetLast, -, -, rfl⟩ := after_full_page_eq_some hafter
        have hle := hordered.le_getLast hgetLast hr
        rw [Option.getD_some]
        omega

theorem WindowPages.request_eq_nil_iff (h : WindowPages pager time records limit width)
    (hlimit : 0 < limit) (cursor : ℤ) :
    pager.request cursor = [] ↔ window_records time records width cursor pager.stop = [] := by
  rw [h.request_eq_take, List.take_eq_nil_iff, or_iff_right hlimit.ne']

/-- A window with records is one of those that the range falls into exactly when its page has all
that is before the next request, and the rest falls into such windows. -/
theorem WindowPages.windowed_iff_of_next (h : WindowPages pager time records limit width)
    (hrecords : InOrder time records) (hlimit : 0 < limit) {next : ℤ}
    (hcursor : cursor < pager.stop) (hpage : pager.request cursor ≠ [])
    (hnext : pager.advance cursor (pager.request cursor) = some next) :
    Windowed time records limit width pager.stop cursor
      ↔ pager.request cursor = between time records cursor (min (pager.stop + 1) next)
        ∧ Windowed time records limit width pager.stop next := by
  have hne : window_records time records width cursor pager.stop ≠ [] :=
    (h.request_eq_nil_iff hlimit cursor).not.mp hpage
  have hleft : between time records cursor (pager.stop + 1) ≠ [] := fun hnil =>
    hne (List.prefix_nil.mp (hnil ▸ window_records_isPrefix hrecords width cursor pager.stop))
  have hend : window_end width cursor pager.stop ≤ pager.stop := min_le_left _ _
  rw [h.advance] at hnext
  obtain rfl := Option.some.inj hnext
  cases hafter : after_full_page time limit cursor (pager.request cursor) with
  | none =>
      -- a short page, or one that does not get past its start: the next window follows
      rw [h.request_eq_take] at hafter
      rw [Option.getD_none, min_eq_right (by omega), h.request_eq_take,
        windowed_iff_of_whole hrecords hcursor hleft hne fun last hlast => ?_]
      · exact and_congr_left fun _ => (List.take_eq_self_iff _).symm
      · have hcases := after_full_page_eq_none hafter last hlast
        rw [List.length_take] at hcases
        omega
  | some next =>
      -- a full page: the next request begins after its last record
      rw [h.request_eq_take] at hafter
      obtain ⟨last, hlast, hpast, hlength, rfl⟩ := after_full_page_eq_some hafter
      have hfull : limit ≤ (window_records time records width cursor pager.stop).length := by
        rw [List.length_take] at hlength
        omega
      have hmem := List.mem_of_mem_take (List.mem_of_getLast? hlast)
      have hlt := (mem_between.mp hmem).2.2
      rw [Option.getD_some, min_eq_right (by omega), h.request_eq_take,
        windowed_iff_of_full hcursor hleft hlast hpast hfull]
      exact and_congr_left fun _ => (take_between_eq_iff hrecords hlast).symm

/-- Where nothing is fetched, there must be nothing left. -/
theorem WindowPages.nothing_iff_windowed (h : WindowPages pager time records limit width)
    (hlimit : 0 < limit) (hempty : cursor < pager.stop → pager.request cursor = []) :
    pager.kept time [] = between time records cursor (pager.stop + 1)
      ↔ Windowed time records limit width pager.stop cursor := by
  rcases eq_or_ne (between time records cursor (pager.stop + 1)) [] with hnil | hleft
  · rw [hnil]
    exact iff_of_true rfl (.done hnil)
  · refine iff_of_false (fun hcomplete => hleft hcomplete.symm) fun hwindowed => ?_
    obtain ⟨hcursor, hne⟩ := hwindowed.window hlimit hleft
    exact hne ((h.request_eq_nil_iff hlimit cursor).mp (hempty hcursor))

/-- The scan fetches every record of the range exactly when the range falls into windows that have
records. -/
theorem WindowPages.complete_iff_windowed (h : WindowPages pager time records limit width)
    (hrecords : InOrder time records) (hlimit : 0 < limit) (cursor : ℤ) :
    pager.kept time (pager.fetch cursor) = between time records cursor (pager.stop + 1)
      ↔ Windowed time records limit width pager.stop cursor := by
  -- window after window; a window without records ends the scan
  refine Pager.fetch_induction (motive := fun cursor pages =>
    pager.kept time pages = between time records cursor (pager.stop + 1)
      ↔ Windowed time records limit width pager.stop cursor) ?_ ?_ ?_ cursor
  · intro cursor hstop
    exact h.nothing_iff_windowed hlimit fun hcursor => absurd hcursor (not_lt.mpr hstop)
  · intro cursor _ hlast
    have hrequest : pager.request cursor = [] := hlast.resolve_right fun hnone => by
      rw [h.advance] at hnone
      cases hnone
    rw [hrequest]
    exact h.nothing_iff_windowed hlimit fun _ => hrequest
  · intro cursor next hcursor hpage hnext ih
    rw [← Pager.fetch_of_next hcursor hpage hnext,
      (h.honest hrecords).complete_iff_of_next hcursor hpage hnext, h.kept_request, ih,
      h.windowed_iff_of_next hrecords hlimit hcursor hpage hnext]

/-- So it does with the rows that are made of them. -/
theorem WindowPages.rows_complete_iff {β : Type} (row : α → β)
    (h : WindowPages pager time records limit width) (hrecords : InOrder time records)
    (hlimit : 0 < limit) (cursor : ℤ) :
    (pager.fetch cursor).map row = (between time records cursor (pager.stop + 1)).map row
      ↔ Windowed time records limit width pager.stop cursor := by
  have hkept : pager.kept time (pager.fetch cursor) = pager.fetch cursor :=
    List.filter_eq_self.mpr (Pager.forall_mem_fetch h.lt_of_mem_request cursor)
  have hsub := (h.honest hrecords).kept_fetch_sublist cursor
  rw [← h.complete_iff_windowed hrecords hlimit cursor, hkept]
  rw [hkept] at hsub
  constructor
  · intro heq
    have hlength := congrArg List.length heq
    rw [List.length_map, List.length_map] at hlength
    exact hsub.eq_of_length hlength
  · intro heq
    rw [heq]

/-! ## Open interest -/

theorem open_interest_windowPages (records : List (SeriesRecord K)) (max_window_ms : ℕ)
    (end_ms : ℤ) :
    WindowPages (binance_open_interest_pages
      (earliest SeriesRecord.time records BINANCE_MAX_OPEN_INTEREST) max_window_ms end_ms)
      SeriesRecord.time records BINANCE_MAX_OPEN_INTEREST max_window_ms where
  request := fun _ => rfl
  advance := by
    intro cursor page
    unfold binance_open_interest_pages
    dsimp only
    cases after_full_page SeriesRecord.time BINANCE_MAX_OPEN_INTEREST cursor page <;> rfl

/-- The open interest of a range comes back whole exactly when the range, as far as it is served,
falls into windows that have records. -/
theorem open_interest_rows_complete_iff {history : String → List (SeriesRecord K)}
    (hhistory : ∀ interval, InOrder SeriesRecord.time (history interval)) (timeframe : String)
    (start_ms end_ms : ℤ) :
    fetch_binance_open_interest_rows (fun interval =>
        earliest SeriesRecord.time (history interval) BINANCE_MAX_OPEN_INTEREST)
        timeframe start_ms end_ms
      = (between SeriesRecord.time (history (open_interest_interval timeframe))
          (capped_start_ms start_ms end_ms) (end_ms + 1)).map series_row
      ↔ Windowed SeriesRecord.time (history (open_interest_interval timeframe))
          BINANCE_MAX_OPEN_INTEREST
          (open_interest_window_ms (open_interest_interval timeframe)) end_ms
          (capped_start_ms start_ms end_ms) := by
  exact (open_interest_windowPages (history (open_interest_interval timeframe))
    (open_interest_window_ms (open_interest_interval timeframe)) end_ms).rows_complete_iff
      series_row (hhistory _) (by decide) (capped_start_ms start_ms end_ms)

theorem open_interest_rows_complete_iff_one_record :
    fetch_binance_open_interest_rows (fun _ =>
        earliest SeriesRecord.time [(⟨0, 200⟩ : SeriesRecord ℚ)] BINANCE_MAX_OPEN_INTEREST)
        "1Hour" 0 3600000
      = (between SeriesRecord.time [(⟨0, 200⟩ : SeriesRecord ℚ)] (capped_start_ms 0 3600000)
          (3600000 + 1)).map series_row
      ↔ Windowed SeriesRecord.time [(⟨0, 200⟩ : SeriesRecord ℚ)] BINANCE_MAX_OPEN_INTEREST
          (open_interest_window_ms (open_interest_interval "1Hour")) 3600000
          (capped_start_ms 0 3600000) :=
  have hhistory : ∀ _ : String, InOrder SeriesRecord.time [(⟨0, 200⟩ : SeriesRecord ℚ)] :=
    fun _ => List.pairwise_singleton _ _
  open_interest_rows_complete_iff hhistory "1Hour" 0 3600000

/-- Two records ten days apart. -/
def outage : List (SeriesRecord ℚ) := [⟨0, 200⟩, ⟨864000000, 225⟩]

/-- No five-minute window reaches from one to the other: the second record is not fetched. -/
theorem open_interest_lost_after_outage :
    fetch_binance_open_interest_rows (fun _ =>
        earliest SeriesRecord.time outage BINANCE_MAX_OPEN_INTEREST) "5Min" 0 864000000
      ≠ (between SeriesRecord.time outage (capped_start_ms 0 864000000) (864000000 + 1)).map
          series_row := by
  intro hcomplete
  have hwindowed : Windowed SeriesRecord.time outage BINANCE_MAX_OPEN_INTEREST 149700000 864000000
      0 := ((open_interest_windowPages outage 149700000 864000000).rows_complete_iff series_row
        (by decide) (by decide) 0).mp hcomplete
  rw [windowed_iff_of_whole (by decide) (by decide) (by decide) (by decide)
    fun _ _ => .inr (by decide)] at hwindowed
  exact (hwindowed.2.window (by decide) (by decide)).2 (by decide)

end ProofAlpha.Data
