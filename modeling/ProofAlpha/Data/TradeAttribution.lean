/-
Every trade is counted in one row (`build_microstructure_features`).

The rows of the ordered snapshots have half-open windows that follow one another, the
first without a start, so a trade up to the last bar lies in exactly one of them
whatever the order of the trades. A trade's time is what the code reads of it; a trade
without one, or after the last bar, is in no row.
-/
import Mathlib.Data.Rat.Floor
import ProofAlpha.Data.Microstructure
import ProofAlpha.Lib.Windows

set_option autoImplicit false

namespace ProofAlpha.Data

open ProofAlpha.Lib

variable {F : Type} (floats : FeatureFloats F) [Zero F] [DecidableEq F]

/-! ## Trades and windows -/

/-- The time of a trade, if it is an object whose time can be read. -/
def trade_time : JsonValue F → Option ℤ
  | .dict trade =>
      match trade_time_ms floats trade with
      | .ok time => time
      | .error _ => none
  | _ => none

/-- The trade is in the window. -/
def trade_in (window : Window ℤ) (trade : JsonValue F) : Bool :=
  decide (∃ t ∈ trade_time floats trade, window.Holds t)

/-- The window of a row: after the row before it, where there is one, and up to its own
time. -/
def row_window (rows : List (FeatureRow F)) (k : ℕ) : Option (Window ℤ) :=
  rows[k]?.map fun row =>
    ⟨if k = 0 then none else rows[k - 1]?.map FeatureRow.timestamp_ms, row.timestamp_ms⟩

/-- Each row counts the trades of its window, a trade up to the last row lies in one
window only, and the counts add up to the number of such trades. -/
structure AttributedOnce (trades : List (JsonValue F)) (rows : List (FeatureRow F)) : Prop where
  counts : ∀ k row window, rows[k]? = some row → row_window rows k = some window →
    row.trade_count = trades.countP (trade_in floats window)
  once : ∀ trade ∈ trades, ∀ t ∈ trade_time floats trade,
    (∃ last ∈ rows.getLast?, t ≤ last.timestamp_ms) →
    ∃! k : ℕ, ∃ window, row_window rows k = some window ∧ window.Holds t
  total : (rows.map FeatureRow.trade_count).sum = trades.countP fun trade =>
    decide (∃ t ∈ trade_time floats trade, ∃ last ∈ rows.getLast?, t ≤ last.timestamp_ms)

/-- The trades selected are those in the window. -/
theorem windowed_trades_eq {start_ms : Option ℤ} {end_ms : ℤ} (hend : end_ms ≠ 0)
    {trades : List (JsonValue F)} {selected : List (JsonObject F)}
    (h : windowed_trades floats start_ms end_ms trades = .ok selected) :
    selected.map JsonValue.dict = trades.filter (trade_in floats ⟨start_ms, end_ms⟩) := by
  induction trades generalizing selected with
  | nil =>
      obtain rfl := Except.ok.inj h
      rfl
  | cons trade trades ih =>
      cases trade with
      | dict fields =>
          rw [windowed_trades] at h
          obtain ⟨time, htime, h⟩ := bind_ok h
          have hread : trade_time floats (.dict fields) = time := by
            rw [trade_time, htime]
          rw [List.filter_cons, trade_in, hread]
          cases time with
          | none => simpa using ih h
          | some t =>
              by_cases hstart : ∃ start ∈ start_ms, t ≤ start
              · have hout : ¬ Window.Holds ⟨start_ms, end_ms⟩ t := by
                  rintro ⟨hafter, -⟩
                  obtain ⟨start, hmem, hle⟩ := hstart
                  exact absurd (hafter start hmem) (not_lt.mpr hle)
                simp only [if_pos hstart] at h
                simpa [hout] using ih h
              · simp only [if_neg hstart] at h
                by_cases hlate : end_ms < t
                · have hout : ¬ Window.Holds ⟨start_ms, end_ms⟩ t := fun hin =>
                    absurd hin.2 (not_le.mpr hlate)
                  simp only [if_pos (And.intro hend hlate)] at h
                  simpa [hout] using ih h
                · have hin : Window.Holds ⟨start_ms, end_ms⟩ t := by
                    refine ⟨?_, not_lt.mp hlate⟩
                    intro start hmem
                    exact not_le.mp fun hle => hstart ⟨start, hmem, hle⟩
                  rw [if_neg fun hboth => hlate hboth.2] at h
                  obtain ⟨later, hlater, h⟩ := bind_ok h
                  obtain rfl := Except.ok.inj h
                  simpa [hin] using ih hlater
      | _ => exact ih h

/-- The number of trades in a window. -/
theorem length_windowed_trades {start_ms : Option ℤ} {end_ms : ℤ} (hend : end_ms ≠ 0)
    {trades : List (JsonValue F)} {selected : List (JsonObject F)}
    (h : windowed_trades floats start_ms end_ms trades = .ok selected) :
    selected.length = trades.countP (trade_in floats ⟨start_ms, end_ms⟩) := by
  rw [List.countP_eq_length_filter, ← windowed_trades_eq floats hend h, List.length_map]

/-! ## The rows -/

variable [Add F] [Sub F] [Mul F] [Div F] [Neg F] [OfScientific F] (inputs : FeatureInputs F)

/-- A row has the time of its snapshot and counts the trades since the one before. -/
theorem feature_row_trades {previous : Option (JsonObject F)} {snapshot : JsonObject F}
    {row : FeatureRow F} (h : feature_row floats inputs previous snapshot = .ok row) :
    depth_timestamp_ms floats snapshot = .ok row.timestamp_ms ∧
      ∃ start_ms, previous_timestamp_ms floats previous = .ok start_ms ∧
        count_trades floats inputs.agg_trades start_ms row.timestamp_ms = .ok row.trade_count := by
  unfold feature_row at h
  obtain ⟨timestamp_ms, htimestamp, h⟩ := bind_ok h
  obtain ⟨start_ms, hstart, h⟩ := bind_ok h
  obtain ⟨bid_levels, -, h⟩ := bind_ok h
  obtain ⟨ask_levels, -, h⟩ := bind_ok h
  obtain ⟨signed_delta, -, h⟩ := bind_ok h
  obtain ⟨previous_top_depth, -, h⟩ := bind_ok h
  obtain ⟨previous_spread, -, h⟩ := bind_ok h
  obtain ⟨trade_count, hcount, h⟩ := bind_ok h
  obtain ⟨timestamp, -, h⟩ := bind_ok h
  obtain ⟨update_id, -, h⟩ := bind_ok h
  obtain ⟨open_interest, -, h⟩ := bind_ok h
  obtain rfl := Except.ok.inj h
  exact ⟨htimestamp, start_ms, hstart, hcount⟩

omit [Zero F] [DecidableEq F] [Add F] [Sub F] [Mul F] [Div F] [Neg F] [OfScientific F] in
/-- A snapshot with a positive time gives its time to the row after it. -/
theorem previous_timestamp_ms_some {snapshot : JsonObject F} {t : ℤ}
    (ht : depth_timestamp_ms floats snapshot = .ok t) (hpos : 0 < t) :
    previous_timestamp_ms floats (some snapshot) = .ok (some t) := by
  cases snapshot with
  | nil =>
      have hzero : t = 0 := (Except.ok.inj ht).symm
      omega
  | cons field fields =>
      rw [previous_timestamp_ms, ht]
      rfl

/-- The rows of snapshots with positive times have the windows between these times. -/
theorem feature_rows_trades {ordered : List (JsonObject F)} {previous : Option (JsonObject F)}
    {rows : List (FeatureRow F)} {start_ms : Option ℤ}
    (hpositive : ∀ snapshot ∈ ordered, ∀ t, depth_timestamp_ms floats snapshot = .ok t → 0 < t)
    (hstart : previous_timestamp_ms floats previous = .ok start_ms)
    (h : feature_rows floats inputs previous ordered = .ok rows) :
    ordered.map (depth_timestamp_ms floats) = rows.map (fun row => .ok row.timestamp_ms) ∧
      rows.map FeatureRow.trade_count
        = (windows start_ms (rows.map FeatureRow.timestamp_ms)).map fun window =>
            inputs.agg_trades.countP (trade_in floats window) := by
  induction ordered generalizing previous rows start_ms with
  | nil =>
      obtain rfl := Except.ok.inj h
      exact ⟨rfl, rfl⟩
  | cons snapshot rest ih =>
      rw [feature_rows] at h
      obtain ⟨row, hrow, h⟩ := bind_ok h
      obtain ⟨rows', hrows, h⟩ := bind_ok h
      obtain rfl := Except.ok.inj h
      obtain ⟨htime, start_ms', hstart', hcount⟩ := feature_row_trades floats inputs hrow
      obtain rfl : start_ms = start_ms' := Except.ok.inj (hstart.symm.trans hstart')
      have hpos := hpositive snapshot List.mem_cons_self row.timestamp_ms htime
      obtain ⟨htimes, hcounts⟩ := ih
        (fun later hlater => hpositive later (List.mem_cons_of_mem snapshot hlater))
        (previous_timestamp_ms_some floats htime hpos) hrows
      obtain ⟨selected, hselected, hlength⟩ := bind_ok hcount
      have hlength : selected.length = row.trade_count := Except.ok.inj hlength
      constructor
      · rw [List.map_cons, List.map_cons, htime, htimes]
      · rw [List.map_cons, List.map_cons, windows, List.map_cons, hcounts, ← hlength,
          length_windowed_trades floats hpos.ne' hselected]

omit [Zero F] [DecidableEq F] [Add F] [Sub F] [Mul F] [Div F] [Neg F] [OfScientific F] in
/-- The snapshots are the objects among the inputs, in the order of their times. -/
theorem ordered_depths_spec {depth_snapshots : List (JsonValue F)} {ordered : List (JsonObject F)}
    (h : ordered_depths floats depth_snapshots = .ok ordered) :
    ordered.Perm (depth_objects depth_snapshots) ∧
      ∃ times : List ℤ, times.Pairwise (· ≤ ·) ∧
        ordered.map (depth_timestamp_ms floats) = times.map .ok := by
  obtain ⟨keyed, hkeyed, h⟩ := bind_ok h
  obtain rfl := Except.ok.inj h
  set sorted := keyed.insertionSort KeyLe with hsorted
  have hperm : sorted.Perm keyed := List.perm_insertionSort KeyLe keyed
  -- the key a snapshot is sorted by is its time
  have hread : ∀ item ∈ sorted, depth_timestamp_ms floats item.2 = .ok item.1 := by
    intro item hitem
    obtain ⟨snapshot, -, hkey⟩ := (mem_mapM_ok hkeyed item).mp (hperm.mem_iff.mp hitem)
    cases htime : depth_timestamp_ms floats snapshot with
    | error message =>
        rw [htime] at hkey
        cases hkey
    | ok t =>
        rw [htime] at hkey
        obtain rfl := Except.ok.inj hkey
        exact htime
  have hobjects : keyed.map Prod.snd = depth_objects depth_snapshots := by
    have hsnd : (depth_objects depth_snapshots).mapM
        (fun snapshot => (Except.ok snapshot : Except String (JsonObject F)))
          = .ok (keyed.map Prod.snd) := by
      refine mapM_ok_map ?_ hkeyed
      intro snapshot item hitem
      obtain ⟨key, -, rfl⟩ := map_ok hitem
      rfl
    have hself : (depth_objects depth_snapshots).mapM
        (fun snapshot => (Except.ok snapshot : Except String (JsonObject F)))
          = .ok ((depth_objects depth_snapshots).map id) :=
      mapM_eq_ok_map fun _ _ => rfl
    rw [List.map_id] at hself
    exact Except.ok.inj (hsnd.symm.trans hself)
  refine ⟨?_, sorted.map Prod.fst, ?_, ?_⟩
  · rw [← hobjects]
    exact hperm.map Prod.snd
  · rw [List.pairwise_map]
    have : Std.Total (@KeyLe F) := ⟨fun a b => le_total a.1 b.1⟩
    have : IsTrans _ (@KeyLe F) := ⟨fun _ _ _ => le_trans⟩
    exact List.pairwise_insertionSort KeyLe keyed
  · rw [List.map_map, List.map_map]
    exact List.map_congr_left hread

/-- The rows' times do not fall, and their counts are those of the windows between them. -/
theorem features_windows
    (hpositive : ∀ snapshot ∈ depth_objects inputs.depth_snapshots, ∀ t,
      depth_timestamp_ms floats snapshot = .ok t → 0 < t)
    {rows : List (FeatureRow F)} (h : build_microstructure_features floats inputs = .ok rows) :
    Rising none (rows.map FeatureRow.timestamp_ms) ∧
      rows.map FeatureRow.trade_count
        = (windows none (rows.map FeatureRow.timestamp_ms)).map fun window =>
            inputs.agg_trades.countP (trade_in floats window) := by
  obtain ⟨ordered, hordered, h⟩ := bind_ok h
  obtain ⟨hperm, times, hrising, htimes⟩ := ordered_depths_spec floats hordered
  obtain ⟨hrows, hcounts⟩ := feature_rows_trades floats inputs
    (fun snapshot hsnapshot => hpositive snapshot (hperm.mem_iff.mp hsnapshot)) rfl h
  -- the rows stand in the order of the sorted snapshots
  have hsame : rows.map FeatureRow.timestamp_ms = times := by
    have hinj : Function.Injective (Except.ok : ℤ → Except String ℤ) := fun a b hab =>
      Except.ok.inj hab
    apply List.map_injective_iff.mpr hinj
    rw [List.map_map, ← htimes, hrows]
    rfl
  rw [hsame] at hcounts ⊢
  exact ⟨rising_none hrising, hcounts⟩

omit [Zero F] [DecidableEq F] [Add F] [Sub F] [Mul F] [Div F] [Neg F] [OfScientific F] in
/-- The window of a row is that of its time among the rows' times. -/
theorem row_window_eq (rows : List (FeatureRow F)) (k : ℕ) :
    row_window rows k = (windows none (rows.map FeatureRow.timestamp_ms))[k]? := by
  rw [row_window, getElem?_windows, List.getElem?_map, List.getElem?_map, Option.map_map]
  rfl

/-! ## The call -/

/-- Nothing in the inputs makes the call raise: every timestamp, update id, level, price
and quantity is read or skipped, and the bars' times have a text. -/
structure Readable : Prop where
  depths : ∀ snapshot ∈ depth_objects inputs.depth_snapshots,
    ∃ t text, depth_timestamp_ms floats snapshot = .ok t ∧ timestamp_text t = .ok text
  books : ∀ snapshot ∈ depth_objects inputs.depth_snapshots, ∃ bids asks,
    parse_levels floats (snapshot.get "bids") = .ok bids ∧
      parse_levels floats (snapshot.get "asks") = .ok asks
  update_ids : ∀ snapshot ∈ depth_objects inputs.depth_snapshots,
    ∃ update_id, last_update_id floats snapshot = .ok update_id
  times : ∀ trade, .dict trade ∈ inputs.agg_trades →
    ∃ time, trade_time_ms floats trade = .ok time
  deltas : ∀ trade, .dict trade ∈ inputs.agg_trades →
    ∀ delta, ∃ next, add_trade floats delta trade = .ok next
  open_interest : ∃ value, open_interest_value floats inputs.open_interest = .ok value

variable {floats inputs}

omit [Add F] [Sub F] [Mul F] [Div F] [Neg F] [OfScientific F] in
/-- Trades whose times can be read are selected, and only they are. -/
theorem windowed_trades_returns (start_ms : Option ℤ) (end_ms : ℤ) {trades : List (JsonValue F)}
    (htimes : ∀ trade, .dict trade ∈ trades → ∃ time, trade_time_ms floats trade = .ok time) :
    ∃ selected, windowed_trades floats start_ms end_ms trades = .ok selected ∧
      ∀ trade ∈ selected, .dict trade ∈ trades := by
  induction trades with
  | nil => exact ⟨[], rfl, fun trade htrade => absurd htrade List.not_mem_nil⟩
  | cons trade trades ih =>
      obtain ⟨selected, hselected, hmem⟩ := ih fun later hlater =>
        htimes later (List.mem_cons_of_mem trade hlater)
      have hskip : ∀ later ∈ selected, JsonValue.dict later ∈ trade :: trades :=
        fun later hlater => List.mem_cons_of_mem trade (hmem later hlater)
      cases trade with
      | dict fields =>
          obtain ⟨time, htime⟩ := htimes fields List.mem_cons_self
          rw [windowed_trades, htime, ok_bind]
          cases time with
          | none => exact ⟨selected, hselected, hskip⟩
          | some t =>
              simp only []
              split_ifs with hstart hlate
              · exact ⟨selected, hselected, hskip⟩
              · exact ⟨selected, hselected, hskip⟩
              · rw [hselected]
                refine ⟨fields :: selected, rfl, ?_⟩
                intro later hlater
                rcases List.mem_cons.mp hlater with rfl | hlater
                · exact List.mem_cons_self
                · exact hskip later hlater
      | _ => exact ⟨selected, hselected, hskip⟩

omit [Sub F] [Div F] in
theorem foldl_add_trade_returns {trades : List (JsonObject F)}
    (hdeltas : ∀ trade ∈ trades, ∀ delta, ∃ next, add_trade floats delta trade = .ok next)
    (delta : F) : ∃ total, trades.foldlM (add_trade floats) delta = .ok total := by
  induction trades generalizing delta with
  | nil => exact ⟨delta, rfl⟩
  | cons trade trades ih =>
      obtain ⟨next, hnext⟩ := hdeltas trade List.mem_cons_self delta
      rw [List.foldlM_cons, hnext]
      exact ih (fun later hlater => hdeltas later (List.mem_cons_of_mem trade hlater)) next

omit [DecidableEq F] [Add F] [Sub F] [Mul F] [Div F] [Neg F] [OfScientific F] in
/-- What is read of the snapshot before is there. -/
theorem previous_reading_returns {reading : JsonObject F → Except String F}
    {previous : Option (JsonObject F)}
    (h : ∀ snapshot ∈ previous, ∃ value, reading snapshot = .ok value) :
    ∃ value, previous_reading reading previous = .ok value := by
  match previous with
  | none => exact ⟨0, rfl⟩
  | some [] => exact ⟨0, rfl⟩
  | some (field :: fields) => exact h _ rfl

theorem feature_row_returns (hreadable : Readable floats inputs)
    {previous : Option (JsonObject F)} {snapshot : JsonObject F}
    (hprevious : ∀ before ∈ previous, before ∈ depth_objects inputs.depth_snapshots)
    (hsnapshot : snapshot ∈ depth_objects inputs.depth_snapshots) :
    ∃ row, feature_row floats inputs previous snapshot = .ok row := by
  obtain ⟨t, text, htime, htext⟩ := hreadable.depths snapshot hsnapshot
  obtain ⟨bids, asks, hbids, hasks⟩ := hreadable.books snapshot hsnapshot
  obtain ⟨update_id, hupdate⟩ := hreadable.update_ids snapshot hsnapshot
  obtain ⟨open_interest, hopen⟩ := hreadable.open_interest
  obtain ⟨start_ms, hstart⟩ : ∃ start_ms, previous_timestamp_ms floats previous = .ok start_ms := by
    match previous with
    | none => exact ⟨none, rfl⟩
    | some [] => exact ⟨none, rfl⟩
    | some (field :: fields) =>
        obtain ⟨t', -, htime', -⟩ := hreadable.depths _ (hprevious _ rfl)
        rw [previous_timestamp_ms, htime']
        exact ⟨some t', rfl⟩
  obtain ⟨selected, hselected, hmem⟩ := windowed_trades_returns start_ms t hreadable.times
  obtain ⟨delta, hdelta⟩ := foldl_add_trade_returns
    (fun trade htrade => hreadable.deltas trade (hmem trade htrade)) (0 : F)
  have hbooks : ∀ before ∈ previous, ∃ bids asks,
      parse_levels floats (before.get "bids") = .ok bids ∧
        parse_levels floats (before.get "asks") = .ok asks := fun before hbefore =>
    hreadable.books before (hprevious before hbefore)
  obtain ⟨depth, hdepth⟩ : ∃ depth,
      previous_reading (snapshot_top_depth floats) previous = .ok depth := by
    apply previous_reading_returns
    intro before hbefore
    obtain ⟨bids, asks, hbids, hasks⟩ := hbooks before hbefore
    rw [snapshot_top_depth, hbids, hasks]
    exact ⟨_, rfl⟩
  obtain ⟨spread, hspread⟩ : ∃ spread,
      previous_reading (snapshot_spread_bps floats) previous = .ok spread := by
    apply previous_reading_returns
    intro before hbefore
    obtain ⟨bids, asks, hbids, hasks⟩ := hbooks before hbefore
    rw [snapshot_spread_bps, hbids, hasks, ok_bind, ok_bind]
    cases bids <;> cases asks <;> exact ⟨_, rfl⟩
  unfold feature_row
  simp only [htime, hstart, hbids, hasks, signed_trade_delta_usd, count_trades, hselected, hdelta,
    hdepth, hspread, htext, hupdate, hopen, ok_bind]
  exact ⟨_, rfl⟩

theorem feature_rows_returns (hreadable : Readable floats inputs)
    {ordered : List (JsonObject F)} {previous : Option (JsonObject F)}
    (hprevious : ∀ before ∈ previous, before ∈ depth_objects inputs.depth_snapshots)
    (hordered : ∀ snapshot ∈ ordered, snapshot ∈ depth_objects inputs.depth_snapshots) :
    ∃ rows, feature_rows floats inputs previous ordered = .ok rows := by
  induction ordered generalizing previous with
  | nil => exact ⟨[], rfl⟩
  | cons snapshot rest ih =>
      have hsnapshot := hordered snapshot List.mem_cons_self
      obtain ⟨row, hrow⟩ := feature_row_returns hreadable hprevious hsnapshot
      have hnext : ∀ before ∈ some snapshot, before ∈ depth_objects inputs.depth_snapshots := by
        intro before hbefore
        rw [← Option.some.inj hbefore]
        exact hsnapshot
      obtain ⟨rows, hrows⟩ := ih hnext fun later hlater =>
        hordered later (List.mem_cons_of_mem snapshot hlater)
      rw [feature_rows, hrow, ok_bind, hrows]
      exact ⟨row :: rows, rfl⟩

/-- On readable inputs the call returns its rows. -/
theorem features_return (hreadable : Readable floats inputs) :
    ∃ rows, build_microstructure_features floats inputs = .ok rows := by
  obtain ⟨ordered, hordered⟩ :
      ∃ ordered, ordered_depths floats inputs.depth_snapshots = .ok ordered := by
    have hkeys : ∀ snapshot ∈ depth_objects inputs.depth_snapshots,
        ((depth_timestamp_ms floats snapshot).map fun key => (key, snapshot))
          = .ok ((((depth_timestamp_ms floats snapshot).toOption).getD 0), snapshot) := by
      intro snapshot hsnapshot
      obtain ⟨t, -, htime, -⟩ := hreadable.depths snapshot hsnapshot
      rw [htime]
      rfl
    rw [ordered_depths, mapM_eq_ok_map hkeys]
    exact ⟨_, rfl⟩
  have hperm := (ordered_depths_spec floats hordered).1
  have hnone : ∀ before ∈ (none : Option (JsonObject F)),
      before ∈ depth_objects inputs.depth_snapshots := by
    intro before hbefore
    cases hbefore
  obtain ⟨rows, hrows⟩ := feature_rows_returns hreadable hnone
    fun snapshot hsnapshot => hperm.mem_iff.mp hsnapshot
  exact ⟨rows, by rw [build_microstructure_features, hordered, ok_bind, hrows]⟩

/-- Snapshots with positive times, in any order, and any trades: on readable inputs there
are rows, and where there are rows each trade up to the last bar is counted once, in the
row whose window has its time. -/
theorem trades_attributed_once (floats : FeatureFloats F) (inputs : FeatureInputs F)
    (hpositive : ∀ snapshot ∈ depth_objects inputs.depth_snapshots, ∀ t,
      depth_timestamp_ms floats snapshot = .ok t → 0 < t) :
    (Readable floats inputs → ∃ rows, build_microstructure_features floats inputs = .ok rows) ∧
      ∀ rows, build_microstructure_features floats inputs = .ok rows →
        AttributedOnce floats inputs.agg_trades rows := by
  refine ⟨features_return, ?_⟩
  intro rows h
  obtain ⟨hrising, hcounts⟩ := features_windows floats inputs hpositive h
  have hcovered : ∀ t : ℤ, Covered none (rows.map FeatureRow.timestamp_ms) t
      ↔ ∃ last ∈ rows.getLast?, t ≤ last.timestamp_ms := by
    intro t
    rw [covered_none_iff hrising.2, List.getLast?_map]
    simp
  refine ⟨?_, ?_, ?_⟩
  · intro k row window hrow hwindow
    rw [row_window_eq] at hwindow
    have hcount := congrArg (fun counts => counts[k]?) hcounts
    simp only [List.getElem?_map, hrow, hwindow, Option.map_some] at hcount
    exact Option.some.inj hcount
  · intro trade _ t _ hlast
    simp only [row_window_eq]
    exact existsUnique_window hrising ((hcovered t).mpr hlast)
  · rw [hcounts]
    refine (sum_countP_windows hrising (trade_time floats) inputs.agg_trades).trans ?_
    simp only [hcovered]

/-! ## Two bars -/

/-- Rational numbers as floats, of which whole numbers are read from texts. -/
def rational_floats : FeatureFloats ℚ where
  parse_float := plain_texts.parse_float
  float_of_int := fun n => .ok n
  int_of_float := fun x => .ok (some (truncate x))
  lt := fun x y => decide (x < y)
  le := fun x y => decide (x ≤ y)
  abs := fun x => |x|

/-- A depth snapshot with one level a side. -/
def plain_depth (time : ℤ) : JsonValue ℚ :=
  .dict [("lastUpdateId", .int 10), ("T", .int time),
    ("bids", .list [.list [.str "100", .str "8"]]),
    ("asks", .list [.list [.str "102", .str "8"]])]

/-- A bought unit. -/
def plain_trade (time : ℤ) : JsonValue ℚ :=
  .dict [("T", .int time), ("p", .str "100"), ("q", .str "1"), ("m", .bool false)]

/-- Two bars, handed over in the wrong order, and five trades: one before the first bar,
two at the bars' own times, one between them and one after the last. -/
def two_bars : FeatureInputs ℚ where
  symbol := "BTCUSDT"
  depth_snapshots := [plain_depth 2000, plain_depth 1000]
  agg_trades := [2000, 500, 2500, 1000, 1500].map plain_trade
  open_interest := .null
  imbalance_threshold := 1 / 2
  spread_spike_multiplier := 3

/-- Two trades in either row; the one after the last bar is in none. -/
theorem trades_attributed_once_two_bars : ∃ rows,
    build_microstructure_features rational_floats two_bars = .ok rows ∧
      rows.map FeatureRow.trade_count = [2, 2] ∧
      AttributedOnce rational_floats two_bars.agg_trades rows := by
  have hcounts : (build_microstructure_features rational_floats two_bars).map
      (fun rows => rows.map FeatureRow.trade_count) = .ok [2, 2] := by decide +kernel
  obtain ⟨rows, hrows, hcount⟩ := map_ok hcounts
  have hpositive : ∀ snapshot ∈ depth_objects two_bars.depth_snapshots, ∀ t,
      depth_timestamp_ms rational_floats snapshot = .ok t → 0 < t := by
    intro snapshot hsnapshot t ht
    have htimes : (depth_objects two_bars.depth_snapshots).map
        (depth_timestamp_ms rational_floats) = [.ok 2000, .ok 1000] := by decide +kernel
    have hmem := List.mem_map_of_mem hsnapshot (f := depth_timestamp_ms rational_floats)
    rw [htimes, ht] at hmem
    simp only [List.mem_cons, Except.ok.injEq, List.not_mem_nil, or_false] at hmem
    omega
  exact ⟨rows, hrows, hcount,
    (trades_attributed_once rational_floats two_bars hpositive).2 rows hrows⟩

end ProofAlpha.Data
