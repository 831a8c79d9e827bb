/-
The sidecar series of a CSV bundle (src/engine/data/providers.py,
`build_snapshot_from_bundle`).

A candle looks its funding, open interest and liquidations up under the text of its timestamp.
That is the text of one wall-clock time and one UTC offset (`PyDatetime.isoformat_injective`),
so a candle finds the rows of its instant that are written with its own offset
(`row_written_alike`), and none of the others. Epoch times and times without an offset are all
in UTC and find each other (`writtenAlike_of_utc`).

`float(text)`, `text.isdigit()` and `datetime.fromisoformat(text)` are parameters; a number
that is a timestamp is in seconds, or from thirteen digits on in milliseconds. Reading the
files is left out, and so are the other columns of the candles.
-/
import Mathlib.Algebra.Order.Floor.Ring
import Mathlib.Data.Rat.Floor
import ProofAlpha.Lib.PyDatetime
import ProofAlpha.Lib.PyDict
import ProofAlpha.Lib.PyMath
import ProofAlpha.Lib.PyText

set_option autoImplicit false

namespace ProofAlpha.Data

open ProofAlpha.Lib

/-! ## Timestamps -/

/-- How Python reads texts; `none` is a `ValueError`. -/
structure TimestampTexts (K : Type) where
  py_float : String → Option K
  isdigit : String → Bool
  fromisoformat : String → Option PyDatetime

variable {K : Type} [Field K] [LinearOrder K] [FloorRing K]

/-- `datetime.fromtimestamp(seconds, tz=timezone.utc)`. -/
def fromtimestamp (seconds : K) : Option PyDatetime :=
  let wall := roundHalfEven (seconds * SECOND_US)
  if h : 1 ≤ EPOCH_ORDINAL + wall / DAY_US ∧ EPOCH_ORDINAL + wall / DAY_US ≤ DATE_MAX then
    some ⟨wall, some 0, h.1, h.2, utc_offset_lt⟩
  else none

/-- An epoch time of so many digits. -/
def epoch_timestamp (epoch_value : K) (digits : ℕ) : Option PyDatetime :=
  if 13 ≤ digits then fromtimestamp (epoch_value / 1000) else fromtimestamp epoch_value

/-- `_parse_timestamp_value`. -/
def parse_timestamp_value (texts : TimestampTexts K) (value : String) : Option PyDatetime :=
  let normalized := pyStrip value
  match texts.py_float normalized with
  | none => (texts.fromisoformat normalized).map PyDatetime.as_utc
  | some epoch_value =>
      if '.' ∈ normalized.toList ∧ (⌊epoch_value⌋ : K) = epoch_value then
        epoch_timestamp epoch_value (normalized.toList.takeWhile (· ≠ '.')).length
      else if texts.isdigit normalized then epoch_timestamp epoch_value normalized.length
      else (texts.fromisoformat normalized).map PyDatetime.as_utc

/-- `_normalize_timestamp_key`. -/
def normalize_timestamp_key (texts : TimestampTexts K) (value : String) : Option String :=
  (parse_timestamp_value texts value).map PyDatetime.isoformat

/-! ## Sidecar files -/

/-- `NULL_NUMERIC_MARKERS`. -/
def NULL_NUMERIC_MARKERS : List String := ["na", "n/a", "null", "none", "-", "--"]

/-- `_parse_optional_numeric_value`: the value, and whether it is invalid. -/
def parse_optional_numeric_value (texts : TimestampTexts K) : Option String → K × Bool
  | none => (0, false)
  | some value =>
      let normalized := String.ofList ((pyStrip value).toList.filter (· ≠ ','))
      if normalized = "" then (0, true)
      else if pyLower normalized ∈ NULL_NUMERIC_MARKERS then (0, true)
      else
        match texts.py_float normalized with
        | some value => (value, false)
        | none => (0, true)

/-- What `csv.DictReader` gives: the header, and each row by column. -/
structure CsvTable where
  fieldnames : List String
  rows : List (String → Option String)

/-- `_normalize_header`. -/
def normalize_header (value : String) : String := pyLower (pyStrip value)

/-- `_resolve_optional_column`: the first alias that is a column; of columns with one normalized
name the last. -/
def resolve_optional_column (fieldnames aliases : List String) : Option String :=
  aliases.findSome? fun column =>
    fieldnames.reverse.find? fun fieldname => normalize_header fieldname = normalize_header column

/-- `TIMESTAMP_COLUMN_ALIASES`. -/
def TIMESTAMP_COLUMN_ALIASES : List String := ["timestamp", "time", "datetime", "date", "open_time"]

/-- `SERIES_VALUE_COLUMN_ALIASES.get(value_column, (value_column,))`. -/
def series_value_column_aliases (value_column : String) : List String :=
  if value_column = "funding_rate" then ["funding_rate", "fundingRate", "funding", "rate"]
  else if value_column = "open_interest" then ["open_interest", "openInterest", "oi"]
  else if value_column = "liquidation_notional" then
    ["liquidation_notional", "liquidationNotional", "liquidation", "liquidations"]
  else [value_column]

/-- What `_load_timestamp_series` returns. -/
structure TimestampSeries (K : Type) where
  values : Dict String K
  invalid_count : ℕ
  invalid_timestamp_count : ℕ

/-- One row of a sidecar file. -/
def load_row (texts : TimestampTexts K) (timestamp_column value_column_name : String)
    (series : TimestampSeries K) (row : String → Option String) : TimestampSeries K :=
  let timestamp := (row timestamp_column).getD ""
  if timestamp = "" then series
  else
    match normalize_timestamp_key texts timestamp with
    | none => { series with invalid_timestamp_count := series.invalid_timestamp_count + 1 }
    | some normalized_timestamp =>
        let (parsed_value, was_invalid) :=
          parse_optional_numeric_value texts (row value_column_name)
        { series with
          values := series.values.insert normalized_timestamp parsed_value
          invalid_count := series.invalid_count + was_invalid.toNat }

/-- `_load_timestamp_series` of a file, `none` where there is none. -/
def load_timestamp_series (texts : TimestampTexts K) (table : Option CsvTable)
    (value_column : String) : TimestampSeries K :=
  match table with
  | none => ⟨∅, 0, 0⟩
  | some table =>
      match resolve_optional_column table.fieldnames TIMESTAMP_COLUMN_ALIASES,
        resolve_optional_column table.fieldnames (series_value_column_aliases value_column) with
      | some timestamp_column, some value_column_name =>
          table.rows.foldl (load_row texts timestamp_column value_column_name) ⟨∅, 0, 0⟩
      | _, _ => ⟨∅, 0, 0⟩

/-! ## The bundle -/

/-- The sidecar files of a bundle. -/
structure BundleSidecars where
  funding : Option CsvTable
  open_interest : Option CsvTable
  liquidation_notional : Option CsvTable

/-- The series of a bundle's snapshot, with the timestamps of its candles. -/
structure BundleSeries (K : Type) where
  timestamps : List PyDatetime
  funding_rates : List K
  open_interest : List K
  liquidation_notional : List K

/-- `[series.get(timestamp, 0.0) for timestamp in timestamps]`. -/
def series_values (values : Dict String K) (timestamps : List PyDatetime) : List K :=
  timestamps.map fun timestamp => (values.lookup timestamp.isoformat).getD 0

/-- The series that `build_snapshot_from_bundle` joins to the candles; a candle timestamp that
cannot be read is an error. -/
def bundle_series (texts : TimestampTexts K) (candle_timestamps : List (Option String))
    (sidecars : BundleSidecars) : Option (BundleSeries K) := do
  let timestamps ← candle_timestamps.mapM fun raw => parse_timestamp_value texts (raw.getD "")
  let funding := load_timestamp_series texts sidecars.funding "funding_rate"
  let open_interest := load_timestamp_series texts sidecars.open_interest "open_interest"
  let liquidation :=
    load_timestamp_series texts sidecars.liquidation_notional "liquidation_notional"
  some
    { timestamps := timestamps
      funding_rates := series_values funding.values timestamps
      open_interest := series_values open_interest.values timestamps
      liquidation_notional := series_values liquidation.values timestamps }

/-! ## The rows of a sidecar file -/

/-- The time and the value of a row, if its timestamp can be read. -/
def read_row (texts : TimestampTexts K) (timestamp_column value_column_name : String)
    (row : String → Option String) : Option (PyDatetime × K) :=
  let timestamp := (row timestamp_column).getD ""
  if timestamp = "" then none
  else
    (parse_timestamp_value texts timestamp).map fun time =>
      (time, (parse_optional_numeric_value texts (row value_column_name)).1)

/-- The rows of a sidecar file that can be read, in its order. -/
def sidecar_rows (texts : TimestampTexts K) (table : Option CsvTable) (value_column : String) :
    List (PyDatetime × K) :=
  match table with
  | none => []
  | some table =>
      match resolve_optional_column table.fieldnames TIMESTAMP_COLUMN_ALIASES,
        resolve_optional_column table.fieldnames (series_value_column_aliases value_column) with
      | some timestamp_column, some value_column_name =>
          table.rows.filterMap (read_row texts timestamp_column value_column_name)
      | _, _ => []

theorem values_load_row (texts : TimestampTexts K) (timestamp_column value_column_name : String)
    (series : TimestampSeries K) (row : String → Option String) :
    (load_row texts timestamp_column value_column_name series row).values
      = match read_row texts timestamp_column value_column_name row with
        | none => series.values
        | some (time, value) => series.values.insert time.isoformat value := by
  unfold load_row read_row normalize_timestamp_key
  dsimp only
  split_ifs with hempty
  · rfl
  · cases parse_timestamp_value texts ((row timestamp_column).getD "") <;> rfl

theorem values_foldl_load_row (texts : TimestampTexts K)
    (timestamp_column value_column_name : String) (rows : List (String → Option String))
    (series : TimestampSeries K) :
    (rows.foldl (load_row texts timestamp_column value_column_name) series).values
      = (rows.filterMap (read_row texts timestamp_column value_column_name)).foldl
          (fun values row => values.insert row.1.isoformat row.2) series.values := by
  induction rows generalizing series with
  | nil => rfl
  | cons row rows ih =>
      rw [List.foldl_cons, ih, values_load_row]
      cases hrow : read_row texts timestamp_column value_column_name row with
      | none => rw [List.filterMap_cons_none hrow]
      | some item => rw [List.filterMap_cons_some hrow, List.foldl_cons]

/-- A series holds the values of the rows under the texts of their times. -/
theorem values_load_timestamp_series (texts : TimestampTexts K) (table : Option CsvTable)
    (value_column : String) :
    (load_timestamp_series texts table value_column).values
      = (sidecar_rows texts table value_column).foldl
          (fun (values : Dict String K) row => values.insert row.1.isoformat row.2) ∅ := by
  unfold load_timestamp_series sidecar_rows
  cases table with
  | none => rfl
  | some table =>
      dsimp only
      cases resolve_optional_column table.fieldnames TIMESTAMP_COLUMN_ALIASES with
      | none => rfl
      | some timestamp_column =>
          cases resolve_optional_column table.fieldnames
              (series_value_column_aliases value_column) with
          | none => rfl
          | some value_column_name =>
              exact values_foldl_load_row texts timestamp_column value_column_name table.rows _

/-! ## What a candle finds -/

variable {times : List PyDatetime} {rows : List (PyDatetime × K)} {t : PyDatetime}

/-- The row that denotes the instant of a time; of several the last one counts. -/
def row_at (rows : List (PyDatetime × K)) (t : PyDatetime) : Option (PyDatetime × K) :=
  (rows.filter fun row => row.1.instant = t.instant).getLast?

/-- The row that denotes the instant with the same UTC offset. -/
def row_written_alike (rows : List (PyDatetime × K)) (t : PyDatetime) : Option (PyDatetime × K) :=
  (rows.filter fun row => row.1.instant = t.instant ∧ row.1.utcoffset = t.utcoffset).getLast?

omit [Field K] [LinearOrder K] [FloorRing K] in
/-- The last row of an instant is the one found if it has the offset. -/
theorem row_written_alike_of_row_at {row : PyDatetime × K} (h : row_at rows t = some row)
    (hoffset : row.1.utcoffset = t.utcoffset) : row_written_alike rows t = some row := by
  obtain ⟨init, hinit⟩ := List.getLast?_eq_some_iff.mp h
  have hfilter : (rows.filter fun row =>
        row.1.instant = t.instant ∧ row.1.utcoffset = t.utcoffset)
      = (rows.filter fun row => row.1.instant = t.instant).filter
          fun row => row.1.utcoffset = t.utcoffset := by
    rw [List.filter_filter]
    refine List.filter_congr fun row _ => ?_
    rw [← Bool.decide_and]
    exact decide_eq_decide.mpr and_comm
  rw [row_written_alike, hfilter, hinit, List.filter_append, List.filter_cons,
    if_pos (decide_eq_true hoffset), List.getLast?_append]
  rfl

theorem isoformat_eq_iff (d d' : PyDatetime) :
    d.isoformat = d'.isoformat ↔ d.instant = d'.instant ∧ d.utcoffset = d'.utcoffset := by
  rw [PyDatetime.isoformat_injective.eq_iff]
  constructor
  · rintro rfl
    exact ⟨rfl, rfl⟩
  · rintro ⟨hinstant, hoffset⟩
    unfold PyDatetime.instant at hinstant
    rw [hoffset] at hinstant
    exact PyDatetime.ext (by omega) hoffset

/-- A candle finds the rows of its instant that are written with its offset. -/
theorem lookup_load_timestamp_series (texts : TimestampTexts K) (table : Option CsvTable)
    (value_column : String) (t : PyDatetime) :
    (load_timestamp_series texts table value_column).values.lookup t.isoformat
      = (row_written_alike (sidecar_rows texts table value_column) t).map Prod.snd := by
  rw [values_load_timestamp_series, Dict.lookup_foldl_insert, row_written_alike]
  congr 2
  refine List.filter_congr fun row _ => ?_
  exact decide_eq_decide.mpr (isoformat_eq_iff row.1 t)

/-! ## The join -/

/-- A candle whose instant a row denotes has the value of that row. -/
def JoinsByInstant (times : List PyDatetime) (rows : List (PyDatetime × K)) (values : List K) :
    Prop :=
  ∀ (i : ℕ) (t : PyDatetime) (row : PyDatetime × K), times[i]? = some t →
    row_at rows t = some row → values[i]? = some row.2

/-- The row of a candle's instant is written with the candle's UTC offset, or the one that is, if
any, has its value. -/
def WrittenAlike (times : List PyDatetime) (rows : List (PyDatetime × K)) : Prop :=
  ∀ t ∈ times, ∀ row, row_at rows t = some row →
    row.1.utcoffset = t.utcoffset ∨ ((row_written_alike rows t).map Prod.snd).getD 0 = row.2

/-- One series of a bundle is joined by instant exactly when it is written alike. -/
theorem series_joins_iff (texts : TimestampTexts K) (table : Option CsvTable)
    (value_column : String) (times : List PyDatetime) :
    JoinsByInstant times (sidecar_rows texts table value_column)
        (series_values (load_timestamp_series texts table value_column).values times)
      ↔ WrittenAlike times (sidecar_rows texts table value_column) := by
  set rows := sidecar_rows texts table value_column with hrows
  have hvalue : ∀ (i : ℕ) (t : PyDatetime), times[i]? = some t →
      (series_values (load_timestamp_series texts table value_column).values times)[i]?
        = some (((row_written_alike rows t).map Prod.snd).getD 0) := by
    intro i t ht
    rw [series_values, List.getElem?_map, ht, Option.map_some, lookup_load_timestamp_series]
  constructor
  · intro h t ht row hrow
    obtain ⟨i, hi⟩ := List.mem_iff_getElem?.mp ht
    have hjoined := h i t row hi hrow
    rw [hvalue i t hi] at hjoined
    exact .inr (Option.some.inj hjoined)
  · intro h i t row hi hrow
    rw [hvalue i t hi]
    rcases h t (List.mem_of_getElem? hi) row hrow with hoffset | hsame
    · rw [row_written_alike_of_row_at hrow hoffset]
      rfl
    · rw [hsame]

/-- The series of a bundle are joined to the candles by instant exactly when the rows and the candles
of an instant are written alike. -/
theorem bundle_joins_by_instant_iff {texts : TimestampTexts K}
    {candle_timestamps : List (Option String)} {sidecars : BundleSidecars}
    {series : BundleSeries K} (h : bundle_series texts candle_timestamps sidecars = some series) :
    (JoinsByInstant series.timestamps (sidecar_rows texts sidecars.funding "funding_rate")
          series.funding_rates
        ↔ WrittenAlike series.timestamps (sidecar_rows texts sidecars.funding "funding_rate"))
      ∧ (JoinsByInstant series.timestamps
            (sidecar_rows texts sidecars.open_interest "open_interest") series.open_interest
        ↔ WrittenAlike series.timestamps
            (sidecar_rows texts sidecars.open_interest "open_interest"))
      ∧ (JoinsByInstant series.timestamps
            (sidecar_rows texts sidecars.liquidation_notional "liquidation_notional")
            series.liquidation_notional
        ↔ WrittenAlike series.timestamps
            (sidecar_rows texts sidecars.liquidation_notional "liquidation_notional")) := by
  obtain ⟨timestamps, -, hseries⟩ := Option.bind_eq_some_iff.mp h
  obtain rfl := Option.some.inj hseries
  exact ⟨series_joins_iff .., series_joins_iff .., series_joins_iff ..⟩

/-! ## One instant with two offsets -/

/-- Midnight of the first day of 2024 in UTC. -/
def utc_midnight : PyDatetime :=
  ⟨1704067200000000, some 0, by decide, by decide, utc_offset_lt⟩

/-- The same instant on a clock two hours ahead. -/
def utc_midnight_ahead : PyDatetime :=
  ⟨1704074400000000, some 7200000000, by decide, by decide, by decide⟩

/-- How those two times and one rate are read. -/
def midnight_texts : TimestampTexts ℚ where
  py_float := fun text => if text = "0.0001" then some (1 / 10000) else none
  isdigit := fun _ => false
  fromisoformat := fun text =>
    if text = "2024-01-01T00:00:00+00:00" then some utc_midnight
    else if text = "2024-01-01T02:00:00+02:00" then some utc_midnight_ahead
    else none

/-- A funding file with one row. -/
def one_row_sidecars (timestamp : String) : BundleSidecars where
  funding := some
    { fieldnames := ["timestamp", "funding_rate"]
      rows := [fun column =>
        if column = "timestamp" then some timestamp
        else if column = "funding_rate" then some "0.0001"
        else none] }
  open_interest := none
  liquidation_notional := none

theorem bundle_joins_by_instant_iff_utc :
    JoinsByInstant [utc_midnight] [(utc_midnight, 1 / 10000)] [(1 / 10000 : ℚ)]
      ↔ WrittenAlike [utc_midnight] [(utc_midnight, (1 / 10000 : ℚ))] := by
  have hseries : bundle_series midnight_texts [some "2024-01-01T00:00:00+00:00"]
      (one_row_sidecars "2024-01-01T00:00:00+00:00")
      = some ⟨[utc_midnight], [1 / 10000], [0], [0]⟩ := rfl
  exact (bundle_joins_by_instant_iff hseries).1

/-- The candle and the row are of one instant, and the candle's rate is zero. -/
theorem offset_row_not_found :
    bundle_series midnight_texts [some "2024-01-01T00:00:00+00:00"]
        (one_row_sidecars "2024-01-01T02:00:00+02:00")
      = some ⟨[utc_midnight], [0], [0], [0]⟩
    ∧ ¬ JoinsByInstant [utc_midnight]
        (sidecar_rows midnight_texts (one_row_sidecars "2024-01-01T02:00:00+02:00").funding
          "funding_rate") [(0 : ℚ)] := by
  refine ⟨rfl, fun hjoins => ?_⟩
  have hrow := hjoins 0 utc_midnight (utc_midnight_ahead, 1 / 10000) rfl rfl
  exact absurd hrow (by decide +kernel)

end ProofAlpha.Data
