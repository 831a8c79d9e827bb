/-
Histories fetched page after page (src/engine/data/fetch.py).

The funding and open-interest histories of Binance and the candles, funding and open interest of
a CCXT venue. What a server answers to a request is a parameter; the requests and what ends them
are a `Pager` each. Times are milliseconds since 1970, and so is the range,
`start_ms` to `end_ms`. An item of a CCXT payload is a decoded JSON value; its bars are the six
numbers of a candle. Retries, the request URLs and the lookup of the CCXT method are left out.
-/
import ProofAlpha.Data.ArchiveFetch
import ProofAlpha.Lib.Paging
import ProofAlpha.Lib.PyJson

set_option autoImplicit false

namespace ProofAlpha.Data

open ProofAlpha.Lib

variable {K : Type}

/-! ## Binance funding -/

/-- A record of the REST server: `fundingTime` and `fundingRate`, or `timestamp` and
`sumOpenInterest`. -/
structure SeriesRecord (K : Type) where
  time : ℤ
  value : K

/-- The row made of a record. -/
def series_row (record : SeriesRecord K) : String × K := (iso_text record.time, record.value)

/-- The next request begins right after the last item of a full page that ends past
`current_start`. -/
def after_full_page {α : Type} (time : α → ℤ) (limit : ℕ) (current_start : ℤ)
    (payload : List α) : Option ℤ :=
  match payload.getLast? with
  | none => none
  | some last =>
      if time last ≤ current_start ∨ payload.length < limit then none else some (time last + 1)

section

variable {α : Type} {time : α → ℤ} {limit : ℕ} {current_start next : ℤ} {payload : List α}

theorem after_full_page_eq_some (h : after_full_page time limit current_start payload = some next) :
    ∃ last, payload.getLast? = some last ∧ current_start < time last ∧ limit ≤ payload.length
      ∧ next = time last + 1 := by
  unfold after_full_page at h
  split at h
  · cases h
  · next last hlast =>
      split_ifs at h with hend
      obtain ⟨hpast, hfull⟩ := not_or.mp hend
      exact ⟨last, hlast, not_le.mp hpast, not_lt.mp hfull, (Option.some.inj h).symm⟩

theorem after_full_page_eq_none (h : after_full_page time limit current_start payload = none)
    (last : α) (hlast : payload.getLast? = some last) :
    time last ≤ current_start ∨ payload.length < limit := by
  rw [after_full_page, hlast] at h
  dsimp only at h
  split_ifs at h with hend
  exact hend

theorem lt_after_full_page (h : after_full_page time limit current_start payload = some next) :
    current_start < next := by
  obtain ⟨last, -, hpast, -, rfl⟩ := after_full_page_eq_some h
  omega

end

/-- `_BINANCE_MAX_FUNDING`. -/
def BINANCE_MAX_FUNDING : ℕ := 1000

/-- The requests of `_fetch_binance_funding_rows`. -/
def binance_funding_pages (funding_rates : ℤ → ℤ → List (SeriesRecord K)) (end_ms : ℤ) :
    Pager (SeriesRecord K) where
  stop := end_ms
  request current_start := funding_rates current_start end_ms
  advance := after_full_page SeriesRecord.time BINANCE_MAX_FUNDING
  lt_advance := fun _ h => lt_after_full_page h

/-- `_fetch_binance_funding_rows`. -/
def fetch_binance_funding_rows (funding_rates : ℤ → ℤ → List (SeriesRecord K))
    (start_ms end_ms : ℤ) : List (String × K) :=
  ((binance_funding_pages funding_rates end_ms).fetch start_ms).map series_row

/-! ## Binance open interest -/

/-- `_BINANCE_INTERVAL_MAP`. -/
def BINANCE_INTERVAL_MAP : List (String × String) :=
  [("1Min", "1m"), ("5Min", "5m"), ("15Min", "15m"), ("30Min", "30m"), ("1Hour", "1h"),
    ("2Hour", "2h"), ("4Hour", "4h"), ("1Day", "1d")]

/-- `_OPEN_INTEREST_INTERVAL_MINUTES`. -/
def OPEN_INTEREST_INTERVAL_MINUTES : List (String × ℕ) :=
  [("5m", 5), ("15m", 15), ("30m", 30), ("1h", 60), ("2h", 120), ("4h", 240), ("6h", 360),
    ("12h", 720), ("1d", 1440)]

/-- `_BINANCE_MAX_OPEN_INTEREST`. -/
def BINANCE_MAX_OPEN_INTEREST : ℕ := 500

/-- `_open_interest_window_ms`. -/
def open_interest_window_ms (interval : String) : ℕ :=
  (OPEN_INTEREST_INTERVAL_MINUTES.lookup interval).getD 60 * 60 * 1000
    * (BINANCE_MAX_OPEN_INTEREST - 1)

/-- The period that `_fetch_binance_open_interest_rows` asks for. -/
def open_interest_interval (timeframe : String) : String :=
  let interval := (BINANCE_INTERVAL_MAP.lookup timeframe).getD "1h"
  if interval ∈ ["5m", "15m", "30m", "1h", "2h", "4h", "6h", "12h", "1d"] then interval else "1h"

/-- The requests of `_fetch_binance_open_interest_rows`: window after window, and within a window
page after page. -/
def binance_open_interest_pages (open_interest : ℤ → ℤ → List (SeriesRecord K))
    (max_window_ms : ℕ) (end_ms : ℤ) : Pager (SeriesRecord K) where
  stop := end_ms
  request current_start := open_interest current_start (min end_ms (current_start + max_window_ms))
  advance current_start payload :=
    match after_full_page SeriesRecord.time BINANCE_MAX_OPEN_INTEREST current_start payload with
    | none => some (min end_ms (current_start + max_window_ms) + 1)
    | some next => some next
  lt_advance := by
    intro current_start next payload hstart h
    split at h
    · have hnext := Option.some.inj h
      omega
    · next after hafter =>
        have hlt := lt_after_full_page hafter
        have hnext := Option.some.inj h
        omega

/-- `end_dt - timedelta(days=29)` and later: Binance serves no earlier open interest. -/
def capped_start_ms (start_ms end_ms : ℤ) : ℤ := max start_ms (end_ms - 29 * DAY_MS)

/-- `_fetch_binance_open_interest_rows`; `open_interest` answers for a period, a `startTime` and an
`endTime`. -/
def fetch_binance_open_interest_rows (open_interest : String → ℤ → ℤ → List (SeriesRecord K))
    (timeframe : String) (start_ms end_ms : ℤ) : List (String × K) :=
  let interval := open_interest_interval timeframe
  ((binance_open_interest_pages (open_interest interval) (open_interest_window_ms interval)
    end_ms).fetch (capped_start_ms start_ms end_ms)).map series_row

/-! ## CCXT candles -/

/-- The requests of `_fetch_ccxt_ohlcv_rows`; `ohlcv` answers for a `since` and a limit. -/
def ccxt_ohlcv_pages (ohlcv : ℤ → ℕ → List (Kline K)) (end_ms : ℤ) : Pager (Kline K) where
  stop := end_ms
  request current_start := ohlcv current_start 1000
  advance := after_full_page Kline.open_time 1000
  lt_advance := fun _ h => lt_after_full_page h

/-- `_fetch_ccxt_ohlcv_rows`. -/
def fetch_ccxt_ohlcv_rows (ohlcv : ℤ → ℕ → List (Kline K)) (start_ms end_ms : ℤ) :
    List (CandleRow K) :=
  ((ccxt_ohlcv_pages ohlcv end_ms).fetch start_ms).filterMap fun item =>
    if item.open_time > end_ms then none else some (rest_row item)

/-! ## CCXT series -/

section Series

variable [Field K] [LinearOrder K] [FloorRing K]

/-- `record.get(key)`, or what the record's `info` has for the key. -/
def record_value (record : JsonObject K) (key : String) : JsonValue K :=
  match record.get key with
  | .null =>
      match record.get "info" with
      | .dict info => JsonObject.get info key
      | _ => .null
  | value => value

/-- `_record_float`: the first of the keys that has a number. -/
def record_float (parse_float : String → Option K) (record : JsonObject K) (keys : List String) :
    Option K :=
  keys.findSome? fun key => float_or_none parse_float (record_value record key)

/-- `_record_ms`. -/
def record_ms (parse_float : String → Option K) (record : JsonObject K) (keys : List String) :
    Option ℤ :=
  (record_float parse_float record keys).map truncate

/-- The time and the value of an item, if it is a record that has both. -/
def read_record (parse_float : String → Option K) (time_keys value_keys : List String) :
    JsonValue K → Option (ℤ × K)
  | .dict record => do
      let timestamp_ms ← record_ms parse_float record time_keys
      let value ← record_float parse_float record value_keys
      some (timestamp_ms, value)
  | _ => none

/-- The rows of a payload as times and values: what can be read up to `end_ms`. -/
def payload_rows (read : JsonValue K → Option (ℤ × K)) (end_ms : ℤ)
    (payload : List (JsonValue K)) : List (ℤ × K) :=
  payload.filterMap fun item => (read item).filter fun row => row.1 ≤ end_ms

/-- `last_timestamp` after the rows of a payload. -/
def last_timestamp (current_start : ℤ) (rows : List (ℤ × K)) : ℤ :=
  rows.foldl (fun last row => max last row.1) current_start

/-- The requests of `_fetch_ccxt_funding_rows` and `_fetch_ccxt_open_interest_rows`. -/
def ccxt_series_pages (read : JsonValue K → Option (ℤ × K)) (limit : ℕ)
    (method : ℤ → ℕ → List (JsonValue K)) (end_ms : ℤ) : Pager (JsonValue K) where
  stop := end_ms
  request current_start := method current_start limit
  advance current_start payload :=
    let last := last_timestamp current_start (payload_rows read end_ms payload)
    if last ≤ current_start ∨ payload.length < limit then none else some (last + 1)
  lt_advance := by
    intro current_start next payload _ h
    dsimp only at h
    split_ifs at h with hlast
    have hnext := Option.some.inj h
    omega

/-- The rows that both write of the pages. -/
def fetch_ccxt_series_rows (read : JsonValue K → Option (ℤ × K)) (limit : ℕ)
    (method : ℤ → ℕ → List (JsonValue K)) (start_ms end_ms : ℤ) : List (String × K) :=
  (payload_rows read end_ms ((ccxt_series_pages read limit method end_ms).fetch start_ms)).map
    fun row => (iso_text row.1, row.2)

/-- A record of `_fetch_ccxt_funding_rows`. -/
def funding_record (parse_float : String → Option K) : JsonValue K → Option (ℤ × K) :=
  read_record parse_float ["timestamp", "fundingTime", "fundingRateTimestamp"]
    ["fundingRate", "rate"]

/-- `_fetch_ccxt_funding_rows`. -/
def fetch_ccxt_funding_rows (parse_float : String → Option K)
    (method : ℤ → ℕ → List (JsonValue K)) (start_ms end_ms : ℤ) : List (String × K) :=
  fetch_ccxt_series_rows (funding_record parse_float) 1000 method start_ms end_ms

/-- A record of `_fetch_ccxt_open_interest_rows`. -/
def open_interest_record (parse_float : String → Option K) : JsonValue K → Option (ℤ × K) :=
  read_record parse_float ["timestamp", "openTime"]
    ["openInterestAmount", "openInterestValue", "openInterest", "sumOpenInterest"]

/-- `_fetch_ccxt_open_interest_rows`. -/
def fetch_ccxt_open_interest_rows (parse_float : String → Option K)
    (method : ℤ → ℕ → List (JsonValue K)) (start_ms end_ms : ℤ) : List (String × K) :=
  fetch_ccxt_series_rows (open_interest_record parse_float) 500 method start_ms end_ms

end Series

end ProofAlpha.Data
