/-
The candles of a Binance archive snapshot (src/engine/data/fetch.py).

The archive of a period has the bars that open in it, and the REST server returns
the earliest bars with `startTime <= open time <= endTime`, up to its limit; which
archives there are is an arbitrary `available`. Times are milliseconds since
1970. Downloads, checksums, retries and the other files of the snapshot are left
out, and the texts of the prices.
-/
import Mathlib.Data.List.Sort
import ProofAlpha.Lib.Calendar
import ProofAlpha.Lib.Checks

set_option autoImplicit false

namespace ProofAlpha.Data

open ProofAlpha.Lib

variable {K : Type}

/-! ## Dates -/

/-- `datetime.date`. -/
structure PyDate where
  ordinal : ℕ
  min : 1 ≤ ordinal
  max : ordinal ≤ DATE_MAX

namespace PyDate

/-- `date.fromordinal`. -/
def of_ordinal (ordinal : ℕ) : Except String PyDate :=
  if h : 1 ≤ ordinal ∧ ordinal ≤ DATE_MAX then .ok ⟨ordinal, h.1, h.2⟩
  else .error "date value out of range"

/-- `date.day`. -/
def day (d : PyDate) : ℕ := day_of_month d.ordinal

/-- `date + timedelta(days=days)`. -/
def add_days (d : PyDate) (days : ℕ) : Except String PyDate := of_ordinal (d.ordinal + days)

/-- `date.replace(day=day)` for a day that every month has. -/
def replace_day (d : PyDate) (day : ℕ) : Except String PyDate :=
  of_ordinal (d.ordinal - d.day + day)

/-- The first day of the next month, as `_iter_archive_periods` computes it. -/
def next_month (d : PyDate) : Except String PyDate := do
  let late ← d.replace_day 28
  let later ← late.add_days 4
  later.replace_day 1

theorem of_ordinal_eq_ok {ordinal : ℕ} {d : PyDate} (h : of_ordinal ordinal = .ok d) :
    d.ordinal = ordinal := by
  rw [of_ordinal] at h
  split_ifs at h with hrange
  rw [← Except.ok.inj h]

theorem of_ordinal_ok (d : PyDate) : of_ordinal d.ordinal = .ok d := dif_pos ⟨d.min, d.max⟩

theorem day_bounds (d : PyDate) : 1 ≤ d.day ∧ d.day ≤ 31 := day_of_month_bounds d.min

theorem add_days_ordinal {d d' : PyDate} {days : ℕ} (h : d.add_days days = .ok d') :
    d'.ordinal = d.ordinal + days := of_ordinal_eq_ok h

theorem next_month_ordinal {d next : PyDate} (h : d.next_month = .ok next) :
    ∃ later, later = d.ordinal - d.day + 28 + 4 ∧ later ≤ DATE_MAX
      ∧ next.ordinal = later - day_of_month later + 1 := by
  obtain ⟨late, hlate, h⟩ := bind_ok h
  obtain ⟨later, hlater, h⟩ := bind_ok h
  refine ⟨later.ordinal, ?_, later.max, of_ordinal_eq_ok h⟩
  rw [add_days_ordinal hlater, of_ordinal_eq_ok hlate]

/-- The next month begins later. -/
theorem lt_next_month {d next : PyDate} (h : d.next_month = .ok next) (hfirst : d.day = 1) :
    d.ordinal < next.ordinal := by
  obtain ⟨later, hlater, -, hnext⟩ := next_month_ordinal h
  have hday := day_of_month_bounds (show 1 ≤ later by omega)
  have hmin := d.min
  omega

end PyDate

/-! ## Periods -/

/-- The archives there are. -/
inductive PeriodType where
  | monthly
  | daily
deriving DecidableEq

/-- A period with its first and last day. -/
structure ArchivePeriod where
  period_type : PeriodType
  period_start : ℕ
  period_end : ℕ
deriving DecidableEq

/-- `_iter_archive_periods`: a month that lies in the range as a whole, otherwise a day. -/
def iter_archive_periods (current end_day : PyDate) : Except String (List ArchivePeriod) :=
  if current.ordinal ≤ end_day.ordinal then
    match hnext : current.next_month with
    | .error error => .error error
    | .ok next_month =>
        if hmonth : current.day = 1 ∧ next_month.ordinal - 1 ≤ end_day.ordinal then
          have := PyDate.lt_next_month hnext hmonth.1
          (iter_archive_periods next_month end_day).map fun rest =>
            ⟨.monthly, current.ordinal, next_month.ordinal - 1⟩ :: rest
        else
          match htomorrow : current.add_days 1 with
          | .error error => .error error
          | .ok tomorrow =>
              have := PyDate.add_days_ordinal htomorrow
              (iter_archive_periods tomorrow end_day).map fun rest =>
                ⟨.daily, current.ordinal, current.ordinal⟩ :: rest
  else .ok []
termination_by end_day.ordinal + 1 - current.ordinal

/-! ## Bars -/

/-- A bar of the exchange. -/
structure Kline (K : Type) where
  open_time : ℤ
  open_price : K
  high : K
  low : K
  close : K
  volume : K
  trade_count : ℤ

/-- The bars of the exchange, in the order they open. -/
structure Exchange (K : Type) where
  bars : List (Kline K)
  sorted : bars.Pairwise fun a b => a.open_time < b.open_time

/-- A row of the candles; those of the REST server have no trade count. -/
structure CandleRow (K : Type) where
  timestamp : String
  open_price : K
  high : K
  low : K
  close : K
  volume : K
  trade_count : Option ℤ := none

/-- The row that `_fetch_binance_klines` makes of a bar. -/
def rest_row (bar : Kline K) : CandleRow K where
  timestamp := iso_text bar.open_time
  open_price := bar.open_price
  high := bar.high
  low := bar.low
  close := bar.close
  volume := bar.volume

/-- The row that `_parse_binance_archive_kline_zip` makes of a bar. -/
def archive_row (bar : Kline K) : CandleRow K :=
  { rest_row bar with trade_count := some bar.trade_count }

/-- The midnight at which a day begins. -/
def midnight (ordinal : ℕ) : ℤ := (ordinal - EPOCH_ORDINAL) * DAY_MS

/-- The bars that open from one time on and before another. -/
def Exchange.bars_between (exchange : Exchange K) (start stop : ℤ) : List (Kline K) :=
  exchange.bars.filter fun bar => start ≤ bar.open_time ∧ bar.open_time < stop

/-- `_BINANCE_MAX_KLINES`. -/
def BINANCE_MAX_KLINES : ℕ := 1500

/-- The answer of the REST server. -/
def Exchange.rest_klines (exchange : Exchange K) (startTime endTime : ℤ) : List (Kline K) :=
  (exchange.bars_between startTime (endTime + 1)).take BINANCE_MAX_KLINES

/-! ## Fetching -/

/-- `_fetch_binance_klines` from `current_start` on: page after page, until one is empty or
short. -/
def fetch_binance_klines (klines : ℤ → ℤ → List (Kline K)) (end_ms current_start : ℤ) :
    List (CandleRow K) :=
  if current_start < end_ms then
    let payload := klines current_start end_ms
    match payload.getLast? with
    | none => []
    | some last =>
        if _h : last.open_time ≤ current_start ∨ payload.length < BINANCE_MAX_KLINES then
          payload.map rest_row
        else payload.map rest_row ++ fetch_binance_klines klines end_ms (last.open_time + 1)
  else []
termination_by (end_ms - current_start).toNat
decreasing_by omega

/-- The rows of a period: those of its archive, or of the REST server when the archive is not
to be had. -/
def period_rows (exchange : Exchange K) (available : ArchivePeriod → Bool)
    (period : ArchivePeriod) : List (CandleRow K) :=
  if available period then
    (exchange.bars_between (midnight period.period_start) (midnight (period.period_end + 1))).map
      archive_row
  else
    fetch_binance_klines exchange.rest_klines (midnight (period.period_end + 1))
      (midnight period.period_start)

/-- The candle rows that the archive fetch writes. -/
def archive_candle_rows (exchange : Exchange K) (available : ArchivePeriod → Bool)
    (start_day end_day : PyDate) : Except String (List (CandleRow K)) := do
  require (start_day.ordinal ≤ end_day.ordinal) "end_date must be on or after start_date"
  let periods ← iter_archive_periods start_day end_day
  .ok ((periods.flatMap (period_rows exchange available)).insertionSort fun a b =>
    a.timestamp ≤ b.timestamp)

end ProofAlpha.Data
