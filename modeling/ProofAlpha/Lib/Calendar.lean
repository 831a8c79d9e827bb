/-
The proleptic Gregorian calendar of Python's `datetime`, and the text of a UTC
time.

A date is its ordinal, 1 for the first of January of the year 1; `ord2ymd` is
year, month and day of it, and later dates have later years, months and days
(`ymd_lt_of_lt`). The days of a month are `WholeMonth`, and `wholeMonth_of_first`
finds the last of them from the first. `iso_text` is `isoformat()` of a time given in milliseconds
since 1970. Its fields have fixed widths, so the texts of times are in the order
of the times (`iso_text_mono`).
-/
import Mathlib.Data.List.Basic
import Mathlib.Data.Nat.Digits.Defs
import Mathlib.Data.String.Basic

set_option autoImplicit false

namespace ProofAlpha.Lib

/-! ## Dates -/

/-- `date.max.toordinal()`. -/
def DATE_MAX : ℕ := 3652059

/-- The days of a year before its months, without a leap day. -/
def DAYS_BEFORE_MONTH : List ℕ := [0, 0, 31, 59, 90, 120, 151, 181, 212, 243, 273, 304, 334]

/-- The days before the first of a month. -/
def days_before_month (leap : Bool) (month : ℕ) : ℕ :=
  DAYS_BEFORE_MONTH.getD month 0 + if 2 < month ∧ leap then 1 else 0

/-- Month and day of the day of a year, counted from zero: an estimate of the month that is at
most one too large. -/
def month_day (leap : Bool) (n : ℕ) : ℕ × ℕ :=
  let month := (n + 50) / 32
  if n < days_before_month leap month then
    (month - 1, n - days_before_month leap (month - 1) + 1)
  else (month, n - days_before_month leap month + 1)

/-- `_ord2ymd`. -/
def ord2ymd (ordinal : ℕ) : ℕ × ℕ × ℕ :=
  let n := ordinal - 1
  let n400 := n / 146097
  let n := n % 146097
  let n100 := n / 36524
  let n := n % 36524
  let n4 := n / 1461
  let n := n % 1461
  let n1 := n / 365
  let n := n % 365
  let year := n400 * 400 + 1 + n100 * 100 + n4 * 4 + n1
  if n1 = 4 ∨ n100 = 4 then (year - 1, 12, 31)
  else (year, month_day (n1 = 3 ∧ (n4 ≠ 24 ∨ n100 = 3)) n)

/-- The day of its month of a date. -/
def day_of_month (ordinal : ℕ) : ℕ := (ord2ymd ordinal).2.2

/-- The days before the first of January of a year. -/
def days_before_year (year : ℕ) : ℕ :=
  (year - 1) * 365 + (year - 1) / 4 - (year - 1) / 100 + (year - 1) / 400

theorem days_before_year_mono {y y' : ℕ} (h : y ≤ y') :
    days_before_year y ≤ days_before_year y' := by
  refine monotone_nat_of_le_succ (fun y => ?_) h
  unfold days_before_year
  omega

/-- The days before a year, by the cycles of 400, 100, 4 and single years. -/
theorem days_before_year_cycles {a b c d : ℕ} (hb : b ≤ 3) (hc : c ≤ 24) (hd : d ≤ 3) :
    days_before_year (a * 400 + 1 + b * 100 + c * 4 + d)
      = 146097 * a + 36524 * b + 1461 * c + 365 * d := by
  unfold days_before_year
  have hyear : a * 400 + 1 + b * 100 + c * 4 + d - 1 = a * 400 + b * 100 + c * 4 + d := by omega
  have h4 : (a * 400 + b * 100 + c * 4 + d) / 4 = 100 * a + 25 * b + c := by omega
  have h100 : (a * 400 + b * 100 + c * 4 + d) / 100 = 4 * a + b := by omega
  have h400 : (a * 400 + b * 100 + c * 4 + d) / 400 = a := by omega
  rw [hyear, h4, h100, h400]
  omega

/-- The last year of four is one day longer, but for the last one of a century that is not the
fourth. -/
theorem days_before_next_year {a b c d : ℕ} (hb : b ≤ 3) (hc : c ≤ 24) (hd : d ≤ 3) :
    days_before_year (a * 400 + 1 + b * 100 + c * 4 + d + 1)
      = days_before_year (a * 400 + 1 + b * 100 + c * 4 + d) + 365
        + (decide (d = 3 ∧ (c ≠ 24 ∨ b = 3))).toNat := by
  rw [days_before_year_cycles hb hc hd]
  by_cases hd3 : d = 3
  · subst hd3
    by_cases hc24 : c = 24
    · subst hc24
      by_cases hb3 : b = 3
      · subst hb3
        have hyear : a * 400 + 1 + 3 * 100 + 24 * 4 + 3 + 1 = (a + 1) * 400 + 1 + 0 * 100 + 0 * 4 + 0 := by
          omega
        rw [hyear, days_before_year_cycles (by omega) (by omega) (by omega), decide_eq_true (by omega),
          Bool.toNat_true]
        omega
      · have hyear : a * 400 + 1 + b * 100 + 24 * 4 + 3 + 1 = a * 400 + 1 + (b + 1) * 100 + 0 * 4 + 0 := by
          omega
        rw [hyear, days_before_year_cycles (by omega) (by omega) (by omega), decide_eq_false (by omega),
          Bool.toNat_false]
        omega
    · have hyear : a * 400 + 1 + b * 100 + c * 4 + 3 + 1 = a * 400 + 1 + b * 100 + (c + 1) * 4 + 0 := by
        omega
      rw [hyear, days_before_year_cycles (by omega) (by omega) (by omega), decide_eq_true (by omega),
          Bool.toNat_true]
      omega
  · have hyear : a * 400 + 1 + b * 100 + c * 4 + d + 1 = a * 400 + 1 + b * 100 + c * 4 + (d + 1) := by
      omega
    rw [hyear, days_before_year_cycles (by omega) (by omega) (by omega), decide_eq_false (by omega),
          Bool.toNat_false]
    omega

/-- A date lies in its year, and its month and day are those of its day in the year. -/
theorem ord2ymd_spec {ordinal : ℕ} (h : 1 ≤ ordinal) :
    ∃ leap n, (ord2ymd ordinal).2 = month_day leap n
      ∧ ordinal = days_before_year (ord2ymd ordinal).1 + n + 1 ∧ n < 365 + leap.toNat
      ∧ days_before_year ((ord2ymd ordinal).1 + 1)
          = days_before_year (ord2ymd ordinal).1 + 365 + leap.toNat := by
  -- the remainders of the four divisions
  obtain ⟨a, n₁, hn₁, ha⟩ : ∃ a n₁, n₁ < 146097 ∧ ordinal - 1 = 146097 * a + n₁ :=
    ⟨(ordinal - 1) / 146097, (ordinal - 1) % 146097, by omega, by omega⟩
  obtain ⟨b, n₂, hn₂, hb⟩ : ∃ b n₂, n₂ < 36524 ∧ n₁ = 36524 * b + n₂ :=
    ⟨n₁ / 36524, n₁ % 36524, by omega, by omega⟩
  obtain ⟨c, n₃, hn₃, hc⟩ : ∃ c n₃, n₃ < 1461 ∧ n₂ = 1461 * c + n₃ :=
    ⟨n₂ / 1461, n₂ % 1461, by omega, by omega⟩
  obtain ⟨d, n, hn, hd⟩ : ∃ d n, n < 365 ∧ n₃ = 365 * d + n :=
    ⟨n₃ / 365, n₃ % 365, by omega, by omega⟩
  have hymd : ord2ymd ordinal
      = if d = 4 ∨ b = 4 then (a * 400 + 1 + b * 100 + c * 4 + d - 1, 12, 31)
        else (a * 400 + 1 + b * 100 + c * 4 + d, month_day (d = 3 ∧ (c ≠ 24 ∨ b = 3)) n) := by
    rw [ord2ymd, ha, show (146097 * a + n₁) / 146097 = a by omega,
      show (146097 * a + n₁) % 146097 = n₁ by omega, hb,
      show (36524 * b + n₂) / 36524 = b by omega, show (36524 * b + n₂) % 36524 = n₂ by omega, hc,
      show (1461 * c + n₃) / 1461 = c by omega, show (1461 * c + n₃) % 1461 = n₃ by omega, hd,
      show (365 * d + n) / 365 = d by omega, show (365 * d + n) % 365 = n by omega]
  rw [hymd]
  split_ifs with hlast
  · -- the last day of a cycle of 4 or of 400 years
    have hyear : ∃ b' c', b' ≤ 3 ∧ c' ≤ 24 ∧ (c' ≠ 24 ∨ b' = 3)
        ∧ a * 400 + 1 + b * 100 + c * 4 + d - 1 = a * 400 + 1 + b' * 100 + c' * 4 + 3
        ∧ ordinal = 146097 * a + 36524 * b' + 1461 * c' + 365 * 3 + 365 + 1 := by
      rcases hlast with hlast | hlast
      · exact ⟨b, c, by omega, by omega, by omega, by omega, by omega⟩
      · exact ⟨3, 24, by omega, by omega, by omega, by omega, by omega⟩
    obtain ⟨b', c', hb', hc', hleap, hyear, hordinal⟩ := hyear
    refine ⟨true, 365, rfl, ?_, by decide, ?_⟩
    · rw [hyear, days_before_year_cycles hb' hc' (by omega)]
      exact hordinal
    · rw [hyear, days_before_next_year hb' hc' (by omega), decide_eq_true ⟨rfl, hleap⟩]
  · refine ⟨decide (d = 3 ∧ (c ≠ 24 ∨ b = 3)), n, rfl, ?_, by omega, ?_⟩
    · rw [days_before_year_cycles (by omega) (by omega) (by omega)]
      omega
    · exact days_before_next_year (by omega) (by omega) (by omega)

theorem month_day_bounds : ∀ leap : Bool, ∀ n < 365 + leap.toNat,
    (month_day leap n).1 ≤ 12 ∧ 1 ≤ (month_day leap n).2 ∧ (month_day leap n).2 ≤ 31 := by
  decide +kernel

/-- From one day of a year to the next the month stays and the day goes up by one, or the next
month begins after 28 days at least. -/
theorem month_day_tomorrow : ∀ leap : Bool, ∀ n < 364 + leap.toNat,
    (month_day leap (n + 1)).1 = (month_day leap n).1
        ∧ (month_day leap (n + 1)).2 = (month_day leap n).2 + 1
      ∨ 28 ≤ (month_day leap n).2 ∧ (month_day leap (n + 1)).1 = (month_day leap n).1 + 1
        ∧ (month_day leap (n + 1)).2 = 1 := by
  decide +kernel

/-- From one day of a year to the next the month goes up, or the day within the month. -/
theorem month_day_succ {leap : Bool} {n : ℕ} (hn : n < 364 + leap.toNat) :
    32 * (month_day leap n).1 + (month_day leap n).2
      < 32 * (month_day leap (n + 1)).1 + (month_day leap (n + 1)).2 := by
  have hbounds := month_day_bounds leap n (by omega)
  have htomorrow := month_day_tomorrow leap n hn
  omega

theorem month_day_lt {leap : Bool} {n n' : ℕ} (h : n < n') (hn' : n' < 365 + leap.toNat) :
    (month_day leap n).1 < (month_day leap n').1
      ∨ (month_day leap n).1 = (month_day leap n').1
        ∧ (month_day leap n).2 < (month_day leap n').2 := by
  have hplace : 32 * (month_day leap n).1 + (month_day leap n).2
      < 32 * (month_day leap n').1 + (month_day leap n').2 := by
    induction n', h using Nat.le_induction with
    | base => exact month_day_succ (by omega)
    | succ m hm ih =>
        have hlast := ih (by omega)
        have hstep := month_day_succ (show m < 364 + leap.toNat by omega)
        omega
  have hn := month_day_bounds leap n (by omega)
  have hn' := month_day_bounds leap n' hn'
  omega

theorem day_of_month_bounds {ordinal : ℕ} (h : 1 ≤ ordinal) :
    1 ≤ day_of_month ordinal ∧ day_of_month ordinal ≤ 31 := by
  obtain ⟨leap, n, hmd, -, hn, -⟩ := ord2ymd_spec h
  rw [day_of_month, hmd]
  exact (month_day_bounds leap n hn).2

theorem year_lt {ordinal : ℕ} (h : 1 ≤ ordinal) (hmax : ordinal ≤ DATE_MAX) :
    (ord2ymd ordinal).1 < 10 ^ 4 := by
  obtain ⟨leap, n, -, hordinal, -, -⟩ := ord2ymd_spec h
  by_contra hyear
  have hmono : days_before_year 10000 ≤ days_before_year (ord2ymd ordinal).1 :=
    days_before_year_mono (by omega)
  have hlast : days_before_year 10000 = DATE_MAX := by decide
  omega

theorem toNat_bool_injective : ∀ b b' : Bool, b.toNat = b'.toNat → b = b' := by
  decide

/-- A later date has a later year, or in the same year a later month, or in the same month a
later day. -/
theorem ymd_lt_of_lt {ordinal ordinal' : ℕ} (h : 1 ≤ ordinal) (hlt : ordinal < ordinal') :
    (ord2ymd ordinal).1 < (ord2ymd ordinal').1
      ∨ (ord2ymd ordinal).1 = (ord2ymd ordinal').1
        ∧ ((ord2ymd ordinal).2.1 < (ord2ymd ordinal').2.1
          ∨ (ord2ymd ordinal).2.1 = (ord2ymd ordinal').2.1
            ∧ (ord2ymd ordinal).2.2 < (ord2ymd ordinal').2.2) := by
  obtain ⟨leap, n, hmd, hordinal, hn, hnext⟩ := ord2ymd_spec h
  obtain ⟨leap', n', hmd', hordinal', hn', hnext'⟩ := ord2ymd_spec (show 1 ≤ ordinal' by omega)
  rcases lt_trichotomy (ord2ymd ordinal).1 (ord2ymd ordinal').1 with hyear | hyear | hyear
  · exact .inl hyear
  · right
    refine ⟨hyear, ?_⟩
    rw [← hyear] at hordinal' hnext'
    have hleap : leap' = leap := toNat_bool_injective _ _ (by omega)
    rw [hmd, hmd', hleap]
    rw [hleap] at hn'
    exact month_day_lt (by omega) (by omega)
  · have hmono : days_before_year ((ord2ymd ordinal').1 + 1) ≤ days_before_year (ord2ymd ordinal).1 :=
      days_before_year_mono hyear
    omega

/-! ## Months -/

/-- Year and month of a date. -/
def month_of (ordinal : ℕ) : ℕ × ℕ := ((ord2ymd ordinal).1, (ord2ymd ordinal).2.1)

/-- The days from `first` to `last` are those of a month. -/
structure WholeMonth (first last : ℕ) : Prop where
  min : 1 ≤ first
  days : ∀ ordinal, 1 ≤ ordinal →
    (month_of ordinal = month_of first ↔ first ≤ ordinal ∧ ordinal ≤ last)

theorem month_day_new_year : ∀ leap : Bool, (month_day leap 0).2 = 1
    ∧ 28 ≤ (month_day leap (364 + leap.toNat)).2 := by
  decide

/-- The day after a date lies in its month, or is the first of another month. -/
theorem tomorrow_spec {ordinal : ℕ} (h : 1 ≤ ordinal) :
    month_of (ordinal + 1) = month_of ordinal
        ∧ day_of_month (ordinal + 1) = day_of_month ordinal + 1
      ∨ 28 ≤ day_of_month ordinal ∧ day_of_month (ordinal + 1) = 1 := by
  obtain ⟨leap, n, hmd, hordinal, hn, hnext⟩ := ord2ymd_spec h
  obtain ⟨leap', n', hmd', hordinal', hn', hnext'⟩ := ord2ymd_spec (show 1 ≤ ordinal + 1 by omega)
  unfold month_of day_of_month
  rcases ymd_lt_of_lt h (Nat.lt_succ_self ordinal) with hyear | ⟨hyear, -⟩
  · -- the last day of a year
    have hmono : days_before_year ((ord2ymd ordinal).1 + 1)
        ≤ days_before_year (ord2ymd (ordinal + 1)).1 := days_before_year_mono hyear
    have hfirst : n' = 0 := by omega
    have hlast : n = 364 + leap.toNat := by omega
    right
    rw [hmd, hmd', hfirst, hlast]
    exact ⟨(month_day_new_year leap).2, (month_day_new_year leap').1⟩
  · rw [← hyear] at hordinal' hnext'
    have hleap : leap' = leap := toNat_bool_injective _ _ (by omega)
    have hday : n' = n + 1 := by omega
    rw [← hyear, hmd, hmd', hday, hleap]
    rcases month_day_tomorrow leap n (by omega) with ⟨hmonth, hstep⟩ | ⟨hlate, -, hfirst⟩
    · left
      rw [hmonth, hstep]
      exact ⟨rfl, rfl⟩
    · exact Or.inr ⟨hlate, hfirst⟩

/-- The days before a date in its month. -/
theorem month_of_sub {ordinal : ℕ} (h : 1 ≤ ordinal) {j : ℕ} (hj : j < day_of_month ordinal) :
    j < ordinal ∧ month_of (ordinal - j) = month_of ordinal
      ∧ day_of_month (ordinal - j) + j = day_of_month ordinal := by
  induction j with
  | zero => exact ⟨h, rfl, rfl⟩
  | succ j ih =>
      obtain ⟨hlt, hmonth, hday⟩ := ih (by omega)
      -- the first day of all is the first of its month
      have hfirst : ordinal - j ≠ 1 := by
        intro hone
        rw [hone] at hday
        have hone' : day_of_month 1 = 1 := by decide
        omega
      have hsucc : ordinal - (j + 1) + 1 = ordinal - j := by omega
      have htomorrow := tomorrow_spec (show 1 ≤ ordinal - (j + 1) by omega)
      rw [hsucc] at htomorrow
      rcases htomorrow with ⟨hsame, hstep⟩ | ⟨-, hnew⟩
      · exact ⟨by omega, hsame.symm.trans hmonth, by omega⟩
      · omega

/-- In one month the day goes up with the date. -/
theorem day_lt_of_month_eq {ordinal ordinal' : ℕ} (h : 1 ≤ ordinal) (hlt : ordinal < ordinal')
    (hmonth : month_of ordinal' = month_of ordinal) :
    day_of_month ordinal < day_of_month ordinal' := by
  obtain ⟨hyear, hmonth⟩ := Prod.mk.inj hmonth
  rcases ymd_lt_of_lt h hlt with hlater | ⟨-, hlater | ⟨-, hday⟩⟩
  · omega
  · omega
  · exact hday

/-- Between two days of a month lie only days of it. -/
theorem month_of_between {a b c : ℕ} (h : 1 ≤ a) (hab : a ≤ b) (hbc : b ≤ c)
    (hmonth : month_of c = month_of a) : month_of b = month_of a := by
  rcases hab.eq_or_lt with rfl | hab
  · rfl
  · rcases hbc.eq_or_lt with rfl | hbc
    · exact hmonth
    · obtain ⟨hyear, hmonth⟩ := Prod.mk.inj hmonth
      have hfirst := ymd_lt_of_lt h hab
      have hlast := ymd_lt_of_lt (h.trans hab.le) hbc
      exact Prod.ext (by simp only [month_of]; omega) (by simp only [month_of]; omega)

/-- The first day of the month of a date. -/
theorem first_of_month {ordinal : ℕ} (h : 1 ≤ ordinal) :
    ∃ first, first + day_of_month ordinal = ordinal + 1 ∧ 1 ≤ first
      ∧ month_of first = month_of ordinal ∧ day_of_month first = 1 := by
  have hbounds := day_of_month_bounds h
  obtain ⟨hlt, hmonth, hday⟩ := month_of_sub h (show day_of_month ordinal - 1 < _ by omega)
  exact ⟨ordinal - (day_of_month ordinal - 1), by omega, by omega, hmonth, by omega⟩

theorem WholeMonth.first_le_last {first last : ℕ} (hmonth : WholeMonth first last) :
    first ≤ last := ((hmonth.days first hmonth.min).mp rfl).2

/-- A month begins with its first day. -/
theorem WholeMonth.day_first {first last : ℕ} (hmonth : WholeMonth first last) :
    day_of_month first = 1 := by
  obtain ⟨start, hstart, hmin, hsame, -⟩ := first_of_month hmonth.min
  have hle := ((hmonth.days start hmin).mp hsame).1
  have hbounds := day_of_month_bounds hmonth.min
  omega

/-- Months with a common day are the same. -/
theorem WholeMonth.eq_of_mem {first last first' last' ordinal : ℕ} (hmonth : WholeMonth first last)
    (hmonth' : WholeMonth first' last') (hle : first ≤ ordinal ∧ ordinal ≤ last)
    (hle' : first' ≤ ordinal ∧ ordinal ≤ last') : first = first' ∧ last = last' := by
  have hmin := hmonth.min
  have hmin' := hmonth'.min
  have hsame : month_of first = month_of first' :=
    ((hmonth.days ordinal (by omega)).mpr hle).symm.trans
      ((hmonth'.days ordinal (by omega)).mpr hle')
  have hfirst := (hmonth'.days first hmin).mp hsame
  have hfirst' := (hmonth.days first' hmin').mp hsame.symm
  have hlast := (hmonth'.days last (by omega)).mp
    (((hmonth.days last (by omega)).mpr ⟨by omega, le_rfl⟩).trans hsame)
  have hlast' := (hmonth.days last' (by omega)).mp
    (((hmonth'.days last' (by omega)).mpr ⟨by omega, le_rfl⟩).trans hsame.symm)
  omega

/-- A day before the first of a month is the 28th at least. -/
theorem late_of_first {ordinal : ℕ} (h : 1 ≤ ordinal) (hfirst : day_of_month (ordinal + 1) = 1) :
    28 ≤ day_of_month ordinal := by
  have hday := day_of_month_bounds h
  rcases tomorrow_spec h with ⟨-, hstep⟩ | ⟨hlate, -⟩
  · omega
  · exact hlate

/-- The days up to 30 days after the first of a month are of that month if they are late in
theirs: no month ends on its third day. -/
theorem month_of_late {first last : ℕ} (h : 1 ≤ first) (hfirst : day_of_month first = 1)
    (hle : first ≤ last) (hnear : last ≤ first + 30) (hlate : 28 ≤ day_of_month last) :
    month_of last = month_of first := by
  obtain ⟨start, hstart, hmin, hsame, hday⟩ := first_of_month (h.trans hle)
  rcases lt_trichotomy start first with hlt | rfl | hgt
  · -- `first` would be a later day of the month
    have hmonth := month_of_between hmin hlt.le hle hsame.symm
    have hlater := day_lt_of_month_eq hmin hlt hmonth
    omega
  · exact hsame.symm
  · -- the month of `first` would have ended by its third day
    obtain ⟨yesterday, rfl⟩ : ∃ yesterday, start = yesterday + 1 := ⟨start - 1, by omega⟩
    have hend := late_of_first (show 1 ≤ yesterday by omega) hday
    obtain ⟨-, -, hback⟩ := month_of_sub (show 1 ≤ yesterday by omega)
      (show yesterday - first < day_of_month yesterday by omega)
    rw [show yesterday - (yesterday - first) = first by omega] at hback
    omega

/-- The first of the month in which the day 31 days after the first of a month lies begins the
next month. -/
theorem wholeMonth_of_first {first : ℕ} (h : 1 ≤ first) (hfirst : day_of_month first = 1) :
    WholeMonth first (first + 31 - day_of_month (first + 31)) := by
  obtain ⟨next, hnext, hmin, -, hday⟩ := first_of_month (show 1 ≤ first + 31 by omega)
  have hbounds := day_of_month_bounds (show 1 ≤ first + 31 by omega)
  have hother : month_of next ≠ month_of first := by
    intro hsame
    have hlt := day_lt_of_month_eq h (show first < next by omega) hsame
    omega
  obtain ⟨last, rfl⟩ : ∃ last, next = last + 1 := ⟨next - 1, by omega⟩
  have hlate := late_of_first (show 1 ≤ last by omega) hday
  have hlast := month_of_late h hfirst (show first ≤ last by omega) (by omega) hlate
  refine ⟨h, fun ordinal hordinal => ⟨fun hmonth => ⟨?_, ?_⟩, fun hin => ?_⟩⟩
  · by_contra hlt
    have hlater := day_lt_of_month_eq hordinal (not_le.mp hlt) hmonth.symm
    have hpos := day_of_month_bounds hordinal
    omega
  · by_contra hlt
    exact hother (month_of_between h (by omega) (show last + 1 ≤ ordinal by omega) hmonth)
  · exact month_of_between h hin.1 (show ordinal ≤ last by omega) hlast

/-! ## Texts of a fixed width -/

/-- The last `width` decimal digits of a number. -/
def pad : ℕ → ℕ → List Char
  | 0, _ => []
  | width + 1, n => pad width (n / 10) ++ [Nat.digitChar (n % 10)]

theorem length_pad (width n : ℕ) : (pad width n).length = width := by
  induction width generalizing n with
  | zero => rfl
  | succ width ih => rw [pad, List.length_append, ih, List.length_singleton]

/-- Texts of one length compare before what follows them. -/
theorem append_lt_append {a b : List Char} (hlength : a.length = b.length) (h : a < b)
    (s t : List Char) : a ++ s < b ++ t := by
  induction a generalizing b with
  | nil =>
      rw [List.eq_nil_of_length_eq_zero hlength.symm] at h
      exact absurd h (lt_irrefl _)
  | cons x a ih =>
      cases b with
      | nil => exact absurd hlength (by simp)
      | cons y b =>
          rw [List.cons_append, List.cons_append, List.cons_lt_cons_iff]
          rcases List.cons_lt_cons_iff.mp h with hxy | ⟨hxy, hab⟩
          · exact .inl hxy
          · exact .inr ⟨hxy, ih (by simpa using hlength) hab⟩

theorem digitChar_lt : ∀ n < 10, ∀ m < 10, n < m → Nat.digitChar n < Nat.digitChar m := by
  decide

theorem pad_lt_pad {width n m : ℕ} (hm : m < 10 ^ width) (h : n < m) : pad width n < pad width m := by
  induction width generalizing n m with
  | zero => omega
  | succ width ih =>
      rw [pad, pad]
      rcases Nat.lt_or_ge (n / 10) (m / 10) with hlt | hge
      · refine append_lt_append (by rw [length_pad, length_pad]) (ih ?_ hlt) _ _
        rw [Nat.pow_succ] at hm
        omega
      · rw [show n / 10 = m / 10 by omega]
        apply List.append_left_lt
        rw [List.cons_lt_cons_iff]
        exact .inl (digitChar_lt _ (Nat.mod_lt _ (by decide)) _ (Nat.mod_lt _ (by decide)) (by omega))

/-- A field of a fixed width decides before what follows it. -/
theorem pad_append_lt {width n m : ℕ} (hm : m < 10 ^ width) {s t : List Char}
    (h : n < m ∨ n = m ∧ s < t) : pad width n ++ s < pad width m ++ t := by
  rcases h with h | ⟨rfl, h⟩
  · exact append_lt_append (by rw [length_pad, length_pad]) (pad_lt_pad hm h) s t
  · exact List.append_left_lt h

/-! ## The text of a time -/

/-- `date(1970, 1, 1).toordinal()`. -/
def EPOCH_ORDINAL : ℤ := 719163

/-- The milliseconds of a day. -/
def DAY_MS : ℤ := 86400000

/-- The date of a time. -/
def ordinal_of (ms : ℤ) : ℕ := (EPOCH_ORDINAL + ms / DAY_MS).toNat

/-- The milliseconds of a time since its midnight. -/
def time_of_day (ms : ℤ) : ℕ := (ms % DAY_MS).toNat

/-- The microseconds, which are left out when there are none, and the offset of UTC. -/
def fraction_text (millis : ℕ) : List Char :=
  if millis = 0 then "+00:00".toList else '.' :: (pad 6 (millis * 1000) ++ "+00:00".toList)

/-- The time of day of an `isoformat()`. -/
def time_text (t : ℕ) : List Char :=
  pad 2 (t / 3600000) ++ ':' :: (pad 2 (t / 60000 % 60) ++ ':' :: (pad 2 (t / 1000 % 60)
    ++ fraction_text (t % 1000)))

/-- The date of an `isoformat()`, in front of the rest of its text. -/
def date_text (ordinal : ℕ) (rest : List Char) : List Char :=
  pad 4 (ord2ymd ordinal).1 ++ '-' :: (pad 2 (ord2ymd ordinal).2.1 ++ '-' ::
    (pad 2 (ord2ymd ordinal).2.2 ++ rest))

/-- `datetime.fromtimestamp(ms / 1000.0, tz=timezone.utc).isoformat()`. -/
def iso_text (ms : ℤ) : String :=
  String.ofList (date_text (ordinal_of ms) ('T' :: time_text (time_of_day ms)))

theorem cons_lt_cons {c : Char} {s t : List Char} (h : s < t) : c :: s < c :: t :=
  List.cons_lt_cons_iff.mpr (.inr ⟨rfl, h⟩)

theorem fraction_text_lt {f f' : ℕ} (hf' : f' < 1000) (h : f < f') :
    fraction_text f < fraction_text f' := by
  have hne : f' ≠ 0 := by omega
  rw [fraction_text, fraction_text, if_neg hne]
  by_cases hf : f = 0
  · rw [if_pos hf]
    exact List.cons_lt_cons_iff.mpr (.inl (by decide))
  · rw [if_neg hf]
    exact cons_lt_cons (pad_append_lt (by omega) (.inl (by omega)))

theorem time_text_lt {t t' : ℕ} (ht' : t' < 86400000) (h : t < t') : time_text t < time_text t' := by
  refine pad_append_lt (by omega) ?_
  rcases Nat.lt_or_ge (t / 3600000) (t' / 3600000) with hhour | hhour
  · exact .inl hhour
  · refine .inr ⟨by omega, cons_lt_cons (pad_append_lt (by omega) ?_)⟩
    rcases Nat.lt_or_ge (t / 60000 % 60) (t' / 60000 % 60) with hminute | hminute
    · exact .inl hminute
    · refine .inr ⟨by omega, cons_lt_cons (pad_append_lt (by omega) ?_)⟩
      rcases Nat.lt_or_ge (t / 1000 % 60) (t' / 1000 % 60) with hsecond | hsecond
      · exact .inl hsecond
      · exact .inr ⟨by omega, fraction_text_lt (Nat.mod_lt _ (by decide)) (by omega)⟩

theorem date_text_lt {ordinal ordinal' : ℕ} (h : 1 ≤ ordinal) (hmax : ordinal' ≤ DATE_MAX)
    (hlt : ordinal < ordinal') (rest rest' : List Char) :
    date_text ordinal rest < date_text ordinal' rest' := by
  have h' : 1 ≤ ordinal' := by omega
  obtain ⟨leap, n, hmd, -, hn, -⟩ := ord2ymd_spec h'
  have hbounds := month_day_bounds leap n hn
  rw [← hmd] at hbounds
  refine pad_append_lt (year_lt h' hmax) ?_
  rcases ymd_lt_of_lt h hlt with hyear | ⟨hyear, hmonth | ⟨hmonth, hday⟩⟩
  · exact .inl hyear
  · exact .inr ⟨hyear, cons_lt_cons (pad_append_lt (by omega) (.inl hmonth))⟩
  · refine .inr ⟨hyear, cons_lt_cons (pad_append_lt (by omega) (.inr ⟨hmonth, ?_⟩))⟩
    exact cons_lt_cons (pad_append_lt (by omega) (.inl hday))

/-- The texts of times are in the order of the times. -/
theorem iso_text_lt {ms ms' : ℤ} (h : 1 ≤ ordinal_of ms) (hmax : ordinal_of ms' ≤ DATE_MAX)
    (hlt : ms < ms') : iso_text ms < iso_text ms' := by
  rw [String.lt_iff_toList_lt, iso_text, iso_text, String.toList_ofList, String.toList_ofList]
  unfold ordinal_of DAY_MS EPOCH_ORDINAL at h hmax ⊢
  unfold time_of_day DAY_MS
  rcases lt_or_ge (ms / 86400000) (ms' / 86400000) with hday | hday
  · exact date_text_lt h hmax (by omega) _ _
  · rw [show ms' / 86400000 = ms / 86400000 by omega]
    have htime : time_text (ms % 86400000).toNat < time_text (ms' % 86400000).toNat :=
      time_text_lt (by omega) (by omega)
    unfold date_text
    exact List.append_left_lt (cons_lt_cons (List.append_left_lt (cons_lt_cons
      (List.append_left_lt (cons_lt_cons htime)))))

theorem iso_text_mono {ms ms' : ℤ} (h : 1 ≤ ordinal_of ms) (hmax : ordinal_of ms' ≤ DATE_MAX)
    (hle : ms ≤ ms') : iso_text ms ≤ iso_text ms' := by
  rcases hle.lt_or_eq with hlt | rfl
  · exact (iso_text_lt h hmax hlt).le
  · exact le_refl _

end ProofAlpha.Lib
