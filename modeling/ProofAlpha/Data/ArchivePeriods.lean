/-
The periods of an archive range: `_iter_archive_periods` of `data/fetch.py`.

The day 28 of a month plus four days lies in the next month, so a period that starts on the first
of a month and is monthly is that month (`wholeMonth_next_month`). `archive_periods_tile_iff` says
what the periods are: the months that the range contains, and the other days one by one. A range
that ends in December 9999 has no periods, since the first of the next month is no date.
-/
import ProofAlpha.Data.ArchiveFetch

set_option autoImplicit false

namespace ProofAlpha.Data

open ProofAlpha.Lib

/-! ## Steps of the loop -/

/-- `periods` tile the days from `first` to the one before `stop`. -/
inductive Tiles (stop : ℕ) : ℕ → List ArchivePeriod → Prop where
  | done : Tiles stop stop []
  | cons {period_type : PeriodType} {first last : ℕ} {rest : List ArchivePeriod} :
      first ≤ last → last < stop → Tiles stop (last + 1) rest →
      Tiles stop first (⟨period_type, first, last⟩ :: rest)

theorem Tiles.le {stop first : ℕ} {periods : List ArchivePeriod} (h : Tiles stop first periods) :
    first ≤ stop := by
  cases h with
  | done => exact le_rfl
  | cons hle hlt _ => omega

theorem iter_archive_periods_done {current end_day : PyDate}
    (h : end_day.ordinal < current.ordinal) : iter_archive_periods current end_day = .ok [] := by
  unfold iter_archive_periods
  rw [if_neg (by omega)]

theorem iter_archive_periods_error {current end_day : PyDate} {error : String}
    (h : current.ordinal ≤ end_day.ordinal) (hnext : current.next_month = .error error) :
    iter_archive_periods current end_day = .error error := by
  unfold iter_archive_periods
  rw [if_pos h]
  split
  · next error' herror =>
      rw [hnext] at herror
      rw [Except.error.inj herror]
  · next next hok =>
      rw [hnext] at hok
      contradiction

theorem iter_archive_periods_monthly {current end_day next : PyDate}
    (h : current.ordinal ≤ end_day.ordinal) (hnext : current.next_month = .ok next)
    (hmonth : current.day = 1 ∧ next.ordinal - 1 ≤ end_day.ordinal) :
    iter_archive_periods current end_day = (iter_archive_periods next end_day).map fun rest =>
      ⟨.monthly, current.ordinal, next.ordinal - 1⟩ :: rest := by
  conv_lhs => unfold iter_archive_periods
  rw [if_pos h]
  split
  · next error herror =>
      rw [hnext] at herror
      contradiction
  · next next' hok =>
      obtain rfl := Except.ok.inj (hnext.symm.trans hok)
      rw [dif_pos hmonth]

theorem iter_archive_periods_daily {current end_day next tomorrow : PyDate}
    (h : current.ordinal ≤ end_day.ordinal) (hnext : current.next_month = .ok next)
    (hday : ¬(current.day = 1 ∧ next.ordinal - 1 ≤ end_day.ordinal))
    (htomorrow : current.add_days 1 = .ok tomorrow) :
    iter_archive_periods current end_day = (iter_archive_periods tomorrow end_day).map fun rest =>
      ⟨.daily, current.ordinal, current.ordinal⟩ :: rest := by
  conv_lhs => unfold iter_archive_periods
  rw [if_pos h]
  split
  · next error herror =>
      rw [hnext] at herror
      contradiction
  · next next' hok =>
      obtain rfl := Except.ok.inj (hnext.symm.trans hok)
      rw [dif_neg hday]
      split
      · next error herror =>
          rw [htomorrow] at herror
          contradiction
      · next tomorrow' hok =>
          obtain rfl := Except.ok.inj (htomorrow.symm.trans hok)
          rfl

/-- A date that has a next month has a next day. -/
theorem add_days_one_ne_error {d next : PyDate} (h : d.next_month = .ok next) (error : String) :
    d.add_days 1 ≠ .error error := by
  obtain ⟨later, hlater, hmax, -⟩ := PyDate.next_month_ordinal h
  have hday := d.day_bounds
  have hmin := d.min
  have htomorrow : d.add_days 1 = .ok ⟨d.ordinal + 1, by omega, by omega⟩ :=
    dif_pos ⟨by omega, by omega⟩
  rw [htomorrow]
  intro h
  cases h

/-- The rule of a loop that returns: what the empty rest has, and a monthly and a daily period
keep, every such loop has. -/
theorem iter_archive_periods_rule {end_day : PyDate} {motive : PyDate → List ArchivePeriod → Prop}
    (done : ∀ current, end_day.ordinal < current.ordinal → motive current [])
    (monthly : ∀ (current next : PyDate) (rest : List ArchivePeriod),
      current.ordinal ≤ end_day.ordinal → current.next_month = .ok next →
      current.day = 1 ∧ next.ordinal - 1 ≤ end_day.ordinal → current.ordinal < next.ordinal →
      motive next rest → motive current (⟨.monthly, current.ordinal, next.ordinal - 1⟩ :: rest))
    (daily : ∀ (current next tomorrow : PyDate) (rest : List ArchivePeriod),
      current.ordinal ≤ end_day.ordinal → current.next_month = .ok next →
      ¬(current.day = 1 ∧ next.ordinal - 1 ≤ end_day.ordinal) →
      tomorrow.ordinal = current.ordinal + 1 →
      motive tomorrow rest → motive current (⟨.daily, current.ordinal, current.ordinal⟩ :: rest))
    {current : PyDate} {periods : List ArchivePeriod}
    (h : iter_archive_periods current end_day = .ok periods) : motive current periods := by
  induction current using iter_archive_periods.induct end_day generalizing periods with
  | case1 current hcur error hnext =>
      rw [iter_archive_periods_error hcur hnext] at h
      contradiction
  | case2 current hcur next hnext hmonth hlt ih =>
      rw [iter_archive_periods_monthly hcur hnext hmonth] at h
      obtain ⟨rest, hrest, rfl⟩ := map_ok h
      exact monthly current next rest hcur hnext hmonth hlt (ih hrest)
  | case3 current hcur next hnext hday error herror =>
      exact absurd herror (add_days_one_ne_error hnext error)
  | case4 current hcur next hnext hday tomorrow htomorrow hordinal ih =>
      rw [iter_archive_periods_daily hcur hnext hday htomorrow] at h
      obtain ⟨rest, hrest, rfl⟩ := map_ok h
      exact daily current next tomorrow rest hcur hnext hday hordinal (ih hrest)
  | case5 current hcur =>
      rw [iter_archive_periods_done (by omega)] at h
      obtain rfl := Except.ok.inj h
      exact done current (by omega)

/-- The periods of a range tile it. -/
theorem iter_archive_periods_tiles {current end_day : PyDate} {periods : List ArchivePeriod}
    (hle : current.ordinal ≤ end_day.ordinal + 1)
    (h : iter_archive_periods current end_day = .ok periods) :
    Tiles (end_day.ordinal + 1) current.ordinal periods := by
  revert hle
  refine iter_archive_periods_rule (motive := fun current periods =>
    current.ordinal ≤ end_day.ordinal + 1 →
      Tiles (end_day.ordinal + 1) current.ordinal periods) ?_ ?_ ?_ h
  · intro current hend hle
    rw [show current.ordinal = end_day.ordinal + 1 by omega]
    exact Tiles.done
  · intro current next rest hcur hnext hmonth hlt ih hle
    have htiles := ih (by omega)
    rw [show next.ordinal = next.ordinal - 1 + 1 by omega] at htiles
    exact Tiles.cons (by omega) (by omega) htiles
  · intro current next tomorrow rest hcur hnext hday hordinal ih hle
    have htiles := ih (by omega)
    rw [hordinal] at htiles
    exact Tiles.cons le_rfl (by omega) htiles

/-- `date(9999, 12, 1).toordinal()`: from here on there is no next month. -/
def LAST_MONTH : ℕ := 3652029

theorem day_in_last_month : ∀ d < 31, day_of_month (LAST_MONTH + d) = d + 1 := by
  decide +kernel

/-- In the last month the first of the next one is no date. -/
theorem next_month_last {d : PyDate} (h : LAST_MONTH ≤ d.ordinal) :
    ∃ error, d.next_month = .error error := by
  cases hnext : d.next_month with
  | error error => exact ⟨error, rfl⟩
  | ok next =>
      obtain ⟨later, hlater, hmax, -⟩ := PyDate.next_month_ordinal hnext
      have hday := day_in_last_month (d.ordinal - LAST_MONTH)
        (by have := d.max; unfold LAST_MONTH DATE_MAX at *; omega)
      rw [Nat.add_sub_cancel' h] at hday
      unfold LAST_MONTH DATE_MAX PyDate.day at *
      omega

/-- Before it there is a next month, and it begins by then. -/
theorem next_month_before_last {d : PyDate} (h : d.ordinal < LAST_MONTH) :
    ∃ next, d.next_month = .ok next ∧ next.ordinal ≤ LAST_MONTH := by
  have hday := d.day_bounds
  have hmin := d.min
  have hmax : d.ordinal - d.day + 28 + 4 ≤ DATE_MAX := by unfold LAST_MONTH DATE_MAX at *; omega
  let late : PyDate := ⟨d.ordinal - d.day + 28, by omega, by omega⟩
  let later : PyDate := ⟨d.ordinal - d.day + 28 + 4, by omega, hmax⟩
  have hlater := later.day_bounds
  let next : PyDate := ⟨later.ordinal - later.day + 1, by omega, by have := later.max; omega⟩
  refine ⟨next, ?_, ?_⟩
  · have hlate_ok : d.replace_day 28 = .ok late := PyDate.of_ordinal_ok late
    have hlater_ok : late.add_days 4 = .ok later := PyDate.of_ordinal_ok later
    have hnext_ok : later.replace_day 1 = .ok next := PyDate.of_ordinal_ok next
    rw [PyDate.next_month, hlate_ok, ok_bind, hlater_ok, ok_bind, hnext_ok]
  · show later.ordinal - later.day + 1 ≤ LAST_MONTH
    rcases Nat.lt_or_ge later.ordinal LAST_MONTH with hlt | hge
    · omega
    · -- `later` lies in the last month, whose first day comes next
      have hlast := day_in_last_month (later.ordinal - LAST_MONTH)
        (by have := later.max; unfold LAST_MONTH DATE_MAX at *; omega)
      rw [Nat.add_sub_cancel' hge] at hlast
      unfold PyDate.day at *
      omega

/-- Only the days before the last month have a next one. -/
theorem next_month_bounds {d next : PyDate} (h : d.next_month = .ok next) :
    d.ordinal < LAST_MONTH ∧ next.ordinal ≤ LAST_MONTH := by
  have hlt : d.ordinal < LAST_MONTH := by
    by_contra hge
    obtain ⟨error, herror⟩ := next_month_last (Nat.not_lt.mp hge)
    rw [h] at herror
    contradiction
  obtain ⟨next', hnext', hle⟩ := next_month_before_last hlt
  obtain rfl := Except.ok.inj (h.symm.trans hnext')
  exact ⟨hlt, hle⟩

/-- A range that ends before the last month has periods. -/
theorem iter_archive_periods_ok {end_day : PyDate} (h : end_day.ordinal < LAST_MONTH)
    (current : PyDate) : ∃ periods, iter_archive_periods current end_day = .ok periods := by
  induction current using iter_archive_periods.induct end_day with
  | case1 current hcur error hnext =>
      obtain ⟨next, hok, -⟩ := next_month_before_last (d := current) (by omega)
      rw [hnext] at hok
      contradiction
  | case2 current hcur next hnext hmonth hlt ih =>
      obtain ⟨rest, hrest⟩ := ih
      rw [iter_archive_periods_monthly hcur hnext hmonth, hrest]
      exact ⟨_, rfl⟩
  | case3 current hcur next hnext hday error herror =>
      exact absurd herror (add_days_one_ne_error hnext error)
  | case4 current hcur next hnext hday tomorrow htomorrow hordinal ih =>
      obtain ⟨rest, hrest⟩ := ih
      rw [iter_archive_periods_daily hcur hnext hday htomorrow, hrest]
      exact ⟨_, rfl⟩
  | case5 current hcur => exact ⟨[], iter_archive_periods_done (by omega)⟩

/-- A range that ends in the last month reaches it, and has no periods. -/
theorem before_last_of_iter_archive_periods {current end_day : PyDate}
    {periods : List ArchivePeriod} (hle : current.ordinal ≤ end_day.ordinal)
    (h : iter_archive_periods current end_day = .ok periods) : end_day.ordinal < LAST_MONTH := by
  by_contra hlast
  revert hle
  refine iter_archive_periods_rule
    (motive := fun current _ => current.ordinal ≤ end_day.ordinal → False) ?_ ?_ ?_ h
  · intro current hend hle
    omega
  · intro current next rest hcur hnext hmonth hlt ih hle
    have hbounds := next_month_bounds hnext
    exact ih (by omega)
  · intro current next tomorrow rest hcur hnext hday hordinal ih hle
    have hbounds := next_month_bounds hnext
    exact ih (by omega)

/-! ## What the periods are -/

/-- The loop's next month begins after the month of a first day. -/
theorem wholeMonth_next_month {d next : PyDate} (h : d.next_month = .ok next)
    (hfirst : d.day = 1) : WholeMonth d.ordinal (next.ordinal - 1) := by
  obtain ⟨later, hlater, -, hnext⟩ := PyDate.next_month_ordinal h
  have hmonth := wholeMonth_of_first d.min hfirst
  have hmin := d.min
  have hsame : later = d.ordinal + 31 := by omega
  rw [hnext, hsame, Nat.add_sub_cancel]
  exact hmonth

/-- A monthly period is a month, and a daily one a day. -/
def PeriodOfType (period : ArchivePeriod) : Prop :=
  match period.period_type with
  | .monthly => WholeMonth period.period_start period.period_end
  | .daily => period.period_start = period.period_end

/-- What `_iter_archive_periods` is for: the periods come in order and cover the days of the
range, every month that the range contains is a period and every other day is one. -/
structure ArchiveTiling (start_day end_day : ℕ) (periods : List ArchivePeriod) : Prop where
  ordered : periods.Pairwise fun earlier later => earlier.period_end < later.period_start
  covers : ∀ day, (start_day ≤ day ∧ day ≤ end_day)
    ↔ ∃ period ∈ periods, period.period_start ≤ day ∧ day ≤ period.period_end
  typed : ∀ period ∈ periods, period.period_start ≤ period.period_end ∧ PeriodOfType period
  months : ∀ first last, WholeMonth first last → start_day ≤ first → last ≤ end_day →
    ⟨.monthly, first, last⟩ ∈ periods
  days : ∀ day, start_day ≤ day → day ≤ end_day →
    (∀ first last, WholeMonth first last → start_day ≤ first → last ≤ end_day →
      ¬ (first ≤ day ∧ day ≤ last)) → ⟨.daily, day, day⟩ ∈ periods

/-- The days of a tiling are those up to its end. -/
theorem Tiles.covers {stop first : ℕ} {periods : List ArchivePeriod} (h : Tiles stop first periods)
    (day : ℕ) : (first ≤ day ∧ day < stop)
      ↔ ∃ period ∈ periods, period.period_start ≤ day ∧ day ≤ period.period_end := by
  induction h with
  | done =>
      constructor
      · intro hday
        omega
      · rintro ⟨period, hperiod, -⟩
        cases hperiod
  | @cons period_type first last rest hle hlt htiles ih =>
      have hstop := htiles.le
      simp only [List.mem_cons, exists_eq_or_imp, ← ih]
      omega

theorem Tiles.start_le {stop first : ℕ} {periods : List ArchivePeriod}
    (h : Tiles stop first periods) : ∀ period ∈ periods,
      first ≤ period.period_start ∧ period.period_start ≤ period.period_end := by
  induction h with
  | done =>
      intro period hperiod
      cases hperiod
  | @cons period_type first last rest hle hlt htiles ih =>
      intro period hperiod
      rcases List.mem_cons.mp hperiod with rfl | hrest
      · exact ⟨le_rfl, hle⟩
      · have hlater := ih period hrest
        exact ⟨by omega, hlater.2⟩

theorem Tiles.ordered {stop first : ℕ} {periods : List ArchivePeriod}
    (h : Tiles stop first periods) :
    periods.Pairwise fun earlier later => earlier.period_end < later.period_start := by
  induction h with
  | done => exact List.Pairwise.nil
  | @cons period_type first last rest hle hlt htiles ih =>
      refine List.Pairwise.cons ?_ ih
      intro later hlater
      exact (htiles.start_le later hlater).1

/-- Every period of the loop is a month or a day. -/
theorem iter_archive_periods_typed {current end_day : PyDate} {periods : List ArchivePeriod}
    (h : iter_archive_periods current end_day = .ok periods) :
    ∀ period ∈ periods, PeriodOfType period := by
  refine iter_archive_periods_rule
    (motive := fun _ periods => ∀ period ∈ periods, PeriodOfType period) ?_ ?_ ?_ h
  · intro current hend period hperiod
    cases hperiod
  · intro current next rest hcur hnext hmonth hlt ih
    refine List.forall_mem_cons.mpr ⟨?_, ih⟩
    exact wholeMonth_next_month hnext hmonth.1
  · intro current next tomorrow rest hcur hnext hday hordinal ih
    refine List.forall_mem_cons.mpr ⟨?_, ih⟩
    exact rfl

/-- Every month that the rest of the range contains is a period. -/
theorem iter_archive_periods_months {current end_day : PyDate} {periods : List ArchivePeriod}
    (h : iter_archive_periods current end_day = .ok periods) {first last : ℕ}
    (hwhole : WholeMonth first last) (hle : current.ordinal ≤ first)
    (hend : last ≤ end_day.ordinal) : ⟨.monthly, first, last⟩ ∈ periods := by
  have hfirst := hwhole.first_le_last
  revert hle
  refine iter_archive_periods_rule (motive := fun current periods =>
    current.ordinal ≤ first → ⟨.monthly, first, last⟩ ∈ periods) ?_ ?_ ?_ h
  · intro current hcur hle
    omega
  · intro current next rest hcur hnext hmonth hlt ih hle
    have hthis := wholeMonth_next_month hnext hmonth.1
    by_cases hin : first ≤ next.ordinal - 1
    · -- the month of this period
      obtain ⟨hsame, hsamelast⟩ := hwhole.eq_of_mem hthis ⟨le_rfl, hfirst⟩ ⟨hle, hin⟩
      rw [hsame, hsamelast]
      exact List.mem_cons_self ..
    · exact List.mem_cons_of_mem _ (ih (by omega))
  · intro current next tomorrow rest hcur hnext hday hordinal ih hle
    refine List.mem_cons_of_mem _ (ih ?_)
    -- a month that began today would be a monthly period
    have hne : first ≠ current.ordinal := by
      intro hsame
      rw [hsame] at hwhole
      have hthis := wholeMonth_next_month hnext hwhole.day_first
      obtain ⟨-, hlast⟩ := hwhole.eq_of_mem hthis ⟨le_rfl, hwhole.first_le_last⟩
        ⟨le_rfl, hthis.first_le_last⟩
      exact hday ⟨hwhole.day_first, hlast ▸ hend⟩
    omega

/-- The periods of a range that has them. -/
theorem archiveTiling_of_ok {start_day end_day : PyDate} {periods : List ArchivePeriod}
    (hle : start_day.ordinal ≤ end_day.ordinal)
    (h : iter_archive_periods start_day end_day = .ok periods) :
    ArchiveTiling start_day.ordinal end_day.ordinal periods := by
  have htiles := iter_archive_periods_tiles (by omega) h
  have htyped := iter_archive_periods_typed h
  have hcovers : ∀ day, (start_day.ordinal ≤ day ∧ day ≤ end_day.ordinal)
      ↔ ∃ period ∈ periods, period.period_start ≤ day ∧ day ≤ period.period_end := by
    intro day
    rw [← htiles.covers day, Nat.lt_succ_iff]
  refine ⟨htiles.ordered, hcovers, ?_, ?_, ?_⟩
  · intro period hperiod
    exact ⟨(htiles.start_le period hperiod).2, htyped period hperiod⟩
  · intro first last hwhole hfirst hlast
    exact iter_archive_periods_months h hwhole hfirst hlast
  · intro day hstart hend hnone
    obtain ⟨⟨period_type, first, last⟩, hperiod, hfirst, hlast⟩ := (hcovers day).mp ⟨hstart, hend⟩
    have htype := htyped _ hperiod
    have hordered := (htiles.start_le _ hperiod).2
    cases period_type with
    | monthly =>
        -- a monthly period of the range is a month that the range contains
        have hin := (hcovers first).mpr ⟨_, hperiod, le_rfl, hordered⟩
        have hin' := (hcovers last).mpr ⟨_, hperiod, hordered, le_rfl⟩
        exact absurd ⟨hfirst, hlast⟩ (hnone first last htype hin.1 hin'.2)
    | daily =>
        obtain rfl : first = last := htype
        obtain rfl : first = day := le_antisymm hfirst hlast
        exact hperiod

/-- A range has periods, and they are its months and its other days, if and only if it ends before
December 9999. -/
theorem archive_periods_tile_iff {start_day end_day : PyDate}
    (hle : start_day.ordinal ≤ end_day.ordinal) :
    (∃ periods, iter_archive_periods start_day end_day = .ok periods
        ∧ ArchiveTiling start_day.ordinal end_day.ordinal periods)
      ↔ end_day.ordinal < LAST_MONTH := by
  constructor
  · rintro ⟨periods, hperiods, -⟩
    exact before_last_of_iter_archive_periods hle hperiods
  · intro hlast
    obtain ⟨periods, hperiods⟩ := iter_archive_periods_ok hlast start_day
    exact ⟨periods, hperiods, archiveTiling_of_ok hle hperiods⟩

/-- The first half of 2024, from the last day of 2023: six months and a day. -/
theorem archive_periods_tile_2024 :
    ∃ periods, iter_archive_periods ⟨738885, by decide, by decide⟩ ⟨739067, by decide, by decide⟩
        = .ok periods ∧ ArchiveTiling 738885 739067 periods :=
  (archive_periods_tile_iff (show 738885 ≤ 739067 by decide)).mpr (by decide)

/-- The last day of all has no periods. -/
theorem last_day_has_no_periods :
    iter_archive_periods ⟨DATE_MAX, by decide, le_rfl⟩ ⟨DATE_MAX, by decide, le_rfl⟩
      = .error "date value out of range" :=
  iter_archive_periods_error le_rfl rfl

end ProofAlpha.Data
