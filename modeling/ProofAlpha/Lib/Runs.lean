/-
Maximal runs of equal entries of a list.

`IsRun xs r` says that `xs` holds one value from `r.start` up to but not including
`r.stop`, and another (or nothing) on either side. A scan of a list keeps an
`OpenRun`, which starts where a run does and reaches as far as has been looked at;
`OpenRun.fresh`, `OpenRun.grow` and `OpenRun.close` are its three moves. Every
position lies in exactly one run (`exists_run`, `IsRun.unique`). `TilesUpTo xs rs
stop` says that the runs `rs` follow one another from the start of the list to
`stop`.
-/
import Mathlib.Data.List.Basic
import Mathlib.Tactic.Common

set_option autoImplicit false

namespace ProofAlpha.Lib

/-- A stretch of positions with the value they hold. -/
structure Run (α : Type*) where
  start : ℕ
  stop : ℕ
  label : α
deriving DecidableEq

variable {α : Type*} {xs : List α}

/-- The number of positions of a stretch. -/
def Run.size (r : Run α) : ℕ := r.stop - r.start

/-- The position lies in the stretch. -/
def Run.Holds (r : Run α) (i : ℕ) : Prop := r.start ≤ i ∧ i < r.stop

/-- A run from its start up to position `i`, which is still to be looked at. -/
structure OpenRun (xs : List α) (start i : ℕ) (label : α) : Prop where
  lt : start < i
  const : ∀ k, start ≤ k → k < i → xs[k]? = some label
  before : ∀ k, k + 1 = start → xs[k]? ≠ some label

/-- A maximal run of equal entries. -/
structure IsRun (xs : List α) (r : Run α) : Prop where
  opened : OpenRun xs r.start r.stop r.label
  after : xs[r.stop]? ≠ some r.label

/-! ## Scanning a run -/

/-- A run starts where the entry before is another one. -/
theorem OpenRun.fresh {i : ℕ} {label : α} (hi : xs[i]? = some label)
    (hbefore : ∀ k, k + 1 = i → xs[k]? ≠ some label) : OpenRun xs i (i + 1) label := by
  refine ⟨Nat.lt_succ_self i, ?_, hbefore⟩
  intro k hk hk'
  obtain rfl : k = i := by omega
  exact hi

/-- A run goes on while the entries stay the same. -/
theorem OpenRun.grow {start i : ℕ} {label : α} (h : OpenRun xs start i label)
    (hi : xs[i]? = some label) : OpenRun xs start (i + 1) label := by
  refine ⟨Nat.lt_succ_of_lt h.lt, ?_, h.before⟩
  intro k hk hk'
  rcases Nat.lt_succ_iff_lt_or_eq.mp hk' with hlt | rfl
  · exact h.const k hk hlt
  · exact hi

/-- A run ends where the next entry is another one, or the list does. -/
theorem OpenRun.close {start i : ℕ} {label : α} (h : OpenRun xs start i label)
    (hi : xs[i]? ≠ some label) : IsRun xs ⟨start, i, label⟩ := ⟨h, hi⟩

theorem OpenRun.le_length {start i : ℕ} {label : α} (h : OpenRun xs start i label) :
    i ≤ xs.length := by
  have hlast := h.const (i - 1) (by have := h.lt; omega) (by have := h.lt; omega)
  have := (List.getElem?_eq_some_iff.mp hlast).1
  omega

/-- Every position is the last one looked at in an open run. -/
theorem exists_openRun {i : ℕ} {label : α} (hi : xs[i]? = some label) :
    ∃ start, OpenRun xs start (i + 1) label := by
  induction i with
  | zero => exact ⟨0, OpenRun.fresh hi fun k hk => by omega⟩
  | succ i ih =>
      by_cases hprev : xs[i]? = some label
      · obtain ⟨start, hopen⟩ := ih hprev
        exact ⟨start, hopen.grow hi⟩
      · refine ⟨i + 1, OpenRun.fresh hi ?_⟩
        intro k hk
        obtain rfl : k = i := by omega
        exact hprev

/-- Every open run is the beginning of a run. -/
theorem OpenRun.exists_close {start i : ℕ} {label : α} (h : OpenRun xs start i label) :
    ∃ stop, i ≤ stop ∧ IsRun xs ⟨start, stop, label⟩ := by
  -- the induction is on what is left of the list
  induction hleft : xs.length - i generalizing i with
  | zero =>
      refine ⟨i, Nat.le_refl i, h.close ?_⟩
      rw [List.getElem?_eq_none (by omega)]
      simp
  | succ left ih =>
      by_cases hi : xs[i]? = some label
      · obtain ⟨stop, hle, hrun⟩ := ih (h.grow hi) (by omega)
        exact ⟨stop, by omega, hrun⟩
      · exact ⟨i, Nat.le_refl i, h.close hi⟩

/-- Every position lies in a run. -/
theorem exists_run {i : ℕ} {label : α} (hi : xs[i]? = some label) :
    ∃ r, IsRun xs r ∧ r.Holds i ∧ r.label = label := by
  obtain ⟨start, hopen⟩ := exists_openRun hi
  obtain ⟨stop, hle, hrun⟩ := hopen.exists_close
  exact ⟨⟨start, stop, label⟩, hrun, ⟨Nat.lt_succ_iff.mp hopen.lt, hle⟩, rfl⟩

/-! ## Runs of one list -/

theorem IsRun.lt {r : Run α} (h : IsRun xs r) : r.start < r.stop := h.opened.lt

theorem IsRun.le_length {r : Run α} (h : IsRun xs r) : r.stop ≤ xs.length := h.opened.le_length

theorem IsRun.getElem? {r : Run α} (h : IsRun xs r) {i : ℕ} (hi : r.Holds i) :
    xs[i]? = some r.label := h.opened.const i hi.1 hi.2

/-- A run contains every stretch of its value that it meets. -/
theorem IsRun.covers {r : Run α} (h : IsRun xs r) {start stop i : ℕ}
    (hconst : ∀ k, start ≤ k → k < stop → xs[k]? = some r.label) (hi : r.Holds i)
    (hstart : start ≤ i) (hstop : i < stop) : r.start ≤ start ∧ stop ≤ r.stop := by
  obtain ⟨hfirst, hlast⟩ := hi
  constructor
  · by_contra hbefore
    exact h.opened.before (r.start - 1) (by omega) (hconst _ (by omega) (by omega))
  · by_contra hafter
    exact h.after (hconst _ (by omega) (by omega))

/-- Two runs that share a position are the same. -/
theorem IsRun.unique {r r' : Run α} (h : IsRun xs r) (h' : IsRun xs r') {i : ℕ} (hi : r.Holds i)
    (hi' : r'.Holds i) : r = r' := by
  have hlabel : r.label = r'.label := Option.some.inj ((h.getElem? hi).symm.trans (h'.getElem? hi'))
  have hcovers := h.covers (hlabel ▸ h'.opened.const) hi hi'.1 hi'.2
  have hcovers' := h'.covers (hlabel ▸ h.opened.const) hi' hi.1 hi.2
  cases r
  cases r'
  simp only at hlabel hcovers hcovers'
  rw [Run.mk.injEq]
  exact ⟨by omega, by omega, hlabel⟩

/-- Two different runs do not overlap. -/
theorem IsRun.le_or_le {r r' : Run α} (h : IsRun xs r) (h' : IsRun xs r') (hne : r ≠ r') :
    r.stop ≤ r'.start ∨ r'.stop ≤ r.start := by
  have := h.lt
  have := h'.lt
  by_contra hmeet
  push Not at hmeet
  exact hne (h.unique h' (i := max r.start r'.start) ⟨by omega, by omega⟩ ⟨by omega, by omega⟩)

/-! ## Runs that follow one another -/

/-- The runs follow one another from the start of the list up to `stop`. -/
structure TilesUpTo (xs : List α) (rs : List (Run α)) (stop : ℕ) : Prop where
  runs : ∀ r ∈ rs, IsRun xs r
  first : ∀ r, rs[0]? = some r → r.start = 0
  next : ∀ j r r', rs[j]? = some r → rs[j + 1]? = some r' → r.stop = r'.start
  last : ∀ j r, rs[j]? = some r → rs[j + 1]? = none → r.stop = stop
  empty : rs = [] → stop = 0

theorem tilesUpTo_nil (xs : List α) : TilesUpTo xs [] 0 := by
  refine ⟨?_, ?_, ?_, ?_, fun _ => rfl⟩ <;> simp

/-- The run that starts where the others end. -/
theorem TilesUpTo.push {rs : List (Run α)} {r : Run α} (h : TilesUpTo xs rs r.start)
    (hr : IsRun xs r) : TilesUpTo xs (rs ++ [r]) r.stop := by
  refine ⟨?_, ?_, ?_, ?_, ?_⟩
  · intro r' hr'
    rcases List.mem_append.mp hr' with hold | hnew
    · exact h.runs r' hold
    · rwa [List.mem_singleton.mp hnew]
  · intro r' hfirst
    cases rs with
    | nil =>
        obtain rfl : r = r' := by simpa using hfirst
        exact h.empty rfl
    | cons r₀ rs => exact h.first r' (by simpa using hfirst)
  · intro j r₁ r₂ h₁ h₂
    have hj : j < rs.length := by
      have := (List.getElem?_eq_some_iff.mp h₂).1
      simp only [List.length_append, List.length_singleton] at this
      omega
    rw [List.getElem?_append_left hj] at h₁
    rcases Nat.lt_or_ge (j + 1) rs.length with hlt | hge
    · rw [List.getElem?_append_left hlt] at h₂
      exact h.next j r₁ r₂ h₁ h₂
    · obtain hlength : j + 1 = rs.length := by omega
      rw [hlength, List.getElem?_concat_length] at h₂
      obtain rfl := Option.some.inj h₂
      exact h.last j r₁ h₁ (List.getElem?_eq_none hge)
  · intro j r₁ h₁ h₂
    rw [List.getElem?_eq_none_iff, List.length_append, List.length_singleton] at h₂
    have hj := (List.getElem?_eq_some_iff.mp h₁).1
    rw [List.length_append, List.length_singleton] at hj
    obtain rfl : j = rs.length := by omega
    rw [List.getElem?_concat_length] at h₁
    rw [← Option.some.inj h₁]
  · simp

/-- Every position before the end of the tiling lies in one of its runs. -/
theorem TilesUpTo.exists_holds {rs : List (Run α)} {stop : ℕ} (h : TilesUpTo xs rs stop) {i : ℕ}
    (hi : i < stop) : ∃ (j : ℕ) (r : Run α), rs[j]? = some r ∧ r.Holds i := by
  induction i with
  | zero =>
      cases hrs : rs[0]? with
      | none =>
          have hempty := h.empty (List.length_eq_zero_iff.mp
            (Nat.le_zero.mp (List.getElem?_eq_none_iff.mp hrs)))
          omega
      | some r =>
          have hstart := h.first r hrs
          have hlt := (h.runs r (List.mem_of_getElem? hrs)).lt
          exact ⟨0, r, hrs, by omega, by omega⟩
  | succ i ih =>
      obtain ⟨j, r, hr, hstart, hstop⟩ := ih (by omega)
      by_cases hinside : i + 1 < r.stop
      · exact ⟨j, r, hr, by omega, hinside⟩
      · -- the position is the first of the next run
        cases hnext : rs[j + 1]? with
        | none =>
            have := h.last j r hr hnext
            omega
        | some r' =>
            have hend := h.next j r r' hr hnext
            have hlt := (h.runs r' (List.mem_of_getElem? hnext)).lt
            exact ⟨j + 1, r', hnext, by omega, by omega⟩

/-- A tiling of the whole list has all its runs. -/
theorem TilesUpTo.exists_index {rs : List (Run α)} (h : TilesUpTo xs rs xs.length) {r : Run α}
    (hr : IsRun xs r) : ∃ j : ℕ, rs[j]? = some r := by
  have hlt : r.start < xs.length := Nat.lt_of_lt_of_le hr.lt hr.le_length
  obtain ⟨j, r', hr', hholds⟩ := h.exists_holds hlt
  have hsame := hr.unique (h.runs r' (List.mem_of_getElem? hr')) ⟨Nat.le_refl _, hr.lt⟩ hholds
  exact ⟨j, hsame ▸ hr'⟩

/-- The runs of a tiling are in order. -/
theorem TilesUpTo.stop_le_start {rs : List (Run α)} {stop j : ℕ} (h : TilesUpTo xs rs stop)
    {r : Run α} (hr : rs[j]? = some r) : ∀ {k : ℕ} {r' : Run α}, j < k → rs[k]? = some r' →
    r.stop ≤ r'.start := by
  intro k
  induction k with
  | zero => intro r' hjk; omega
  | succ k ih =>
      intro r' hjk hr'
      have hk : k < rs.length := by
        have := (List.getElem?_eq_some_iff.mp hr').1
        omega
      have hend := h.next k rs[k] r' (List.getElem?_eq_getElem hk) hr'
      rcases Nat.lt_succ_iff_lt_or_eq.mp hjk with hlt | rfl
      · have hle := ih hlt (List.getElem?_eq_getElem hk)
        have hrun := (h.runs rs[k] (List.getElem_mem hk)).lt
        omega
      · rw [List.getElem?_eq_getElem hk] at hr
        rw [← Option.some.inj hr]
        exact Nat.le_of_eq hend

/-- A position lies in one run of a tiling only. -/
theorem TilesUpTo.index_unique {rs : List (Run α)} {stop j k i : ℕ} (h : TilesUpTo xs rs stop)
    {r r' : Run α} (hr : rs[j]? = some r) (hr' : rs[k]? = some r') (hi : r.Holds i)
    (hi' : r'.Holds i) : j = k := by
  obtain ⟨hstart, hstop⟩ := hi
  obtain ⟨hstart', hstop'⟩ := hi'
  rcases Nat.lt_trichotomy j k with hlt | heq | hgt
  · have := h.stop_le_start hr hlt hr'
    omega
  · exact heq
  · have := h.stop_le_start hr' hgt hr
    omega

/-- The run of a tiling that starts where another one stops is the next. -/
theorem TilesUpTo.index_succ {rs : List (Run α)} {stop j k : ℕ} (h : TilesUpTo xs rs stop)
    {r r' : Run α} (hr : rs[j]? = some r) (hr' : rs[k]? = some r') (hmeet : r.stop = r'.start) :
    k = j + 1 := by
  have hrun := (h.runs r (List.mem_of_getElem? hr)).lt
  have hrun' := (h.runs r' (List.mem_of_getElem? hr')).lt
  have hne : j ≠ k := by
    rintro rfl
    rw [hr, Option.some_inj] at hr'
    rw [hr'] at hmeet
    omega
  have hlt : j < k := by
    by_contra hge
    have := h.stop_le_start hr' (by omega) hr
    omega
  by_contra hfar
  -- a run in between would be empty
  have hnext : j + 1 < rs.length := by
    have := (List.getElem?_eq_some_iff.mp hr').1
    omega
  have hbetween := List.getElem?_eq_getElem hnext
  have hstart := h.next j r rs[j + 1] hr hbetween
  have hend := h.stop_le_start hbetween (by omega) hr'
  have := (h.runs rs[j + 1] (List.getElem_mem hnext)).lt
  omega

/-- Two runs of a tiling that follow one another hold different values. -/
theorem TilesUpTo.label_ne {rs : List (Run α)} {stop j : ℕ} {r r' : Run α}
    (h : TilesUpTo xs rs stop) (hr : rs[j]? = some r) (hr' : rs[j + 1]? = some r') :
    r.label ≠ r'.label := by
  intro hlabel
  have hrun := h.runs r (List.mem_of_getElem? hr)
  have hrun' := h.runs r' (List.mem_of_getElem? hr')
  have hafter := hrun.after
  rw [h.next j r r' hr hr', hrun'.getElem? ⟨Nat.le_refl _, hrun'.lt⟩, hlabel] at hafter
  exact hafter rfl

end ProofAlpha.Lib
