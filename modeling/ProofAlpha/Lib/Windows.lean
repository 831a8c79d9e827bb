/-
Half-open windows that follow one another, and counts of points in them.

`windows previous ends` cuts a line at `ends`: each window runs from the end before
it, not included, to its own end, included; the first has no start unless one is
given. Where the ends do not fall, a point up to the last of them lies in exactly one
window (`existsUnique_window`), so counts over the windows add up
(`sum_countP_windows`).

`spanCount points a b` is the number of points after `a` and not after `b`. Spans
that follow one another count every point once (`spanCount_add`), so the counts
along a non-decreasing sequence add up to the count from its first to its last
entry (`sum_spanCount`). For the multiples of a period the count is a difference
of quotients (`spanCount_multiples`).
-/
import Mathlib.Algebra.BigOperators.Group.List.Basic
import Mathlib.Algebra.BigOperators.Intervals
import Mathlib.Algebra.GroupWithZero.Nat
import Mathlib.Algebra.Order.Monoid.Defs
import Mathlib.Data.Int.CardIntervalMod
import Mathlib.Data.List.Chain
import Mathlib.Data.List.Sort
import Mathlib.Data.Set.Card
import Mathlib.Order.Interval.Set.Disjoint
import Mathlib.Order.Lattice
import Mathlib.Tactic.Common

set_option autoImplicit false

namespace ProofAlpha.Lib

/-! ## Spans -/

section Spans

variable {α : Type*} [LinearOrder α] [LocallyFiniteOrder α] (points : Set α)

/-- The number of points in the span from `a`, not included, to `b`, included. -/
noncomputable def spanCount (a b : α) : ℕ := (Set.Ioc a b ∩ points).ncard

omit [LocallyFiniteOrder α] in
theorem spanCount_of_le {a b : α} (h : b ≤ a) : spanCount points a b = 0 := by
  rw [spanCount, Set.Ioc_eq_empty (not_lt.mpr h), Set.empty_inter, Set.ncard_empty]

theorem finite_span (a b : α) : (Set.Ioc a b ∩ points).Finite :=
  (Set.finite_Ioc a b).subset Set.inter_subset_left

/-- A span cut in two counts every point once. -/
theorem spanCount_add {a b c : α} (hab : a ≤ b) (hbc : b ≤ c) :
    spanCount points a b + spanCount points b c = spanCount points a c := by
  have hdisjoint : Disjoint (Set.Ioc a b ∩ points) (Set.Ioc b c ∩ points) :=
    (Set.Ioc_disjoint_Ioc_of_le le_rfl).mono Set.inter_subset_left Set.inter_subset_left
  rw [spanCount, spanCount, spanCount, ← Set.Ioc_union_Ioc_eq_Ioc hab hbc,
    Set.union_inter_distrib_right,
    Set.ncard_union_eq hdisjoint (finite_span points a b) (finite_span points b c)]

/-- The counts along a non-decreasing sequence add up. -/
theorem sum_spanCount (t : ℕ → α) {n : ℕ} (ht : ∀ i, i < n → t i ≤ t (i + 1)) :
    ∑ i ∈ Finset.range n, spanCount points (t i) (t (i + 1)) = spanCount points (t 0) (t n)
      ∧ t 0 ≤ t n := by
  induction n with
  | zero => exact ⟨by simp [spanCount_of_le], le_rfl⟩
  | succ n ih =>
      obtain ⟨hsum, hle⟩ := ih fun i hi => ht i (Nat.lt_succ_of_lt hi)
      have hlast := ht n (Nat.lt_succ_self n)
      rw [Finset.sum_range_succ, hsum, spanCount_add points hle hlast]
      exact ⟨rfl, hle.trans hlast⟩

end Spans

/-- The multiples of a period passed between two times. -/
theorem spanCount_multiples {period : ℤ} (hperiod : 0 < period) (a b : ℤ) :
    spanCount {t | period ∣ t} a b = (b / period - a / period).toNat := by
  have hset : Set.Ioc a b ∩ {t | period ∣ t}
      = ((Finset.Ioc a b).filter fun t => period ∣ t : Finset ℤ) := by
    ext t
    simp
  have hcard := Int.Ioc_filter_dvd_card a b hperiod
  have hfloor : ∀ x : ℤ, ⌊(x : ℚ) / (period : ℚ)⌋ = x / period := by
    intro x
    obtain ⟨d, rfl⟩ := Int.eq_ofNat_of_zero_le hperiod.le
    exact_mod_cast Rat.floor_intCast_div_natCast x d
  rw [hfloor, hfloor] at hcard
  rw [spanCount, hset, Set.ncard_coe_finset]
  omega

/-! ## Windows -/

/-- A window from a start, not included, to a stop, included. -/
structure Window (ι : Type*) where
  start : Option ι
  stop : ι

/-- The windows that end at the given points, one after the other. -/
def windows {ι : Type*} : Option ι → List ι → List (Window ι)
  | _, [] => []
  | previous, stop :: rest => ⟨previous, stop⟩ :: windows (some stop) rest

variable {ι α : Type*}

/-- A window starts where the one before it stops. -/
theorem getElem?_windows (previous : Option ι) (ends : List ι) (k : ℕ) :
    (windows previous ends)[k]?
      = ends[k]?.map fun stop => ⟨if k = 0 then previous else ends[k - 1]?, stop⟩ := by
  induction ends generalizing previous k with
  | nil => rfl
  | cons stop rest ih =>
      cases k with
      | zero => rfl
      | succ k =>
          rw [windows, List.getElem?_cons_succ, ih, List.getElem?_cons_succ,
            if_neg (Nat.succ_ne_zero k), Nat.add_sub_cancel]
          cases k <;> rfl

variable [LinearOrder ι]

/-- A point lies in the window. -/
def Window.Holds (window : Window ι) (t : ι) : Prop :=
  (∀ start ∈ window.start, start < t) ∧ t ≤ window.stop

instance (window : Window ι) (t : ι) : Decidable (window.Holds t) :=
  inferInstanceAs (Decidable ((∀ start ∈ window.start, start < t) ∧ t ≤ window.stop))

/-- A point that the windows cover: after the first start and not after every end. -/
def Covered (previous : Option ι) (ends : List ι) (t : ι) : Prop :=
  (∀ start ∈ previous, start < t) ∧ ∃ stop ∈ ends, t ≤ stop

instance (previous : Option ι) (ends : List ι) (t : ι) : Decidable (Covered previous ends t) :=
  inferInstanceAs (Decidable ((∀ start ∈ previous, start < t) ∧ ∃ stop ∈ ends, t ≤ stop))

/-- The ends do not fall, and the first start is not after any of them. -/
def Rising (previous : Option ι) (ends : List ι) : Prop :=
  (∀ start ∈ previous, ∀ stop ∈ ends, start ≤ stop) ∧ ends.Pairwise (· ≤ ·)

theorem rising_none {ends : List ι} (hends : ends.Pairwise (· ≤ ·)) : Rising none ends := by
  refine ⟨?_, hends⟩
  intro start hstart
  cases hstart

theorem Rising.of_cons {previous : Option ι} {stop : ι} {rest : List ι}
    (h : Rising previous (stop :: rest)) :
    (∀ start ∈ previous, start ≤ stop) ∧ Rising (some stop) rest := by
  obtain ⟨hstop, hrest⟩ := List.pairwise_cons.mp h.2
  refine ⟨fun start hstart => h.1 start hstart stop List.mem_cons_self, ?_, hrest⟩
  intro start hstart
  rw [← Option.some.inj hstart]
  exact hstop

/-- Without a start the windows cover what is not after the last end. -/
theorem covered_none_iff {ends : List ι} (h : ends.Pairwise (· ≤ ·)) {t : ι} :
    Covered none ends t ↔ ∃ last ∈ ends.getLast?, t ≤ last := by
  constructor
  · rintro ⟨-, stop, hstop, hle⟩
    have hne : ends ≠ [] := List.ne_nil_of_mem hstop
    refine ⟨ends.getLast hne, List.getLast?_eq_getLast_of_ne_nil hne, hle.trans ?_⟩
    rw [← List.dropLast_append_getLast hne] at h hstop
    rcases List.mem_append.mp hstop with hbefore | hlast
    · exact (List.pairwise_append.mp h).2.2 stop hbefore _ (List.mem_singleton_self _)
    · exact le_of_eq (List.mem_singleton.mp hlast)
  · rintro ⟨last, hlast, hle⟩
    refine ⟨?_, last, List.mem_of_getLast? hlast, hle⟩
    intro start hstart
    cases hstart

/-- What the first window does not hold is left to the later ones. -/
theorem covered_cons_iff {previous : Option ι} {stop t : ι} {rest : List ι}
    (hprevious : ∀ start ∈ previous, start ≤ stop) :
    Covered previous (stop :: rest) t
      ↔ Window.Holds ⟨previous, stop⟩ t ∨ Covered (some stop) rest t := by
  constructor
  · rintro ⟨hafter, hend⟩
    rcases le_or_gt t stop with hle | hlt
    · exact Or.inl ⟨hafter, hle⟩
    · obtain ⟨later, hlater, hle⟩ := hend
      rcases List.mem_cons.mp hlater with rfl | hlater
      · exact absurd hle (not_le.mpr hlt)
      · exact Or.inr ⟨by simpa using hlt, later, hlater, hle⟩
  · rintro (⟨hafter, hle⟩ | ⟨hlt, later, hlater, hle⟩)
    · exact ⟨hafter, stop, List.mem_cons_self, hle⟩
    · refine ⟨?_, later, List.mem_cons_of_mem stop hlater, hle⟩
      intro start hstart
      exact (hprevious start hstart).trans_lt (hlt stop rfl)

/-- The first window and the later ones share no point. -/
theorem Window.Holds.not_covered {previous : Option ι} {stop t : ι} {rest : List ι}
    (ht : Window.Holds ⟨previous, stop⟩ t) : ¬ Covered (some stop) rest t := fun hcovered =>
  absurd ht.2 (not_le.mpr (hcovered.1 stop rfl))

/-- A window holds covered points only. -/
theorem covered_of_mem_windows {previous : Option ι} {ends : List ι} (h : Rising previous ends)
    {window : Window ι} (hwindow : window ∈ windows previous ends) {t : ι}
    (ht : window.Holds t) : Covered previous ends t := by
  induction ends generalizing previous with
  | nil => cases hwindow
  | cons stop rest ih =>
      obtain ⟨hfirst, hrest⟩ := h.of_cons
      rw [covered_cons_iff hfirst]
      rcases List.mem_cons.mp hwindow with hhere | hlater
      · rw [hhere] at ht
        exact Or.inl ht
      · exact Or.inr (ih hrest hlater)

/-- A covered point lies in exactly one window. -/
theorem existsUnique_window {previous : Option ι} {ends : List ι} (h : Rising previous ends)
    {t : ι} (ht : Covered previous ends t) :
    ∃! k : ℕ, ∃ window : Window ι,
      (windows previous ends)[k]? = some window ∧ window.Holds t := by
  induction ends generalizing previous with
  | nil =>
      obtain ⟨-, stop, hstop, -⟩ := ht
      cases hstop
  | cons stop rest ih =>
      obtain ⟨hfirst, hrest⟩ := h.of_cons
      -- a point of the first window is covered by no later one, and the other way round
      rcases (covered_cons_iff hfirst).mp ht with hhere | hafter
      · refine ⟨0, ⟨_, rfl, hhere⟩, ?_⟩
        rintro k ⟨window, hk, hwindow⟩
        cases k with
        | zero => rfl
        | succ k =>
            have hmem : window ∈ windows (some stop) rest := List.mem_of_getElem? hk
            exact absurd (covered_of_mem_windows hrest hmem hwindow) hhere.not_covered
      · obtain ⟨k, ⟨window, hk, hwindow⟩, hunique⟩ := ih hrest hafter
        refine ⟨k + 1, ⟨window, hk, hwindow⟩, ?_⟩
        rintro j ⟨window', hj, hwindow'⟩
        cases j with
        | zero =>
            obtain rfl := Option.some.inj hj
            exact absurd hafter hwindow'.not_covered
        | succ j => rw [hunique j ⟨window', hj, hwindow'⟩]

/-- The windows hold a covered point once and any other point never. -/
theorem countP_windows {previous : Option ι} {ends : List ι} (h : Rising previous ends) (t : ι) :
    (windows previous ends).countP (fun window => decide (window.Holds t))
      = if Covered previous ends t then 1 else 0 := by
  induction ends generalizing previous with
  | nil => simp [windows, Covered]
  | cons stop rest ih =>
      obtain ⟨hfirst, hrest⟩ := h.of_cons
      rw [windows, List.countP_cons, ih hrest]
      by_cases hhere : Window.Holds ⟨previous, stop⟩ t
      · simp [hhere, hhere.not_covered, covered_cons_iff hfirst]
      · simp [hhere, covered_cons_iff hfirst]

omit [LinearOrder ι] in
/-- One more item counts in the windows that hold it. -/
theorem sum_countP_cons (holds : Window ι → α → Bool) (item : α) (items : List α)
    (spans : List (Window ι)) :
    (spans.map fun window => (item :: items).countP (holds window)).sum
      = (spans.map fun window => items.countP (holds window)).sum
        + spans.countP fun window => holds window item := by
  induction spans with
  | nil => rfl
  | cons window spans ih =>
      rw [List.map_cons, List.sum_cons, ih, List.countP_cons, List.map_cons, List.sum_cons,
        List.countP_cons]
      omega

/-- The counts over the windows add up to the count of what they cover. -/
theorem sum_countP_windows {previous : Option ι} {ends : List ι} (h : Rising previous ends)
    (time : α → Option ι) (items : List α) :
    ((windows previous ends).map fun window =>
        items.countP fun item => decide (∃ t ∈ time item, window.Holds t)).sum
      = items.countP fun item => decide (∃ t ∈ time item, Covered previous ends t) := by
  -- the sum is taken item by item: each counts in one window or in none
  induction items with
  | nil => simp
  | cons item items ih =>
      rw [sum_countP_cons, ih, List.countP_cons]
      congr 1
      cases htime : time item with
      | none => simp
      | some t => simpa using countP_windows h t

end ProofAlpha.Lib

/-!
Series of points without a large gap.

When every point lies less than a gap beyond the one before it, no stretch of that length
between the first and the last point is free of points (`exists_between_of_steps`). The
points need not be in order.
-/

namespace ProofAlpha.Lib

variable {α M : Type*} [AddCommMonoid M] [LinearOrder M] [IsOrderedAddMonoid M]

/-- Every point is less than a gap beyond the one before it. -/
def StepsBelow (value : α → M) (gap : M) (points : List α) : Prop :=
  points.IsChain fun x y => value y < value x + gap

/-- A relation between all neighbours of a list, told by its pairs of neighbours. -/
theorem isChain_of_neighbours {R : α → α → Prop} {points : List α}
    (h : ∀ pair ∈ points.zip points.tail, R pair.1 pair.2) : points.IsChain R := by
  induction points with
  | nil => exact List.IsChain.nil
  | cons x points ih =>
      cases points with
      | nil => exact List.IsChain.singleton x
      | cons y points =>
          rw [List.tail_cons, List.zip_cons_cons] at h
          apply List.isChain_cons_cons.mpr
          constructor
          · exact h (x, y) List.mem_cons_self
          · exact ih fun pair hpair => h pair (List.mem_cons_of_mem _ hpair)

/-- Between the first point and the last every stretch as long as a gap holds a point. -/
theorem exists_between_of_steps {value : α → M} {gap : M} {first last : α} {inner : List α}
    (h : StepsBelow value gap (first :: (inner ++ [last]))) {a b : M} (ha : value first ≤ a)
    (hb : b ≤ value last) (hab : a + gap ≤ b) : ∃ x ∈ inner, a < value x ∧ value x < b := by
  induction inner generalizing first with
  | nil =>
      -- the two ends alone are closer than the stretch is long
      have hstep : value last < value first + gap := (List.isChain_cons_cons.mp h).1
      have hgap : value first + gap ≤ a + gap := add_le_add_left ha gap
      exact absurd (hstep.trans_le (hgap.trans (hab.trans hb))) (lt_irrefl _)
  | cons x inner ih =>
      obtain ⟨hstep, hrest⟩ := List.isChain_cons_cons.mp h
      by_cases hx : a < value x
      · have hgap : value first + gap ≤ a + gap := add_le_add_left ha gap
        exact ⟨x, List.mem_cons_self, hx, hstep.trans_le (hgap.trans hab)⟩
      · obtain ⟨y, hy, hbetween⟩ := ih hrest (not_lt.mp hx)
        exact ⟨y, List.mem_cons_of_mem x hy, hbetween⟩

end ProofAlpha.Lib
