/-
Purging of the training labels of a cross-validation split (`data/feature_store.py`,
`purge_training_indices_for_label_intervals`).

A timestamp is a number of microseconds. What a purged split owes its test set is
`NoLeakage`: nothing of the test set is kept, no kept label overlaps a test label,
none starts inside the embargo behind a test label, and nothing else is dropped.
The source looks for the embargo behind the latest test label only, so it owes
that much exactly when `CutoffReachesAll` holds.
-/
import Mathlib.Algebra.Order.Ring.Int
import Mathlib.Data.Finset.Sort
import Mathlib.Data.Int.ConditionallyCompleteOrder
import Mathlib.Data.Int.Interval
import Mathlib.Order.ConditionallyCompleteLattice.Basic
import Mathlib.Tactic.Common

set_option autoImplicit false

namespace ProofAlpha.Data

/-! ## The code -/

/-- `LabelMetadata`: the interval from `t_i` to `T_i`, and the horizon. -/
structure LabelMetadata where
  t_i : ℤ
  T_i : ℤ
  horizon_bars : ℤ
  horizon_seconds : ℤ
deriving DecidableEq

/-- `timedelta(seconds=1)`. -/
def one_second : ℤ := 1000000

/-- `_intervals_overlap`. -/
def intervals_overlap (left_start left_end right_start right_end : ℤ) : Bool :=
  decide (left_start < right_end) && decide (right_start < left_end)

/-- The step of a label by its own horizon, at least a second. -/
def horizon_step (label : LabelMetadata) : ℤ :=
  max 1 (label.horizon_seconds / max 1 label.horizon_bars) * one_second

/-- `_infer_label_step`: the distance of the first two labels, or a step by the
horizon of the first where these do not advance. -/
def infer_label_step : List LabelMetadata → ℤ
  | [] => one_second
  | [label] => horizon_step label
  | first :: second :: _ =>
      if 0 < second.t_i - first.t_i then second.t_i - first.t_i else horizon_step first

/-- `[labels[index] for index in sorted(test_indices) if 0 <= index < len(labels)]`. -/
def test_labels_of (labels : List LabelMetadata) (test_indices : Finset ℤ) :
    List LabelMetadata :=
  (test_indices.sort).filterMap fun index =>
    if 0 ≤ index then labels[index.toNat]? else none

/-- `purge_training_indices_for_label_intervals`; `max` of no end is the empty test
set. -/
def purge_training_indices_for_label_intervals (labels : List LabelMetadata)
    (test_indices : Finset ℤ) (embargo_bars : ℤ) : List ℕ :=
  let test_labels := test_labels_of labels test_indices
  match (test_labels.map LabelMetadata.T_i).max? with
  | none => List.range labels.length
  | some last_end =>
      let embargo_cutoff := last_end + infer_label_step labels * max 0 (embargo_bars - 1)
      labels.zipIdx.filterMap fun (label, index) =>
        if (index : ℤ) ∈ test_indices then none
        else if test_labels.any fun test_label =>
            intervals_overlap label.t_i label.T_i test_label.t_i test_label.T_i then none
        else if last_end ≤ label.t_i ∧ label.t_i ≤ embargo_cutoff then none
        else some index

/-! ## What a purged split owes its test set -/

/-- A label of the test set. -/
def IsTestLabel (labels : List LabelMetadata) (test_indices : Finset ℤ)
    (label : LabelMetadata) : Prop :=
  ∃ i : ℕ, (i : ℤ) ∈ test_indices ∧ labels[i]? = some label

/-- Two label intervals, each from its start up to but not including its end,
overlap: each starts before the other ends. -/
def Overlaps (l r : LabelMetadata) : Prop := l.t_i < r.T_i ∧ r.t_i < l.T_i

/-- `label` starts within `embargo_bars` bars from the end of `test_label`, the bars
being `T_i`, `T_i + step`, …, `T_i + (embargo_bars - 1) * step`. -/
def StartsInEmbargo (step embargo_bars : ℤ) (label test_label : LabelMetadata) : Prop :=
  0 < embargo_bars ∧ test_label.T_i ≤ label.t_i ∧
    label.t_i ≤ test_label.T_i + (embargo_bars - 1) * step

/-- The kept indices leak nothing, and nothing is dropped that would not leak. -/
structure NoLeakage (labels : List LabelMetadata) (test_indices : Finset ℤ)
    (embargo_bars : ℤ) (kept : List ℕ) : Prop where
  disjoint : ∀ i : ℕ, i ∈ kept → (i : ℤ) ∉ test_indices
  no_overlap : ∀ i : ℕ, i ∈ kept → ∀ label, labels[i]? = some label →
    ∀ test_label, IsTestLabel labels test_indices test_label → ¬ Overlaps label test_label
  no_embargo : ∀ i : ℕ, i ∈ kept → ∀ label, labels[i]? = some label →
    ∀ test_label, IsTestLabel labels test_indices test_label →
      ¬ StartsInEmbargo (infer_label_step labels) embargo_bars label test_label
  complete : ∀ (i : ℕ) label, labels[i]? = some label → (i : ℤ) ∉ test_indices →
    (∀ test_label, IsTestLabel labels test_indices test_label → ¬ Overlaps label test_label) →
    (∀ test_label, IsTestLabel labels test_indices test_label →
      ¬ StartsInEmbargo (infer_label_step labels) embargo_bars label test_label) →
    i ∈ kept

/-- No label outside the test set, clear of every test label, starts in the embargo
of one test label before the end of another; and without an embargo none starts
exactly at the latest end. -/
def CutoffReachesAll (labels : List LabelMetadata) (test_indices : Finset ℤ)
    (embargo_bars : ℤ) : Prop :=
  ∀ (i : ℕ) label, labels[i]? = some label → (i : ℤ) ∉ test_indices →
    (∀ test_label, IsTestLabel labels test_indices test_label → ¬ Overlaps label test_label) →
    (∀ test_label, IsTestLabel labels test_indices test_label →
      StartsInEmbargo (infer_label_step labels) embargo_bars label test_label →
      ∀ other, IsTestLabel labels test_indices other → other.T_i ≤ label.t_i) ∧
    (embargo_bars ≤ 0 → ∀ test_label, IsTestLabel labels test_indices test_label →
      test_label.T_i = label.t_i →
      ∃ other, IsTestLabel labels test_indices other ∧ label.t_i < other.T_i)

/-! ## What is kept -/

theorem mem_test_labels_of {labels : List LabelMetadata} {test_indices : Finset ℤ}
    {label : LabelMetadata} :
    label ∈ test_labels_of labels test_indices ↔ IsTestLabel labels test_indices label := by
  unfold test_labels_of IsTestLabel
  simp only [List.mem_filterMap, Finset.mem_sort]
  constructor
  · rintro ⟨index, hmem, hlabel⟩
    split_ifs at hlabel with hindex
    refine ⟨index.toNat, ?_, hlabel⟩
    rwa [Int.toNat_of_nonneg hindex]
  · rintro ⟨i, hmem, hlabel⟩
    refine ⟨i, hmem, ?_⟩
    rw [if_pos (Int.natCast_nonneg i), Int.toNat_natCast]
    exact hlabel

/-- The embargo as the source tests it: from the latest end of all test labels. -/
def InCodeEmbargo (labels : List LabelMetadata) (test_indices : Finset ℤ)
    (embargo_bars : ℤ) (label : LabelMetadata) : Prop :=
  ∃ last, IsTestLabel labels test_indices last ∧
    (∀ other, IsTestLabel labels test_indices other → other.T_i ≤ last.T_i) ∧
    last.T_i ≤ label.t_i ∧
    label.t_i ≤ last.T_i + infer_label_step labels * max 0 (embargo_bars - 1)

/-- The latest end is the end of a test label that no other outlasts; there is none
exactly when the test set has no label. -/
theorem latest_end_cases (labels : List LabelMetadata) (test_indices : Finset ℤ) :
    (((test_labels_of labels test_indices).map LabelMetadata.T_i).max? = none ∧
      ∀ label, ¬ IsTestLabel labels test_indices label) ∨
    ∃ last, IsTestLabel labels test_indices last ∧
      (∀ other, IsTestLabel labels test_indices other → other.T_i ≤ last.T_i) ∧
      ((test_labels_of labels test_indices).map LabelMetadata.T_i).max? = some last.T_i := by
  cases hmax : ((test_labels_of labels test_indices).map LabelMetadata.T_i).max? with
  | none =>
      refine Or.inl ⟨rfl, ?_⟩
      rw [List.max?_eq_none_iff, List.map_eq_nil_iff] at hmax
      intro label hlabel
      rw [← mem_test_labels_of, hmax] at hlabel
      exact List.not_mem_nil hlabel
  | some last_end =>
      refine Or.inr ?_
      obtain ⟨hmem, hle⟩ := List.max?_eq_some_iff.mp hmax
      obtain ⟨last, hlast, hend⟩ := List.mem_map.mp hmem
      refine ⟨last, mem_test_labels_of.mp hlast, ?_, by rw [hend]⟩
      intro other hother
      rw [hend]
      exact hle _ (List.mem_map_of_mem (mem_test_labels_of.mpr hother))

/-- An index is kept exactly when it is outside the test set, its label is clear of
every test label, and it is not in the embargo behind the latest one. -/
theorem mem_purge_iff (labels : List LabelMetadata) (test_indices : Finset ℤ)
    (embargo_bars : ℤ) (i : ℕ) :
    i ∈ purge_training_indices_for_label_intervals labels test_indices embargo_bars ↔
      ∃ label, labels[i]? = some label ∧ (i : ℤ) ∉ test_indices ∧
        (∀ test_label, IsTestLabel labels test_indices test_label →
          ¬ Overlaps label test_label) ∧
        ¬ InCodeEmbargo labels test_indices embargo_bars label := by
  unfold purge_training_indices_for_label_intervals
  rcases latest_end_cases labels test_indices with ⟨hmax, hnone⟩ | ⟨last, hlast, hle, hmax⟩
  · simp only [hmax, List.mem_range]
    constructor
    · intro hi
      refine ⟨labels[i], List.getElem?_eq_getElem hi, ?_, ?_, ?_⟩
      · intro hmem
        exact hnone _ ⟨i, hmem, List.getElem?_eq_getElem hi⟩
      · intro test_label htest
        exact absurd htest (hnone test_label)
      · rintro ⟨last, hlast, -⟩
        exact hnone last hlast
    · rintro ⟨label, hlabel, -⟩
      exact (List.getElem?_eq_some_iff.mp hlabel).1
  · have hany : ∀ label : LabelMetadata,
        ((test_labels_of labels test_indices).any fun test_label =>
          intervals_overlap label.t_i label.T_i test_label.t_i test_label.T_i) = true ↔
        ∃ test_label, IsTestLabel labels test_indices test_label ∧
          Overlaps label test_label := by
      intro label
      simp only [List.any_eq_true, mem_test_labels_of, intervals_overlap, Bool.and_eq_true,
        decide_eq_true_eq, Overlaps]
    have hembargo : ∀ label : LabelMetadata,
        InCodeEmbargo labels test_indices embargo_bars label ↔
        last.T_i ≤ label.t_i ∧
          label.t_i ≤ last.T_i + infer_label_step labels * max 0 (embargo_bars - 1) := by
      intro label
      constructor
      · rintro ⟨other, hother, hmost, hspan⟩
        rwa [le_antisymm (hmost last hlast) (hle other hother)]
      · intro hspan
        exact ⟨last, hlast, hle, hspan⟩
    simp only [hmax, List.mem_filterMap]
    constructor
    · rintro ⟨⟨label, index⟩, hmem, hkept⟩
      dsimp only at hkept
      split_ifs at hkept with htest hoverlap hspan
      obtain rfl : index = i := Option.some.inj hkept
      refine ⟨label, List.mk_mem_zipIdx_iff_getElem?.mp hmem, htest, ?_, ?_⟩
      · intro test_label htest_label hoverlaps
        exact hoverlap ((hany label).mpr ⟨test_label, htest_label, hoverlaps⟩)
      · rw [hembargo]
        exact hspan
    · rintro ⟨label, hlabel, htest, hclear, hspan⟩
      refine ⟨(label, i), List.mk_mem_zipIdx_iff_getElem?.mpr hlabel, ?_⟩
      dsimp only
      rw [if_neg htest, if_neg, if_neg]
      · rwa [← hembargo]
      · rw [hany]
        rintro ⟨test_label, htest_label, hoverlaps⟩
        exact hclear test_label htest_label hoverlaps

/-- The same for an index whose label is known. -/
theorem mem_purge_iff_of_label {labels : List LabelMetadata} {test_indices : Finset ℤ}
    {embargo_bars : ℤ} {i : ℕ} {label : LabelMetadata} (hlabel : labels[i]? = some label) :
    i ∈ purge_training_indices_for_label_intervals labels test_indices embargo_bars ↔
      (i : ℤ) ∉ test_indices ∧
        (∀ test_label, IsTestLabel labels test_indices test_label →
          ¬ Overlaps label test_label) ∧
        ¬ InCodeEmbargo labels test_indices embargo_bars label := by
  rw [mem_purge_iff, hlabel]
  simp only [Option.some.injEq, exists_eq_left']

/-! ## When a split leaks nothing -/

/-- The purge owes its test set nothing exactly when its one cutoff reaches every
embargo. -/
theorem purge_leaves_no_leakage_iff (labels : List LabelMetadata) (test_indices : Finset ℤ)
    (embargo_bars : ℤ) :
    NoLeakage labels test_indices embargo_bars
        (purge_training_indices_for_label_intervals labels test_indices embargo_bars) ↔
      CutoffReachesAll labels test_indices embargo_bars := by
  constructor
  · intro h i label hlabel htest hclear
    refine ⟨?_, ?_⟩
    · intro test_label htest_label hstarts other hother
      by_contra hother_end
      apply h.no_embargo i _ label hlabel test_label htest_label hstarts
      refine (mem_purge_iff_of_label hlabel).mpr ⟨htest, hclear, ?_⟩
      rintro ⟨last, -, hmost, hafter, -⟩
      exact hother_end ((hmost other hother).trans hafter)
    · intro hnone test_label htest_label hend
      by_contra hlatest
      push Not at hlatest
      have hkept := h.complete i label hlabel htest hclear
        (fun _ _ hstarts => absurd hstarts.1 (not_lt.mpr hnone))
      apply ((mem_purge_iff_of_label hlabel).mp hkept).2.2
      refine ⟨test_label, htest_label, ?_, hend.le, ?_⟩
      · intro other hother
        rw [hend]
        exact hlatest other hother
      · rw [max_eq_left (by omega), mul_zero, add_zero, hend]
  · intro h
    refine ⟨?_, ?_, ?_, ?_⟩
    · intro i hi
      obtain ⟨-, -, htest, -⟩ := (mem_purge_iff _ _ _ _).mp hi
      exact htest
    · intro i hi label hlabel
      exact ((mem_purge_iff_of_label hlabel).mp hi).2.1
    · intro i hi label hlabel test_label htest_label hstarts
      obtain ⟨htest, hclear, hspan⟩ := (mem_purge_iff_of_label hlabel).mp hi
      have hafter := (h i label hlabel htest hclear).1 test_label htest_label hstarts
      rcases latest_end_cases labels test_indices with ⟨-, hnone⟩ | ⟨last, hlast, hmost, -⟩
      · exact hnone test_label htest_label
      · apply hspan
        refine ⟨last, hlast, hmost, hafter last hlast, ?_⟩
        obtain ⟨hpos, -, hbars⟩ := hstarts
        -- the cutoff behind the latest end lies behind every other one
        have hends := hmost test_label htest_label
        rw [max_eq_right (by omega), Int.mul_comm]
        omega
    · intro i label hlabel htest hclear hfree
      refine (mem_purge_iff_of_label hlabel).mpr ⟨htest, hclear, ?_⟩
      rintro ⟨last, hlast, hmost, hafter, hspan⟩
      by_cases hpos : 0 < embargo_bars
      · apply hfree last hlast
        rw [max_eq_right (by omega), Int.mul_comm] at hspan
        exact ⟨hpos, hafter, hspan⟩
      · rw [max_eq_left (by omega), mul_zero, add_zero] at hspan
        obtain ⟨other, hother, hbeyond⟩ := (h i label hlabel htest hclear).2 (by omega) last hlast
          (le_antisymm hafter hspan)
        have := hmost other hother
        omega

/-- The labels of `count` one-minute bars with a horizon of two bars. -/
def minute_labels (count : ℕ) : List LabelMetadata :=
  (List.range count).map fun i =>
    { t_i := i * 60000000, T_i := (i + 2) * 60000000, horizon_bars := 2, horizon_seconds := 120 }

/-- Two test blocks: label 3 starts at the very end of the first one and is kept. -/
theorem purge_misses_first_block :
    ¬ NoLeakage (minute_labels 10) {1, 6} 2
      (purge_training_indices_for_label_intervals (minute_labels 10) {1, 6} 2) := by
  intro h
  have htests : ∀ label, IsTestLabel (minute_labels 10) {1, 6} label →
      label = ⟨60000000, 180000000, 2, 120⟩ ∨ label = ⟨360000000, 480000000, 2, 120⟩ := by
    rintro label ⟨i, hi, hlabel⟩
    simp only [Finset.mem_insert, Finset.mem_singleton] at hi
    rcases hi with hi | hi
    · obtain rfl : i = 1 := by omega
      exact Or.inl (Option.some.inj (hlabel.symm.trans (by decide)))
    · obtain rfl : i = 6 := by omega
      exact Or.inr (Option.some.inj (hlabel.symm.trans (by decide)))
  have hkept : 3 ∈ purge_training_indices_for_label_intervals (minute_labels 10) {1, 6} 2 := by
    have hlabel : (minute_labels 10)[3]? = some ⟨180000000, 300000000, 2, 120⟩ := by decide
    refine (mem_purge_iff_of_label hlabel).mpr ⟨by decide, ?_, ?_⟩
    · intro test_label htest
      rcases htests test_label htest with rfl | rfl
      · simp [Overlaps]
      · simp [Overlaps]
    · rintro ⟨last, -, hmost, hafter, -⟩
      have hlast := hmost _ ⟨6, by decide, rfl⟩
      simp only [] at hlast hafter
      omega
  refine h.no_embargo 3 hkept _ rfl _ ⟨1, by decide, rfl⟩ ?_
  unfold StartsInEmbargo
  decide

end ProofAlpha.Data
