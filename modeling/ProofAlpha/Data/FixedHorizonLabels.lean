/-
Labels over a fixed horizon and the training set a purge leaves of them
(`data/feature_store.py`, `build_fixed_horizon_labels` and
`purge_training_indices_for_label_intervals`).

A label compares the close of its row with that of the row `horizon_bars` later. On rows in time
order a purge around one block of labels keeps what has ended when the block begins and what
starts behind its embargo (`mem_purge_block_iff`), so no close after the block's first has a part
in a training label before the embargo is over (`training_labels_ignore_test_closes`).
-/
import Mathlib.Algebra.Field.Rat
import Mathlib.Data.Rat.Defs
import Mathlib.Tactic.Ring
import ProofAlpha.Data.LabelPurging
import ProofAlpha.Lib.Checks

set_option autoImplicit false

namespace ProofAlpha.Data

open ProofAlpha.Lib

variable {K : Type}

/-! ## The labels -/

/-- The fields of `NormalizedFeatureRow` that a label reads. -/
structure NormalizedFeatureRow (K : Type) where
  ts_close : ℤ
  close : K

/-- `LabelMetadata` with the row it is of and its value. -/
structure FixedHorizonLabel (K : Type) extends LabelMetadata where
  row_index : ℕ
  value : Option K

section Labels

variable [Field K] [DecidableEq K]

/-- The label of a row and the row at its horizon. -/
def fixed_horizon_label (horizon_bars : ℤ) (row end_row : NormalizedFeatureRow K)
    (row_index : ℕ) : FixedHorizonLabel K where
  t_i := row.ts_close
  T_i := end_row.ts_close
  horizon_bars := horizon_bars
  -- `int` cuts towards zero
  horizon_seconds := (end_row.ts_close - row.ts_close).tdiv one_second
  row_index := row_index
  value := if row.close = 0 then none else some (end_row.close / row.close - 1)

/-- `build_fixed_horizon_labels`; the loop ends where no row is left at the horizon. -/
def build_fixed_horizon_labels (rows : List (NormalizedFeatureRow K)) (horizon_bars : ℤ) :
    Except String (List (FixedHorizonLabel K)) := do
  require (decide (0 < horizon_bars)) "horizon_bars must be positive"
  return (rows.zip (rows.drop horizon_bars.toNat)).zipIdx.map fun ((row, end_row), index) =>
    fixed_horizon_label horizon_bars row end_row index

end Labels

/-- What a purge reads of the labels. -/
def intervals_of (labels : List (FixedHorizonLabel K)) : List LabelMetadata :=
  labels.map (·.toLabelMetadata)

/-- The indices that a purge keeps for training. -/
def training_indices (labels : List (FixedHorizonLabel K)) (test_indices : Finset ℤ)
    (embargo_bars : ℤ) : List ℕ :=
  purge_training_indices_for_label_intervals (intervals_of labels) test_indices embargo_bars

/-- The labels at these indices. -/
def training_labels (labels : List (FixedHorizonLabel K)) (test_indices : Finset ℤ)
    (embargo_bars : ℤ) : List (FixedHorizonLabel K) :=
  (training_indices labels test_indices embargo_bars).filterMap fun index => labels[index]?

/-- How long after the end of a test block no training label starts. -/
def embargo_wait (labels : List (FixedHorizonLabel K)) (embargo_bars : ℤ) : ℤ :=
  infer_label_step (intervals_of labels) * max 0 (embargo_bars - 1)

/-! ## Rows in time order -/

variable {rows : List (NormalizedFeatureRow K)} {horizon_bars : ℤ}

/-- Every row closes before the next. -/
def InTimeOrder (rows : List (NormalizedFeatureRow K)) : Prop :=
  rows.Pairwise fun row later => row.ts_close < later.ts_close

theorem InTimeOrder.lt_iff (hordered : InTimeOrder rows) {i j : ℕ}
    {row other : NormalizedFeatureRow K} (hrow : rows[i]? = some row)
    (hother : rows[j]? = some other) : row.ts_close < other.ts_close ↔ i < j := by
  have hmono : ∀ {i j : ℕ} {row other : NormalizedFeatureRow K}, rows[i]? = some row →
      rows[j]? = some other → i < j → row.ts_close < other.ts_close := by
    intro i j row other hrow hother hij
    obtain ⟨hi, rfl⟩ := List.getElem?_eq_some_iff.mp hrow
    obtain ⟨hj, rfl⟩ := List.getElem?_eq_some_iff.mp hother
    exact List.pairwise_iff_getElem.mp hordered i j hi hj hij
  refine ⟨fun hlt => ?_, hmono hrow hother⟩
  rcases Nat.lt_trichotomy i j with hij | rfl | hji
  · exact hij
  · rw [Option.some.inj (hrow.symm.trans hother)] at hlt
    exact absurd hlt (lt_irrefl _)
  · have := hmono hother hrow hji
    omega

/-- The label of an index, its row and the row at its horizon. -/
structure LabelRows (rows : List (NormalizedFeatureRow K)) (horizon_bars : ℤ) (i : ℕ)
    (label : LabelMetadata) (row end_row : NormalizedFeatureRow K) : Prop where
  first : rows[i]? = some row
  last : rows[i + horizon_bars.toNat]? = some end_row
  t_i : label.t_i = row.ts_close
  T_i : label.T_i = end_row.ts_close

/-- Two labels overlap where neither has ended when the other begins. -/
theorem LabelRows.overlaps_iff (hordered : InTimeOrder rows) {i j : ℕ} {label other : LabelMetadata}
    {row end_row other_row other_end : NormalizedFeatureRow K}
    (hi : LabelRows rows horizon_bars i label row end_row)
    (hj : LabelRows rows horizon_bars j other other_row other_end) :
    Overlaps label other
      ↔ i < j + horizon_bars.toNat ∧ j < i + horizon_bars.toNat := by
  rw [Overlaps, hi.t_i, hi.T_i, hj.t_i, hj.T_i, hordered.lt_iff hi.first hj.last,
    hordered.lt_iff hj.first hi.last]

theorem embargo_wait_nonneg (labels : List (FixedHorizonLabel K)) (embargo_bars : ℤ) :
    0 ≤ embargo_wait labels embargo_bars := by
  have hhorizon : ∀ label, 0 ≤ horizon_step label := fun label =>
    Int.mul_nonneg (by omega) (by decide)
  have hstep : 0 ≤ infer_label_step (intervals_of labels) := by
    unfold infer_label_step
    split
    · decide
    · exact hhorizon _
    · split_ifs with hadvance
      · exact hadvance.le
      · exact hhorizon _
  exact Int.mul_nonneg hstep (le_max_left _ _)

/-- A label that has ended when the first of a block begins, or starts later than `wait` after
the last one's end. -/
def ClearOfBlock (rows : List (NormalizedFeatureRow K)) (horizon_bars : ℤ) (first last : ℕ)
    (wait : ℤ) (i : ℕ) : Prop :=
  i + horizon_bars.toNat ≤ first
    ∨ ∃ row end_row, rows[i]? = some row ∧ rows[last + horizon_bars.toNat]? = some end_row
      ∧ end_row.ts_close + wait < row.ts_close

theorem ClearOfBlock.place (hordered : InTimeOrder rows) {first last i : ℕ} {wait : ℤ}
    (hwait : 0 ≤ wait) (h : ClearOfBlock rows horizon_bars first last wait i) :
    i + horizon_bars.toNat ≤ first ∨ last + horizon_bars.toNat < i := by
  refine h.imp_right ?_
  rintro ⟨row, end_row, hrow, hend, hbehind⟩
  rw [← hordered.lt_iff hend hrow]
  omega

/-! ## What a purge keeps -/

section Purge

variable [Field K] [DecidableEq K] {labels : List (FixedHorizonLabel K)}

theorem horizon_pos_of_labels
    (h : build_fixed_horizon_labels rows horizon_bars = .ok labels) :
    0 < horizon_bars :=
  of_decide_eq_true (require_bind_ok h).1

/-- There is a label for every row that has another at the horizon. -/
theorem getElem?_labels
    (h : build_fixed_horizon_labels rows horizon_bars = .ok labels)
    (i : ℕ) :
    labels[i]? = (rows[i]?).bind fun row => (rows[i + horizon_bars.toNat]?).map fun end_row =>
      fixed_horizon_label horizon_bars row end_row i := by
  obtain ⟨-, h⟩ := require_bind_ok h
  obtain rfl := Except.ok.inj h
  rw [List.getElem?_map, List.getElem?_zipIdx, List.zip, List.getElem?_zipWith, List.getElem?_drop,
    Nat.add_comm horizon_bars.toNat]
  cases rows[i]? with
  | none => rfl
  | some row =>
      cases rows[i + horizon_bars.toNat]? with
      | none => rfl
      | some end_row => simp

theorem exists_rows_of_label
    (h : build_fixed_horizon_labels rows horizon_bars = .ok labels)
    {i : ℕ} {label : LabelMetadata}
    (hlabel : (intervals_of labels)[i]? = some label) :
    ∃ row end_row, LabelRows rows horizon_bars i label row end_row := by
  rw [intervals_of, List.getElem?_map, getElem?_labels h] at hlabel
  cases hrow : rows[i]? with
  | none => simp [hrow] at hlabel
  | some row =>
      cases hend : rows[i + horizon_bars.toNat]? with
      | none => simp [hrow, hend] at hlabel
      | some end_row =>
          rw [hrow, hend] at hlabel
          obtain rfl := Option.some.inj hlabel
          exact ⟨row, end_row, hrow, hend, rfl, rfl⟩

theorem exists_label_of_lt
    (h : build_fixed_horizon_labels rows horizon_bars = .ok labels)
    {i : ℕ} (hi : i < labels.length) :
    ∃ label row end_row, (intervals_of labels)[i]? = some label
      ∧ LabelRows rows horizon_bars i label row end_row := by
  have hlabel : (intervals_of labels)[i]? = some labels[i].toLabelMetadata := by
    rw [intervals_of, List.getElem?_map, List.getElem?_eq_getElem hi, Option.map_some]
  exact ⟨_, (exists_rows_of_label h hlabel).imp fun _ hend => hend.imp fun _ hrows =>
    ⟨hlabel, hrows⟩⟩

/-- What is left for training around a block of test labels: the labels that have ended when the
first of the block begins, and those that start behind the embargo after the last one's end. -/
theorem mem_purge_block_iff
    (hlabels : build_fixed_horizon_labels rows horizon_bars = .ok labels)
    (hordered : InTimeOrder rows) {first last : ℕ} (hblock : first ≤ last)
    (hlast : last < labels.length) (embargo_bars : ℤ) (i : ℕ) :
    i ∈ training_indices labels (Finset.Icc (first : ℤ) last) embargo_bars
      ↔ i < labels.length ∧ ClearOfBlock rows horizon_bars first last
        (embargo_wait labels embargo_bars) i := by
  have hpos := horizon_pos_of_labels hlabels
  have hwait := embargo_wait_nonneg labels embargo_bars
  obtain ⟨test_label, test_row, test_end, htest_label, htest⟩ := exists_label_of_lt hlabels hlast
  have htested : ∀ {j : ℕ}, first ≤ j → j ≤ last → (j : ℤ) ∈ Finset.Icc (first : ℤ) last :=
    fun hfirst hlast => Finset.mem_Icc.mpr ⟨by omega, by omega⟩
  have hlast_test : IsTestLabel (intervals_of labels) (Finset.Icc (first : ℤ) last)
      test_label := ⟨last, htested hblock le_rfl, htest_label⟩
  by_cases hi : i < labels.length
  swap
  · refine iff_of_false (fun hkept => hi ?_) fun h => hi h.1
    obtain ⟨label, hlabel, -⟩ := (mem_purge_iff _ _ _ _).mp hkept
    simpa [intervals_of] using (List.getElem?_eq_some_iff.mp hlabel).1
  obtain ⟨label, row, end_row, hlabel, hrows⟩ := exists_label_of_lt hlabels hi
  rw [training_indices, mem_purge_iff_of_label hlabel, Finset.mem_Icc]
  constructor
  · rintro ⟨hout, hclear, hfree⟩
    refine ⟨hi, ?_⟩
    by_cases hbefore : i + horizon_bars.toNat ≤ first
    · exact .inl hbefore
    · -- the label has not ended when the block begins, so it starts after the block's end
      obtain ⟨first_label, first_row, first_end, hfirst_label, hfirst⟩ :=
        exists_label_of_lt hlabels (hblock.trans_lt hlast)
      have hfirst_clear := hclear first_label ⟨first, htested le_rfl hblock, hfirst_label⟩
      have hlast_clear := hclear test_label hlast_test
      rw [hrows.overlaps_iff hordered hfirst] at hfirst_clear
      rw [hrows.overlaps_iff hordered htest] at hlast_clear
      have hafter : last + horizon_bars.toNat ≤ i := by omega
      refine .inr ⟨row, test_end, hrows.first, htest.last, ?_⟩
      by_contra hwithin
      refine hfree ⟨test_label, hlast_test, ?_, ?_, ?_⟩
      · rintro other ⟨j, hj, hother⟩
        obtain ⟨other_row, other_end, hrows'⟩ := exists_rows_of_label hlabels hother
        rw [hrows'.T_i, htest.T_i, ← not_lt, hordered.lt_iff htest.last hrows'.last]
        have := (Finset.mem_Icc.mp hj).2
        omega
      · rw [htest.T_i, hrows.t_i, ← not_lt, hordered.lt_iff hrows.first htest.last]
        omega
      · rw [htest.T_i, hrows.t_i]
        exact not_lt.mp hwithin
  · rintro ⟨-, hkept⟩
    have hplace := hkept.place hordered hwait
    refine ⟨by omega, ?_, ?_⟩
    · rintro other ⟨j, hj, hother⟩
      obtain ⟨other_row, other_end, hrows'⟩ := exists_rows_of_label hlabels hother
      rw [hrows.overlaps_iff hordered hrows']
      have := Finset.mem_Icc.mp hj
      omega
    · rintro ⟨other, ⟨j, hj, hother⟩, hmost, hafter, hspan⟩
      obtain ⟨other_row, other_end, hrows'⟩ := exists_rows_of_label hlabels hother
      have hj := Finset.mem_Icc.mp hj
      rw [hrows'.T_i, hrows.t_i, ← not_lt, hordered.lt_iff hrows.first hrows'.last] at hafter
      rcases hkept with hbefore | ⟨kept_row, kept_end, hrow, hend, hbehind⟩
      · omega
      · -- the latest end is that of the last label of the block
        have hlatest := hmost test_label hlast_test
        rw [hrows'.T_i, htest.T_i, ← not_lt, hordered.lt_iff hrows'.last htest.last] at hlatest
        obtain rfl : j = last := by omega
        obtain rfl := Option.some.inj (hrow.symm.trans hrows.first)
        obtain rfl := Option.some.inj (hend.symm.trans hrows'.last)
        rw [hrows'.T_i, hrows.t_i] at hspan
        exact absurd hbehind hspan.not_gt

/-- Two lists of rows at the same times that have the same closes but where the labels of a block
look. -/
structure SameOutside (rows rows' : List (NormalizedFeatureRow K)) (first stop : ℕ) : Prop where
  times : ∀ k : ℕ, (rows[k]?).map (·.ts_close) = (rows'[k]?).map (·.ts_close)
  outside : ∀ k : ℕ, k ≤ first ∨ stop < k → rows[k]? = rows'[k]?

/-- A purge around one block of test labels keeps exactly the labels that have ended when the
block begins and those that start behind the embargo after its last end; and the training labels
are the same whatever the closes are between the first row of the block and its last end. -/
theorem purged_block_leaks_nothing
    (hlabels : build_fixed_horizon_labels rows horizon_bars = .ok labels)
    (hordered : InTimeOrder rows) {first last : ℕ} (hblock : first ≤ last)
    (hlast : last < labels.length) (embargo_bars : ℤ) :
    (∀ i, i ∈ training_indices labels (Finset.Icc (first : ℤ) last) embargo_bars
      ↔ i < labels.length ∧ ClearOfBlock rows horizon_bars first last
        (embargo_wait labels embargo_bars) i)
    ∧ ∀ rows' labels', build_fixed_horizon_labels rows' horizon_bars
        = .ok labels' →
      SameOutside rows rows' first (last + horizon_bars.toNat) →
      training_labels labels (Finset.Icc (first : ℤ) last) embargo_bars
        = training_labels labels' (Finset.Icc (first : ℤ) last) embargo_bars := by
  refine ⟨mem_purge_block_iff hlabels hordered hblock hlast embargo_bars,
    fun rows' labels' hlabels' hsame => ?_⟩
  have hmeta : intervals_of labels = intervals_of labels' := by
    refine List.ext_getElem? fun i => ?_
    rw [intervals_of, intervals_of, List.getElem?_map, List.getElem?_map,
      getElem?_labels hlabels, getElem?_labels hlabels']
    have hrow := hsame.times i
    have hend := hsame.times (i + horizon_bars.toNat)
    revert hrow hend
    cases rows[i]? <;> cases rows'[i]? <;> cases rows[i + horizon_bars.toNat]?
      <;> cases rows'[i + horizon_bars.toNat]? <;> simp [fixed_horizon_label]
    grind
  unfold training_labels training_indices
  rw [← hmeta]
  refine List.filterMap_congr fun i hi => ?_
  change i ∈ training_indices labels (Finset.Icc (first : ℤ) last) embargo_bars at hi
  rw [mem_purge_block_iff hlabels hordered hblock hlast] at hi
  rw [getElem?_labels hlabels, getElem?_labels hlabels']
  -- a kept label looks at rows up to the block's first, or behind its last end
  have hplace := hi.2.place hordered (embargo_wait_nonneg labels embargo_bars)
  rw [hsame.outside i (by omega), hsame.outside (i + horizon_bars.toNat) (by omega)]

end Purge

/-- Rows a minute apart. -/
def minute_rows (closes : List ℚ) : List (NormalizedFeatureRow ℚ) :=
  closes.zipIdx.map fun (close, index) => { ts_close := index * 60000000, close := close }

/-- The labels 2 and 3 are tested, the label 5 is kept; the closes of rows 3 and 4 do not matter. -/
theorem purged_block_leaks_nothing_minutes : ∃ labels labels',
    build_fixed_horizon_labels (minute_rows [1, 2, 4, 8, 16, 32, 64]) 1 = .ok labels
      ∧ build_fixed_horizon_labels (minute_rows [1, 2, 4, 9, 17, 32, 64]) 1 = .ok labels'
      ∧ 5 ∈ training_indices labels (Finset.Icc 2 3) 1
      ∧ training_labels labels (Finset.Icc 2 3) 1 = training_labels labels' (Finset.Icc 2 3) 1 := by
  have hordered : InTimeOrder (minute_rows [1, 2, 4, 8, 16, 32, 64]) := by
    unfold InTimeOrder
    decide
  have hblock := @purged_block_leaks_nothing ℚ (minute_rows [1, 2, 4, 8, 16, 32, 64]) 1 _ _ _ rfl
    hordered 2 3 (by decide) (by decide) 1
  refine ⟨_, _, rfl, rfl, (hblock.1 5).mpr ⟨by decide, .inr ⟨_, _, rfl, rfl, by decide⟩⟩,
    hblock.2 _ _ rfl ⟨fun k => ?_, fun k hk => ?_⟩⟩
  · rcases k with _ | _ | _ | _ | _ | _ | _ | k <;> rfl
  · rcases k with _ | _ | _ | _ | _ | _ | _ | k
    any_goals rfl
    · exact absurd hk (by decide)
    · exact absurd hk (by decide)

end ProofAlpha.Data
