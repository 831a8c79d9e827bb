/-
The performance matrix of the PBO report: `_build_partitioned_performance_matrix` of
`validation/protocol.py`.

The samples up to the end of the shortest series are cut at `i * sample_count // partitions`. With
no more partitions than samples every cut is beyond the one before it
(`partition_bound_lt`), so the rows average slices that cover the samples once, and the matrix has
the shape that `compute_cscv_pbo` asks for (`performance_matrix_spec`).
-/
import Mathlib.Algebra.BigOperators.Group.List.Basic
import ProofAlpha.Lib.PyList
import ProofAlpha.Validation.Overfitting

set_option autoImplicit false

namespace ProofAlpha.Validation

open ProofAlpha.Lib

section Matrix

variable {K : Type} [Field K]

/-- `min(len(series) for series in model_return_series)`. -/
def sample_count (model_return_series : List (List K)) : ℕ :=
  (model_return_series.map List.length).min?.getD 0

/-- `(partition_index * sample_count) // partitions`. -/
def partition_bound (sample_count partitions partition_index : ℕ) : ℕ :=
  partition_index * sample_count / partitions

/-- The number of partitions: no more than samples, and even. -/
def partition_count (sample_count : ℕ) (max_partitions : ℤ) : ℤ :=
  let partitions := min max_partitions sample_count
  if partitions % 2 ≠ 0 then partitions - 1 else partitions

/-- The row of a partition, `none` where the partition is empty. -/
def partition_row (model_return_series : List (List K)) (start stop : ℕ) : Option (List K) :=
  if stop ≤ start then none
  else some (model_return_series.map fun series =>
    ((series.take stop).drop start).sum / (stop - start : ℕ))

/-- `_build_partitioned_performance_matrix`. -/
def build_partitioned_performance_matrix (model_return_series : List (List K))
    (max_partitions : ℤ) : List (List K) :=
  if model_return_series.length < 2 then []
  else
    let sample_count := sample_count model_return_series
    let partitions := partition_count sample_count max_partitions
    if partitions < 2 then []
    else
      let bound := partition_bound sample_count partitions.toNat
      -- an empty partition ends the loop and leaves no row
      ((List.range partitions.toNat).mapM fun partition_index =>
        partition_row model_return_series (bound partition_index)
          (bound (partition_index + 1))).getD []

/-! ## The bounds -/

theorem partition_bound_zero (samples partitions : ℕ) :
    partition_bound samples partitions 0 = 0 := by
  rw [partition_bound, Nat.zero_mul, Nat.zero_div]

theorem partition_bound_last {samples partitions : ℕ} (hpos : 0 < partitions) :
    partition_bound samples partitions partitions = samples := by
  rw [partition_bound, Nat.mul_div_cancel_left _ hpos]

/-- With no more partitions than samples, no partition is empty. -/
theorem partition_bound_lt {samples partitions : ℕ} (hpos : 0 < partitions)
    (hle : partitions ≤ samples) (i : ℕ) :
    partition_bound samples partitions i < partition_bound samples partitions (i + 1) := by
  have hstep : i * samples + partitions ≤ (i + 1) * samples := by
    rw [Nat.add_one_mul]
    omega
  calc i * samples / partitions
      < i * samples / partitions + 1 := Nat.lt_succ_self _
    _ = (i * samples + partitions) / partitions := (Nat.add_div_right _ hpos).symm
    _ ≤ (i + 1) * samples / partitions := Nat.div_le_div_right hstep

/-- The number of partitions is even, and within both bounds. -/
theorem partition_count_spec (samples : ℕ) (max_partitions : ℤ) :
    partition_count samples max_partitions % 2 = 0
      ∧ partition_count samples max_partitions ≤ max_partitions
      ∧ partition_count samples max_partitions ≤ samples
      ∧ (2 ≤ partition_count samples max_partitions ↔ 2 ≤ max_partitions ∧ 2 ≤ samples) := by
  unfold partition_count
  dsimp only
  split_ifs with hodd
  · omega
  · omega

/-! ## The rows -/

/-- `series[start:stop]`. -/
def slice (series : List K) (start stop : ℕ) : List K := (series.take stop).drop start

/-- The mean of a slice. -/
def slice_mean (series : List K) (start stop : ℕ) : K :=
  (slice series start stop).sum / (slice series start stop).length

/-- The rows are the means of consecutive slices that are not empty and cover the samples. -/
structure PartitionedMatrix (model_return_series : List (List K)) (max_partitions : ℤ)
    (bounds : ℕ → ℕ) (matrix : List (List K)) : Prop where
  even : matrix.length % 2 = 0
  two_le : 2 ≤ matrix.length
  le_max : (matrix.length : ℤ) ≤ max_partitions
  start : bounds 0 = 0
  stop : bounds matrix.length = sample_count model_return_series
  nonempty : ∀ i < matrix.length, bounds i < bounds (i + 1)
  rows : matrix = (List.range matrix.length).map fun i =>
    model_return_series.map fun series => slice_mean series (bounds i) (bounds (i + 1))

variable {model_return_series : List (List K)} {max_partitions : ℤ} {bounds : ℕ → ℕ}
  {matrix : List (List K)}

omit [Field K] in
theorem sample_count_le {series : List K} (hseries : series ∈ model_return_series) :
    sample_count model_return_series ≤ series.length := by
  unfold sample_count
  cases hmin : (model_return_series.map List.length).min? with
  | none => exact Nat.zero_le _
  | some shortest =>
      exact (List.min?_eq_some_iff.mp hmin).2 _ (List.mem_map_of_mem hseries)

omit [Field K] in
/-- A slice up to the shortest end has as many samples as its bounds say. -/
theorem length_slice {series : List K} (hseries : series ∈ model_return_series) (start : ℕ)
    {stop : ℕ} (hstop : stop ≤ sample_count model_return_series) :
    (slice series start stop).length = stop - start := by
  have hle := sample_count_le hseries
  rw [slice, List.length_drop, List.length_take, Nat.min_eq_left (by omega)]

namespace PartitionedMatrix

theorem bounds_mono (h : PartitionedMatrix model_return_series max_partitions bounds matrix)
    {i j : ℕ} (hij : i ≤ j) (hj : j ≤ matrix.length) : bounds i ≤ bounds j := by
  induction j, hij using Nat.le_induction with
  | base => exact le_rfl
  | succ j hij ih =>
      have hstep := h.nonempty j (by omega)
      exact (ih (by omega)).trans hstep.le

theorem bounds_le (h : PartitionedMatrix model_return_series max_partitions bounds matrix) {i : ℕ}
    (hi : i ≤ matrix.length) : bounds i ≤ sample_count model_return_series := by
  rw [← h.stop]
  exact h.bounds_mono hi le_rfl

/-- The slices put together are the samples. -/
theorem covers (h : PartitionedMatrix model_return_series max_partitions bounds matrix)
    (series : List K) :
    ((List.range matrix.length).flatMap fun i => slice series (bounds i) (bounds (i + 1)))
      = series.take (sample_count model_return_series) := by
  rw [← h.stop]
  exact PyList.flatMap_slices series h.start fun i hi => (h.nonempty i hi).le

/-- Weighted by the lengths of the slices, a column adds up to the samples. -/
theorem column_sum [CharZero K]
    (h : PartitionedMatrix model_return_series max_partitions bounds matrix) {column : ℕ}
    {series : List K} (hcolumn : model_return_series[column]? = some series) :
    ((List.range matrix.length).map fun i =>
        ((bounds (i + 1) - bounds i : ℕ) : K) * (matrix.getD i []).getD column 0).sum
      = (series.take (sample_count model_return_series)).sum := by
  have hseries : series ∈ model_return_series := List.mem_of_getElem? hcolumn
  have hentry : ∀ i ∈ List.range matrix.length,
      ((bounds (i + 1) - bounds i : ℕ) : K) * (matrix.getD i []).getD column 0
        = (slice series (bounds i) (bounds (i + 1))).sum := by
    intro i hi
    have hi := List.mem_range.mp hi
    have hlength := length_slice hseries (bounds i) (h.bounds_le (show i + 1 ≤ _ from hi))
    have hweight : ((bounds (i + 1) - bounds i : ℕ) : K) ≠ 0 := by
      rw [Nat.cast_ne_zero]
      have hstep := h.nonempty i hi
      omega
    have hrow : matrix.getD i [] = model_return_series.map fun series =>
        slice_mean series (bounds i) (bounds (i + 1)) := by
      conv_lhs => rw [h.rows]
      rw [List.getD_eq_getElem?_getD, List.getElem?_map, List.getElem?_range hi]
      rfl
    rw [hrow, List.getD_eq_getElem?_getD, List.getElem?_map, hcolumn, Option.map_some,
      Option.getD_some, slice_mean, hlength, mul_div_cancel₀ _ hweight]
  rw [List.map_congr_left hentry, ← h.covers series, List.flatMap_def, List.sum_flatten,
    List.map_map]
  rfl

theorem length_row (h : PartitionedMatrix model_return_series max_partitions bounds matrix)
    {row : List K} (hrow : row ∈ matrix) : row.length = model_return_series.length := by
  rw [h.rows] at hrow
  obtain ⟨i, -, rfl⟩ := List.mem_map.mp hrow
  rw [List.length_map]

theorem length_headD (h : PartitionedMatrix model_return_series max_partitions bounds matrix) :
    (matrix.headD []).length = model_return_series.length := by
  have hle := h.two_le
  cases matrix with
  | nil => exact absurd hle (Nat.not_succ_le_zero 1)
  | cons row rest => exact h.length_row (List.mem_cons_self ..)

/-- The matrix passes the checks of `compute_cscv_pbo`, with and without numpy. -/
theorem accepted [LinearOrder K]
    (h : PartitionedMatrix model_return_series max_partitions bounds matrix)
    (hseries : 2 ≤ model_return_series.length) (math : PyLog K) (np : Option (Numpy K)) :
    ∃ report, compute_cscv_pbo math np matrix matrix.length = .ok report := by
  have hrows : ∀ row ∈ matrix, row.length = (matrix.headD []).length :=
    fun row hrow => (h.length_row hrow).trans h.length_headD.symm
  have hcolumns : ∀ row ∈ matrix, 2 ≤ row.length :=
    fun row hrow => hseries.trans (h.length_row hrow).ge
  have hhead : 2 ≤ (matrix.headD []).length := hseries.trans h.length_headD.ge
  have heven := h.even
  have htwo := h.two_le
  have hchecks : check_partitions matrix matrix.length = .ok () := by
    rw [check_partitions, require_ok (decide_eq_true (by omega)), require,
      if_pos (decide_eq_true rfl)]
  cases np with
  | none =>
      refine ⟨cscv_report math rank_values matrix (matrix.length : ℤ).toNat, ?_⟩
      rw [compute_cscv_pbo, compute_cscv_pbo_pure_python,
        require_ok (decide_eq_true ⟨htwo, hcolumns⟩), require_ok (decide_eq_true hrows), hchecks]
      rfl
  | some np =>
      refine ⟨cscv_report math (np_ranking np) matrix (matrix.length : ℤ).toNat, ?_⟩
      rw [compute_cscv_pbo, require_ok (decide_eq_true hrows),
        require_ok (decide_eq_true ⟨htwo, hhead⟩), hchecks]
      rfl

end PartitionedMatrix

/-- The rows of partitions that are not empty. -/
theorem mapM_partition_row (hnext : ∀ i, bounds i < bounds (i + 1)) (partitions : ℕ) :
    (List.range partitions).mapM (fun i =>
        partition_row model_return_series (bounds i) (bounds (i + 1)))
      = some ((List.range partitions).map fun i => model_return_series.map fun series =>
          (slice series (bounds i) (bounds (i + 1))).sum
            / ((bounds (i + 1) - bounds i : ℕ) : K)) := by
  have hrow : (fun i => partition_row model_return_series (bounds i) (bounds (i + 1)))
      = fun i => pure (model_return_series.map fun series =>
          (slice series (bounds i) (bounds (i + 1))).sum
            / ((bounds (i + 1) - bounds i : ℕ) : K)) := by
    funext i
    rw [partition_row, if_neg (not_le.mpr (hnext i))]
    rfl
  rw [hrow, List.mapM_pure]
  rfl

/-- The rows are means, as every slice has as many samples as it is divided by. -/
theorem build_eq_map (hseries : 2 ≤ model_return_series.length) {partitions : ℕ}
    (hpartitions : partition_count (sample_count model_return_series) max_partitions = partitions)
    (htwo : 2 ≤ partitions) (hfew : partitions ≤ sample_count model_return_series)
    (hbounds : bounds = partition_bound (sample_count model_return_series) partitions) :
    build_partitioned_performance_matrix model_return_series max_partitions
      = (List.range partitions).map fun i => model_return_series.map fun series =>
          slice_mean series (bounds i) (bounds (i + 1)) := by
  have hpos : 0 < partitions := by omega
  have hnext : ∀ i, bounds i < bounds (i + 1) := by
    rw [hbounds]
    exact partition_bound_lt hpos hfew
  have hnotfew : ¬(partitions : ℤ) < 2 := by omega
  rw [build_partitioned_performance_matrix, if_neg (not_lt.mpr hseries)]
  dsimp only
  rw [hpartitions, if_neg hnotfew, Int.toNat_natCast, ← hbounds, mapM_partition_row hnext,
    Option.getD_some]
  refine List.map_congr_left fun i hi => List.map_congr_left fun series hmem => ?_
  have hstop : bounds (i + 1) ≤ sample_count model_return_series := by
    rw [hbounds, partition_bound]
    apply Nat.div_le_of_le_mul
    exact Nat.mul_le_mul_right _ (List.mem_range.mp hi)
  rw [slice_mean, length_slice hmem _ hstop]

/-- The matrix of as many partitions as there may be. -/
theorem partitionedMatrix_build (hseries : 2 ≤ model_return_series.length)
    (hmax : 2 ≤ max_partitions) (hsamples : 2 ≤ sample_count model_return_series) :
    ∃ bounds, PartitionedMatrix model_return_series max_partitions bounds
      (build_partitioned_performance_matrix model_return_series max_partitions) := by
  obtain ⟨heven, hle, hlesamples, htwo⟩ :=
    partition_count_spec (sample_count model_return_series) max_partitions
  have hcount := htwo.mpr ⟨hmax, hsamples⟩
  obtain ⟨partitions, hpartitions⟩ : ∃ partitions : ℕ,
      partition_count (sample_count model_return_series) max_partitions = partitions :=
    Int.eq_ofNat_of_zero_le (by omega)
  rw [hpartitions] at heven hle hlesamples hcount
  have hpos : 0 < partitions := by omega
  have hfew : partitions ≤ sample_count model_return_series := by omega
  have hbuild := build_eq_map hseries hpartitions (by omega) hfew rfl
  have hlength : (build_partitioned_performance_matrix model_return_series max_partitions).length
      = partitions := by
    rw [hbuild, List.length_map, List.length_range]
  refine ⟨partition_bound (sample_count model_return_series) partitions, ?_⟩
  refine ⟨by omega, by omega, by omega, partition_bound_zero _ _, ?_, ?_, ?_⟩
  · rw [hlength, partition_bound_last hpos]
  · intro i _
    exact partition_bound_lt hpos hfew i
  · rw [hlength]
    exact hbuild

/-- A matrix without rows comes of fewer than two samples or partitions. -/
theorem build_eq_nil_iff (hseries : 2 ≤ model_return_series.length) (max_partitions : ℤ) :
    build_partitioned_performance_matrix model_return_series max_partitions = []
      ↔ max_partitions < 2 ∨ sample_count model_return_series < 2 := by
  constructor
  · intro hnil
    by_contra henough
    obtain ⟨hmax, hsamples⟩ := not_or.mp henough
    obtain ⟨bounds, hmatrix⟩ := partitionedMatrix_build hseries (not_lt.mp hmax) (not_lt.mp hsamples)
    have htwo := hmatrix.two_le
    rw [hnil] at htwo
    exact absurd htwo (Nat.not_succ_le_zero 1)
  · intro hfew
    have hcount : partition_count (sample_count model_return_series) max_partitions < 2 := by
      by_contra hge
      obtain ⟨hmax, hsamples⟩ := (partition_count_spec _ _).2.2.2.mp (not_lt.mp hge)
      omega
    rw [build_partitioned_performance_matrix, if_neg (not_lt.mpr hseries)]
    dsimp only
    rw [if_pos hcount]

/-- The slices put together are the samples, and so are the columns weighted by their lengths. -/
structure ConservesSamples (model_return_series : List (List K)) (bounds : ℕ → ℕ)
    (matrix : List (List K)) : Prop where
  covers : ∀ series ∈ model_return_series,
    ((List.range matrix.length).flatMap fun i => slice series (bounds i) (bounds (i + 1)))
      = series.take (sample_count model_return_series)
  column_sum : ∀ (column : ℕ) (series : List K), model_return_series[column]? = some series →
    ((List.range matrix.length).map fun i =>
        ((bounds (i + 1) - bounds i : ℕ) : K) * (matrix.getD i []).getD column 0).sum
      = (series.take (sample_count model_return_series)).sum

/-- The matrix of two series or more has no rows if and only if there are fewer than two samples or
partitions; the rows that it has are the means of slices that cover the samples, which its weighted
columns add up to, and `compute_cscv_pbo` takes them. -/
theorem performance_matrix_spec [LinearOrder K] [IsStrictOrderedRing K]
    (hseries : 2 ≤ model_return_series.length) (max_partitions : ℤ) :
    (build_partitioned_performance_matrix model_return_series max_partitions = []
        ↔ max_partitions < 2 ∨ sample_count model_return_series < 2)
      ∧ ∀ matrix, build_partitioned_performance_matrix model_return_series max_partitions = matrix →
        matrix ≠ [] → ∃ bounds,
          PartitionedMatrix model_return_series max_partitions bounds matrix
            ∧ ConservesSamples model_return_series bounds matrix
            ∧ ∀ (math : PyLog K) (np : Option (Numpy K)),
              ∃ report, compute_cscv_pbo math np matrix matrix.length = .ok report := by
  have hempty := build_eq_nil_iff hseries max_partitions
  refine ⟨hempty, ?_⟩
  rintro matrix rfl hne
  obtain ⟨hmax, hsamples⟩ := not_or.mp (mt hempty.mpr hne)
  obtain ⟨bounds, hmatrix⟩ := partitionedMatrix_build hseries (not_lt.mp hmax) (not_lt.mp hsamples)
  refine ⟨bounds, hmatrix, ⟨?_, ?_⟩, ?_⟩
  · intro series _
    exact hmatrix.covers series
  · intro column series hcolumn
    exact hmatrix.column_sum hcolumn
  · intro math np
    exact hmatrix.accepted hseries math np

/-- Three samples make two rows, of one and of two samples. -/
theorem performance_matrix_three_samples :
    ∃ bounds, PartitionedMatrix [[1, 2, 3], [4, 5, (6 : ℚ), 7]] 16 bounds
      (build_partitioned_performance_matrix [[1, 2, 3], [4, 5, 6, 7]] 16) := by
  obtain ⟨bounds, hmatrix, -⟩ :=
    (performance_matrix_spec (show 2 ≤ [[1, 2, 3], [4, 5, (6 : ℚ), 7]].length by decide) 16).2 _ rfl
      (by decide +kernel)
  exact ⟨bounds, hmatrix⟩

end Matrix

end ProofAlpha.Validation
