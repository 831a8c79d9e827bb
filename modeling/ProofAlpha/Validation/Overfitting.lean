/-
The probability of backtest overfitting: `compute_cscv_pbo` of
`validation/overfitting.py`, and what the number is.

The rows of the performance matrix are split in half in every way; on every split
the best column of one half is ranked on the other. numpy is a parameter, as its
`argsort` may break ties in any way; without numpy the ranks come from a stable
sort. Both give ranks in the sense of `Lib.IsRanking`.

A split counts when the logit of the winner's rank is negative, that is when fewer
than half of the columns rank up to the winner (`rank_logit_neg_iff`). The
definition counts the splits in which the winner is below the median. The two agree
but for a winner that is the lower of two middle columns (`pbo_eq_fraction_iff`).
-/
import Mathlib.Data.List.MinMax
import Mathlib.Data.List.Sublists
import ProofAlpha.Backtest.Snapshot
import ProofAlpha.Lib.Checks
import ProofAlpha.Lib.PyMath
import ProofAlpha.Lib.Ranks

set_option autoImplicit false

namespace ProofAlpha.Validation

open ProofAlpha.Lib

/-! ## Splits -/

/-- `itertools.combinations`. -/
def combinations {α : Type} : List α → ℕ → List (List α)
  | _, 0 => [[]]
  | [], _ + 1 => []
  | x :: rest, n + 1 => (combinations rest n).map (x :: ·) ++ combinations rest (n + 1)

/-- They are the sublists of the length. -/
theorem combinations_perm {α : Type} (xs : List α) (n : ℕ) :
    (combinations xs n).Perm (List.sublistsLen n xs) := by
  induction xs generalizing n with
  | nil =>
      cases n with
      | zero => rw [combinations, List.sublistsLen_zero]
      | succ n => rw [combinations, List.sublistsLen_succ_nil]
  | cons x rest ih =>
      cases n with
      | zero => rw [combinations, List.sublistsLen_zero]
      | succ n =>
          rw [combinations, List.sublistsLen_succ_cons]
          exact (((ih n).map _).append (ih (n + 1))).trans List.perm_append_comm

/-! ## The computation -/

section Report

variable {K : Type} [Field K] [LinearOrder K]

/-- What the code uses of numpy: `argsort` on floats and on integers. -/
structure Numpy (K : Type) [LinearOrder K] where
  argsort : List K → List ℕ
  argsort_int : List ℕ → List ℕ
  isArgsort : ∀ values, IsArgsort values (argsort values)
  isArgsort_int : ∀ values, IsArgsort values (argsort_int values)

/-- What `compute_cscv_pbo` returns. -/
structure PboReport (K : Type) where
  pbo : K
  logits : List K
  selected_models : List ℕ

/-- `_column_means`, and `matrix[rows, :].mean(axis=0)`. -/
def column_means (matrix : List (List K)) (row_indices : List ℕ) : List K :=
  (List.range (matrix.headD []).length).map fun column_index =>
    (row_indices.map fun row_index => (matrix.getD row_index []).getD column_index 0).sum
      / row_indices.length

omit [LinearOrder K] in
@[simp] theorem length_column_means (matrix : List (List K)) (row_indices : List ℕ) :
    (column_means matrix row_indices).length = (matrix.headD []).length := by
  rw [column_means, List.length_map, List.length_range]

/-- `np.argmax`, and `max(range(n), key=...)`: the first maximum. -/
def first_max (scores : List K) : ℕ :=
  ((List.range scores.length).argmax fun index => scores.getD index 0).getD 0

/-- `_rank_values`. -/
def rank_values (values : List K) : List ℕ :=
  let ordered_indices := (List.range values.length).insertionSort fun i j =>
    values.getD i 0 ≤ values.getD j 0
  write_all (List.replicate values.length 0) ordered_indices.zipIdx

/-- `np.argsort(np.argsort(values))`. -/
def np_ranking (np : Numpy K) (values : List K) : List ℕ := np.argsort_int (np.argsort values)

/-- The rows that are not in the train half. -/
def test_rows (partitions : ℕ) (train_rows : List ℕ) : List ℕ :=
  (List.range partitions).filter (· ∉ train_rows)

/-- The logit of a rank. -/
def rank_logit (math : PyLog K) (rank column_count : ℕ) : K :=
  let percentile := ((rank : K) + 1) / column_count
  let percentile := min (max percentile (1 / 10 ^ 9)) (1 - 1 / 10 ^ 9)
  math.log (percentile / (1 - percentile))

/-- The body of the loop: the selected model of a split and its logit. -/
def cscv_split (math : PyLog K) (rank : List K → List ℕ) (matrix : List (List K))
    (partitions : ℕ) (train_rows : List ℕ) : ℕ × K :=
  let train_scores := column_means matrix train_rows
  let test_scores := column_means matrix (test_rows partitions train_rows)
  let winner := first_max train_scores
  let ranking := rank test_scores
  (winner, rank_logit math (ranking.getD winner 0) test_scores.length)

/-- The loop over the splits and the report, for either way to rank. -/
def cscv_report (math : PyLog K) (rank : List K → List ℕ) (matrix : List (List K))
    (partitions : ℕ) : PboReport K :=
  let splits := (combinations (List.range partitions) (partitions / 2)).map
    (cscv_split math rank matrix partitions)
  let logits := splits.map Prod.snd
  { pbo := (logits.countP (· < 0) : K) / (max 1 logits.length : ℕ)
    logits := logits
    selected_models := splits.map Prod.fst }

/-- The checks on `S`. -/
def check_partitions (matrix : List (List K)) (S : ℤ) : Except String Unit := do
  require (2 ≤ S ∧ S % 2 = 0) "S must be an even integer greater than or equal to 2"
  require ((matrix.length : ℤ) = S)
    "perf_matrix row count must match S; silent truncation is not allowed"

/-- `_compute_cscv_pbo_pure_python`. -/
def compute_cscv_pbo_pure_python (math : PyLog K) (perf_matrix : List (List K)) (S : ℤ) :
    Except String (PboReport K) := do
  require (2 ≤ perf_matrix.length ∧ ∀ row ∈ perf_matrix, 2 ≤ row.length)
    "perf_matrix must be a 2D matrix with at least 2 rows and 2 columns"
  require (∀ row ∈ perf_matrix, row.length = (perf_matrix.headD []).length)
    "perf_matrix rows must all have the same length"
  check_partitions perf_matrix S
  return cscv_report math rank_values perf_matrix S.toNat

/-- `compute_cscv_pbo`; without numpy it is the pure one. -/
def compute_cscv_pbo (math : PyLog K) (np : Option (Numpy K)) (perf_matrix : List (List K))
    (S : ℤ) : Except String (PboReport K) :=
  match np with
  | none => compute_cscv_pbo_pure_python math perf_matrix S
  | some np => do
      -- `np.asarray` refuses rows of different lengths
      require (∀ row ∈ perf_matrix, row.length = (perf_matrix.headD []).length)
        "setting an array element with a sequence"
      require (2 ≤ perf_matrix.length ∧ 2 ≤ (perf_matrix.headD []).length)
        "perf_matrix must be a 2D matrix with at least 2 rows and 2 columns"
      check_partitions perf_matrix S
      return cscv_report math (np_ranking np) perf_matrix S.toNat

end Report

end ProofAlpha.Validation

/-! ## What the computed probability is -/

namespace ProofAlpha.Validation

open ProofAlpha.Lib
open ProofAlpha.Backtest (median)

section Pbo

variable {K : Type} [Field K] [LinearOrder K]

/-! ## Ranks and winners -/

theorem isRanking_rank_values (values : List K) : IsRanking values (rank_values values) := by
  refine (isArgsort_insertionSort values (fun i => values.getD i 0) ?_).isRanking_write_all
  intro i x hx
  rw [List.getD_eq_getElem?_getD, hx]
  rfl

omit [Field K] in
theorem isRanking_np_ranking (np : Numpy K) (values : List K) :
    IsRanking values (np_ranking np values) :=
  (np.isArgsort values).isRanking_argsort (np.isArgsort_int _)

/-- A place that holds a largest score. -/
def IsBest (scores : List K) (c : ℕ) : Prop := ∃ x, scores[c]? = some x ∧ ∀ y ∈ scores, y ≤ x

theorem first_max_isBest {scores : List K} (h : scores ≠ []) :
    IsBest scores (first_max scores) := by
  unfold first_max
  cases hc : (List.range scores.length).argmax fun index => scores.getD index 0 with
  | none =>
      rw [List.argmax_eq_none, List.range_eq_nil, List.length_eq_zero_iff] at hc
      exact absurd hc h
  | some c =>
      have hmem : c < scores.length := List.mem_range.mp (List.argmax_mem hc)
      rw [Option.getD_some]
      refine ⟨scores[c], List.getElem?_eq_getElem hmem, fun y hy => ?_⟩
      obtain ⟨i, hi, rfl⟩ := List.getElem_of_mem hy
      have hle := List.le_of_mem_argmax (List.mem_range.mpr hi) hc
      rwa [List.getD_eq_getElem _ _ hi, List.getD_eq_getElem _ _ hmem] at hle

omit [Field K] in
/-- Without ties there is one best column. -/
theorem IsBest.unique {scores : List K} (hnodup : scores.Nodup) {c c' : ℕ} (h : IsBest scores c)
    (h' : IsBest scores c') : c = c' := by
  obtain ⟨x, hx, hmax⟩ := h
  obtain ⟨y, hy, hmax'⟩ := h'
  have hxy : x = y :=
    le_antisymm (hmax' x (List.mem_of_getElem? hx)) (hmax y (List.mem_of_getElem? hy))
  obtain ⟨hc, hxc⟩ := List.getElem?_eq_some_iff.mp hx
  obtain ⟨hc', hyc⟩ := List.getElem?_eq_some_iff.mp hy
  exact (hnodup.getElem_inj_iff).mp (by rw [hxc, hyc, hxy])

variable [IsStrictOrderedRing K]

/-! ## The logit -/

/-- The logit is negative if fewer than half of the columns rank up to the winner. -/
theorem rank_logit_neg_iff (math : PyLog K) (rank : ℕ) {column_count : ℕ}
    (hcolumns : 0 < column_count) :
    rank_logit math rank column_count < 0 ↔ 2 * (rank + 1) < column_count := by
  unfold rank_logit
  dsimp only
  have hcount : (0 : K) < column_count := Nat.cast_pos.mpr hcolumns
  have htiny : (0 : K) < 1 / 10 ^ 9 := by positivity
  have hsmall : (1 : K) / 10 ^ 9 < 1 / 2 := by norm_num
  have hlow : (0 : K) < min (max (((rank : K) + 1) / column_count) (1 / 10 ^ 9)) (1 - 1 / 10 ^ 9) :=
    lt_min (lt_max_of_lt_right htiny) (by linarith)
  have hhigh : min (max (((rank : K) + 1) / column_count) (1 / 10 ^ 9)) (1 - 1 / 10 ^ 9) < 1 :=
    (min_le_right _ _).trans_lt (by linarith)
  generalize hp : min (max (((rank : K) + 1) / column_count) (1 / 10 ^ 9)) (1 - 1 / 10 ^ 9) = p at *
  have hodds : 0 < p / (1 - p) := div_pos hlow (sub_pos.mpr hhigh)
  rw [math.log_neg_iff _ hodds, div_lt_one (sub_pos.mpr hhigh)]
  have hhalf : p < 1 - p ↔ p < 1 / 2 := ⟨fun h => by linarith, fun h => by linarith⟩
  -- the clamp lies on either side of a half
  rw [hhalf, ← hp, min_lt_iff, or_iff_left (by linarith), max_lt_iff, and_iff_left hsmall,
    div_lt_div_iff₀ hcount two_pos]
  constructor
  · intro h
    have hcast : ((2 * (rank + 1) : ℕ) : K) < column_count := by
      push_cast
      linarith
    exact_mod_cast hcast
  · intro h
    have hcast : ((2 * (rank + 1) : ℕ) : K) < column_count := by exact_mod_cast h
    push_cast at hcast
    linarith

/-! ## The median -/

omit [IsStrictOrderedRing K] [Field K] in
/-- In a sorted list without ties an entry has as many smaller ones as its place says. -/
theorem countP_lt_of_sorted {values : List K} (hsorted : values.Pairwise (· < ·)) {j : ℕ} {x : K}
    (hx : values[j]? = some x) : values.countP (· < x) = j := by
  have hargsort : IsArgsort values (List.range values.length) := by
    refine ⟨List.Perm.refl _, List.pairwise_lt_range.imp ?_⟩
    intro i k hik y hy z hz
    obtain ⟨hi, rfl⟩ := List.getElem?_eq_some_iff.mp hy
    obtain ⟨hk, rfl⟩ := List.getElem?_eq_some_iff.mp hz
    exact (List.pairwise_iff_getElem.mp hsorted i k hi hk hik).le
  have hj : j < values.length := (List.getElem?_eq_some_iff.mp hx).1
  have hbounds := hargsort.rank_bounds hx
  have hone := countP_le_of_nodup (hsorted.imp ne_of_lt) x
  have hplace : (List.range values.length).idxOf j = j := by
    have hlength : j < (List.range values.length).length := by
      rw [List.length_range]
      exact hj
    have hget := List.nodup_range.idxOf_getElem j hlength
    rwa [List.getElem_range] at hget
  omega

omit [IsStrictOrderedRing K] [Field K] in
theorem sorted_lt_of_nodup {values : List K} (hnodup : values.Nodup) :
    (values.insertionSort (· ≤ ·)).Pairwise (· < ·) := by
  have hperm := List.perm_insertionSort (· ≤ ·) values
  exact ((List.pairwise_insertionSort (· ≤ ·) values).and (hperm.nodup_iff.mpr hnodup)).imp
    fun h => lt_of_le_of_ne h.1 h.2

/-- An entry is below the median if it and the smaller ones are at most half of all. -/
theorem lt_median_iff {values : List K} (hnodup : values.Nodup) {x : K} (hx : x ∈ values) :
    x < median values ↔ 2 * (values.countP (· < x) + 1) ≤ values.length := by
  have hperm := List.perm_insertionSort (· ≤ ·) values
  have hsorted := sorted_lt_of_nodup hnodup
  have hlength : (values.insertionSort (· ≤ ·)).length = values.length := hperm.length_eq
  obtain ⟨j, hj, hjx⟩ := List.getElem_of_mem (hperm.mem_iff.mpr hx)
  have hcount : values.countP (· < x) = j := by
    rw [← hperm.countP_eq]
    exact countP_lt_of_sorted hsorted (List.getElem?_eq_some_iff.mpr ⟨hj, hjx⟩)
  -- entries of the sorted list compare as their places do
  have hlt : ∀ i, i < values.length →
      (x < (values.insertionSort (· ≤ ·)).getD i 0 ↔ j < i)
        ∧ ((values.insertionSort (· ≤ ·)).getD i 0 < x ↔ i < j) := by
    intro i hi
    rw [← hlength] at hi
    rw [List.getD_eq_getElem _ _ hi, ← hjx]
    have hmono := List.pairwise_iff_getElem.mp hsorted
    constructor
    · constructor
      · intro h
        by_contra hle
        rcases (not_lt.mp hle).lt_or_eq with hij | hij
        · exact lt_asymm h (hmono i j hi hj hij)
        · subst hij
          exact lt_irrefl _ h
      · exact hmono j i hj hi
    · constructor
      · intro h
        by_contra hle
        rcases (not_lt.mp hle).lt_or_eq with hij | hij
        · exact lt_asymm h (hmono j i hj hi hij)
        · subst hij
          exact lt_irrefl _ h
      · exact hmono i j hi hj
  -- with `j` smaller entries, it is a matter of the place of the median
  rw [hcount]
  rw [hlength] at hj
  unfold median
  dsimp only
  by_cases hodd : values.length % 2 = 1
  · rw [if_pos hodd, (hlt _ (by omega)).1]
    omega
  · rw [if_neg hodd]
    -- the two middle entries
    by_cases hlow : j + 1 ≤ values.length / 2
    · have hfirst : x ≤ (values.insertionSort (· ≤ ·)).getD (values.length / 2 - 1) 0 := by
        by_contra hle
        have := (hlt (values.length / 2 - 1) (by omega)).2.mp (not_le.mp hle)
        omega
      have hsecond := (hlt (values.length / 2) (by omega)).1.mpr (by omega)
      refine iff_of_true ?_ (by omega)
      linarith
    · have hfirst := (hlt (values.length / 2 - 1) (by omega)).2.mpr (by omega)
      have hsecond : (values.insertionSort (· ≤ ·)).getD (values.length / 2) 0 ≤ x := by
        by_contra hle
        have := (hlt (values.length / 2) (by omega)).1.mp (not_le.mp hle)
        omega
      refine iff_of_false ?_ (by omega)
      linarith

/-! ## One split -/

/-- The winner of a split, the bounds of its rank and the sign of its logit. -/
theorem cscv_split_neg_iff (math : PyLog K) {rank : List K → List ℕ}
    (hrank : ∀ values, IsRanking values (rank values)) {matrix : List (List K)}
    (hcolumns : 0 < (matrix.headD []).length) (partitions : ℕ) (train_rows : List ℕ) :
    ∃ c x r, IsBest (column_means matrix train_rows) c
      ∧ (column_means matrix (test_rows partitions train_rows))[c]? = some x
      ∧ (column_means matrix (test_rows partitions train_rows)).countP (· < x) ≤ r
      ∧ r < (column_means matrix (test_rows partitions train_rows)).countP (· ≤ x)
      ∧ ((cscv_split math rank matrix partitions train_rows).2 < 0
        ↔ 2 * (r + 1) < (matrix.headD []).length) := by
  have hne : column_means matrix train_rows ≠ [] := by
    intro hnil
    have hlength := length_column_means matrix train_rows
    rw [hnil, List.length_nil] at hlength
    omega
  have hbest := first_max_isBest hne
  obtain ⟨y, hy, -⟩ := hbest
  -- the winner is a column of the other half too
  have hc : first_max (column_means matrix train_rows)
      < (column_means matrix (test_rows partitions train_rows)).length := by
    rw [length_column_means, ← length_column_means matrix train_rows]
    exact (List.getElem?_eq_some_iff.mp hy).1
  have hx := List.getElem?_eq_getElem hc
  obtain ⟨r, hr, hlow, hhigh⟩ := hrank _ _ _ hx
  refine ⟨_, _, r, first_max_isBest hne, hx, hlow, hhigh, ?_⟩
  rw [cscv_split]
  dsimp only
  rw [List.getD_eq_getElem?_getD, hr, Option.getD_some, length_column_means,
    rank_logit_neg_iff math r hcolumns]

/-- The halves of the rows to train on. -/
def train_sets (partitions : ℕ) : List (List ℕ) :=
  List.sublistsLen (partitions / 2) (List.range partitions)

theorem length_train_sets_pos (partitions : ℕ) : 0 < (train_sets partitions).length := by
  rw [train_sets, List.length_sublistsLen, List.length_range]
  exact Nat.choose_pos (Nat.div_le_self _ _)

omit [IsStrictOrderedRing K] in
/-- The reported probability is a fraction of the splits. -/
theorem cscv_report_pbo (math : PyLog K) (rank : List K → List ℕ) (matrix : List (List K))
    (partitions : ℕ) :
    (cscv_report math rank matrix partitions).pbo
      = ((train_sets partitions).countP fun train_rows =>
          (cscv_split math rank matrix partitions train_rows).2 < 0 : ℕ)
        / ((train_sets partitions).length : K) := by
  -- the order in which the splits are counted does not matter
  have hperm := combinations_perm (List.range partitions) (partitions / 2)
  have hpos := length_train_sets_pos partitions
  rw [cscv_report]
  dsimp only
  rw [List.map_map, List.countP_map, List.length_map, hperm.length_eq, hperm.countP_eq,
    ← train_sets, max_eq_right hpos]
  rfl

/-! ## The definition -/

/-- Whether the best column in sample is below the median out of sample. -/
def below_median (train_scores test_scores : List K) : Bool :=
  (List.range train_scores.length).any fun c =>
    (∀ y ∈ train_scores, y ≤ train_scores.getD c 0) ∧ test_scores.getD c 0 < median test_scores

/-- The fraction of the splits in which the best column in sample is below the median out
of sample. -/
def pbo_fraction (matrix : List (List K)) (partitions : ℕ) : K :=
  ((train_sets partitions).countP fun train_rows =>
      below_median (column_means matrix train_rows)
        (column_means matrix (test_rows partitions train_rows)) : ℕ)
    / ((train_sets partitions).length : K)

/-- No two columns have one mean on either half of a split. -/
def NoTies (matrix : List (List K)) (partitions : ℕ) : Prop :=
  ∀ train_rows ∈ train_sets partitions, (column_means matrix train_rows).Nodup
    ∧ (column_means matrix (test_rows partitions train_rows)).Nodup

instance (matrix : List (List K)) (partitions : ℕ) : Decidable (NoTies matrix partitions) :=
  inferInstanceAs (Decidable (∀ train_rows ∈ train_sets partitions, _ ∧ _))

/-- The best column in sample is the lower of two middle ones out of sample. -/
def LowerMiddle (train_scores test_scores : List K) : Prop :=
  ∃ c x, IsBest train_scores c ∧ test_scores[c]? = some x
    ∧ 2 * (test_scores.countP (· < x) + 1) = test_scores.length

omit [IsStrictOrderedRing K] in
theorem below_median_iff {train_scores test_scores : List K} (hnodup : train_scores.Nodup)
    {c : ℕ} {x : K} (hbest : IsBest train_scores c) (hx : test_scores[c]? = some x) :
    below_median train_scores test_scores = true ↔ x < median test_scores := by
  have hx' : test_scores.getD c 0 = x := by rw [List.getD_eq_getElem?_getD, hx, Option.getD_some]
  rw [below_median, List.any_eq_true]
  constructor
  · rintro ⟨c', hc', h⟩
    rw [List.mem_range] at hc'
    rw [decide_eq_true_iff, List.getD_eq_getElem _ _ hc'] at h
    have hbest' : IsBest train_scores c' := ⟨_, List.getElem?_eq_getElem hc', h.1⟩
    obtain ⟨-, hmedian⟩ := h
    rw [← hbest.unique hnodup hbest', hx'] at hmedian
    exact hmedian
  · intro hlt
    obtain ⟨y, hy, hmax⟩ := hbest
    obtain ⟨hc, rfl⟩ := List.getElem?_eq_some_iff.mp hy
    refine ⟨c, List.mem_range.mpr hc, ?_⟩
    rw [decide_eq_true_iff, hx', List.getD_eq_getElem _ _ hc]
    exact ⟨hmax, hlt⟩

/-- Two counts of which one counts less are equal if they count the same. -/
theorem countP_eq_iff_of_imp {α : Type} {p q : α → Bool} {xs : List α}
    (himp : ∀ x ∈ xs, p x = true → q x = true) :
    xs.countP p = xs.countP q ↔ ∀ x ∈ xs, q x = true → p x = true := by
  induction xs with
  | nil => simp
  | cons x rest ih =>
      have ih := ih fun y hy => himp y (List.mem_cons_of_mem x hy)
      have hmono : rest.countP p ≤ rest.countP q :=
        List.countP_mono_left fun y hy => himp y (List.mem_cons_of_mem x hy)
      rw [List.countP_cons, List.countP_cons, List.forall_mem_cons]
      by_cases hq : q x = true
      · by_cases hp : p x = true
        · rw [if_pos hp, if_pos hq, Nat.add_right_cancel_iff, ih, and_iff_right fun _ => hp]
        · rw [if_neg hp, if_pos hq]
          refine iff_of_false (by omega) fun h => hp (h.1 hq)
      · have hp : ¬ p x = true := fun h => hq (himp x (List.mem_cons_self ..) h)
        rw [if_neg hp, if_neg hq, Nat.add_right_cancel_iff, ih, and_iff_right fun h => absurd h hq]

/-- How the code ranks. -/
def ranking_of (np : Option (Numpy K)) : List K → List ℕ :=
  match np with
  | none => rank_values
  | some np => np_ranking np

omit [IsStrictOrderedRing K] in
theorem isRanking_ranking_of (np : Option (Numpy K)) (values : List K) :
    IsRanking values (ranking_of np values) := by
  cases np with
  | none => exact isRanking_rank_values values
  | some np => exact isRanking_np_ranking np values

/-- The matrices that pass the checks: a row for each of the parts, of which there is an
even number, and at least two columns. -/
structure WellShaped (matrix : List (List K)) (S : ℤ) : Prop where
  columns : 2 ≤ (matrix.headD []).length
  rectangular : ∀ row ∈ matrix, row.length = (matrix.headD []).length
  two : 2 ≤ S
  even : S % 2 = 0
  rows : (matrix.length : ℤ) = S

omit [IsStrictOrderedRing K] in
/-- A report is returned exactly for the matrices that pass the checks. -/
theorem compute_cscv_pbo_ok_iff (math : PyLog K) (np : Option (Numpy K))
    {perf_matrix : List (List K)} {S : ℤ} {report : PboReport K} :
    compute_cscv_pbo math np perf_matrix S = .ok report
      ↔ WellShaped perf_matrix S
        ∧ report = cscv_report math (ranking_of np) perf_matrix S.toNat := by
  have hparts : ∀ rank : List K → List ℕ,
      (check_partitions perf_matrix S >>= fun _ =>
          (Except.ok (cscv_report math rank perf_matrix S.toNat) : Except String (PboReport K)))
          = .ok report
        ↔ ((2 ≤ S ∧ S % 2 = 0) ∧ (perf_matrix.length : ℤ) = S)
          ∧ report = cscv_report math rank perf_matrix S.toNat := by
    intro rank
    unfold check_partitions
    rw [bind_assoc, require_bind_eq_ok, require_bind_eq_ok, decide_eq_true_iff, decide_eq_true_iff,
      Except.ok.injEq, eq_comm (a := report)]
    exact and_assoc.symm
  cases np with
  | none =>
      unfold compute_cscv_pbo compute_cscv_pbo_pure_python
      dsimp only
      rw [require_bind_eq_ok, require_bind_eq_ok, decide_eq_true_iff, decide_eq_true_iff]
      refine (and_congr_right fun _ => and_congr_right fun _ => hparts rank_values).trans ?_
      constructor
      · rintro ⟨⟨htwo, hall⟩, hrect, ⟨⟨hS, heven⟩, hrows⟩, hreport⟩
        cases perf_matrix with
        | nil => exact absurd htwo (by simp)
        | cons row rest => exact ⟨⟨hall row List.mem_cons_self, hrect, hS, heven, hrows⟩, hreport⟩
      · rintro ⟨⟨hcolumns, hrect, hS, heven, hrows⟩, hreport⟩
        have htwo : 2 ≤ perf_matrix.length := by omega
        exact ⟨⟨htwo, fun row hrow => by rw [hrect row hrow]; exact hcolumns⟩, hrect,
          ⟨⟨hS, heven⟩, hrows⟩, hreport⟩
  | some np =>
      unfold compute_cscv_pbo
      dsimp only
      rw [require_bind_eq_ok, require_bind_eq_ok, decide_eq_true_iff, decide_eq_true_iff]
      refine (and_congr_right fun _ => and_congr_right fun _ => hparts (np_ranking np)).trans ?_
      constructor
      · rintro ⟨hrect, ⟨-, hcolumns⟩, ⟨⟨hS, heven⟩, hrows⟩, hreport⟩
        exact ⟨⟨hcolumns, hrect, hS, heven, hrows⟩, hreport⟩
      · rintro ⟨⟨hcolumns, hrect, hS, heven, hrows⟩, hreport⟩
        have htwo : 2 ≤ perf_matrix.length := by omega
        exact ⟨hrect, ⟨htwo, hcolumns⟩, ⟨⟨hS, heven⟩, hrows⟩, hreport⟩

/-! ## The two fractions -/

omit [Field K] [IsStrictOrderedRing K] in
theorem LowerMiddle.even {train_scores test_scores : List K}
    (h : LowerMiddle train_scores test_scores) : test_scores.length % 2 = 0 := by
  obtain ⟨c, x, -, -, hmiddle⟩ := h
  omega

/-- On a split without ties the definition counts what the code counts, and the winner that
is the lower of two middle columns, which the code leaves out. -/
theorem below_median_split (math : PyLog K) {rank : List K → List ℕ}
    (hrank : ∀ values, IsRanking values (rank values)) {matrix : List (List K)}
    (hcolumns : 0 < (matrix.headD []).length) {partitions : ℕ} {train_rows : List ℕ}
    (htrain : (column_means matrix train_rows).Nodup)
    (htest : (column_means matrix (test_rows partitions train_rows)).Nodup) :
    (below_median (column_means matrix train_rows)
        (column_means matrix (test_rows partitions train_rows)) = true
      ↔ (cscv_split math rank matrix partitions train_rows).2 < 0
        ∨ LowerMiddle (column_means matrix train_rows)
            (column_means matrix (test_rows partitions train_rows)))
    ∧ ((cscv_split math rank matrix partitions train_rows).2 < 0 →
        ¬ LowerMiddle (column_means matrix train_rows)
            (column_means matrix (test_rows partitions train_rows))) := by
  obtain ⟨c, x, r, hbest, hx, hlow, hhigh, hneg⟩ :=
    cscv_split_neg_iff math hrank hcolumns partitions train_rows
  have hone := countP_le_of_nodup htest x
  have hr : r = (column_means matrix (test_rows partitions train_rows)).countP (· < x) := by omega
  have hlength := length_column_means matrix (test_rows partitions train_rows)
  -- the winner is the only one that can be the lower middle
  have hmiddle : LowerMiddle (column_means matrix train_rows)
        (column_means matrix (test_rows partitions train_rows))
      ↔ 2 * (r + 1) = (matrix.headD []).length := by
    constructor
    · rintro ⟨c', x', hbest', hx', hmiddle⟩
      rw [hbest'.unique htrain hbest, hx, Option.some_inj] at hx'
      rw [hr, hx', hmiddle, hlength]
    · intro hmiddle
      exact ⟨c, x, hbest, hx, by rw [← hr, hmiddle, hlength]⟩
  rw [below_median_iff htrain hbest hx, lt_median_iff htest (List.mem_of_getElem? hx), ← hr,
    hlength, hneg, hmiddle]
  constructor
  · omega
  · omega

/-- The reported probability is the fraction of the definition if and only if no split has
a winner that is the lower of two middle columns; with an odd number of columns there is
none. -/
theorem pbo_eq_fraction_iff (math : PyLog K) (np : Option (Numpy K)) {perf_matrix : List (List K)}
    {S : ℤ} (hshape : WellShaped perf_matrix S) (hties : NoTies perf_matrix S.toNat) :
    ∃ report, compute_cscv_pbo math np perf_matrix S = .ok report
      ∧ (report.pbo = pbo_fraction perf_matrix S.toNat
        ↔ Odd (perf_matrix.headD []).length
          ∨ ∀ train_rows ∈ train_sets S.toNat,
            ¬ LowerMiddle (column_means perf_matrix train_rows)
              (column_means perf_matrix (test_rows S.toNat train_rows))) := by
  refine ⟨_, (compute_cscv_pbo_ok_iff math np).mpr ⟨hshape, rfl⟩, ?_⟩
  have hcolumns : 0 < (perf_matrix.headD []).length := lt_of_lt_of_le two_pos hshape.columns
  have hsplits : ((train_sets S.toNat).length : K) ≠ 0 :=
    (Nat.cast_pos.mpr (length_train_sets_pos S.toNat)).ne'
  have hsplit := fun train_rows (hmem : train_rows ∈ train_sets S.toNat) =>
    below_median_split math (isRanking_ranking_of np) hcolumns (hties train_rows hmem).1
      (hties train_rows hmem).2
  -- the counts agree if the definition counts no split that the code does not count
  rw [cscv_report_pbo, pbo_fraction, div_left_inj' hsplits, Nat.cast_inj,
    countP_eq_iff_of_imp fun train_rows hmem hneg =>
      (hsplit train_rows hmem).1.mpr (.inl (of_decide_eq_true hneg))]
  constructor
  · intro hsame
    refine .inr fun train_rows hmem hmiddle => ?_
    have hneg := hsame train_rows hmem ((hsplit train_rows hmem).1.mpr (.inr hmiddle))
    exact (hsplit train_rows hmem).2 (of_decide_eq_true hneg) hmiddle
  · intro hnone train_rows hmem hbelow
    have hnot : ¬ LowerMiddle (column_means perf_matrix train_rows)
        (column_means perf_matrix (test_rows S.toNat train_rows)) := by
      rcases hnone with hodd | hnone
      · intro hmiddle
        have heven := hmiddle.even
        rw [length_column_means] at heven
        rw [Nat.odd_iff] at hodd
        omega
      · exact hnone train_rows hmem
    exact decide_eq_true (((hsplit train_rows hmem).1.mp hbelow).resolve_right hnot)

end Pbo

/-- Three columns: the winner of the first split is below the median, that of the second
is the median. -/
theorem pbo_eq_fraction_three_columns :
    ∃ report, compute_cscv_pbo PyLog.rat none [[1, 2, 3], [2, 5, 1]] 2 = .ok report
      ∧ report.pbo = pbo_fraction [[1, 2, 3], [2, 5, 1]] 2
      ∧ pbo_fraction ([[1, 2, 3], [2, 5, 1]] : List (List ℚ)) 2 = 1 / 2 := by
  have hshape : WellShaped ([[1, 2, 3], [2, 5, 1]] : List (List ℚ)) 2 :=
    ⟨by decide, by decide, by decide, by decide, by decide⟩
  obtain ⟨report, hreport, hpbo⟩ := pbo_eq_fraction_iff PyLog.rat none hshape (by decide +kernel)
  exact ⟨report, hreport, hpbo.mpr (.inl (by decide)), by decide +kernel⟩

/-- Four columns: the winner of the first split is the second from below of the other half,
below the median of 5/2, and is not counted. -/
theorem pbo_misses_lower_middle :
    WellShaped ([[4, 1, 2, 3], [2, 1, 3, 4]] : List (List ℚ)) 2
      ∧ NoTies ([[4, 1, 2, 3], [2, 1, 3, 4]] : List (List ℚ)) 2
      ∧ (compute_cscv_pbo PyLog.rat none [[4, 1, 2, 3], [2, 1, 3, 4]] 2).map PboReport.pbo = .ok 0
      ∧ pbo_fraction ([[4, 1, 2, 3], [2, 1, 3, 4]] : List (List ℚ)) 2 = 1 / 2 :=
  ⟨⟨by decide, by decide, by decide, by decide, by decide⟩, by decide +kernel, by decide +kernel,
    by decide +kernel⟩

end ProofAlpha.Validation
