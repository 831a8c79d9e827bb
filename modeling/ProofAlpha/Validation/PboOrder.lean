/-
The probability of backtest overfitting and the order of the candidates.

Of several columns that are best in sample the first one wins, and ties out of
sample are ranked as the sort leaves them, so the order of the columns can decide a
split. Where it does not, since every column that could win falls on the same side
however the ties are ranked, the probability is the same for every order
(`pbo_permute_columns`).
-/
import ProofAlpha.Validation.Overfitting

set_option autoImplicit false

namespace ProofAlpha.Validation

open ProofAlpha.Lib

section Order

variable {K : Type} [Field K] [LinearOrder K]

/-- The mean of each candidate in sample and out of sample. -/
def split_pairs (matrix : List (List K)) (partitions : ℕ) (train_rows : List ℕ) : List (K × K) :=
  (column_means matrix train_rows).zip (column_means matrix (test_rows partitions train_rows))

/-- However ties are broken, the winner ranks in the lower half: so it is for every
candidate that is best in sample, ranked last among those that it ties with. -/
def SurelyOverfit (pairs : List (K × K)) : Prop :=
  ∀ p ∈ pairs, (∀ q ∈ pairs, q.1 ≤ p.1) → 2 * pairs.countP (fun q => q.2 ≤ p.2) < pairs.length

/-- However ties are broken, the winner does not rank in the lower half: so it is for every
candidate that is best in sample, ranked first among those that it ties with. -/
def SurelyFit (pairs : List (K × K)) : Prop :=
  ∀ p ∈ pairs, (∀ q ∈ pairs, q.1 ≤ p.1) →
    pairs.length ≤ 2 * (pairs.countP (fun q => q.2 < p.2) + 1)

/-- Ties decide no split. -/
def TieFree (matrix : List (List K)) (partitions : ℕ) : Prop :=
  ∀ train_rows ∈ train_sets partitions, SurelyOverfit (split_pairs matrix partitions train_rows)
    ∨ SurelyFit (split_pairs matrix partitions train_rows)

/-- The matrix with its columns in another order. -/
def permute_columns (order : List ℕ) (matrix : List (List K)) : List (List K) :=
  matrix.map fun row => order.map fun column_index => row.getD column_index 0

instance (pairs : List (K × K)) : Decidable (SurelyOverfit pairs) :=
  inferInstanceAs (Decidable (∀ p ∈ pairs, _ → _))

instance (pairs : List (K × K)) : Decidable (SurelyFit pairs) :=
  inferInstanceAs (Decidable (∀ p ∈ pairs, _ → _))

instance (matrix : List (List K)) (partitions : ℕ) : Decidable (TieFree matrix partitions) :=
  inferInstanceAs (Decidable (∀ train_rows ∈ train_sets partitions, _ ∨ _))

/-! ## The order of the candidates -/

omit [Field K] in
theorem SurelyOverfit.perm {xs ys : List (K × K)} (h : SurelyOverfit xs) (hperm : xs.Perm ys) :
    SurelyOverfit ys := by
  intro p hp hbest
  rw [← hperm.countP_eq, ← hperm.length_eq]
  exact h p (hperm.mem_iff.mpr hp) fun q hq => hbest q (hperm.mem_iff.mp hq)

omit [Field K] in
theorem SurelyFit.perm {xs ys : List (K × K)} (h : SurelyFit xs) (hperm : xs.Perm ys) :
    SurelyFit ys := by
  intro p hp hbest
  rw [← hperm.countP_eq, ← hperm.length_eq]
  exact h p (hperm.mem_iff.mpr hp) fun q hq => hbest q (hperm.mem_iff.mp hq)

/-- The mean of one column. -/
def column_mean (matrix : List (List K)) (row_indices : List ℕ) (column_index : ℕ) : K :=
  (row_indices.map fun row_index => (matrix.getD row_index []).getD column_index 0).sum
    / row_indices.length

omit [LinearOrder K] in
/-- The columns of the permuted matrix are those of the matrix. -/
theorem column_mean_permute_columns (order : List ℕ) (matrix : List (List K))
    (row_indices : List ℕ) {k : ℕ} (hk : k < order.length) :
    column_mean (permute_columns order matrix) row_indices k
      = column_mean matrix row_indices (order[k]) := by
  unfold column_mean
  congr 3
  funext row_index
  simp only [permute_columns, List.getD_eq_getElem?_getD, List.getElem?_map]
  cases matrix[row_index]? with
  | none => simp
  | some row => simp [hk]

omit [LinearOrder K] in
theorem column_means_permute_columns {order : List ℕ} {matrix : List (List K)}
    (hne : matrix ≠ []) (row_indices : List ℕ) :
    column_means (permute_columns order matrix) row_indices
      = order.map (column_mean matrix row_indices) := by
  have hhead : ((permute_columns order matrix).headD []).length = order.length := by
    cases matrix with
    | nil => exact absurd rfl hne
    | cons row rest => rw [permute_columns, List.map_cons, List.headD_cons, List.length_map]
  refine List.ext_getElem ?_ fun k hk hk' => ?_
  · rw [length_column_means, hhead, List.length_map]
  · rw [List.length_map] at hk'
    rw [List.getElem_map, ← column_mean_permute_columns order matrix row_indices hk']
    simp [column_means, column_mean]

omit [LinearOrder K] in
/-- A split of the permuted matrix has the same candidates. -/
theorem split_pairs_permute_columns {order : List ℕ} {matrix : List (List K)}
    (hne : matrix ≠ []) (horder : order.Perm (List.range (matrix.headD []).length))
    (partitions : ℕ) (train_rows : List ℕ) :
    (split_pairs matrix partitions train_rows).Perm
      (split_pairs (permute_columns order matrix) partitions train_rows) := by
  have hmeans : ∀ rows, column_means matrix rows
      = (List.range (matrix.headD []).length).map (column_mean matrix rows) := fun _ => rfl
  rw [split_pairs, split_pairs, column_means_permute_columns hne, column_means_permute_columns hne,
    hmeans, hmeans, List.zip_map', List.zip_map']
  exact (horder.map _).symm

omit [LinearOrder K] in
theorem WellShaped.permute_columns {order : List ℕ} {matrix : List (List K)} {S : ℤ}
    (h : WellShaped matrix S) (horder : order.Perm (List.range (matrix.headD []).length)) :
    WellShaped (permute_columns order matrix) S := by
  have hlength : order.length = (matrix.headD []).length := by
    rw [horder.length_eq, List.length_range]
  have hrow : ∀ row ∈ Validation.permute_columns order matrix,
      row.length = (matrix.headD []).length := by
    intro row hrow
    obtain ⟨_, -, rfl⟩ := List.mem_map.mp hrow
    rw [List.length_map, hlength]
  have hhead : ((Validation.permute_columns order matrix).headD []).length
      = (matrix.headD []).length := by
    cases matrix with
    | nil => rfl
    | cons row rest =>
        exact hrow _ (by rw [Validation.permute_columns, List.map_cons]; exact List.mem_cons_self)
  refine ⟨?_, ?_, h.two, h.even, ?_⟩
  · rw [hhead]
    exact h.columns
  · intro row hmem
    rw [hhead]
    exact hrow row hmem
  · rw [Validation.permute_columns, List.length_map]
    exact h.rows

variable [IsStrictOrderedRing K]

/-! ## One split -/

/-- Where ties do not decide a split, its logit has the sign that the means give it. -/
theorem cscv_split_neg_of_surely (math : PyLog K) {rank : List K → List ℕ}
    (hrank : ∀ values, IsRanking values (rank values)) {matrix : List (List K)}
    (hcolumns : 0 < (matrix.headD []).length) {partitions : ℕ} {train_rows : List ℕ} :
    (SurelyOverfit (split_pairs matrix partitions train_rows) →
      (cscv_split math rank matrix partitions train_rows).2 < 0)
    ∧ (SurelyFit (split_pairs matrix partitions train_rows) →
      ¬ (cscv_split math rank matrix partitions train_rows).2 < 0) := by
  obtain ⟨c, x, r, ⟨best, hbest, hmax⟩, hx, hlow, hhigh, hneg⟩ :=
    cscv_split_neg_iff math hrank hcolumns partitions train_rows
  have hlength := length_column_means matrix
  have hpairs : (split_pairs matrix partitions train_rows).length = (matrix.headD []).length := by
    rw [split_pairs, List.length_zip, hlength, hlength, min_self]
  -- the winner is one of the candidates, and best in sample
  have hmem : (best, x) ∈ split_pairs matrix partitions train_rows := by
    refine List.mem_of_getElem? (i := c) ?_
    rw [split_pairs, List.getElem?_zip_eq_some]
    exact ⟨hbest, hx⟩
  have hfirst : ∀ q ∈ split_pairs matrix partitions train_rows, q.1 ≤ best :=
    fun q hq => hmax q.1 (List.of_mem_zip hq).1
  -- out of sample the candidates have the means of the columns
  have hcount : ∀ p : K → Bool, (split_pairs matrix partitions train_rows).countP (fun q => p q.2)
      = (column_means matrix (test_rows partitions train_rows)).countP p := by
    intro p
    have hsnd : (split_pairs matrix partitions train_rows).map Prod.snd
        = column_means matrix (test_rows partitions train_rows) :=
      List.map_snd_zip (by rw [hlength, hlength])
    rw [← hsnd, List.countP_map]
    rfl
  rw [hneg]
  constructor
  · intro hover
    have hover := hover _ hmem hfirst
    rw [hcount fun y => y ≤ x, hpairs] at hover
    omega
  · intro hfit
    have hfit := hfit _ hmem hfirst
    rw [hcount fun y => y < x, hpairs] at hfit
    omega

/-! ## Two orders -/

/-- Where ties decide no split, the order of the candidates does not matter. -/
theorem pbo_permute_columns (math : PyLog K) (np : Option (Numpy K)) {perf_matrix : List (List K)}
    {S : ℤ} {report : PboReport K} {order : List ℕ}
    (hreport : compute_cscv_pbo math np perf_matrix S = .ok report)
    (horder : order.Perm (List.range (perf_matrix.headD []).length))
    (hties : TieFree perf_matrix S.toNat) :
    (compute_cscv_pbo math np (permute_columns order perf_matrix) S).map PboReport.pbo
      = .ok report.pbo := by
  obtain ⟨hshape, rfl⟩ := (compute_cscv_pbo_ok_iff math np).mp hreport
  have hshape' := hshape.permute_columns horder
  have hne : perf_matrix ≠ [] := by
    intro hnil
    have hcolumns := hshape.columns
    rw [hnil, List.headD_nil, List.length_nil] at hcolumns
    omega
  have hcolumns : 0 < (perf_matrix.headD []).length := lt_of_lt_of_le two_pos hshape.columns
  have hcolumns' := lt_of_lt_of_le two_pos hshape'.columns
  rw [(compute_cscv_pbo_ok_iff math np).mpr ⟨hshape', rfl⟩]
  refine congrArg Except.ok ?_
  rw [cscv_report_pbo, cscv_report_pbo]
  congr 2
  -- each split has the sign that the candidates give it, in either order
  refine List.countP_congr fun train_rows hmem => ?_
  have hperm := split_pairs_permute_columns hne horder S.toNat train_rows
  have hrank := isRanking_ranking_of np
  rw [decide_eq_true_iff, decide_eq_true_iff]
  rcases hties train_rows hmem with hover | hfit
  · exact iff_of_true ((cscv_split_neg_of_surely math hrank hcolumns').1 (hover.perm hperm))
      ((cscv_split_neg_of_surely math hrank hcolumns).1 hover)
  · exact iff_of_false ((cscv_split_neg_of_surely math hrank hcolumns').2 (hfit.perm hperm))
      ((cscv_split_neg_of_surely math hrank hcolumns).2 hfit)

end Order

/-- The first two candidates tie in sample on the first split, and are in the lower half out
of sample; on the second split the last one wins, and is in the middle. -/
theorem pbo_permute_columns_tied_winners :
    (compute_cscv_pbo PyLog.rat none
        (permute_columns [4, 1, 0, 2, 3] [[5, 5, 1, 2, 3], [0, 0, 1, 2, 3]]) 2).map PboReport.pbo
      = .ok (1 / 2) := by
  have hrun : (compute_cscv_pbo PyLog.rat none [[5, 5, 1, 2, 3], [0, 0, 1, 2, 3]] 2).map
      PboReport.pbo = .ok (1 / 2) := by
    decide +kernel
  obtain ⟨report, hreport, hpbo⟩ := map_ok hrun
  rw [← hpbo]
  exact pbo_permute_columns PyLog.rat none hreport (by decide +kernel) (by decide +kernel)

/-- The first two candidates tie in sample on the first split, the first is the worst out of
sample and the second the best: who comes first decides. -/
theorem pbo_depends_on_order :
    ([1, 0, 2] : List ℕ).Perm (List.range 3)
      ∧ (compute_cscv_pbo PyLog.rat none [[1, 1, 0], [0, 2, 1]] 2).map PboReport.pbo = .ok (1 / 2)
      ∧ (compute_cscv_pbo PyLog.rat none
          (permute_columns [1, 0, 2] [[1, 1, 0], [0, 2, 1]]) 2).map PboReport.pbo = .ok 0 :=
  ⟨by decide, by decide +kernel, by decide +kernel⟩

end ProofAlpha.Validation
