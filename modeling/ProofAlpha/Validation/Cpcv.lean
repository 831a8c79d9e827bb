/-
Combinatorial purged cross-validation: `build_cpcv_path_metrics` of `validation/cpcv.py`.

A path is a choice of test blocks, and its score the mean of theirs. Every block has a part in as
many paths, so the mean of the path scores is that of the blocks, and the order of the blocks
tells nothing. The tenth percentile and the median are read off the sorted scores.
-/
import Mathlib.Algebra.Order.Floor.Ring
import Mathlib.Data.Multiset.Powerset
import Mathlib.Tactic.FieldSimp
import ProofAlpha.Validation.Overfitting

set_option autoImplicit false

namespace ProofAlpha.Validation

open ProofAlpha.Lib
open ProofAlpha.Backtest (median)

/-! ## Subsets of one size -/

section Subsets

variable {M : Type*} [AddCommMonoid M]

/-- Summed over the subsets of one size, every item counts as often as the others can be
chosen. -/
theorem sum_powersetCard_cons (k : ℕ) (a : M) (s : Multiset M) :
    ((Multiset.powersetCard (k + 1) (a ::ₘ s)).map Multiset.sum).sum
      = s.card.choose k • (a ::ₘ s).sum := by
  induction s using Multiset.induction generalizing k a with
  | empty =>
      rw [Multiset.powersetCard_cons]
      cases k <;> simp [Multiset.powersetCard_zero_right]
  | cons b s ih =>
      -- a subset has `a` or has not
      have hwith : ((Multiset.powersetCard k (b ::ₘ s)).map fun t => (a ::ₘ t).sum).sum
          = (b ::ₘ s).card.choose k • a
            + ((Multiset.powersetCard k (b ::ₘ s)).map Multiset.sum).sum := by
        simp only [Multiset.sum_cons, Multiset.sum_map_add, Multiset.map_const',
          Multiset.sum_replicate, Multiset.card_powersetCard]
      rw [Multiset.powersetCard_cons, Multiset.map_add, Multiset.sum_add, ih, Multiset.map_map]
      simp only [Function.comp_def]
      rw [hwith, Multiset.sum_cons a]
      cases k with
      | zero => simp [add_comm]
      | succ k =>
          rw [ih, Multiset.card_cons, Nat.choose_succ_succ, Nat.succ_eq_add_one]
          simp only [nsmul_add, add_nsmul]
          abel

end Subsets

section Cpcv

variable {K : Type} [Field K] [LinearOrder K]

/-! ## The code -/

/-- `_sharpe_like`. -/
def sharpe_like (m : PyMath K) (values : List K) : K :=
  if values.length < 2 then 0
  else
    let mean_value := values.sum / values.length
    let variance := (values.map fun value => (value - mean_value) ^ 2).sum
      / ((values.length : K) - 1)
    if variance ≤ 0 then 0 else mean_value / m.pow variance 0.5

/-- `_quantile`. -/
def sorted_quantile [FloorRing K] (sorted_values : List K) (q : K) : K :=
  match sorted_values with
  | [] => 0
  | [value] => value
  | _ =>
      let rank := min (max q 0) 1 * ((sorted_values.length : K) - 1)
      let lower := ⌊rank⌋.toNat
      let upper := min (lower + 1) (sorted_values.length - 1)
      let frac := rank - lower
      sorted_values.getD lower 0 * (1 - frac) + sorted_values.getD upper 0 * frac

/-- The scores of the paths, as the loop appends them. -/
def cpcv_path_scores (block_scores : List K) (n_blocks n_test_blocks : ℕ) : List K :=
  (combinations (List.range n_blocks) n_test_blocks).map fun combo =>
    let combo_scores := combo.map fun index => block_scores.getD index 0
    combo_scores.sum / combo_scores.length

/-- The dict of `build_cpcv_path_metrics`. -/
structure CpcvPathMetrics (K : Type) where
  n_blocks : ℤ
  n_test_blocks : ℤ
  path_count : ℕ
  path_sharpes : List K
  median_sharpe : K
  p10_sharpe : K

/-- `build_cpcv_path_metrics`. -/
def build_cpcv_path_metrics [FloorRing K] (m : PyMath K) (fold_returns : List (List K))
    (n_blocks n_test_blocks : ℤ) : Except String (CpcvPathMetrics K) := do
  require (decide (8 ≤ n_blocks ∧ n_blocks ≤ 16)) "n_blocks must be in the v3 range [8, 16]"
  require (decide (n_test_blocks = 2 ∨ n_test_blocks = 3)) "n_test_blocks must be 2 or 3"
  require (decide ((fold_returns.length : ℤ) = n_blocks)) "fold_returns length must match n_blocks"
  let block_scores := fold_returns.map (sharpe_like m)
  let path_scores := (cpcv_path_scores block_scores n_blocks.toNat
    n_test_blocks.toNat).insertionSort (· ≤ ·)
  return {
    n_blocks := n_blocks
    n_test_blocks := n_test_blocks
    path_count := path_scores.length
    path_sharpes := path_scores
    median_sharpe := if path_scores = [] then 0 else median path_scores
    p10_sharpe := sorted_quantile path_scores 0.10 }

/-! ## The paths -/

/-- The mean of a collection. -/
def multiset_mean (s : Multiset K) : K := s.sum / s.card

omit [LinearOrder K] in
theorem cpcv_path_scores_coe (block_scores : List K) (n_test_blocks : ℕ) :
    (cpcv_path_scores block_scores block_scores.length n_test_blocks : Multiset K)
      = (Multiset.powersetCard n_test_blocks (block_scores : Multiset K)).map multiset_mean := by
  have hblocks : (List.range block_scores.length).map (fun index => block_scores.getD index 0)
      = block_scores := by
    refine List.ext_getElem (by simp) fun i hi hi' => ?_
    simp [List.getElem?_eq_getElem hi']
  have hsubsets : Multiset.powersetCard n_test_blocks (block_scores : Multiset K)
      = (Multiset.powersetCard n_test_blocks (List.range block_scores.length : Multiset ℕ)).map
          (Multiset.map fun index => block_scores.getD index 0) := by
    rw [← Multiset.powersetCard_map, Multiset.map_coe, hblocks]
  rw [hsubsets, Multiset.powersetCard_coe, Multiset.map_coe, Multiset.map_coe, List.map_map,
    List.map_map, Multiset.coe_eq_coe]
  exact (combinations_perm _ _).map _

variable [IsStrictOrderedRing K]

/-- The mean of the path scores is the mean of the block scores. -/
theorem sum_cpcv_path_scores (block_scores : List K) {n_test_blocks : ℕ} (hpos : 0 < n_test_blocks)
    (hle : n_test_blocks ≤ block_scores.length) :
    (cpcv_path_scores block_scores block_scores.length n_test_blocks).sum
        / (block_scores.length.choose n_test_blocks : ℕ)
      = block_scores.sum / block_scores.length := by
  obtain ⟨k, rfl⟩ : ∃ k, n_test_blocks = k + 1 := ⟨n_test_blocks - 1, by omega⟩
  cases block_scores with
  | nil => simp at hle
  | cons a rest =>
      have hsum : (cpcv_path_scores (a :: rest) (a :: rest).length (k + 1)).sum
          = (rest.length.choose k • (a :: rest).sum) / ((k + 1 : ℕ) : K) := by
        rw [← Multiset.sum_coe, cpcv_path_scores_coe]
        have hmean : ∀ s ∈ Multiset.powersetCard (k + 1) ((a :: rest : List K) : Multiset K),
            multiset_mean s = s.sum / ((k + 1 : ℕ) : K) := fun s hs => by
          rw [multiset_mean, (Multiset.mem_powersetCard.mp hs).2]
        rw [Multiset.map_congr rfl hmean]
        simp only [div_eq_mul_inv]
        rw [Multiset.sum_map_mul_right, ← Multiset.cons_coe, sum_powersetCard_cons]
        rfl
      have hchoose : ((rest.length + 1 : ℕ) : K) * (rest.length.choose k : ℕ)
          = ((rest.length + 1).choose (k + 1) : ℕ) * ((k + 1 : ℕ) : K) := by
        exact_mod_cast Nat.add_one_mul_choose_eq rest.length k
      have hpaths : (((rest.length + 1).choose (k + 1) : ℕ) : K) ≠ 0 :=
        Nat.cast_ne_zero.mpr (Nat.choose_pos hle).ne'
      have hblocks : ((rest.length + 1 : ℕ) : K) ≠ 0 := Nat.cast_ne_zero.mpr (by omega)
      have htests : ((k + 1 : ℕ) : K) ≠ 0 := Nat.cast_ne_zero.mpr (by omega)
      rw [hsum, List.length_cons, nsmul_eq_mul, div_div, div_eq_div_iff (by positivity) hblocks]
      linear_combination (a :: rest).sum * hchoose

/-- Bounds of the block scores are bounds of the path scores. -/
theorem cpcv_path_score_between {block_scores : List K} {n_test_blocks : ℕ}
    (hpos : 0 < n_test_blocks) {low high : K}
    (h : ∀ score ∈ block_scores, low ≤ score ∧ score ≤ high) {score : K}
    (hscore : score ∈ cpcv_path_scores block_scores block_scores.length n_test_blocks) :
    low ≤ score ∧ score ≤ high := by
  rw [← Multiset.mem_coe, cpcv_path_scores_coe] at hscore
  obtain ⟨s, hs, rfl⟩ := Multiset.mem_map.mp hscore
  obtain ⟨hsub, hcard⟩ := Multiset.mem_powersetCard.mp hs
  have hmem : ∀ x ∈ s, low ≤ x ∧ x ≤ high := fun x hx => h x (Multiset.mem_of_le hsub hx)
  have hsize : (0 : K) < s.card := Nat.cast_pos.mpr (hcard ▸ hpos)
  rw [multiset_mean, le_div_iff₀ hsize, div_le_iff₀ hsize, mul_comm low, mul_comm high,
    ← nsmul_eq_mul, ← nsmul_eq_mul]
  exact ⟨Multiset.card_nsmul_le_sum fun x hx => (hmem x hx).1,
    Multiset.sum_le_card_nsmul s high fun x hx => (hmem x hx).2⟩

/-! ## The report -/

variable [FloorRing K] {m : PyMath K} {fold_returns : List (List K)} {n_blocks n_test_blocks : ℤ}

omit [IsStrictOrderedRing K] in
/-- What a report that is made is about. -/
theorem cpcv_report_of_ok {report : CpcvPathMetrics K}
    (h : build_cpcv_path_metrics m fold_returns n_blocks n_test_blocks = .ok report) :
    0 < n_test_blocks.toNat ∧ n_test_blocks.toNat ≤ fold_returns.length
      ∧ report.path_count = report.path_sharpes.length
      ∧ report.path_sharpes = (cpcv_path_scores (fold_returns.map (sharpe_like m))
        (fold_returns.map (sharpe_like m)).length n_test_blocks.toNat).insertionSort (· ≤ ·) := by
  obtain ⟨hblocks, h⟩ := require_bind_ok h
  obtain ⟨htests, h⟩ := require_bind_ok h
  obtain ⟨hlength, h⟩ := require_bind_ok h
  obtain rfl := Except.ok.inj h
  have hblocks := of_decide_eq_true hblocks
  have htests := of_decide_eq_true htests
  have hlength := of_decide_eq_true hlength
  have hcount : n_blocks.toNat = (fold_returns.map (sharpe_like m)).length := by
    rw [List.length_map]
    omega
  refine ⟨by omega, by omega, rfl, ?_⟩
  dsimp only
  rw [hcount]

/-- In a report there are as many path scores as choices of the test blocks; their mean is that
of the block scores, and none is outside of what the block scores span. -/
theorem cpcv_paths_balance {report : CpcvPathMetrics K}
    (h : build_cpcv_path_metrics m fold_returns n_blocks n_test_blocks = .ok report) :
    report.path_count = fold_returns.length.choose n_test_blocks.toNat
      ∧ report.path_sharpes.sum / report.path_count
        = (fold_returns.map (sharpe_like m)).sum / fold_returns.length
      ∧ ∀ low high, (∀ returns ∈ fold_returns,
          low ≤ sharpe_like m returns ∧ sharpe_like m returns ≤ high) →
        ∀ score ∈ report.path_sharpes, low ≤ score ∧ score ≤ high := by
  obtain ⟨hpos, hle, hcount, hscores⟩ := cpcv_report_of_ok h
  have hperm := List.perm_insertionSort (· ≤ ·) (cpcv_path_scores
    (fold_returns.map (sharpe_like m)) (fold_returns.map (sharpe_like m)).length n_test_blocks.toNat)
  rw [← hscores] at hperm
  have hpaths : report.path_count = fold_returns.length.choose n_test_blocks.toNat := by
    rw [hcount, hperm.length_eq, ← Multiset.coe_card, cpcv_path_scores_coe, Multiset.card_map,
      Multiset.card_powersetCard, Multiset.coe_card, List.length_map]
  refine ⟨hpaths, ?_, fun low high hspan score hscore => ?_⟩
  · rw [hpaths, hperm.sum_eq]
    have hmean := sum_cpcv_path_scores (fold_returns.map (sharpe_like m)) hpos
      (by rwa [List.length_map])
    rw [List.length_map] at hmean ⊢
    exact hmean
  · refine cpcv_path_score_between hpos (fun block_score hblock => ?_) (hperm.mem_iff.mp hscore)
    obtain ⟨returns, hreturns, rfl⟩ := List.mem_map.mp hblock
    exact hspan returns hreturns

/-- Seven blocks without returns and one with the score 3/2. -/
def one_good_block : List (List ℚ) := List.replicate 7 [] ++ [[1, 3, 5]]

theorem cpcv_paths_balance_one_good : ∃ report,
    build_cpcv_path_metrics PyMath.rat one_good_block 8 2 = .ok report
      ∧ report.path_count = 28 ∧ report.path_sharpes.sum / report.path_count = 3 / 16 := by
  refine ⟨_, rfl, ?_⟩
  obtain ⟨hcount, hmean, -⟩ := @cpcv_paths_balance ℚ _ _ _ _ PyMath.rat one_good_block 8 2 _ rfl
  exact ⟨hcount.trans (by decide), hmean.trans (by decide +kernel)⟩

omit [IsStrictOrderedRing K] in
/-- The order of the blocks tells nothing: the whole report is the same. -/
theorem cpcv_ignores_block_order {fold_returns' : List (List K)}
    (hperm : fold_returns.Perm fold_returns') :
    build_cpcv_path_metrics m fold_returns n_blocks n_test_blocks
      = build_cpcv_path_metrics m fold_returns' n_blocks n_test_blocks := by
  have hblocks := hperm.map (sharpe_like m)
  have hscores : ∀ k, (cpcv_path_scores (fold_returns.map (sharpe_like m))
        fold_returns.length k).insertionSort (· ≤ ·)
      = (cpcv_path_scores (fold_returns'.map (sharpe_like m))
        fold_returns.length k).insertionSort (· ≤ ·) := by
    intro k
    have hpaths : (cpcv_path_scores (fold_returns.map (sharpe_like m)) fold_returns.length k).Perm
        (cpcv_path_scores (fold_returns'.map (sharpe_like m)) fold_returns.length k) := by
      have hlength : (fold_returns.map (sharpe_like m)).length = fold_returns.length :=
        List.length_map _
      rw [← Multiset.coe_eq_coe, ← hlength, cpcv_path_scores_coe, hblocks.length_eq,
        cpcv_path_scores_coe, Multiset.coe_eq_coe.mpr hblocks]
    exact (((List.perm_insertionSort _ _).trans hpaths).trans
      (List.perm_insertionSort _ _).symm).eq_of_pairwise' (List.pairwise_insertionSort _ _)
      (List.pairwise_insertionSort _ _)
  unfold build_cpcv_path_metrics
  rw [← hperm.length_eq]
  by_cases hlength : (fold_returns.length : ℤ) = n_blocks
  · have hcount : n_blocks.toNat = fold_returns.length := by omega
    rw [hcount]
    dsimp only
    rw [hscores]
  · rw [decide_eq_false hlength]
    rfl

theorem cpcv_ignores_block_order_reversed :
    build_cpcv_path_metrics PyMath.rat one_good_block 8 2
      = build_cpcv_path_metrics PyMath.rat one_good_block.reverse 8 2 :=
  cpcv_ignores_block_order (List.reverse_perm _).symm

end Cpcv

end ProofAlpha.Validation
