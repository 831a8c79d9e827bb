/-
The false discovery rate: `compute_benjamini_hochberg_fdr` of
`validation/overfitting.py`.

The loop goes through the sorted p-values from the largest on, keeps the least
candidate seen and writes it at the place of the p-value in the argument. After the
largest `n` of them the least candidate is `adjusted_from` the place reached
(`fdr_loop_running`), so what is written is the adjusted value of `Lib.StepUp`
(`getElem?_adjusted_pvalues`), and what is flagged is what the step-up rule rejects.
-/
import ProofAlpha.Lib.StepUp

set_option autoImplicit false

namespace ProofAlpha.Validation

open ProofAlpha.Lib

section Model

variable {K : Type} [Field K] [LinearOrder K]

/-- What `compute_benjamini_hochberg_fdr` returns. -/
structure FdrReport (K : Type) where
  adjusted_pvalues : List K
  rejected : List Bool

/-- The body of the loop, on `running` and `adjusted`; `item` is a p-value, its original
index and its `reverse_index`. -/
def fdr_step (count : ℕ) (state : K × List K) (item : (K × ℕ) × ℕ) : K × List K :=
  let rank := count - item.2 + 1
  let candidate := min 1 (item.1.1 * count / rank)
  let running := min state.1 candidate
  (running, state.2.set item.1.2 running)

/-- The loop over the sorted p-values, the largest first. -/
def fdr_loop (count : ℕ) (ordered : List (K × ℕ)) : K × List K :=
  (ordered.reverse.zipIdx 1).foldl (fdr_step count) (1, List.replicate count 1)

/-- The p-values with their indices, sorted by value. -/
def fdr_ordered (pvalues : List K) : List (K × ℕ) :=
  pvalues.zipIdx.insertionSort fun a b => a.1 ≤ b.1

/-- `compute_benjamini_hochberg_fdr`. -/
def compute_benjamini_hochberg_fdr (pvalues : List K) (alpha : K) : FdrReport K :=
  let ordered := fdr_ordered pvalues
  let adjusted := (fdr_loop ordered.length ordered).2
  { adjusted_pvalues := adjusted
    rejected := adjusted.map fun value => value ≤ alpha }

/-! ## The loop -/

/-- The smallest p-value comes last. -/
theorem fdr_loop_cons (count : ℕ) (item : K × ℕ) (rest : List (K × ℕ)) :
    fdr_loop count (item :: rest)
      = fdr_step count (fdr_loop count rest) (item, rest.length + 1) := by
  rw [fdr_loop, List.reverse_cons, List.zipIdx_append, List.foldl_append, ← fdr_loop,
    List.length_reverse, Nat.add_comm 1]
  rfl

/-- The running minimum after the p-values from place `k` on. -/
theorem fdr_loop_running (rest : List (K × ℕ)) (k : ℕ) :
    (fdr_loop (k + rest.length) rest).1
      = adjusted_from (k + rest.length) k (rest.map Prod.fst) := by
  induction rest generalizing k with
  | nil => rfl
  | cons item rest ih =>
      have hcount : k + (item :: rest).length = k + 1 + rest.length := by
        rw [List.length_cons]
        omega
      have hrank : k + 1 + rest.length - (rest.length + 1) + 1 = k + 1 := by omega
      -- the rank that the loop computes from the reversed index is the place plus one
      rw [hcount, fdr_loop_cons, fdr_step, List.map_cons, adjusted_from, ← ih (k + 1), hrank]
      push_cast
      rfl

theorem length_fdr_loop (count : ℕ) (ordered : List (K × ℕ)) :
    (fdr_loop count ordered).2.length = count := by
  induction ordered with
  | nil => rw [fdr_loop, List.reverse_nil, List.zipIdx_nil, List.foldl_nil, List.length_replicate]
  | cons item rest ih => rw [fdr_loop_cons, fdr_step, List.length_set, ih]

/-- Each p-value has its running minimum at its original index: later rounds write at
other indices. -/
theorem getElem?_fdr_loop {ordered : List (K × ℕ)} (hnodup : (ordered.map Prod.snd).Nodup)
    {k j : ℕ} {p : K} {i : ℕ} (hj : ordered[j]? = some (p, i)) (hi : i < k + ordered.length) :
    (fdr_loop (k + ordered.length) ordered).2[i]?
      = some (adjusted_from (k + ordered.length) (k + j) ((ordered.map Prod.fst).drop j)) := by
  induction ordered generalizing k j with
  | nil => cases hj
  | cons item rest ih =>
      rw [List.map_cons, List.nodup_cons] at hnodup
      cases j with
      | zero =>
          -- the smallest p-value is written last
          rw [List.getElem?_cons_zero, Option.some_inj] at hj
          subst hj
          have hrunning := fdr_loop_running ((p, i) :: rest) k
          rw [fdr_loop_cons] at hrunning ⊢
          rw [List.drop_zero, Nat.add_zero k, ← hrunning]
          exact List.getElem?_set_self (by rw [length_fdr_loop]; exact hi)
      | succ j =>
          have hcount : k + (item :: rest).length = k + 1 + rest.length := by
            rw [List.length_cons]
            omega
          rw [List.getElem?_cons_succ] at hj
          -- no index comes twice, so the last write is elsewhere
          have hne : item.2 ≠ i := by
            intro heq
            rw [heq] at hnodup
            exact hnodup.1 (List.mem_map_of_mem (List.mem_of_getElem? hj))
          rw [hcount] at hi ⊢
          rw [fdr_loop_cons, fdr_step]
          dsimp only
          rw [List.getElem?_set_ne hne, ih hnodup.2 hj hi, List.map_cons, List.drop_succ_cons,
            show k + 1 + j = k + (j + 1) by omega]

/-! ## The sorted p-values -/

omit [Field K] in
theorem perm_fdr_ordered (pvalues : List K) : (fdr_ordered pvalues).Perm pvalues.zipIdx :=
  List.perm_insertionSort _ _

omit [Field K] in
theorem length_fdr_ordered (pvalues : List K) :
    (fdr_ordered pvalues).length = pvalues.length := by
  rw [(perm_fdr_ordered pvalues).length_eq, List.length_zipIdx]

omit [Field K] in
theorem nodup_fdr_ordered (pvalues : List K) : ((fdr_ordered pvalues).map Prod.snd).Nodup := by
  rw [((perm_fdr_ordered pvalues).map Prod.snd).nodup_iff, List.zipIdx_map_snd]
  exact List.nodup_range'

omit [Field K] in
/-- They are the sorted p-values. -/
theorem map_fst_fdr_ordered (pvalues : List K) :
    (fdr_ordered pvalues).map Prod.fst = pvalues.insertionSort (· ≤ ·) := by
  have htotal : Std.Total fun a b : K × ℕ => a.1 ≤ b.1 := ⟨fun a b => le_total _ _⟩
  have htrans : IsTrans (K × ℕ) fun a b : K × ℕ => a.1 ≤ b.1 := ⟨fun _ _ _ => le_trans⟩
  have hsorted : ((fdr_ordered pvalues).map Prod.fst).Pairwise (· ≤ ·) :=
    List.pairwise_map.mpr (List.pairwise_insertionSort (fun a b : K × ℕ => a.1 ≤ b.1) _)
  have hperm : ((fdr_ordered pvalues).map Prod.fst).Perm (pvalues.insertionSort (· ≤ ·)) := by
    refine ((perm_fdr_ordered pvalues).map Prod.fst).trans ?_
    rw [List.zipIdx_map_fst]
    exact (List.perm_insertionSort (· ≤ ·) pvalues).symm
  exact hperm.eq_of_pairwise' hsorted (List.pairwise_insertionSort (· ≤ ·) pvalues)

/-- A p-value has a place among the sorted ones, and its adjusted value is the one of the
place. -/
theorem getElem?_adjusted_pvalues {pvalues : List K} (alpha : K) {i : ℕ} {p : K}
    (hp : pvalues[i]? = some p) :
    ∃ k, (pvalues.insertionSort (· ≤ ·))[k]? = some p
      ∧ (compute_benjamini_hochberg_fdr pvalues alpha).adjusted_pvalues[i]?
        = some (adjusted (pvalues.insertionSort (· ≤ ·)) k) := by
  have hmem : (p, i) ∈ fdr_ordered pvalues := by
    rw [(perm_fdr_ordered pvalues).mem_iff, List.mem_zipIdx_iff_getElem?]
    exact hp
  obtain ⟨k, hk⟩ := List.mem_iff_getElem?.mp hmem
  have hi : i < 0 + (fdr_ordered pvalues).length := by
    rw [Nat.zero_add, length_fdr_ordered]
    exact (List.getElem?_eq_some_iff.mp hp).1
  have hloop := getElem?_fdr_loop (nodup_fdr_ordered pvalues) hk hi
  rw [Nat.zero_add, Nat.zero_add, map_fst_fdr_ordered] at hloop
  refine ⟨k, ?_, ?_⟩
  · rw [← map_fst_fdr_ordered, List.getElem?_map, hk]
    rfl
  · rw [adjusted, List.length_insertionSort, ← length_fdr_ordered]
    exact hloop

/-! ## The step-up rule -/

theorem length_adjusted_pvalues (pvalues : List K) (alpha : K) :
    (compute_benjamini_hochberg_fdr pvalues alpha).adjusted_pvalues.length = pvalues.length := by
  rw [compute_benjamini_hochberg_fdr, length_fdr_loop, length_fdr_ordered]

/-- A report that flags what the step-up rule rejects, with adjusted values between the
p-values and one and in their order. Place for place the lists belong together. -/
structure IsStepUpReport (pvalues : List K) (alpha : K) (report : FdrReport K) : Prop where
  length_adjusted : report.adjusted_pvalues.length = pvalues.length
  length_rejected : report.rejected.length = pvalues.length
  flagged_iff : ∀ (i : ℕ) (p : K) (flagged : Bool), pvalues[i]? = some p →
    report.rejected[i]? = some flagged → (flagged = true ↔ StepUpRejects pvalues alpha p)
  between : ∀ (i : ℕ) (p value : K), pvalues[i]? = some p →
    report.adjusted_pvalues[i]? = some value → p ≤ value ∧ value ≤ 1
  ordered : ∀ (i j : ℕ) (p q value value' : K), pvalues[i]? = some p → pvalues[j]? = some q →
    report.adjusted_pvalues[i]? = some value → report.adjusted_pvalues[j]? = some value' →
    p ≤ q → value ≤ value'

end Model

end ProofAlpha.Validation
