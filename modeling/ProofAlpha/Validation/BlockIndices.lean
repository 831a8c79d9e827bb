/-
The index sequences of the block bootstraps (`validation/bootstrap.py`).

For a block of one bar up to all bars the loops end with one index per bar; inside a
block each index is the successor of the one before it, for the stationary variant
around the end of the bars. A block is ended by its length or, for the stationary
variant, by the draw that restarts it. Every other block length is refused.
-/
import Mathlib.Data.List.GetD
import ProofAlpha.Validation.RowAlignment

set_option autoImplicit false

namespace ProofAlpha.Validation

open ProofAlpha.Lib ProofAlpha.Lib.IndexMap

variable {K : Type} [Field K] [LinearOrder K] (rng : PyRandom K)

/-! ## What the sequences are -/

/-- A sequence of the block loop: after as many passes as it takes, cut to one index
per bar, and rising by one except where a block starts. -/
structure BlockSequence (sample_count block_size : ℕ) (seed : ℤ) (indices : List ℕ) : Prop where
  bars : BarIndices sample_count indices
  successor : ∀ k, k + 1 < sample_count → (k + 1) % block_size ≠ 0 →
    indices.getD (k + 1) 0 = indices.getD k 0 + 1
  ends : ∃ passes ≤ sample_count, ∃ drawn : List ℕ,
    EndsAfter sample_count (block_pass rng (sample_count - block_size) block_size)
      (rng.seeded seed) [] passes drawn ∧ indices = drawn.take sample_count

/-- The generator of the stationary loop before the draw of index `k + 1`. -/
def stationary_draw (sample_count : ℕ) (block_size seed : ℤ) (k : ℕ) : rng.State :=
  let first := rng.randrange (rng.seeded seed) sample_count
  (after_passes (stationary_pass rng sample_count block_size) k first.2 [first.1]).2

/-- A sequence of the stationary loop: each index follows the one before it, around the
end of the bars, unless the draw at it restarts the block. -/
structure StationarySequence (sample_count : ℕ) (block_size seed : ℤ) (indices : List ℕ) :
    Prop where
  bars : BarIndices sample_count indices
  successor : ∀ k, k + 1 < sample_count →
    let draw := rng.random (stationary_draw rng sample_count block_size seed k)
    indices.getD (k + 1) 0
      = if draw.1 < 1 / (block_size : K) then (rng.randrange draw.2 sample_count).1
        else (indices.getD k 0 + 1) % sample_count
  ends : ∃ passes ≤ sample_count,
    EndsAfter sample_count (stationary_pass rng sample_count block_size)
      (rng.randrange (rng.seeded seed) sample_count).2
      [(rng.randrange (rng.seeded seed) sample_count).1] passes indices

/-! ## The block loop -/

/-- Whole blocks, each of them rising by one. -/
def RisesInBlocks (block_size : ℕ) (indices : List ℕ) : Prop :=
  block_size ∣ indices.length ∧ ∀ k, k + 1 < indices.length → (k + 1) % block_size ≠ 0 →
    indices.getD (k + 1) 0 = indices.getD k 0 + 1

/-- One more block keeps the blocks, wherever it starts. -/
theorem risesInBlocks_append {block_size : ℕ} {indices : List ℕ} (start : ℕ)
    (h : RisesInBlocks block_size indices) :
    RisesInBlocks block_size (indices ++ List.range' start block_size) := by
  obtain ⟨hdvd, hrises⟩ := h
  constructor
  · rw [List.length_append, List.length_range']
    exact Dvd.dvd.add hdvd (dvd_refl _)
  · intro k hk hinside
    rw [List.length_append, List.length_range'] at hk
    have hblock : ∀ j, j < block_size →
        (indices ++ List.range' start block_size).getD (indices.length + j) 0 = start + j := by
      intro j hj
      rw [List.getD_append_right _ _ _ _ (Nat.le_add_right _ _), Nat.add_sub_cancel_left,
        List.getD_eq_getElem _ _ (by rw [List.length_range']; exact hj), List.getElem_range',
        one_mul]
    rcases Nat.lt_trichotomy (k + 1) indices.length with hbefore | hstart | hafter
    · rw [List.getD_append _ _ _ _ hbefore, List.getD_append _ _ _ _ (by omega)]
      exact hrises k hbefore hinside
    · -- a block starts here
      rw [hstart] at hinside
      exact absurd (Nat.mod_eq_zero_of_dvd hdvd) hinside
    · obtain ⟨j, rfl⟩ := Nat.exists_eq_add_of_le (by omega : indices.length ≤ k)
      rw [add_assoc, hblock j (by omega), hblock (j + 1) (by omega)]
      omega

omit [Field K] [LinearOrder K] in
theorem blockSequence_of_loop {sample_count block_size : ℕ} (hpos : 0 < block_size)
    (hle : block_size ≤ sample_count) (seed : ℤ) :
    BlockSequence rng sample_count block_size seed
      ((fill_until sample_count (block_pass rng (sample_count - block_size) block_size)
        sample_count (rng.seeded seed) []).take sample_count) := by
  have hgrow : ∀ (s : rng.State) (acc : List ℕ), acc.length < sample_count →
      acc.length < (block_pass rng (sample_count - block_size) block_size s acc).1.length := by
    intro s acc _
    simp only [block_pass, List.length_append, List.length_range']
    omega
  obtain ⟨passes, hpasses, hends⟩ := exists_endsAfter hgrow sample_count (rng.seeded seed) []
    (by omega)
  have hrises : RisesInBlocks block_size (fill_until sample_count
      (block_pass rng (sample_count - block_size) block_size) sample_count
      (rng.seeded seed) []) := by
    apply fill_until_invariant (RisesInBlocks block_size)
    · intro s acc _ hacc
      exact risesInBlocks_append _ hacc
    · exact ⟨dvd_zero _, fun k hk => absurd hk (Nat.not_lt_zero _)⟩
  refine ⟨barIndices_block_loop rng hpos hle _, ?_, passes, hpasses, _, hends, rfl⟩
  intro k hk hinside
  have htake : ∀ (drawn : List ℕ) (j : ℕ), j < sample_count →
      (drawn.take sample_count).getD j 0 = drawn.getD j 0 := by
    intro drawn j hj
    rw [List.getD_eq_getElem?_getD, List.getD_eq_getElem?_getD, List.getElem?_take_of_lt hj]
  rw [htake _ _ hk, htake _ _ (by omega)]
  exact hrises.2 k (lt_of_lt_of_le hk hends.done) hinside

/-! ## The stationary loop -/

/-- One pass of the stationary loop, as the index it appends. -/
theorem stationary_pass_eq (sample_count : ℕ) (block_size : ℤ) (state : rng.State)
    (indices : List ℕ) :
    (stationary_pass rng sample_count block_size state indices).1
      = indices ++ [if (rng.random state).1 < 1 / (block_size : K) then
          (rng.randrange (rng.random state).2 sample_count).1
        else (indices.getLastD 0 + 1) % sample_count] := by
  simp only [stationary_pass]
  split_ifs <;> rfl

/-- Every pass appends one index. -/
theorem length_after_stationary_passes (sample_count : ℕ) (block_size : ℤ) (passes : ℕ)
    (state : rng.State) (first : ℕ) :
    (after_passes (stationary_pass rng sample_count block_size) passes state [first]).1.length
      = passes + 1 := by
  induction passes with
  | zero => rfl
  | succ passes ih =>
      rw [after_passes_succ, stationary_pass_eq, List.length_append, ih]
      rfl

theorem stationarySequence_of_loop {sample_count : ℕ} (hcount : 0 < sample_count)
    (block_size seed : ℤ) :
    StationarySequence rng sample_count block_size seed
      (fill_until sample_count (stationary_pass rng sample_count block_size) sample_count
        (rng.randrange (rng.seeded seed) sample_count).2
        [(rng.randrange (rng.seeded seed) sample_count).1]) := by
  set first := rng.randrange (rng.seeded seed) sample_count with hfirst
  set pass := stationary_pass rng sample_count block_size with hpass
  have happend : ∀ (s : rng.State) (acc : List ℕ), acc <+: (pass s acc).1 := by
    intro s acc
    rw [hpass, stationary_pass_eq]
    exact List.prefix_append _ _
  have hlength : ∀ k, (after_passes pass k first.2 [first.1]).1.length = k + 1 := fun k =>
    length_after_stationary_passes rng sample_count block_size k first.2 first.1
  have hgrow : ∀ (s : rng.State) (acc : List ℕ), acc.length < sample_count →
      acc.length < (pass s acc).1.length := by
    intro s acc _
    rw [hpass, stationary_pass_eq, List.length_append]
    exact Nat.lt_succ_self _
  obtain ⟨passes, hpasses, hends⟩ := exists_endsAfter hgrow sample_count first.2 [first.1]
    (by omega)
  have hbars := barIndices_stationary_loop rng hcount block_size (rng.seeded seed)
  rw [← hfirst, ← hpass] at hbars
  set indices := fill_until sample_count pass sample_count first.2 [first.1] with hindices
  refine ⟨hbars, ?_, passes, hpasses, hends⟩
  intro k hk
  -- index `k + 1` is drawn by pass `k` and only appended to afterwards
  have hlast : passes + 1 = sample_count := by
    rw [← hlength passes, ← hends.result_eq, hbars.length_eq]
  have hentry : ∀ i j, i < j + 1 → j ≤ passes →
      indices.getD i 0 = (after_passes pass j first.2 [first.1]).1.getD i 0 := by
    intro i j hij hj
    obtain ⟨later, hlater⟩ := after_passes_append happend hj first.2 [first.1]
    rw [hends.result_eq, ← hlater, List.getD_append _ _ _ _ (by rw [hlength]; exact hij)]
  have hprevious : (after_passes pass k first.2 [first.1]).1.getLastD 0 = indices.getD k 0 := by
    rw [hentry k k (Nat.lt_succ_self k) (by omega), List.getLastD_eq_getLast?,
      List.getLast?_eq_getElem?, hlength, List.getD_eq_getElem?_getD]
    rfl
  rw [hentry (k + 1) (k + 1) (Nat.lt_succ_self _) (by omega), after_passes_succ, hpass,
    stationary_pass_eq, ← hpass, List.getD_append_right _ _ _ _ (by rw [hlength]), hlength,
    Nat.sub_self, hprevious]
  rfl

/-! ## The generators -/

omit [Field K] [LinearOrder K] in
/-- The check of a request of at least one bar, by its outcome. -/
theorem validate_bootstrap_request_ok {sample_count : ℕ} {block_size : ℤ} (hpos : 0 < block_size)
    (hle : block_size ≤ sample_count) :
    validate_bootstrap_request sample_count block_size = .ok () := by
  rw [validate_bootstrap_request, if_neg (by omega), if_neg (by omega)]

theorem validate_bootstrap_request_refuses {sample_count : ℕ} {block_size : ℤ}
    (h : block_size ≤ 0 ∨ (sample_count : ℤ) < block_size) :
    ∃ text, validate_bootstrap_request sample_count block_size = .error (.value_error text) := by
  unfold validate_bootstrap_request
  split_ifs with hpos hle
  · exact ⟨_, rfl⟩
  · exact ⟨_, rfl⟩
  · omega

/-- Index generation for at least one bar. A block of one bar up to all of them gives
one index per bar, each of them a bar, consecutive indices of a block following one
another, from a loop that ends; any other block length is refused before a draw. -/
theorem block_index_generation (sample_count : ℕ) (hcount : 1 ≤ sample_count)
    (block_size seed : ℤ) :
    (1 ≤ block_size ∧ block_size ≤ sample_count →
      (∃ indices, moving_block_bootstrap_indices rng sample_count block_size seed = .ok indices ∧
        BlockSequence rng sample_count block_size.toNat seed indices) ∧
      (∃ indices,
        multivariate_block_bootstrap_indices rng sample_count block_size seed = .ok indices ∧
        BlockSequence rng sample_count block_size.toNat seed indices) ∧
      ∃ indices,
        stationary_block_bootstrap_indices rng sample_count block_size seed = .ok indices ∧
        StationarySequence rng sample_count block_size seed indices) ∧
    (¬ (1 ≤ block_size ∧ block_size ≤ sample_count) → ∃ text,
      moving_block_bootstrap_indices rng sample_count block_size seed
          = .error (.value_error text) ∧
        multivariate_block_bootstrap_indices rng sample_count block_size seed
          = .error (.value_error text) ∧
        stationary_block_bootstrap_indices rng sample_count block_size seed
          = .error (.value_error text)) := by
  have hzero : sample_count ≠ 0 := by omega
  constructor
  · rintro ⟨hpos, hle⟩
    have hrequest := validate_bootstrap_request_ok (by omega : 0 < block_size) hle
    have hblocks := blockSequence_of_loop rng (by omega : 0 < block_size.toNat)
      (by omega : block_size.toNat ≤ sample_count) seed
    refine ⟨⟨_, ?_, hblocks⟩, ⟨_, ?_, hblocks⟩, _, ?_,
      stationarySequence_of_loop rng (by omega) block_size seed⟩
    · rw [moving_block_bootstrap_indices, if_neg hzero, hrequest]
      rfl
    · rw [multivariate_block_bootstrap_indices, if_neg hzero, hrequest]
      rfl
    · rw [stationary_block_bootstrap_indices, if_neg hzero, hrequest]
      rfl
  · intro hblock
    obtain ⟨text, hrefused⟩ := validate_bootstrap_request_refuses
      (by omega : block_size ≤ 0 ∨ (sample_count : ℤ) < block_size)
    refine ⟨text, ?_, ?_, ?_⟩
    · rw [moving_block_bootstrap_indices, if_neg hzero, hrefused]
      rfl
    · rw [multivariate_block_bootstrap_indices, if_neg hzero, hrefused]
      rfl
    · rw [stationary_block_bootstrap_indices, if_neg hzero, hrefused]
      rfl

/-- Two bars and a block of three: no index is generated. -/
theorem long_block_refused :
    ¬ ∀ (rng : PyRandom ℚ) (sample_count : ℕ) (block_size seed : ℤ), 1 ≤ sample_count →
      ∃ indices,
        moving_block_bootstrap_indices rng sample_count block_size seed = .ok indices ∧
        BlockSequence rng sample_count block_size.toNat seed indices := by
  intro hclaim
  obtain ⟨indices, hindices, -⟩ := hclaim swapping_random 2 3 0 (by decide)
  have hrefused : moving_block_bootstrap_indices swapping_random 2 3 0
      = .error (.value_error "block_size cannot exceed candle count") := rfl
  rw [hrefused] at hindices
  cases hindices

/-- Three bars in blocks of two: all three generators end. -/
theorem block_index_generation_two :
    (∃ indices, moving_block_bootstrap_indices swapping_random 3 2 7 = .ok indices ∧
        BlockSequence swapping_random 3 2 7 indices) ∧
      (∃ indices, multivariate_block_bootstrap_indices swapping_random 3 2 7 = .ok indices ∧
        BlockSequence swapping_random 3 2 7 indices) ∧
      ∃ indices, stationary_block_bootstrap_indices swapping_random 3 2 7 = .ok indices ∧
        StationarySequence swapping_random 3 2 7 indices :=
  (block_index_generation swapping_random 3 (by decide) 2 7).1 ⟨by decide, by decide⟩

end ProofAlpha.Validation
