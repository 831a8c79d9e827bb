/-
The step-up rule over a list of p-values, and p-values adjusted to it.

The rule compares the `k`-th smallest of `m` p-values with `k * level / m` and
rejects everything up to the largest one that passes. A p-value is adjusted to the
rule by scaling it and all larger ones by `m / k` and taking the least, cut at one:
then it is at most the level exactly when the rule rejects it
(`adjusted_le_iff_passes`).
-/
import Mathlib.Algebra.Order.Field.Basic
import Mathlib.Data.List.Sort
import Mathlib.Data.Set.Finite.Lemmas
import Mathlib.Data.Set.Finite.List
import Mathlib.Tactic.FieldSimp
import Mathlib.Tactic.Linarith
import Mathlib.Tactic.Positivity
import Mathlib.Tactic.Ring

set_option autoImplicit false

namespace ProofAlpha.Lib

section StepUp

variable {K : Type*} [Field K] [LinearOrder K]

/-! ## The rule -/

/-- A p-value that passes: the `k`-th smallest, counted from zero, and at most
`(k + 1) * level / m`. -/
def Passes (sorted : List K) (level x : K) : Prop :=
  ∃ k : ℕ, sorted[k]? = some x ∧ x ≤ (k + 1) * level / sorted.length

/-- What the step-up rule rejects: all p-values not above the largest one that passes. -/
def StepUpRejects (pvalues : List K) (level p : K) : Prop :=
  ∃ t, IsGreatest {x | Passes (pvalues.insertionSort (· ≤ ·)) level x} t ∧ p ≤ t

/-- Of finitely many p-values that pass there is a largest one. -/
theorem stepUpRejects_iff {pvalues : List K} {level p : K} :
    StepUpRejects pvalues level p
      ↔ ∃ x, Passes (pvalues.insertionSort (· ≤ ·)) level x ∧ p ≤ x := by
  constructor
  · rintro ⟨t, ht, hp⟩
    exact ⟨t, ht.1, hp⟩
  · rintro ⟨x, hx, hp⟩
    have hfinite : {x | Passes (pvalues.insertionSort (· ≤ ·)) level x}.Finite := by
      refine (List.finite_toSet (pvalues.insertionSort (· ≤ ·))).subset ?_
      rintro y ⟨k, hk, -⟩
      exact List.mem_of_getElem? hk
    obtain ⟨t, ht, hmax⟩ := Set.exists_max_image _ id hfinite ⟨x, hx⟩
    exact ⟨t, ⟨ht, hmax⟩, hp.trans (hmax x hx)⟩

/-! ## Adjusted values -/

/-- The least of one and of the scaled p-values from place `k` on. -/
def adjusted_from (count : ℕ) : ℕ → List K → K
  | _, [] => 1
  | k, x :: rest => min (adjusted_from count (k + 1) rest) (min 1 (x * count / (k + 1)))

/-- The adjusted value of the `k`-th smallest p-value, counted from zero. -/
def adjusted (sorted : List K) (k : ℕ) : K := adjusted_from sorted.length k (sorted.drop k)

/-- Below an adjusted value are the numbers below one and all scaled p-values. -/
theorem le_adjusted_from_iff {count : ℕ} {xs : List K} {k : ℕ} {c : K} :
    c ≤ adjusted_from count k xs
      ↔ c ≤ 1 ∧ ∀ j x, xs[j]? = some x → c ≤ x * count / ((k + j : ℕ) + 1) := by
  induction xs generalizing k with
  | nil => simp [adjusted_from]
  | cons y rest ih =>
      rw [adjusted_from, le_min_iff, le_min_iff, ih]
      constructor
      · rintro ⟨⟨hone, hrest⟩, -, hy⟩
        refine ⟨hone, fun j x hx => ?_⟩
        cases j with
        | zero =>
            rw [List.getElem?_cons_zero, Option.some_inj] at hx
            rw [← hx, Nat.add_zero]
            exact hy
        | succ j =>
            rw [show k + (j + 1) = k + 1 + j by omega]
            exact hrest j x hx
      · rintro ⟨hone, hall⟩
        refine ⟨⟨hone, fun j x hx => ?_⟩, hone, hall 0 y rfl⟩
        rw [show k + 1 + j = k + (j + 1) by omega]
        exact hall (j + 1) x hx

/-- The same for the place of a p-value in the whole list. -/
theorem le_adjusted_iff {sorted : List K} {k : ℕ} {c : K} :
    c ≤ adjusted sorted k
      ↔ c ≤ 1 ∧ ∀ j x, k ≤ j → sorted[j]? = some x → c ≤ x * sorted.length / (j + 1) := by
  rw [adjusted, le_adjusted_from_iff]
  refine and_congr_right fun _ => ?_
  constructor
  · intro h j x hj hx
    obtain ⟨i, rfl⟩ := Nat.exists_eq_add_of_le hj
    exact h i x (by rw [List.getElem?_drop, hx])
  · intro h j x hx
    rw [List.getElem?_drop] at hx
    exact h (k + j) x (Nat.le_add_right _ _) hx

theorem adjusted_le_one (sorted : List K) (k : ℕ) : adjusted sorted k ≤ 1 :=
  (le_adjusted_iff.mp (le_refl (adjusted sorted k))).1

/-- The adjusted value is one of those it is the least of. -/
theorem adjusted_from_attained (count : ℕ) (xs : List K) (k : ℕ) :
    adjusted_from count k xs = 1
      ∨ ∃ j x, xs[j]? = some x ∧ adjusted_from count k xs = x * count / ((k + j : ℕ) + 1) := by
  induction xs generalizing k with
  | nil => exact .inl rfl
  | cons y rest ih =>
      rw [adjusted_from]
      rcases min_choice (adjusted_from count (k + 1) rest) (min 1 (y * count / (k + 1)))
        with hrest | hfirst
      · rw [hrest]
        rcases ih (k + 1) with hone | ⟨j, x, hx, heq⟩
        · exact .inl hone
        · refine .inr ⟨j + 1, x, hx, ?_⟩
          rw [heq, show k + 1 + j = k + (j + 1) by omega]
      · rw [hfirst]
        rcases min_choice 1 (y * count / ((k : K) + 1)) with hone | hy
        · exact .inl hone
        · refine .inr ⟨0, y, rfl, ?_⟩
          rw [hy, Nat.add_zero]

/-- An adjusted value is at most a level if one or some scaled p-value is. -/
theorem adjusted_le_iff {sorted : List K} {k : ℕ} {c : K} :
    adjusted sorted k ≤ c
      ↔ 1 ≤ c ∨ ∃ j x, k ≤ j ∧ sorted[j]? = some x ∧ x * sorted.length / (j + 1) ≤ c := by
  obtain ⟨hone, hall⟩ := le_adjusted_iff.mp (le_refl (adjusted sorted k))
  constructor
  · intro hle
    rcases adjusted_from_attained sorted.length (sorted.drop k) k with h | ⟨j, x, hx, h⟩
    · exact .inl (h.ge.trans hle)
    · rw [List.getElem?_drop] at hx
      exact .inr ⟨k + j, x, Nat.le_add_right _ _, hx, h.ge.trans hle⟩
  · rintro (hle | ⟨j, x, hj, hx, hle⟩)
    · exact hone.trans hle
    · exact (hall j x hj hx).trans hle

/-! ## Sorted p-values -/

variable [IsStrictOrderedRing K] {sorted : List K}

omit [Field K] [IsStrictOrderedRing K] in
theorem le_of_sorted (hsorted : sorted.Pairwise (· ≤ ·)) {j k : ℕ} {x y : K}
    (hx : sorted[j]? = some x) (hy : sorted[k]? = some y) (hjk : j ≤ k) : x ≤ y := by
  obtain ⟨hj, rfl⟩ := List.getElem?_eq_some_iff.mp hx
  obtain ⟨hk, rfl⟩ := List.getElem?_eq_some_iff.mp hy
  rcases hjk.eq_or_lt with rfl | hlt
  · exact le_refl _
  · exact List.pairwise_iff_getElem.mp hsorted j k hj hk hlt

/-- Scaling does not make a p-value smaller. -/
theorem le_scaled {j : ℕ} {x : K} (hx : sorted[j]? = some x) (hnonneg : 0 ≤ x) :
    x ≤ x * sorted.length / (j + 1) := by
  have hj : ((j + 1 : ℕ) : K) ≤ sorted.length :=
    Nat.cast_le.mpr (List.getElem?_eq_some_iff.mp hx).1
  rw [le_div_iff₀ (by positivity)]
  push_cast at hj
  exact mul_le_mul_of_nonneg_left hj hnonneg

/-- An adjusted value is at least the p-value. -/
theorem le_adjusted (hsorted : sorted.Pairwise (· ≤ ·)) (hunit : ∀ x ∈ sorted, 0 ≤ x ∧ x ≤ 1)
    {k : ℕ} {x : K} (hx : sorted[k]? = some x) : x ≤ adjusted sorted k := by
  rw [le_adjusted_iff]
  refine ⟨(hunit x (List.mem_of_getElem? hx)).2, fun j y hj hy => ?_⟩
  calc x ≤ y := le_of_sorted hsorted hx hy hj
    _ ≤ y * sorted.length / (j + 1) := le_scaled hy (hunit y (List.mem_of_getElem? hy)).1

/-- Adjusted values are ordered as the p-values, ties included. -/
theorem adjusted_mono (hsorted : sorted.Pairwise (· ≤ ·)) (hunit : ∀ x ∈ sorted, 0 ≤ x ∧ x ≤ 1)
    {j k : ℕ} {x y : K} (hx : sorted[j]? = some x) (hy : sorted[k]? = some y) (hxy : x ≤ y) :
    adjusted sorted j ≤ adjusted sorted k := by
  rw [le_adjusted_iff]
  obtain ⟨hone, hall⟩ := le_adjusted_iff.mp (le_refl (adjusted sorted j))
  refine ⟨hone, fun i z hi hz => ?_⟩
  rcases le_total j i with hji | hij
  · exact hall i z hji hz
  · -- the places from `k` to `j` hold one p-value, scaled least at `j`
    have hzx : z = x :=
      le_antisymm (le_of_sorted hsorted hz hx hij) (hxy.trans (le_of_sorted hsorted hy hz hi))
    have hnonneg : 0 ≤ x * (sorted.length : K) :=
      mul_nonneg (hunit x (List.mem_of_getElem? hx)).1 (Nat.cast_nonneg _)
    rw [hzx]
    refine (hall j x le_rfl hx).trans (div_le_div_of_nonneg_left hnonneg (by positivity) ?_)
    have hcast : (i : K) ≤ j := Nat.cast_le.mpr hij
    linarith

/-- A p-value passes if it is at most the level once scaled. -/
theorem scaled_le_iff {j : ℕ} {x level : K} (hx : sorted[j]? = some x) :
    x * sorted.length / (j + 1) ≤ level ↔ x ≤ (j + 1) * level / sorted.length := by
  have hlength : (0 : K) < sorted.length :=
    Nat.cast_pos.mpr ((Nat.zero_le j).trans_lt (List.getElem?_eq_some_iff.mp hx).1)
  have hplace : (0 : K) < (j : K) + 1 := by positivity
  rw [div_le_iff₀ hplace, le_div_iff₀ hlength, mul_comm level]

/-- An adjusted value is at most the level exactly when the rule rejects the p-value. -/
theorem adjusted_le_iff_passes (hsorted : sorted.Pairwise (· ≤ ·))
    (hunit : ∀ x ∈ sorted, 0 ≤ x ∧ x ≤ 1) {k : ℕ} {x level : K} (hx : sorted[k]? = some x) :
    adjusted sorted k ≤ level ↔ ∃ y, Passes sorted level y ∧ x ≤ y := by
  rw [adjusted_le_iff]
  constructor
  · rintro (hone | ⟨j, y, hj, hy, hle⟩)
    · -- the largest of all passes
      have hlast : sorted.length - 1 < sorted.length := by
        have := (List.getElem?_eq_some_iff.mp hx).1
        omega
      have hlastx := List.getElem?_eq_getElem hlast
      refine ⟨_, ⟨sorted.length - 1, hlastx, ?_⟩, le_of_sorted hsorted hx hlastx ?_⟩
      · rw [← scaled_le_iff hlastx]
        have hcast : ((sorted.length - 1 : ℕ) : K) + 1 = sorted.length := by
          exact_mod_cast Nat.sub_add_cancel (by omega : 1 ≤ sorted.length)
        have hpos : (sorted.length : K) ≠ 0 := Nat.cast_ne_zero.mpr (by omega)
        rw [hcast, mul_div_cancel_right₀ _ hpos]
        exact (hunit _ (List.getElem_mem hlast)).2.trans hone
      · have := (List.getElem?_eq_some_iff.mp hx).1
        omega
    · exact ⟨y, ⟨j, hy, (scaled_le_iff hy).mp hle⟩, le_of_sorted hsorted hx hy hj⟩
  · rintro ⟨y, ⟨j, hy, hpass⟩, hxy⟩
    rw [← scaled_le_iff hy] at hpass
    rcases le_total k j with hkj | hjk
    · exact .inr ⟨j, y, hkj, hy, hpass⟩
    · -- an earlier p-value that passes is the same one, and passes later too
      have hyx : y = x := le_antisymm (le_of_sorted hsorted hy hx hjk) hxy
      refine .inr ⟨k, x, le_rfl, hx, ?_⟩
      rw [hyx] at hpass
      have hnonneg : 0 ≤ x * (sorted.length : K) :=
        mul_nonneg (hunit x (List.mem_of_getElem? hx)).1 (Nat.cast_nonneg _)
      refine (div_le_div_of_nonneg_left hnonneg (by positivity) ?_).trans hpass
      have hcast : (j : K) ≤ k := Nat.cast_le.mpr hjk
      linarith

end StepUp

end ProofAlpha.Lib
