/-
`random.Random(seed)` as a generator passed along explicitly.

Which numbers a seed draws is left open: the generator is a structure over the
state of the Mersenne twister whose fields say where a draw lies, as the standard
library documents it. A draw returns its value and the state after it.
-/
import Mathlib.Algebra.Order.Group.Defs
import Mathlib.Data.List.Perm.Basic
import Mathlib.Probability.CDF
import Mathlib.Probability.Distributions.Gaussian.Real
import Mathlib.Tactic.Common
import ProofAlpha.Lib.PyMath

set_option autoImplicit false

namespace ProofAlpha.Lib

/-- A pseudo-random generator whose floats are numbers of `K`. -/
structure PyRandom (K : Type) where
  State : Type
  /-- `random.Random(seed)`. -/
  seeded : ℤ → State
  /-- `rng.randint(low, high)`, both ends included. -/
  randint : State → ℕ → ℕ → ℕ × State
  /-- `rng.randrange(stop)`. -/
  randrange : State → ℕ → ℕ × State
  /-- `rng.random()`. -/
  random : State → K × State
  /-- `rng.shuffle(items)`, the shuffled list returned. -/
  shuffle : State → List ℕ → List ℕ × State
  randint_mem : ∀ state low high, low ≤ high →
    low ≤ (randint state low high).1 ∧ (randint state low high).1 ≤ high
  randrange_lt : ∀ state stop, 0 < stop → (randrange state stop).1 < stop
  shuffle_perm : ∀ state items, (shuffle state items).1.Perm items

namespace PyRandom

variable {K : Type} (rng : PyRandom K)

/-- A shuffle of `range(1, n)` after the entry `0` visits the positions below `n`. -/
theorem lt_of_mem_shuffle_tail (state : rng.State) {n i : ℕ}
    (h : i ∈ 0 :: (rng.shuffle state (List.range' 1 (n - 1))).1) (hn : 0 < n) : i < n := by
  rcases List.mem_cons.mp h with hi | hi
  · omega
  · have hmem := (rng.shuffle_perm state _).mem_iff.mp hi
    rw [List.mem_range'_1] at hmem
    omega

end PyRandom

end ProofAlpha.Lib

/-!
`statistics.NormalDist()`: the standard normal distribution.

`NormalDist K` has the two methods that a program calls and the facts about them that
are used: `cdf` is strictly increasing, lies strictly between zero and one, is one half
at zero, and `inv_cdf` is its inverse. `NormalDist.standard` is the real one.
-/

namespace ProofAlpha.Lib

/-- The standard normal distribution over `K`. -/
structure NormalDist (K : Type) [Field K] [LinearOrder K] where
  /-- `cdf(x)`. -/
  cdf : K → K
  /-- `inv_cdf(p)` for `p` strictly between zero and one. -/
  inv_cdf : K → K
  cdf_strictMono : StrictMono cdf
  cdf_pos : ∀ x, 0 < cdf x
  cdf_lt_one : ∀ x, cdf x < 1
  cdf_zero : cdf 0 = 1 / 2
  cdf_inv_cdf : ∀ p, 0 < p → p < 1 → cdf (inv_cdf p) = p

namespace NormalDist

variable {K : Type} [Field K] [LinearOrder K] (normal : NormalDist K)

/-- A probability is reached from its quantile on. -/
theorem le_cdf_iff {p x : K} (hpos : 0 < p) (hlt : p < 1) :
    p ≤ normal.cdf x ↔ normal.inv_cdf p ≤ x := by
  conv_rhs => rw [← normal.cdf_strictMono.le_iff_le, normal.cdf_inv_cdf p hpos hlt]

/-- The quantile of a value of `cdf`. -/
theorem inv_cdf_cdf (x : K) : normal.inv_cdf (normal.cdf x) = x :=
  normal.cdf_strictMono.injective
    (normal.cdf_inv_cdf _ (normal.cdf_pos x) (normal.cdf_lt_one x))

/-- Quantiles are not negative from one half on. -/
theorem inv_cdf_nonneg_iff {p : K} (hpos : 0 < p) (hlt : p < 1) :
    0 ≤ normal.inv_cdf p ↔ 1 / 2 ≤ p := by
  rw [← normal.cdf_strictMono.le_iff_le, normal.cdf_inv_cdf p hpos hlt, normal.cdf_zero]

end NormalDist

/-! ## The real distribution -/

open MeasureTheory ProbabilityTheory Filter Topology

/-- The distribution function of the standard normal distribution. -/
noncomputable def gaussian_cdf (x : ℝ) : ℝ := cdf (gaussianReal 0 1) x

theorem gaussian_cdf_strictMono : StrictMono gaussian_cdf := by
  intro a b hab
  have hspan : 0 < (gaussianReal 0 1).real (Set.Ioc a b) := by
    rw [measureReal_def, ENNReal.toReal_pos_iff]
    refine ⟨?_, measure_lt_top _ _⟩
    rw [pos_iff_ne_zero]
    intro hzero
    have hvolume := gaussianReal_absolutelyContinuous' 0 one_ne_zero hzero
    rw [Real.volume_Ioc, ENNReal.ofReal_eq_zero] at hvolume
    linarith
  have hsplit : (gaussianReal 0 1).real (Set.Iic b)
      = (gaussianReal 0 1).real (Set.Iic a) + (gaussianReal 0 1).real (Set.Ioc a b) := by
    rw [← Set.Iic_union_Ioc_eq_Iic hab.le, measureReal_union _ measurableSet_Ioc]
    exact (Set.Iic_disjoint_Ioc le_rfl)
  rw [gaussian_cdf, gaussian_cdf, cdf_eq_real, cdf_eq_real, hsplit]
  linarith

/-- A point has no mass, so the distribution function does not jump. -/
theorem gaussian_cdf_continuous : Continuous gaussian_cdf := by
  have hatomless : NullSingletonClass (gaussianReal 0 1) :=
    nullSingletonClass_gaussianReal one_ne_zero
  rw [continuous_iff_continuousAt]
  intro x
  have hmono := (cdf (gaussianReal 0 1)).mono
  have hjump := (cdf (gaussianReal 0 1)).measure_singleton x
  rw [measure_cdf, measure_singleton, eq_comm, ENNReal.ofReal_eq_zero] at hjump
  have hleft : Function.leftLim (cdf (gaussianReal 0 1)) x = cdf (gaussianReal 0 1) x :=
    le_antisymm (hmono.leftLim_le le_rfl) (by linarith)
  have hright := (cdf (gaussianReal 0 1)).rightLim_eq x
  exact hmono.continuousAt_iff_leftLim_eq_rightLim.mpr (hleft.trans hright.symm)

/-- Half of the mass lies on either side of zero. -/
theorem gaussian_cdf_zero : gaussian_cdf 0 = 1 / 2 := by
  have hatomless : NullSingletonClass (gaussianReal 0 1) :=
    nullSingletonClass_gaussianReal one_ne_zero
  have hflip : (gaussianReal 0 1).map (fun x => -x) = gaussianReal 0 1 := by
    rw [gaussianReal_map_neg, neg_zero]
  have hsame : (gaussianReal 0 1).real (Set.Ici 0) = (gaussianReal 0 1).real (Set.Iic 0) := by
    conv_rhs => rw [← hflip]
    rw [map_measureReal_apply measurable_neg measurableSet_Iic]
    congr 1
    ext x
    simp
  have hstrict : (gaussianReal 0 1).real (Set.Ioi 0) = (gaussianReal 0 1).real (Set.Ici 0) :=
    measureReal_congr Ioi_ae_eq_Ici
  have htotal : (gaussianReal 0 1).real (Set.Iic 0) + (gaussianReal 0 1).real (Set.Ioi 0) = 1 := by
    rw [← measureReal_union (Set.Iic_disjoint_Ioi le_rfl) measurableSet_Ioi,
      Set.Iic_union_Ioi, probReal_univ]
  rw [gaussian_cdf, cdf_eq_real]
  linarith

/-- Every probability strictly between zero and one is reached. -/
theorem exists_gaussian_cdf_eq {p : ℝ} (hpos : 0 < p) (hlt : p < 1) :
    ∃ x, gaussian_cdf x = p := by
  obtain ⟨a, ha⟩ := ((tendsto_cdf_atBot (gaussianReal 0 1)).eventually_lt_const hpos).exists
  obtain ⟨b, hb⟩ := ((tendsto_cdf_atTop (gaussianReal 0 1)).eventually_const_lt hlt).exists
  exact mem_range_of_exists_le_of_exists_ge gaussian_cdf_continuous ⟨a, ha.le⟩ ⟨b, hb.le⟩

/-- The standard normal distribution over the reals. -/
noncomputable def NormalDist.standard : NormalDist ℝ where
  cdf := gaussian_cdf
  inv_cdf := Function.invFun gaussian_cdf
  cdf_strictMono := gaussian_cdf_strictMono
  cdf_pos := fun x => (cdf_nonneg (gaussianReal 0 1) (x - 1)).trans_lt
    (gaussian_cdf_strictMono (by linarith))
  cdf_lt_one := fun x => (gaussian_cdf_strictMono (by linarith : x < x + 1)).trans_le
    (cdf_le_one (gaussianReal 0 1) (x + 1))
  cdf_zero := gaussian_cdf_zero
  cdf_inv_cdf := fun p hpos hlt => Function.invFun_eq (exists_gaussian_cdf_eq hpos hlt)

end ProofAlpha.Lib
