/-
The statistics of a return series (`validation/statistics.py`): Sharpe ratio, moments,
probabilistic Sharpe ratio and minimum backtest length.

The two last are a formula of the sample's moments each; it stands beside the function
that computes the moments, so that the formulas can be compared at any moments.

The length solves `psr(n) ≥ target` for the number of observations `n`, with the same
variance term. It squares the target's quantile, so a target below one half, whose
quantile is negative and which every sample meets, is given a length as well.
-/
import Mathlib.Analysis.SpecialFunctions.Pow.Real
import ProofAlpha.Lib.PyMath
import ProofAlpha.Lib.PyRandom

set_option autoImplicit false

namespace ProofAlpha.Validation

open ProofAlpha.Lib

section Formulas


variable {K : Type} [Field K] [LinearOrder K] (m : PyMath K) (normal : NormalDist K)

/-! ## Moments -/

/-- `[value - mean_return for value in returns]`. -/
def centered (returns : List K) : List K :=
  returns.map fun value => value - returns.sum / (returns.length : K)

/-- The sample variance. -/
def sample_variance (returns : List K) : K :=
  ((centered returns).map fun value => value ^ 2).sum / ((returns.length : K) - 1)

/-- `compute_observed_sharpe_ratio`. -/
def compute_observed_sharpe_ratio (returns : List K) : K :=
  if returns.length < 2 then 0
  else if sample_variance returns ≤ 0 then 0
  else returns.sum / (returns.length : K) / m.sqrt (sample_variance returns)

/-- `compute_sample_skewness`. -/
def compute_sample_skewness (returns : List K) : K :=
  if returns.length < 3 then 0
  else if sample_variance returns ≤ 0 then 0
  else
    let sample_count : K := returns.length
    let standard_deviation := m.sqrt (sample_variance returns)
    let third_moment := ((centered returns).map fun value => (value / standard_deviation) ^ 3).sum
    sample_count / ((sample_count - 1) * (sample_count - 2)) * third_moment

/-- `compute_sample_kurtosis`. -/
def compute_sample_kurtosis (returns : List K) : K :=
  if returns.length < 4 then 3
  else if sample_variance returns ≤ 0 then 3
  else
    let sample_count : K := returns.length
    let standard_deviation := m.sqrt (sample_variance returns)
    let fourth_moment := ((centered returns).map fun value => (value / standard_deviation) ^ 4).sum
    let coefficient := sample_count * (sample_count + 1)
      / ((sample_count - 1) * (sample_count - 2) * (sample_count - 3))
    let correction := 3 * (sample_count - 1) ^ 2 / ((sample_count - 2) * (sample_count - 3))
    coefficient * fourth_moment - correction + 3

/-! ## The probabilistic Sharpe ratio -/

/-- The numerator of the variance in `estimate_sharpe_ratio_standard_error`. -/
def sharpe_variance_term (sharpe_ratio skewness kurtosis : K) : K :=
  1 - skewness * sharpe_ratio + (kurtosis - 1) / 4 * sharpe_ratio ^ 2

/-- `estimate_sharpe_ratio_standard_error` at the moments of a sample. -/
def standard_error_of (sample_count : ℕ) (sharpe_ratio skewness kurtosis : K) : K :=
  m.sqrt (max (sharpe_variance_term sharpe_ratio skewness kurtosis / ((sample_count : K) - 1)) 0)

/-- `compute_probabilistic_sharpe_ratio` at the moments of a sample of two or more. -/
def probabilistic_sharpe_ratio_of (sample_count : ℕ) (observed_sharpe skewness kurtosis : K)
    (benchmark_sharpe : K) : K :=
  let standard_error := standard_error_of m sample_count observed_sharpe skewness kurtosis
  if standard_error ≤ 0 then if benchmark_sharpe < observed_sharpe then 1 else 1 / 2
  else max 0 (min 1 (normal.cdf ((observed_sharpe - benchmark_sharpe) / standard_error)))

/-- `compute_probabilistic_sharpe_ratio`. -/
def compute_probabilistic_sharpe_ratio (returns : List K) (benchmark_sharpe : K) : K :=
  if returns.length < 2 then 1 / 2
  else
    probabilistic_sharpe_ratio_of m normal returns.length
      (compute_observed_sharpe_ratio m returns) (compute_sample_skewness m returns)
      (compute_sample_kurtosis m returns) benchmark_sharpe

/-! ## The minimum backtest length -/

/-- `k_term`, floored. -/
def k_term (observed_sharpe skew kurt : K) : K :=
  max (1 / 10000)
    (1 + 1 / 2 * observed_sharpe ^ 2 - skew * observed_sharpe
      + (kurt - 3) / 4 * observed_sharpe ^ 2)

/-- `min_btl`: the length before it is rounded up. -/
def min_btl (observed_sharpe skew kurt target_sharpe target_psr : K) : K :=
  let z_target := normal.inv_cdf target_psr
  1 + k_term observed_sharpe skew kurt * (z_target / (observed_sharpe - target_sharpe)) ^ 2

/-- `compute_minimum_backtest_length`; `inv_cdf` raises for a target that is not strictly
between zero and one. -/
def compute_minimum_backtest_length [FloorRing K] (returns : List K)
    (target_sharpe target_psr : K) : Except String ℤ :=
  if returns.length < 4 then .ok 0
  else if compute_observed_sharpe_ratio m returns ≤ target_sharpe then .ok 9999999
  else if target_psr ≤ 0 ∨ 1 ≤ target_psr then .error "p must be in the range 0.0 < p < 1.0"
  else
    .ok ⌈min_btl normal (compute_observed_sharpe_ratio m returns)
      (compute_sample_skewness m returns) (compute_sample_kurtosis m returns) target_sharpe
      target_psr⌉

end Formulas

/-! ## The minimum length and the probabilistic ratio -/

section TrackLength


variable {K : Type} [Field K] [LinearOrder K] [IsStrictOrderedRing K]

/-- The two formulas have one variance term, above the floor. -/
theorem k_term_eq {sharpe skew kurt : K}
    (hterm : 1 / 10000 ≤ sharpe_variance_term sharpe skew kurt) :
    k_term sharpe skew kurt = sharpe_variance_term sharpe skew kurt := by
  have hsame : 1 + 1 / 2 * sharpe ^ 2 - skew * sharpe + (kurt - 3) / 4 * sharpe ^ 2
      = sharpe_variance_term sharpe skew kurt := by
    rw [sharpe_variance_term]
    ring
  rw [k_term, hsame, max_eq_right hterm]

/-- The length is reached when the squared quantile is. -/
theorem min_btl_le_iff (normal : NormalDist K) {sharpe skew kurt target : K} (n : ℕ)
    (hsharpe : 0 < sharpe) (hterm : 1 / 10000 ≤ sharpe_variance_term sharpe skew kurt) :
    min_btl normal sharpe skew kurt 0 target ≤ n ↔
      sharpe_variance_term sharpe skew kurt * normal.inv_cdf target ^ 2
        ≤ ((n : K) - 1) * sharpe ^ 2 := by
  have hsquare : 0 < sharpe ^ 2 := pow_pos hsharpe 2
  rw [min_btl, k_term_eq hterm, sub_zero, div_pow, ← mul_div_assoc, ← le_sub_iff_add_le',
    div_le_iff₀ hsquare]

variable (normal : NormalDist ℝ) {n : ℕ} {sharpe skew kurt target : ℝ}

/-- The ratio reaches a target when the Sharpe ratio, in standard errors, reaches its
quantile. -/
theorem le_probabilistic_sharpe_ratio_iff (hn : 2 ≤ n)
    (hterm : 1 / 10000 ≤ sharpe_variance_term sharpe skew kurt) (hpos : 0 < target)
    (hlt : target < 1) :
    target ≤ probabilistic_sharpe_ratio_of PyMath.real normal n sharpe skew kurt 0 ↔
      normal.inv_cdf target * √(sharpe_variance_term sharpe skew kurt / ((n : ℝ) - 1))
        ≤ sharpe := by
  have hcount : (0 : ℝ) < (n : ℝ) - 1 := by
    have hcast : (2 : ℝ) ≤ n := by exact_mod_cast hn
    linarith
  have hvariance : 0 < sharpe_variance_term sharpe skew kurt / ((n : ℝ) - 1) :=
    div_pos (by linarith) hcount
  have herror : standard_error_of PyMath.real n sharpe skew kurt
      = √(sharpe_variance_term sharpe skew kurt / ((n : ℝ) - 1)) := by
    rw [standard_error_of, max_eq_left hvariance.le]
    rfl
  have hroot : 0 < √(sharpe_variance_term sharpe skew kurt / ((n : ℝ) - 1)) :=
    Real.sqrt_pos.mpr hvariance
  simp only [probabilistic_sharpe_ratio_of, herror, if_neg (not_le.mpr hroot), sub_zero]
  rw [min_eq_right (normal.cdf_lt_one _).le, max_eq_right (normal.cdf_pos _).le,
    normal.le_cdf_iff hpos hlt, le_div_iff₀ hroot]

/-- From one half on the comparison may be squared. -/
theorem quantile_le_iff_of_nonneg (hn : 2 ≤ n) (hsharpe : 0 < sharpe) {z term : ℝ} (hz : 0 ≤ z)
    (hterm : 0 < term) :
    z * √(term / ((n : ℝ) - 1)) ≤ sharpe ↔ term * z ^ 2 ≤ ((n : ℝ) - 1) * sharpe ^ 2 := by
  have hcount : (0 : ℝ) < (n : ℝ) - 1 := by
    have hcast : (2 : ℝ) ≤ n := by exact_mod_cast hn
    linarith
  have hratio : 0 ≤ term / ((n : ℝ) - 1) := (div_pos hterm hcount).le
  have hleft : 0 ≤ z * √(term / ((n : ℝ) - 1)) := mul_nonneg hz (Real.sqrt_nonneg _)
  rw [← sq_le_sq₀ hleft hsharpe.le, mul_pow, Real.sq_sqrt hratio, ← mul_div_assoc,
    div_le_iff₀ hcount, mul_comm (z ^ 2) term, mul_comm (sharpe ^ 2)]

/-- The ratio and the length agree from a target of one half on, and below it where the
sample has the length in any case. -/
theorem track_length_iff (hn : 2 ≤ n) (hsharpe : 0 < sharpe)
    (hterm : 1 / 10000 ≤ sharpe_variance_term sharpe skew kurt) (hpos : 0 < target)
    (hlt : target < 1) :
    (target ≤ probabilistic_sharpe_ratio_of PyMath.real normal n sharpe skew kurt 0 ↔
        min_btl normal sharpe skew kurt 0 target ≤ n) ↔
      (1 / 2 ≤ target ∨ sharpe_variance_term sharpe skew kurt * normal.inv_cdf target ^ 2
        ≤ ((n : ℝ) - 1) * sharpe ^ 2) := by
  have htermpos : 0 < sharpe_variance_term sharpe skew kurt := by linarith
  rw [le_probabilistic_sharpe_ratio_iff normal hn hterm hpos hlt,
    min_btl_le_iff normal n hsharpe hterm]
  by_cases hhalf : 1 / 2 ≤ target
  · have hz := (normal.inv_cdf_nonneg_iff hpos hlt).mpr hhalf
    simp only [hhalf, true_or, iff_true]
    exact quantile_le_iff_of_nonneg hn hsharpe hz htermpos
  · -- a negative quantile is below the Sharpe ratio whatever the sample
    have hz : normal.inv_cdf target < 0 := by
      rw [← not_le, normal.inv_cdf_nonneg_iff hpos hlt]
      exact hhalf
    have hmet : normal.inv_cdf target
        * √(sharpe_variance_term sharpe skew kurt / ((n : ℝ) - 1)) ≤ sharpe :=
      (mul_nonpos_of_nonpos_of_nonneg hz.le (Real.sqrt_nonneg _)).trans hsharpe.le
    simp only [hmet, true_iff, hhalf, false_or]

/-- For every target and moments whose variance term is above the floor: a sample of two
observations or more has the probabilistic Sharpe ratio exactly from the derived length
on, if the target is at least one half or the sample is long enough for the squared
quantile; and likewise for the functions of a return series that is long enough for a
length to be derived, with the length rounded up. -/
theorem minimum_length_iff (target : ℝ) (hpos : 0 < target) (hlt : target < 1) :
    (∀ (n : ℕ) (sharpe skew kurt : ℝ), 2 ≤ n → 0 < sharpe →
      1 / 10000 ≤ sharpe_variance_term sharpe skew kurt →
      ((target ≤ probabilistic_sharpe_ratio_of PyMath.real normal n sharpe skew kurt 0 ↔
          min_btl normal sharpe skew kurt 0 target ≤ n) ↔
        (1 / 2 ≤ target ∨ sharpe_variance_term sharpe skew kurt * normal.inv_cdf target ^ 2
          ≤ ((n : ℝ) - 1) * sharpe ^ 2))) ∧
    ∀ (returns : List ℝ) (sharpe term : ℝ), 4 ≤ returns.length →
      sharpe = compute_observed_sharpe_ratio PyMath.real returns → 0 < sharpe →
      term = sharpe_variance_term sharpe (compute_sample_skewness PyMath.real returns)
        (compute_sample_kurtosis PyMath.real returns) → 1 / 10000 ≤ term →
      ∃ length, compute_minimum_backtest_length PyMath.real normal returns 0 target = .ok length ∧
        ((target ≤ compute_probabilistic_sharpe_ratio PyMath.real normal returns 0 ↔
            length ≤ returns.length) ↔
          (1 / 2 ≤ target ∨ term * normal.inv_cdf target ^ 2
            ≤ ((returns.length : ℝ) - 1) * sharpe ^ 2)) := by
  constructor
  · intro n sharpe skew kurt hn hsharpe hterm
    exact track_length_iff normal hn hsharpe hterm hpos hlt
  · rintro returns sharpe term hlength rfl hsharpe rfl hterm
    have hrange : ¬ (target ≤ 0 ∨ 1 ≤ target) := by simp [hpos, hlt]
    have hderived : compute_minimum_backtest_length PyMath.real normal returns 0 target
        = .ok ⌈min_btl normal (compute_observed_sharpe_ratio PyMath.real returns)
            (compute_sample_skewness PyMath.real returns)
            (compute_sample_kurtosis PyMath.real returns) 0 target⌉ := by
      rw [compute_minimum_backtest_length, if_neg (by omega), if_neg (not_le.mpr hsharpe),
        if_neg hrange]
    refine ⟨_, hderived, ?_⟩
    rw [compute_probabilistic_sharpe_ratio, if_neg (by omega), Int.ceil_le, Int.cast_natCast]
    exact track_length_iff normal (by omega) hsharpe hterm hpos hlt

/-- Five observations with Sharpe ratio 1, skewness 0 and kurtosis 0, those of
`[0.0, 0.0, 0.02, 0.04, 0.04]`, meet a target of `cdf(-3)`, for which the length is 7.75. -/
theorem low_target_demands_length :
    ¬ ∀ (normal : NormalDist ℝ) (target : ℝ) (n : ℕ) (sharpe skew kurt : ℝ),
      0 < target → target < 1 → 2 ≤ n → 0 < sharpe →
      1 / 10000 ≤ sharpe_variance_term sharpe skew kurt →
      (target ≤ probabilistic_sharpe_ratio_of PyMath.real normal n sharpe skew kurt 0 ↔
        min_btl normal sharpe skew kurt 0 target ≤ n) := by
  intro hclaim
  set normal := NormalDist.standard
  have hpos := normal.cdf_pos (-3)
  have hlt := normal.cdf_lt_one (-3)
  have hterm : (1 / 10000 : ℝ) ≤ sharpe_variance_term 1 0 0 := by
    norm_num [sharpe_variance_term]
  have hclaim := hclaim normal (normal.cdf (-3)) 5 1 0 0 hpos hlt (by omega) one_pos hterm
  have hcondition := (track_length_iff normal (by omega : 2 ≤ 5) one_pos hterm hpos hlt).mp hclaim
  rcases hcondition with hhalf | hlong
  · rw [← normal.cdf_zero, normal.cdf_strictMono.le_iff_le] at hhalf
    norm_num at hhalf
  · rw [normal.inv_cdf_cdf, sharpe_variance_term] at hlong
    norm_num at hlong

/-- The equivalence at a target of 0.95 of the standard normal distribution. -/
theorem minimum_length_iff_five :
    (19 / 20 ≤ probabilistic_sharpe_ratio_of PyMath.real NormalDist.standard 5 1 0 0 0 ↔
        min_btl NormalDist.standard 1 0 0 0 (19 / 20) ≤ (5 : ℕ)) ↔
      (1 / 2 ≤ (19 / 20 : ℝ) ∨
        sharpe_variance_term 1 0 0 * NormalDist.standard.inv_cdf (19 / 20) ^ 2
          ≤ (((5 : ℕ) : ℝ) - 1) * 1 ^ 2) :=
  (minimum_length_iff NormalDist.standard (19 / 20) (by norm_num) (by norm_num)).1 5 1 0 0
    (by omega) one_pos (by norm_num [sharpe_variance_term])

end TrackLength

end ProofAlpha.Validation
