/-
Risk statistics of an equity curve (`backtest/risk.py`) and what `max_drawdown` reads off
the curve.

The loop compares the capital `max(1e-9, 1.0 + value)` of every bar with its
running peak. The result is never positive; it is zero exactly where the capital
never falls, and it is small where every value is.
-/
import Mathlib.Algebra.Order.Field.Basic
import Mathlib.Data.List.Chain
import Mathlib.Data.List.Pairwise
import Mathlib.Tactic.Linarith
import Mathlib.Tactic.NormNum
import ProofAlpha.Lib.PyMath
import ProofAlpha.Lib.RunningMaxima

set_option autoImplicit false

/-! ## The statistics -/

namespace ProofAlpha.Backtest

open ProofAlpha.Lib

variable {K : Type} [Field K] [LinearOrder K]

/-- One pass of the loop of `max_drawdown`: the running peak and the worst
drawdown, each updated from one equity value. -/
def max_drawdown_step (acc : K × K) (value : K) : K × K :=
  let equity := max 1e-9 (1 + value)
  let peak := max acc.1 equity
  (peak, min acc.2 (equity / peak - 1))

def max_drawdown : List K → K
  | [] => 0
  | first :: rest => ((first :: rest).foldl max_drawdown_step (1 + first, 0)).2

def sharpe_ratio (m : PyMath K) (returns : List K) (annualization_factor : K) : K :=
  if returns.length < 2 then 0
  else
    let mean := returns.sum / (returns.length : K)
    let variance := (returns.map fun value => (value - mean) ^ 2).sum
      / ((returns.length - 1 : ℕ) : K)
    if variance ≤ 0 then 0 else mean / m.sqrt variance * annualization_factor

/-- `sortino_ratio` at its default `mar = 0.0`; `999.0` is
`_SORTINO_INF_SENTINEL`. -/
def sortino_ratio (m : PyMath K) (returns : List K) (annualization_factor : K) : K :=
  if returns.length < 2 then 0
  else
    let mean := returns.sum / (returns.length : K)
    let downside_sq := returns.map fun value => (min value 0) ^ 2
    let downside_variance := downside_sq.sum / (downside_sq.length : K)
    if downside_variance ≤ 0 then if 0 < mean then 999 * annualization_factor else 0
    else mean / m.sqrt downside_variance * annualization_factor

end ProofAlpha.Backtest

/-!
What `max_drawdown` reads off an equity curve.

The loop compares the capital `max(1e-9, 1.0 + value)` of every bar with its
running peak. The result is never positive; it is zero exactly where the capital
never falls, and it is small where every value is.
-/

namespace ProofAlpha.Backtest

variable {K : Type} [Field K] [LinearOrder K]

/-- `equity` of the loop: the starting capital of one plus the value, floored. -/
def capital (value : K) : K := max 1e-9 (1 + value)

theorem max_drawdown_step_eq (peak worst value : K) :
    max_drawdown_step (peak, worst) value
      = (max peak (capital value), min worst (capital value / max peak (capital value) - 1)) := rfl

variable [IsStrictOrderedRing K]

theorem capital_pos (value : K) : 0 < capital value := lt_max_of_lt_left (by norm_num)

/-- More value is no less capital. -/
theorem capital_mono {a b : K} (h : a ≤ b) : capital a ≤ capital b :=
  max_le_max le_rfl (by linarith)

/-- Above the floor the capital orders the values as they are. -/
theorem le_of_capital_le {a b : K} (ha : -(1 / 2) ≤ a) (h : capital a ≤ capital b) : a ≤ b := by
  have hfloor : (1e-9 : K) < 1 / 2 := by norm_num
  have hle : 1 + a ≤ max 1e-9 (1 + b) := le_trans (le_max_right _ _) h
  rcases le_max_iff.mp hle with hlow | hb
  · linarith
  · linarith

/-- One bar's drawdown is not positive. -/
theorem bar_drawdown_nonpos (peak value : K) :
    capital value / max peak (capital value) - 1 ≤ 0 := by
  have hpeak : 0 < max peak (capital value) := lt_max_of_lt_right (capital_pos value)
  have hle : capital value / max peak (capital value) ≤ 1 :=
    (div_le_one hpeak).mpr (le_max_right _ _)
  linarith

/-- One bar has no drawdown exactly when it reaches the peak. -/
theorem bar_drawdown_eq_zero_iff (peak value : K) :
    capital value / max peak (capital value) - 1 = 0 ↔ peak ≤ capital value := by
  have hpeak : 0 < max peak (capital value) := lt_max_of_lt_right (capital_pos value)
  rw [sub_eq_zero, div_eq_one_iff_eq (ne_of_gt hpeak), eq_comm, max_eq_right_iff]

omit [IsStrictOrderedRing K] in
/-- Two figures that are not positive have the minimum zero when both are zero. -/
theorem min_eq_zero_iff_of_nonpos {a b : K} (ha : a ≤ 0) (hb : b ≤ 0) :
    min a b = 0 ↔ a = 0 ∧ b = 0 := by
  constructor
  · intro h
    have h0 : (0 : K) ≤ a ∧ 0 ≤ b := le_min_iff.mp (le_of_eq h.symm)
    exact ⟨le_antisymm ha h0.1, le_antisymm hb h0.2⟩
  · rintro ⟨rfl, rfl⟩
    exact min_self 0

/-- The loop ends at zero exactly when it starts there and every capital reaches
the one before it. -/
theorem drawdown_fold_eq_zero_iff (values : List K) : ∀ peak worst : K, worst ≤ 0 →
    ((values.foldl max_drawdown_step (peak, worst)).2 = 0
      ↔ worst = 0 ∧ List.IsChain (· ≤ ·) (peak :: values.map capital)) := by
  induction values with
  | nil =>
      intro peak worst _
      simp
  | cons value rest ih =>
      intro peak worst hworst
      have hbar := bar_drawdown_nonpos peak value
      rw [List.foldl_cons, max_drawdown_step_eq, ih _ _ (min_le_of_left_le hworst),
        min_eq_zero_iff_of_nonpos hworst hbar, bar_drawdown_eq_zero_iff, List.map_cons,
        List.isChain_cons_cons, and_assoc]
      refine and_congr_right fun _ => and_congr_right fun hreach => ?_
      rw [max_eq_right hreach]

omit [IsStrictOrderedRing K] in
/-- The loop's worst drawdown only ever falls. -/
theorem drawdown_fold_le (values : List K) : ∀ peak worst : K,
    (values.foldl max_drawdown_step (peak, worst)).2 ≤ worst := by
  induction values with
  | nil =>
      intro peak worst
      exact le_rfl
  | cons value rest ih =>
      intro peak worst
      rw [List.foldl_cons, max_drawdown_step_eq]
      exact le_trans (ih _ _) (min_le_left _ _)

omit [IsStrictOrderedRing K] in
theorem max_drawdown_nonpos (curve : List K) : max_drawdown curve ≤ 0 := by
  cases curve with
  | nil => exact le_rfl
  | cons first rest => exact drawdown_fold_le _ _ _

/-- There is no drawdown exactly when the capital never falls. -/
theorem max_drawdown_eq_zero_iff (curve : List K) :
    max_drawdown curve = 0 ↔ List.IsChain (· ≤ ·) (curve.map capital) := by
  cases curve with
  | nil => simp [max_drawdown]
  | cons first rest =>
      rw [max_drawdown, drawdown_fold_eq_zero_iff _ _ _ le_rfl, List.map_cons,
        List.isChain_cons_cons]
      have hfirst : 1 + first ≤ capital first := le_max_right _ _
      simp [hfirst]

/-- The loop stays above a bound that every bar keeps. -/
theorem drawdown_fold_ge {δ : K} (hδ : δ ≤ 1 / 2) (values : List K) : ∀ peak worst : K,
    peak ≤ 1 + δ → -(2 * δ) ≤ worst → (∀ value ∈ values, |value| ≤ δ) →
    -(2 * δ) ≤ (values.foldl max_drawdown_step (peak, worst)).2 := by
  induction values with
  | nil =>
      intro peak worst _ hworst _
      exact hworst
  | cons value rest ih =>
      intro peak worst hpeak hworst hvalues
      obtain ⟨hvalue, hrest⟩ := List.forall_mem_cons.mp hvalues
      obtain ⟨hlow, hhigh⟩ := abs_le.mp hvalue
      have hfloor : (1e-9 : K) ≤ 1 / 2 := by norm_num
      have hcapital : capital value = 1 + value := max_eq_right (by linarith)
      have htop : max peak (capital value) ≤ 1 + δ := by
        rw [hcapital]
        exact max_le hpeak (by linarith)
      have hpos : 0 < max peak (capital value) := lt_max_of_lt_right (capital_pos value)
      have hbar : -(2 * δ) ≤ capital value / max peak (capital value) - 1 := by
        have hδ0 : 0 ≤ δ := le_trans (abs_nonneg value) hvalue
        have hdiv : 1 - 2 * δ ≤ capital value / max peak (capital value) := by
          rw [le_div_iff₀ hpos]
          calc (1 - 2 * δ) * max peak (capital value) ≤ (1 - 2 * δ) * (1 + δ) :=
                mul_le_mul_of_nonneg_left htop (by linarith)
            _ ≤ 1 - δ := by nlinarith
            _ ≤ capital value := by rw [hcapital]; linarith
        linarith
      rw [List.foldl_cons, max_drawdown_step_eq]
      exact ih _ _ htop (le_min hworst hbar) hrest

/-- Small values make a small drawdown. -/
theorem max_drawdown_ge {curve : List K} {δ : K} (hδ0 : 0 ≤ δ) (hδ : δ ≤ 1 / 2)
    (h : ∀ value ∈ curve, |value| ≤ δ) : -(2 * δ) ≤ max_drawdown curve := by
  cases curve with
  | nil =>
      rw [max_drawdown]
      linarith
  | cons first rest =>
      have hfirst := abs_le.mp (h first List.mem_cons_self)
      exact drawdown_fold_ge hδ _ _ _ (by linarith [hfirst.2]) (by linarith) h

end ProofAlpha.Backtest

/-!
`max_drawdown` as a minimum over pairs of bars.

The loop compares each bar's capital with the running peak only. Capital is positive,
so a higher peak never gives the smaller loss, and what the loop finds is the worst
loss from any bar to a later one. The floor keeps every loss above that of everything.
-/

namespace ProofAlpha.Backtest

open ProofAlpha.Lib

variable {K : Type} [Field K] [LinearOrder K]

/-- What a curve gains or loses, relative to its capital, from a bar to that bar or a
later one. -/
def pair_drawdowns (curve : List K) : Set K :=
  {d | ∃ i j : ℕ, ∃ a b : K, i ≤ j ∧ curve[i]? = some a ∧ curve[j]? = some b ∧
    capital b / capital a - 1 = d}

/-- The pairs of bars are those of a running peak over the capitals. -/
theorem pair_drawdowns_eq_gaps (curve : List K) :
    pair_drawdowns curve
      = RunningPeak.gaps (fun peak equity : K => equity / peak - 1) (curve.map capital) := by
  ext d
  constructor
  · rintro ⟨i, j, a, b, hij, ha, hb, rfl⟩
    refine ⟨capital a, capital b, ⟨i, j, hij, ?_, ?_⟩, rfl⟩
    · rw [List.getElem?_map, ha, Option.map_some]
    · rw [List.getElem?_map, hb, Option.map_some]
  · rintro ⟨_, _, ⟨i, j, hij, ha, hb⟩, rfl⟩
    rw [List.getElem?_map, Option.map_eq_some_iff] at ha hb
    obtain ⟨a, ha, rfl⟩ := ha
    obtain ⟨b, hb, rfl⟩ := hb
    exact ⟨i, j, a, b, hij, ha, hb, rfl⟩

theorem pair_drawdowns_mono (curve more : List K) :
    pair_drawdowns curve ⊆ pair_drawdowns (curve ++ more) := by
  rw [pair_drawdowns_eq_gaps, pair_drawdowns_eq_gaps, List.map_append]
  exact RunningPeak.gaps_mono _ _ _

variable [IsStrictOrderedRing K]

/-- The first bar of the loop sets the peak and has no drawdown. -/
theorem max_drawdown_step_first (first : K) :
    max_drawdown_step (1 + first, 0) first
      = (capital first, capital first / capital first - 1) := by
  have hfirst : 1 + first ≤ capital first := le_max_right _ _
  rw [max_drawdown_step_eq, max_eq_right hfirst, div_self (capital_pos first).ne', sub_self,
    min_self]

theorem max_drawdown_cons (first : K) (rest : List K) :
    max_drawdown (first :: rest)
      = ((rest.map capital).foldl (RunningPeak.step fun peak equity : K => equity / peak - 1)
          (capital first, capital first / capital first - 1)).2 := by
  rw [max_drawdown, List.foldl_cons, max_drawdown_step_first, List.foldl_map]
  rfl

/-- The loop finds the worst pair of bars. -/
theorem isLeast_max_drawdown {curve : List K} (hcurve : curve ≠ []) :
    IsLeast (pair_drawdowns curve) (max_drawdown curve) := by
  cases curve with
  | nil => exact absurd rfl hcurve
  | cons first rest =>
      rw [pair_drawdowns_eq_gaps, max_drawdown_cons, List.map_cons]
      refine (RunningPeak.run_spec _ (capital first) (rest.map capital) ?_).2
      -- capital is positive, so a loss measured from a higher peak is the greater one
      intro a ha _ _ x hx hab
      rw [← List.map_cons] at ha hx
      obtain ⟨u, -, rfl⟩ := List.mem_map.mp ha
      obtain ⟨v, -, rfl⟩ := List.mem_map.mp hx
      exact sub_le_sub_right (div_le_div_of_nonneg_left (capital_pos v).le (capital_pos u) hab) 1

/-- A curve falls by a given share or more exactly when some pair of its bars does. -/
theorem max_drawdown_le_iff {curve : List K} {bound : K} (hbound : bound < 0) :
    max_drawdown curve ≤ bound ↔ ∃ d ∈ pair_drawdowns curve, d ≤ bound := by
  by_cases hcurve : curve = []
  · subst hcurve
    constructor
    · intro h
      exact absurd h (not_le.mpr hbound)
    · rintro ⟨_, ⟨i, j, a, b, -, ha, -, -⟩, -⟩
      simp at ha
  · have hleast := isLeast_max_drawdown hcurve
    constructor
    · intro h
      exact ⟨max_drawdown curve, hleast.1, h⟩
    · rintro ⟨d, hd, hle⟩
      exact (hleast.2 hd).trans hle

/-- Not everything is lost: the floor leaves some capital. -/
theorem neg_one_lt_max_drawdown (curve : List K) : -1 < max_drawdown curve := by
  by_cases hcurve : curve = []
  · subst hcurve
    exact neg_one_lt_zero
  · obtain ⟨i, j, a, b, -, -, -, hd⟩ := (isLeast_max_drawdown hcurve).1
    have hratio : 0 < capital b / capital a := div_pos (capital_pos b) (capital_pos a)
    linarith

/-- A longer curve has no smaller drawdown. -/
theorem max_drawdown_append_le (curve more : List K) :
    max_drawdown (curve ++ more) ≤ max_drawdown curve := by
  by_cases hcurve : curve = []
  · subst hcurve
    exact max_drawdown_nonpos _
  · have hmore : curve ++ more ≠ [] := by simp [hcurve]
    exact (isLeast_max_drawdown hmore).2
      (pair_drawdowns_mono curve more (isLeast_max_drawdown hcurve).1)

end ProofAlpha.Backtest
