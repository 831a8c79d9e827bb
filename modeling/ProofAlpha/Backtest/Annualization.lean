/-
What the annualisation factor changes.

Both ratios multiply by it. It shows in one of them unless the returns sum to zero
(`ratios_eq_iff`). The equity of a run that cannot enter at its first bar starts at zero,
so its returns sum to zero when all it earned is spent on fees and funding
(`run_returns_sum_eq_zero_iff`).
-/
import ProofAlpha.Backtest.Accounting

set_option autoImplicit false

namespace ProofAlpha.Backtest

open ProofAlpha.Lib ProofAlpha.Lib.IndexedLoop

variable {K : Type} [Field K] [LinearOrder K]

/-! ## Returns of an equity curve -/

omit [LinearOrder K] in
theorem equity_returns_length (equity_curve : List K) :
    (equity_returns equity_curve).length = equity_curve.length - 1 := by
  unfold equity_returns
  rw [List.length_zipWith, List.length_tail]
  omega

omit [LinearOrder K] in
/-- The returns add up to the distance from the first value to the last. -/
theorem equity_returns_sum (first : K) (rest : List K) :
    (equity_returns (first :: rest)).sum = (first :: rest).getLast (List.cons_ne_nil _ _) - first := by
  induction rest generalizing first with
  | nil =>
      rw [List.getLast_singleton, sub_self]
      rfl
  | cons second rest ih =>
      have hcons : equity_returns (first :: second :: rest)
          = (second - first) :: equity_returns (second :: rest) := rfl
      rw [hcons, List.sum_cons, ih second, List.getLast_cons (List.cons_ne_nil _ _)]
      ring

omit [LinearOrder K] in
/-- They sum to zero where the curve ends at its first value. -/
theorem equity_returns_sum_eq_zero_iff (equity_curve : List K) :
    (equity_returns equity_curve).sum = 0 ↔ equity_curve.getLast? = equity_curve.head? := by
  cases equity_curve with
  | nil =>
      apply iff_of_true
      · rfl
      · rfl
  | cons first rest =>
      rw [equity_returns_sum, sub_eq_zero, List.getLast?_eq_getLast_of_ne_nil (List.cons_ne_nil _ _),
        List.head?_cons, Option.some_inj]

/-! ## The two ratios -/

/-- `math.sqrt` of a positive number is positive. -/
def PositiveRoots (m : PyMath K) : Prop := ∀ x : K, 0 < x → 0 < m.sqrt x

theorem positiveRoots_real : PositiveRoots PyMath.real := fun _ hx => Real.sqrt_pos.mpr hx

/-- The computable root rounds numerator and denominator down, and neither to zero. -/
theorem positiveRoots_rat : PositiveRoots PyMath.rat := by
  intro x hx
  have hnum : 0 < Int.sqrt x.num := by
    have hpos : 0 < x.num.toNat := by
      have := Rat.num_pos.mpr hx
      omega
    exact Int.natCast_pos.mpr (Nat.sqrt_pos.mpr hpos)
  have hden : 0 < Nat.sqrt x.den := Nat.sqrt_pos.mpr x.den_pos
  show 0 < Rat.sqrt x
  unfold Rat.sqrt
  rw [Rat.mkRat_eq_div]
  exact div_pos (Int.cast_pos.mpr hnum) (Nat.cast_pos.mpr hden)

/-- Returns that sum to zero have both ratios zero. -/
theorem ratios_of_sum_eq_zero (m : PyMath K) {returns : List K} (h : returns.sum = 0)
    (annualization_factor : K) :
    sharpe_ratio m returns annualization_factor = 0
      ∧ sortino_ratio m returns annualization_factor = 0 := by
  unfold sharpe_ratio sortino_ratio
  dsimp only
  rw [h, zero_div, zero_div, zero_mul, ite_self, ite_self, zero_div, zero_mul,
    if_neg (lt_irrefl 0), ite_self, ite_self]
  exact ⟨rfl, rfl⟩

variable [IsStrictOrderedRing K]

/-- Returns none of which is negative have no downside. -/
theorem sum_nonneg_of_no_downside {returns : List K}
    (h : (returns.map fun value => (min value 0) ^ 2).sum ≤ 0) : 0 ≤ returns.sum := by
  apply List.sum_nonneg
  intro value hvalue
  by_contra hnegative
  have hvalue' : value < 0 := not_le.mp hnegative
  have hsquare : 0 < (min value 0) ^ 2 := by
    rw [min_eq_left hvalue'.le]
    exact sq_pos_of_neg hvalue'
  have hle : (min value 0) ^ 2 ≤ (returns.map fun value => (min value 0) ^ 2).sum := by
    apply List.single_le_sum
    · intro square hmem
      obtain ⟨other, -, rfl⟩ := List.mem_map.mp hmem
      exact sq_nonneg _
    · exact List.mem_map_of_mem hvalue
  exact absurd (hsquare.trans_le (hle.trans h)) (lt_irrefl 0)

/-- Both ratios are the ones without the factor exactly when the factor is one or the
returns sum to zero. -/
theorem ratios_eq_iff {m : PyMath K} (hroots : PositiveRoots m) {returns : List K}
    (hlength : 2 ≤ returns.length) (annualization_factor : K) :
    (sharpe_ratio m returns 1 = sharpe_ratio m returns annualization_factor
        ∧ sortino_ratio m returns 1 = sortino_ratio m returns annualization_factor)
      ↔ annualization_factor = 1 ∨ returns.sum = 0 := by
  constructor
  · rintro ⟨-, hsortino⟩
    by_contra hneither
    obtain ⟨hfactor, hsum⟩ := not_or.mp hneither
    have hcount : (0 : K) < (returns.length : K) := Nat.cast_pos.mpr (by omega)
    have hmean : returns.sum / (returns.length : K) ≠ 0 := div_ne_zero hsum hcount.ne'
    apply hfactor
    unfold sortino_ratio at hsortino
    dsimp only at hsortino
    have hlong : ¬ returns.length < 2 := Nat.not_lt.mpr hlength
    rw [if_neg hlong, if_neg hlong, List.length_map] at hsortino
    split_ifs at hsortino with hdownside hpositive
    · -- no downside: the sentinel is multiplied as well
      have h999 : (999 : K) ≠ 0 := by norm_num
      exact (mul_left_cancel₀ h999 hsortino).symm
    · -- a mean that is not positive has a downside
      rw [div_le_iff₀ hcount, zero_mul] at hdownside
      have hmean' := div_nonneg (sum_nonneg_of_no_downside hdownside) hcount.le
      exact absurd (le_antisymm (not_lt.mp hpositive) hmean') hmean
    · have hroot := hroots _ (not_le.mp hdownside)
      exact (mul_left_cancel₀ (div_ne_zero hmean hroot.ne') hsortino).symm
  · rintro (rfl | hsum)
    · exact ⟨rfl, rfl⟩
    · obtain ⟨hsharpe, hsortino⟩ := ratios_of_sum_eq_zero m hsum annualization_factor
      obtain ⟨hsharpe', hsortino'⟩ := ratios_of_sum_eq_zero m hsum 1
      exact ⟨hsharpe'.trans hsharpe.symm, hsortino'.trans hsortino.symm⟩

/-! ## Returns of a run -/

/-- The trades of a run earn what they cost. -/
def NetsToZero (m : PyMath K) (cfg : SimConfig K) : Prop :=
  let s := (simulate_bars m cfg).1
  s.gross_pnl - s.fee_spend - s.funding_spend = 0

omit [IsStrictOrderedRing K] in
/-- Without a signal at the first bar the equity starts at zero. -/
theorem simulate_bars_first (m : PyMath K) {cfg : SimConfig K} (hbars : 2 ≤ cfg.bars)
    (hfirst : cfg.entry_signals.getD 0 false = false) :
    (simulate_bars m cfg).2[0]? = some 0 := by
  have hequity : (bar_step m cfg SimState.initial 0).2.equity = (0 : K) := by
    have hfunding : accrue_funding cfg SimState.initial 0 = SimState.initial :=
      if_neg Bool.false_ne_true
    have hdue : liquidation_due cfg SimState.initial 0 = false := rfl
    unfold bar_step
    dsimp only
    rw [hfunding, hdue, hfirst, if_neg Bool.false_ne_true,
      if_neg (fun h => Bool.false_ne_true h.2), if_neg (fun h => Bool.false_ne_true h.1)]
    show (0 : K) - 0 - 0 + 0 = 0
    ring
  rw [simulate_bars_getElem? m cfg (by omega) (Or.inl (by omega)), outputAt, stateAt_zero, hequity]

omit [IsStrictOrderedRing K] in
/-- The returns of such a run sum to zero when it nets to zero. -/
theorem run_returns_sum_eq_zero_iff (m : PyMath K) {cfg : SimConfig K} (hbars : 2 ≤ cfg.bars)
    (hfirst : cfg.entry_signals.getD 0 false = false) :
    (equity_returns (simulate_bars m cfg).2).sum = 0 ↔ NetsToZero m cfg := by
  rw [equity_returns_sum_eq_zero_iff, List.getLast?_eq_getElem?, List.head?_eq_getElem?,
    simulate_bars_length, simulate_bars_last m cfg (by omega), simulate_bars_first m hbars hfirst,
    Option.some_inj]
  unfold equity_mark NetsToZero
  rw [add_zero]

end ProofAlpha.Backtest
