/-
The arithmetic a Python `float` program is modelled in.

A `float` is an element of an arbitrary ordered field `K`, so every result holds
in particular over the reals. The two functions a program needs beyond the field
operations are `math.sqrt` and `x ** a`; `PyMath K` packages them with the two
facts about them that are ever used: a root is not negative, and neither is a
power of a non-negative base. `PyMath.real` is the intended instance and
`PyMath.rat` a computable one, exact where the root is rational, on which
definitions can be run. `pyRound` is Python's `round(x, digits)`, half to even.
-/
import Mathlib.Algebra.Order.Floor.Ring
import Mathlib.Analysis.SpecialFunctions.Log.Basic
import Mathlib.Analysis.SpecialFunctions.Pow.Real
import Mathlib.Data.Rat.Floor
import Mathlib.Data.Rat.Sqrt

set_option autoImplicit false

namespace ProofAlpha.Lib

/-! ## Numerals

A numeral of the source is an element of `K`. What makes it one is stated once for each numeral that
several modules have. -/

instance atLeastTwo_2 : Nat.AtLeastTwo 2 := ⟨by decide⟩
instance atLeastTwo_3 : Nat.AtLeastTwo 3 := ⟨by decide⟩
instance atLeastTwo_4 : Nat.AtLeastTwo 4 := ⟨by decide⟩
instance atLeastTwo_5 : Nat.AtLeastTwo 5 := ⟨by decide⟩
instance atLeastTwo_10 : Nat.AtLeastTwo 10 := ⟨by decide⟩
instance atLeastTwo_18 : Nat.AtLeastTwo 18 := ⟨by decide⟩
instance atLeastTwo_19 : Nat.AtLeastTwo 19 := ⟨by decide⟩
instance atLeastTwo_20 : Nat.AtLeastTwo 20 := ⟨by decide⟩
instance atLeastTwo_25 : Nat.AtLeastTwo 25 := ⟨by decide⟩
instance atLeastTwo_40 : Nat.AtLeastTwo 40 := ⟨by decide⟩
instance atLeastTwo_50 : Nat.AtLeastTwo 50 := ⟨by decide⟩
instance atLeastTwo_100 : Nat.AtLeastTwo 100 := ⟨by decide⟩
instance atLeastTwo_150 : Nat.AtLeastTwo 150 := ⟨by decide⟩
instance atLeastTwo_250 : Nat.AtLeastTwo 250 := ⟨by decide⟩
instance atLeastTwo_500 : Nat.AtLeastTwo 500 := ⟨by decide⟩
instance atLeastTwo_999 : Nat.AtLeastTwo 999 := ⟨by decide⟩
instance atLeastTwo_1000 : Nat.AtLeastTwo 1000 := ⟨by decide⟩
instance atLeastTwo_10000 : Nat.AtLeastTwo 10000 := ⟨by decide⟩
instance atLeastTwo_1000000 : Nat.AtLeastTwo 1000000 := ⟨by decide⟩

/-! ## Roots and powers -/

/-- `math.sqrt` and the power operator over `K`. -/
structure PyMath (K : Type) [Field K] [LinearOrder K] where
  /-- `math.sqrt`. -/
  sqrt : K → K
  /-- `x ** a`. -/
  pow : K → K → K
  sqrt_nonneg : ∀ x, 0 ≤ sqrt x
  pow_nonneg : ∀ x a, 0 ≤ x → 0 ≤ pow x a

/-- The real functions. -/
noncomputable def PyMath.real : PyMath ℝ where
  sqrt := Real.sqrt
  pow := fun x a => x ^ a
  sqrt_nonneg := Real.sqrt_nonneg
  pow_nonneg := fun _ a hx => Real.rpow_nonneg hx a

/-- A computable instance: `Rat.sqrt` is the root of every square of a rational,
and `x ** a` is read off it for whole and half-whole exponents. -/
def PyMath.rat : PyMath ℚ where
  sqrt := Rat.sqrt
  pow := fun x a => if a.den = 1 then x ^ a.num else Rat.sqrt x ^ a.num
  sqrt_nonneg := Rat.sqrt_nonneg
  pow_nonneg := by
    intro x a hx
    split
    · exact zpow_nonneg hx _
    · exact zpow_nonneg (Rat.sqrt_nonneg x) _

/-- `math.sqrt` finds the root of every square. -/
def PyMath.FindsRoots {K : Type} [Field K] [LinearOrder K] (m : PyMath K) : Prop :=
  ∀ x : K, 0 ≤ x → m.sqrt (x * x) = x

theorem PyMath.real_findsRoots : PyMath.real.FindsRoots := fun _ hx => Real.sqrt_mul_self hx

theorem PyMath.rat_findsRoots : PyMath.rat.FindsRoots := fun x hx =>
  (Rat.sqrt_eq x).trans (abs_of_nonneg hx)

/-- `math.log`: a function with the sign of the logarithm. -/
structure PyLog (K : Type) [Field K] [LinearOrder K] where
  log : K → K
  log_neg_iff : ∀ x, 0 < x → (log x < 0 ↔ x < 1)

/-- The real logarithm. -/
noncomputable def PyLog.real : PyLog ℝ where
  log := Real.log
  log_neg_iff := fun _ hx => Real.log_neg_iff hx

/-- A computable function with the same sign: the tangent of the logarithm at 1. -/
def PyLog.rat : PyLog ℚ where
  log := fun x => x - 1
  log_neg_iff := fun _ _ => sub_neg

/-! ## Rounding -/

variable {K : Type} [Field K] [LinearOrder K] [FloorRing K]

/-- The nearest integer, ties to the even one. -/
def roundHalfEven (x : K) : ℤ :=
  if Int.fract x < 1 / 2 then ⌊x⌋
  else if 1 / 2 < Int.fract x then ⌊x⌋ + 1
  else if ⌊x⌋ % 2 = 0 then ⌊x⌋ else ⌊x⌋ + 1

/-- `int(x)`: the part of `x` before the point. -/
def pyInt (x : K) : ℤ := if 0 ≤ x then ⌊x⌋ else -⌊-x⌋

/-- `round(x, digits)`. -/
def pyRound (x : K) (digits : ℕ) : K := (roundHalfEven (x * 10 ^ digits) : K) / 10 ^ digits

section Rounding

variable [IsStrictOrderedRing K]

@[simp] theorem roundHalfEven_intCast (n : ℤ) : roundHalfEven (n : K) = n := by
  rw [roundHalfEven, Int.fract_intCast, if_pos (by norm_num), Int.floor_intCast]

/-- A number with at most `digits` decimals is not rounded. -/
theorem pyRound_of_decimal {x : K} {digits : ℕ} {n : ℤ} (h : x = n / 10 ^ digits) :
    pyRound x digits = x := by
  have hpow : (10 : K) ^ digits ≠ 0 := pow_ne_zero _ (by norm_num)
  rw [pyRound, h, div_mul_cancel₀ _ hpow, roundHalfEven_intCast]

/-- Rounding to an integer moves a number by at most a half. -/
theorem abs_roundHalfEven_sub_le (x : K) : |(roundHalfEven x : K) - x| ≤ 1 / 2 := by
  have hfloor : (⌊x⌋ : K) + Int.fract x = x := Int.floor_add_fract x
  have hnonneg : 0 ≤ Int.fract x := Int.fract_nonneg x
  have hlt : Int.fract x < 1 := Int.fract_lt_one x
  unfold roundHalfEven
  rw [abs_le]
  split_ifs with hlow hhigh heven
  · constructor <;> linarith
  · push_cast
    constructor <;> linarith
  · -- exactly a half away from both neighbours
    constructor <;> linarith
  · push_cast
    constructor <;> linarith

/-- Rounding moves a number by at most half a unit of the last decimal. -/
theorem abs_pyRound_sub_le (x : K) (digits : ℕ) :
    |pyRound x digits - x| ≤ 1 / 2 / 10 ^ digits := by
  have hpow : (0 : K) < 10 ^ digits := pow_pos (by norm_num) _
  have hscaled := abs_roundHalfEven_sub_le (x * 10 ^ digits)
  have hsub : pyRound x digits - x
      = ((roundHalfEven (x * 10 ^ digits) : K) - x * 10 ^ digits) / 10 ^ digits := by
    rw [pyRound, sub_div, mul_div_cancel_right₀ _ hpow.ne']
  rw [hsub, abs_div, abs_of_pos hpow]
  exact div_le_div_of_nonneg_right hscaled hpow.le

/-- Rounding keeps a number from becoming negative. -/
theorem pyRound_nonneg {x : K} (h : 0 ≤ x) (digits : ℕ) : 0 ≤ pyRound x digits := by
  have hpow : (0 : K) < 10 ^ digits := pow_pos (by norm_num) _
  have hfloor : 0 ≤ ⌊x * 10 ^ digits⌋ := Int.floor_nonneg.mpr (mul_nonneg h hpow.le)
  have hround : 0 ≤ roundHalfEven (x * 10 ^ digits) := by
    unfold roundHalfEven
    split_ifs <;> omega
  exact div_nonneg (Int.cast_nonneg hround) hpow.le

/-- Rounding keeps the order. -/
theorem roundHalfEven_mono {x y : K} (h : x ≤ y) : roundHalfEven x ≤ roundHalfEven y := by
  have hbounds : ∀ z : K, ⌊z⌋ ≤ roundHalfEven z ∧ roundHalfEven z ≤ ⌊z⌋ + 1 := by
    intro z
    unfold roundHalfEven
    constructor <;> split_ifs <;> omega
  rcases (Int.floor_mono h).lt_or_eq with hfloor | hfloor
  · have hx := (hbounds x).2
    have hy := (hbounds y).1
    omega
  · -- between the same two integers the fractional parts decide
    have hfract : Int.fract x ≤ Int.fract y := by
      rw [Int.fract, Int.fract, hfloor]
      linarith
    unfold roundHalfEven
    rw [hfloor]
    split_ifs with hx hy hy' heven hhigh hy hy' heven heven' <;> first | omega | (exfalso; linarith)

theorem pyRound_mono {x y : K} (h : x ≤ y) (digits : ℕ) : pyRound x digits ≤ pyRound y digits := by
  have hpow : (0 : K) < 10 ^ digits := pow_pos (by norm_num) _
  have hround := roundHalfEven_mono (mul_le_mul_of_nonneg_right h hpow.le)
  exact div_le_div_of_nonneg_right (Int.cast_le.mpr hround) hpow.le

/-- Rounding to an integer gives at least one only above a half. -/
theorem roundHalfEven_pos_iff (x : K) : 0 < roundHalfEven x ↔ 1 / 2 < x := by
  have hnear := abs_le.mp (abs_roundHalfEven_sub_le x)
  constructor
  · intro hpos
    by_contra hle
    have hmono := roundHalfEven_mono (not_lt.mp hle)
    have hhalf : roundHalfEven (1 / 2 : K) = 0 := by
      have hfloor : ⌊(1 / 2 : K)⌋ = 0 := by
        rw [Int.floor_eq_zero_iff, Set.mem_Ico]
        constructor <;> norm_num
      have hfract : Int.fract (1 / 2 : K) = 1 / 2 := by
        rw [Int.fract, hfloor, Int.cast_zero, sub_zero]
      rw [roundHalfEven, hfract, if_neg (lt_irrefl _), if_neg (lt_irrefl _), hfloor]
      rfl
    omega
  · intro hhalf
    have hcast : (0 : K) < roundHalfEven x := by linarith
    exact_mod_cast hcast

/-- A number rounds to a positive one if it is above half a unit. -/
theorem pyRound_pos_iff (x : K) (digits : ℕ) : 0 < pyRound x digits ↔ 1 / 2 / 10 ^ digits < x := by
  have hpow : (0 : K) < 10 ^ digits := pow_pos (by norm_num) _
  rw [pyRound, div_pos_iff_of_pos_right hpow, Int.cast_pos, roundHalfEven_pos_iff, div_lt_iff₀ hpow]

/-! ### Numbers with finitely many decimals -/

/-- A number with at most `digits` decimals. -/
def Decimal (digits : ℕ) (x : K) : Prop := ∃ n : ℤ, x = n / 10 ^ digits

omit [LinearOrder K] [FloorRing K] [IsStrictOrderedRing K] in
theorem decimal_zero (digits : ℕ) : Decimal digits (0 : K) := ⟨0, by rw [Int.cast_zero, zero_div]⟩

omit [LinearOrder K] [FloorRing K] [IsStrictOrderedRing K] in
theorem Decimal.sub {digits : ℕ} {x y : K} (hx : Decimal digits x) (hy : Decimal digits y) :
    Decimal digits (x - y) := by
  obtain ⟨n, rfl⟩ := hx
  obtain ⟨k, rfl⟩ := hy
  exact ⟨n - k, by rw [Int.cast_sub, sub_div]⟩

omit [LinearOrder K] [FloorRing K] [IsStrictOrderedRing K] in
theorem Decimal.add {digits : ℕ} {x y : K} (hx : Decimal digits x) (hy : Decimal digits y) :
    Decimal digits (x + y) := by
  obtain ⟨n, rfl⟩ := hx
  obtain ⟨k, rfl⟩ := hy
  exact ⟨n + k, by rw [Int.cast_add, add_div]⟩

omit [FloorRing K] [IsStrictOrderedRing K] in
theorem Decimal.abs {digits : ℕ} {x : K} (hx : Decimal digits x) : Decimal digits |x| := by
  rcases abs_choice x with h | h
  · rw [h]
    exact hx
  · rw [h, ← zero_sub]
    exact (decimal_zero digits).sub hx

omit [LinearOrder K] [FloorRing K] [IsStrictOrderedRing K] in
theorem decimal_sum {digits : ℕ} {xs : List K} (h : ∀ x ∈ xs, Decimal digits x) :
    Decimal digits xs.sum := by
  induction xs with
  | nil => exact decimal_zero digits
  | cons x rest ih =>
      rw [List.sum_cons]
      exact (h x (List.mem_cons_self ..)).add (ih fun y hy => h y (List.mem_cons_of_mem x hy))

omit [IsStrictOrderedRing K] in
theorem decimal_pyRound (x : K) (digits : ℕ) : Decimal digits (pyRound x digits) :=
  ⟨roundHalfEven (x * 10 ^ digits), rfl⟩

/-- Such a number is not rounded. -/
theorem Decimal.pyRound_eq {digits : ℕ} {x : K} (hx : Decimal digits x) : pyRound x digits = x := by
  obtain ⟨n, hn⟩ := hx
  exact pyRound_of_decimal hn

/-- Rounding twice is rounding once. -/
theorem pyRound_pyRound (x : K) (digits : ℕ) :
    pyRound (pyRound x digits) digits = pyRound x digits :=
  (decimal_pyRound x digits).pyRound_eq

omit [FloorRing K] in
/-- Unless it is 0, it is at least one unit of its last decimal. -/
theorem Decimal.unit_le_abs {digits : ℕ} {x : K} (hx : Decimal digits x) (hne : x ≠ 0) :
    1 / 10 ^ digits ≤ |x| := by
  obtain ⟨n, rfl⟩ := hx
  have hpow : (0 : K) < 10 ^ digits := pow_pos (by norm_num) _
  have hn : n ≠ 0 := by
    rintro rfl
    exact hne (by rw [Int.cast_zero, zero_div])
  have hone : (1 : K) ≤ |(n : K)| := by
    rw [← Int.cast_abs]
    exact_mod_cast Int.one_le_abs hn
  rw [abs_div, abs_of_pos hpow]
  exact div_le_div_of_nonneg_right hone hpow.le

/-- Rounding to an integer commutes with adding one, but for a tie that an odd
one moves to the other parity. -/
theorem roundHalfEven_add_intCast_iff (x : K) (n : ℤ) :
    roundHalfEven (x + n) = roundHalfEven x + n ↔ Int.fract x ≠ 1 / 2 ∨ Even n := by
  unfold roundHalfEven
  rw [Int.fract_add_intCast, Int.floor_add_intCast]
  rcases lt_trichotomy (Int.fract x) (1 / 2) with hlow | htie | hhigh
  · simp only [if_pos hlow, hlow.ne, ne_eq, not_false_eq_true, true_or]
  · -- the tie goes to the even neighbour, which has moved by `n`
    rw [htie, if_neg (lt_irrefl _), if_neg (lt_irrefl _), if_neg (lt_irrefl _),
      if_neg (lt_irrefl _), Int.even_iff]
    simp only [ne_eq, not_true_eq_false, false_or]
    split_ifs with hmoved hkept hkept
    · omega
    · omega
    · omega
    · omega
  · simp only [if_neg hhigh.not_gt, if_pos hhigh, hhigh.ne', ne_eq, not_false_eq_true, true_or,
      iff_true]
    ring

/-- `x` lies exactly in the middle between two numbers with `digits` decimals. -/
def Halfway (digits : ℕ) (x : K) : Prop := Int.fract (x * 10 ^ digits) = 1 / 2

/-- Rounding commutes with adding a number that needs no rounding, but for a tie
and an odd number of units. -/
theorem pyRound_add_decimal_iff (x : K) (digits : ℕ) (n : ℤ) :
    pyRound (x + n / 10 ^ digits) digits = pyRound x digits + n / 10 ^ digits
      ↔ ¬ Halfway digits x ∨ Even n := by
  have hpow : (10 : K) ^ digits ≠ 0 := pow_ne_zero _ (by norm_num)
  rw [pyRound, pyRound, ← add_div, div_left_inj' hpow, add_mul, div_mul_cancel₀ _ hpow]
  rw [← Int.cast_add, Int.cast_inj]
  exact roundHalfEven_add_intCast_iff _ n

/-- A number with `digits` decimals and an even number of units of the last one. -/
def EvenDecimal (digits : ℕ) (x : K) : Prop := ∃ n : ℤ, Even n ∧ x = n / 10 ^ digits

/-- The same for a number that is given without its units. -/
theorem Decimal.pyRound_add_iff {digits : ℕ} {y : K} (hy : Decimal digits y) (x : K) :
    pyRound (x + y) digits = pyRound x digits + y ↔ ¬ Halfway digits x ∨ EvenDecimal digits y := by
  obtain ⟨n, rfl⟩ := hy
  have hpow : (10 : K) ^ digits ≠ 0 := pow_ne_zero _ (by norm_num)
  have heven : EvenDecimal digits ((n : K) / 10 ^ digits) ↔ Even n := by
    constructor
    · rintro ⟨k, hk, heq⟩
      rw [div_left_inj' hpow, Int.cast_inj] at heq
      rw [heq]
      exact hk
    · exact fun hn => ⟨n, hn, rfl⟩
  rw [heven]
  exact pyRound_add_decimal_iff x digits n

end Rounding

end ProofAlpha.Lib
