/-
When a rounded number reaches a bound.

Rounding half to even brings a number up to an integer `n` when it is above
`n - 1/2`, or on it and `n` is even (`RoundsUpTo`); the same from above
(`RoundsDownTo`). A bound for `round(x, digits)` is such an integer bound for the
number of units (`le_pyRound_iff`, `pyRound_le_iff`).
-/
import Mathlib.Algebra.Order.Field.Basic
import Mathlib.Tactic.Linarith
import Mathlib.Tactic.Ring
import ProofAlpha.Lib.PyMath

set_option autoImplicit false

namespace ProofAlpha.Lib

variable {K : Type} [Field K] [LinearOrder K]

/-- The number is near enough to `n`, or above, to be rounded to at least `n`. -/
def RoundsUpTo (n : ℤ) (x : K) : Prop := (n : K) - 1 / 2 < x ∨ x = n - 1 / 2 ∧ Even n

/-- The number is near enough to `n`, or below, to be rounded to at most `n`. -/
def RoundsDownTo (n : ℤ) (x : K) : Prop := x < n + 1 / 2 ∨ x = n + 1 / 2 ∧ Even n

instance (n : ℤ) (x : K) : Decidable (RoundsUpTo n x) := inferInstanceAs (Decidable (_ ∨ _))

instance (n : ℤ) (x : K) : Decidable (RoundsDownTo n x) := inferInstanceAs (Decidable (_ ∨ _))

variable [IsStrictOrderedRing K] [FloorRing K]

theorem le_roundHalfEven_iff (n : ℤ) (x : K) : n ≤ roundHalfEven x ↔ RoundsUpTo n x := by
  have hsum : x = (⌊x⌋ : K) + Int.fract x := (Int.floor_add_fract x).symm
  have hnonneg : 0 ≤ Int.fract x := Int.fract_nonneg x
  have hlt : Int.fract x < 1 := Int.fract_lt_one x
  unfold RoundsUpTo
  rcases lt_trichotomy (Int.fract x) (1 / 2) with hlow | htie | hhigh
  · -- rounded down
    rw [roundHalfEven, if_pos hlow]
    constructor
    · intro hle
      have hcast : (n : K) ≤ ⌊x⌋ := Int.cast_le.mpr hle
      exact .inl (by linarith)
    · intro hreach
      have hcast : (n : K) < ((⌊x⌋ + 1 : ℤ) : K) := by
        push_cast
        rcases hreach with hreach | ⟨hreach, -⟩ <;> linarith
      have hint : n < ⌊x⌋ + 1 := Int.cast_lt.mp hcast
      omega
  · -- on a tie the neighbour that is even counts
    have hhalf : x = (⌊x⌋ : K) + 1 / 2 := by rw [← htie]; exact hsum
    have hbelow : (n : K) - 1 / 2 < x ↔ n ≤ ⌊x⌋ := by
      rw [← Int.lt_add_one_iff, ← Int.cast_lt (R := K)]
      push_cast
      constructor <;> intro h <;> linarith
    have hon : x = n - 1 / 2 ↔ n = ⌊x⌋ + 1 := by
      rw [← Int.cast_inj (α := K)]
      push_cast
      constructor <;> intro h <;> linarith
    rw [hbelow, hon, Int.even_iff, roundHalfEven, htie, if_neg (lt_irrefl _), if_neg (lt_irrefl _)]
    split_ifs <;> omega
  · -- rounded up
    rw [roundHalfEven, if_neg hhigh.not_gt, if_pos hhigh]
    constructor
    · intro hle
      have hcast : (n : K) ≤ ((⌊x⌋ + 1 : ℤ) : K) := Int.cast_le.mpr hle
      push_cast at hcast
      exact .inl (by linarith)
    · intro hreach
      have hcast : (n : K) < ((⌊x⌋ + 2 : ℤ) : K) := by
        push_cast
        rcases hreach with hreach | ⟨hreach, -⟩ <;> linarith
      have hint : n < ⌊x⌋ + 2 := Int.cast_lt.mp hcast
      omega

theorem roundHalfEven_le_iff (n : ℤ) (x : K) : roundHalfEven x ≤ n ↔ RoundsDownTo n x := by
  -- to be above `n` is to reach `n + 1`
  have hreach := le_roundHalfEven_iff (n + 1) x
  unfold RoundsUpTo at hreach
  unfold RoundsDownTo
  push_cast at hreach
  have hmiddle : (n : K) + 1 - 1 / 2 = n + 1 / 2 := by ring
  rw [hmiddle, Int.add_one_le_iff] at hreach
  rw [← not_lt, hreach, not_or, not_lt, not_and, Int.even_add_one, not_not, le_iff_lt_or_eq]
  constructor
  · rintro ⟨hlt | heq, hodd⟩
    · exact .inl hlt
    · exact .inr ⟨heq, hodd heq⟩
  · rintro (hlt | ⟨heq, heven⟩)
    · exact ⟨.inl hlt, fun heq => absurd heq hlt.ne⟩
    · exact ⟨.inr heq, fun _ => heven⟩

/-- A bound from below that a rounded number keeps. -/
theorem le_pyRound_iff (c x : K) (digits : ℕ) :
    c ≤ pyRound x digits ↔ RoundsUpTo ⌈c * 10 ^ digits⌉ (x * 10 ^ digits) := by
  have hpow : (0 : K) < 10 ^ digits := pow_pos (by norm_num) _
  rw [pyRound, le_div_iff₀ hpow, ← Int.ceil_le, le_roundHalfEven_iff]

/-- A bound from above that a rounded number keeps. -/
theorem pyRound_le_iff (c x : K) (digits : ℕ) :
    pyRound x digits ≤ c ↔ RoundsDownTo ⌊c * 10 ^ digits⌋ (x * 10 ^ digits) := by
  have hpow : (0 : K) < 10 ^ digits := pow_pos (by norm_num) _
  rw [pyRound, div_le_iff₀ hpow, ← Int.le_floor, roundHalfEven_le_iff]

/-- A number is rounded to a bound of an even number of units, or above, from half a unit
below the bound on. -/
theorem le_pyRound_iff_of_even {c : K} {digits : ℕ} {n : ℤ} (hc : c * 10 ^ digits = n)
    (hn : Even n) (x : K) : c ≤ pyRound x digits ↔ c - 1 / 2 / 10 ^ digits ≤ x := by
  have hpow : (0 : K) < 10 ^ digits := pow_pos (by norm_num) _
  have hunits : c - 1 / 2 / 10 ^ digits ≤ x ↔ (n : K) - 1 / 2 ≤ x * 10 ^ digits := by
    rw [← mul_le_mul_iff_left₀ hpow, sub_mul, div_mul_cancel₀ _ hpow.ne', hc]
  rw [le_pyRound_iff, hc, Int.ceil_intCast, hunits, RoundsUpTo, le_iff_lt_or_eq, eq_comm,
    and_iff_left hn]

end ProofAlpha.Lib

/-!
Factors that fall along a line between two clamps.

`clamped_ramp floor slope low rate s` is a weight `slope` that falls with `s` at
the given rate, down to a share `low` of itself, and never below `floor`. Its
falls are bounded by those of the line, and the line's rate is reached unless the
floor is above it from the start (`fall_le_iff`).
-/

namespace ProofAlpha.Lib

variable {K : Type*} [Field K] [LinearOrder K]

/-- `max floor (slope * max low (1 - s * rate))`. -/
def clamped_ramp (floor slope low rate s : K) : K := max floor (slope * max low (1 - s * rate))

variable {floor slope low rate : K}

theorem clamped_ramp_zero (hlow : low ≤ 1) :
    clamped_ramp floor slope low rate 0 = max floor slope := by
  rw [clamped_ramp, zero_mul, sub_zero, max_eq_right hlow, mul_one]

variable [IsStrictOrderedRing K]

theorem clamped_ramp_antitone (hslope : 0 ≤ slope) (hrate : 0 ≤ rate) {s s' : K} (h : s ≤ s') :
    clamped_ramp floor slope low rate s' ≤ clamped_ramp floor slope low rate s := by
  have hline : 1 - s' * rate ≤ 1 - s * rate := by
    have := mul_le_mul_of_nonneg_right h hrate
    linarith
  exact max_le_max le_rfl (mul_le_mul_of_nonneg_left (max_le_max le_rfl hline) hslope)

/-- It falls no faster than the line. -/
theorem clamped_ramp_le_add (hslope : 0 ≤ slope) (hrate : 0 ≤ rate) {s s' : K} (h : s ≤ s') :
    clamped_ramp floor slope low rate s
      ≤ clamped_ramp floor slope low rate s' + slope * rate * (s' - s) := by
  have hstep : 0 ≤ rate * (s' - s) := mul_nonneg hrate (sub_nonneg.mpr h)
  have hfall : 0 ≤ slope * rate * (s' - s) := by
    rw [mul_assoc]
    exact mul_nonneg hslope hstep
  have hline : max low (1 - s * rate) ≤ max low (1 - s' * rate) + rate * (s' - s) := by
    apply max_le
    · have := le_max_left low (1 - s' * rate)
      linarith
    · have := le_max_right low (1 - s' * rate)
      linarith
  have hscaled := mul_le_mul_of_nonneg_left hline hslope
  apply max_le
  · have := le_max_left floor (slope * max low (1 - s' * rate))
    unfold clamped_ramp
    linarith
  · have := le_max_right floor (slope * max low (1 - s' * rate))
    unfold clamped_ramp
    linarith

/-- Where the floor is above the line from the start, it is all there is. -/
theorem clamped_ramp_of_le (hslope : 0 ≤ slope) (hrate : 0 ≤ rate) (hlow : low ≤ 1)
    (hfloor : slope ≤ floor) {s : K} (hs : 0 ≤ s) : clamped_ramp floor slope low rate s = floor := by
  have hline : max low (1 - s * rate) ≤ 1 := by
    have := mul_nonneg hs hrate
    exact max_le hlow (by linarith)
  have hscaled := mul_le_mul_of_nonneg_left hline hslope
  exact max_eq_left (by linarith)

/-- All falls, weighed with `weight`, are within `bound` times the distance if and
only if the floor is above the line from the start or the line falls that slowly. -/
theorem fall_le_iff {weight bound : K} (hweight : 0 ≤ weight) (hbound : 0 ≤ bound)
    (hfloor : 0 ≤ floor) (hslope : 0 ≤ slope) (hrate : 0 < rate) (hlow : low < 1) :
    (∀ s s', 0 ≤ s → s ≤ s' → weight * (clamped_ramp floor slope low rate s
        - clamped_ramp floor slope low rate s') ≤ bound * (s' - s))
      ↔ slope ≤ floor ∨ weight * (slope * rate) ≤ bound := by
  constructor
  · intro h
    rcases le_or_gt slope floor with hle | hlt
    · exact Or.inl hle
    · right
      have hpos : 0 < slope := lt_of_le_of_lt hfloor hlt
      -- the first point where the line meets one of the clamps
      let x := max (floor / slope) low
      have hx : x < 1 := max_lt ((div_lt_one hpos).mpr hlt) hlow
      have hmeet := h 0 ((1 - x) / rate) le_rfl (div_nonneg (by linarith) hrate.le)
      have hend : clamped_ramp floor slope low rate ((1 - x) / rate) = slope * x := by
        have hfloor_x : floor ≤ slope * x := by
          have := mul_le_mul_of_nonneg_left (le_max_left (floor / slope) low) hpos.le
          rwa [mul_div_cancel₀ _ hpos.ne'] at this
        rw [clamped_ramp, div_mul_cancel₀ _ hrate.ne', sub_sub_cancel,
          max_eq_right (le_max_right _ _), max_eq_right hfloor_x]
      rw [clamped_ramp_zero hlow.le, hend, max_eq_right hlt.le, sub_zero, mul_div_assoc',
        le_div_iff₀ hrate] at hmeet
      have hscaled : (weight * (slope * rate)) * (1 - x) ≤ bound * (1 - x) := by
        calc (weight * (slope * rate)) * (1 - x) = weight * (slope - slope * x) * rate := by ring
          _ ≤ bound * (1 - x) := hmeet
      exact le_of_mul_le_mul_right hscaled (by linarith)
  · rintro (hle | hslow) s s' hs h
    · rw [clamped_ramp_of_le hslope hrate.le hlow.le hle hs,
        clamped_ramp_of_le hslope hrate.le hlow.le hle (hs.trans h), sub_self, mul_zero]
      exact mul_nonneg hbound (sub_nonneg.mpr h)
    · have hfall : clamped_ramp floor slope low rate s - clamped_ramp floor slope low rate s'
          ≤ slope * rate * (s' - s) := by
        have hline : clamped_ramp floor slope low rate s
            ≤ clamped_ramp floor slope low rate s' + slope * rate * (s' - s) :=
          clamped_ramp_le_add hslope hrate.le h
        linarith
      calc weight * (clamped_ramp floor slope low rate s - clamped_ramp floor slope low rate s')
          ≤ weight * (slope * rate * (s' - s)) := mul_le_mul_of_nonneg_left hfall hweight
        _ = weight * (slope * rate) * (s' - s) := by ring
        _ ≤ bound * (s' - s) := mul_le_mul_of_nonneg_right hslow (sub_nonneg.mpr h)

end ProofAlpha.Lib
