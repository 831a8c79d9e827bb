/-
Layers, strategies and parameter ranges (`config/models.py`).

`ParameterRange.values` walks from the minimum in steps, rounds each point to ten
digits, and gives up after a hundred thousand points. The points it looks at are
`minimum + k * step` for all `k` below the length of the range
(`values_eq`, `values_error_iff`), so what the loop returns is known without it.
-/
import Mathlib.Algebra.Order.Field.Basic
import Mathlib.Tactic.Linarith
import ProofAlpha.App.StrategyGraph
import ProofAlpha.Lib.PyJson
import ProofAlpha.Lib.PyMath

set_option autoImplicit false

namespace ProofAlpha.Config

open ProofAlpha.Lib
open ProofAlpha.App (LayerFamily)

/-- A Python number: a whole one or a float. -/
inductive Number (K : Type) where
  | int (n : ℤ)
  | float (x : K)
  deriving DecidableEq

/-- `ParameterRange`. -/
structure ParameterRange (K : Type) where
  minimum : K
  maximum : K
  step : K
  excluded_values : List K := []

/-- `LayerSpec`. -/
structure LayerSpec (K : Type) where
  name : String
  family : LayerFamily
  parameters : Dict String (ParameterRange K) := ∅
  precedence : ℤ := 0
  eligibility_rules : JsonObject K := []

/-- `StrategyGraph`. -/
structure StrategyGraph (K : Type) where
  backbone : String
  layers : List (LayerSpec K) := []
  risk_guards : List (LayerSpec K) := []

/-- `StrategyGraph.with_layer`. -/
def StrategyGraph.with_layer {K : Type} (graph : StrategyGraph K) (layer : LayerSpec K) :
    StrategyGraph K :=
  { graph with layers := graph.layers ++ [layer] }

variable {K : Type} [Field K] [LinearOrder K] [FloorRing K]

/-- `float(rounded)`, as a whole number where it is one. -/
def number_of (rounded : K) : Number K :=
  if rounded = (⌊rounded⌋ : K) then .int ⌊rounded⌋ else .float rounded

/-- The number that a Python number is. -/
def Number.value : Number K → K
  | .int n => n
  | .float x => x

/-- The most points that a range is walked for. -/
def MAX_POINTS : ℕ := 100000

/-- The loop of `ParameterRange.values`, with `left` passes to go until the guard is
over its limit. -/
def values_loop (range : ParameterRange K) : ℕ → K → List (Number K) →
    Except String (List (Number K))
  -- the guard is checked after every point, the last one included
  | 0, _, _ => .error "parameter range produced too many values"
  | left + 1, current, values =>
      if current ≤ range.maximum + range.step / 1000000 then
        let rounded := pyRound current 10
        values_loop range left (current + range.step)
          (if rounded ∈ range.excluded_values then values else values ++ [number_of rounded])
      else .ok values

/-- `ParameterRange.values`. -/
def ParameterRange.values (range : ParameterRange K) : Except String (List (Number K)) :=
  if range.step ≤ 0 then .error "step must be positive"
  else values_loop range (MAX_POINTS + 1) range.minimum []

/-! ## The points of a range -/

namespace ParameterRange

/-- The point after `k` steps. -/
def point (range : ParameterRange K) (k : ℕ) : K := range.minimum + k * range.step

/-- The number of points up to the maximum and a millionth of a step beyond. -/
def point_count (range : ParameterRange K) : ℕ :=
  (⌊(range.maximum + range.step / 1000000 - range.minimum) / range.step⌋ + 1).toNat

/-- What the walk makes of a point: nothing of an excluded one. -/
def value_at (range : ParameterRange K) (k : ℕ) : Option (Number K) :=
  if pyRound (range.point k) 10 ∈ range.excluded_values then none
  else some (number_of (pyRound (range.point k) 10))

/-- The values of a range. -/
def points (range : ParameterRange K) : List (Number K) :=
  (List.range range.point_count).filterMap range.value_at

/-- A range that can be walked: its step is positive, and it is not too long. -/
def Valid (range : ParameterRange K) : Prop := 0 < range.step ∧ range.point_count ≤ MAX_POINTS

instance (range : ParameterRange K) : Decidable range.Valid :=
  inferInstanceAs (Decidable (_ ∧ _))

end ParameterRange

omit [LinearOrder K] [FloorRing K] in
theorem point_zero (range : ParameterRange K) : range.point 0 = range.minimum := by
  rw [ParameterRange.point, Nat.cast_zero, zero_mul, add_zero]

omit [LinearOrder K] [FloorRing K] in
theorem point_succ (range : ParameterRange K) (k : ℕ) :
    range.point k + range.step = range.point (k + 1) := by
  rw [ParameterRange.point, ParameterRange.point, Nat.cast_succ]
  ring

theorem value_number_of (x : K) : (number_of x).value = x := by
  rw [number_of]
  split_ifs with hwhole
  · exact hwhole.symm
  · rfl

theorem number_of_injective : Function.Injective (number_of : K → Number K) :=
  Function.LeftInverse.injective value_number_of

theorem mem_points {range : ParameterRange K} {value : Number K} :
    value ∈ range.points ↔ ∃ k < range.point_count,
      pyRound (range.point k) 10 ∉ range.excluded_values ∧
        value = number_of (pyRound (range.point k) 10) := by
  rw [ParameterRange.points, List.mem_filterMap]
  constructor
  · rintro ⟨k, hk, hvalue⟩
    rw [ParameterRange.value_at] at hvalue
    split_ifs at hvalue with hexcluded
    exact ⟨k, List.mem_range.mp hk, hexcluded, (Option.some.inj hvalue).symm⟩
  · rintro ⟨k, hk, hexcluded, rfl⟩
    exact ⟨k, List.mem_range.mpr hk, if_neg hexcluded⟩

section Walk

variable [IsStrictOrderedRing K] {range : ParameterRange K}

/-- The loop goes on exactly at the points below the count. -/
theorem point_le_iff (hstep : 0 < range.step) (k : ℕ) :
    range.point k ≤ range.maximum + range.step / 1000000 ↔ k < range.point_count := by
  have hshift : range.point k ≤ range.maximum + range.step / 1000000
      ↔ (k : K) ≤ (range.maximum + range.step / 1000000 - range.minimum) / range.step := by
    rw [le_div_iff₀ hstep, ParameterRange.point]
    constructor
    · intro h
      linarith
    · intro h
      linarith
  have hfloor : (k : K) ≤ (range.maximum + range.step / 1000000 - range.minimum) / range.step
      ↔ (k : ℤ) ≤ ⌊(range.maximum + range.step / 1000000 - range.minimum) / range.step⌋ := by
    rw [Int.le_floor, Int.cast_natCast]
  rw [hshift, hfloor, ParameterRange.point_count]
  omega

/-- From the point `k` on the loop takes the points that are left, if there are fewer
than passes. -/
theorem values_loop_eq (hstep : 0 < range.step) (left k : ℕ) (values : List (Number K)) :
    values_loop range left (range.point k) values
      = if range.point_count - k < left then
          .ok (values ++ (List.range' k (range.point_count - k)).filterMap range.value_at)
        else .error "parameter range produced too many values" := by
  induction left generalizing k values with
  | zero => rfl
  | succ left ih =>
      unfold values_loop
      by_cases hk : k < range.point_count
      · rw [if_pos ((point_le_iff hstep k).mpr hk)]
        dsimp only
        rw [point_succ, ih]
        have hleft : range.point_count - k = range.point_count - (k + 1) + 1 := by omega
        have hcount : range.point_count - k < left + 1 ↔ range.point_count - (k + 1) < left := by
          omega
        simp only [hcount]
        rw [hleft, List.range'_succ, List.filterMap_cons]
        by_cases hexcluded : pyRound (range.point k) 10 ∈ range.excluded_values
        · rw [if_pos hexcluded, ParameterRange.value_at, if_pos hexcluded]
        · rw [if_neg hexcluded, ParameterRange.value_at, if_neg hexcluded, List.append_assoc]
          rfl
      · rw [if_neg fun h => hk ((point_le_iff hstep k).mp h)]
        have hnone : range.point_count - k = 0 := by omega
        rw [hnone, if_pos (Nat.succ_pos left), List.range'_zero, List.filterMap_nil,
          List.append_nil]

/-- A valid range has its points. -/
theorem values_eq (h : range.Valid) : range.values = .ok range.points := by
  obtain ⟨hstep, hcount⟩ := h
  rw [ParameterRange.values, if_neg (not_le.mpr hstep), ← point_zero, values_loop_eq hstep,
    if_pos (by omega), Nat.sub_zero, List.nil_append, ← List.range_eq_range']
  rfl

/-- Every other range raises. -/
theorem values_error (h : ¬ range.Valid) : ∃ message, range.values = .error message := by
  rw [ParameterRange.values]
  by_cases hstep : range.step ≤ 0
  · exact ⟨_, if_pos hstep⟩
  · have hcount : ¬ range.point_count ≤ MAX_POINTS := fun hle => h ⟨not_le.mp hstep, hle⟩
    rw [if_neg hstep, ← point_zero, values_loop_eq (not_le.mp hstep), if_neg (by omega)]
    exact ⟨_, rfl⟩

/-! ## The values -/

/-- A value lies between the bounds of its range, up to a millionth of a step at the
upper end and half a unit of the tenth digit at both. -/
theorem value_within (hstep : 0 < range.step) {value : Number K} (h : value ∈ range.points) :
    range.minimum - 1 / 2 / 10 ^ 10 ≤ value.value ∧
      value.value ≤ range.maximum + range.step / 1000000 + 1 / 2 / 10 ^ 10 := by
  obtain ⟨k, hk, -, rfl⟩ := mem_points.mp h
  have hupper := (point_le_iff hstep k).mpr hk
  have hlower : range.minimum ≤ range.point k := by
    have : 0 ≤ (k : K) * range.step := mul_nonneg (Nat.cast_nonneg k) hstep.le
    rw [ParameterRange.point]
    linarith
  have hround := abs_le.mp (abs_pyRound_sub_le (range.point k) 10)
  rw [value_number_of]
  constructor
  · linarith [hround.1]
  · linarith [hround.2]

/-- No two points that are kept round to the same number. -/
def ParameterRange.DistinctPoints (range : ParameterRange K) : Prop :=
  ∀ i j, i < j → j < range.point_count →
    pyRound (range.point i) 10 = pyRound (range.point j) 10 →
      pyRound (range.point i) 10 ∈ range.excluded_values

omit [IsStrictOrderedRing K] in
theorem nodup_points_iff : range.points.Nodup ↔ range.DistinctPoints := by
  rw [ParameterRange.points, List.Nodup, List.pairwise_filterMap, List.pairwise_iff_getElem]
  simp only [List.length_range, List.getElem_range]
  constructor
  · intro h i j hij hj hsame
    by_contra hkept
    have hkept' : pyRound (range.point j) 10 ∉ range.excluded_values := hsame ▸ hkept
    exact h i j (hij.trans hj) hj hij _ (if_neg hkept) _ (if_neg hkept')
      (congrArg number_of hsame)
  · intro h i j _ hj hij a ha b hb hab
    rw [ParameterRange.value_at] at ha hb
    split_ifs at ha hb with hkept hkept'
    refine hkept (h i j hij hj (number_of_injective ?_))
    rw [Option.some.inj ha, Option.some.inj hb, hab]

end Walk

end ProofAlpha.Config
