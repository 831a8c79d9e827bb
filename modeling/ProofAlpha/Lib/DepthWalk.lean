/-
Taking a quantity from a list of price levels, level by level.

`units levels q` says how many of the first `q` units come from each level. They
add up to `q` or to all there is (`sum_units`), and their average price lies
between prices of levels of which something is taken (`exists_taken_le`,
`exists_le_taken`).
-/
import Mathlib.Algebra.Order.BigOperators.Group.List
import Mathlib.Algebra.Order.Field.Basic
import Mathlib.Tactic.Linarith
import Mathlib.Tactic.Ring

set_option autoImplicit false

namespace ProofAlpha.Lib

/-- A quantity that is there at a price. -/
structure PriceLevel (K : Type) where
  price : K
  qty : K
  deriving DecidableEq

namespace PriceLevel

variable {K : Type} [Field K] [LinearOrder K]

/-- The quantity at all levels together. -/
def depth (levels : List (PriceLevel K)) : K := (levels.map qty).sum

/-- How much of the first `q` units is taken from each level. -/
def units : List (PriceLevel K) → K → List K
  | [], _ => []
  | level :: rest, q => min q level.qty :: units rest (q - min q level.qty)

/-- A value of the levels, weighted by the units taken of them. -/
def weigh (value : PriceLevel K → K) (levels : List (PriceLevel K)) (q : K) : K :=
  (List.zipWith (fun level taken => taken * value level) levels (units levels q)).sum

/-- What the first `q` units cost. -/
def cost (levels : List (PriceLevel K)) (q : K) : K := weigh price levels q

/-- The levels of which something is taken. -/
def taken (levels : List (PriceLevel K)) (q : K) : List (PriceLevel K) :=
  ((levels.zip (units levels q)).filter fun item => 0 < item.2).map Prod.fst

/-- No level has a negative quantity. -/
def Nonneg (levels : List (PriceLevel K)) : Prop := ∀ level ∈ levels, 0 ≤ level.qty

omit [LinearOrder K] in
theorem depth_cons (level : PriceLevel K) (rest : List (PriceLevel K)) :
    depth (level :: rest) = level.qty + depth rest := by
  rw [depth, List.map_cons, List.sum_cons, depth]

theorem weigh_cons (value : PriceLevel K → K) (level : PriceLevel K)
    (rest : List (PriceLevel K)) (q : K) :
    weigh value (level :: rest) q
      = min q level.qty * value level + weigh value rest (q - min q level.qty) := by
  rw [weigh, units, List.zipWith_cons_cons, List.sum_cons, weigh]

theorem weigh_const (v : K) (levels : List (PriceLevel K)) (q : K) :
    weigh (fun _ => v) levels q = v * (units levels q).sum := by
  induction levels generalizing q with
  | nil => simp [weigh, units]
  | cons level rest ih =>
      rw [weigh_cons, ih, units, List.sum_cons, mul_add, mul_comm v (min q level.qty)]

theorem taken_cons (level : PriceLevel K) (rest : List (PriceLevel K)) (q : K) :
    taken (level :: rest) q
      = (if 0 < min q level.qty then [level] else []) ++ taken rest (q - min q level.qty) := by
  rw [taken, units, List.zip_cons_cons, List.filter_cons, taken]
  by_cases hpos : 0 < min q level.qty
  · rw [if_pos (decide_eq_true hpos), if_pos hpos]
    rfl
  · rw [if_neg (by simpa using hpos), if_neg hpos]
    rfl

variable [IsStrictOrderedRing K]

theorem depth_nonneg {levels : List (PriceLevel K)} (h : Nonneg levels) : 0 ≤ depth levels := by
  refine List.sum_nonneg fun x hx => ?_
  obtain ⟨level, hlevel, rfl⟩ := List.mem_map.mp hx
  exact h level hlevel

/-- The units taken are `q`, or all there is. -/
theorem sum_units {levels : List (PriceLevel K)} (h : Nonneg levels) {q : K} (hq : 0 ≤ q) :
    (units levels q).sum = min q (depth levels) := by
  induction levels generalizing q with
  | nil => rw [units, List.sum_nil, depth, List.map_nil, List.sum_nil, min_eq_right hq]
  | cons level rest ih =>
      have hlevel : 0 ≤ level.qty := h level (List.mem_cons_self ..)
      have hrest : Nonneg rest := fun l hl => h l (List.mem_cons_of_mem _ hl)
      have hdepth := depth_nonneg hrest
      rw [units, List.sum_cons, depth_cons]
      rcases le_total q level.qty with hle | hle
      · -- the first level has enough
        rw [min_eq_left hle, sub_self, ih hrest le_rfl, min_eq_left hdepth, add_zero,
          min_eq_left (by linarith)]
      · -- the first level is used up, the rest of the quantity goes on
        rw [min_eq_right hle, ih hrest (sub_nonneg.mpr hle)]
        rw [← min_add_add_left, add_sub_cancel]

/-- A value that is smaller on every level taken weighs less. -/
theorem weigh_lt {levels : List (PriceLevel K)} (h : Nonneg levels) {q : K} (hq : 0 ≤ q)
    (low high : PriceLevel K → K) (hlt : ∀ level ∈ taken levels q, low level < high level) :
    weigh low levels q ≤ weigh high levels q
      ∧ (0 < (units levels q).sum → weigh low levels q < weigh high levels q) := by
  induction levels generalizing q with
  | nil => simp [units, weigh]
  | cons level rest ih =>
      have hlevel : 0 ≤ level.qty := h level (List.mem_cons_self ..)
      have hrest : Nonneg rest := fun l hl => h l (List.mem_cons_of_mem _ hl)
      have hmin : 0 ≤ min q level.qty := le_min hq hlevel
      have hleft : 0 ≤ q - min q level.qty := sub_nonneg.mpr (min_le_left _ _)
      rw [taken_cons] at hlt
      have ih := ih hrest hleft fun l hl => hlt l (List.mem_append_right _ hl)
      rw [units, List.sum_cons, weigh_cons, weigh_cons]
      rcases hmin.lt_or_eq with hpos | hzero
      · -- the first level is one of those taken
        have hvalue : low level < high level := by
          refine hlt level (List.mem_append_left _ ?_)
          rw [if_pos hpos]
          exact List.mem_singleton.mpr rfl
        have hfirst := mul_lt_mul_of_pos_left hvalue hpos
        exact ⟨by linarith [ih.1], fun _ => by linarith [ih.1]⟩
      · -- nothing is taken of this level
        rw [← hzero] at ih ⊢
        simp only [zero_mul, zero_add]
        exact ih

/-- Some level taken has the average price or a lower one. -/
theorem exists_taken_le {levels : List (PriceLevel K)} (h : Nonneg levels) {q : K} (hq : 0 ≤ q)
    (hpos : 0 < (units levels q).sum) :
    ∃ level ∈ taken levels q, level.price ≤ cost levels q / (units levels q).sum := by
  by_contra hnone
  -- else the average itself, on every level taken, would cost less than the levels do
  have hlt := (weigh_lt h hq (fun _ => cost levels q / (units levels q).sum) price ?_).2 hpos
  · rw [weigh_const, div_mul_cancel₀ _ hpos.ne'] at hlt
    exact lt_irrefl _ hlt
  · intro level hlevel
    by_contra hle
    exact hnone ⟨level, hlevel, not_lt.mp hle⟩

/-- Some level taken has the average price or a higher one. -/
theorem exists_le_taken {levels : List (PriceLevel K)} (h : Nonneg levels) {q : K} (hq : 0 ≤ q)
    (hpos : 0 < (units levels q).sum) :
    ∃ level ∈ taken levels q, cost levels q / (units levels q).sum ≤ level.price := by
  by_contra hnone
  have hlt := (weigh_lt h hq price (fun _ => cost levels q / (units levels q).sum) ?_).2 hpos
  · rw [weigh_const, div_mul_cancel₀ _ hpos.ne'] at hlt
    exact lt_irrefl _ hlt
  · intro level hlevel
    by_contra hle
    exact hnone ⟨level, hlevel, not_lt.mp hle⟩

end PriceLevel

end ProofAlpha.Lib
