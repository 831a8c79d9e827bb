/-
Sums and products of floats.

Finite numbers are added and multiplied as those of an ordered field, so nothing is
rounded and nothing overflows; the infinities and NaN follow the rules of Python's floats.
Addition is then that of a commutative monoid in which NaN is absorbing. A sum of absolute
values is a number, `inf` or NaN, and it is never `-inf` (`sum_map_abs_eq_pos_inf`).
-/
import Mathlib.Algebra.Order.BigOperators.Group.List
import Mathlib.Algebra.Order.Field.Basic
import ProofAlpha.Lib.PyFloat

set_option autoImplicit false

namespace ProofAlpha.Lib.PyFloat

variable {K : Type}

/-- `float("inf")`. -/
def pos_inf : PyFloat K := .num ((⊤ : WithTop K) : WithBot (WithTop K))

/-- A float is a number, an infinity or NaN. -/
theorem eq_of_or (x : PyFloat K) : x = nan ∨ x = pos_inf ∨ x = neg_inf ∨ ∃ a, x = of a := by
  match x with
  | .nan => exact Or.inl rfl
  | .num none => exact Or.inr (Or.inr (Or.inl rfl))
  | .num (some none) => exact Or.inr (Or.inl rfl)
  | .num (some (some a)) => exact Or.inr (Or.inr (Or.inr ⟨a, rfl⟩))

/-- `x <= y`. -/
def le [LinearOrder K] : PyFloat K → PyFloat K → Prop
  | .num x, .num y => x ≤ y
  | _, _ => False

variable [Field K] [LinearOrder K]

/-! ## Operations -/

/-- `x + y`: two infinities add up to NaN unless they are the same. -/
instance : Add (PyFloat K) where
  add x y :=
    match x.finite, y.finite with
    | some a, some b => of (a + b)
    | none, some _ => x
    | some _, none => y
    | none, none => if x = y then x else nan

/-- `x * y`: an infinity times zero is NaN. -/
instance : Mul (PyFloat K) where
  mul x y :=
    match x.finite, y.finite with
    | some a, some b => of (a * b)
    | _, _ =>
        if x = nan ∨ y = nan ∨ x = 0 ∨ y = 0 then nan
        else if x.gt 0 = y.gt 0 then pos_inf else neg_inf

/-- `abs(x)`. -/
def abs : PyFloat K → PyFloat K
  | .nan => nan
  | .num (some (some a)) => of |a|
  | .num _ => pos_inf

/-! ## Equations -/

@[simp] theorem of_add_of (a b : K) : of a + of b = of (a + b) := rfl

@[simp] theorem of_mul_of (a b : K) : of a * of b = of (a * b) := rfl

@[simp] theorem abs_of (a : K) : abs (of a) = of |a| := rfl

@[simp] theorem of_add_pos_inf (a : K) : of a + pos_inf = pos_inf := rfl

@[simp] theorem pos_inf_add_of (a : K) : pos_inf + of a = pos_inf := rfl

@[simp] theorem of_add_neg_inf (a : K) : of a + neg_inf = neg_inf := rfl

@[simp] theorem neg_inf_add_of (a : K) : neg_inf + of a = neg_inf := rfl

@[simp] theorem pos_inf_add_pos_inf : (pos_inf : PyFloat K) + pos_inf = pos_inf := if_pos rfl

@[simp] theorem neg_inf_add_neg_inf : (neg_inf : PyFloat K) + neg_inf = neg_inf := if_pos rfl

@[simp] theorem pos_inf_add_neg_inf : (pos_inf : PyFloat K) + neg_inf = nan :=
  if_neg fun h => by cases h

@[simp] theorem neg_inf_add_pos_inf : (neg_inf : PyFloat K) + pos_inf = nan :=
  if_neg fun h => by cases h

@[simp] theorem nan_add (y : PyFloat K) : nan + y = nan := by
  rcases eq_of_or y with rfl | rfl | rfl | ⟨b, rfl⟩
  · exact if_pos rfl
  · exact if_neg fun h => by cases h
  · exact if_neg fun h => by cases h
  · rfl

@[simp] theorem add_nan (x : PyFloat K) : x + nan = nan := by
  rcases eq_of_or x with rfl | rfl | rfl | ⟨a, rfl⟩
  · exact if_pos rfl
  · exact if_neg fun h => by cases h
  · exact if_neg fun h => by cases h
  · rfl

@[simp] theorem abs_nan : abs (nan : PyFloat K) = nan := rfl

@[simp] theorem abs_pos_inf : abs (pos_inf : PyFloat K) = pos_inf := rfl

@[simp] theorem abs_neg_inf : abs (neg_inf : PyFloat K) = pos_inf := rfl

omit [LinearOrder K] in
theorem zero_eq_of : (0 : PyFloat K) = of 0 := rfl

instance : AddCommMonoid (PyFloat K) where
  zero_add x := by
    rw [zero_eq_of]
    rcases eq_of_or x with rfl | rfl | rfl | ⟨a, rfl⟩ <;> simp
  add_zero x := by
    rw [zero_eq_of]
    rcases eq_of_or x with rfl | rfl | rfl | ⟨a, rfl⟩ <;> simp
  add_comm x y := by
    rcases eq_of_or x with rfl | rfl | rfl | ⟨a, rfl⟩ <;>
      rcases eq_of_or y with rfl | rfl | rfl | ⟨b, rfl⟩ <;> simp [add_comm]
  add_assoc x y z := by
    rcases eq_of_or x with rfl | rfl | rfl | ⟨a, rfl⟩ <;>
      rcases eq_of_or y with rfl | rfl | rfl | ⟨b, rfl⟩ <;>
        rcases eq_of_or z with rfl | rfl | rfl | ⟨c, rfl⟩ <;> simp [add_assoc]
  nsmul := nsmulRec

/-! ## Sums -/

theorem sum_map_of (xs : List K) : (xs.map of).sum = of xs.sum := by
  induction xs with
  | nil => rfl
  | cons x xs ih => rw [List.map_cons, List.sum_cons, List.sum_cons, ih, of_add_of]

theorem sum_eq_nan_of_mem {xs : List (PyFloat K)} (h : nan ∈ xs) : xs.sum = nan := by
  obtain ⟨before, after, rfl⟩ := List.append_of_mem h
  rw [List.sum_append, List.sum_cons, nan_add, add_nan]

/-- Finite floats are those of a list of numbers. -/
theorem exists_map_of {K : Type} {xs : List (PyFloat K)} (h : ∀ x ∈ xs, x.finite ≠ none) :
    ∃ ys : List K, xs = ys.map of := by
  induction xs with
  | nil => exact ⟨[], rfl⟩
  | cons x xs ih =>
      obtain ⟨a, ha⟩ := Option.ne_none_iff_exists'.mp (h x List.mem_cons_self)
      obtain ⟨ys, rfl⟩ := ih fun y hy => h y (List.mem_cons_of_mem x hy)
      exact ⟨a :: ys, by rw [finite_eq_some.mp ha, List.map_cons]⟩

theorem sum_map_abs_of (ys : List K) :
    ((ys.map of).map abs).sum = of (ys.map fun a => |a|).sum := by
  rw [List.map_map, show abs ∘ of = of ∘ fun a : K => |a| from rfl, ← List.map_map, sum_map_of]

/-- A sum of absolute values of finite floats is finite. -/
theorem finite_sum_map_abs {xs : List (PyFloat K)} (h : ∀ x ∈ xs, x.finite ≠ none) :
    (xs.map abs).sum.finite ≠ none := by
  obtain ⟨ys, rfl⟩ := exists_map_of h
  rw [sum_map_abs_of, finite_of]
  exact Option.some_ne_none _

/-- Without NaN a sum of absolute values is a number or `inf`. -/
theorem sum_map_abs_of_no_nan {xs : List (PyFloat K)} (h : nan ∉ xs) :
    (xs.map abs).sum = pos_inf ∨ ∃ a, (xs.map abs).sum = of a := by
  induction xs with
  | nil => exact Or.inr ⟨0, rfl⟩
  | cons x xs ih =>
      rw [List.mem_cons, not_or] at h
      rw [List.map_cons, List.sum_cons]
      rcases eq_of_or x with rfl | rfl | rfl | ⟨a, rfl⟩
      · exact absurd rfl h.1
      · rcases ih h.2 with hsum | ⟨b, hsum⟩ <;> simp [hsum]
      · rcases ih h.2 with hsum | ⟨b, hsum⟩ <;> simp [hsum]
      · rcases ih h.2 with hsum | ⟨b, hsum⟩
        · simp [hsum]
        · exact Or.inr ⟨|a| + b, by rw [hsum, abs_of, of_add_of]⟩

/-- One infinity makes a sum of absolute values `inf`. -/
theorem sum_map_abs_eq_pos_inf {xs : List (PyFloat K)} (hnan : nan ∉ xs)
    (hinf : ∃ x ∈ xs, x.finite = none) : (xs.map abs).sum = pos_inf := by
  obtain ⟨x, hx, hfinite⟩ := hinf
  obtain ⟨before, after, rfl⟩ := List.append_of_mem hx
  have habs : abs x = pos_inf := by
    rcases eq_of_or x with rfl | rfl | rfl | ⟨a, rfl⟩
    · exact absurd hx hnan
    · exact abs_pos_inf
    · exact abs_neg_inf
    · cases hfinite
  rw [List.mem_append, List.mem_cons, not_or, not_or] at hnan
  have hbefore := sum_map_abs_of_no_nan hnan.1
  have hafter := sum_map_abs_of_no_nan hnan.2.2
  rw [List.map_append, List.sum_append, List.map_cons, List.sum_cons, habs]
  rcases hbefore with hbefore | ⟨a, hbefore⟩ <;> rcases hafter with hafter | ⟨b, hafter⟩ <;>
    simp [hbefore, hafter]

/-! ## Comparisons -/

omit [Field K] in
@[simp] theorem le_of_of {a b : K} : le (of a) (of b) ↔ a ≤ b := by
  simp [le, of]

omit [Field K] in
theorem not_nan_le {x : PyFloat K} : ¬ le nan x := fun h => h

omit [Field K] in
theorem le_iff_of_finite {x y : PyFloat K} (hx : x.finite ≠ none) (hy : y.finite ≠ none) :
    le x y ↔ x.gt y = false := by
  obtain ⟨a, ha⟩ := Option.ne_none_iff_exists'.mp hx
  obtain ⟨b, hb⟩ := Option.ne_none_iff_exists'.mp hy
  rw [finite_eq_some.mp ha, finite_eq_some.mp hb, le_of_of, gt_of, decide_eq_false_iff_not, not_lt]

/-- What is bounded as a sum of absolute values is bounded as a sum, unless NaN is in it: NaN
is not above the bound, and not within it. -/
theorem abs_sum_le_iff [IsStrictOrderedRing K] {xs : List (PyFloat K)} {bound : PyFloat K}
    (hbound : bound.finite ≠ none) (h : (xs.map abs).sum.gt bound = false) :
    le (abs xs.sum) bound ↔ nan ∉ xs := by
  constructor
  · intro hle hnan
    rw [sum_eq_nan_of_mem hnan, abs_nan] at hle
    exact not_nan_le hle
  · intro hnan
    obtain ⟨b, hb⟩ := Option.ne_none_iff_exists'.mp hbound
    rw [finite_eq_some.mp hb] at h ⊢
    by_cases hinf : ∃ x ∈ xs, x.finite = none
    · rw [sum_map_abs_eq_pos_inf hnan hinf] at h
      simp [gt, pos_inf, of] at h
    · obtain ⟨ys, rfl⟩ := exists_map_of fun x hx hnone => hinf ⟨x, hx, hnone⟩
      rw [sum_map_abs_of, gt_of, decide_eq_false_iff_not, not_lt] at h
      rw [sum_map_of, abs_of, le_of_of]
      exact (List.le_sum_of_subadditive _ abs_zero.le abs_add_le ys).trans h

end ProofAlpha.Lib.PyFloat
