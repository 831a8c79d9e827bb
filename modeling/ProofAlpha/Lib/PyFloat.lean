/-
Python floats with NaN, and the best of a list of scores.

`PyFloat K` is a float whose numbers are those of an ordered type `K`, with the
infinities and NaN; `x > y` is false as soon as one side is NaN. A loop that
keeps the best item so far and replaces it when the next score is greater
computes `List.argmax`, the first item of the highest score. With NaN it does so
only on the lists of `ComparableScores`: a NaN that comes as the first score is
never replaced.
-/
import Mathlib.Data.List.MinMax
import Mathlib.Order.WithBot

set_option autoImplicit false

namespace ProofAlpha.Lib

variable {α K : Type}

/-- A Python float. -/
inductive PyFloat (K : Type) where
  | nan
  | num (x : WithBot (WithTop K))
deriving DecidableEq

namespace PyFloat

/-- A number. -/
def of (x : K) : PyFloat K := .num ((x : WithTop K) : WithBot (WithTop K))

instance [Zero K] : Zero (PyFloat K) := ⟨.of 0⟩

/-- `float("-inf")`. -/
def neg_inf : PyFloat K := .num ⊥

/-- `x == y`. -/
def eq [DecidableEq K] : PyFloat K → PyFloat K → Bool
  | .num x, .num y => x = y
  | _, _ => false

/-- The number that a float is, if it is a finite one. -/
def finite : PyFloat K → Option K
  | .num (some (some x)) => some x
  | _ => none

theorem finite_of (x : K) : finite (of x) = some x := rfl

theorem finite_eq_some {value : PyFloat K} {x : K} : finite value = some x ↔ value = of x := by
  constructor
  · intro h
    cases value with
    | nan => cases h
    | num y =>
        induction y with
        | bot => cases h
        | coe y =>
            induction y with
            | top => cases h
            | coe y =>
                have hxy : y = x := Option.some.inj h
                rw [hxy]
                rfl
  · rintro rfl
    exact finite_of x

theorem of_injective {x y : K} (h : of x = of y) : x = y := by
  have hfinite : finite (of x) = finite (of y) := congrArg finite h
  exact Option.some.inj hfinite

variable [LinearOrder K]

/-- `x > y`. -/
def gt : PyFloat K → PyFloat K → Bool
  | .num x, .num y => y < x
  | _, _ => false

theorem gt_of (x y : K) : gt (of x) (of y) = decide (y < x) := by
  simp [gt, of]

end PyFloat

/-! ## Scores -/

section Scores

variable [LinearOrder K] (score : α → Option (PyFloat K))

/-- The place of a score in the order: no score and NaN are below every number. -/
def rank : Option (PyFloat K) → WithBot (WithBot (WithTop K))
  | some (.num x) => x
  | _ => ⊥

/-- A score counts as better when it is greater, or when there is one at last. -/
def better (current best : Option (PyFloat K)) : Bool :=
  match current, best with
  | none, _ => false
  | some _, none => true
  | some x, some y => x.gt y

/-- Keep the best item so far. -/
def keep_best (best : Option α) (x : α) : Option α :=
  match best with
  | none => some x
  | some b => if better (score x) (score b) then some x else some b

/-- The first score is not NaN, unless it is the very first item's and no score is a number. -/
def ComparableScores (xs : List α) : Prop :=
  ∀ x, xs.find? (fun y => (score y).isSome) = some x → score x = some .nan →
    xs.head? = some x ∧ ∀ y ∈ xs, rank (score y) = ⊥

omit [LinearOrder K] in
theorem rank_eq_bot_iff {current : Option (PyFloat K)} :
    rank current = ⊥ ↔ ∀ x, current ≠ some (.num x) := by
  match current with
  | none => simp [rank]
  | some .nan => simp [rank]
  | some (.num x) => simp [rank]

/-- Off the two cases with NaN, better is higher in the order. -/
theorem better_iff {current best : Option (PyFloat K)} (hbest : best ≠ some .nan)
    (hcurrent : best = none → current ≠ some .nan) :
    better current best = true ↔ rank best < rank current := by
  match current, best with
  | none, _ => simp [better, rank]
  | some .nan, none => exact absurd rfl (hcurrent rfl)
  | some (.num x), none => simp [better, rank]
  | some _, some .nan => exact absurd rfl hbest
  | some .nan, some (.num y) => simp [better, PyFloat.gt, rank]
  | some (.num x), some (.num y) => simp [better, PyFloat.gt, rank]

variable {score}

theorem mem_of_foldl_keep_best {xs : List α} {b : α} (h : xs.foldl (keep_best score) none = some b) :
    b ∈ xs := by
  induction xs using List.reverseRecOn generalizing b with
  | nil => exact absurd h (by simp)
  | append_singleton xs x ih =>
      rw [List.foldl_concat] at h
      cases hbest : xs.foldl (keep_best score) none with
      | none =>
          rw [hbest] at h
          exact List.mem_append_right _ (List.mem_singleton.mpr (Option.some.inj h).symm)
      | some c =>
          rw [hbest, keep_best] at h
          split_ifs at h with hbetter
          · exact List.mem_append_right _ (List.mem_singleton.mpr (Option.some.inj h).symm)
          · exact List.mem_append_left _ (ih (hbest.trans h))

/-- A NaN that comes as the first score stays the best for good. -/
theorem foldl_keep_best_of_nan {xs : List α} {x : α}
    (hfirst : xs.find? (fun y => (score y).isSome) = some x) (hnan : score x = some .nan) :
    xs.foldl (keep_best score) none = some x := by
  induction xs using List.reverseRecOn with
  | nil => exact absurd hfirst (by simp)
  | append_singleton xs y ih =>
      rw [List.foldl_concat]
      rw [List.find?_append] at hfirst
      cases hscored : xs.find? (fun y => (score y).isSome) with
      | some z =>
          rw [hscored, Option.some_or] at hfirst
          rw [ih (hscored.trans hfirst), keep_best, hnan]
          have hkeep : better (score y) (some .nan) = false := by
            cases score y with
            | none => rfl
            | some s => cases s <;> rfl
          rw [hkeep]
          rfl
      | none =>
          rw [hscored, Option.none_or] at hfirst
          have hxy : y = x := List.mem_singleton.mp (List.mem_of_find?_eq_some hfirst) |>.symm
          cases hbest : xs.foldl (keep_best score) none with
          | none => rw [keep_best, hxy]
          | some b =>
              have hb : score b = none := by
                simpa using List.find?_eq_none.mp hscored b (mem_of_foldl_keep_best hbest)
              rw [keep_best, hxy, hnan, hb]
              rfl

theorem argmax_eq_head?_of_bot {xs : List α} (h : ∀ x ∈ xs, rank (score x) = ⊥) :
    xs.argmax (fun x => rank (score x)) = xs.head? := by
  induction xs using List.reverseRecOn with
  | nil => rfl
  | append_singleton xs x ih =>
      have hxs : ∀ y ∈ xs, rank (score y) = ⊥ := fun y hy => h y (List.mem_append_left _ hy)
      have hx : rank (score x) = ⊥ := h x (by simp)
      rw [List.argmax_concat, ih hxs]
      cases xs with
      | nil => rfl
      | cons y ys =>
          have hlt : ¬ rank (score y) < rank (score x) := by simp [hx]
          simp only [List.head?_cons, if_neg hlt, List.cons_append]

/-- As long as the first score is a number the loop computes the first maximum. -/
theorem foldl_keep_best_of_number {xs : List α}
    (h : ∀ x, xs.find? (fun y => (score y).isSome) = some x → score x ≠ some .nan) :
    xs.foldl (keep_best score) none = xs.argmax (fun x => rank (score x)) := by
  induction xs using List.reverseRecOn with
  | nil => rfl
  | append_singleton xs y ih =>
      have hxs : ∀ x, xs.find? (fun y => (score y).isSome) = some x → score x ≠ some .nan := by
        intro x hx
        apply h x
        rw [List.find?_append, hx, Option.some_or]
      rw [List.foldl_concat, ih hxs, List.argmax_concat]
      cases hbest : xs.argmax (fun x => rank (score x)) with
      | none => rfl
      | some c =>
          -- below a maximum that is not a number there is no score at all
          have hscored : rank (score c) = ⊥ → xs.find? (fun y => (score y).isSome) = none := by
            intro hbot
            cases hfirst : xs.find? (fun y => (score y).isSome) with
            | none => rfl
            | some x =>
                have hle := List.le_of_mem_argmax (f := fun x => rank (score x))
                  (List.mem_of_find?_eq_some hfirst) hbest
                rw [hbot] at hle
                have hx := rank_eq_bot_iff.mp (le_bot_iff.mp hle)
                have hsome : (score x).isSome = true := by simpa using List.find?_some hfirst
                match hs : score x with
                | none => rw [hs] at hsome; exact absurd hsome (by simp)
                | some .nan => exact absurd hs (hxs x hfirst)
                | some (.num s) => exact absurd hs (hx s)
          have hmem : c ∈ xs := List.argmax_mem hbest
          have hc : score c ≠ some .nan := by
            intro hnan
            have hnone := hscored (by rw [hnan]; rfl)
            exact absurd (List.find?_eq_none.mp hnone c hmem) (by simp [hnan])
          have hy : score c = none → score y ≠ some .nan := by
            intro hnone hnan
            apply h y _ hnan
            rw [List.find?_append, hscored (by rw [hnone]; rfl), Option.none_or]
            simp [hnan]
          rw [keep_best, if_congr (better_iff hc hy) rfl rfl]

/-- Keeping the best so far gives the first item of the highest score exactly on the lists of
`ComparableScores`. -/
theorem foldl_keep_best_eq_argmax_iff {xs : List α} :
    xs.foldl (keep_best score) none = xs.argmax (fun x => rank (score x))
      ↔ ComparableScores score xs := by
  constructor
  · intro heq x hfirst hnan
    have hx : xs.argmax (fun x => rank (score x)) = some x :=
      heq.symm.trans (foldl_keep_best_of_nan hfirst hnan)
    have hbot : ∀ y ∈ xs, rank (score y) = ⊥ := by
      intro y hy
      have hle := List.le_of_mem_argmax (f := fun x => rank (score x)) hy hx
      rw [hnan] at hle
      exact le_bot_iff.mp hle
    exact ⟨(argmax_eq_head?_of_bot hbot).symm.trans hx, hbot⟩
  · intro h
    by_cases hnan : ∃ x, xs.find? (fun y => (score y).isSome) = some x ∧ score x = some .nan
    · obtain ⟨x, hfirst, hx⟩ := hnan
      obtain ⟨hhead, hbot⟩ := h x hfirst hx
      rw [foldl_keep_best_of_nan hfirst hx, argmax_eq_head?_of_bot hbot, hhead]
    · exact foldl_keep_best_of_number fun x hfirst hx => hnan ⟨x, hfirst, hx⟩

end Scores

end ProofAlpha.Lib
