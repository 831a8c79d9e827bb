/-
Lists taken along an index map, and loops that draw one.

`take_along indices xs` is the comprehension `[xs[i] for i in indices]`, `none`
where an index is past the end. `Along indices xs ys` says that the series `ys`
is `xs` moved by `indices`, an absent (empty) series staying absent: the relation
parallel series must share to stay aligned row by row. `fill_until` is a `while`
loop that extends a list until it is long enough; a resampler is such a loop, and
`fill_until_invariant` and `exists_endsAfter` say what it draws and that it ends.
-/
import Mathlib.Data.List.Basic
import Mathlib.Data.List.TakeDrop
import Mathlib.Tactic.Common

set_option autoImplicit false

/-!
Loops over the indices `0, 1, 2, …` that carry a state and push one value per
index.

A bar loop (`for index in range(n): …; curve.append(x)`) is a step function
`σ → ℕ → σ × ω`: it takes the state before index `i` and returns the state after
it and the value pushed. `run` is the loop, `stateAt` the state before an index
and `outputAt` the value pushed at one. Everything a proof about such a loop
needs is one of three rules: an invariant (`stateAt_invariant`), a simulation
between two loops over different states (`run_sim`), and the congruence of two
loops over one state type whose steps agree along the states the first one
reaches (`run_congr`).
-/

namespace ProofAlpha.Lib.IndexedLoop

variable {σ τ ω : Type*}

/-! ## The loop -/

/-- The loop over the first `n` indices: the final state and the values pushed,
in order. -/
def run (step : σ → ℕ → σ × ω) (s : σ) : ℕ → σ × List ω
  | 0 => (s, [])
  | n + 1 =>
      let done := run step s n
      let next := step done.1 n
      (next.1, done.2 ++ [next.2])

/-- The state before index `n`. -/
def stateAt (step : σ → ℕ → σ × ω) (s : σ) (n : ℕ) : σ := (run step s n).1

/-- The value pushed at index `i`. -/
def outputAt (step : σ → ℕ → σ × ω) (s : σ) (i : ℕ) : ω := (step (stateAt step s i) i).2

variable (step : σ → ℕ → σ × ω) (s : σ)

@[simp] theorem stateAt_zero : stateAt step s 0 = s := rfl

theorem stateAt_succ (n : ℕ) : stateAt step s (n + 1) = (step (stateAt step s n) n).1 := rfl

@[simp] theorem run_fst (n : ℕ) : (run step s n).1 = stateAt step s n := rfl

/-- The values pushed are the outputs of the indices, in order. -/
theorem run_snd (n : ℕ) : (run step s n).2 = (List.range n).map (outputAt step s) := by
  induction n with
  | zero => rfl
  | succ n ih =>
      rw [List.range_succ, List.map_append, ← ih]
      rfl

/-- One value is pushed per index. -/
@[simp] theorem run_snd_length (n : ℕ) : (run step s n).2.length = n := by
  rw [run_snd, List.length_map, List.length_range]

/-- The value at position `i` is the one pushed at index `i`. -/
theorem run_snd_getElem? {n i : ℕ} (hi : i < n) :
    (run step s n).2[i]? = some (outputAt step s i) := by
  rw [run_snd, List.getElem?_map, List.getElem?_range hi, Option.map_some]

/-- The values pushed over fewer indices are the first of those pushed over more. -/
theorem run_snd_take (n k : ℕ) : (run step s (min k n)).2 = (run step s n).2.take k := by
  rw [run_snd, run_snd, ← List.map_take, List.take_range]

/-! ## The three rules -/

/-- An invariant that holds before the loop and is kept by every step holds
before every index. -/
theorem stateAt_invariant {step : σ → ℕ → σ × ω} {s : σ} (Inv : ℕ → σ → Prop) (h0 : Inv 0 s)
    (hstep : ∀ i t, Inv i t → Inv (i + 1) (step t i).1) (n : ℕ) : Inv n (stateAt step s n) := by
  induction n with
  | zero => exact h0
  | succ n ih => exact hstep n _ ih

/-- Simulation: two loops whose states are related before each index stay
related, and push values with the same reading, as long as each step keeps the
relation and pushes values with the same reading. -/
theorem run_sim {ω' ρ : Type*} {f : σ → ℕ → σ × ω} {g : τ → ℕ → τ × ω'} {s : σ} {t : τ}
    (p : ω → ρ) (q : ω' → ρ) (R : σ → τ → Prop) (n : ℕ) (h0 : R s t)
    (hstep : ∀ i, i < n → R (stateAt f s i) (stateAt g t i) →
      R (f (stateAt f s i) i).1 (g (stateAt g t i) i).1
        ∧ p (f (stateAt f s i) i).2 = q (g (stateAt g t i) i).2) :
    R (stateAt f s n) (stateAt g t n) ∧ (run f s n).2.map p = (run g t n).2.map q := by
  induction n with
  | zero => exact ⟨h0, rfl⟩
  | succ n ih =>
      obtain ⟨hR, hout⟩ := ih fun i hi => hstep i (Nat.lt_succ_of_lt hi)
      obtain ⟨hR', hout'⟩ := hstep n (Nat.lt_succ_self n) hR
      refine ⟨hR', ?_⟩
      simp only [run, List.map_append, List.map_cons, List.map_nil]
      rw [hout]
      exact congrArg (fun x => _ ++ [x]) hout'

/-- Congruence: two loops over the same state type whose steps agree on the
states the first one reaches compute the same thing. -/
theorem run_congr {f g : σ → ℕ → σ × ω} {s : σ} (n : ℕ)
    (hstep : ∀ i, i < n → f (stateAt f s i) i = g (stateAt f s i) i) :
    run f s n = run g s n := by
  induction n with
  | zero => rfl
  | succ n ih =>
      have hrun : run f s n = run g s n := ih fun i hi => hstep i (Nat.lt_succ_of_lt hi)
      have hlast : f (run f s n).1 n = g (run f s n).1 n := hstep n (Nat.lt_succ_self n)
      simp only [run, hlast]
      rw [hrun]

/-- The congruence rule, read at one index. -/
theorem outputAt_congr {f g : σ → ℕ → σ × ω} {s : σ} {n : ℕ}
    (hstep : ∀ i, i ≤ n → f (stateAt f s i) i = g (stateAt f s i) i) :
    outputAt f s n = outputAt g s n := by
  have hrun : run f s n = run g s n := run_congr n fun i hi => hstep i (Nat.le_of_lt hi)
  have hstate : stateAt f s n = stateAt g s n := congrArg Prod.fst hrun
  rw [outputAt, hstep n (Nat.le_refl n), hstate, outputAt]

end ProofAlpha.Lib.IndexedLoop

namespace ProofAlpha.Lib.IndexMap

variable {α σ : Type*}

/-! ## Taking a list along indices -/

/-- `[xs[i] for i in indices]`; `none` is `IndexError`. -/
def take_along (indices : List ℕ) (xs : List α) : Option (List α) :=
  indices.mapM fun i => xs[i]?

@[simp] theorem take_along_nil (xs : List α) : take_along [] xs = some [] := rfl

theorem take_along_cons (i : ℕ) (indices : List ℕ) (xs : List α) :
    take_along (i :: indices) xs
      = xs[i]?.bind fun x => (take_along indices xs).bind fun ys => some (x :: ys) := by
  simp only [take_along, List.mapM_cons]
  rfl

/-- The list taken has, at every position, the entry the index there points to. -/
theorem take_along_eq_some {indices : List ℕ} {xs ys : List α} :
    take_along indices xs = some ys ↔ ys.map some = indices.map fun i => xs[i]? := by
  induction indices generalizing ys with
  | nil => cases ys <;> simp
  | cons i indices ih =>
      rw [take_along_cons, Option.bind_eq_some_iff]
      constructor
      · rintro ⟨x, hx, h⟩
        obtain ⟨zs, hzs, h⟩ := Option.bind_eq_some_iff.mp h
        rw [← Option.some.inj h, List.map_cons, List.map_cons, ih.mp hzs, hx]
      · intro h
        cases ys with
        | nil => exact absurd h (by simp)
        | cons y ys =>
            rw [List.map_cons, List.map_cons, List.cons.injEq] at h
            exact ⟨y, h.1.symm, Option.bind_eq_some_iff.mpr ⟨ys, ih.mpr h.2, rfl⟩⟩

theorem length_of_take_along {indices : List ℕ} {xs ys : List α}
    (h : take_along indices xs = some ys) : ys.length = indices.length := by
  have hlength := congrArg List.length (take_along_eq_some.mp h)
  rwa [List.length_map, List.length_map] at hlength

/-- The entry at a position of the list taken. -/
theorem getElem?_of_take_along {indices : List ℕ} {xs ys : List α}
    (h : take_along indices xs = some ys) (k : ℕ) : ys[k]? = indices[k]?.bind fun i => xs[i]? := by
  have hk := congrArg (fun zs => zs[k]?) (take_along_eq_some.mp h)
  simp only [List.getElem?_map] at hk
  cases hy : ys[k]? with
  | none =>
      rw [hy, Option.map_none] at hk
      rw [Option.map_eq_none_iff.mp hk.symm, Option.bind_none]
  | some y =>
      rw [hy, Option.map_some] at hk
      obtain ⟨i, hi, hxi⟩ := Option.map_eq_some_iff.mp hk.symm
      rw [hi, Option.bind_some, hxi]

/-- A list can be taken along indices that are all inside it. -/
theorem exists_take_along {indices : List ℕ} {xs : List α} (h : ∀ i ∈ indices, i < xs.length) :
    ∃ ys, take_along indices xs = some ys := by
  induction indices with
  | nil => exact ⟨[], rfl⟩
  | cons i indices ih =>
      obtain ⟨ys, hys⟩ := ih fun j hj => h j (List.mem_cons_of_mem i hj)
      have hi := h i List.mem_cons_self
      refine ⟨xs[i] :: ys, ?_⟩
      rw [take_along_cons, hys, List.getElem?_eq_getElem hi]
      rfl

/-! ## Series moved together -/

/-- The series `ys` is `xs` taken along `indices`; an absent series stays absent. -/
def Along (indices : List ℕ) (xs ys : List α) : Prop :=
  xs = [] ∧ ys = [] ∨ take_along indices xs = some ys

/-- The series is absent or has one entry per index, equal to the one the index
points to. -/
def Unmoved (indices : List ℕ) (xs : List α) : Prop :=
  xs = [] ∨ xs.length = indices.length ∧ ∀ k i : ℕ, indices[k]? = some i → xs[k]? = xs[i]?

theorem along_of_take_along {indices : List ℕ} {xs ys : List α}
    (h : take_along indices xs = some ys) : Along indices xs ys := Or.inr h

/-- A series left as it was is moved along the indices exactly when they do not
move it. -/
theorem along_self_iff {indices : List ℕ} {xs : List α} :
    Along indices xs xs ↔ Unmoved indices xs := by
  constructor
  · rintro (⟨hnil, -⟩ | h)
    · exact Or.inl hnil
    · refine Or.inr ⟨length_of_take_along h, ?_⟩
      intro k i hk
      rw [getElem?_of_take_along h k, hk, Option.bind_some]
  · rintro (hnil | ⟨hlength, hentries⟩)
    · exact Or.inl ⟨hnil, hnil⟩
    · refine Or.inr (take_along_eq_some.mpr (List.ext_getElem? ?_))
      intro k
      rw [List.getElem?_map, List.getElem?_map]
      rcases Nat.lt_or_ge k indices.length with hk | hk
      · have hx : k < xs.length := by omega
        have hi := List.getElem?_eq_getElem hk
        rw [hi, Option.map_some, ← hentries k _ hi, List.getElem?_eq_getElem hx, Option.map_some]
      · rw [List.getElem?_eq_none hk, List.getElem?_eq_none (by omega : xs.length ≤ k)]
        rfl

/-! ## Loops that extend a list -/

/-- `while len(acc) < target: …extend acc…`, the body drawing from a state;
`fuel` bounds the passes. -/
def fill_until (target : ℕ) (body : σ → List α → List α × σ) : ℕ → σ → List α → List α
  | 0, _, acc => acc
  | fuel + 1, s, acc =>
      if acc.length < target then
        let next := body s acc
        fill_until target body fuel next.2 next.1
      else acc

variable {target : ℕ} {body : σ → List α → List α × σ}

/-- A property of the list that a pass keeps holds of the list the loop returns. -/
theorem fill_until_invariant (p : List α → Prop)
    (hbody : ∀ s acc, acc.length < target → p acc → p (body s acc).1) (fuel : ℕ) (s : σ)
    (acc : List α) (h : p acc) : p (fill_until target body fuel s acc) := by
  induction fuel generalizing s acc with
  | zero => exact h
  | succ fuel ih =>
      simp only [fill_until]
      by_cases hshort : acc.length < target
      · rw [if_pos hshort]
        exact ih _ _ (hbody s acc hshort h)
      · rw [if_neg hshort]
        exact h

/-- With one entry a pass, as many passes as are missing fill the list. -/
theorem le_length_fill_until
    (hbody : ∀ s acc, acc.length < target → acc.length < (body s acc).1.length) (fuel : ℕ)
    (s : σ) (acc : List α) (h : target ≤ acc.length + fuel) :
    target ≤ (fill_until target body fuel s acc).length := by
  induction fuel generalizing s acc with
  | zero => simpa [fill_until] using h
  | succ fuel ih =>
      simp only [fill_until]
      by_cases hshort : acc.length < target
      · rw [if_pos hshort]
        have hgrow := hbody s acc hshort
        apply ih
        omega
      · rw [if_neg hshort]
        omega

/-- The list and the state after so many passes of the body, whatever the guard says. -/
def after_passes (body : σ → List α → List α × σ) : ℕ → σ → List α → List α × σ
  | 0, s, acc => (acc, s)
  | passes + 1, s, acc => after_passes body passes (body s acc).2 (body s acc).1

theorem after_passes_succ (passes : ℕ) (s : σ) (acc : List α) :
    after_passes body (passes + 1) s acc
      = body (after_passes body passes s acc).2 (after_passes body passes s acc).1 := by
  induction passes generalizing s acc with
  | zero => rfl
  | succ passes ih => rw [after_passes, ih, after_passes]

/-- What passes have added stays in front of what later ones add. -/
theorem after_passes_append (hbody : ∀ s acc, acc <+: (body s acc).1) {k passes : ℕ}
    (hk : k ≤ passes) (s : σ) (acc : List α) :
    (after_passes body k s acc).1 <+: (after_passes body passes s acc).1 := by
  induction hk with
  | refl => exact List.prefix_refl _
  | step _ ih =>
      rw [after_passes_succ]
      exact ih.trans (hbody _ _)

/-- The loop runs so many passes and then stops: its guard holds before each of them
and fails after the last. -/
structure EndsAfter (target : ℕ) (body : σ → List α → List α × σ) (s : σ) (acc : List α)
    (passes : ℕ) (result : List α) : Prop where
  guard : ∀ k < passes, (after_passes body k s acc).1.length < target
  result_eq : result = (after_passes body passes s acc).1
  done : target ≤ result.length

/-- The loop ends within as many passes as entries are missing. -/
theorem exists_endsAfter
    (hbody : ∀ s acc, acc.length < target → acc.length < (body s acc).1.length) (fuel : ℕ)
    (s : σ) (acc : List α) (h : target ≤ acc.length + fuel) :
    ∃ passes ≤ fuel, EndsAfter target body s acc passes (fill_until target body fuel s acc) := by
  have hruns : ∃ passes ≤ fuel,
      (∀ k < passes, (after_passes body k s acc).1.length < target) ∧
        fill_until target body fuel s acc = (after_passes body passes s acc).1 := by
    clear h
    induction fuel generalizing s acc with
    | zero => exact ⟨0, Nat.le_refl 0, fun k hk => absurd hk (Nat.not_lt_zero k), rfl⟩
    | succ fuel ih =>
        simp only [fill_until]
        by_cases hshort : acc.length < target
        · obtain ⟨passes, hle, hguard, hresult⟩ := ih (body s acc).2 (body s acc).1
          rw [if_pos hshort]
          refine ⟨passes + 1, by omega, ?_, hresult⟩
          intro k hk
          cases k with
          | zero => exact hshort
          | succ k => exact hguard k (by omega)
        · rw [if_neg hshort]
          exact ⟨0, Nat.zero_le _, fun k hk => absurd hk (Nat.not_lt_zero k), rfl⟩
  obtain ⟨passes, hle, hguard, hresult⟩ := hruns
  exact ⟨passes, hle, hguard, hresult, le_length_fill_until hbody fuel s acc h⟩

end ProofAlpha.Lib.IndexMap
