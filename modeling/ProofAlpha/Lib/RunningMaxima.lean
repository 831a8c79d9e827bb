/-
Running maxima: the peak a pass keeps, and the first of the best.

`RunningPeak.step gap` reads a list once: it raises the peak to the entry and lowers the
gap to that between the peak and the entry. Where a higher peak never has the greater gap,
the pass ends with the greatest entry and with the least gap over all pairs of an
entry and a later one (`RunningPeak.run_spec`), although it looks at one pair per entry.
-/
import Mathlib.Data.List.Induction
import Mathlib.Data.List.MinMax
import Mathlib.Data.List.Sort
import Mathlib.Order.Bounds.Basic
import Mathlib.Order.MinMax
import Mathlib.Tactic.Common

set_option autoImplicit false

namespace ProofAlpha.Lib.RunningPeak

variable {α β : Type*}

/-- `a` stands in the list at the place of `b` or before it. -/
def Earlier (entries : List α) (a b : α) : Prop :=
  ∃ i j : ℕ, i ≤ j ∧ entries[i]? = some a ∧ entries[j]? = some b

theorem earlier_append (more : List α) {entries : List α} {a b : α} (h : Earlier entries a b) :
    Earlier (entries ++ more) a b := by
  obtain ⟨i, j, hij, ha, hb⟩ := h
  have hbefore : ∀ {k : ℕ} {c : α}, entries[k]? = some c → (entries ++ more)[k]? = some c := by
    intro k c hc
    have hk : k < entries.length := (List.getElem?_eq_some_iff.mp hc).1
    rw [List.getElem?_append_left hk, hc]
  exact ⟨i, j, hij, hbefore ha, hbefore hb⟩

/-- The pairs that one more entry adds are those that end at it. -/
theorem earlier_concat_iff {entries : List α} {x a b : α} :
    Earlier (entries ++ [x]) a b ↔ Earlier entries a b ∨ (b = x ∧ a ∈ entries ++ [x]) := by
  constructor
  · rintro ⟨i, j, hij, ha, hb⟩
    by_cases hj : j < entries.length
    · rw [List.getElem?_append_left (lt_of_le_of_lt hij hj)] at ha
      rw [List.getElem?_append_left hj] at hb
      exact Or.inl ⟨i, j, hij, ha, hb⟩
    · have hlen : j < (entries ++ [x]).length := (List.getElem?_eq_some_iff.mp hb).1
      rw [List.length_append, List.length_singleton] at hlen
      obtain rfl : j = entries.length := by omega
      rw [List.getElem?_concat_length, Option.some.injEq] at hb
      exact Or.inr ⟨hb.symm, List.mem_of_getElem? ha⟩
  · rintro (h | ⟨rfl, ha⟩)
    · exact earlier_append [x] h
    · obtain ⟨i, hi⟩ := List.mem_iff_getElem?.mp ha
      have hlen : i < (entries ++ [b]).length := (List.getElem?_eq_some_iff.mp hi).1
      rw [List.length_append, List.length_singleton] at hlen
      exact ⟨i, entries.length, by omega, hi, List.getElem?_concat_length⟩

variable (gap : α → α → β)

/-- The gaps of a list: one for each entry and each later one. -/
def gaps (entries : List α) : Set β := {d | ∃ a b, Earlier entries a b ∧ gap a b = d}

theorem gaps_mono (entries more : List α) : gaps gap entries ⊆ gaps gap (entries ++ more) := by
  rintro d ⟨a, b, hab, rfl⟩
  exact ⟨a, b, earlier_append more hab, rfl⟩

variable [LinearOrder α] [LinearOrder β]

/-- One entry of the pass, from the peak and the least gap so far. -/
def step (acc : α × β) (x : α) : α × β :=
  (max acc.1 x, min acc.2 (gap (max acc.1 x) x))

/-- The pass from the first entry on: the peak is the greatest entry and the gap the
least over all pairs. -/
theorem run_spec (first : α) (rest : List α)
    (hgap : ∀ a ∈ first :: rest, ∀ b ∈ first :: rest, ∀ x ∈ first :: rest,
      a ≤ b → gap b x ≤ gap a x) :
    IsGreatest {a | a ∈ first :: rest} (rest.foldl (step gap) (first, gap first first)).1 ∧
      IsLeast (gaps gap (first :: rest)) (rest.foldl (step gap) (first, gap first first)).2 := by
  induction rest using List.reverseRecOn with
  | nil =>
      refine ⟨⟨List.mem_singleton_self first, ?_⟩,
        ⟨first, first, ⟨0, 0, le_rfl, rfl, rfl⟩, rfl⟩, ?_⟩
      · rintro a ha
        exact le_of_eq (List.mem_singleton.mp ha)
      · rintro d ⟨a, b, ⟨i, j, -, ha, hb⟩, rfl⟩
        obtain rfl := List.mem_singleton.mp (List.mem_of_getElem? ha)
        obtain rfl := List.mem_singleton.mp (List.mem_of_getElem? hb)
        exact le_rfl
  | append_singleton rest x ih =>
      have hmem : ∀ {a : α}, a ∈ first :: rest → a ∈ first :: (rest ++ [x]) := by
        intro a ha
        rw [← List.cons_append]
        exact List.mem_append_left _ ha
      have hx : x ∈ first :: (rest ++ [x]) := by simp
      obtain ⟨hpeak, hleast⟩ := ih fun a ha b hb c hc =>
        hgap a (hmem ha) b (hmem hb) c (hmem hc)
      rw [List.foldl_append, List.foldl_cons, List.foldl_nil, step, ← List.cons_append]
      set acc := rest.foldl (step gap) (first, gap first first)
      have htop : IsGreatest {a | a ∈ first :: rest ++ [x]} (max acc.1 x) := by
        constructor
        · rcases le_total acc.1 x with h | h
          · rw [max_eq_right h]
            exact hx
          · rw [max_eq_left h]
            exact hmem hpeak.1
        · intro a ha
          rcases List.mem_append.mp ha with h | h
          · exact le_max_of_le_left (hpeak.2 h)
          · rw [List.mem_singleton.mp h]
            exact le_max_right _ _
      refine ⟨htop, ?_, ?_⟩
      -- the least gap is one of the old ones or that of the new peak and the new entry
      · rcases le_total acc.2 (gap (max acc.1 x) x) with h | h
        · rw [min_eq_left h]
          exact gaps_mono gap (first :: rest) [x] hleast.1
        · rw [min_eq_right h]
          exact ⟨_, x, earlier_concat_iff.mpr (Or.inr ⟨rfl, htop.1⟩), rfl⟩
      · rintro d ⟨a, b, hab, rfl⟩
        rcases earlier_concat_iff.mp hab with h | ⟨rfl, ha⟩
        · exact min_le_of_left_le (hleast.2 ⟨a, b, h, rfl⟩)
        · -- a pair that ends at the new entry is no worse than the one from the peak
          exact min_le_of_right_le (hgap a ha _ htop.1 b hx (htop.2 ha))

end ProofAlpha.Lib.RunningPeak

/-!
The first of the best.

A loop that replaces what it keeps only by something better ends with the first item of the
highest key (`first_max_eq_argmax`), and so does a stable sort that puts the highest keys in
front (`head?_insertionSort_eq_argmax`). Whoever ranks a list both ways gets one winner.
-/

namespace ProofAlpha.Lib

variable {α β : Type*}

/-- Keeps what it has unless the new item is better. -/
def keep_first (better : α → α → Bool) (best : Option α) (x : α) : Option α :=
  match best with
  | none => some x
  | some kept => if better x kept then some x else some kept

/-- The item that such a loop ends with. -/
def first_max (better : α → α → Bool) (xs : List α) : Option α :=
  xs.foldl (keep_first better) none

theorem first_max_concat (better : α → α → Bool) (xs : List α) (x : α) :
    first_max better (xs ++ [x]) = keep_first better (first_max better xs) x := by
  unfold first_max
  rw [List.foldl_concat]

variable [LinearOrder β] {key : α → β}

/-- When better means of a higher key, the loop finds the first item of the highest key. -/
theorem first_max_eq_argmax {better : α → α → Bool}
    (h : ∀ x kept, better x kept = true ↔ key kept < key x) (xs : List α) :
    first_max better xs = xs.argmax key := by
  induction xs using List.reverseRecOn with
  | nil => rfl
  | append_singleton xs x ih =>
      rw [first_max_concat, ih, List.argmax_concat]
      cases xs.argmax key with
      | none => rfl
      | some kept => simp only [keep_first, h]

/-- A stable sort by falling keys begins with the first item of the highest key. -/
theorem head?_insertionSort_eq_argmax (key : α → β) (xs : List α) :
    (xs.insertionSort fun x y => key y ≤ key x).head? = xs.argmax key := by
  induction xs with
  | nil => rfl
  | cons x xs ih =>
      rw [List.insertionSort_cons, List.argmax_cons, ← ih]
      cases xs.insertionSort fun x y => key y ≤ key x with
      | nil => rfl
      | cons y sorted =>
          rw [List.orderedInsert]
          by_cases hkey : key y ≤ key x
          · simp [hkey]
          · simp [hkey, not_le.mp hkey]

/-- Ranking by a key of the images is ranking the images. -/
theorem argmax_map {γ : Type*} (f : γ → α) (xs : List γ) :
    (xs.map f).argmax key = (xs.argmax (key ∘ f)).map f := by
  induction xs using List.reverseRecOn with
  | nil => rfl
  | append_singleton xs x ih =>
      rw [List.map_append, List.map_singleton, List.argmax_concat, List.argmax_concat, ih]
      cases xs.argmax (key ∘ f) with
      | none => rfl
      | some kept =>
          by_cases hlt : key (f kept) < key (f x)
          · simp [hlt]
          · simp [hlt]

/-- The place of the first item of the highest key. -/
theorem exists_index_of_argmax {xs : List α} {x : α} (h : xs.argmax key = some x) :
    ∃ index : ℕ, xs[index]? = some x ∧ (∀ y ∈ xs, key y ≤ key x)
      ∧ ∀ earlier < index, ∀ y, xs[earlier]? = some y → key y < key x := by
  induction xs using List.reverseRecOn generalizing x with
  | nil => cases h
  | append_singleton xs last ih =>
      rw [List.argmax_concat] at h
      cases hkept : xs.argmax key with
      | none =>
          rw [hkept] at h
          rw [List.argmax_eq_none.mp hkept]
          obtain rfl : last = x := Option.some.inj h
          refine ⟨0, rfl, ?_, ?_⟩
          · intro y hy
            rw [List.mem_singleton.mp hy]
          · intro earlier hearlier
            omega
      | some kept =>
          rw [hkept] at h
          dsimp only at h
          obtain ⟨index, hindex, hmax, hfirst⟩ := ih hkept
          have hlength : index < xs.length := (List.getElem?_eq_some_iff.mp hindex).1
          by_cases hlt : key kept < key last
          · -- the last item is above all before it
            rw [if_pos hlt] at h
            obtain rfl : last = x := Option.some.inj h
            refine ⟨xs.length, List.getElem?_concat_length, ?_, ?_⟩
            · intro y hy
              rcases List.mem_append.mp hy with hy | hy
              · exact ((hmax y hy).trans_lt hlt).le
              · rw [List.mem_singleton.mp hy]
            · intro earlier hearlier y hy
              rw [List.getElem?_append_left hearlier] at hy
              exact (hmax y (List.mem_of_getElem? hy)).trans_lt hlt
          · rw [if_neg hlt] at h
            obtain rfl : kept = x := Option.some.inj h
            refine ⟨index, ?_, ?_, ?_⟩
            · rw [List.getElem?_append_left hlength, hindex]
            · intro y hy
              rcases List.mem_append.mp hy with hy | hy
              · exact hmax y hy
              · rw [List.mem_singleton.mp hy]
                exact not_lt.mp hlt
            · intro earlier hearlier y hy
              rw [List.getElem?_append_left (hearlier.trans hlength)] at hy
              exact hfirst earlier hearlier y hy

end ProofAlpha.Lib
