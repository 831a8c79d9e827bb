/-
First occurrences.

`first_by key l` keeps the items of `l` whose key has not occurred before. It is
the declarative counterpart of a loop that skips the keys it has seen;
`foldl_seen` says that such a loop is a plain fold over the first occurrences.
-/
import Mathlib.Data.Finset.Insert
import Mathlib.Data.List.Forall2
import Mathlib.Data.List.Induction

set_option autoImplicit false

namespace ProofAlpha.Lib

variable {α σ κ : Type*} [DecidableEq κ]

/-- The items whose key has not occurred before. -/
def first_by (key : α → κ) : List α → List α
  | [] => []
  | x :: rest => x :: (first_by key rest).filter fun y => key y ≠ key x

theorem mem_of_mem_first_by {key : α → κ} {x : α} {l : List α} (h : x ∈ first_by key l) :
    x ∈ l := by
  induction l with
  | nil => exact h
  | cons y rest ih =>
      rcases List.mem_cons.mp h with rfl | hrest
      · exact List.mem_cons_self ..
      · exact List.mem_cons_of_mem y (ih (List.mem_filter.mp hrest).1)

/-- Every key occurs among the first occurrences. -/
theorem mem_map_first_by {key : α → κ} {k : κ} {l : List α} :
    k ∈ (first_by key l).map key ↔ k ∈ l.map key := by
  induction l with
  | nil => rfl
  | cons y rest ih =>
      rw [first_by, List.map_cons, List.map_cons, List.mem_cons, List.mem_cons]
      by_cases hk : k = key y
      · simp [hk]
      · rw [← ih]
        simp only [hk, false_or, List.mem_map, List.mem_filter, decide_eq_true_eq]
        constructor
        · rintro ⟨x, ⟨hx, -⟩, rfl⟩
          exact ⟨x, hx, rfl⟩
        · rintro ⟨x, hx, rfl⟩
          exact ⟨x, ⟨hx, hk⟩, rfl⟩

theorem map_first_by_nodup (key : α → κ) (l : List α) : ((first_by key l).map key).Nodup := by
  induction l with
  | nil => exact List.nodup_nil
  | cons y rest ih =>
      rw [first_by, List.map_cons, List.nodup_cons]
      refine ⟨?_, ih.sublist ((List.filter_sublist).map key)⟩
      intro hmem
      obtain ⟨x, hx, hkey⟩ := List.mem_map.mp hmem
      have hne := (List.mem_filter.mp hx).2
      rw [decide_eq_true_eq] at hne
      exact hne hkey

/-- What a later part adds: its own first occurrences with new keys. -/
theorem first_by_append (key : α → κ) (l₁ l₂ : List α) :
    first_by key (l₁ ++ l₂)
      = first_by key l₁ ++ (first_by key l₂).filter fun y => key y ∉ l₁.map key := by
  induction l₁ with
  | nil => simp [first_by]
  | cons x rest ih =>
      rw [List.cons_append, first_by, first_by, ih, List.filter_append, List.filter_filter,
        List.cons_append]
      congr 2
      apply List.filter_congr
      intro y _
      simp [not_or]

theorem first_by_concat (key : α → κ) (l : List α) (x : α) :
    first_by key (l ++ [x]) = first_by key l ++ if key x ∈ l.map key then [] else [x] := by
  rw [first_by_append]
  congr 1
  by_cases hx : key x ∈ l.map key
  · rw [if_pos hx]
    simpa [first_by] using hx
  · rw [if_neg hx]
    simpa [first_by] using hx

/-- First occurrences of what a list is mapped to. -/
theorem first_by_map {β : Type*} (key : β → κ) (f : α → β) (l : List α) :
    first_by key (l.map f) = (first_by (fun x => key (f x)) l).map f := by
  induction l with
  | nil => rfl
  | cons x rest ih =>
      rw [List.map_cons, first_by, first_by, List.map_cons, ih, List.filter_map]
      rfl

/-- Keys that are told apart by the same items have the same first occurrences. -/
theorem first_by_congr {κ' : Type*} [DecidableEq κ'] {key : α → κ} {key' : α → κ'}
    (h : ∀ x y, key x = key y ↔ key' x = key' y) (l : List α) :
    first_by key l = first_by key' l := by
  induction l with
  | nil => rfl
  | cons x rest ih =>
      rw [first_by, first_by, ih]
      congr 1
      apply List.filter_congr
      intro y _
      simp [h y x]

/-- A repeated key adds nothing, wherever it is inserted after the first one. -/
theorem first_by_insert_repeat {key : α → κ} {l₁ : List α} {x : α} (h : key x ∈ l₁.map key)
    (l₂ : List α) : first_by key (l₁ ++ x :: l₂) = first_by key (l₁ ++ l₂) := by
  rw [first_by_append, first_by_append, first_by, List.filter_cons,
    if_neg (by simpa using h), List.filter_filter]
  congr 1
  apply List.filter_congr
  intro y _
  by_cases hy : key y = key x
  · simp [hy, List.mem_map.mp h]
  · simp [hy]

/-- Where items with one key have one view, the views of the first occurrences do
not depend on the order. -/
theorem first_by_map_perm {β : Type*} {key : α → κ} {view : α → β} {l l' : List α}
    (hperm : l.Perm l') (hsame : ∀ x ∈ l, ∀ y ∈ l, key x = key y → view x = view y) :
    ((first_by key l).map view).Perm ((first_by key l').map view) := by
  cases hl : l with
  | nil =>
      have hnil : l' = [] := List.nil_perm.mp (hl ▸ hperm)
      rw [hnil]
  | cons x₀ rest =>
      rw [← hl]
      have hkeys : ((first_by key l).map key).Perm ((first_by key l').map key) := by
        refine (List.perm_ext_iff_of_nodup (map_first_by_nodup key l)
          (map_first_by_nodup key l')).mpr fun k => ?_
        rw [mem_map_first_by, mem_map_first_by, (hperm.map key).mem_iff]
      -- the view of an item is a function of its key
      let viewOf : κ → β := fun k => view ((l.find? fun x => key x = k).getD x₀)
      have hview : ∀ x ∈ l, view x = viewOf (key x) := by
        intro x hx
        have hsome : (l.find? fun y => key y = key x).isSome = true :=
          List.find?_isSome.mpr ⟨x, hx, decide_eq_true rfl⟩
        obtain ⟨y, hy⟩ := Option.isSome_iff_exists.mp hsome
        have hfound := List.find?_some hy
        have hkey : key y = key x := of_decide_eq_true hfound
        change view x = view ((l.find? fun y => key y = key x).getD x₀)
        rw [hy, Option.getD_some]
        exact hsame x hx y (List.mem_of_find?_eq_some hy) hkey.symm
      have hmap : ∀ l₁ : List α, (∀ x ∈ l₁, x ∈ l) →
          (first_by key l₁).map view = ((first_by key l₁).map key).map viewOf := by
        intro l₁ hl₁
        rw [List.map_map]
        exact List.map_congr_left fun x hx => hview x (hl₁ x (mem_of_mem_first_by hx))
      rw [hmap l fun _ h => h, hmap l' fun x hx => hperm.mem_iff.mpr hx]
      exact hkeys.map viewOf

/-- Lists that agree item by item, keys included, have first occurrences that do. -/
theorem forall₂_first_by {β : Type*} {key : α → κ} {key' : β → κ} {R : α → β → Prop}
    (hkey : ∀ x y, R x y → key x = key' y) {l : List α} {l' : List β} (h : List.Forall₂ R l l') :
    List.Forall₂ R (first_by key l) (first_by key' l') := by
  induction h with
  | nil => exact List.Forall₂.nil
  | cons hxy _ ih =>
      rw [first_by, first_by]
      refine List.Forall₂.cons hxy (List.rel_filter (fun a b hab => ?_) ih)
      dsimp only
      rw [hkey _ _ hab, hkey _ _ hxy]

/-- A loop that steps only at keys it has not seen folds over the first
occurrences. -/
theorem foldl_seen (key : α → κ) (seen : σ → Finset κ) {step skip : σ → α → σ} {init : σ}
    (hinit : seen init = ∅) (hseen : ∀ s x, seen (step s x) = insert (key x) (seen s))
    (hnew : ∀ s x, key x ∉ seen s → skip s x = step s x)
    (hold : ∀ s x, key x ∈ seen s → skip s x = s) (l : List α) :
    l.foldl skip init = (first_by key l).foldl step init
      ∧ ∀ k, k ∈ seen (l.foldl skip init) ↔ k ∈ l.map key := by
  induction l using List.reverseRecOn with
  | nil =>
      refine ⟨rfl, fun k => ?_⟩
      rw [List.foldl_nil, hinit]
      simp
  | append_singleton l x ih =>
      obtain ⟨hfold, hkeys⟩ := ih
      rw [List.foldl_append, List.foldl_cons, List.foldl_nil, first_by_concat]
      by_cases hx : key x ∈ l.map key
      · rw [if_pos hx, List.append_nil, hold _ _ ((hkeys _).mpr hx), ← hfold]
        refine ⟨rfl, fun k => ?_⟩
        rw [hkeys, List.map_append, List.mem_append, List.map_singleton, List.mem_singleton]
        constructor
        · exact Or.inl
        · rintro (hk | rfl)
          · exact hk
          · exact hx
      · have hstep := hnew (l.foldl skip init) x fun h => hx ((hkeys _).mp h)
        rw [if_neg hx, List.foldl_append, List.foldl_cons, List.foldl_nil, ← hfold, hstep]
        refine ⟨rfl, fun k => ?_⟩
        rw [hseen, Finset.mem_insert, hkeys, List.map_append, List.mem_append, List.map_singleton,
          List.mem_singleton, or_comm]

end ProofAlpha.Lib
