/-
Python lists as Lean lists: subscripting with a signed index, slices that follow
one another, padding a series by repeating its last value, filters of ordered
lists, lookups in a table, and agreement of two series up to an index.

`item xs i d` is `xs[i]` with Python's wrap-around of negative indices; where
Python raises `IndexError` it is the default `d`. `AgreeUpTo m xs ys` says that
two series have the same values at the positions `0..m` and end before `m`
together if they end there at all: the relation a two-run argument about
per-bar series carries.
-/
import Mathlib.Algebra.BigOperators.Ring.List
import Mathlib.Algebra.GroupWithZero.Action.Defs
import Mathlib.Algebra.Order.Ring.Nat
import Mathlib.Data.Int.Notation
import Mathlib.Data.List.GetD
import Mathlib.Data.List.Nodup
import Mathlib.Data.List.TakeDrop
import Mathlib.Tactic.Common

set_option autoImplicit false

namespace ProofAlpha.Lib.PyList

variable {α β : Type*}

/-! ## Subscripts -/

/-- `xs[i]`: a negative index counts from the end, and an index out of range
gives `d`. -/
def item (xs : List α) (i : ℤ) (d : α) : α :=
  if 0 ≤ i then xs.getD i.toNat d
  else if 0 ≤ xs.length + i then xs.getD (xs.length + i).toNat d
  else d

@[simp] theorem item_natCast (xs : List α) (i : ℕ) (d : α) : item xs (i : ℤ) d = xs.getD i d := by
  simp [item]

/-- A subscript into a mapped list is the function at the subscript, when the
defaults correspond. -/
theorem item_map (f : α → β) (xs : List α) (i : ℤ) (d : α) :
    item (xs.map f) i (f d) = f (item xs i d) := by
  unfold item
  simp only [List.length_map, List.getD_eq_getElem?_getD, List.getElem?_map]
  split_ifs <;> first | rfl | exact Option.getD_map f d _

/-- A subscript reads an entry of the list or the default. -/
theorem item_eq_or_mem (xs : List α) (i : ℤ) (d : α) : item xs i d = d ∨ item xs i d ∈ xs := by
  have hget : ∀ k : ℕ, xs.getD k d = d ∨ xs.getD k d ∈ xs := by
    intro k
    rcases Nat.lt_or_ge k xs.length with hk | hk
    · rw [List.getD_eq_getElem _ _ hk]
      exact Or.inr (List.getElem_mem hk)
    · exact Or.inl (List.getD_eq_default _ _ hk)
  unfold item
  split_ifs
  · exact hget _
  · exact hget _
  · exact Or.inl rfl

/-- A property of the default and of every entry is one of every subscript. -/
theorem item_of_forall {p : α → Prop} {xs : List α} {d : α} (hd : p d) (h : ∀ x ∈ xs, p x)
    (i : ℤ) : p (item xs i d) := by
  rcases item_eq_or_mem xs i d with he | hmem
  · rwa [he]
  · exact h _ hmem

/-- A search over the indices finds what a search over the list finds. -/
theorem find?_range_getD (xs : List α) (p : α → Bool) (d : α) :
    ((List.range xs.length).find? fun i => p (xs.getD i d)).map (fun i => xs.getD i d)
      = xs.find? p := by
  have hxs : xs = (List.range xs.length).map fun i => xs.getD i d := by
    refine List.ext_getElem (by simp) ?_
    intro i h₁ h₂
    rw [List.getElem_map, List.getElem_range, List.getD_eq_getElem _ _ h₁]
  conv_rhs => rw [hxs, List.find?_map]
  rfl

/-! ## Enumeration -/

/-- `[f(x) for i, x in enumerate(xs)]`. -/
theorem zipIdx_map_left (f : α → β) (xs : List α) :
    (xs.zipIdx.map fun pair => f pair.1) = xs.map f := by
  refine List.ext_getElem (by simp) ?_
  intro i h₁ h₂
  simp

/-- A parallel list read at the enumerated positions is the list. -/
theorem zipIdx_map_getD {xs : List α} {ys : List β} (h : ys.length = xs.length) (default : α → β) :
    (xs.zipIdx.map fun pair => ys.getD pair.2 (default pair.1)) = ys := by
  refine List.ext_getElem (by simp [h]) ?_
  intro i h₁ h₂
  rw [List.getElem_map, List.getElem_zipIdx, Nat.zero_add, List.getD_eq_getElem _ _ h₂]

/-! ## Slices -/

/-- Slices that follow one another from the start are the list up to the end of the last. -/
theorem flatMap_slices (xs : List α) {bounds : ℕ → ℕ} (hstart : bounds 0 = 0) {n : ℕ}
    (hnext : ∀ i < n, bounds i ≤ bounds (i + 1)) :
    ((List.range n).flatMap fun i => (xs.take (bounds (i + 1))).drop (bounds i))
      = xs.take (bounds n) := by
  induction n with
  | zero =>
      rw [hstart]
      rfl
  | succ n ih =>
      have hcut : xs.take (bounds n) = (xs.take (bounds (n + 1))).take (bounds n) := by
        rw [List.take_take, Nat.min_eq_left (hnext n (Nat.lt_succ_self n))]
      rw [List.range_succ, List.flatMap_append, List.flatMap_singleton,
        ih fun i hi => hnext i (Nat.lt_succ_of_lt hi), hcut, List.take_append_drop]

/-! ## Filters -/

/-- Where a condition passes from an entry to the ones before it, the entries that meet it come
first. -/
theorem filter_append_filter_not {p : α → Bool} {xs : List α}
    (h : xs.Pairwise fun a b => p b = true → p a = true) :
    xs.filter p ++ xs.filter (fun x => !p x) = xs := by
  induction xs with
  | nil => rfl
  | cons x xs ih =>
      obtain ⟨hx, hxs⟩ := List.pairwise_cons.mp h
      cases hp : p x with
      | true =>
          rw [List.filter_cons_of_pos hp, List.filter_cons_of_neg (by rw [hp]; decide),
            List.cons_append, ih hxs]
      | false =>
          -- nothing after `x` meets the condition either
          have hnone : ∀ y ∈ x :: xs, p y = false := by
            intro y hy
            rcases List.mem_cons.mp hy with rfl | hy
            · exact hp
            · exact Bool.eq_false_iff.mpr fun htrue => Bool.eq_false_iff.mp hp (hx y hy htrue)
          rw [List.filter_eq_nil_iff.mpr fun y hy => Bool.eq_false_iff.mp (hnone y hy),
            List.filter_eq_self.mpr fun y hy => by rw [hnone y hy]; rfl, List.nil_append]

/-! ## Lookups -/

theorem mem_of_lookup_eq_some {κ : Type*} [BEq κ] [LawfulBEq κ] {table : List (κ × α)} {key : κ}
    {value : α} (h : table.lookup key = some value) : (key, value) ∈ table := by
  obtain ⟨before, after, htable, -⟩ := List.lookup_eq_some_iff.mp h
  rw [htable]
  exact List.mem_append_right _ List.mem_cons_self

/-- A table filled from those keys that have a value holds under each key its own value. -/
theorem lookup_filterMap {κ : Type*} [BEq κ] [LawfulBEq κ] (key : β → κ) (value : β → Option α)
    {items : List β} (hnodup : (items.map key).Nodup) {entry : β} (hentry : entry ∈ items) :
    (items.filterMap fun item => (value item).map fun v => (key item, v)).lookup (key entry)
      = value entry := by
  induction items with
  | nil => cases hentry
  | cons first rest ih =>
      rw [List.map_cons, List.nodup_cons] at hnodup
      rcases List.mem_cons.mp hentry with rfl | hrest
      · cases hvalue : value entry with
        | some v =>
            rw [List.filterMap_cons, hvalue]
            exact List.lookup_cons_self
        | none =>
            -- no later item has this key
            rw [List.filterMap_cons, hvalue]
            refine List.lookup_eq_none_iff.mpr ?_
            rintro ⟨k, v⟩ hmem
            obtain ⟨item, hitem, hpair⟩ := List.mem_filterMap.mp hmem
            obtain ⟨w, -, hpair⟩ := Option.map_eq_some_iff.mp hpair
            cases hpair
            refine bne_iff_ne.mpr fun hkey => hnodup.1 ?_
            rw [hkey]
            exact List.mem_map_of_mem hitem
      · have hne : key entry ≠ key first := by
          intro hkey
          exact hnodup.1 (hkey ▸ List.mem_map_of_mem hrest)
        have hrest' := ih hnodup.2 hrest
        rw [List.filterMap_cons]
        cases value first with
        | none => exact hrest'
        | some v =>
            rw [Option.map_some]
            dsimp only
            rw [List.lookup_cons, beq_eq_false_iff_ne.mpr hne]
            exact hrest'

/-! ## Padding -/

/-- Repeats the last value (or `default` when there is none) until the series
has `length` entries; a longer series is kept whole. -/
def pad_series (values : List α) (length : ℕ) (default : α) : List α :=
  values ++ List.replicate (length - values.length) (values.getLastD default)

/-- The first `length` entries of the padded series. -/
def normalize_series (values : List α) (length : ℕ) (default : α) : List α :=
  pad_series (values.take length) length default

/-- A series of the right length is left as it is. -/
theorem normalize_series_of_length {values : List α} {length : ℕ} (h : values.length = length)
    (default : α) : normalize_series values length default = values := by
  rw [normalize_series, List.take_of_length_le (by omega), pad_series, h, Nat.sub_self,
    List.replicate_zero, List.append_nil]

/-! ## Agreement up to an index -/

/-- The two series agree at the positions `0..m`, and where one of them is
already over there, so is the other. -/
def AgreeUpTo (m : ℕ) (xs ys : List α) : Prop := xs.take (m + 1) = ys.take (m + 1)

theorem AgreeUpTo.refl (m : ℕ) (xs : List α) : AgreeUpTo m xs xs := rfl

theorem AgreeUpTo.mono {m k : ℕ} {xs ys : List α} (h : AgreeUpTo m xs ys) (hk : k ≤ m) :
    AgreeUpTo k xs ys := by
  have hcut := congrArg (List.take (k + 1)) h
  rwa [List.take_take, List.take_take, Nat.min_eq_left (by omega)] at hcut

theorem AgreeUpTo.map {m : ℕ} {xs ys : List α} (h : AgreeUpTo m xs ys) (f : α → β) :
    AgreeUpTo m (xs.map f) (ys.map f) := by
  rw [AgreeUpTo, ← List.map_take, ← List.map_take, h]

/-- Agreement read at one position. -/
theorem AgreeUpTo.getElem? {m i : ℕ} {xs ys : List α} (h : AgreeUpTo m xs ys) (hi : i ≤ m) :
    xs[i]? = ys[i]? := by
  have hx : (xs.take (m + 1))[i]? = (ys.take (m + 1))[i]? := by rw [h]
  rwa [List.getElem?_take_of_lt (by omega), List.getElem?_take_of_lt (by omega)] at hx

theorem AgreeUpTo.getD {m i : ℕ} {xs ys : List α} (h : AgreeUpTo m xs ys) (hi : i ≤ m) (d : α) :
    xs.getD i d = ys.getD i d := by
  rw [List.getD_eq_getElem?_getD, List.getD_eq_getElem?_getD, h.getElem? hi]

/-- Agreement is agreement at every position. -/
theorem agreeUpTo_iff {m : ℕ} {xs ys : List α} :
    AgreeUpTo m xs ys ↔ ∀ i, i ≤ m → xs[i]? = ys[i]? := by
  refine ⟨fun h i hi => h.getElem? hi, fun h => List.ext_getElem? fun i => ?_⟩
  rcases Nat.lt_or_ge i (m + 1) with hi | hi
  · rw [List.getElem?_take_of_lt hi, List.getElem?_take_of_lt hi, h i (by omega)]
  · rw [List.getElem?_eq_none (by rw [List.length_take]; omega),
      List.getElem?_eq_none (by rw [List.length_take]; omega)]

/-- Two series that agree are both empty or both not. -/
theorem AgreeUpTo.isEmpty {m : ℕ} {xs ys : List α} (h : AgreeUpTo m xs ys) :
    xs.isEmpty = ys.isEmpty := by
  have h0 := h.getElem? (Nat.zero_le m)
  cases xs <;> cases ys <;> simp at h0 ⊢

/-- Padding keeps agreement at positions both padded series reach: a series that
has ended by `m` ended at the same place, with the same last value, in both. -/
theorem AgreeUpTo.pad {m lx ly : ℕ} {xs ys : List α} (h : AgreeUpTo m xs ys) (hx : m < lx)
    (hy : m < ly) (d : α) : AgreeUpTo m (pad_series xs lx d) (pad_series ys ly d) := by
  rcases Nat.lt_or_ge m xs.length with hlx | hlx
  · have hly : m < ys.length := by
      have hm := h.getElem? (Nat.le_refl m)
      rw [List.getElem?_eq_getElem hlx] at hm
      exact (List.getElem?_eq_some_iff.mp hm.symm).1
    rw [AgreeUpTo, pad_series, pad_series, List.take_append_of_le_length (by omega),
      List.take_append_of_le_length (by omega)]
    exact h
  · -- both series end by `m`, so agreement is equality
    have hxs : xs.take (m + 1) = xs := List.take_of_length_le (by omega)
    have hly : ys.length ≤ m := by
      have hm := h.getElem? (Nat.le_refl m)
      rw [List.getElem?_eq_none hlx] at hm
      exact List.getElem?_eq_none_iff.mp hm.symm
    have heq : xs = ys := by
      rw [AgreeUpTo, hxs, List.take_of_length_le (by omega)] at h
      exact h
    subst heq
    rw [agreeUpTo_iff]
    intro i hi
    simp only [pad_series, List.getElem?_append, List.getElem?_replicate]
    split_ifs <;> first | rfl | omega

theorem AgreeUpTo.normalize {m lx ly : ℕ} {xs ys : List α} (h : AgreeUpTo m xs ys) (hx : m < lx)
    (hy : m < ly) (d : α) : AgreeUpTo m (normalize_series xs lx d) (normalize_series ys ly d) := by
  refine AgreeUpTo.pad ?_ hx hy d
  rw [AgreeUpTo, List.take_take, List.take_take, Nat.min_eq_left (by omega),
    Nat.min_eq_left (by omega)]
  exact h

end ProofAlpha.Lib.PyList

/-!
The Cartesian product of a list of lists.

`product` enumerates the rows that take one value from each pool, the last pool
fastest, as `itertools.product` does. A value that stands twice in its pool gives
its rows twice, so the rows are distinct exactly where the pools are
(`nodup_product_iff`).
-/

namespace ProofAlpha.Lib

variable {α : Type*}

/-- `itertools.product(*pools)`. -/
def product : List (List α) → List (List α)
  | [] => [[]]
  | pool :: pools => pool.flatMap fun value => (product pools).map fun row => value :: row

/-- A row takes one value from each pool. -/
theorem mem_product {pools : List (List α)} {row : List α} :
    row ∈ product pools ↔ List.Forall₂ (· ∈ ·) row pools := by
  induction pools generalizing row with
  | nil =>
      rw [product, List.mem_singleton, List.forall₂_nil_right_iff]
  | cons pool pools ih =>
      rw [product, List.mem_flatMap, List.forall₂_cons_right_iff]
      constructor
      · rintro ⟨value, hvalue, hrow⟩
        obtain ⟨rest, hrest, rfl⟩ := List.mem_map.mp hrow
        exact ⟨value, rest, hvalue, ih.mp hrest, rfl⟩
      · rintro ⟨value, rest, hvalue, hrest, rfl⟩
        exact ⟨value, hvalue, List.mem_map_of_mem (ih.mpr hrest)⟩

theorem length_product (pools : List (List α)) :
    (product pools).length = (pools.map List.length).prod := by
  induction pools with
  | nil => rfl
  | cons pool pools ih =>
      rw [product, List.length_flatMap, List.map_cons, List.prod_cons, ← ih]
      simp only [List.length_map]
      rw [List.map_const', List.sum_replicate, smul_eq_mul]

theorem product_eq_nil_iff {pools : List (List α)} : product pools = [] ↔ [] ∈ pools := by
  rw [← List.length_eq_zero_iff, length_product, List.prod_eq_zero_iff, List.mem_map]
  constructor
  · rintro ⟨pool, hpool, hlength⟩
    rwa [← List.length_eq_zero_iff.mp hlength]
  · exact fun hnil => ⟨[], hnil, rfl⟩

/-- The rows of pools that are not empty are distinct where the pools are. -/
theorem nodup_product_iff {pools : List (List α)} (hne : [] ∉ pools) :
    (product pools).Nodup ↔ ∀ pool ∈ pools, pool.Nodup := by
  induction pools with
  | nil => simp [product]
  | cons pool pools ih =>
      obtain ⟨hpool, hpools⟩ := not_or.mp (List.mem_cons.not.mp hne)
      have hsome : product pools ≠ [] := fun hnil => hpools (product_eq_nil_iff.mp hnil)
      obtain ⟨row, hrow⟩ := List.exists_mem_of_ne_nil _ hsome
      have hinjective : ∀ value : α, Function.Injective fun row => value :: row :=
        fun value row row' h => (List.cons.inj h).2
      -- the rows of two values share none, unless the values are the same
      have hdisjoint : ∀ value value' : α,
          List.Disjoint ((product pools).map fun row => value :: row)
            ((product pools).map fun row => value' :: row) ↔ value ≠ value' := by
        intro value value'
        constructor
        · rintro hdisjoint rfl
          exact hdisjoint (List.mem_map_of_mem hrow) (List.mem_map_of_mem hrow)
        · intro hvalue x hx hx'
          obtain ⟨row₁, -, rfl⟩ := List.mem_map.mp hx
          obtain ⟨row₂, -, heq⟩ := List.mem_map.mp hx'
          exact hvalue (List.cons.inj heq).1.symm
      have hvalues : pool.Pairwise (Function.onFun List.Disjoint fun value =>
          (product pools).map fun row => value :: row) ↔ pool.Nodup :=
        List.Pairwise.iff hdisjoint
      rw [product, List.nodup_flatMap, List.forall_mem_cons, hvalues]
      simp only [List.nodup_map_iff (hinjective _), ih hpools]
      constructor
      · rintro ⟨hrows, hvalues⟩
        obtain ⟨value, hvalue⟩ := List.exists_mem_of_ne_nil pool fun hnil => hpool hnil.symm
        exact ⟨hvalues, hrows value hvalue⟩
      · rintro ⟨hvalues, hrows⟩
        exact ⟨fun _ _ => hrows, hvalues⟩

end ProofAlpha.Lib
