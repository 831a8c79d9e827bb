/-
Ranks of the entries of a list.

Sorting the indices of a list gives every index a place, and the place of an index
is its rank: at least the number of smaller entries and less than the number of
entries that are no larger (`IsArgsort.rank_bounds`). Ties leave room between the
two. Sorting twice, and writing the places into a table, both give the ranks.
-/
import Mathlib.Data.List.Sort
import Mathlib.Order.Basic
import Mathlib.Tactic.Linarith

set_option autoImplicit false

namespace ProofAlpha.Lib

/-! ## Writing into a list -/

section Writes

variable {β : Type*}

/-- The assignments `xs[i] = b` of a loop, one after another. -/
def write_all (xs : List β) (writes : List (ℕ × β)) : List β :=
  writes.foldl (fun xs write => xs.set write.1 write.2) xs

/-- An index that is not written keeps its entry. -/
theorem getElem?_write_all_of_notMem {xs : List β} {writes : List (ℕ × β)} {i : ℕ}
    (h : i ∉ writes.map Prod.fst) : (write_all xs writes)[i]? = xs[i]? := by
  induction writes generalizing xs with
  | nil => rfl
  | cons write rest ih =>
      rw [List.map_cons, List.mem_cons, not_or] at h
      rw [write_all, List.foldl_cons, ← write_all, ih h.2, List.getElem?_set_ne (Ne.symm h.1)]

/-- Where no index is written twice, every write stays. -/
theorem getElem?_write_all {xs : List β} {writes : List (ℕ × β)}
    (hnodup : (writes.map Prod.fst).Nodup) {i : ℕ} {b : β} (hi : i < xs.length)
    (hmem : (i, b) ∈ writes) : (write_all xs writes)[i]? = some b := by
  induction writes generalizing xs with
  | nil => cases hmem
  | cons write rest ih =>
      rw [List.map_cons, List.nodup_cons] at hnodup
      rw [write_all, List.foldl_cons, ← write_all]
      rcases List.mem_cons.mp hmem with hwrite | hrest
      · rw [← hwrite] at hnodup ⊢
        rw [getElem?_write_all_of_notMem hnodup.1, List.getElem?_set_self hi]
      · exact ih hnodup.2 (by rw [List.length_set]; exact hi) hrest

end Writes

/-! ## Sorted indices -/

section Sorting

variable {α : Type*} [LinearOrder α]

/-- The indices of a list, in an order in which the entries do not decrease. -/
structure IsArgsort (values : List α) (indices : List ℕ) : Prop where
  perm : indices.Perm (List.range values.length)
  sorted : indices.Pairwise fun i j => ∀ x ∈ values[i]?, ∀ y ∈ values[j]?, x ≤ y

/-- Ranks: at least the number of smaller entries, less than the number of entries that
are no larger. -/
def IsRanking (values : List α) (ranks : List ℕ) : Prop :=
  ∀ (k : ℕ) (x : α), values[k]? = some x →
    ∃ r : ℕ, ranks[k]? = some r ∧ values.countP (· < x) ≤ r ∧ r < values.countP (· ≤ x)

omit [LinearOrder α] in
theorem map_getElem?_range (values : List α) :
    (List.range values.length).map (fun i => values[i]?) = values.map some := by
  refine List.ext_getElem (by simp) fun i hi hi' => ?_
  simp only [List.length_map, List.length_range] at hi
  simp [hi]

theorem IsArgsort.countP {values : List α} {indices : List ℕ} (h : IsArgsort values indices)
    (p : α → Bool) : values.countP p = indices.countP fun i => values[i]?.any p := by
  calc values.countP p = (values.map some).countP fun o => o.any p := by
        rw [List.countP_map]
        rfl
    _ = (List.range values.length).countP fun i => values[i]?.any p := by
        rw [← map_getElem?_range, List.countP_map]
        rfl
    _ = indices.countP fun i => values[i]?.any p := (h.perm.countP_eq _).symm

theorem IsArgsort.mem {values : List α} {indices : List ℕ} (h : IsArgsort values indices) {k : ℕ}
    (hk : k < values.length) : k ∈ indices :=
  h.perm.mem_iff.mpr (List.mem_range.mpr hk)

theorem IsArgsort.nodup {values : List α} {indices : List ℕ} (h : IsArgsort values indices) :
    indices.Nodup :=
  h.perm.nodup_iff.mpr List.nodup_range

/-- The place of an index among the sorted ones is its rank. -/
theorem IsArgsort.rank_bounds {values : List α} {indices : List ℕ}
    (h : IsArgsort values indices) {k : ℕ} {x : α} (hx : values[k]? = some x) :
    values.countP (· < x) ≤ indices.idxOf k ∧ indices.idxOf k < values.countP (· ≤ x) := by
  have hk : k < values.length := (List.getElem?_eq_some_iff.mp hx).1
  have hplace : indices.idxOf k < indices.length := List.idxOf_lt_length_of_mem (h.mem hk)
  -- what comes before the index, the index, what comes after it
  have hsplit : indices = indices.take (indices.idxOf k)
      ++ k :: indices.drop (indices.idxOf k + 1) := by
    conv_lhs => rw [← List.take_append_drop (indices.idxOf k) indices]
    rw [List.drop_eq_getElem_cons hplace, List.getElem_idxOf]
  have hsorted := h.sorted
  rw [hsplit, List.pairwise_append, List.pairwise_cons] at hsorted
  obtain ⟨-, ⟨hafter, -⟩, hbefore⟩ := hsorted
  have hlength : (indices.take (indices.idxOf k)).length = indices.idxOf k :=
    List.length_take_of_le hplace.le
  constructor
  · rw [h.countP, hsplit, List.countP_append, ← hsplit]
    have hnone : (k :: indices.drop (indices.idxOf k + 1)).countP
        (fun i => values[i]?.any (· < x)) = 0 := by
      rw [List.countP_eq_zero]
      intro i hi
      rw [Option.any_eq_true]
      rintro ⟨y, hy, hyx⟩
      rw [decide_eq_true_iff] at hyx
      rcases List.mem_cons.mp hi with rfl | hi
      · rw [hx] at hy
        exact lt_irrefl _ (Option.some.inj hy ▸ hyx)
      · exact absurd (hafter i hi x hx y hy) (not_le.mpr hyx)
    rw [hnone, add_zero]
    calc _ ≤ (indices.take (indices.idxOf k)).length := List.countP_le_length
      _ = indices.idxOf k := hlength
  · rw [h.countP, hsplit, List.countP_append, ← hsplit, List.countP_cons]
    have hall : (indices.take (indices.idxOf k)).countP (fun i => values[i]?.any (· ≤ x))
        = indices.idxOf k := by
      rw [List.countP_eq_length.mpr, hlength]
      intro i hi
      have hi' : i < values.length :=
        List.mem_range.mp (h.perm.mem_iff.mp (List.mem_of_mem_take hi))
      rw [Option.any_eq_true]
      refine ⟨values[i], List.getElem?_eq_getElem hi', decide_eq_true ?_⟩
      exact hbefore i hi k (List.mem_cons_self ..) _ (List.getElem?_eq_getElem hi') x hx
    rw [hall, hx, Option.any_some, decide_eq_true le_rfl, if_pos rfl]
    omega

/-! ## Tables of ranks -/

/-- The places of the indices, written into a table, are ranks. -/
theorem IsArgsort.isRanking_write_all {values : List α} {indices : List ℕ}
    (h : IsArgsort values indices) :
    IsRanking values (write_all (List.replicate values.length 0) indices.zipIdx) := by
  intro k x hx
  have hk : k < values.length := (List.getElem?_eq_some_iff.mp hx).1
  refine ⟨indices.idxOf k, getElem?_write_all ?_ ?_ ?_, h.rank_bounds hx⟩
  · rw [List.zipIdx_map_fst]
    exact h.nodup
  · rw [List.length_replicate]
    exact hk
  · rw [List.mem_zipIdx_iff_getElem?]
    exact List.getElem?_idxOf (h.mem hk)

theorem countP_lt_range (n k : ℕ) : (List.range n).countP (· < k) = min k n := by
  induction n with
  | zero => simp
  | succ n ih =>
      rw [List.range_succ, List.countP_append, ih, List.countP_singleton]
      by_cases h : n < k
      · rw [if_pos (decide_eq_true h)]
        omega
      · rw [if_neg (by simpa using h)]
        omega

/-- Sorting the sorted indices again gives the ranks. -/
theorem IsArgsort.isRanking_argsort {values : List α} {indices ranks : List ℕ}
    (h : IsArgsort values indices) (hranks : IsArgsort indices ranks) :
    IsRanking values ranks := by
  intro k x hx
  have hk : k < values.length := (List.getElem?_eq_some_iff.mp hx).1
  have hplace : indices[indices.idxOf k]? = some k := List.getElem?_idxOf (h.mem hk)
  -- below `k` there are `k` indices, so the place of `k` stands at place `k`
  have hbelow : indices.countP (· < k) = k := by
    rw [h.perm.countP_eq, countP_lt_range, min_eq_left hk.le]
  have hupto : indices.countP (· ≤ k) = k + 1 := by
    have hsame : indices.countP (· ≤ k) = indices.countP (· < k + 1) :=
      List.countP_congr fun i _ => by
        rw [decide_eq_true_iff, decide_eq_true_iff, Nat.lt_succ_iff]
    rw [hsame, h.perm.countP_eq, countP_lt_range, min_eq_left hk]
  have hbounds := hranks.rank_bounds hplace
  rw [hbelow, hupto] at hbounds
  have hidx : ranks.idxOf (indices.idxOf k) = k := by omega
  have hmem : indices.idxOf k ∈ ranks := hranks.mem (List.idxOf_lt_length_of_mem (h.mem hk))
  refine ⟨indices.idxOf k, ?_, h.rank_bounds hx⟩
  have hget := List.getElem?_idxOf hmem
  rwa [hidx] at hget

/-- Without ties the rank is the number of smaller entries. -/
theorem countP_le_of_nodup {values : List α} (h : values.Nodup) (x : α) :
    values.countP (· ≤ x) ≤ values.countP (· < x) + 1 := by
  induction values with
  | nil => simp
  | cons y rest ih =>
      rw [List.nodup_cons] at h
      have ih := ih h.2
      rw [List.countP_cons, List.countP_cons]
      rcases lt_trichotomy y x with hlt | rfl | hgt
      · simp only [hlt.le, hlt, decide_true, if_true]
        omega
      · -- the entry itself; there is no other one
        have hrest : rest.countP (· ≤ y) = rest.countP (· < y) := by
          refine List.countP_congr fun z hz => ?_
          rw [decide_eq_true_iff, decide_eq_true_iff]
          exact ⟨fun hle => lt_of_le_of_ne hle fun heq => h.1 (heq ▸ hz), le_of_lt⟩
        simp [hrest]
      · simp only [not_le.mpr hgt, hgt.not_gt, decide_false, Bool.false_eq_true, if_false]
        omega

/-- A stable sort of the indices by their entries. -/
theorem isArgsort_insertionSort (values : List α) (key : ℕ → α)
    (hkey : ∀ i x, values[i]? = some x → key i = x) :
    IsArgsort values
      ((List.range values.length).insertionSort fun i j => key i ≤ key j) := by
  have htotal : Std.Total fun i j : ℕ => key i ≤ key j := ⟨fun i j => le_total _ _⟩
  have htrans : IsTrans ℕ fun i j : ℕ => key i ≤ key j := ⟨fun _ _ _ => le_trans⟩
  refine ⟨List.perm_insertionSort _ _, ?_⟩
  refine (List.pairwise_insertionSort (fun i j : ℕ => key i ≤ key j) _).imp ?_
  intro i j hij x hx y hy
  rw [← hkey i x hx, ← hkey j y hy]
  exact hij

end Sorting

end ProofAlpha.Lib
