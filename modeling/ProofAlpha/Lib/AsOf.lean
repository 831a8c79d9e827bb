/-
The entry of a series that holds at a time.

A series is a list of entries with their times, in any order. At a time the latest entry up to it
holds, of several of one time the last in the list (`LastUpTo`), and before the first entry a
default (`HoldsAt`). Sorting the series by time keeps entries of one time in their order
(`filter_time_sort`), so after the sort it is the last entry up to the time
(`holdsAt_carried`); what comes later has no say (`holdsAt_filter`).
-/
import Mathlib.Data.List.Sort
import ProofAlpha.Lib.PyList

set_option autoImplicit false

namespace ProofAlpha.Lib

variable {τ ν : Type*}

/-- The value after a run of entries. -/
def carried (value : ν) (entries : List (τ × ν)) : ν := (entries.getLast?.map Prod.snd).getD value

@[simp] theorem carried_nil (value : ν) : carried value ([] : List (τ × ν)) = value := rfl

theorem carried_append (value : ν) (entries more : List (τ × ν)) :
    carried value (entries ++ more) = carried (carried value entries) more := by
  unfold carried
  rw [List.getLast?_append]
  cases more.getLast? <;> rfl

variable [LinearOrder τ]

/-! ## What holds -/

/-- The latest entry up to a time, of several of one time the last. -/
structure LastUpTo (entries : List (τ × ν)) (t : τ) (entry : τ × ν) : Prop where
  le : entry.1 ≤ t
  latest : ∀ e ∈ entries, e.1 ≤ t → e.1 ≤ entry.1
  last : (entries.filter fun e => e.1 = entry.1).getLast? = some entry

/-- The value of the latest entry up to a time, or the default when there is none. -/
inductive HoldsAt (entries : List (τ × ν)) (default : ν) (t : τ) : ν → Prop
  | entry {entry : τ × ν} (h : LastUpTo entries t entry) : HoldsAt entries default t entry.2
  | none (h : ∀ e ∈ entries, t < e.1) : HoldsAt entries default t default

variable {entries : List (τ × ν)} {default value value' : ν} {t : τ} {entry entry' : τ × ν}

theorem LastUpTo.mem (h : LastUpTo entries t entry) : entry ∈ entries :=
  List.mem_of_mem_filter (List.mem_of_getLast? h.last)

theorem LastUpTo.unique (h : LastUpTo entries t entry) (h' : LastUpTo entries t entry') :
    entry = entry' := by
  have htime : entry.1 = entry'.1 :=
    le_antisymm (h'.latest entry h.mem h.le) (h.latest entry' h'.mem h'.le)
  have hlast := h.last
  rw [htime, h'.last] at hlast
  exact (Option.some.inj hlast).symm

/-- Where the times are distinct the latest entry is the last of its time. -/
theorem LastUpTo.of_nodup (hentries : (entries.map Prod.fst).Nodup) (hmem : entry ∈ entries)
    (hle : entry.1 ≤ t) (hlatest : ∀ e ∈ entries, e.1 ≤ t → e.1 ≤ entry.1) :
    LastUpTo entries t entry := by
  refine ⟨hle, hlatest, ?_⟩
  have hone : ∀ e ∈ entries.filter (fun e => e.1 = entry.1), e = entry := by
    intro e he
    obtain ⟨he, htime⟩ := List.mem_filter.mp he
    exact List.inj_on_of_nodup_map hentries he hmem (of_decide_eq_true htime)
  have hin : entry ∈ entries.filter fun e => e.1 = entry.1 :=
    List.mem_filter.mpr ⟨hmem, decide_eq_true rfl⟩
  rw [List.getLast?_eq_some_getLast (List.ne_nil_of_mem hin), hone _ (List.getLast_mem _)]

/-- One value holds at a time. -/
theorem HoldsAt.unique (h : HoldsAt entries default t value) (h' : HoldsAt entries default t value') :
    value = value' := by
  cases h with
  | entry h =>
      cases h' with
      | entry h' => rw [h.unique h']
      | none h' => exact absurd h.le (not_le.mpr (h' _ h.mem))
  | none h =>
      cases h' with
      | entry h' => exact absurd h'.le (not_le.mpr (h _ h'.mem))
      | none _ => rfl

theorem filter_filter_time {s : τ} (h : s ≤ t) :
    (entries.filter fun e => e.1 ≤ t).filter (fun e => e.1 = s)
      = entries.filter fun e => e.1 = s := by
  rw [List.filter_filter]
  refine List.filter_congr fun e _ => ?_
  rw [← Bool.decide_and]
  exact decide_eq_decide.mpr ⟨And.left, fun heq => ⟨heq, heq.le.trans h⟩⟩

theorem lastUpTo_filter :
    LastUpTo (entries.filter fun e => e.1 ≤ t) t entry ↔ LastUpTo entries t entry := by
  constructor
  · intro h
    refine ⟨h.le, fun e he hle => ?_, ?_⟩
    · exact h.latest e (List.mem_filter.mpr ⟨he, decide_eq_true hle⟩) hle
    · rw [← filter_filter_time h.le]
      exact h.last
  · intro h
    refine ⟨h.le, fun e he => h.latest e (List.mem_of_mem_filter he), ?_⟩
    rw [filter_filter_time h.le]
    exact h.last

/-- Entries after a time do not hold at it. -/
theorem holdsAt_filter :
    HoldsAt (entries.filter fun e => e.1 ≤ t) default t value ↔ HoldsAt entries default t value := by
  constructor
  · intro h
    cases h with
    | entry h => exact .entry (lastUpTo_filter.mp h)
    | none h =>
        refine .none fun e he => not_le.mp fun hle => ?_
        exact absurd hle (not_le.mpr (h e (List.mem_filter.mpr ⟨he, decide_eq_true hle⟩)))
  · intro h
    cases h with
    | entry h => exact .entry (lastUpTo_filter.mpr h)
    | none h => exact .none fun e he => h e (List.mem_of_mem_filter he)

/-! ## Sorted series -/

/-- `sorted(entries, key=lambda item: item[0])`. -/
def time_sort (entries : List (τ × ν)) : List (τ × ν) := entries.insertionSort fun a b => a.1 ≤ b.1

theorem mem_time_sort {e : τ × ν} : e ∈ time_sort entries ↔ e ∈ entries :=
  List.mem_insertionSort _

theorem pairwise_time_sort (entries : List (τ × ν)) :
    (time_sort entries).Pairwise fun a b => a.1 ≤ b.1 := by
  let earlier : τ × ν → τ × ν → Prop := fun a b => a.1 ≤ b.1
  have htotal : Std.Total earlier := ⟨fun a b => le_total a.1 b.1⟩
  have htrans : IsTrans (τ × ν) earlier := ⟨fun a b c => le_trans⟩
  exact List.pairwise_insertionSort earlier entries

/-- Up to a later time come the entries up to an earlier one, and then those in between. -/
theorem filter_le_eq_append {s : τ} (hsorted : entries.Pairwise fun a b => a.1 ≤ b.1)
    (h : s ≤ t) :
    (entries.filter fun e => e.1 ≤ t)
      = (entries.filter fun e => e.1 ≤ s)
        ++ (entries.filter fun e => s < e.1).filter fun e => e.1 ≤ t := by
  have hsplit := PyList.filter_append_filter_not (p := fun e : τ × ν => decide (e.1 ≤ s))
    (hsorted.imp fun hle hs => decide_eq_true (hle.trans (of_decide_eq_true hs)))
  simp only [← decide_not, not_le] at hsplit
  conv_lhs => rw [← hsplit, List.filter_append]
  congr 1
  refine List.filter_eq_self.mpr fun e he => decide_eq_true ?_
  exact (of_decide_eq_true (List.mem_filter.mp he).2).trans h

/-- The sort is stable. -/
theorem filter_time_sort (entries : List (τ × ν)) (s : τ) :
    (time_sort entries).filter (fun e => e.1 = s) = entries.filter fun e => e.1 = s := by
  let earlier : τ × ν → τ × ν → Prop := fun a b => a.1 ≤ b.1
  have htotal : Std.Total earlier := ⟨fun a b => le_total a.1 b.1⟩
  have htrans : IsTrans (τ × ν) earlier := ⟨fun a b c => le_trans⟩
  have hsame : (entries.filter fun e => e.1 = s).Pairwise earlier := by
    refine List.pairwise_of_forall_mem_list fun a ha b hb => ?_
    have ha' := of_decide_eq_true (List.mem_filter.mp ha).2
    have hb' := of_decide_eq_true (List.mem_filter.mp hb).2
    exact (ha'.trans hb'.symm).le
  have hsub := (List.sublist_insertionSort hsame List.filter_sublist).filter fun e => decide (e.1 = s)
  rw [List.filter_filter] at hsub
  simp only [Bool.and_self] at hsub
  refine (hsub.eq_of_length ?_).symm
  exact ((List.perm_insertionSort earlier entries).filter _).length_eq.symm

/-- In the sorted series the last entry up to a time is the one that holds. -/
theorem holdsAt_carried (entries : List (τ × ν)) (default : ν) (t : τ) :
    HoldsAt entries default t (carried default ((time_sort entries).filter fun e => e.1 ≤ t)) := by
  have hmem : ∀ e, e ∈ (time_sort entries).filter (fun e => e.1 ≤ t) ↔ e ∈ entries ∧ e.1 ≤ t := by
    intro e
    rw [List.mem_filter, mem_time_sort, decide_eq_true_eq]
  have hsorted : ((time_sort entries).filter fun e => e.1 ≤ t).Pairwise fun a b => a.1 ≤ b.1 :=
    (pairwise_time_sort entries).filter _
  cases hlast : ((time_sort entries).filter fun e => e.1 ≤ t).getLast? with
  | none =>
      -- no entry is stamped up to `t`
      rw [List.getLast?_eq_none_iff.mp hlast, carried_nil]
      refine .none fun e he => not_le.mp fun hle => ?_
      have hin := (hmem e).mpr ⟨he, hle⟩
      rw [List.getLast?_eq_none_iff.mp hlast] at hin
      exact absurd hin List.not_mem_nil
  | some entry =>
      have hentry := (hmem entry).mp (List.mem_of_getLast? hlast)
      have hcarried : carried default ((time_sort entries).filter fun e => e.1 ≤ t) = entry.2 := by
        rw [carried, hlast]
        rfl
      obtain ⟨init, hinit⟩ := List.getLast?_eq_some_iff.mp hlast
      rw [hcarried]
      refine .entry ⟨hentry.2, fun e he hle => ?_, ?_⟩
      · have hin := (hmem e).mpr ⟨he, hle⟩
        rw [hinit] at hin hsorted
        rcases List.mem_append.mp hin with hin | hin
        · exact (List.pairwise_append.mp hsorted).2.2 e hin entry (List.mem_singleton_self _)
        · rw [List.mem_singleton.mp hin]
      · -- the sort is stable, so of several at that time it is the last one of the input
        rw [← filter_time_sort, ← filter_filter_time hentry.2, hinit, List.filter_append,
          List.filter_cons, if_pos (decide_eq_true rfl), List.filter_nil, List.getLast?_append]
        rfl

end ProofAlpha.Lib
