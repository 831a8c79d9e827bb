/-
Cells that every write replaces.

`writes` is the history of one cell. After any beginning of the history the cell
shows its last write. Two properties are often expected of it and need not hold:
that a state once shown is never left (`never_leaves_iff`), and that a field
which a write does not carry keeps its earlier value (`keeps_field_iff`). Both
are characterised by the writes alone.

`ORDER BY ts DESC LIMIT 1` is the same for a table of rows. SQL does not say which of
several rows with the latest timestamp such a query returns: the choice is a
parameter, `TopRow`, and what holds of a query holds for every choice.
-/
import Mathlib.Data.List.Induction
import Mathlib.Data.List.MinMax

set_option autoImplicit false

namespace ProofAlpha.Lib

section Cells

variable {α β : Type*}

/-- The value of a field in the last write that carries it. -/
def latest (field : α → Option β) (writes : List α) : Option β :=
  (writes.filterMap field).getLast?

@[simp] theorem latest_nil (field : α → Option β) : latest field [] = none := rfl

theorem latest_append_singleton (field : α → Option β) (writes : List α) (w : α) :
    latest field (writes ++ [w]) = (field w).or (latest field writes) := by
  unfold latest
  rw [List.filterMap_append]
  cases hw : field w with
  | none => simp [hw]
  | some b => simp [hw]

theorem take_succ_of_getElem? {writes : List α} {k : ℕ} {w : α} (h : writes[k]? = some w) :
    writes.take (k + 1) = writes.take k ++ [w] := by
  rw [List.take_add_one, h]
  rfl

/-! ## States that are never left -/

/-- The last write after `k` writes. -/
theorem getLast?_take_succ {writes : List α} {k : ℕ} {w : α} (h : writes[k]? = some w) :
    (writes.take (k + 1)).getLast? = some w := by
  rw [take_succ_of_getElem? h, List.getLast?_concat]

/-- A shown state is one of the writes so far. -/
theorem getLast?_take_eq_some {writes : List α} {k : ℕ} {w : α}
    (h : (writes.take k).getLast? = some w) : ∃ i, i + 1 ≤ k ∧ writes[i]? = some w ∧
      (writes.take k) = writes.take (i + 1) := by
  induction k with
  | zero => cases h
  | succ k ih =>
      cases hk : writes[k]? with
      | some w' =>
          rw [getLast?_take_succ hk] at h
          cases h
          exact ⟨k, Nat.le_refl _, hk, rfl⟩
      | none =>
          -- the history has ended before
          have hsame : writes.take (k + 1) = writes.take k := by
            rw [List.take_add_one, hk]
            exact List.append_nil _
          rw [hsame] at h ⊢
          obtain ⟨i, hi, hwrite, htake⟩ := ih h
          exact ⟨i, Nat.le_succ_of_le hi, hwrite, htake⟩

/-- A cell never leaves the states `T` exactly when no write outside `T` follows
one inside. -/
theorem never_leaves_iff {T : α → Prop} {writes : List α} :
    (∀ i j, i ≤ j → (∃ w, (writes.take i).getLast? = some w ∧ T w) →
        ∃ w, (writes.take j).getLast? = some w ∧ T w)
      ↔ writes.Pairwise fun earlier later => T earlier → T later := by
  rw [List.pairwise_iff_getElem]
  constructor
  · intro hnever i j hi hj hij hT
    obtain ⟨w, hw, hTw⟩ := hnever (i + 1) (j + 1) (by omega)
      ⟨writes[i], getLast?_take_succ (List.getElem?_eq_getElem hi), hT⟩
    rw [getLast?_take_succ (List.getElem?_eq_getElem hj)] at hw
    cases hw
    exact hTw
  · rintro hpairs i j hij ⟨w, hw, hT⟩
    obtain ⟨a, hai, ha, -⟩ := getLast?_take_eq_some hw
    have halt : a < writes.length := (List.getElem?_eq_some_iff.mp ha).1
    -- the later beginning is not empty either, so it shows some write
    have hne : writes.take j ≠ [] := by
      intro hnil
      have hlength := congrArg List.length hnil
      rw [List.length_take, List.length_nil] at hlength
      omega
    have hlater := List.getLast?_eq_some_getLast hne
    obtain ⟨b, hbj, hb, htake⟩ := getLast?_take_eq_some hlater
    have hblt : b < writes.length := (List.getElem?_eq_some_iff.mp hb).1
    have hab : a ≤ b := by
      have hlength := congrArg List.length htake
      rw [List.length_take, List.length_take] at hlength
      omega
    refine ⟨_, hlater, ?_⟩
    rw [List.getElem?_eq_getElem halt] at ha
    rw [List.getElem?_eq_getElem hblt] at hb
    have hwa : writes[a] = w := Option.some.inj ha
    rw [← Option.some.inj hb]
    rcases Nat.lt_or_eq_of_le hab with hlt | heq
    · exact hpairs a b halt hblt hlt (hwa ▸ hT)
    · subst heq
      exact hwa ▸ hT

/-! ## Fields that are kept -/

/-- A cell that shows `default` where its last write does not carry a field
keeps the field exactly when such a write comes only while the value to keep is
the default. -/
theorem keeps_field_iff {field : α → Option β} {default : Option β} {writes : List α} :
    (∀ k b, latest field (writes.take k) = some b →
        ((writes.take k).getLast?.bind fun w => (field w).or default) = some b)
      ↔ ∀ k w, writes[k]? = some w → field w = none →
          ∀ b, latest field (writes.take k) = some b → default = some b := by
  constructor
  · intro hkeeps k w hw hnone b hb
    have hshown := hkeeps (k + 1) b (by
      rw [take_succ_of_getElem? hw, latest_append_singleton, hnone, Option.none_or, hb])
    rw [getLast?_take_succ hw, Option.bind_some, hnone, Option.none_or] at hshown
    exact hshown
  · intro hwrites k b hb
    induction k with
    | zero => cases hb
    | succ k ih =>
        cases hk : writes[k]? with
        | none =>
            have hsame : writes.take (k + 1) = writes.take k := by
              rw [List.take_add_one, hk]
              exact List.append_nil _
            rw [hsame] at hb ⊢
            exact ih hb
        | some w =>
            rw [getLast?_take_succ hk, Option.bind_some]
            rw [take_succ_of_getElem? hk, latest_append_singleton] at hb
            cases hfield : field w with
            | none =>
                rw [hfield, Option.none_or] at hb
                rw [Option.none_or]
                exact hwrites k w hk hfield b hb
            | some b' =>
                rw [hfield, Option.some_or] at hb
                rw [Option.some_or, hb]

/-! ## Beginnings -/

/-- What holds of the empty list, and of one item more under a condition on that
item, holds of every beginning of a list if and only if every item of the list
meets the condition. -/
theorem forall_beginning_iff {P : List α → Prop} {C : List α → α → Prop} (hnil : P [])
    (hstep : ∀ before x, P before → (P (before ++ [x]) ↔ C before x)) (l : List α) :
    (∀ before rest, l = before ++ rest → P before)
      ↔ ∀ before x rest, l = before ++ x :: rest → C before x := by
  constructor
  · intro h before x rest hl
    exact (hstep before x (h before (x :: rest) hl)).mp
      (h (before ++ [x]) rest (by rw [hl, List.append_assoc]; rfl))
  · intro h before
    induction before using List.reverseRecOn with
    | nil => exact fun _ _ => hnil
    | append_singleton before x ih =>
        intro rest hl
        have hsplit : l = before ++ x :: rest := by
          rw [hl, List.append_assoc]
          rfl
        exact (hstep before x (ih (x :: rest) hsplit)).mpr (h before x rest hsplit)

/-! ## Histories inside a log -/

/-- A beginning of a log holds a beginning of the cell's history. -/
theorem filter_take_eq_take (p : α → Bool) (log : List α) (k : ℕ) :
    (log.take k).filter p = (log.filter p).take ((log.take k).filter p).length :=
  List.prefix_iff_eq_take.mp ((List.take_prefix k log).filter p)

/-- Every beginning of the history is held by a beginning of the log. -/
theorem exists_filter_take_eq (p : α → Bool) (log : List α) (k : ℕ) :
    ∃ l, (log.take l).filter p = (log.filter p).take k := by
  induction log using List.reverseRecOn with
  | nil => exact ⟨0, by simp⟩
  | append_singleton log x ih =>
      by_cases hk : k ≤ (log.filter p).length
      · obtain ⟨l, hl⟩ := ih
        refine ⟨min l log.length, ?_⟩
        rw [List.filter_append, List.take_append_of_le_length hk, ← hl,
          List.take_append_of_le_length (Nat.min_le_right _ _), ← List.take_take, List.take_length]
      · refine ⟨(log ++ [x]).length, ?_⟩
        have hlength : ((log ++ [x]).filter p).length ≤ k := by
          rw [List.filter_append, List.length_append]
          have hone : ([x].filter p).length ≤ 1 := List.length_filter_le p [x]
          omega
        rw [List.take_length, List.take_of_length_le hlength]

/-- What holds after every beginning of the history holds after every beginning
of the log, and conversely. -/
theorem forall_filter_take_iff (p : α → Bool) (log : List α) {Q : List α → Prop} :
    (∀ k, Q ((log.take k).filter p)) ↔ ∀ k, Q ((log.filter p).take k) := by
  constructor
  · intro hlog k
    obtain ⟨l, hl⟩ := exists_filter_take_eq p log k
    exact hl ▸ hlog l
  · intro hhistory k
    rw [filter_take_eq_take]
    exact hhistory _

/-- The same for an earlier and a later beginning. -/
theorem forall_filter_take_le_iff (p : α → Bool) (log : List α) {R : List α → List α → Prop} :
    (∀ i j, i ≤ j → R ((log.take i).filter p) ((log.take j).filter p))
      ↔ ∀ i j, i ≤ j → R ((log.filter p).take i) ((log.filter p).take j) := by
  have hmono : ∀ i j, i ≤ j → (log.take i).filter p <+: (log.take j).filter p :=
    fun i j hij => (List.take_prefix_take_left hij).filter p
  constructor
  · intro hlog i j hij
    obtain ⟨a, ha⟩ := exists_filter_take_eq p log i
    obtain ⟨b, hb⟩ := exists_filter_take_eq p log j
    rw [← ha, ← hb]
    rcases Nat.le_total a b with hab | hba
    · exact hlog a b hab
    · -- the beginnings of the log stand the other way round, so the history has stopped
      have hsame : (log.take a).filter p = (log.take b).filter p := by
        refine List.IsPrefix.eq_of_length_le ?_ (hmono b a hba).length_le
        rw [ha, hb]
        exact List.take_prefix_take_left hij
      rw [hsame]
      exact hlog b b (Nat.le_refl b)
  · intro hhistory i j hij
    rw [filter_take_eq_take p log i, filter_take_eq_take p log j]
    exact hhistory _ _ (hmono i j hij).length_le

/-- `never_leaves_iff` for a cell of a log. -/
theorem never_leaves_in_log_iff (p : α → Bool) (log : List α) {T : α → Prop} :
    (∀ i j, i ≤ j → (∃ w, ((log.take i).filter p).getLast? = some w ∧ T w) →
        ∃ w, ((log.take j).filter p).getLast? = some w ∧ T w)
      ↔ (log.filter p).Pairwise fun earlier later => T earlier → T later :=
  (forall_filter_take_le_iff p log (R := fun earlier later =>
    (∃ w, earlier.getLast? = some w ∧ T w) → ∃ w, later.getLast? = some w ∧ T w)).trans
      never_leaves_iff

/-- `keeps_field_iff` for a cell of a log. -/
theorem keeps_field_in_log_iff (p : α → Bool) (log : List α) {field : α → Option β}
    {default : Option β} :
    (∀ k b, latest field ((log.take k).filter p) = some b →
        (((log.take k).filter p).getLast?.bind fun w => (field w).or default) = some b)
      ↔ ∀ k w, (log.filter p)[k]? = some w → field w = none →
          ∀ b, latest field ((log.filter p).take k) = some b → default = some b :=
  (forall_filter_take_iff p log (Q := fun history => ∀ b, latest field history = some b →
    (history.getLast?.bind fun w => (field w).or default) = some b)).trans keeps_field_iff

end Cells

/-! ## The latest row of a table -/

section Rows

/-- The row that `LIMIT 1` takes from rows that are in order alike. -/
structure TopRow (ρ : Type*) where
  take : List ρ → Option ρ
  take_mem : ∀ rows row, take rows = some row → row ∈ rows
  take_isSome : ∀ rows, rows ≠ [] → (take rows).isSome

/-- The first of them. -/
def TopRow.first (ρ : Type*) : TopRow ρ where
  take := List.head?
  take_mem := fun _ _ h => List.mem_of_head? h
  take_isSome := fun _ h => List.isSome_head?.mpr h

/-- A given row wherever it is among them, the first of them elsewhere. -/
def TopRow.prefer {ρ : Type*} [DecidableEq ρ] (preferred : ρ) : TopRow ρ where
  take := fun rows => if preferred ∈ rows then some preferred else rows.head?
  take_mem := by
    intro rows row h
    split_ifs at h with hmem
    · exact Option.some.inj h ▸ hmem
    · exact List.mem_of_head? h
  take_isSome := by
    intro rows h
    split_ifs
    · rfl
    · exact List.isSome_head?.mpr h

variable {ρ τ : Type*} [LinearOrder τ] (top : TopRow ρ) (ts : ρ → τ)

/-- `ORDER BY ts DESC LIMIT 1`. -/
def latest_row (rows : List ρ) : Option ρ :=
  top.take (rows.filter fun row => rows.all fun other => decide (ts other ≤ ts row))

/-- The rows a query may return. -/
theorem mem_latest_rows {ts : ρ → τ} {rows : List ρ} {row : ρ} :
    row ∈ rows.filter (fun row => rows.all fun other => decide (ts other ≤ ts row))
      ↔ row ∈ rows ∧ ∀ other ∈ rows, ts other ≤ ts row := by
  simp [List.mem_filter]

/-- A query on rows that are there returns one of the latest. -/
theorem latest_row_spec {rows : List ρ} (hne : rows ≠ []) :
    ∃ row, latest_row top ts rows = some row ∧ row ∈ rows ∧ ∀ other ∈ rows, ts other ≤ ts row := by
  have hlatest : (rows.filter fun row => rows.all fun other => decide (ts other ≤ ts row)) ≠ [] := by
    obtain ⟨row, hrow⟩ := Option.isSome_iff_exists.mp
      (Option.isSome_iff_ne_none.mpr fun h => hne (List.argmax_eq_none.mp h) :
        (rows.argmax ts).isSome = true)
    exact List.ne_nil_of_mem (mem_latest_rows.mpr
      ⟨List.argmax_mem hrow, fun other hother => List.le_of_mem_argmax hother hrow⟩)
  obtain ⟨row, hrow⟩ := Option.isSome_iff_exists.mp (top.take_isSome _ hlatest)
  exact ⟨row, hrow, mem_latest_rows.mp (top.take_mem _ _ hrow)⟩

theorem latest_row_singleton (row : ρ) : latest_row top ts [row] = some row := by
  obtain ⟨found, hfound, hmem, -⟩ := latest_row_spec top ts (List.cons_ne_nil row [])
  rw [hfound, List.mem_singleton.mp hmem]

/-- Whatever the choice, the query shows a given row's view if and only if no row
stamped at or after it has another view. -/
theorem latest_row_view_iff {ν : Type*} {view : ρ → ν}
    (hview : ∀ row other, view row = view other → ts row = ts other) {rows : List ρ} {last : ρ}
    (hlast : last ∈ rows) :
    (∀ top : TopRow ρ, (latest_row top ts rows).map view = some (view last))
      ↔ ∀ row ∈ rows, ts last ≤ ts row → view row = view last := by
  classical
  constructor
  · intro h row hrow hlater
    -- a latest row shows what `last` shows, so `last` is as late as any row
    obtain ⟨latest, hlatest, -, hmax⟩ :=
      latest_row_spec (TopRow.first ρ) ts (List.ne_nil_of_mem hrow)
    have hsame := h (TopRow.first ρ)
    rw [hlatest, Option.map_some, Option.some_inj] at hsame
    have hlastMax : ∀ other ∈ rows, ts other ≤ ts last := by
      intro other hother
      rw [← hview _ _ hsame]
      exact hmax other hother
    have hrowMax : ∀ other ∈ rows, ts other ≤ ts row :=
      fun other hother => (hlastMax other hother).trans hlater
    have hpreferred := h (TopRow.prefer row)
    rw [latest_row, TopRow.prefer] at hpreferred
    dsimp only at hpreferred
    rw [if_pos (mem_latest_rows.mpr ⟨hrow, hrowMax⟩)] at hpreferred
    exact Option.some.inj hpreferred
  · intro h top
    obtain ⟨row, hrow, hmem, hmax⟩ := latest_row_spec top ts (List.ne_nil_of_mem hlast)
    rw [hrow, Option.map_some, h row hmem (hmax last hlast)]

end Rows

end ProofAlpha.Lib
