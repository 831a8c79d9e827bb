/-
Keyed stores: Python dicts and SQL tables with a primary key.

Both are association lists with one entry per key. Neither the order of a dict's
entries nor that of a table's rows is ever read by the modelled code without a
sort, so the order here is that of `AList` and carries no meaning.
-/
import Mathlib.Algebra.BigOperators.Group.List.Basic
import Mathlib.Data.List.AList
import Mathlib.Data.List.Induction
import Mathlib.Data.List.Sort
import Mathlib.Data.String.Basic
import ProofAlpha.Lib.PyList

set_option autoImplicit false

namespace ProofAlpha.Lib

/-! ## Texts in order

What `sorted` of a set of texts rests on. -/

instance text_le_trans : IsTrans String fun a b => a ≤ b := ⟨fun _ _ _ => le_trans⟩

instance text_le_antisymm : Std.Antisymm fun a b : String => a ≤ b := ⟨fun _ _ => le_antisymm⟩

/-! ## Dicts -/

/-- A dict, or a table as a map from its primary key to its row. -/
abbrev Dict (κ ν : Type*) := AList (fun _ : κ => ν)

namespace Dict

variable {κ ν : Type*}

/-- The values of a dict, the rows of a table. -/
def values (d : Dict κ ν) : List ν := d.entries.map Sigma.snd

@[simp] theorem values_empty : values (∅ : Dict κ ν) = [] := rfl

/-- `sorted(d.items())`, of a dict with text keys. -/
def sorted_items (d : Dict String ν) : List (String × ν) :=
  (d.entries.map fun item => (item.1, item.2)).insertionSort fun a b => a.1 ≤ b.1

variable [DecidableEq κ]

/-- `INSERT OR IGNORE`. -/
def insert_or_ignore (k : κ) (v : ν) (d : Dict κ ν) : Dict κ ν :=
  if k ∈ d then d else d.insert k v

/-- The sorted items of a dict are its entries. -/
theorem mem_sorted_items {d : Dict String ν} {key : String} {value : ν} :
    (key, value) ∈ sorted_items d ↔ d.lookup key = some value := by
  unfold sorted_items
  rw [List.mem_insertionSort, List.mem_map, ← Option.mem_def, AList.mem_lookup_iff]
  constructor
  · rintro ⟨⟨key', value'⟩, hitem, heq⟩
    cases heq
    exact hitem
  · exact fun hitem => ⟨⟨key, value⟩, hitem, rfl⟩

/-- The value of a key among the sorted items is that of the dict. -/
theorem lookup_sorted_items (d : Dict String ν) (key : String) :
    List.lookup key (sorted_items d) = d.lookup key := by
  cases hlookup : d.lookup key with
  | none =>
      refine List.lookup_eq_none_iff.mpr ?_
      rintro ⟨other, value⟩ hitem
      rw [bne_iff_ne]
      rintro rfl
      rw [mem_sorted_items, hlookup] at hitem
      cases hitem
  | some value =>
      have hmem := mem_sorted_items.mpr hlookup
      cases hfound : List.lookup key (sorted_items d) with
      | none =>
          have hne := List.lookup_eq_none_iff.mp hfound _ hmem
          exact absurd rfl (bne_iff_ne.mp hne)
      | some found =>
          have hitem : (key, found) ∈ sorted_items d := PyList.mem_of_lookup_eq_some hfound
          rw [mem_sorted_items, hlookup] at hitem
          exact hitem.symm

/-- The sorted items say nothing but the entries. -/
theorem sorted_items_congr {d d' : Dict String ν} (h : ∀ key, d.lookup key = d'.lookup key) :
    sorted_items d = sorted_items d' := by
  let earlier : String × ν → String × ν → Prop := fun a b => a.1 ≤ b.1
  have htotal : Std.Total earlier := ⟨fun a b => le_total a.1 b.1⟩
  have htrans : IsTrans (String × ν) earlier := ⟨fun _ _ _ hab hbc => le_trans hab hbc⟩
  have hsorted : ∀ d : Dict String ν, (sorted_items d).Pairwise earlier :=
    fun d => List.pairwise_insertionSort earlier _
  have hentries : d.entries.Perm d'.entries :=
    List.lookup_ext d.nodupKeys d'.nodupKeys fun key value => by
      have hkey := h key
      unfold AList.lookup at hkey
      rw [hkey]
  have hperm : (sorted_items d).Perm (sorted_items d') :=
    (List.perm_insertionSort earlier _).trans
      ((hentries.map _).trans (List.perm_insertionSort earlier _).symm)
  refine List.Perm.eq_of_pairwise (fun a b ha hb hab hba => ?_) (hsorted d) (hsorted d') hperm
  have hkey : a.1 = b.1 := le_antisymm hab hba
  have hvalue : some a.2 = some b.2 := by
    rw [← mem_sorted_items.mp ha, ← mem_sorted_items.mp hb, h, hkey]
  exact Prod.ext hkey (Option.some.inj hvalue)

/-- The sorted items are in the order of their keys, each of which is there once. -/
theorem pairwise_sorted_items (d : Dict String ν) :
    (sorted_items d).Pairwise fun a b => a.1 < b.1 := by
  let earlier : String × ν → String × ν → Prop := fun a b => a.1 ≤ b.1
  have htotal : Std.Total earlier := ⟨fun a b => le_total a.1 b.1⟩
  have htrans : IsTrans (String × ν) earlier := ⟨fun _ _ _ hab hbc => le_trans hab hbc⟩
  have hsorted : (sorted_items d).Pairwise earlier := List.pairwise_insertionSort earlier _
  have hperm := List.perm_insertionSort earlier (d.entries.map fun item => (item.1, item.2))
  have hnodup : (sorted_items d).Pairwise fun a b => a.1 ≠ b.1 := by
    refine (hperm.pairwise_iff fun h => h.symm).mpr ?_
    rw [List.pairwise_map]
    exact List.nodupKeys_iff_pairwise.mp d.nodupKeys
  exact hsorted.imp₂ (fun _ _ hle hne => lt_of_le_of_ne hle hne) hnodup

/-- Items that are in the order of their keys are the sorted items of their dict. -/
theorem sorted_items_foldl_insert {items : List (String × ν)}
    (h : items.Pairwise fun a b => a.1 < b.1) :
    sorted_items (items.foldl (fun d item => d.insert item.1 item.2) ∅) = items := by
  have hlookup : ∀ (items : List (String × ν)) (d : Dict String ν) (key : String) (value : ν),
      items.Pairwise (fun a b => a.1 < b.1) →
      ((items.foldl (fun d item => d.insert item.1 item.2) d).lookup key = some value ↔
        (key, value) ∈ items ∨ ((∀ item ∈ items, item.1 ≠ key) ∧ d.lookup key = some value)) := by
    intro items
    induction items with
    | nil => intro d key value _; simp
    | cons item items ih =>
        intro d key value hsorted
        obtain ⟨hfirst, hrest⟩ := List.pairwise_cons.mp hsorted
        rw [List.foldl_cons, ih _ _ _ hrest]
        by_cases hkey : item.1 = key
        · -- no later item has the key of this one
          have hlater : ∀ item' ∈ items, item'.1 ≠ key := fun item' hitem' heq =>
            absurd (hfirst item' hitem') (by rw [heq, hkey]; exact lt_irrefl key)
          have hnot : (key, value) ∉ items := fun hmem => hlater _ hmem rfl
          subst hkey
          rw [AList.lookup_insert, List.mem_cons, Prod.ext_iff, Option.some_inj]
          constructor
          · rintro (hmem | ⟨-, rfl⟩)
            · exact absurd hmem hnot
            · exact Or.inl (Or.inl ⟨rfl, rfl⟩)
          · rintro ((⟨-, rfl⟩ | hmem) | ⟨hall, -⟩)
            · exact Or.inr ⟨hlater, rfl⟩
            · exact absurd hmem hnot
            · exact absurd rfl (hall item List.mem_cons_self)
        · rw [AList.lookup_insert_ne (Ne.symm hkey), List.mem_cons, Prod.ext_iff,
            List.forall_mem_cons]
          constructor
          · rintro (hmem | ⟨hall, hd⟩)
            · exact Or.inl (Or.inr hmem)
            · exact Or.inr ⟨⟨hkey, hall⟩, hd⟩
          · rintro ((⟨heq, -⟩ | hmem) | ⟨⟨-, hall⟩, hd⟩)
            · exact absurd heq.symm hkey
            · exact Or.inl hmem
            · exact Or.inr ⟨hall, hd⟩
  have hnodup : ∀ {items : List (String × ν)}, items.Pairwise (fun a b => a.1 < b.1) →
      items.Nodup := fun h => h.imp fun hlt heq => absurd hlt (by rw [heq]; exact lt_irrefl _)
  refine List.Perm.eq_of_pairwise (fun a b _ _ hab hba => absurd (hab.trans hba) (lt_irrefl _))
    (pairwise_sorted_items _) h ?_
  refine (List.perm_ext_iff_of_nodup (hnodup (pairwise_sorted_items _)) (hnodup h)).mpr ?_
  rintro ⟨key, value⟩
  rw [mem_sorted_items, hlookup items ∅ key value h]
  simp

theorem values_insert_of_notMem {k : κ} (v : ν) {d : Dict κ ν} (h : k ∉ d) :
    values (d.insert k v) = v :: values d := by
  rw [values, AList.entries_insert_of_notMem h]
  rfl

/-- Where the key of a row is a function of one of its columns, the rows with a
given value in that column are the row under its key. -/
theorem values_filter_of_key {β : Type*} [DecidableEq β] {key : β → κ}
    (hkey : Function.Injective key) {column : ν → β} {d : Dict κ ν}
    (hrows : ∀ k row, d.lookup k = some row → k = key (column row)) (b : β) :
    ((values d).filter fun row => column row = b) = (d.lookup (key b)).toList := by
  have hentries : ∀ items : List (Sigma fun _ : κ => ν),
      (∀ item ∈ items, item.1 = key (column item.2)) →
        ((items.map Sigma.snd).filter fun row => column row = b) = items.lookupAll (key b) := by
    intro items hitems
    induction items with
    | nil => rfl
    | cons item rest ih =>
        obtain ⟨k, row⟩ := item
        have hk : k = key (column row) := hitems _ (List.mem_cons_self ..)
        have hrest := ih fun item hitem => hitems item (List.mem_cons_of_mem _ hitem)
        rw [List.map_cons, List.filter_cons, hrest]
        by_cases hb : column row = b
        · rw [if_pos (decide_eq_true hb), hk, hb, List.lookupAll_cons_eq]
        · have hne : key b ≠ k := fun h => hb (hkey (h.trans hk)).symm
          rw [if_neg (by simpa using hb), List.lookupAll_cons_ne _ _ hne]
  rw [values, hentries d.entries fun item hitem =>
    hrows item.1 item.2 (AList.mem_lookup_iff.mpr hitem), List.lookupAll_eq_dlookup _ d.nodupKeys]
  rfl

/-- Keys that are new to a dict and distinct stay new when the first of them is
inserted. -/
theorem notMem_insert_of_new {ρ : Type*} {key : ρ → κ} {r : ρ} {rows : List ρ} (v : ν)
    {d : Dict κ ν} (hnodup : ((r :: rows).map key).Nodup) (hnew : ∀ r' ∈ r :: rows, key r' ∉ d) :
    ∀ r' ∈ rows, key r' ∉ d.insert (key r) v := by
  rw [List.map_cons, List.nodup_cons] at hnodup
  intro r' hr' hmem
  rcases (AList.mem_insert _).mp hmem with hsame | hold
  · exact hnodup.1 (hsame ▸ List.mem_map_of_mem hr')
  · exact hnew r' (List.mem_cons_of_mem r hr') hold

/-- Inserting values under distinct new keys, one after the other, stores them
all. -/
theorem values_foldl_insert {ρ : Type*} (key : ρ → κ) (value : ρ → ν) (rows : List ρ) :
    ∀ d : Dict κ ν, (rows.map key).Nodup → (∀ r ∈ rows, key r ∉ d) →
      values (rows.foldl (fun d r => d.insert (key r) (value r)) d)
        = (rows.map value).reverse ++ values d := by
  induction rows with
  | nil => intro d _ _; rfl
  | cons r rows ih =>
      intro d hnodup hnew
      rw [List.foldl_cons, ih _ (List.nodup_cons.mp hnodup).2
          (notMem_insert_of_new (value r) hnodup hnew),
        values_insert_of_notMem _ (hnew r (List.mem_cons_self ..)), List.map_cons,
        List.reverse_cons, List.append_assoc]
      rfl

/-- Of the values inserted under one key the last one stays. -/
theorem lookup_foldl_insert {ρ : Type*} (key : ρ → κ) (value : ρ → ν) (rows : List ρ) (k : κ) :
    (rows.foldl (fun (d : Dict κ ν) r => d.insert (key r) (value r)) ∅).lookup k
      = ((rows.filter fun r => key r = k).getLast?).map value := by
  induction rows using List.reverseRecOn with
  | nil => rfl
  | append_singleton rows last ih =>
      rw [List.foldl_append, List.foldl_cons, List.foldl_nil, List.filter_append]
      by_cases hk : key last = k
      · subst hk
        rw [AList.lookup_insert, List.filter_cons, if_pos (decide_eq_true rfl), List.filter_nil,
          List.getLast?_append]
        rfl
      · rw [AList.lookup_insert_ne (Ne.symm hk), ih, List.filter_cons,
          if_neg (by simpa using hk), List.filter_nil, List.append_nil]

/-- A dict filled from rows with distinct keys holds the value of the row of a key. -/
theorem lookup_foldl_insert_of_nodup {ρ : Type*} {key : ρ → κ} {value : ρ → ν} {rows : List ρ}
    (hnodup : (rows.map key).Nodup) {k : κ} {v : ν} :
    (rows.foldl (fun (d : Dict κ ν) r => d.insert (key r) (value r)) ∅).lookup k = some v
      ↔ ∃ row ∈ rows, key row = k ∧ value row = v := by
  rw [lookup_foldl_insert, Option.map_eq_some_iff]
  constructor
  · rintro ⟨row, hlast, hvalue⟩
    obtain ⟨hrow, hkey⟩ := List.mem_filter.mp (List.mem_of_getLast? hlast)
    exact ⟨row, hrow, of_decide_eq_true hkey, hvalue⟩
  · rintro ⟨row, hrow, rfl, hvalue⟩
    have hmem : row ∈ rows.filter fun r => key r = key row :=
      List.mem_filter.mpr ⟨hrow, decide_eq_true rfl⟩
    obtain ⟨last, hlast⟩ := List.getLast?_isSome.mpr (List.ne_nil_of_mem hmem) |>
      Option.isSome_iff_exists.mp
    obtain ⟨hlastrow, hkey⟩ := List.mem_filter.mp (List.mem_of_getLast? hlast)
    -- the keys are distinct, so the last row of this key is this row
    have hsame : last = row :=
      List.inj_on_of_nodup_map hnodup hlastrow hrow (of_decide_eq_true hkey)
    exact ⟨row, hsame ▸ hlast, hvalue⟩

/-- Where the rows of one key are the same row, a table filled with them holds that row
under its key. -/
theorem lookup_foldl_insert_of_rows {key : ν → κ} {rows : List ν}
    (hrows : ∀ a ∈ rows, ∀ b ∈ rows, key a = key b → a = b) (k : κ) (row : ν) :
    (rows.foldl (fun (d : Dict κ ν) row => d.insert (key row) row) ∅).lookup k = some row
      ↔ row ∈ rows ∧ key row = k := by
  induction rows using List.reverseRecOn with
  | nil =>
      rw [List.foldl_nil, AList.lookup_empty]
      simp
  | append_singleton rows last ih =>
      have hearlier := ih fun a ha b hb =>
        hrows a (List.mem_append_left _ ha) b (List.mem_append_left _ hb)
      have hlast : last ∈ rows ++ [last] := List.mem_append_right _ (List.mem_singleton_self _)
      rw [List.foldl_append, List.foldl_cons, List.foldl_nil]
      by_cases hk : k = key last
      · subst hk
        rw [AList.lookup_insert]
        constructor
        · intro h
          rw [← Option.some.inj h]
          exact ⟨hlast, rfl⟩
        · rintro ⟨hmem, hkey⟩
          rw [hrows row hmem last hlast hkey]
      · rw [AList.lookup_insert_ne hk, hearlier, List.mem_append, List.mem_singleton]
        constructor
        · rintro ⟨hmem, hkey⟩
          exact ⟨Or.inl hmem, hkey⟩
        · rintro ⟨hmem | rfl, hkey⟩
          · exact ⟨hmem, hkey⟩
          · exact absurd hkey.symm hk

/-- Such a table holds each of the rows once. -/
theorem values_foldl_insert_perm {key : ν → κ} {rows distinct : List ν}
    (hrows : ∀ a ∈ rows, ∀ b ∈ rows, key a = key b → a = b) (hnodup : distinct.Nodup)
    (hsame : ∀ row, row ∈ distinct ↔ row ∈ rows) :
    (values (rows.foldl (fun (d : Dict κ ν) row => d.insert (key row) row) ∅)).Perm distinct := by
  have hlookup := lookup_foldl_insert_of_rows hrows
  generalize rows.foldl (fun (d : Dict κ ν) row => d.insert (key row) row) ∅ = table at hlookup ⊢
  have hkeys : ∀ item ∈ table.entries, key item.2 = item.1 := fun item hitem =>
    ((hlookup item.1 item.2).mp (AList.mem_lookup_iff.mpr hitem)).2
  have hmap : (values table).map key = table.keys := by
    unfold values AList.keys List.keys
    rw [List.map_map]
    exact List.map_congr_left hkeys
  have hvalues : (values table).Nodup := by
    refine List.Nodup.of_map key ?_
    rw [hmap]
    exact table.keys_nodup
  refine (List.perm_ext_iff_of_nodup hvalues hnodup).mpr ?_
  intro row
  rw [hsame]
  constructor
  · intro hmem
    obtain ⟨item, hitem, rfl⟩ := List.mem_map.mp hmem
    exact ((hlookup item.1 item.2).mp (AList.mem_lookup_iff.mpr hitem)).1
  · intro hmem
    exact List.mem_map.mpr
      ⟨⟨key row, row⟩, AList.mem_lookup_iff.mp ((hlookup _ _).mpr ⟨hmem, rfl⟩), rfl⟩

/-- Under distinct new keys there is nothing to ignore. -/
theorem foldl_insert_or_ignore {ρ : Type*} (key : ρ → κ) (value : ρ → ν) (rows : List ρ) :
    ∀ d : Dict κ ν, (rows.map key).Nodup → (∀ r ∈ rows, key r ∉ d) →
      rows.foldl (fun d r => insert_or_ignore (key r) (value r) d) d
        = rows.foldl (fun d r => d.insert (key r) (value r)) d := by
  induction rows with
  | nil => intro d _ _; rfl
  | cons r rows ih =>
      intro d hnodup hnew
      rw [List.foldl_cons, List.foldl_cons, insert_or_ignore,
        if_neg (hnew r (List.mem_cons_self ..))]
      exact ih _ (List.nodup_cons.mp hnodup).2 (notMem_insert_of_new (value r) hnodup hnew)

/-- The keys of a dict that rows are inserted into, one after the other. -/
theorem mem_foldl_insert {ρ : Type*} (key : ρ → κ) (value : ρ → ν) (rows : List ρ) (k : κ) :
    ∀ d : Dict κ ν, k ∈ rows.foldl (fun d r => d.insert (key r) (value r)) d
      ↔ k ∈ rows.map key ∨ k ∈ d := by
  induction rows with
  | nil => simp
  | cons r rows ih =>
      intro d
      rw [List.foldl_cons, ih, AList.mem_insert, List.map_cons, List.mem_cons]
      tauto

/-- Inserting a row for each item with a distinct key: every other row stays. -/
theorem lookup_foldl_insert_items {ω : Type*} (row : κ → ν → ω) (k : κ)
    (items : List (Sigma fun _ : κ => ν)) : ∀ table : Dict κ ω, items.NodupKeys →
      (items.foldl (fun (table : Dict κ ω) item => table.insert item.1 (row item.1 item.2))
        table).lookup k = ((items.dlookup k).map (row k)).or (table.lookup k) := by
  induction items with
  | nil => intro table _; rfl
  | cons item rest ih =>
      intro table hnodup
      rw [List.nodupKeys_cons] at hnodup
      rw [List.foldl_cons, ih _ hnodup.2]
      by_cases hk : k = item.1
      · subst hk
        rw [List.dlookup_eq_none.mpr hnodup.1, List.dlookup_cons_eq, AList.lookup_insert]
        rfl
      · rw [AList.lookup_insert_ne hk, List.dlookup_cons_ne _ _ hk]

/-- A table filled from a dict holds one row for each of its entries. -/
theorem lookup_foldl_entries {ω : Type*} (row : κ → ν → ω) (d : Dict κ ν) (k : κ) :
    (d.entries.foldl (fun (table : Dict κ ω) item => table.insert item.1 (row item.1 item.2))
      ∅).lookup k = (d.lookup k).map (row k) := by
  rw [lookup_foldl_insert_items row k d.entries ∅ d.nodupKeys, AList.lookup_empty, Option.or_none]
  rfl

/-- `d.update(other)`. -/
def update (d other : Dict κ ν) : Dict κ ν :=
  other.entries.foldl (fun (d : Dict κ ν) item => d.insert item.1 item.2) d

/-- The entries of the second dict win. -/
theorem lookup_update (d other : Dict κ ν) (k : κ) :
    (update d other).lookup k = (other.lookup k).or (d.lookup k) := by
  unfold update
  rw [lookup_foldl_insert_items (fun _ value => value) k other.entries d other.nodupKeys,
    Option.map_id']
  rfl

/-- A dict that is filled with a function of the keys holds it on every key. -/
theorem lookup_foldl_insert_of_key (value : κ → ν) (keys : List κ) (k : κ) (d : Dict κ ν) :
    (keys.foldl (fun d key => d.insert key (value key)) d).lookup k
      = if k ∈ keys then some (value k) else d.lookup k := by
  induction keys using List.reverseRecOn with
  | nil => rfl
  | append_singleton keys key ih =>
      rw [List.foldl_append, List.foldl_cons, List.foldl_nil]
      by_cases hk : k = key
      · subst hk
        rw [AList.lookup_insert, if_pos (List.mem_append_right _ (List.mem_singleton_self k))]
      · rw [AList.lookup_insert_ne hk, ih]
        have hmem : k ∈ keys ++ [key] ↔ k ∈ keys := by
          rw [List.mem_append, List.mem_singleton, or_iff_left hk]
        rw [if_congr hmem rfl rfl]

/-! ## Adding up -/

variable [AddMonoid ν]

/-- `d[k] = d.get(k, 0) + v`. -/
def add (d : Dict κ ν) (k : κ) (v : ν) : Dict κ ν := d.insert k ((d.lookup k).getD 0 + v)

/-- The amounts of the items, added up under their keys; an item without a key
is skipped. -/
def tally {α : Type*} (key : α → Option κ) (amount : α → ν) (items : List α) : Dict κ ν :=
  items.foldl (fun d x => match key x with
    | some k => add d k (amount x)
    | none => d) ∅

/-- An entry of a tally is the sum of the amounts under its key. -/
theorem lookup_tally_getD {α : Type*} (key : α → Option κ) (amount : α → ν) (items : List α)
    (k : κ) : ((tally key amount items).lookup k).getD 0
      = ((items.filter fun x => key x = some k).map amount).sum := by
  induction items using List.reverseRecOn with
  | nil => rfl
  | append_singleton items x ih =>
      rw [tally, List.foldl_append, ← tally, List.filter_append, List.map_append, List.sum_append,
        ← ih, List.foldl_cons, List.foldl_nil]
      cases hx : key x with
      | none => simp [hx]
      | some k' =>
          by_cases hk : k = k'
          · subst hk
            simp [hx, add]
          · have hne : ¬ k' = k := fun h => hk h.symm
            simp [hx, add, hne, AList.lookup_insert_ne hk]

/-- A tally has an entry for the keys of its items. -/
theorem mem_tally {α : Type*} (key : α → Option κ) (amount : α → ν) (items : List α) (k : κ) :
    k ∈ tally key amount items ↔ ∃ x ∈ items, key x = some k := by
  induction items using List.reverseRecOn with
  | nil => simp [tally]
  | append_singleton items x ih =>
      have hstep : ∀ P : α → Prop, (∃ y ∈ items ++ [x], P y) ↔ (∃ y ∈ items, P y) ∨ P x := by
        intro P
        simp only [List.mem_append, List.mem_singleton, or_and_right, exists_or, exists_eq_left]
      rw [tally, List.foldl_append, ← tally, hstep, ← ih, List.foldl_cons, List.foldl_nil]
      cases hx : key x with
      | none => simp
      | some k' =>
          dsimp only [add]
          rw [Option.some_inj, AList.mem_insert, or_comm, eq_comm]

/-- The entry of a tally under a key: the sum of its amounts, if it has any item. -/
theorem lookup_tally {α : Type*} (key : α → Option κ) (amount : α → ν) (items : List α) (k : κ)
    (h : ∃ x ∈ items, key x = some k) : (tally key amount items).lookup k
      = some ((items.filter fun x => key x = some k).map amount).sum := by
  have hmem := (mem_tally key amount items k).mpr h
  obtain ⟨v, hv⟩ := Option.isSome_iff_exists.mp (AList.lookup_isSome.mpr hmem)
  rw [hv, ← lookup_tally_getD, hv, Option.getD_some]

end Dict

end ProofAlpha.Lib

/-!
Dicts of dicts: a table whose entries have two keys and are written one after the other.

What an entry holds is what some write has put there, and every write leaves an entry
under its keys. Where the writes to an entry agree, the table says what they say.
-/

namespace ProofAlpha.Lib.DictOfDicts

variable {κ ι ν : Type*} [DecidableEq κ] [DecidableEq ι]

/-- `table[k][i]`, where there is one. -/
def entry (table : Dict κ (Dict ι ν)) (k : κ) (i : ι) : Option ν :=
  (table.lookup k).bind fun row => row.lookup i

/-- `table.setdefault(k, {})[i] = v`. -/
def set_entry (table : Dict κ (Dict ι ν)) (k : κ) (i : ι) (v : ν) : Dict κ (Dict ι ν) :=
  table.insert k (((table.lookup k).getD ∅).insert i v)

theorem entry_empty (k : κ) (i : ι) : entry (∅ : Dict κ (Dict ι ν)) k i = none := by
  rw [entry, AList.lookup_empty, Option.bind_none]

/-- A write is seen under its own keys only. -/
theorem entry_set_entry (table : Dict κ (Dict ι ν)) (k k' : κ) (i i' : ι) (v : ν) :
    entry (set_entry table k i v) k' i' = if k' = k ∧ i' = i then some v else entry table k' i' := by
  unfold entry set_entry
  by_cases hk : k' = k
  · subst hk
    rw [AList.lookup_insert, Option.bind_some]
    by_cases hi : i' = i
    · subst hi
      rw [AList.lookup_insert, if_pos ⟨rfl, rfl⟩]
    · rw [AList.lookup_insert_ne hi, if_neg fun h => hi h.2]
      cases table.lookup k' with
      | none => rfl
      | some row => rfl
  · rw [AList.lookup_insert_ne hk, if_neg fun h => hk h.1]

/-- A write to an entry: its two keys and its value. -/
abbrev Write (κ ι ν : Type*) := (κ × ι) × ν

/-- The table after some writes. -/
def written (writes : List (Write κ ι ν)) : Dict κ (Dict ι ν) :=
  writes.foldl (fun table write => set_entry table write.1.1 write.1.2 write.2) ∅

theorem written_append_singleton (writes : List (Write κ ι ν)) (write : Write κ ι ν) :
    written (writes ++ [write]) = set_entry (written writes) write.1.1 write.1.2 write.2 := by
  unfold written
  rw [List.foldl_append]
  rfl

/-- What an entry holds has been written there. -/
theorem mem_of_entry_written {writes : List (Write κ ι ν)} {k : κ} {i : ι} {v : ν}
    (h : entry (written writes) k i = some v) : ((k, i), v) ∈ writes := by
  induction writes using List.reverseRecOn with
  | nil =>
      have hnone : entry (∅ : Dict κ (Dict ι ν)) k i = some v := h
      rw [entry_empty] at hnone
      cases hnone
  | append_singleton writes write ih =>
      rw [written_append_singleton, entry_set_entry] at h
      split_ifs at h with hkeys
      · obtain ⟨rfl, rfl⟩ := hkeys
        rw [← Option.some.inj h]
        exact List.mem_append_right _ (List.mem_singleton_self _)
      · exact List.mem_append_left _ (ih h)

/-- A write leaves an entry under its keys. -/
theorem isSome_entry_written {writes : List (Write κ ι ν)} {write : Write κ ι ν}
    (h : write ∈ writes) : (entry (written writes) write.1.1 write.1.2).isSome = true := by
  induction writes using List.reverseRecOn with
  | nil => exact absurd h List.not_mem_nil
  | append_singleton writes last ih =>
      rw [written_append_singleton, entry_set_entry]
      split_ifs with hkeys
      · rfl
      · rcases List.mem_append.mp h with hmem | hlast
        · exact ih hmem
        · rw [List.mem_singleton.mp hlast] at hkeys
          exact absurd ⟨rfl, rfl⟩ hkeys

/-- Where the writes under the same keys agree, the entries satisfy what the writes do. -/
theorem forall_entry_written_iff {writes : List (Write κ ι ν)} {p : ν → Prop}
    (hagree : ∀ a ∈ writes, ∀ b ∈ writes, a.1 = b.1 → a.2 = b.2) :
    (∀ k i v, entry (written writes) k i = some v → p v) ↔ ∀ write ∈ writes, p write.2 := by
  constructor
  · intro hentries write hwrite
    obtain ⟨v, hv⟩ := Option.isSome_iff_exists.mp (isSome_entry_written hwrite)
    have hsame : v = write.2 := hagree _ (mem_of_entry_written hv) write hwrite rfl
    rw [← hsame]
    exact hentries _ _ v hv
  · intro hwrites k i v hv
    exact hwrites _ (mem_of_entry_written hv)

/-- The table has a row exactly when there is a write. -/
theorem written_entries_eq_nil {writes : List (Write κ ι ν)} :
    (written writes).entries = [] ↔ writes = [] := by
  constructor
  · intro hnone
    have hempty : written writes = ∅ := AList.ext hnone
    refine List.eq_nil_iff_forall_not_mem.mpr ?_
    intro write hwrite
    have hsome := isSome_entry_written hwrite
    rw [hempty, entry_empty] at hsome
    cases hsome
  · rintro rfl
    rfl

end ProofAlpha.Lib.DictOfDicts
