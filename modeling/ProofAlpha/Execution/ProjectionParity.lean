/-
The two projections of one journal: `execution/state_projection.py` over ledger
events and `memory/store.py` over rows of `execution_events`.

A journal is a list of entries, and both sides record them in order. Each
projection is characterised by the first fill of every fill id
(`projects_entries`, `net_position_recorded`); repeats and the order of the
entries matter to neither because they do not matter to the first fills.
-/
import Mathlib.Algebra.BigOperators.Group.List.Lemmas
import ProofAlpha.Execution.StateProjection
import ProofAlpha.Memory.FillConservation

set_option autoImplicit false

namespace ProofAlpha.Execution

open ProofAlpha.Lib ProofAlpha.Memory

/-! ## A journal -/

/-- A fill whose side is `BUY` or `SELL`, whose quantity is a multiple of 1e-12
and whose ids are not empty. -/
structure WellFormedFill (K : Type) [Field K] extends FillFields K where
  fill_id : String
  order_id_client : String
  side_known : side = "BUY" ∨ side = "SELL"
  qty_multiple : ∃ units : ℕ, qty = units / 10 ^ 12
  fill_id_ne : fill_id ≠ ""
  order_id_client_ne : order_id_client ≠ ""

/-- An entry of the journal; `other` stands for an event that neither projection
reads as a fill or a funding. -/
inductive JournalEntry (K : Type) [Field K]
  | fill (fill : WellFormedFill K)
  | funding (amount : K)
  | other

section Entries

variable {K : Type} [Field K]

/-- The fill of an entry. -/
def JournalEntry.fill? : JournalEntry K → Option (WellFormedFill K)
  | .fill posted => some posted
  | _ => none

/-- The funding amount of an entry. -/
def JournalEntry.amount : JournalEntry K → K
  | .funding paid => paid
  | _ => 0

/-- The fills of a journal. -/
def entry_fills (entries : List (JournalEntry K)) : List (WellFormedFill K) :=
  entries.filterMap JournalEntry.fill?

/-- The first fill of every fill id. -/
def distinct_entry_fills (entries : List (JournalEntry K)) : List (WellFormedFill K) :=
  first_by WellFormedFill.fill_id (entry_fills entries)

/-- The fills of one symbol. -/
def symbol_fills (entries : List (JournalEntry K)) (symbol : String) : List (WellFormedFill K) :=
  (distinct_entry_fills entries).filter fun fill => fill.symbol = symbol

/-- The signed position of a symbol. -/
def signed_position (entries : List (JournalEntry K)) (symbol : String) : K :=
  ((symbol_fills entries symbol).map fun fill => fill.signed_qty).sum

/-- The signed notional of the distinct fills. -/
def signed_notional (entries : List (JournalEntry K)) : K :=
  ((distinct_entry_fills entries).map fun fill => fill.signed_qty * fill.price).sum

/-- The fees of the distinct fills. -/
def fee_total (entries : List (JournalEntry K)) : K :=
  ((distinct_entry_fills entries).map fun fill => fill.fee).sum

/-- The funding of a journal. -/
def funding_total (entries : List (JournalEntry K)) : K :=
  (entries.map JournalEntry.amount).sum

/-- Repeated fill ids carry equal payloads. -/
def RepeatsEqual (entries : List (JournalEntry K)) : Prop :=
  ∀ fill ∈ entry_fills entries, ∀ other ∈ entry_fills entries, fill.fill_id = other.fill_id →
    fill.toFillFields = other.toFillFields

end Entries

section Records

variable {K : Type} [Field K] [LinearOrder K] (texts : PyTexts K)

/-- A ledger event that records an entry. -/
inductive LedgerRecords : JournalEntry K → LedgerEvent K → Prop
  | fill (fill : WellFormedFill K) (event : LedgerEvent K) (hevent : event.event_type = "FILL")
      (hid : ledger_fill_id texts event = fill.fill_id)
      (hfields : fill_fields texts event.payload = some fill.toFillFields) :
      LedgerRecords (.fill fill) event
  | funding (amount : K) (event : LedgerEvent K) (hevent : event.event_type = "FUNDING")
      (hamount : float_field texts event.payload "amount" = some amount) :
      LedgerRecords (.funding amount) event
  | other (event : LedgerEvent K)
      (hevent : event.event_type ≠ "FILL" ∧ event.event_type ≠ "FUNDING") :
      LedgerRecords .other event

/-- What a row of the journal says of a fill. -/
structure RowOfFill (fill : WellFormedFill K) (event : ExecutionEvent K) : Prop where
  event_type : event.event_type ∈ fill_event_types
  order_id_client : event.order_id_client = some fill.order_id_client
  fill_id : Memory.fill_id texts.composite_text event = fill.fill_id
  symbol : event.symbol = some fill.symbol
  side : pyUpper (event.side.getD "") = fill.side
  qty : event.qty = some fill.qty
  price : event.price = some fill.price
  fee : Memory.float_or_none (event.metadata.get "fee") = some fill.fee

/-- A row of the journal that records an entry. -/
inductive JournalRecords : JournalEntry K → ExecutionEvent K → Prop
  | fill (fill : WellFormedFill K) (event : ExecutionEvent K)
      (hrow : RowOfFill texts fill event) : JournalRecords (.fill fill) event
  | funding (amount : K) (event : ExecutionEvent K)
      (hevent : event.event_type ∉ fill_event_types) : JournalRecords (.funding amount) event
  | other (event : ExecutionEvent K) (hevent : event.event_type ∉ fill_event_types) :
      JournalRecords .other event

/-- A journal in both forms. -/
structure RecordedJournal where
  entries : List (JournalEntry K)
  events : List (LedgerEvent K)
  journal : List (ExecutionEvent K)
  ledger_records : List.Forall₂ (LedgerRecords texts) entries events
  journal_records : List.Forall₂ (JournalRecords texts) entries journal

end Records

/-! ## The journal, entry by entry -/

section Growth

variable {K : Type} [Field K]

theorem entry_fills_concat_fill (entries : List (JournalEntry K)) (fill : WellFormedFill K) :
    entry_fills (entries ++ [.fill fill]) = entry_fills entries ++ [fill] := by
  rw [entry_fills, entry_fills, List.filterMap_append]
  rfl

theorem entry_fills_concat_of_none (entries : List (JournalEntry K)) (entry : JournalEntry K)
    (h : entry.fill? = none) : entry_fills (entries ++ [entry]) = entry_fills entries := by
  rw [entry_fills, List.filterMap_append, List.filterMap_cons, h, List.filterMap_nil,
    List.append_nil]
  rfl

/-- A fill with a known id adds no first fill. -/
theorem distinct_entry_fills_concat_repeat {entries : List (JournalEntry K)}
    {fill : WellFormedFill K}
    (h : fill.fill_id ∈ (entry_fills entries).map WellFormedFill.fill_id) :
    distinct_entry_fills (entries ++ [.fill fill]) = distinct_entry_fills entries := by
  rw [distinct_entry_fills, entry_fills_concat_fill, first_by_concat, if_pos h, List.append_nil]
  rfl

theorem distinct_entry_fills_concat_new {entries : List (JournalEntry K)}
    {fill : WellFormedFill K}
    (h : fill.fill_id ∉ (entry_fills entries).map WellFormedFill.fill_id) :
    distinct_entry_fills (entries ++ [.fill fill]) = distinct_entry_fills entries ++ [fill] := by
  rw [distinct_entry_fills, entry_fills_concat_fill, first_by_concat, if_neg h]
  rfl

theorem funding_total_concat (entries : List (JournalEntry K)) (entry : JournalEntry K) :
    funding_total (entries ++ [entry]) = funding_total entries + entry.amount := by
  simp [funding_total]

/-- Signed quantities are multiples of 1e-12. -/
theorem WellFormedFill.signed_qty_decimal (fill : WellFormedFill K) :
    ∃ units : ℤ, fill.signed_qty = units / 10 ^ 12 := by
  obtain ⟨units, hunits⟩ := fill.qty_multiple
  unfold FillFields.signed_qty
  split_ifs
  · exact ⟨units, by rw [hunits, Int.cast_natCast]⟩
  · exact ⟨-units, by rw [hunits, Int.cast_neg, Int.cast_natCast, neg_div]⟩

/-- So are their sums. -/
theorem signed_sum_decimal (fills : List (WellFormedFill K)) :
    ∃ units : ℤ, (fills.map fun fill => fill.signed_qty).sum = units / 10 ^ 12 := by
  induction fills with
  | nil => exact ⟨0, by simp⟩
  | cons fill fills ih =>
      obtain ⟨first, hfirst⟩ := fill.signed_qty_decimal
      obtain ⟨rest, hrest⟩ := ih
      exact ⟨first + rest, by rw [List.map_cons, List.sum_cons, hfirst, hrest, Int.cast_add, add_div]⟩

end Growth

/-! ## The state projection -/

section StateSide

variable {K : Type} [Field K] [LinearOrder K] [FloorRing K]

/-- What one entry does to the variables of the loop. -/
def apply_entry (st : ProjectionState K) : JournalEntry K → ProjectionState K
  | .fill fill =>
      if fill.fill_id ∈ st.seen_fills then st else st.add_fill fill.fill_id fill.toFillFields
  | .funding amount => st.add_funding amount
  | .other => st

theorem project_ledger_event_recorded {texts : PyTexts K} {entry : JournalEntry K}
    {event : LedgerEvent K} (h : LedgerRecords texts entry event) (st : ProjectionState K) :
    project_ledger_event texts st event = some (apply_entry st entry) := by
  cases h with
  | fill fill event hevent hid hfields =>
      rw [project_ledger_event, if_pos hevent, hid, hfields, apply_entry]
      split_ifs <;> rfl
  | funding amount event hevent hamount =>
      have hne : event.event_type ≠ "FILL" := by
        rw [hevent]
        decide
      rw [project_ledger_event, if_neg hne, if_pos hevent, hamount]
      rfl
  | other event hevent =>
      rw [project_ledger_event, if_neg hevent.1, if_neg hevent.2]
      rfl

theorem project_ledger_recorded {texts : PyTexts K} {entries : List (JournalEntry K)}
    {events : List (LedgerEvent K)} (h : List.Forall₂ (LedgerRecords texts) entries events) :
    project_ledger texts events = some (entries.foldl apply_entry ProjectionState.initial) := by
  have hfrom : ∀ st : ProjectionState K,
      events.foldlM (project_ledger_event texts) st = some (entries.foldl apply_entry st) := by
    induction h with
    | nil => exact fun _ => rfl
    | cons hrecord _ ih =>
        intro st
        rw [List.foldlM_cons, project_ledger_event_recorded hrecord, List.foldl_cons]
        exact ih _
  exact hfrom _

/-- The variables of the loop, said in terms of the distinct fills. -/
structure Projects (st : ProjectionState K) (entries : List (JournalEntry K)) : Prop where
  seen : ∀ id, id ∈ st.seen_fills ↔ id ∈ (entry_fills entries).map WellFormedFill.fill_id
  positions : ∀ symbol, st.positions.lookup symbol =
    if symbol_fills entries symbol = [] then none else some (signed_position entries symbol)
  cash : st.cash = -signed_notional entries - fee_total entries + funding_total entries
  fees : st.fees = fee_total entries
  funding : st.funding = funding_total entries
  realized_pnl : st.realized_pnl = 0

omit [LinearOrder K] [FloorRing K] in
theorem Projects.of_same_fills {st : ProjectionState K} {entries entries' : List (JournalEntry K)}
    (hst : Projects st entries)
    (hids : ∀ id, id ∈ (entry_fills entries').map WellFormedFill.fill_id
      ↔ id ∈ (entry_fills entries).map WellFormedFill.fill_id)
    (hfills : distinct_entry_fills entries' = distinct_entry_fills entries)
    (hfunding : funding_total entries' = funding_total entries) : Projects st entries' where
  seen := fun id => (hst.seen id).trans (hids id).symm
  positions := by
    intro symbol
    rw [hst.positions, symbol_fills, symbol_fills, signed_position, signed_position, symbol_fills,
      symbol_fills, hfills]
  cash := by rw [hst.cash, signed_notional, signed_notional, fee_total, fee_total, hfills, hfunding]
  fees := by rw [hst.fees, fee_total, fee_total, hfills]
  funding := by rw [hst.funding, hfunding]
  realized_pnl := hst.realized_pnl

/-- A fill with a new id. -/
theorem Projects.add_fill [IsStrictOrderedRing K] {st : ProjectionState K}
    {entries : List (JournalEntry K)} (hst : Projects st entries) {fill : WellFormedFill K}
    (hnew : fill.fill_id ∉ (entry_fills entries).map WellFormedFill.fill_id) :
    Projects (st.add_fill fill.fill_id fill.toFillFields) (entries ++ [.fill fill]) := by
  have hfills := distinct_entry_fills_concat_new hnew
  have hsymbol : ∀ symbol, symbol_fills (entries ++ [.fill fill]) symbol
      = symbol_fills entries symbol ++ if fill.symbol = symbol then [fill] else [] := by
    intro symbol
    rw [symbol_fills, hfills, List.filter_append, List.filter_singleton]
    by_cases h : fill.symbol = symbol
    · simp [h, symbol_fills]
    · simp [h, symbol_fills]
  constructor
  · intro id
    rw [entry_fills_concat_fill, List.map_append, List.mem_append, List.map_singleton,
      List.mem_singleton, ← hst.seen, or_comm]
    exact Finset.mem_insert
  · intro symbol
    dsimp only [ProjectionState.add_fill]
    rw [hsymbol]
    by_cases h : symbol = fill.symbol
    · -- the rounding changes nothing: both summands are multiples of 1e-12
      subst h
      have hheld : (st.positions.lookup fill.symbol).getD 0 = signed_position entries fill.symbol := by
        rw [hst.positions]
        split_ifs with hnone
        · rw [signed_position, hnone]
          rfl
        · rfl
      have hsum : signed_position (entries ++ [.fill fill]) fill.symbol
          = signed_position entries fill.symbol + fill.signed_qty := by
        rw [signed_position, hsymbol, if_pos rfl, List.map_append, List.sum_append]
        simp [signed_position]
      have hround : pyRound (signed_position (entries ++ [.fill fill]) fill.symbol) 12
          = signed_position (entries ++ [.fill fill]) fill.symbol := by
        obtain ⟨units, hunits⟩ := signed_sum_decimal
          (symbol_fills (entries ++ [.fill fill]) fill.symbol)
        exact pyRound_of_decimal hunits
      rw [AList.lookup_insert, if_pos rfl, if_neg (by simp), hheld, ← hsum, hround]
    · rw [AList.lookup_insert_ne h, hst.positions, if_neg (Ne.symm h), List.append_nil,
        signed_position, signed_position, hsymbol, if_neg (Ne.symm h), List.append_nil]
  · dsimp only [ProjectionState.add_fill]
    rw [hst.cash, funding_total_concat, signed_notional, signed_notional, fee_total, fee_total,
      hfills]
    simp only [List.map_append, List.sum_append, List.map_singleton, List.sum_singleton,
      JournalEntry.amount]
    ring
  · dsimp only [ProjectionState.add_fill]
    rw [hst.fees, fee_total, fee_total, hfills]
    simp
  · rw [funding_total_concat]
    exact hst.funding.trans (add_zero _).symm
  · exact hst.realized_pnl

/-- One entry. -/
theorem Projects.apply_entry [IsStrictOrderedRing K] {st : ProjectionState K}
    {entries : List (JournalEntry K)} (hst : Projects st entries) (entry : JournalEntry K) :
    Projects (apply_entry st entry) (entries ++ [entry]) := by
  cases entry with
  | fill fill =>
      by_cases hseen : fill.fill_id ∈ st.seen_fills
      · have hrepeat := (hst.seen _).mp hseen
        rw [Execution.apply_entry, if_pos hseen]
        refine hst.of_same_fills (fun id => ?_) (distinct_entry_fills_concat_repeat hrepeat) ?_
        · rw [entry_fills_concat_fill, List.map_append, List.mem_append, List.map_singleton,
            List.mem_singleton, or_iff_left_iff_imp]
          rintro rfl
          exact hrepeat
        · exact (funding_total_concat _ _).trans (add_zero _)
      · rw [Execution.apply_entry, if_neg hseen]
        exact hst.add_fill fun h => hseen ((hst.seen _).mpr h)
  | funding amount =>
      have hfills := entry_fills_concat_of_none entries (.funding amount) rfl
      have hdistinct : distinct_entry_fills (entries ++ [.funding amount])
          = distinct_entry_fills entries := by
        rw [distinct_entry_fills, hfills]
        rfl
      constructor
      · intro id
        rw [hfills]
        exact hst.seen id
      · intro symbol
        rw [symbol_fills, signed_position, symbol_fills, hdistinct]
        exact hst.positions symbol
      · change st.cash + amount = _
        rw [hst.cash, funding_total_concat, signed_notional, signed_notional, fee_total, fee_total,
          hdistinct, JournalEntry.amount, add_assoc]
      · rw [fee_total, hdistinct]
        exact hst.fees
      · change st.funding + amount = _
        rw [hst.funding, funding_total_concat]
        rfl
      · exact hst.realized_pnl
  | other =>
      have hfills := entry_fills_concat_of_none entries .other rfl
      refine hst.of_same_fills (fun id => by rw [hfills]) ?_ ?_
      · rw [distinct_entry_fills, hfills]
        rfl
      · exact (funding_total_concat _ _).trans (add_zero _)

/-- The loop over the whole journal. -/
theorem projects_entries [IsStrictOrderedRing K] (entries : List (JournalEntry K)) :
    Projects (entries.foldl Execution.apply_entry ProjectionState.initial) entries := by
  induction entries using List.reverseRecOn with
  | nil => exact ⟨by simp [ProjectionState.initial, entry_fills], fun _ => rfl,
      by simp [ProjectionState.initial, signed_notional, fee_total, funding_total,
        distinct_entry_fills, entry_fills, first_by], rfl, rfl, rfl⟩
  | append_singleton entries entry ih =>
      rw [List.foldl_append]
      exact ih.apply_entry entry

end StateSide

/-! ## The store -/

section StoreSide

variable {K : Type} [Field K] [LinearOrder K] {texts : PyTexts K}

theorem RowOfFill.is_order_fill {fill : WellFormedFill K} {event : ExecutionEvent K}
    (h : RowOfFill texts fill event) : is_order_fill event = true := by
  have hprojected : event.event_type ∈ order_event_types := by
    have hsubset : ∀ event_type ∈ fill_event_types, event_type ∈ order_event_types := by decide
    exact hsubset _ h.event_type
  have horder : projected_order event = some fill.order_id_client := by
    rw [projected_order, if_pos hprojected, h.order_id_client, non_empty, Option.filter_some,
      if_pos (decide_eq_true fill.order_id_client_ne)]
  rw [Memory.is_order_fill, horder, decide_eq_true h.event_type]
  rfl

/-- The fills of the rows are the fills of the entries. -/
theorem order_fills_recorded {entries : List (JournalEntry K)} {journal : List (ExecutionEvent K)}
    (h : List.Forall₂ (JournalRecords texts) entries journal) :
    List.Forall₂ (RowOfFill texts) (entry_fills entries) (journal.filter is_order_fill) := by
  have hskip : ∀ event : ExecutionEvent K, event.event_type ∉ fill_event_types →
      ¬ is_order_fill event = true := by
    intro event hevent
    rw [Memory.is_order_fill, decide_eq_false hevent]
    exact Bool.false_ne_true
  induction h with
  | nil => exact List.Forall₂.nil
  | cons hrecord _ ih =>
      cases hrecord with
      | fill fill event hrow =>
          rw [List.filter_cons_of_pos hrow.is_order_fill]
          exact List.Forall₂.cons hrow ih
      | funding amount event hevent =>
          rw [List.filter_cons_of_neg (hskip _ hevent)]
          exact ih
      | other event hevent =>
          rw [List.filter_cons_of_neg (hskip _ hevent)]
          exact ih

theorem RowOfFill.signed_fill [IsStrictOrderedRing K] {fill : WellFormedFill K}
    {event : ExecutionEvent K} (h : RowOfFill texts fill event) :
    signed_fill event = fill.signed_qty := by
  have hqty : fill_quantity event = fill.qty := by
    obtain ⟨units, hunits⟩ := fill.qty_multiple
    rw [fill_quantity, h.qty, Option.getD_some, hunits, abs_of_nonneg (by positivity)]
  rw [Memory.signed_fill, FillFields.signed_qty, h.side, hqty]
  rcases fill.side_known with hside | hside
  · rw [hside, if_neg (by decide), if_pos rfl]
  · rw [hside, if_pos rfl, if_neg (by decide)]

/-- The net quantity that the store shows. -/
theorem net_position_recorded [IsStrictOrderedRing K] {entries : List (JournalEntry K)}
    {journal : List (ExecutionEvent K)} (h : List.Forall₂ (JournalRecords texts) entries journal)
    {symbol : String} (hsymbol : symbol ≠ "") :
    net_position (projections_of texts.composite_text journal) symbol
      = signed_position entries symbol := by
  have hdistinct : List.Forall₂ (RowOfFill texts) (distinct_entry_fills entries)
      (distinct_fills texts.composite_text journal) :=
    forall₂_first_by (fun _ _ hrow => hrow.fill_id.symm) (order_fills_recorded h)
  have hof : List.Forall₂ (RowOfFill texts) (symbol_fills entries symbol)
      ((distinct_fills texts.composite_text journal).filter fun event =>
        event.symbol = some symbol) := by
    refine List.rel_filter (fun fill event hrow => ?_) hdistinct
    dsimp only
    rw [hrow.symbol, decide_eq_true_eq, decide_eq_true_eq, Option.some_inj]
  have hsigned : (symbol_fills entries symbol).map (fun fill => fill.signed_qty)
      = ((distinct_fills texts.composite_text journal).filter fun event =>
        event.symbol = some symbol).map signed_fill := by
    rw [← List.forall₂_eq_eq_eq, List.forall₂_map_left_iff, List.forall₂_map_right_iff]
    exact hof.imp fun _ _ hrow => hrow.signed_fill.symm
  rw [net_position_projections_of texts.composite_text journal hsymbol, signed_position, hsigned]

end StoreSide

/-! ## Both projections -/

section Parity

variable {K : Type} [Field K]

/-- The two projections see the same in two journals: the same distinct fills, in
any order, and the same funding. -/
structure SameFigures (entries entries' : List (JournalEntry K)) : Prop where
  fills : ((distinct_entry_fills entries).map WellFormedFill.toFillFields).Perm
    ((distinct_entry_fills entries').map WellFormedFill.toFillFields)
  funding : funding_total entries = funding_total entries'

/-- A journal without one of its repeats. -/
def OmitsRepeat (entries shorter : List (JournalEntry K)) : Prop :=
  ∃ before fill after, entries = before ++ .fill fill :: after ∧ shorter = before ++ after
    ∧ fill.fill_id ∈ (entry_fills before).map WellFormedFill.fill_id

theorem SameFigures.fields_of_symbol {entries entries' : List (JournalEntry K)}
    (h : SameFigures entries entries') (symbol : String) :
    ((symbol_fills entries symbol).map WellFormedFill.toFillFields).Perm
      ((symbol_fills entries' symbol).map WellFormedFill.toFillFields) := by
  have hfilter : ∀ entries : List (JournalEntry K),
      (symbol_fills entries symbol).map WellFormedFill.toFillFields
        = ((distinct_entry_fills entries).map WellFormedFill.toFillFields).filter fun fields =>
          fields.symbol = symbol := by
    intro entries
    rw [List.filter_map]
    rfl
  rw [hfilter, hfilter]
  exact h.fills.filter _

/-- A sum over the fills that reads their fields only. -/
theorem sum_of_fields {fills fills' : List (WellFormedFill K)}
    (h : (fills.map WellFormedFill.toFillFields).Perm (fills'.map WellFormedFill.toFillFields))
    (amount : FillFields K → K) :
    (fills.map fun fill => amount fill.toFillFields).sum
      = (fills'.map fun fill => amount fill.toFillFields).sum := by
  have hsum := (h.map amount).sum_eq
  rwa [List.map_map, List.map_map] at hsum

theorem SameFigures.position_eq {entries entries' : List (JournalEntry K)}
    (h : SameFigures entries entries') (symbol : String) :
    signed_position entries symbol = signed_position entries' symbol :=
  sum_of_fields (h.fields_of_symbol symbol) FillFields.signed_qty

theorem SameFigures.of_omitsRepeat {entries shorter : List (JournalEntry K)}
    (h : OmitsRepeat entries shorter) : SameFigures shorter entries := by
  obtain ⟨before, fill, after, rfl, rfl, hrepeat⟩ := h
  have hfills : distinct_entry_fills (before ++ .fill fill :: after)
      = distinct_entry_fills (before ++ after) := by
    rw [distinct_entry_fills, distinct_entry_fills, entry_fills, entry_fills,
      List.filterMap_append, List.filterMap_append]
    exact first_by_insert_repeat hrepeat _
  constructor
  · rw [hfills]
  · have hamount : (JournalEntry.fill fill).amount = 0 := rfl
    rw [funding_total, funding_total, List.map_append, List.map_append, List.map_cons,
      List.sum_append, List.sum_append, List.sum_cons, hamount, zero_add]

theorem SameFigures.of_perm {entries entries' : List (JournalEntry K)}
    (hperm : entries'.Perm entries) (hrepeats : RepeatsEqual entries) :
    SameFigures entries' entries := by
  constructor
  · refine (first_by_map_perm (List.Perm.filterMap _ hperm).symm fun fill hfill other hother => ?_).symm
    exact hrepeats fill hfill other hother
  · exact (hperm.map JournalEntry.amount).sum_eq

/-- Two projections that say the same. -/
structure SameProjection (projection projection' : StateProjection K) : Prop where
  positions : ∀ symbol, projection.positions.lookup symbol = projection'.positions.lookup symbol
  cash : projection.cash = projection'.cash
  fees : projection.fees = projection'.fees
  funding : projection.funding = projection'.funding
  realized_pnl : projection.realized_pnl = projection'.realized_pnl
  projection_digest : projection.projection_digest = projection'.projection_digest

variable [LinearOrder K] [FloorRing K] {texts : PyTexts K}
  (stable_hash : ProjectionPayload K → String)

/-- The projection of a recorded journal. -/
theorem rebuild_recorded (recorded : RecordedJournal texts) :
    rebuild_state_projection texts stable_hash recorded.events
      = some (state_projection stable_hash
          (recorded.entries.foldl apply_entry ProjectionState.initial)) := by
  rw [rebuild_state_projection, project_ledger_recorded recorded.ledger_records]
  rfl

theorem SameFigures.projection {st st' : ProjectionState K} {entries entries' : List (JournalEntry K)}
    (h : SameFigures entries entries') (hst : Projects st entries) (hst' : Projects st' entries') :
    SameProjection (state_projection stable_hash st) (state_projection stable_hash st') := by
  have hpositions : ∀ symbol, st.positions.lookup symbol = st'.positions.lookup symbol := by
    intro symbol
    have hnone : symbol_fills entries symbol = [] ↔ symbol_fills entries' symbol = [] := by
      have hlength := (h.fields_of_symbol symbol).length_eq
      rw [List.length_map, List.length_map] at hlength
      rw [← List.length_eq_zero_iff, hlength, List.length_eq_zero_iff]
    rw [hst.positions, hst'.positions, h.position_eq symbol]
    simp only [hnone]
  have hfees : st.fees = st'.fees := by
    rw [hst.fees, hst'.fees]
    exact sum_of_fields h.fills FillFields.fee
  have hfunding : st.funding = st'.funding := by
    rw [hst.funding, hst'.funding, h.funding]
  have hcash : st.cash = st'.cash := by
    have hnotional : signed_notional entries = signed_notional entries' :=
      sum_of_fields h.fills fun fields => fields.signed_qty * fields.price
    rw [hst.cash, hst'.cash, hnotional, ← hst.fees, ← hst'.fees, hfees, ← hst.funding,
      ← hst'.funding, hfunding]
  have hpnl : st.realized_pnl = st'.realized_pnl := by
    rw [hst.realized_pnl, hst'.realized_pnl]
  refine ⟨hpositions, ?_, ?_, ?_, ?_, ?_⟩
  · rw [state_projection, state_projection, hcash]
  · rw [state_projection, state_projection, hfees]
  · rw [state_projection, state_projection, hfunding]
  · rw [state_projection, state_projection, hpnl]
  · rw [state_projection, state_projection, Dict.sorted_items_congr hpositions, hcash, hfees,
      hfunding, hpnl]

end Parity

/-! ## One fill, recorded -/

/-- The ledger event that the source makes of a fill records it. -/
theorem ledgerRecords_fill {K : Type} [Field K] [LinearOrder K] (texts : PyTexts K)
    (fill : WellFormedFill K) :
    LedgerRecords texts (.fill fill) (LedgerEvent.fill fill.fill_id fill.order_id_client fill.symbol
      fill.side fill.qty fill.price fill.fee) := by
  have hupper : pyUpper (pyUpper fill.side) = fill.side := by
    rcases fill.side_known with hside | hside
    · rw [hside]
      decide
    · rw [hside]
      decide
  have hid : truthy (.str fill.fill_id : JsonValue K) = true := decide_eq_true fill.fill_id_ne
  refine LedgerRecords.fill fill _ rfl ?_ ?_
  · change text_or texts.composite_text (.str fill.fill_id) fill.fill_id = fill.fill_id
    rw [text_or, if_pos hid]
    rfl
  · change some (FillFields.mk fill.symbol (pyUpper (pyUpper fill.side)) fill.qty fill.price
      fill.fee) = some fill.toFillFields
    rw [hupper]

/-- A row of a fill. -/
def row_of_fill (event_id : ℕ) (fill : WellFormedFill ℚ) : ExecutionEvent ℚ :=
  { plain_event event_id "FILL" (some fill.order_id_client) with
    symbol := some fill.symbol
    side := some fill.side
    qty := some fill.qty
    price := some fill.price
    metadata := [("fill_id", .str fill.fill_id), ("fee", .float fill.fee)] }

theorem rowOfFill_row_of_fill (event_id : ℕ) (fill : WellFormedFill ℚ) :
    RowOfFill plain_texts fill (row_of_fill event_id fill) where
  event_type := List.mem_of_elem_eq_true rfl
  order_id_client := rfl
  fill_id := if_pos (decide_eq_true fill.fill_id_ne)
  symbol := rfl
  side := by
    change pyUpper fill.side = fill.side
    rcases fill.side_known with hside | hside
    · rw [hside]
      decide
    · rw [hside]
      decide
  qty := rfl
  price := rfl
  fee := rfl

/-- A journal of one fill. -/
def recorded_fill (fill : WellFormedFill ℚ) : RecordedJournal plain_texts where
  entries := [.fill fill]
  events := [LedgerEvent.fill fill.fill_id fill.order_id_client fill.symbol fill.side fill.qty
    fill.price fill.fee]
  journal := [row_of_fill 1 fill]
  ledger_records := List.Forall₂.cons (ledgerRecords_fill plain_texts fill) List.Forall₂.nil
  journal_records :=
    List.Forall₂.cons (.fill fill _ (rowOfFill_row_of_fill 1 fill)) List.Forall₂.nil

/-- A buy at 1/10 of the smallest quantity. -/
def dust_fill (symbol : String) : WellFormedFill ℚ where
  symbol := symbol
  side := "BUY"
  qty := 1 / 10 ^ 12
  price := 1 / 10
  fee := 0
  fill_id := "f1"
  order_id_client := "c1"
  side_known := Or.inl rfl
  qty_multiple := ⟨1, by norm_num⟩
  fill_id_ne := by decide
  order_id_client_ne := by decide

end ProofAlpha.Execution
