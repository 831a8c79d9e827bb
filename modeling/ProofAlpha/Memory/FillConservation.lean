/-
Conservation of the projections.

The fills table and the positions are a function of the first fill of every fill
id, and of nothing else in the journal (`ledger_project_events`). So repeats
change neither, and the positions add up the first fills. The filled quantity of
an order is kept in its row, which every event of the order replaces; that it is
the sum of the order's stored fills is an invariant of the loop
(`FilledMatches`).
-/
import ProofAlpha.Lib.FirstBy
import ProofAlpha.Memory.Projections

set_option autoImplicit false

namespace ProofAlpha.Memory

open ProofAlpha.Lib

variable {K : Type} [Field K] [LinearOrder K] (composite_text : JsonValue K → String)

/-! ## What the tables say -/

/-- The filled quantity that `orders_live` shows. -/
def order_filled_qty (tables : Projections K) (order_id_client : String) : K :=
  ((tables.orders_live.lookup order_id_client).map OrderRow.filled_qty).getD 0

/-- The stored fills of an order, added up. -/
def stored_fill_qty (fills : Dict String (FillRow K)) (order_id_client : String) : K :=
  (((Dict.values fills).filter fun row => row.order_id_client = some order_id_client).map
    FillRow.qty).sum

/-- The net quantity that `positions` shows. -/
def net_position (tables : Projections K) (symbol : String) : K :=
  ((tables.positions.lookup symbol).map PositionRow.net_qty).getD 0

/-- The net quantity and the entry price of a position. -/
def holding (tables : Projections K) (symbol : String) : Option (K × Option K) :=
  (tables.positions.lookup symbol).map fun row => (row.net_qty, row.entry_price)

/-- The first fill of every fill id. -/
def distinct_fills (journal : List (ExecutionEvent K)) : List (ExecutionEvent K) :=
  first_by (fill_id composite_text) (journal.filter is_order_fill)

/-- A fill's quantity, negative for a sell. -/
def signed_fill (event : ExecutionEvent K) : K :=
  if pyUpper (event.side.getD "") = "SELL" then -fill_quantity event else fill_quantity event

theorem signed_quantity_eq [IsStrictOrderedRing K] (event : ExecutionEvent K) :
    signed_quantity event.side event.qty = signed_fill event := by
  unfold signed_quantity signed_fill fill_quantity
  cases event.qty with
  | none => simp
  | some qty =>
      by_cases hsell : pyUpper (event.side.getD "") = "SELL"
      · simp [hsell]
      · simp [hsell]

/-! ## The ledger -/

omit [Field K] [LinearOrder K] in
theorem projected_order_eq_some {event : ExecutionEvent K} {order_id_client : String}
    (h : projected_order event = some order_id_client) :
    event.order_id_client = some order_id_client := by
  unfold projected_order at h
  split_ifs at h
  exact (Option.filter_eq_some_iff.mp h).1

/-- One row of the journal moves the ledger only if it is a fill of an order. -/
theorem ledger_project_event (st : RebuildState K) (event : ExecutionEvent K) :
    (project_event composite_text st event).ledger
      = if is_order_fill event then record_fill composite_text st.ledger event
        else st.ledger := by
  -- a risk block writes its own table only
  have hrisk : (project_event composite_text st event).ledger
      = (project_order_event composite_text st event).ledger := by
    unfold project_event
    split_ifs <;> rfl
  rw [hrisk, project_order_event, is_order_fill]
  cases projected_order event with
  | none => simp
  | some order_id_client => simp [project_order]

/-- The ledger is made of the first fill of every fill id. -/
theorem ledger_project_events (journal : List (ExecutionEvent K)) :
    (project_events composite_text journal).ledger
        = (distinct_fills composite_text journal).foldl (post_fill composite_text)
            FillLedger.empty
      ∧ ∀ id, id ∈ (project_events composite_text journal).ledger.seen_fill_ids
          ↔ id ∈ (journal.filter is_order_fill).map (fill_id composite_text) := by
  have hledger : (project_events composite_text journal).ledger
      = (journal.filter is_order_fill).foldl (record_fill composite_text) FillLedger.empty := by
    induction journal using List.reverseRecOn with
    | nil => rfl
    | append_singleton journal event ih =>
        rw [project_events, List.foldl_append, ← project_events, List.foldl_cons, List.foldl_nil,
          ledger_project_event, ih, List.filter_append, List.foldl_append]
        -- filtering the journal keeps the last event exactly when it moves the ledger
        by_cases hfill : is_order_fill event = true
        · rw [if_pos hfill, List.filter_singleton, hfill]
          rfl
        · rw [if_neg hfill, List.filter_singleton, Bool.eq_false_iff.mpr hfill]
          rfl
  rw [hledger]
  exact foldl_seen (fill_id composite_text) FillLedger.seen_fill_ids rfl (fun _ _ => rfl)
    (fun _ _ hnew => if_neg hnew) (fun _ _ hold => if_pos hold) _

theorem distinct_fills_nodup (journal : List (ExecutionEvent K)) :
    ((distinct_fills composite_text journal).map (fill_id composite_text)).Nodup :=
  map_first_by_nodup _ _

/-- The fills table is filled from the first fill of every fill id. -/
theorem fills_projections_of (journal : List (ExecutionEvent K)) :
    (projections_of composite_text journal).fills
      = (distinct_fills composite_text journal).foldl
          (fun fills event => fills.insert (fill_id composite_text event)
            (fill_row composite_text event)) ∅ := by
  have hfills : (projections_of composite_text journal).fills
      = (distinct_fills composite_text journal).foldl
          (fun fills event => Dict.insert_or_ignore (fill_id composite_text event)
            (fill_row composite_text event) fills) ∅ := by
    rw [projections_of, (ledger_project_events composite_text journal).1]
    exact (List.foldl_hom FillLedger.fills fun _ _ => rfl).symm
  rw [hfills, Dict.foldl_insert_or_ignore _ _ _ _ (distinct_fills_nodup composite_text journal)
    fun event _ => AList.notMem_empty _]

/-- The fills table holds the first fill of every fill id. -/
theorem values_fills (journal : List (ExecutionEvent K)) :
    Dict.values (projections_of composite_text journal).fills
      = ((distinct_fills composite_text journal).map (fill_row composite_text)).reverse := by
  rw [fills_projections_of, Dict.values_foldl_insert _ _ _ _
    (distinct_fills_nodup composite_text journal) fun event _ => AList.notMem_empty _,
    Dict.values_empty, List.append_nil]

/-- The ids in the fills table are those of the fills of orders. -/
theorem mem_fills_projections_of (journal : List (ExecutionEvent K)) (id : String) :
    id ∈ (projections_of composite_text journal).fills
      ↔ ∃ event ∈ journal, is_order_fill event = true ∧ fill_id composite_text event = id := by
  rw [fills_projections_of, Dict.mem_foldl_insert, distinct_fills, mem_map_first_by,
    List.mem_map]
  simp only [AList.notMem_empty, or_false, List.mem_filter, and_assoc]

/-! ## Positions -/

theorem lookup_positions_table (ledger : FillLedger K) (last_event_id : Option ℕ)
    (symbol : String) :
    (positions_table ledger last_event_id).lookup symbol
      = (ledger.position_qty.lookup symbol).map (position_row ledger last_event_id symbol) :=
  Dict.lookup_foldl_entries _ _ _

/-- The loop keeps the net quantities as a tally over the first fills. -/
theorem net_position_tally [IsStrictOrderedRing K] (journal : List (ExecutionEvent K))
    (symbol : String) :
    net_position (projections_of composite_text journal) symbol
      = (((distinct_fills composite_text journal).filter fun event =>
          non_empty event.symbol = some symbol).map signed_fill).sum := by
  have htally : (project_events composite_text journal).ledger.position_qty
      = Dict.tally (fun event => non_empty event.symbol)
          (fun event => signed_quantity event.side event.qty)
          (distinct_fills composite_text journal) := by
    rw [(ledger_project_events composite_text journal).1]
    refine (List.foldl_hom FillLedger.position_qty fun ledger event => ?_).symm
    dsimp only [post_fill]
    cases non_empty event.symbol <;> rfl
  rw [net_position, projections_of, lookup_positions_table, Option.map_map]
  calc (((project_events composite_text journal).ledger.position_qty.lookup symbol).map
        fun net_qty => net_qty).getD 0
      = ((project_events composite_text journal).ledger.position_qty.lookup symbol).getD 0 := by
        rw [Option.map_id']
    _ = _ := by
        rw [htally, Dict.lookup_tally_getD]
        simp only [signed_quantity_eq]

/-- The net quantity of a symbol is the signed sum of the first fills of its
fill ids. -/
theorem net_position_projections_of [IsStrictOrderedRing K] (journal : List (ExecutionEvent K))
    {symbol : String} (hsymbol : symbol ≠ "") :
    net_position (projections_of composite_text journal) symbol
      = (((distinct_fills composite_text journal).filter fun event =>
          event.symbol = some symbol).map signed_fill).sum := by
  have hkey : ∀ event : ExecutionEvent K,
      non_empty event.symbol = some symbol ↔ event.symbol = some symbol := by
    intro event
    rw [non_empty, Option.filter_eq_some_iff, and_iff_left_iff_imp]
    intro _
    exact decide_eq_true hsymbol
  rw [net_position_tally]
  simp only [hkey]

/-- A fill without a symbol moves no position. -/
theorem net_position_no_symbol [IsStrictOrderedRing K] (journal : List (ExecutionEvent K)) :
    net_position (projections_of composite_text journal) "" = 0 := by
  have hnone : ∀ event : ExecutionEvent K, ¬ non_empty event.symbol = some "" := by
    intro event h
    exact of_decide_eq_true (Option.filter_eq_some_iff.mp h).2 rfl
  rw [net_position_tally, List.filter_eq_nil_iff.mpr fun event _ => by simpa using hnone event]
  rfl

/-! ## Filled quantities -/

/-- Between two rows of the journal, the filled quantity of every order is the
sum of its stored fills; the seen ids are those of the stored fills. -/
structure FilledMatches (st : RebuildState K) : Prop where
  stored : ∀ id, id ∈ st.ledger.fills → id ∈ st.ledger.seen_fill_ids
  filled : ∀ order_id_client,
    ((st.orders_live.lookup order_id_client).map OrderRow.filled_qty).getD 0
      = stored_fill_qty st.ledger.fills order_id_client

omit [LinearOrder K] in
theorem stored_fill_qty_insert {fills : Dict String (FillRow K)} {id : String}
    (hnew : id ∉ fills) (row : FillRow K) (order_id_client : String) :
    stored_fill_qty (fills.insert id row) order_id_client
      = (if row.order_id_client = some order_id_client then row.qty else 0)
          + stored_fill_qty fills order_id_client := by
  rw [stored_fill_qty, stored_fill_qty, Dict.values_insert_of_notMem _ hnew, List.filter_cons]
  by_cases hrow : row.order_id_client = some order_id_client
  · rw [if_pos (decide_eq_true hrow), if_pos hrow, List.map_cons, List.sum_cons]
  · rw [if_neg (by simpa using hrow), if_neg hrow, zero_add]

/-- Recording a fill adds it to its order, unless its id has been seen. -/
theorem stored_fill_qty_record_fill {st : RebuildState K} (hst : FilledMatches st)
    (event : ExecutionEvent K) (order_id_client : String) :
    stored_fill_qty (record_fill composite_text st.ledger event).fills order_id_client
      = (if fill_id composite_text event ∉ st.ledger.seen_fill_ids
            ∧ event.order_id_client = some order_id_client then fill_quantity event else 0)
          + stored_fill_qty st.ledger.fills order_id_client := by
  unfold record_fill
  by_cases hseen : fill_id composite_text event ∈ st.ledger.seen_fill_ids
  · rw [if_pos hseen, if_neg fun h => h.1 hseen, zero_add]
  · have hnew : fill_id composite_text event ∉ st.ledger.fills := fun h => hseen (hst.stored _ h)
    rw [if_neg hseen]
    dsimp only [post_fill]
    rw [Dict.insert_or_ignore, if_neg hnew, stored_fill_qty_insert hnew]
    simp only [hseen, not_false_eq_true, true_and]
    rfl

theorem FilledMatches.record_fill_stored {st : RebuildState K} (hst : FilledMatches st)
    (event : ExecutionEvent K) :
    ∀ id, id ∈ (record_fill composite_text st.ledger event).fills →
      id ∈ (record_fill composite_text st.ledger event).seen_fill_ids := by
  intro id hid
  unfold record_fill at hid ⊢
  split_ifs at hid ⊢ with hseen
  · exact hst.stored id hid
  · dsimp only [post_fill] at hid ⊢
    rw [Finset.mem_insert]
    unfold Dict.insert_or_ignore at hid
    split_ifs at hid
    · exact Or.inr (hst.stored id hid)
    · exact ((AList.mem_insert _).mp hid).imp_right (hst.stored id)

/-- An event of an order keeps the sums: its row takes over the filled quantity
of the row it replaces. -/
theorem FilledMatches.project_order {st : RebuildState K} (hst : FilledMatches st)
    {event : ExecutionEvent K} {order_id_client : String}
    (horder : event.order_id_client = some order_id_client) :
    FilledMatches (project_order composite_text st event order_id_client) := by
  constructor
  · dsimp only [Memory.project_order]
    split_ifs
    · exact hst.record_fill_stored composite_text event
    · exact hst.stored
  · intro other
    dsimp only [Memory.project_order]
    by_cases hother : other = order_id_client
    · subst hother
      rw [AList.lookup_insert, Option.map_some, Option.getD_some, hst.filled]
      -- the order's own row: a new fill raises both sides by its quantity
      by_cases hfill : event.event_type ∈ fill_event_types
      · rw [if_pos hfill, stored_fill_qty_record_fill composite_text hst, horder]
        by_cases hseen : fill_id composite_text event ∈ st.ledger.seen_fill_ids
        · simp [hseen]
        · simp [hseen, hfill, add_comm]
      · simp [hfill]
    · -- another order: neither its row nor its fills change
      rw [AList.lookup_insert_ne hother, hst.filled]
      split_ifs
      · rw [stored_fill_qty_record_fill composite_text hst, horder, if_neg, zero_add]
        rintro ⟨-, hsame⟩
        exact hother (Option.some.inj hsame).symm
      · rfl

theorem FilledMatches.project_event {st : RebuildState K} (hst : FilledMatches st)
    (event : ExecutionEvent K) : FilledMatches (project_event composite_text st event) := by
  have horder : FilledMatches (project_order_event composite_text st event) := by
    unfold project_order_event
    cases h : projected_order event with
    | none => exact hst
    | some order_id_client => exact hst.project_order composite_text (projected_order_eq_some h)
  unfold Memory.project_event
  split_ifs
  · exact ⟨horder.stored, horder.filled⟩
  · exact horder

theorem filledMatches_project_events (journal : List (ExecutionEvent K)) :
    FilledMatches (project_events composite_text journal) := by
  induction journal using List.reverseRecOn with
  | nil =>
      refine ⟨fun id hid => absurd hid (AList.notMem_empty id), fun _ => rfl⟩
  | append_singleton journal event ih =>
      rw [project_events, List.foldl_append]
      exact ih.project_event composite_text event

/-! ## Repeats -/

/-- A repeated fill id adds no first fill. -/
theorem distinct_fills_insert_repeat {before : List (ExecutionEvent K)}
    {event : ExecutionEvent K}
    (hrepeat : fill_id composite_text event
      ∈ (before.filter is_order_fill).map (fill_id composite_text))
    (after : List (ExecutionEvent K)) :
    distinct_fills composite_text (before ++ event :: after)
      = distinct_fills composite_text (before ++ after) := by
  rw [distinct_fills, distinct_fills, List.filter_append, List.filter_append, List.filter_cons]
  split_ifs
  · exact first_by_insert_repeat hrepeat _
  · rfl

/-- The holdings are a function of the ledger. -/
theorem holding_projections_of (journal : List (ExecutionEvent K)) (symbol : String) :
    holding (projections_of composite_text journal) symbol
      = ((project_events composite_text journal).ledger.position_qty.lookup symbol).map
          fun net_qty => (net_qty, (position_row (project_events composite_text journal).ledger
            none symbol net_qty).entry_price) := by
  rw [holding, projections_of, lookup_positions_table, Option.map_map]
  rfl

/-- The projections conserve the fills: filled quantities and positions add up
the stored fills, repeats change neither, and a second rebuild changes
nothing. -/
theorem rebuild_conserves_fills [IsStrictOrderedRing K]
    (projection_digest : Projections K → String) (now now' : String) (store : MemoryStore K) :
    let rebuild := fun now store =>
      (rebuild_execution_projections composite_text projection_digest now store).1
    let tables := (rebuild now store).projections
    (∀ order_id_client,
      order_filled_qty tables order_id_client = stored_fill_qty tables.fills order_id_client)
    ∧ (∀ symbol, symbol ≠ "" → net_position tables symbol
        = (((distinct_fills composite_text store.execution_events).filter fun event =>
            event.symbol = some symbol).map signed_fill).sum)
    ∧ (∀ before event after, store.execution_events = before ++ after →
        fill_id composite_text event
            ∈ (before.filter is_order_fill).map (fill_id composite_text) →
          let repeated := (rebuild now
            { store with execution_events := before ++ event :: after }).projections
          repeated.fills = tables.fills
            ∧ ∀ symbol, holding repeated symbol = holding tables symbol)
    ∧ (rebuild now' (rebuild now store)).projections = tables := by
  intro rebuild tables
  refine ⟨?_, ?_, ?_, rfl⟩
  · exact (filledMatches_project_events composite_text store.execution_events).filled
  · intro symbol hsymbol
    exact net_position_projections_of composite_text store.execution_events hsymbol
  · intro before event after hjournal hrepeat repeated
    have hledger : (project_events composite_text (before ++ event :: after)).ledger
        = (project_events composite_text store.execution_events).ledger := by
      rw [hjournal, (ledger_project_events composite_text _).1,
        (ledger_project_events composite_text _).1,
        distinct_fills_insert_repeat composite_text hrepeat]
    constructor
    · exact congrArg FillLedger.fills hledger
    · intro symbol
      change holding (projections_of composite_text (before ++ event :: after)) symbol
        = holding (projections_of composite_text store.execution_events) symbol
      rw [holding_projections_of, holding_projections_of, hledger]

/-! ## A buy and a sell -/

/-- A buy of 2 at 101. -/
def buy_fill (event_id : ℕ) (order_id_client : Option String) : ExecutionEvent ℚ :=
  { plain_event event_id "ORDER_PARTIAL_FILL" order_id_client with
    qty := some 2
    price := some 101
    status := some "PARTIALLY_FILLED"
    metadata := [("fill_id", .str "f1"), ("fee", .int 1)] }

/-- A sell of 1 at 102, of another order. -/
def sell_fill (event_id : ℕ) : ExecutionEvent ℚ :=
  { plain_event event_id "ORDER_FILL" (some "c2") with
    side := some "SELL"
    qty := some 1
    price := some 102
    status := some "FILLED"
    metadata := [("fill_id", .str "f2")] }

/-- The database with a journal and nothing rebuilt. -/
def journal_store (journal : List (ExecutionEvent ℚ)) : MemoryStore ℚ where
  execution_events := journal
  projections := ⟨∅, ∅, ∅, ∅⟩
  replay_checkpoints := ∅

theorem rebuild_conserves_fills_buy_sell :
    net_position (projections_of plain_text [buy_fill 1 (some "c1"), sell_fill 2]) "BTCUSDT" = 1
      ∧ stored_fill_qty (projections_of plain_text [buy_fill 1 (some "c1"), sell_fill 2]).fills
          "c1" = 2
      ∧ (projections_of plain_text
            [buy_fill 1 (some "c1"), sell_fill 2, buy_fill 3 (some "c1")]).fills
          = (projections_of plain_text [buy_fill 1 (some "c1"), sell_fill 2]).fills := by
  obtain ⟨hfilled, hnet, hrepeat, -⟩ := rebuild_conserves_fills plain_text (fun _ => "") "" ""
    (journal_store [buy_fill 1 (some "c1"), sell_fill 2])
  refine ⟨(hnet "BTCUSDT" (by decide)).trans (by decide +kernel),
    (hfilled "c1").symm.trans (by decide +kernel), ?_⟩
  exact (hrepeat [buy_fill 1 (some "c1"), sell_fill 2] (buy_fill 3 (some "c1")) [] rfl
    (by decide +kernel)).1

/-- A fill without client order id is not stored, so its repeat with one is. -/
theorem repeated_fill_stored :
    fill_id plain_text (buy_fill 2 (some "c1")) = fill_id plain_text (buy_fill 1 none)
      ∧ (Dict.values (projections_of plain_text [buy_fill 1 none]).fills).length = 0
      ∧ net_position (projections_of plain_text [buy_fill 1 none]) "BTCUSDT" = 0
      ∧ (Dict.values
          (projections_of plain_text [buy_fill 1 none, buy_fill 2 (some "c1")]).fills).length = 1
      ∧ net_position (projections_of plain_text [buy_fill 1 none, buy_fill 2 (some "c1")])
          "BTCUSDT" = 2 := by
  decide +kernel

end ProofAlpha.Memory
