/-
The phase-3 rebuild: `execution/reconciliation.py`, `_rebuild_phase3_once`.

It runs the rebuild of `memory/store.py` and then walks over the same journal
once more, for the fee, funding, pnl, cash and equity rows of the fills and the
account snapshots. The two walks tell fills apart from other events in different
ways; `phase3_fill_ids` says which fill ids reach the ledgers and which the
fills table.

`positions` and `risk_state` have columns here that the first rebuild leaves at
their default of 0. A row that repeats a primary key raises; the rebuild is then
`none`.
-/
import ProofAlpha.Memory.FillConservation

set_option autoImplicit false

namespace ProofAlpha.Execution

open ProofAlpha.Lib
open ProofAlpha.Memory hiding float_or_none

/-! ## Tables -/

/-- A row of `fee_ledger`. -/
structure FeeRow (K : Type) where
  ts_utc : String
  symbol : Option String
  order_id_client : Option String
  fee_quote : K
  fee_rate : Option K
  maker_taker : Option String
  source_event_id : ℕ

/-- A row of `funding_ledger`. -/
structure FundingRow (K : Type) where
  ts_utc : String
  symbol : Option String
  position_notional : Option K
  funding_rate : Option K
  funding_fee : K
  source_event_id : ℕ

/-- A row of `pnl_attribution`. -/
structure PnlRow (K : Type) where
  ts_utc : String
  symbol : Option String
  realized_strategy_pnl : K
  unrealized_pnl : K
  fees : K
  funding : K
  slippage : K
  transfers : K
  cash_balance_delta : K
  source_event_id : ℕ

/-- A row of `cash_ledger`. -/
structure CashRow (K : Type) where
  ts_utc : String
  account_id : String
  currency : String
  amount : K
  reason : String
  reference_id : String
  source_event_id : ℕ

/-- A row of `equity_snapshots`. -/
structure EquityRow (K : Type) where
  ts_utc : String
  account_id : String
  equity : K
  cash_balance : Option K
  unrealized_pnl : Option K
  realized_pnl : Option K
  source_event_id : ℕ

/-- A row of `position_snapshots`. -/
structure PositionSnapshotRow (K : Type) where
  ts_utc : String
  account_id : String
  symbol : String
  net_qty : K
  entry_price : Option K
  mark_price : Option K
  unrealized_pnl : K
  source_event_id : ℕ

/-- A row of `positions`, with all its columns. -/
structure AccountPositionRow (K : Type) extends PositionRow K where
  unrealized_pnl : K

/-- A row of `risk_state`, with all its columns. -/
structure AccountRiskRow (K : Type) extends RiskRow K where
  exposure : K
  margin_usage : K
  realized_pnl : K
  unrealized_pnl : K
  drawdown : K

/-- The tables that the second walk writes. -/
structure Phase3Tables (K : Type) where
  positions : Dict String (AccountPositionRow K)
  risk_state : Dict String (AccountRiskRow K)
  fee_ledger : List (FeeRow K)
  funding_ledger : List (FundingRow K)
  pnl_attribution : List (PnlRow K)
  cash_ledger : List (CashRow K)
  equity_snapshots : List (EquityRow K)
  position_snapshots : Dict String (PositionSnapshotRow K)

/-! ## Rows of an event -/

section Rows

variable {K : Type} [Field K] [LinearOrder K] (texts : PyTexts K)

/-- `_float_or_none(metadata.get(key))`. -/
def figure (metadata : JsonObject K) (key : String) : Option K :=
  float_or_none texts.parse_float (metadata.get key)

/-- `_float_or_zero(metadata.get(key))`. -/
def figure_or_zero (metadata : JsonObject K) (key : String) : K :=
  (figure texts metadata key).getD 0

/-- `str(metadata.get("account_id") or "account")`. -/
def account_of (metadata : JsonObject K) : String :=
  text_or texts.composite_text (metadata.get "account_id") "account"

/-- `_insert_fee_row`. -/
def fee_row (event : ExecutionEvent K) : Option (FeeRow K) :=
  (figure texts event.metadata "fee").map fun fee =>
    { ts_utc := event.ts_exchange
      symbol := event.symbol
      order_id_client := event.order_id_client
      fee_quote := fee
      fee_rate := figure texts event.metadata "fee_rate"
      maker_taker := text_or_none texts.composite_text (event.metadata.get "maker_taker")
      source_event_id := event.event_id }

/-- `_insert_funding_row`. -/
def funding_row (event : ExecutionEvent K) : Option (FundingRow K) :=
  (figure texts event.metadata "funding_fee").map fun funding_fee =>
    { ts_utc := event.ts_exchange
      symbol := event.symbol
      position_notional := figure texts event.metadata "position_notional"
      funding_rate := figure texts event.metadata "funding_rate"
      funding_fee := funding_fee
      source_event_id := event.event_id }

/-- The figures that make a row of `pnl_attribution`. -/
def pnl_figures (metadata : JsonObject K) : List K :=
  ["realized_pnl", "unrealized_pnl", "fee", "funding_fee", "slippage", "transfer",
    "cash_balance_delta"].map (figure_or_zero texts metadata)

/-- `_insert_pnl_row`. -/
def pnl_row (event : ExecutionEvent K) : Option (PnlRow K) :=
  if (pnl_figures texts event.metadata).any fun value => decide (1e-9 < |value|) then
    some
      { ts_utc := event.ts_exchange
        symbol := event.symbol
        realized_strategy_pnl := figure_or_zero texts event.metadata "realized_pnl"
        unrealized_pnl := figure_or_zero texts event.metadata "unrealized_pnl"
        fees := figure_or_zero texts event.metadata "fee"
        funding := figure_or_zero texts event.metadata "funding_fee"
        slippage := figure_or_zero texts event.metadata "slippage"
        transfers := figure_or_zero texts event.metadata "transfer"
        cash_balance_delta := figure_or_zero texts event.metadata "cash_balance_delta"
        source_event_id := event.event_id }
  else none

/-- `_insert_cash_row`. -/
def cash_row (event : ExecutionEvent K) : Option (CashRow K) :=
  (figure texts event.metadata "cash_balance_delta").map fun cash_delta =>
    { ts_utc := event.ts_exchange
      account_id := account_of texts event.metadata
      currency := text_or texts.composite_text (event.metadata.get "currency") "USDT"
      amount := cash_delta
      reason := text_or texts.composite_text (event.metadata.get "cash_reason") "execution_fill"
      reference_id := fill_id texts.composite_text event
      source_event_id := event.event_id }

/-- `_insert_equity_row`. -/
def equity_row (event : ExecutionEvent K) : Option (EquityRow K) :=
  (figure texts event.metadata "equity").map fun equity =>
    { ts_utc := event.ts_exchange
      account_id := account_of texts event.metadata
      equity := equity
      cash_balance := figure texts event.metadata "cash_balance"
      unrealized_pnl := figure texts event.metadata "unrealized_pnl"
      realized_pnl := figure texts event.metadata "realized_pnl"
      source_event_id := event.event_id }

/-- `_upsert_account_risk_state`. -/
def upsert_account_risk_state (risk_state : Dict String (AccountRiskRow K))
    (event : ExecutionEvent K) : Dict String (AccountRiskRow K) :=
  if ["exposure", "margin_usage", "realized_pnl", "unrealized_pnl", "drawdown"].any fun key =>
      (List.lookup key event.metadata).isSome then
    risk_state.insert "account"
      { last_event_id := event.event_id
        metadata := [("source_event_id", .int event.event_id)]
        exposure := figure_or_zero texts event.metadata "exposure"
        margin_usage := figure_or_zero texts event.metadata "margin_usage"
        realized_pnl := figure_or_zero texts event.metadata "realized_pnl"
        unrealized_pnl := figure_or_zero texts event.metadata "unrealized_pnl"
        drawdown := figure_or_zero texts event.metadata "drawdown" }
  else risk_state

/-- The positions that an account snapshot lists and that have a symbol. -/
def listed_positions (metadata : JsonObject K) : List (JsonObject K) :=
  match metadata.get_or "positions" (.list []) with
  | .list items => items.filterMap fun item =>
      match item with
      | .dict position => if truthy (JsonObject.get position "symbol") then some position else none
      | _ => none
  | _ => []

/-- One position of an account snapshot. -/
def upsert_position_snapshot (event : ExecutionEvent K) (tables : Phase3Tables K)
    (position : JsonObject K) : Option (Phase3Tables K) :=
  let symbol := py_str texts.composite_text (position.get "symbol")
  let snapshot_id := "phase3:" ++ toString event.event_id ++ ":" ++ symbol
  if snapshot_id ∈ tables.position_snapshots then none
  else
    some
      { tables with
        position_snapshots := tables.position_snapshots.insert snapshot_id
          { ts_utc := event.ts_exchange
            account_id := account_of texts event.metadata
            symbol := symbol
            net_qty := figure_or_zero texts position "net_qty"
            entry_price := figure texts position "entry_price"
            mark_price := figure texts position "mark_price"
            unrealized_pnl := figure_or_zero texts position "unrealized_pnl"
            source_event_id := event.event_id }
        positions := tables.positions.insert symbol
          { net_qty := figure_or_zero texts position "net_qty"
            entry_price := figure texts position "entry_price"
            last_event_id := some event.event_id
            metadata := [("source", .str "phase3_position_reconcile"),
              ("source_event_id", .int event.event_id)]
            unrealized_pnl := figure_or_zero texts position "unrealized_pnl" } }

/-- `_upsert_position_snapshots`. -/
def upsert_position_snapshots (tables : Phase3Tables K) (event : ExecutionEvent K) :
    Option (Phase3Tables K) :=
  (listed_positions event.metadata).foldlM (upsert_position_snapshot texts event) tables

end Rows

/-! ## The walk -/

/-- What the walk carries. -/
structure Phase3State (K : Type) where
  seen_fill_ids : Finset String
  tables : Phase3Tables K

section Walk

variable {K : Type} [Field K] [LinearOrder K] (texts : PyTexts K)

/-- The tables before the walk: what the first rebuild has left, and empty
ledgers. -/
def Phase3Tables.cleared (projections : Projections K) : Phase3Tables K where
  positions := projections.positions.entries.foldl
    (fun table item => table.insert item.1 { item.2 with unrealized_pnl := 0 }) ∅
  risk_state := projections.risk_state.entries.foldl
    (fun table item => table.insert item.1
      { item.2 with
        exposure := 0
        margin_usage := 0
        realized_pnl := 0
        unrealized_pnl := 0
        drawdown := 0 }) ∅
  fee_ledger := []
  funding_ledger := []
  pnl_attribution := []
  cash_ledger := []
  equity_snapshots := []
  position_snapshots := ∅

/-- The rows of a fill with a new id. -/
def post_phase3_fill (st : Phase3State K) (event : ExecutionEvent K) : Phase3State K where
  seen_fill_ids := insert (fill_id texts.composite_text event) st.seen_fill_ids
  tables :=
    { st.tables with
      fee_ledger := st.tables.fee_ledger ++ (fee_row texts event).toList
      funding_ledger := st.tables.funding_ledger ++ (funding_row texts event).toList
      pnl_attribution := st.tables.pnl_attribution ++ (pnl_row texts event).toList
      cash_ledger := st.tables.cash_ledger ++ (cash_row texts event).toList
      equity_snapshots := st.tables.equity_snapshots ++ (equity_row texts event).toList }

/-- An account snapshot. -/
def post_account_snapshot (st : Phase3State K) (event : ExecutionEvent K) :
    Option (Phase3State K) :=
  let tables :=
    { st.tables with
      risk_state := upsert_account_risk_state texts st.tables.risk_state event
      equity_snapshots := st.tables.equity_snapshots ++ (equity_row texts event).toList }
  (upsert_position_snapshots texts tables event).map fun tables => { st with tables := tables }

/-- A row of the journal. -/
def phase3_event (st : Phase3State K) (event : ExecutionEvent K) : Option (Phase3State K) :=
  if event.event_type ∈ fill_event_types then
    if fill_id texts.composite_text event ∈ st.seen_fill_ids then some st
    else some (post_phase3_fill texts st event)
  else if event.event_type ∈ ["POSITION_RECONCILE", "ACCOUNT_SNAPSHOT"] then
    post_account_snapshot texts st event
  else some st

/-- The walk over the journal. -/
def phase3_tables (journal : List (ExecutionEvent K)) : Option (Phase3Tables K) :=
  (journal.foldlM (phase3_event texts)
    { seen_fill_ids := ∅
      tables := Phase3Tables.cleared (projections_of texts.composite_text journal) }).map
    Phase3State.tables

/-- What the rebuild returns. -/
structure Phase3Summary extends RebuildSummary where
  phase3_projection_digest : String
  fee_rows : ℕ
  funding_rows : ℕ
  pnl_rows : ℕ
  cash_rows : ℕ
  equity_rows : ℕ
  position_snapshot_rows : ℕ

/-- The digests and the clock of the rebuild. -/
structure Phase3Env (K : Type) where
  projection_digest : Projections K → String
  phase3_digest : Projections K → Phase3Tables K → String
  now : String

/-- `_rebuild_phase3_once`. -/
def rebuild_phase3_once (env : Phase3Env K) (store : MemoryStore K) :
    Option (MemoryStore K × Phase3Tables K × Phase3Summary) :=
  let base := rebuild_execution_projections texts.composite_text env.projection_digest env.now store
  (phase3_tables texts store.execution_events).map fun tables =>
    let digest := env.phase3_digest base.1.projections tables
    ({ base.1 with
        replay_checkpoints := base.1.replay_checkpoints.insert
          ("phase3:" ++ toString base.2.last_event_id)
          { created_at_utc := env.now
            last_event_id := base.2.last_event_id
            projection_digest := digest
            event_count := base.2.event_count } },
      tables,
      { base.2 with
        phase3_projection_digest := digest
        fee_rows := tables.fee_ledger.length
        funding_rows := tables.funding_ledger.length
        pnl_rows := tables.pnl_attribution.length
        cash_rows := tables.cash_ledger.length
        equity_rows := tables.equity_snapshots.length
        position_snapshot_rows := (Dict.values tables.position_snapshots).length })

end Walk

/-! ## Which fills reach the ledgers -/

section FillIds

variable {K : Type} [Field K] [LinearOrder K] (texts : PyTexts K)

/-- The fills of a journal, with or without a client order id. -/
def fill_events (journal : List (ExecutionEvent K)) : List (ExecutionEvent K) :=
  journal.filter fun event => event.event_type ∈ fill_event_types

/-- The first fill of every fill id. -/
def first_fill_events (journal : List (ExecutionEvent K)) : List (ExecutionEvent K) :=
  first_by (fill_id texts.composite_text) (fill_events journal)

/-- A fill that makes a fee, a pnl or a cash row: it carries a fee or a cash
balance delta, or one of its pnl figures is not within 1e-9 of 0. -/
def CarriesFigure (event : ExecutionEvent K) : Prop :=
  (fee_row texts event).isSome ∨ (pnl_row texts event).isSome ∨ (cash_row texts event).isSome

/-- A fill id that contributes a fee, a pnl or a cash row. -/
def ContributesRow (journal : List (ExecutionEvent K)) (tables : Phase3Tables K) (id : String) :
    Prop :=
  ∃ event ∈ journal, fill_id texts.composite_text event = id
    ∧ (event.event_id ∈ tables.fee_ledger.map FeeRow.source_event_id
      ∨ event.event_id ∈ tables.pnl_attribution.map PnlRow.source_event_id
      ∨ event.event_id ∈ tables.cash_ledger.map CashRow.source_event_id)

/-- What the walk has read of a beginning of the journal. -/
structure Walked (st : Phase3State K) (journal : List (ExecutionEvent K)) : Prop where
  seen : ∀ id, id ∈ st.seen_fill_ids
    ↔ id ∈ (fill_events journal).map (fill_id texts.composite_text)
  fees : st.tables.fee_ledger = (first_fill_events texts journal).filterMap (fee_row texts)
  funding : st.tables.funding_ledger
    = (first_fill_events texts journal).filterMap (funding_row texts)
  pnl : st.tables.pnl_attribution = (first_fill_events texts journal).filterMap (pnl_row texts)
  cash : st.tables.cash_ledger = (first_fill_events texts journal).filterMap (cash_row texts)

omit [Field K] [LinearOrder K] in
theorem fill_events_concat (journal : List (ExecutionEvent K)) (event : ExecutionEvent K) :
    fill_events (journal ++ [event])
      = fill_events journal ++ if event.event_type ∈ fill_event_types then [event] else [] := by
  rw [fill_events, List.filter_append, List.filter_singleton, ← fill_events]
  by_cases hfill : event.event_type ∈ fill_event_types
  · rw [decide_eq_true hfill, if_pos hfill]
    rfl
  · rw [decide_eq_false hfill, if_neg hfill]
    rfl

/-- The position snapshots touch no ledger. -/
theorem upsert_position_snapshots_frame {event : ExecutionEvent K}
    {tables tables' : Phase3Tables K}
    (h : upsert_position_snapshots texts tables event = some tables') :
    tables'.fee_ledger = tables.fee_ledger ∧ tables'.funding_ledger = tables.funding_ledger
      ∧ tables'.pnl_attribution = tables.pnl_attribution
      ∧ tables'.cash_ledger = tables.cash_ledger
      ∧ tables'.equity_snapshots = tables.equity_snapshots
      ∧ tables'.risk_state = tables.risk_state := by
  unfold upsert_position_snapshots at h
  generalize listed_positions event.metadata = positions at h
  induction positions generalizing tables with
  | nil =>
      rw [List.foldlM_nil] at h
      cases h
      exact ⟨rfl, rfl, rfl, rfl, rfl, rfl⟩
  | cons position rest ih =>
      rw [List.foldlM_cons] at h
      obtain ⟨next, hnext, hrest⟩ := Option.bind_eq_some_iff.mp h
      unfold upsert_position_snapshot at hnext
      dsimp only at hnext
      split_ifs at hnext
      cases hnext
      have hframe := ih hrest
      exact hframe

/-- A row of the journal that is no fill. -/
theorem Walked.of_no_fill {st st' : Phase3State K} {journal : List (ExecutionEvent K)}
    (hst : Walked texts st journal) {event : ExecutionEvent K}
    (hevent : event.event_type ∉ fill_event_types)
    (h : phase3_event texts st event = some st') : Walked texts st' (journal ++ [event]) := by
  have hfills : fill_events (journal ++ [event]) = fill_events journal := by
    rw [fill_events_concat, if_neg hevent, List.append_nil]
  have hfirst : first_fill_events texts (journal ++ [event]) = first_fill_events texts journal := by
    rw [first_fill_events, hfills]
    rfl
  have hframe : st'.seen_fill_ids = st.seen_fill_ids
      ∧ st'.tables.fee_ledger = st.tables.fee_ledger
      ∧ st'.tables.funding_ledger = st.tables.funding_ledger
      ∧ st'.tables.pnl_attribution = st.tables.pnl_attribution
      ∧ st'.tables.cash_ledger = st.tables.cash_ledger := by
    rw [phase3_event, if_neg hevent] at h
    split_ifs at h
    · obtain ⟨tables, htables, rfl⟩ := Option.map_eq_some_iff.mp h
      obtain ⟨hfees, hfunding, hpnl, hcash, -, -⟩ := upsert_position_snapshots_frame texts htables
      exact ⟨rfl, hfees, hfunding, hpnl, hcash⟩
    · cases h
      exact ⟨rfl, rfl, rfl, rfl, rfl⟩
  obtain ⟨hseen, hfees, hfunding, hpnl, hcash⟩ := hframe
  constructor
  · rw [hseen, hfills]
    exact hst.seen
  · rw [hfees, hfirst, hst.fees]
  · rw [hfunding, hfirst, hst.funding]
  · rw [hpnl, hfirst, hst.pnl]
  · rw [hcash, hfirst, hst.cash]

/-- A fill is a first one if its id is new. -/
theorem first_fill_events_concat (journal : List (ExecutionEvent K)) {event : ExecutionEvent K}
    (hevent : event.event_type ∈ fill_event_types) :
    first_fill_events texts (journal ++ [event])
      = first_fill_events texts journal
        ++ if fill_id texts.composite_text event
            ∈ (fill_events journal).map (fill_id texts.composite_text) then [] else [event] := by
  rw [first_fill_events, fill_events_concat, if_pos hevent, first_by_concat]
  rfl

theorem mem_fill_ids_concat {journal : List (ExecutionEvent K)} {event : ExecutionEvent K}
    (hevent : event.event_type ∈ fill_event_types) (id : String) :
    id ∈ (fill_events (journal ++ [event])).map (fill_id texts.composite_text)
      ↔ id = fill_id texts.composite_text event
        ∨ id ∈ (fill_events journal).map (fill_id texts.composite_text) := by
  rw [fill_events_concat, if_pos hevent, List.map_append, List.mem_append, List.map_singleton,
    List.mem_singleton, or_comm]

/-- A fill with an id that was seen before. -/
theorem Walked.of_repeat {st : Phase3State K} {journal : List (ExecutionEvent K)}
    (hst : Walked texts st journal) {event : ExecutionEvent K}
    (hevent : event.event_type ∈ fill_event_types)
    (hseen : fill_id texts.composite_text event ∈ st.seen_fill_ids) :
    Walked texts st (journal ++ [event]) := by
  have hrepeat := (hst.seen _).mp hseen
  have hfirst := first_fill_events_concat texts journal hevent
  rw [if_pos hrepeat, List.append_nil] at hfirst
  refine ⟨fun id => ?_, ?_, ?_, ?_, ?_⟩
  · rw [mem_fill_ids_concat texts hevent, hst.seen, iff_or_self]
    rintro rfl
    exact hrepeat
  · rw [hfirst, hst.fees]
  · rw [hfirst, hst.funding]
  · rw [hfirst, hst.pnl]
  · rw [hfirst, hst.cash]

/-- A fill. -/
theorem Walked.of_fill {st st' : Phase3State K} {journal : List (ExecutionEvent K)}
    (hst : Walked texts st journal) {event : ExecutionEvent K}
    (hevent : event.event_type ∈ fill_event_types)
    (h : phase3_event texts st event = some st') : Walked texts st' (journal ++ [event]) := by
  rw [phase3_event, if_pos hevent] at h
  split_ifs at h with hseen
  · cases h
    exact hst.of_repeat texts hevent hseen
  · -- a new id
    cases h
    have hfirst := first_fill_events_concat texts journal hevent
    rw [if_neg fun hrepeat => hseen ((hst.seen _).mpr hrepeat)] at hfirst
    have hrows : ∀ {ρ : Type} (row : ExecutionEvent K → Option ρ),
        (first_fill_events texts (journal ++ [event])).filterMap row
          = (first_fill_events texts journal).filterMap row ++ (row event).toList := by
      intro ρ row
      rw [hfirst, List.filterMap_append]
      cases hrow : row event with
      | none => simp [hrow]
      | some value => simp [hrow]
    refine ⟨fun id => ?_, ?_, ?_, ?_, ?_⟩
    · rw [mem_fill_ids_concat texts hevent, ← hst.seen]
      exact Finset.mem_insert
    · rw [hrows, ← hst.fees]
      rfl
    · rw [hrows, ← hst.funding]
      rfl
    · rw [hrows, ← hst.pnl]
      rfl
    · rw [hrows, ← hst.cash]
      rfl

/-- The walk over the whole journal. -/
theorem walked_of_foldlM {start st : Phase3State K} (hstart : Walked texts start [])
    {journal : List (ExecutionEvent K)}
    (h : journal.foldlM (phase3_event texts) start = some st) : Walked texts st journal := by
  induction journal using List.reverseRecOn generalizing st with
  | nil =>
      rw [List.foldlM_nil] at h
      cases h
      exact hstart
  | append_singleton journal event ih =>
      rw [List.foldlM_append] at h
      obtain ⟨before, hbefore, hevent⟩ := Option.bind_eq_some_iff.mp h
      rw [List.foldlM_cons] at hevent
      have hstep : phase3_event texts before event = some st := by
        obtain ⟨after, hafter, hsame⟩ := Option.bind_eq_some_iff.mp hevent
        rw [hafter]
        exact hsame
      by_cases hfill : event.event_type ∈ fill_event_types
      · exact (ih hbefore).of_fill texts hfill hstep
      · exact (ih hbefore).of_no_fill texts hfill hstep

/-- The walk, from the cleared tables. -/
theorem walked_phase3_tables {journal : List (ExecutionEvent K)} {tables : Phase3Tables K}
    (h : phase3_tables texts journal = some tables) :
    ∃ st, st.tables = tables ∧ Walked texts st journal := by
  obtain ⟨st, hst, rfl⟩ := Option.map_eq_some_iff.mp h
  exact ⟨st, rfl, walked_of_foldlM texts ⟨by simp [fill_events], rfl, rfl, rfl, rfl⟩ hst⟩

/-- The rows of a ledger name the first fills that have one. -/
theorem mem_source_event_ids {ρ : Type} {row : ExecutionEvent K → Option ρ}
    {source_event_id : ρ → ℕ}
    (hsource : ∀ event value, row event = some value → source_event_id value = event.event_id)
    {journal : List (ExecutionEvent K)} (hkeys : (journal.map fun event => event.event_id).Nodup)
    {event : ExecutionEvent K} (hevent : event ∈ journal) :
    event.event_id ∈ ((first_fill_events texts journal).filterMap row).map source_event_id
      ↔ event ∈ first_fill_events texts journal ∧ (row event).isSome := by
  constructor
  · intro h
    obtain ⟨value, hvalue, hid⟩ := List.mem_map.mp h
    obtain ⟨source, hmem, hrow⟩ := List.mem_filterMap.mp hvalue
    -- the event id is a key, so the row comes from this event
    have hsame : source = event := by
      refine List.inj_on_of_nodup_map hkeys ?_ hevent ((hsource _ _ hrow).symm.trans hid)
      exact (List.mem_filter.mp (mem_of_mem_first_by hmem)).1
    subst hsame
    exact ⟨hmem, Option.isSome_iff_exists.mpr ⟨value, hrow⟩⟩
  · rintro ⟨hmem, hsome⟩
    obtain ⟨value, hrow⟩ := Option.isSome_iff_exists.mp hsome
    exact List.mem_map.mpr
      ⟨value, List.mem_filterMap.mpr ⟨event, hmem, hrow⟩, hsource _ _ hrow⟩

/-- The fill ids that contribute a row are those whose first fill carries a
figure. -/
theorem contributesRow_iff {journal : List (ExecutionEvent K)} {tables : Phase3Tables K}
    (hkeys : (journal.map fun event => event.event_id).Nodup)
    (h : phase3_tables texts journal = some tables) (id : String) :
    ContributesRow texts journal tables id
      ↔ ∃ event ∈ first_fill_events texts journal,
          fill_id texts.composite_text event = id ∧ CarriesFigure texts event := by
  obtain ⟨st, rfl, hst⟩ := walked_phase3_tables texts h
  have hfee : ∀ (event : ExecutionEvent K) value, fee_row texts event = some value →
      value.source_event_id = event.event_id := by
    intro event value hrow
    obtain ⟨fee, -, rfl⟩ := Option.map_eq_some_iff.mp hrow
    rfl
  have hpnl : ∀ (event : ExecutionEvent K) value, pnl_row texts event = some value →
      value.source_event_id = event.event_id := by
    intro event value hrow
    unfold pnl_row at hrow
    split_ifs at hrow
    cases hrow
    rfl
  have hcash : ∀ (event : ExecutionEvent K) value, cash_row texts event = some value →
      value.source_event_id = event.event_id := by
    intro event value hrow
    obtain ⟨cash_delta, -, rfl⟩ := Option.map_eq_some_iff.mp hrow
    rfl
  have hrows : ∀ event ∈ journal,
      (event.event_id ∈ st.tables.fee_ledger.map FeeRow.source_event_id
        ∨ event.event_id ∈ st.tables.pnl_attribution.map PnlRow.source_event_id
        ∨ event.event_id ∈ st.tables.cash_ledger.map CashRow.source_event_id)
      ↔ event ∈ first_fill_events texts journal ∧ CarriesFigure texts event := by
    intro event hevent
    rw [hst.fees, hst.pnl, hst.cash, mem_source_event_ids texts hfee hkeys hevent,
      mem_source_event_ids texts hpnl hkeys hevent, mem_source_event_ids texts hcash hkeys hevent,
      CarriesFigure]
    tauto
  constructor
  · rintro ⟨event, hevent, hid, hcontributes⟩
    obtain ⟨hfirst, hcarries⟩ := (hrows event hevent).mp hcontributes
    exact ⟨event, hfirst, hid, hcarries⟩
  · rintro ⟨event, hfirst, hid, hcarries⟩
    have hevent : event ∈ journal := (List.mem_filter.mp (mem_of_mem_first_by hfirst)).1
    exact ⟨event, hevent, hid, (hrows event hevent).mpr ⟨hfirst, hcarries⟩⟩

/-- A stored fill has the id of a first fill. -/
theorem exists_first_fill {journal : List (ExecutionEvent K)} {other : ExecutionEvent K}
    (hother : other ∈ journal) (hfill : is_order_fill other = true) :
    ∃ event ∈ first_fill_events texts journal,
      fill_id texts.composite_text event = fill_id texts.composite_text other := by
  have hmem : fill_id texts.composite_text other
      ∈ (fill_events journal).map (fill_id texts.composite_text) := by
    refine List.mem_map.mpr ⟨other, List.mem_filter.mpr ⟨hother, ?_⟩, rfl⟩
    exact (Bool.and_eq_true_iff.mp hfill).1
  rw [← mem_map_first_by] at hmem
  exact List.mem_map.mp hmem

/-- A fill id reaches the ledgers if its first fill carries a figure, and the
fills table if some fill with it has a client order id; so the two are built from
the same fill ids if and only if these conditions agree on every fill id. -/
theorem phase3_fill_ids (env : Phase3Env K) {store store' : MemoryStore K}
    {tables : Phase3Tables K} {summary : Phase3Summary}
    (hkeys : (store.execution_events.map fun event => event.event_id).Nodup)
    (h : rebuild_phase3_once texts env store = some (store', tables, summary)) :
    (∀ id, ContributesRow texts store.execution_events tables id
        ↔ ∃ event ∈ first_fill_events texts store.execution_events,
            fill_id texts.composite_text event = id ∧ CarriesFigure texts event)
      ∧ (∀ id, id ∈ store'.projections.fills
        ↔ ∃ event ∈ store.execution_events,
            is_order_fill event = true ∧ fill_id texts.composite_text event = id)
      ∧ ((∀ id, ContributesRow texts store.execution_events tables id
            ↔ id ∈ store'.projections.fills)
        ↔ ∀ event ∈ first_fill_events texts store.execution_events,
            (CarriesFigure texts event ↔ ∃ other ∈ store.execution_events,
              is_order_fill other = true
                ∧ fill_id texts.composite_text other = fill_id texts.composite_text event)) := by
  obtain ⟨tables', htables, heq⟩ := Option.map_eq_some_iff.mp h
  cases heq
  have hcontributes := contributesRow_iff texts hkeys htables
  have hstored : ∀ id, id ∈ (projections_of texts.composite_text store.execution_events).fills
      ↔ ∃ event ∈ store.execution_events,
          is_order_fill event = true ∧ fill_id texts.composite_text event = id :=
    mem_fills_projections_of texts.composite_text store.execution_events
  have hnodup := map_first_by_nodup (fill_id texts.composite_text)
    (fill_events store.execution_events)
  refine ⟨hcontributes, hstored, ?_⟩
  constructor
  · intro hsame event hevent
    have hid := (hsame (fill_id texts.composite_text event)).trans (hstored _)
    rw [hcontributes] at hid
    rw [← hid]
    constructor
    · intro hcarries
      exact ⟨event, hevent, rfl, hcarries⟩
    · rintro ⟨first, hfirst, hsameId, hcarries⟩
      -- the first fills have different ids
      have hfirst' : first = event := List.inj_on_of_nodup_map hnodup hfirst hevent hsameId
      exact hfirst' ▸ hcarries
  · intro hagree id
    rw [hcontributes]
    refine Iff.trans ?_ (hstored id).symm
    constructor
    · rintro ⟨event, hevent, rfl, hcarries⟩
      exact (hagree event hevent).mp hcarries
    · rintro ⟨other, hother, hfill, rfl⟩
      obtain ⟨event, hevent, hid⟩ := exists_first_fill texts hother hfill
      exact ⟨event, hevent, hid, (hagree event hevent).mpr ⟨other, hother, hfill, hid.symm⟩⟩

end FillIds

/-! ## A fill with a fee, and two that reach one side only -/

/-- Digests that say nothing. -/
def plain_env : Phase3Env ℚ where
  projection_digest := fun _ => ""
  phase3_digest := fun _ _ => ""
  now := ""

theorem phase3_fill_ids_with_fee :
    ∃ store' tables summary,
      rebuild_phase3_once plain_texts plain_env (journal_store [buy_fill 1 (some "c1")])
          = some (store', tables, summary)
        ∧ ∀ id, ContributesRow plain_texts [buy_fill 1 (some "c1")] tables id
          ↔ id ∈ store'.projections.fills := by
  have hsome : (rebuild_phase3_once plain_texts plain_env
      (journal_store [buy_fill 1 (some "c1")])).isSome = true := by
    decide +kernel
  obtain ⟨⟨store', tables, summary⟩, h⟩ := Option.isSome_iff_exists.mp hsome
  refine ⟨store', tables, summary, h, ?_⟩
  refine (phase3_fill_ids plain_texts plain_env (by decide) h).2.2.mpr fun event hevent => ?_
  have hfee : event = buy_fill 1 (some "c1") := List.mem_singleton.mp hevent
  subst hfee
  exact iff_of_true (Or.inl (by decide +kernel))
    ⟨buy_fill 1 (some "c1"), List.mem_singleton_self _, by decide +kernel, rfl⟩

/-- A fill without a client order id reaches the ledgers and not the fills table;
a fill without figures reaches the fills table and not the ledgers. -/
theorem phase3_fill_ids_differ :
    ∃ store' tables summary,
      rebuild_phase3_once plain_texts plain_env (journal_store [buy_fill 1 none, sell_fill 2])
          = some (store', tables, summary)
        ∧ (ContributesRow plain_texts [buy_fill 1 none, sell_fill 2] tables "f1"
          ∧ "f1" ∉ store'.projections.fills)
        ∧ ("f2" ∈ store'.projections.fills
          ∧ ¬ ContributesRow plain_texts [buy_fill 1 none, sell_fill 2] tables "f2") := by
  have hrun : (rebuild_phase3_once plain_texts plain_env
      (journal_store [buy_fill 1 none, sell_fill 2])).map (fun result =>
        (result.1.projections.fills.keys, result.2.1.fee_ledger.map FeeRow.source_event_id,
          result.2.1.pnl_attribution.map PnlRow.source_event_id,
          result.2.1.cash_ledger.map CashRow.source_event_id)) = some (["f2"], [1], [1], []) := by
    decide +kernel
  obtain ⟨⟨store', tables, summary⟩, h, hvalues⟩ := Option.map_eq_some_iff.mp hrun
  simp only [Prod.mk.injEq] at hvalues
  obtain ⟨hfills, hfee, hpnl, hcash⟩ := hvalues
  refine ⟨store', tables, summary, h, ⟨?_, ?_⟩, ?_, ?_⟩
  · exact ⟨buy_fill 1 none, List.mem_cons_self .., by decide +kernel,
      Or.inl (by rw [hfee]; decide)⟩
  · rw [AList.mem_keys, hfills]
    decide
  · rw [AList.mem_keys, hfills]
    decide
  · rintro ⟨event, hevent, hid, hcontributes⟩
    rw [hfee, hpnl, hcash] at hcontributes
    rcases List.mem_pair.mp hevent with rfl | rfl
    · exact absurd hid (by decide +kernel)
    · revert hcontributes
      decide

end ProofAlpha.Execution
