/-
The entry price of a position.

The rebuild keeps a net quantity and a net cost for each symbol and shows the one
over the other. Trades against the position are booked into the cost at their own
price, so this is the average price of the opening fills only as long as every
fill against the position is made at that average (`cost_eq_average`). What the
average itself does is `Lib.AverageCost`.
-/
import ProofAlpha.Lib.AverageCost
import ProofAlpha.Memory.FillConservation

set_option autoImplicit false

namespace ProofAlpha.Memory

open ProofAlpha.Lib

variable {K : Type} [Field K] [LinearOrder K] (composite_text : JsonValue K → String)

/-- The entry price that `positions` shows. -/
def entry_price (tables : Projections K) (symbol : String) : Option K :=
  (tables.positions.lookup symbol).bind PositionRow.entry_price

/-- The counted fills of a symbol. -/
def symbol_fills (journal : List (ExecutionEvent K)) (symbol : String) :
    List (ExecutionEvent K) :=
  (distinct_fills composite_text journal).filter fun event =>
    non_empty event.symbol = some symbol

/-- A fill as a trade; one without a price is booked at zero. -/
def fill_trade (event : ExecutionEvent K) : Trade K where
  qty := signed_fill event
  price := event.price.getD 0

/-- Every counted fill of a symbol has a price, and not a negative one. -/
def PricedFills (journal : List (ExecutionEvent K)) (symbol : String) : Prop :=
  ∀ fill ∈ symbol_fills composite_text journal symbol, ∃ price, fill.price = some price ∧ 0 ≤ price

/-- Every counted fill of a symbol that goes against the open position is made at
the average price at which the position was opened. -/
def CounterFillsAtAverage (journal : List (ExecutionEvent K)) (symbol : String) : Prop :=
  CountersAtAverage ((symbol_fills composite_text journal symbol).map fill_trade)

/-! ## Prefixes of the journal -/

/-- What is counted of a journal begins with what is counted of its beginning. -/
theorem symbol_fills_append (before after : List (ExecutionEvent K)) (symbol : String) :
    ∃ later, symbol_fills composite_text (before ++ after) symbol
      = symbol_fills composite_text before symbol ++ later := by
  rw [symbol_fills, distinct_fills, List.filter_append, first_by_append, List.filter_append]
  exact ⟨_, rfl⟩

/-- One more event is counted as it stands, or the journal's fills stay. -/
theorem symbol_fills_concat (journal : List (ExecutionEvent K)) (event : ExecutionEvent K)
    (symbol : String) :
    symbol_fills composite_text (journal ++ [event]) symbol
        = symbol_fills composite_text journal symbol
      ∨ symbol_fills composite_text (journal ++ [event]) symbol
        = symbol_fills composite_text journal symbol ++ [event] := by
  rw [symbol_fills, symbol_fills, distinct_fills, distinct_fills, List.filter_append,
    List.filter_singleton]
  by_cases hfill : is_order_fill event = true
  · rw [hfill, cond_true, first_by_concat, List.filter_append]
    -- a fill id that has been seen is not counted again
    split_ifs
    · exact Or.inl (List.append_nil _)
    · rw [List.filter_singleton]
      cases decide (non_empty event.symbol = some symbol)
      · exact Or.inl (List.append_nil _)
      · exact Or.inr rfl
  · rw [Bool.eq_false_iff.mpr hfill, cond_false, List.append_nil]
    exact Or.inl rfl

theorem PricedFills.before {before after : List (ExecutionEvent K)} {symbol : String}
    (h : PricedFills composite_text (before ++ after) symbol) :
    PricedFills composite_text before symbol := by
  obtain ⟨later, hlater⟩ := symbol_fills_append composite_text before after symbol
  intro fill hfill
  exact h fill (by rw [hlater]; exact List.mem_append_left _ hfill)

theorem CounterFillsAtAverage.before {before after : List (ExecutionEvent K)} {symbol : String}
    (h : CounterFillsAtAverage composite_text (before ++ after) symbol) :
    CounterFillsAtAverage composite_text before symbol := by
  obtain ⟨later, hlater⟩ := symbol_fills_append composite_text before after symbol
  rw [CounterFillsAtAverage, hlater, List.map_append] at h
  exact h.append_left

/-! ## The code's entry price -/

variable [IsStrictOrderedRing K]

/-- The average-cost position of a symbol. -/
def symbol_lot (journal : List (ExecutionEvent K)) (symbol : String) : Lot K :=
  Lot.after ((symbol_fills composite_text journal symbol).map fill_trade)

theorem net_position_eq_lot (journal : List (ExecutionEvent K)) (symbol : String) :
    net_position (projections_of composite_text journal) symbol
      = (symbol_lot composite_text journal symbol).qty := by
  rw [net_position_tally, symbol_lot, Lot.after_qty, List.map_map]
  rfl

/-- The loop keeps the net costs as a tally over the counted fills. -/
theorem position_cost_tally (journal : List (ExecutionEvent K)) (symbol : String) :
    ((project_events composite_text journal).ledger.position_cost.lookup symbol).getD 0
      = (((symbol_fills composite_text journal symbol).map fill_trade).map fun t =>
          t.qty * t.price).sum := by
  have htally : (project_events composite_text journal).ledger.position_cost
      = Dict.tally (fun event => non_empty event.symbol)
          (fun event => signed_quantity event.side event.qty * event.price.getD 0)
          (distinct_fills composite_text journal) := by
    rw [(ledger_project_events composite_text journal).1]
    refine (List.foldl_hom FillLedger.position_cost fun ledger event => ?_).symm
    dsimp only [post_fill]
    cases non_empty event.symbol <;> rfl
  rw [htally, Dict.lookup_tally_getD, symbol_fills, List.map_map]
  simp only [signed_quantity_eq]
  rfl

/-- The entry price of an open position is its net cost over its net quantity,
without the sign. -/
theorem entry_price_eq (journal : List (ExecutionEvent K)) (symbol : String)
    (hopen : net_position (projections_of composite_text journal) symbol ≠ 0) :
    entry_price (projections_of composite_text journal) symbol
      = some |(((symbol_fills composite_text journal symbol).map fill_trade).map fun t =>
            t.qty * t.price).sum / net_position (projections_of composite_text journal) symbol| := by
  rw [← position_cost_tally]
  rw [net_position] at hopen ⊢
  rw [entry_price]
  rw [projections_of, lookup_positions_table] at hopen ⊢
  cases hlookup : (project_events composite_text journal).ledger.position_qty.lookup symbol with
  | none =>
      rw [hlookup] at hopen
      exact absurd rfl hopen
  | some net_qty =>
      rw [hlookup] at hopen
      exact if_pos hopen

omit [IsStrictOrderedRing K] in
/-- A trade of the symbol is one of its fills. -/
theorem PricedFills.trade {journal : List (ExecutionEvent K)} {symbol : String}
    (hprices : PricedFills composite_text journal symbol) {t : Trade K}
    (ht : t ∈ (symbol_fills composite_text journal symbol).map fill_trade) :
    ∃ fill ∈ symbol_fills composite_text journal symbol, ∃ price, fill.price = some price
      ∧ 0 ≤ price ∧ t.qty = signed_fill fill ∧ t.price = price := by
  obtain ⟨fill, hfill, rfl⟩ := List.mem_map.mp ht
  obtain ⟨price, hprice, hnonneg⟩ := hprices fill hfill
  exact ⟨fill, hfill, price, hprice, hnonneg, rfl, by rw [fill_trade, hprice, Option.getD_some]⟩

/-- Prices that are not negative average to a price that is not negative. -/
theorem symbol_lot_price_nonneg {journal : List (ExecutionEvent K)} {symbol : String}
    (hprices : PricedFills composite_text journal symbol)
    (hopen : (symbol_lot composite_text journal symbol).qty ≠ 0) :
    0 ≤ (symbol_lot composite_text journal symbol).price := by
  obtain ⟨t, ht, -, hle⟩ := Lot.exists_price_le hopen
  obtain ⟨fill, -, price, -, hnonneg, -, htrade⟩ := hprices.trade composite_text ht
  rw [htrade] at hle
  exact hnonneg.trans hle

/-- As long as fills against the position are made at its average price, the
entry price is that average. -/
theorem entry_price_eq_average {journal : List (ExecutionEvent K)} {symbol : String}
    (hprices : PricedFills composite_text journal symbol)
    (hcounters : CounterFillsAtAverage composite_text journal symbol)
    (hopen : net_position (projections_of composite_text journal) symbol ≠ 0) :
    entry_price (projections_of composite_text journal) symbol
      = some (symbol_lot composite_text journal symbol).price := by
  rw [entry_price_eq composite_text journal symbol hopen, Lot.cost_eq hcounters]
  rw [net_position_eq_lot] at hopen ⊢
  -- net cost over net quantity is the average, and averages of prices are not negative
  rw [← symbol_lot, mul_div_cancel_left₀ _ hopen,
    abs_of_nonneg (symbol_lot_price_nonneg composite_text hprices hopen)]

/-- A fill that only reduces the position leaves its average price. -/
theorem symbol_lot_reduce {journal : List (ExecutionEvent K)} {event : ExecutionEvent K}
    {symbol : String}
    (hagainst : (symbol_lot composite_text journal symbol).qty * signed_fill event < 0)
    (hsize : |signed_fill event| < |(symbol_lot composite_text journal symbol).qty|) :
    (symbol_lot composite_text (journal ++ [event]) symbol).price
        = (symbol_lot composite_text journal symbol).price
      ∧ (symbol_lot composite_text (journal ++ [event]) symbol).qty ≠ 0 := by
  have hne : (symbol_lot composite_text journal symbol).qty ≠ 0 := by
    intro hzero
    rw [hzero, zero_mul] at hagainst
    exact lt_irrefl 0 hagainst
  rcases symbol_fills_concat composite_text journal event symbol with hsame | hnew
  · -- a fill that is not counted changes nothing
    rw [symbol_lot, hsame]
    exact ⟨rfl, hne⟩
  · have hlot : symbol_lot composite_text (journal ++ [event]) symbol
        = (symbol_lot composite_text journal symbol).trade (fill_trade event) := by
      rw [symbol_lot, hnew, List.map_append, List.map_singleton, Lot.after_append, symbol_lot]
    rw [hlot]
    refine ⟨Lot.trade_price_of_reduce hagainst hsize, ?_⟩
    rw [Lot.trade_qty]
    intro hzero
    have := mul_add_pos_of_abs_lt hsize
    rw [show (symbol_lot composite_text journal symbol).qty + signed_fill event = 0 from hzero,
      mul_zero] at this
    exact lt_irrefl 0 this

/-- If the fills of a symbol are priced and every one of them against the open
position is made at the average price at which it was opened, then after every
part of the journal a reduction leaves the entry price, and the entry price of
an open position lies between prices of fills on its side. -/
theorem entry_price_averages_opening_fills (projection_digest : Projections K → String)
    (now : String) (store : MemoryStore K) (symbol : String)
    (hprices : PricedFills composite_text store.execution_events symbol)
    (hcounters : CounterFillsAtAverage composite_text store.execution_events symbol) :
    let tables := fun journal => (rebuild_execution_projections composite_text projection_digest
      now { store with execution_events := journal }).1.projections
    (∀ before event after, store.execution_events = before ++ event :: after →
      event.symbol = some symbol →
      net_position (tables before) symbol * signed_fill event < 0 →
      |signed_fill event| < |net_position (tables before) symbol| →
        entry_price (tables (before ++ [event])) symbol = entry_price (tables before) symbol)
    ∧ ∀ before after, store.execution_events = before ++ after →
      net_position (tables before) symbol ≠ 0 →
        ∃ entry, entry_price (tables before) symbol = some entry
          ∧ (∃ fill ∈ symbol_fills composite_text before symbol, ∃ price, fill.price = some price
            ∧ 0 < signed_fill fill * net_position (tables before) symbol ∧ price ≤ entry)
          ∧ ∃ fill ∈ symbol_fills composite_text before symbol, ∃ price, fill.price = some price
            ∧ 0 < signed_fill fill * net_position (tables before) symbol ∧ entry ≤ price := by
  intro tables
  have htables : ∀ journal, tables journal = projections_of composite_text journal :=
    fun _ => rfl
  simp only [htables]
  -- both conditions hold of every beginning of the journal
  have hpart : ∀ before after, store.execution_events = before ++ after →
      PricedFills composite_text before symbol
        ∧ CounterFillsAtAverage composite_text before symbol := by
    intro before after hsplit
    rw [hsplit] at hprices hcounters
    exact ⟨hprices.before, hcounters.before⟩
  constructor
  · intro before event after hsplit hsymbol hagainst hsize
    obtain ⟨hprices₁, hcounters₁⟩ := hpart before (event :: after) hsplit
    obtain ⟨hprices₂, hcounters₂⟩ := hpart (before ++ [event]) after (by
      rw [hsplit, List.append_assoc, List.singleton_append])
    have hopen : net_position (projections_of composite_text before) symbol ≠ 0 := by
      intro hzero
      rw [hzero, zero_mul] at hagainst
      exact lt_irrefl 0 hagainst
    rw [net_position_eq_lot] at hagainst hsize
    obtain ⟨hprice, hopen₂⟩ := symbol_lot_reduce composite_text hagainst hsize
    rw [← net_position_eq_lot] at hopen₂
    rw [entry_price_eq_average composite_text hprices₂ hcounters₂ hopen₂,
      entry_price_eq_average composite_text hprices₁ hcounters₁ hopen, hprice]
  · intro before after hsplit hopen
    obtain ⟨hprices, hcounters⟩ := hpart before after hsplit
    refine ⟨_, entry_price_eq_average composite_text hprices hcounters hopen, ?_, ?_⟩
    · rw [net_position_eq_lot] at hopen ⊢
      obtain ⟨t, ht, hside, hle⟩ := Lot.exists_price_le hopen
      obtain ⟨fill, hfill, price, hprice, -, hqty, htrade⟩ := hprices.trade composite_text ht
      rw [hqty] at hside
      rw [htrade] at hle
      exact ⟨fill, hfill, price, hprice, hside, hle⟩
    · rw [net_position_eq_lot] at hopen ⊢
      obtain ⟨t, ht, hside, hle⟩ := Lot.exists_le_price hopen
      obtain ⟨fill, hfill, price, hprice, -, hqty, htrade⟩ := hprices.trade composite_text ht
      rw [hqty] at hside
      rw [htrade] at hle
      exact ⟨fill, hfill, price, hprice, hside, hle⟩

/-! ## Two buys and a sell -/

/-- A fill of BTCUSDT. -/
def btc_fill (event_id : ℕ) (side : String) (qty price : ℚ) : ExecutionEvent ℚ :=
  { plain_event event_id "ORDER_FILL" (some "c1") with
    side := some side
    qty := some qty
    price := some price
    status := some "FILLED" }

theorem entry_price_averages_two_buys :
    entry_price (projections_of plain_text
          [btc_fill 1 "BUY" 1 100, btc_fill 2 "BUY" 1 200, btc_fill 3 "SELL" 1 150]) "BTCUSDT"
        = entry_price (projections_of plain_text [btc_fill 1 "BUY" 1 100, btc_fill 2 "BUY" 1 200])
          "BTCUSDT"
      ∧ ∃ entry, entry_price (projections_of plain_text
          [btc_fill 1 "BUY" 1 100, btc_fill 2 "BUY" 1 200, btc_fill 3 "SELL" 1 150]) "BTCUSDT"
        = some entry := by
  have htrades : (symbol_fills plain_text
        [btc_fill 1 "BUY" 1 100, btc_fill 2 "BUY" 1 200, btc_fill 3 "SELL" 1 150]
        "BTCUSDT").map fill_trade = ([] ++ [⟨1, 100⟩]) ++ [⟨1, 200⟩] ++ [⟨-1, 150⟩] := by
    decide +kernel
  have hcounters : CounterFillsAtAverage plain_text
      [btc_fill 1 "BUY" 1 100, btc_fill 2 "BUY" 1 200, btc_fill 3 "SELL" 1 150] "BTCUSDT" := by
    rw [CounterFillsAtAverage, htrades]
    refine ((countersAtAverage_nil.concat ?_).concat ?_).concat ?_
    · decide +kernel
    · decide +kernel
    · decide +kernel
  have hprices : PricedFills plain_text
      [btc_fill 1 "BUY" 1 100, btc_fill 2 "BUY" 1 200, btc_fill 3 "SELL" 1 150] "BTCUSDT" := by
    intro fill hfill
    have hmem := List.mem_filter.mp hfill
    have hevent := mem_of_mem_first_by hmem.1
    simp only [List.mem_filter, List.mem_cons, List.not_mem_nil, or_false] at hevent
    rcases hevent.1 with rfl | rfl | rfl
    · exact ⟨100, rfl, by norm_num⟩
    · exact ⟨200, rfl, by norm_num⟩
    · exact ⟨150, rfl, by norm_num⟩
  obtain ⟨hreduce, hbetween⟩ := entry_price_averages_opening_fills plain_text (fun _ => "") ""
    (journal_store [btc_fill 1 "BUY" 1 100, btc_fill 2 "BUY" 1 200, btc_fill 3 "SELL" 1 150])
    "BTCUSDT" hprices hcounters
  refine ⟨hreduce [btc_fill 1 "BUY" 1 100, btc_fill 2 "BUY" 1 200] (btc_fill 3 "SELL" 1 150) []
    rfl rfl (by decide +kernel) (by decide +kernel), ?_⟩
  obtain ⟨entry, hentry, -⟩ := hbetween _ [] (List.append_nil _).symm (by decide +kernel)
  exact ⟨entry, hentry⟩

/-- A sell above the entry price halves the entry price of what is left, below
every buy. -/
theorem entry_price_moved_by_reduction :
    net_position (projections_of plain_text [btc_fill 1 "BUY" 2 100]) "BTCUSDT" = 2
      ∧ entry_price (projections_of plain_text [btc_fill 1 "BUY" 2 100]) "BTCUSDT" = some 100
      ∧ net_position (projections_of plain_text [btc_fill 1 "BUY" 2 100, btc_fill 2 "SELL" 1 150])
          "BTCUSDT" = 1
      ∧ entry_price (projections_of plain_text [btc_fill 1 "BUY" 2 100, btc_fill 2 "SELL" 1 150])
          "BTCUSDT" = some 50 := by
  decide +kernel

end ProofAlpha.Memory
