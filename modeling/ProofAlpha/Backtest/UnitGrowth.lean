/-
How the books of a flat run grow with the price unit.

The run is made in every unit at once: a family of states, one for each `c`. A
notional limit may make the runs decide differently, but sizes stay within fixed
bounds and money amounts within a multiple of `c`, whatever the decisions are
(`Books`). So the equity of every bar is small in a small enough unit.
-/
import ProofAlpha.Backtest.PriceUnit
import ProofAlpha.Lib.UnitOrder

set_option autoImplicit false

namespace ProofAlpha.Backtest

open ProofAlpha.Lib ProofAlpha.Lib.UnitOrder ProofAlpha.Lib.IndexedLoop

variable {K : Type} [Field K] [LinearOrder K]

/-- The books in every unit: the size has order zero, the amounts have order one. -/
structure Books (S : K → SimState K) : Prop where
  size : OfOrder 0 fun c => (S c).position_size
  entry : OfOrder 1 fun c => (S c).entry_price
  gross : OfOrder 1 fun c => (S c).gross_pnl
  fee : OfOrder 1 fun c => (S c).fee_spend
  funding : OfOrder 1 fun c => (S c).funding_spend

variable [IsStrictOrderedRing K] {S T : K → SimState K} {cfg : SimConfig K}

theorem Books.initial : Books fun _ => (SimState.initial : SimState K) where
  size := OfOrder.zero 0
  entry := OfOrder.zero 1
  gross := OfOrder.zero 1
  fee := OfOrder.zero 1
  funding := OfOrder.zero 1

/-- Which books are kept may depend on the unit. -/
theorem Books.ite (p : K → Prop) [∀ c, Decidable (p c)] (hS : Books S) (hT : Books T) :
    Books fun c => if p c then S c else T c where
  size := (hS.size.ite p hT.size).congr fun c _ => apply_ite SimState.position_size (p c) _ _
  entry := (hS.entry.ite p hT.entry).congr fun c _ => apply_ite SimState.entry_price (p c) _ _
  gross := (hS.gross.ite p hT.gross).congr fun c _ => apply_ite SimState.gross_pnl (p c) _ _
  fee := (hS.fee.ite p hT.fee).congr fun c _ => apply_ite SimState.fee_spend (p c) _ _
  funding :=
    (hS.funding.ite p hT.funding).congr fun c _ => apply_ite SimState.funding_spend (p c) _ _

/-! ## Prices -/

theorem close_ofOrder (cfg : SimConfig K) (bar : ℤ) :
    OfOrder 1 fun c => ((cfg.in_unit c).candle bar).close :=
  (OfOrder.amount (cfg.candle bar).close).congr fun c _ => by
    rw [SimConfig.in_unit_candle]
    rfl

theorem price_delta_ofOrder {f g : K → K} (hf : OfOrder 1 f) (hg : OfOrder 1 g)
    (side : PositionSide) : OfOrder 1 fun c => price_delta (f c) (g c) side := by
  cases side with
  | long => exact hf.sub hg
  | short => exact hg.sub hf

theorem apply_trade_cost_ofOrder {f g : K → K} (hf : OfOrder 1 f) (hg : OfOrder 0 g)
    (slippage_bps : K) : OfOrder 1 fun c => apply_trade_cost (f c) (g c) slippage_bps :=
  (hf.abs.mul ((hg.add (OfOrder.const slippage_bps)).mul (OfOrder.const 10000⁻¹))).congr
    fun c _ => by
      unfold apply_trade_cost bps_to_decimal
      rw [div_eq_mul_inv]

theorem equity_mark_ofOrder (hS : Books S) {f : K → K} (hf : OfOrder 1 f) :
    OfOrder 1 fun c => equity_mark (S c) (f c) :=
  ((hS.gross.sub hS.fee).sub hS.funding).add hf

theorem mark_to_market_ofOrder (hS : Books S) (index : ℕ) :
    OfOrder 1 fun c => mark_to_market (cfg.in_unit c) (S c) index := by
  have hprofit : OfOrder 1 fun c => unrealized_pnl ((cfg.in_unit c).candle index).close
      cfg.position_side (S c) :=
    (price_delta_ofOrder (close_ofOrder cfg index) hS.entry cfg.position_side).mul hS.size
  exact equity_mark_ofOrder hS (hprofit.ite (fun c => (S c).position_open = true) (OfOrder.zero 1))

/-! ## Tiers -/

/-- A tier value comes from a finite table, whatever the notional. -/
theorem resolve_tier_value_ofOrder {V : Type} (position_leverage default_value : K)
    (notional : K → K) (schedule : List (Tier K V)) (value : V → K) :
    OfOrder 0 fun c =>
      resolve_tier_value position_leverage (notional c) default_value schedule value := by
  refine OfOrder.of_mem (default_value :: schedule.map fun tier => value tier.rule) fun c _ => ?_
  unfold resolve_tier_value
  cases hentry : resolve_tier_entry position_leverage (notional c) schedule with
  | none => exact List.mem_cons_self
  | some tier =>
      exact List.mem_cons_of_mem _ (List.mem_map_of_mem (resolve_tier_entry_mem hentry))

theorem position_liquidation_price_ofOrder (hS : Books S) :
    OfOrder 1 fun c => position_liquidation_price (cfg.in_unit c) (S c) := by
  have hmargin := resolve_tier_value_ofOrder cfg.position_leverage
    cfg.settings.maintenance_margin_ratio (fun c => position_notional (S c))
    cfg.settings.maintenance_margin_schedule MarginRule.maintenance_margin_ratio
  unfold position_liquidation_price liquidation_price
  dsimp only [SimConfig.in_unit]
  cases cfg.position_side with
  | long =>
      exact hS.entry.mul ((OfOrder.const (1 - 1 / cfg.position_leverage)).add hmargin)
  | short =>
      exact hS.entry.mul ((OfOrder.const (1 + 1 / cfg.position_leverage)).sub hmargin)

theorem step_ratio_ofOrder (hvalid : cfg.settings.Valid) (S : K → SimState K) :
    OfOrder 0 fun c => step_ratio (cfg.in_unit c) (S c) := by
  refine OfOrder.bounded 1 fun c _ => ?_
  have hratio : IsStepRatio (step_ratio (cfg.in_unit c) (S c)) := hvalid.step_ratio _ _ _ _ _ _
  rw [abs_of_pos hratio.1]
  exact hratio.2

/-! ## One bar -/

section Bar

variable (m : PyMath K)

theorem Books.accrue_funding (hS : Books S) (index : ℕ) :
    Books fun c => accrue_funding (cfg.in_unit c) (S c) index := by
  have hcharge : OfOrder 1 fun c =>
      apply_funding (((cfg.in_unit c).candle index).close * (S c).position_size)
        (cfg.funding_rates.getD index 0) cfg.position_side
        * (cfg.funding_event_counts.getD index 0 : K) :=
    ((((close_ofOrder cfg index).mul hS.size).abs.mul
      (OfOrder.const (cfg.funding_rates.getD index 0))).mul
      (OfOrder.const cfg.position_side.direction)).mul
      (OfOrder.const (cfg.funding_event_counts.getD index 0 : K))
  have hcharged : Books fun c => { S c with
      funding_spend := (S c).funding_spend
        + apply_funding (((cfg.in_unit c).candle index).close * (S c).position_size)
            (cfg.funding_rates.getD index 0) cfg.position_side
          * (cfg.funding_event_counts.getD index 0 : K) } :=
    { hS with funding := hS.funding.add hcharge }
  exact hcharged.ite (fun c => (S c).position_open = true) hS

theorem Books.close_if_flat (hS : Books S) : Books fun c => close_if_flat (S c) := by
  have hended : Books fun c => end_position (S c) :=
    { hS with size := OfOrder.zero 0, entry := OfOrder.zero 1 }
  exact hended.ite (fun c => is_flat (S c)) hS

/-- Selling a size of order zero for amounts of order one. -/
theorem Books.realize (hS : Books S) {size gross cost : K → K} (hsize : OfOrder 0 size)
    (hgross : OfOrder 1 gross) (hcost : OfOrder 1 cost) :
    Books fun c => realize (S c) (size c) (gross c) (cost c) where
  size := hS.size.sub hsize
  entry := hS.entry
  gross := hS.gross.add hgross
  fee := hS.fee.add hcost
  funding := hS.funding

theorem Books.liquidation_books (hflat : cfg.IsFlat) (hvalid : cfg.settings.Valid) (hS : Books S)
    (index : ℕ) : Books fun c => liquidation_books m (cfg.in_unit c) (S c) index := by
  have hprice : OfOrder 1 fun c => position_liquidation_price (cfg.in_unit c) (S c) :=
    position_liquidation_price_ofOrder hS
  have hsize := hS.size.mul (step_ratio_ofOrder hvalid S)
  have hfee := (OfOrder.const cfg.taker_fee_bps).add
    (resolve_tier_value_ofOrder cfg.position_leverage cfg.settings.liquidation_fee_bps
      (fun c => position_notional (S c)) cfg.settings.liquidation_fee_schedule id)
  have hcost := apply_trade_cost_ofOrder (hprice.mul hsize) hfee cfg.slippage_bps
  have hgross := (price_delta_ofOrder hprice hS.entry cfg.position_side).mul hsize
  have hsold := hS.realize hsize hgross hcost
  have hslippage : ∀ c notional (bar : ℤ),
      resolve_slippage_bps m (cfg.in_unit c) notional bar = cfg.slippage_bps :=
    fun c notional bar => resolve_slippage_bps_flat m (hflat.in_unit c) notional bar
  unfold ProofAlpha.Backtest.liquidation_books
  simp only [hslippage]
  exact { hsold with }

/-- What a branch leaves: books, and a value shown of order one. -/
structure BarGrowth (out : K → SimState K × BarOutput K) : Prop where
  books : Books fun c => (out c).1
  equity : OfOrder 1 fun c => (out c).2.equity

theorem BarGrowth.ite {out out' : K → SimState K × BarOutput K} (p : K → Prop)
    [∀ c, Decidable (p c)] (h : BarGrowth out) (h' : BarGrowth out') :
    BarGrowth fun c => if p c then out c else out' c where
  books := by
    have hfst : (fun c => (if p c then out c else out' c).1)
        = fun c => if p c then (out c).1 else (out' c).1 := funext fun c => apply_ite Prod.fst _ _ _
    rw [hfst]
    exact h.books.ite p h'.books
  equity := (h.equity.ite p h'.equity).congr fun c _ =>
    apply_ite (fun o : SimState K × BarOutput K => o.2.equity) (p c) _ _

theorem Books.liquidate (hflat : cfg.IsFlat) (hvalid : cfg.settings.Valid) (hS : Books S)
    (index : ℕ) : BarGrowth fun c => liquidate m (cfg.in_unit c) (S c) index := by
  have hclosed := (hS.liquidation_books m hflat hvalid index).close_if_flat
  exact ⟨hclosed, mark_to_market_ofOrder hclosed index⟩

omit [IsStrictOrderedRing K] in
/-- An unfilled order leaves the books and shows the mark. -/
theorem Books.unfilled (hS : Books S) {mark : K → K} (hmark : OfOrder 1 mark) :
    BarGrowth fun c => (S c, ⟨mark c, none⟩) := ⟨hS, hmark⟩

/-- A flat order in every unit: its size is filled at a close. -/
structure QuoteGrowth (q : K → FillQuote K) : Prop where
  price : OfOrder 1 fun c => (q c).fill_price
  size : OfOrder 0 fun c => (q c).executed_size

theorem execution_quote_growth (hflat : cfg.IsFlat) (index : ℕ) {size : K → K}
    (hsize : OfOrder 0 size) (is_entry : Bool) :
    QuoteGrowth fun c =>
      execution_quote m (cfg.in_unit c) (fill_index (cfg.in_unit c) index) (size c) is_entry := by
  have hquote := fun c : K => execution_quote_flat m (hflat.in_unit c)
    (fill_index (cfg.in_unit c) index) (size c) is_entry
  constructor
  · refine (close_ofOrder cfg (fill_index cfg index)).congr fun c _ => ?_
    rw [hquote, SimConfig.in_unit_fill_index]
  · refine hsize.congr fun c _ => ?_
    rw [hquote]

/-- The cost of a flat fill. -/
theorem fill_cost_ofOrder (hflat : cfg.IsFlat) (index : ℕ) {size : K → K} (hsize : OfOrder 0 size)
    (is_entry : Bool) :
    OfOrder 1 fun c => fill_cost (cfg.in_unit c)
      (execution_quote m (cfg.in_unit c) (fill_index (cfg.in_unit c) index) (size c) is_entry) := by
  have hcost := apply_trade_cost_ofOrder
    ((close_ofOrder cfg (fill_index cfg index)).mul hsize) (OfOrder.const cfg.taker_fee_bps)
    cfg.slippage_bps
  refine hcost.congr fun c _ => ?_
  rw [execution_quote_flat m (hflat.in_unit c), SimConfig.in_unit_fill_index]
  unfold fill_cost
  dsimp only
  rw [if_neg (lt_irrefl 0)]
  rfl

omit [IsStrictOrderedRing K] in
/-- Opening a position. -/
theorem QuoteGrowth.opened {q : K → FillQuote K} (hq : QuoteGrowth q) {s : K → SimState K}
    {cost : K → K} (hgross : OfOrder 1 fun c => (s c).gross_pnl)
    (hfee : OfOrder 1 fun c => (s c).fee_spend + cost c)
    (hfunding : OfOrder 1 fun c => (s c).funding_spend) (entry_index : K → ℤ) :
    Books fun c =>
      { record_fill (s c) (q c) with
        fee_spend := (s c).fee_spend + cost c
        position_open := true
        position_size := (q c).executed_size
        entry_price := (q c).fill_price
        entry_index := entry_index c
        liquidation_step_index := 0 } where
  size := hq.size
  entry := hq.price
  gross := hgross
  fee := hfee
  funding := hfunding

theorem Books.enter (hflat : cfg.IsFlat) (hS : Books S) (index : ℕ) {mark : K → K}
    (hmark : OfOrder 1 mark) :
    BarGrowth fun c => enter m (cfg.in_unit c) (S c) index (mark c) := by
  have hleverage := OfOrder.const cfg.position_leverage
  have hquote := execution_quote_growth m hflat index hleverage true
  have hcost := fill_cost_ofOrder m hflat index hleverage true
  have hopened := hquote.opened hS.gross (hS.fee.add hcost) hS.funding
    fun c => fill_index (cfg.in_unit c) index
  unfold ProofAlpha.Backtest.enter
  exact BarGrowth.ite _ (hS.unfilled hmark)
    ⟨hopened, equity_mark_ofOrder hopened (OfOrder.zero 1)⟩

theorem Books.exit (hflat : cfg.IsFlat) (hS : Books S) (index : ℕ) {mark : K → K}
    (hmark : OfOrder 1 mark) :
    BarGrowth fun c => exit m (cfg.in_unit c) (S c) index (mark c) := by
  have hquote := execution_quote_growth m hflat index hS.size false
  have hcost := fill_cost_ofOrder m hflat index hS.size false
  have hgross := (price_delta_ofOrder hquote.price hS.entry cfg.position_side).mul hquote.size
  have hsold := hS.realize hquote.size hgross hcost
  have hbooks : Books fun c => exit_books cfg.position_side (S c)
      (execution_quote m (cfg.in_unit c) (fill_index (cfg.in_unit c) index) (S c).position_size false)
      (fill_cost (cfg.in_unit c) (execution_quote m (cfg.in_unit c)
        (fill_index (cfg.in_unit c) index) (S c).position_size false)) := { hsold with }
  have hclosed := hbooks.close_if_flat
  unfold ProofAlpha.Backtest.exit
  exact BarGrowth.ite _ (hS.unfilled hmark)
    ⟨hclosed, equity_mark_ofOrder hclosed (OfOrder.zero 1)⟩

/-- One bar, in every unit. -/
theorem Books.bar_step (hflat : cfg.IsFlat) (hvalid : cfg.settings.Valid) (hS : Books S)
    (index : ℕ) : BarGrowth fun c => bar_step m (cfg.in_unit c) (S c) index := by
  have hfunded : Books fun c => Backtest.accrue_funding (cfg.in_unit c) (S c) index :=
    hS.accrue_funding index
  have hmark : OfOrder 1 fun c => mark_to_market (cfg.in_unit c)
      (Backtest.accrue_funding (cfg.in_unit c) (S c) index) index :=
    mark_to_market_ofOrder hfunded index
  unfold ProofAlpha.Backtest.bar_step
  refine BarGrowth.ite _ (hfunded.liquidate m hflat hvalid index) ?_
  refine BarGrowth.ite _ (hfunded.enter m hflat index hmark) ?_
  exact BarGrowth.ite _ (hfunded.exit m hflat index hmark) (hfunded.unfilled hmark)

theorem Books.force_close (hflat : cfg.IsFlat) (hS : Books S) :
    Books fun c => force_close m (cfg.in_unit c) (S c) := by
  have hclose := close_ofOrder cfg ((cfg.bars : ℤ) - 1)
  have hcost := apply_trade_cost_ofOrder (hclose.mul hS.size) (OfOrder.const cfg.taker_fee_bps)
    cfg.slippage_bps
  have hgross := (price_delta_ofOrder hclose hS.entry cfg.position_side).mul hS.size
  have hsold := hS.realize (OfOrder.zero 0) hgross hcost
  have hslippage : ∀ c notional (bar : ℤ),
      resolve_slippage_bps m (cfg.in_unit c) notional bar = cfg.slippage_bps :=
    fun c notional bar => resolve_slippage_bps_flat m (hflat.in_unit c) notional bar
  unfold ProofAlpha.Backtest.force_close
  simp only [hslippage, SimConfig.in_unit_bars]
  exact { hsold with size := hS.size }

/-! ## The run -/

theorem stateAt_books_growth (hflat : cfg.IsFlat) (hvalid : cfg.settings.Valid) (n : ℕ) :
    Books fun c => stateAt (ProofAlpha.Backtest.bar_step m (cfg.in_unit c)) SimState.initial n := by
  induction n with
  | zero => exact Books.initial
  | succ n ih => exact (ih.bar_step m hflat hvalid n).books

/-- What the equity curve shows for a bar is an amount of the unit. -/
theorem shown_equity_ofOrder (hflat : cfg.IsFlat) (hvalid : cfg.settings.Valid) (index : ℕ) :
    OfOrder 1 fun c => shown_equity m (cfg.in_unit c)
      (stateAt (ProofAlpha.Backtest.bar_step m (cfg.in_unit c)) SimState.initial index) index := by
  have hbar := (stateAt_books_growth m hflat hvalid index).bar_step m hflat hvalid index
  have hended := equity_mark_ofOrder (hbar.books.force_close m hflat) (OfOrder.zero 1)
  unfold shown_equity
  exact hended.ite _ hbar.equity

end Bar

end ProofAlpha.Backtest
