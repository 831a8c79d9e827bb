/-
Runs that are priced as flat runs.

The flat model charges every fill the same basis points. A dynamic run does so too
where there is no open interest to measure an order against, so it is the flat run
(`simulate_strategy_of_no_open_interest`).
-/
import ProofAlpha.Backtest.PriceUnit

set_option autoImplicit false

namespace ProofAlpha.Backtest

open ProofAlpha.Lib ProofAlpha.Lib.PyList ProofAlpha.Lib.IndexedLoop

variable {K : Type} [Field K] [LinearOrder K]

/-- The configuration with another slippage model short of the realistic one. -/
def SimConfig.with_dynamic (cfg : SimConfig K) (use_dynamic_slippage : Bool)
    (context : SimContext K) : SimConfig K :=
  { cfg with use_dynamic_slippage := use_dynamic_slippage, context := context }

/-- Every fill is charged the flat basis points. -/
structure SimConfig.PricesFlat (m : PyMath K) (cfg : SimConfig K) : Prop where
  realistic : cfg.use_realistic_slippage = false
  slippage : ∀ (trade_notional : K) (bar_index : ℤ),
    resolve_slippage_bps m cfg trade_notional bar_index = cfg.slippage_bps

section Pricing

variable {m : PyMath K} {cfg : SimConfig K} {use_dynamic : Bool} {context : SimContext K}

theorem SimConfig.IsFlat.pricesFlat (m : PyMath K) (h : cfg.IsFlat) : cfg.PricesFlat m where
  realistic := h.realistic
  slippage := resolve_slippage_bps_flat m h

/-- A fill of such a run is a full one at the close of its bar. -/
theorem SimConfig.PricesFlat.quote (h : cfg.PricesFlat m) (bar : ℤ) (size : K) (is_entry : Bool) :
    execution_quote m cfg bar size is_entry
      = { fill_ratio := 1
          executed_size := size
          slippage_bps := cfg.slippage_bps
          adverse_fill_bps := 0
          fill_price := (cfg.candle bar).close } := by
  rw [execution_quote_unrealistic m h.realistic, h.slippage]

/-- Two such runs quote the same. -/
theorem SimConfig.PricesFlat.quote_eq (h : cfg.PricesFlat m)
    (h' : (cfg.with_dynamic use_dynamic context).PricesFlat m) (bar : ℤ) (size : K)
    (is_entry : Bool) :
    execution_quote m (cfg.with_dynamic use_dynamic context) bar size is_entry
      = execution_quote m cfg bar size is_entry := by
  rw [h.quote, h'.quote]
  rfl

theorem SimConfig.PricesFlat.bar_step_eq (h : cfg.PricesFlat m)
    (h' : (cfg.with_dynamic use_dynamic context).PricesFlat m) (s : SimState K) (index : ℕ) :
    bar_step m (cfg.with_dynamic use_dynamic context) s index = bar_step m cfg s index := by
  have hliquidate : ∀ s : SimState K,
      liquidate m (cfg.with_dynamic use_dynamic context) s index = liquidate m cfg s index := by
    intro s
    unfold liquidate liquidation_books
    simp only [h.slippage, h'.slippage]
    rfl
  have henter : ∀ (s : SimState K) (mark : K),
      enter m (cfg.with_dynamic use_dynamic context) s index mark = enter m cfg s index mark := by
    intro s mark
    unfold enter
    simp only [h.quote_eq h']
    rfl
  have hexit : ∀ (s : SimState K) (mark : K),
      exit m (cfg.with_dynamic use_dynamic context) s index mark = exit m cfg s index mark := by
    intro s mark
    unfold exit
    simp only [h.quote_eq h']
    rfl
  unfold bar_step
  simp only [hliquidate, henter, hexit]
  rfl

theorem SimConfig.PricesFlat.run_eq (h : cfg.PricesFlat m)
    (h' : (cfg.with_dynamic use_dynamic context).PricesFlat m) (n : ℕ) :
    run (bar_step m (cfg.with_dynamic use_dynamic context)) SimState.initial n
      = run (bar_step m cfg) SimState.initial n :=
  run_congr n fun i _ => h.bar_step_eq h' _ i

theorem SimConfig.PricesFlat.force_close_eq (h : cfg.PricesFlat m)
    (h' : (cfg.with_dynamic use_dynamic context).PricesFlat m) (s : SimState K) :
    force_close m (cfg.with_dynamic use_dynamic context) s = force_close m cfg s := by
  unfold force_close
  simp only [h.slippage, h'.slippage]
  rfl

theorem SimConfig.PricesFlat.simulate_bars_eq (h : cfg.PricesFlat m)
    (h' : (cfg.with_dynamic use_dynamic context).PricesFlat m) :
    simulate_bars m (cfg.with_dynamic use_dynamic context) = simulate_bars m cfg := by
  have hbars : (cfg.with_dynamic use_dynamic context).bars = cfg.bars := rfl
  unfold simulate_bars
  simp only [hbars, h.run_eq h', h.force_close_eq h']

end Pricing

/-! ## The dynamic model without open interest -/

/-- The argument checks do not look at the slippage model. -/
theorem check_arguments_flat (snapshot : DataSnapshot K) (args : SimArguments K) :
    check_arguments snapshot args.flat = check_arguments snapshot args := rfl

theorem prepared_context_open_interest (m : PyMath K) (snapshot : DataSnapshot K)
    (use_dynamic use_realistic : Bool) :
    (prepare_sim_context m snapshot use_dynamic use_realistic).open_interest
      = snapshot.open_interest := by
  unfold prepare_sim_context
  dsimp only
  split_ifs <;> rfl

theorem prepared_context_microstructure (m : PyMath K) (snapshot : DataSnapshot K)
    (use_dynamic use_realistic : Bool) :
    (prepare_sim_context m snapshot use_dynamic use_realistic).microstructure
      = load_microstructure_series snapshot snapshot.candles.length := by
  unfold prepare_sim_context
  dsimp only
  split_ifs <;> rfl

/-- Without open interest a dynamic run falls back to the flat basis points. -/
theorem pricesFlat_of_no_open_interest {m : PyMath K} {cfg : SimConfig K}
    (hrealistic : cfg.use_realistic_slippage = false)
    (hopen_interest : ∀ value ∈ cfg.context.open_interest, value ≤ 0) : cfg.PricesFlat m where
  realistic := hrealistic
  slippage := by
    intro trade_notional bar_index
    have hvalue : item cfg.context.open_interest bar_index 0 ≤ 0 :=
      item_of_forall (p := (· ≤ 0)) le_rfl hopen_interest bar_index
    unfold resolve_slippage_bps
    dsimp only
    rw [hrealistic]
    dsimp only
    unfold compute_dynamic_slippage
    rw [if_pos hvalue, ite_self]

/-- A run under any model but the realistic one is the flat run where there is no open
interest, and a run under neither the dynamic nor the realistic one is always. -/
theorem simulate_strategy_eq_flat [FloorRing K] (m : PyMath K) (snapshot : DataSnapshot K)
    {args : SimArguments K} (hrealistic : args.slippage_model ≠ "realistic")
    (hdynamic : args.slippage_model = "dynamic" → ∀ value ∈ snapshot.open_interest, value ≤ 0) :
    simulate_strategy m snapshot args = simulate_strategy m snapshot args.flat := by
  unfold simulate_strategy
  rw [check_arguments_flat]
  cases hcheck : check_arguments snapshot args with
  | error message => rfl
  | ok checked =>
      obtain ⟨side, settings⟩ := checked
      have hflat := (sim_config_isFlat m snapshot args side settings).pricesFlat m
      have hnot : (args.slippage_model == "realistic") = false := beq_false_of_ne hrealistic
      have hcfg : sim_config m snapshot args side settings
          = (sim_config m snapshot args.flat side settings).with_dynamic
            (args.slippage_model == "dynamic")
            (prepare_sim_context m snapshot (args.slippage_model == "dynamic") false) := by
        unfold sim_config SimConfig.with_dynamic
        dsimp only
        rw [hnot]
        rfl
      have hprices : (sim_config m snapshot args side settings).PricesFlat m := by
        by_cases hmodel : args.slippage_model = "dynamic"
        · refine pricesFlat_of_no_open_interest hnot ?_
          show ∀ value ∈ (prepare_sim_context m snapshot _ _).open_interest, value ≤ 0
          rw [prepared_context_open_interest]
          exact hdynamic hmodel
        · exact SimConfig.IsFlat.pricesFlat m ⟨beq_false_of_ne hmodel, hnot⟩
      rw [hcfg] at hprices
      have hbars := hflat.simulate_bars_eq hprices
      have hrun := hflat.run_eq hprices
      have hcount : (sim_config m snapshot args side settings).bars
          = (sim_config m snapshot args.flat side settings).bars := rfl
      have hsummary : (sim_config m snapshot args side settings).use_realistic_slippage
          = (sim_config m snapshot args.flat side settings).use_realistic_slippage := hnot
      rw [← hcfg] at hbars hrun
      simp only [ok_bind, hbars, hrun, hcount, hsummary]

end ProofAlpha.Backtest
