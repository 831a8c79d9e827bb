/-
Look-ahead in `simulate_strategy`: what two snapshots that agree up to a bar must
also share for the equity curve up to that bar to be the same.

The loop itself reads a bar, the bar before it and the bar that fills its orders.
Of the series computed before the loop, the rolling volatility and the z-scores
are causal; the open-interest stress flag and the depth-depletion flag compare a
bar with a percentile of the whole series, and the regime label with a median of
it. `StressAgrees` says that these come out the same at a priced bar.
-/
import ProofAlpha.Backtest.Simulator

set_option autoImplicit false

namespace ProofAlpha.Backtest

open ProofAlpha.Lib ProofAlpha.Lib.PyList ProofAlpha.Lib.IndexedLoop

variable {K : Type} [Field K] [LinearOrder K]

/-! ## What a bar reads -/

/-- The two configurations have the same options. -/
structure SameOptions (cfg₁ cfg₂ : SimConfig K) : Prop where
  taker_fee_bps : cfg₁.taker_fee_bps = cfg₂.taker_fee_bps
  slippage_bps : cfg₁.slippage_bps = cfg₂.slippage_bps
  latency_bars : cfg₁.latency_bars = cfg₂.latency_bars
  position_side : cfg₁.position_side = cfg₂.position_side
  position_leverage : cfg₁.position_leverage = cfg₂.position_leverage
  settings : cfg₁.settings = cfg₂.settings
  forces_full : cfg₁.profile_forces_full_liquidation = cfg₂.profile_forces_full_liquidation
  explicit_ratio :
    cfg₁.explicit_partial_liquidation_ratio = cfg₂.explicit_partial_liquidation_ratio
  explicit_schedule :
    cfg₁.explicit_liquidation_step_schedule = cfg₂.explicit_liquidation_step_schedule
  dynamic : cfg₁.use_dynamic_slippage = cfg₂.use_dynamic_slippage
  realistic : cfg₁.use_realistic_slippage = cfg₂.use_realistic_slippage

/-- What pricing reads of a microstructure dict at a bar: the two depths, the
spread and the latency. -/
def Microstructure.read (micro : Microstructure K) (bar : ℤ) : K × K × K × K :=
  (item micro.depth_bid_1bp_usd bar 0, item micro.depth_ask_1bp_usd bar 0,
    item micro.spread_bps bar 0, item micro.latency_proxy_ms bar 0)

/-- What pricing reads of the microstructure at a bar. -/
def SimConfig.micro_at (cfg : SimConfig K) (bar : ℤ) : Option (K × K × K × K) :=
  cfg.context.microstructure.map fun micro => micro.read bar

/-- The causal data of a bar are the same in the two configurations. -/
structure BarReadsAgree (cfg₁ cfg₂ : SimConfig K) (bar : ℤ) : Prop where
  candle : cfg₁.candle bar = cfg₂.candle bar
  roll_vol : item cfg₁.context.roll_vol bar 0 = item cfg₂.context.roll_vol bar 0
  open_interest : item cfg₁.context.open_interest bar 0 = item cfg₂.context.open_interest bar 0
  funding_z : item cfg₁.context.funding_z bar 0 = item cfg₂.context.funding_z bar 0
  liquidation_z : item cfg₁.context.liquidation_z bar 0 = item cfg₂.context.liquidation_z bar 0
  micro : cfg₁.micro_at bar = cfg₂.micro_at bar

/-- The multiplier of the dynamic model at a bar. -/
def SimContext.multiplier (ctx : SimContext K) (bar : ℤ) : K :=
  if item ctx.oi_stressed bar false = true then
    stress_multiplier (item ctx.regime_labels bar .other) else 1

/-- The whole-series flags that pricing reads at a bar are the same: under the
realistic model the open-interest stress and the depth depletion, and where the
dynamic price is used on positive open interest, its multiplier. -/
structure StressAgrees (cfg₁ cfg₂ : SimConfig K) (bar : ℤ) : Prop where
  realistic : cfg₁.use_realistic_slippage = true →
    item cfg₁.context.oi_stressed bar false = item cfg₂.context.oi_stressed bar false
      ∧ item cfg₁.context.depth_depleted bar false = item cfg₂.context.depth_depleted bar false
  dynamic : (cfg₁.use_dynamic_slippage || cfg₁.use_realistic_slippage) = true →
    (cfg₁.use_realistic_slippage = true → cfg₁.context.microstructure = none) →
    0 < item cfg₁.context.open_interest bar 0 →
    cfg₁.context.multiplier bar = cfg₂.context.multiplier bar

omit [LinearOrder K] in
/-- Either neither run has microstructure, or both have it and read the same at
the bar. -/
theorem BarReadsAgree.micro_cases {cfg₁ cfg₂ : SimConfig K} {bar : ℤ}
    (h : BarReadsAgree cfg₁ cfg₂ bar) :
    (cfg₁.context.microstructure = none ∧ cfg₂.context.microstructure = none)
      ∨ ∃ micro₁ micro₂, cfg₁.context.microstructure = some micro₁
          ∧ cfg₂.context.microstructure = some micro₂
          ∧ item micro₁.depth_bid_1bp_usd bar 0 = item micro₂.depth_bid_1bp_usd bar 0
          ∧ item micro₁.depth_ask_1bp_usd bar 0 = item micro₂.depth_ask_1bp_usd bar 0
          ∧ item micro₁.spread_bps bar 0 = item micro₂.spread_bps bar 0
          ∧ item micro₁.latency_proxy_ms bar 0 = item micro₂.latency_proxy_ms bar 0 := by
  have hmicro := h.micro
  unfold SimConfig.micro_at at hmicro
  cases h₁ : cfg₁.context.microstructure with
  | none =>
      rw [h₁, Option.map_none] at hmicro
      exact Or.inl ⟨rfl, Option.map_eq_none_iff.mp hmicro.symm⟩
  | some micro₁ =>
      rw [h₁, Option.map_some] at hmicro
      obtain ⟨micro₂, h₂, hread⟩ := Option.map_eq_some_iff.mp hmicro.symm
      simp only [Microstructure.read, Prod.mk.injEq] at hread
      obtain ⟨hbid, hask, hspread, hlatency⟩ := hread
      exact Or.inr ⟨micro₁, micro₂, rfl, h₂, hbid.symm, hask.symm, hspread.symm, hlatency.symm⟩

/-! ## Pricing a bar -/

section Pricing

variable {cfg₁ cfg₂ : SimConfig K} {bar : ℤ} (hopt : SameOptions cfg₁ cfg₂)
  (hreads : BarReadsAgree cfg₁ cfg₂ bar) (hstress : StressAgrees cfg₁ cfg₂ bar)

include hopt hreads hstress

/-- The dynamic price reads the flags through the multiplier, and on positive
open interest only. -/
theorem compute_dynamic_slippage_congr (m : PyMath K) (trade_notional : K)
    (hmodel : (cfg₁.use_dynamic_slippage || cfg₁.use_realistic_slippage) = true)
    (hmicro : cfg₁.use_realistic_slippage = true → cfg₁.context.microstructure = none) :
    compute_dynamic_slippage m trade_notional (item cfg₁.context.roll_vol bar 0)
        (item cfg₁.context.open_interest bar 0) (item cfg₁.context.oi_stressed bar false)
        (item cfg₁.context.regime_labels bar .other) cfg₁.slippage_bps
      = compute_dynamic_slippage m trade_notional (item cfg₂.context.roll_vol bar 0)
          (item cfg₂.context.open_interest bar 0) (item cfg₂.context.oi_stressed bar false)
          (item cfg₂.context.regime_labels bar .other) cfg₂.slippage_bps := by
  have hmult := hstress.dynamic hmodel hmicro
  unfold compute_dynamic_slippage
  rw [hreads.roll_vol, hreads.open_interest, hopt.slippage_bps]
  rw [hreads.open_interest] at hmult
  -- without open interest the price is the flat one, and no flag is read
  rcases le_or_gt (item cfg₂.context.open_interest bar 0) 0 with hoi | hoi
  · rw [if_pos hoi, if_pos hoi]
  · have hm := hmult hoi
    unfold SimContext.multiplier at hm
    rw [if_neg (not_le.mpr hoi), if_neg (not_le.mpr hoi)]
    dsimp only
    rw [hm]

/-- Both runs price an order at the bar alike. -/
theorem resolve_slippage_bps_congr (m : PyMath K) (trade_notional : K) :
    resolve_slippage_bps m cfg₁ trade_notional bar
      = resolve_slippage_bps m cfg₂ trade_notional bar := by
  unfold resolve_slippage_bps
  dsimp only
  rw [← hopt.realistic, ← hopt.dynamic]
  cases hr : cfg₁.use_realistic_slippage with
  | false =>
      cases hd : cfg₁.use_dynamic_slippage with
      | false => exact hopt.slippage_bps
      | true =>
          have hnone : cfg₁.use_realistic_slippage = true → cfg₁.context.microstructure = none :=
            fun h => absurd h (by rw [hr]; exact Bool.false_ne_true)
          exact compute_dynamic_slippage_congr hopt hreads hstress m trade_notional
            (by rw [hd]; rfl) hnone
  | true =>
      obtain ⟨hoi, hdepth⟩ := hstress.realistic hr
      rcases hreads.micro_cases with
        ⟨h₁, h₂⟩ | ⟨micro₁, micro₂, h₁, h₂, hbid, hask, hspread, hlatency⟩
      · rw [h₁, h₂]
        dsimp only
        -- without microstructure the realistic model prices as the dynamic one
        rw [Bool.or_true, if_pos rfl, if_pos rfl]
        exact compute_dynamic_slippage_congr hopt hreads hstress m trade_notional
          (by rw [hr, Bool.or_true]) fun _ => h₁
      · rw [h₁, h₂]
        dsimp only
        rw [hbid, hask, hspread, hlatency, hoi, hdepth, hreads.roll_vol, hreads.funding_z,
          hreads.liquidation_z]

/-- Both runs fill the same share of an order at the bar. -/
theorem resolve_execution_fill_ratio_congr (trade_notional : K) :
    resolve_execution_fill_ratio cfg₁ trade_notional bar
      = resolve_execution_fill_ratio cfg₂ trade_notional bar := by
  unfold resolve_execution_fill_ratio
  dsimp only
  rw [← hopt.realistic]
  cases hr : cfg₁.use_realistic_slippage with
  | false => rfl
  | true =>
      obtain ⟨hoi, hdepth⟩ := hstress.realistic hr
      rcases hreads.micro_cases with ⟨h₁, h₂⟩ | ⟨micro₁, micro₂, h₁, h₂, hbid, hask, -, -⟩
      · rw [h₁, h₂]
      · rw [h₁, h₂]
        dsimp only
        rw [hbid, hask, hoi, hdepth, hreads.funding_z, hreads.liquidation_z]

/-- Both runs execute an order at the bar alike. -/
theorem execution_quote_congr (m : PyMath K) (requested_size : K) (is_entry : Bool) :
    execution_quote m cfg₁ bar requested_size is_entry
      = execution_quote m cfg₂ bar requested_size is_entry := by
  have hadverse : ∀ slippage ratio : K,
      resolve_execution_adverse_fill_bps slippage ratio cfg₁.use_realistic_slippage
          (item cfg₁.context.oi_stressed bar false) (item cfg₁.context.funding_z bar 0)
          (item cfg₁.context.liquidation_z bar 0) (item cfg₁.context.depth_depleted bar false)
        = resolve_execution_adverse_fill_bps slippage ratio cfg₂.use_realistic_slippage
          (item cfg₂.context.oi_stressed bar false) (item cfg₂.context.funding_z bar 0)
          (item cfg₂.context.liquidation_z bar 0) (item cfg₂.context.depth_depleted bar false) := by
    intro slippage ratio
    rw [← hopt.realistic, hreads.funding_z, hreads.liquidation_z]
    cases hr : cfg₁.use_realistic_slippage with
    | false =>
        unfold resolve_execution_adverse_fill_bps
        -- only the realistic model fills adversely
        rw [if_pos (Or.inl rfl), if_pos (Or.inl rfl)]
    | true =>
        obtain ⟨hoi, hdepth⟩ := hstress.realistic hr
        rw [hoi, hdepth]
  unfold execution_quote
  dsimp only
  simp only [hadverse, hreads.candle, hopt.position_side,
    resolve_execution_fill_ratio_congr hopt hreads hstress,
    resolve_slippage_bps_congr hopt hreads hstress]

end Pricing

/-! ## One bar -/

/-- An entry or exit order is sent on the bar, unless a liquidation takes it. -/
def order_sent (cfg : SimConfig K) (s : SimState K) (index : ℕ) : Prop :=
  (s.position_open = false ∧ cfg.entry_signals.getD index false = true)
    ∨ (s.position_open = true ∧ cfg.exit_signals.getD index false = true ∧ s.entry_index ≤ index)

/-- The flags agree wherever the bar prices something: at the bar itself when a
liquidation is due, at the fill bar when an order is sent. -/
structure PricedBarsAgree (cfg₁ cfg₂ : SimConfig K) (s : SimState K) (index : ℕ) : Prop where
  liquidation : liquidation_due cfg₁ s index = true → StressAgrees cfg₁ cfg₂ index
  order : liquidation_due cfg₁ s index = false → order_sent cfg₁ s index →
    StressAgrees cfg₁ cfg₂ (fill_index cfg₁ index)

/-- Everything a bar of the loop reads, the flags aside, is the same. -/
structure StepReadsAgree (cfg₁ cfg₂ : SimConfig K) (index : ℕ) : Prop where
  bar : BarReadsAgree cfg₁ cfg₂ index
  fill_bar : fill_index cfg₁ index = fill_index cfg₂ index
  fill : BarReadsAgree cfg₁ cfg₂ (fill_index cfg₁ index)
  funding_rate : cfg₁.funding_rates.getD index 0 = cfg₂.funding_rates.getD index 0
  funding_events :
    cfg₁.funding_event_counts.getD index 0 = cfg₂.funding_event_counts.getD index 0
  entry : cfg₁.entry_signals.getD index false = cfg₂.entry_signals.getD index false
  exit : cfg₁.exit_signals.getD index false = cfg₂.exit_signals.getD index false

section Branches

variable {cfg₁ cfg₂ : SimConfig K} {index : ℕ} (hopt : SameOptions cfg₁ cfg₂)

include hopt

theorem position_liquidation_price_congr (s : SimState K) :
    position_liquidation_price cfg₁ s = position_liquidation_price cfg₂ s := by
  simp only [position_liquidation_price, hopt.position_side, hopt.position_leverage,
    hopt.settings]

variable (hreads : StepReadsAgree cfg₁ cfg₂ index)

include hreads

theorem accrue_funding_congr (s : SimState K) :
    accrue_funding cfg₁ s index = accrue_funding cfg₂ s index := by
  simp only [accrue_funding, hreads.bar.candle, hreads.funding_rate, hreads.funding_events,
    hopt.position_side]

omit [LinearOrder K] in
theorem mark_to_market_congr (s : SimState K) :
    mark_to_market cfg₁ s index = mark_to_market cfg₂ s index := by
  simp only [mark_to_market, hreads.bar.candle, hopt.position_side]

omit [LinearOrder K] in
theorem bar_trigger_price_congr : bar_trigger_price cfg₁ index = bar_trigger_price cfg₂ index := by
  simp only [bar_trigger_price, hreads.bar.candle, hopt.position_side, hopt.settings]

theorem liquidation_due_congr (s : SimState K) :
    liquidation_due cfg₁ s index = liquidation_due cfg₂ s index := by
  simp only [liquidation_due, triggered_at, bar_trigger_price_congr hopt hreads,
    position_liquidation_price_congr hopt, hopt.position_side]

/-- Both runs liquidate alike, if the flags at the bar are the same. -/
theorem liquidate_congr (m : PyMath K) (s : SimState K)
    (hstress : StressAgrees cfg₁ cfg₂ index) :
    liquidate m cfg₁ s index = liquidate m cfg₂ s index := by
  have hslippage := resolve_slippage_bps_congr hopt hreads.bar hstress m
  unfold liquidate liquidation_books step_ratio step_behavior position_liquidation_fee_bps
  simp only [position_liquidation_price_congr hopt, bar_trigger_price_congr hopt hreads,
    mark_to_market_congr hopt hreads, hslippage, hreads.bar.candle, hopt.position_side,
    hopt.settings, hopt.position_leverage, hopt.forces_full, hopt.explicit_ratio,
    hopt.explicit_schedule, hopt.taker_fee_bps]

variable (hstress : StressAgrees cfg₁ cfg₂ (fill_index cfg₁ index))

include hstress

/-- Both runs enter alike, if the flags at the fill bar are the same. -/
theorem enter_congr (m : PyMath K) (s : SimState K) (mark : K) :
    enter m cfg₁ s index mark = enter m cfg₂ s index mark := by
  have hquote := execution_quote_congr hopt hreads.fill hstress m
  rw [hreads.fill_bar] at hquote
  unfold enter
  simp only [hreads.fill_bar, hquote, hopt.position_leverage, fill_cost, hopt.taker_fee_bps]

/-- Both runs exit alike, if the flags at the fill bar are the same. -/
theorem exit_congr (m : PyMath K) (s : SimState K) (mark : K) :
    exit m cfg₁ s index mark = exit m cfg₂ s index mark := by
  have hquote := execution_quote_congr hopt hreads.fill hstress m
  rw [hreads.fill_bar] at hquote
  unfold exit
  simp only [hreads.fill_bar, hquote, hopt.position_side, fill_cost, hopt.taker_fee_bps]

end Branches

/-- The step lemma: where both configurations read the same, a bar does the
same. -/
theorem bar_step_congr (m : PyMath K) {cfg₁ cfg₂ : SimConfig K} {s : SimState K} {index : ℕ}
    (hopt : SameOptions cfg₁ cfg₂) (hreads : StepReadsAgree cfg₁ cfg₂ index)
    (hstress : PricedBarsAgree cfg₁ cfg₂ s index) :
    bar_step m cfg₁ s index = bar_step m cfg₂ s index := by
  obtain ⟨funding, hfunding⟩ := accrue_funding_frame cfg₁ s index
  obtain ⟨after, hafter⟩ : ∃ after : SimState K, after = { s with funding_spend := funding } :=
    ⟨_, rfl⟩
  -- what is asked of the flags does not read `funding_spend`, so it holds after the funding
  have hpriced : PricedBarsAgree cfg₁ cfg₂ after index := by
    subst hafter
    exact ⟨hstress.liquidation, hstress.order⟩
  unfold bar_step
  rw [← accrue_funding_congr hopt hreads, hfunding, ← hafter]
  simp only [← liquidation_due_congr hopt hreads, ← mark_to_market_congr hopt hreads,
    ← hreads.entry, ← hreads.exit]
  cases hliq : liquidation_due cfg₁ after index with
  | true =>
      simp only [if_true]
      exact liquidate_congr hopt hreads m after (hpriced.liquidation hliq)
  | false =>
      simp only [Bool.false_eq_true, if_false]
      by_cases hentry : after.position_open = false ∧ cfg₁.entry_signals.getD index false = true
      · rw [if_pos hentry, if_pos hentry]
        exact enter_congr hopt hreads (hpriced.order hliq (Or.inl hentry)) m after _
      · rw [if_neg hentry, if_neg hentry]
        by_cases hexit : after.position_open = true ∧ cfg₁.exit_signals.getD index false = true
            ∧ after.entry_index ≤ index
        · rw [if_pos hexit, if_pos hexit]
          exact exit_congr hopt hreads (hpriced.order hliq (Or.inr hexit)) m after _
        · rw [if_neg hexit, if_neg hexit]

/-! ## Snapshots that agree up to a bar -/

/-- The four microstructure series agree up to bar `b`. -/
structure MicroAgree (b : ℕ) (micro₁ micro₂ : Microstructure K) : Prop where
  spread_bps : AgreeUpTo b micro₁.spread_bps micro₂.spread_bps
  depth_bid_1bp_usd : AgreeUpTo b micro₁.depth_bid_1bp_usd micro₂.depth_bid_1bp_usd
  depth_ask_1bp_usd : AgreeUpTo b micro₁.depth_ask_1bp_usd micro₂.depth_ask_1bp_usd
  latency_proxy_ms : AgreeUpTo b micro₁.latency_proxy_ms micro₂.latency_proxy_ms

/-- The two snapshots have the same venue data, and all their per-bar series
agree at the bars `0..b`. -/
structure SnapshotsAgree (b : ℕ) (snap₁ snap₂ : DataSnapshot K) : Prop where
  venue : snap₁.venue = snap₂.venue
  venue_profile : snap₁.venue_profile = snap₂.venue_profile
  taker_fee_bps : snap₁.taker_fee_bps = snap₂.taker_fee_bps
  candles : AgreeUpTo b snap₁.candles snap₂.candles
  funding_rates : AgreeUpTo b snap₁.funding_rates snap₂.funding_rates
  open_interest : AgreeUpTo b snap₁.open_interest snap₂.open_interest
  liquidation_notional : AgreeUpTo b snap₁.liquidation_notional snap₂.liquidation_notional
  typed : MicroAgree b
    ⟨snap₁.spread_bps, snap₁.depth_bid_1bp_usd, snap₁.depth_ask_1bp_usd, snap₁.latency_proxy_ms⟩
    ⟨snap₂.spread_bps, snap₂.depth_bid_1bp_usd, snap₂.depth_ask_1bp_usd, snap₂.latency_proxy_ms⟩
  provenance : Option.Rel (MicroAgree b) snap₁.provenance_microstructure
    snap₂.provenance_microstructure

section Reads

variable {b f : ℕ} {snap₁ snap₂ : DataSnapshot K} (h : SnapshotsAgree b snap₁ snap₂) (hf : f ≤ b)
  (h₁ : f < snap₁.candles.length) (h₂ : f < snap₂.candles.length)

omit [LinearOrder K] in
include hf h₁ h₂ in
/-- Normalised dicts read the same at the bar. -/
theorem normalize_microstructure_read {micro₁ micro₂ : Microstructure K}
    (hm : MicroAgree b micro₁ micro₂) :
    (normalize_microstructure micro₁ snap₁.candles.length).map (fun x => x.read f)
      = (normalize_microstructure micro₂ snap₂.candles.length).map fun x => x.read f := by
  have hread : ∀ {xs ys : List K}, AgreeUpTo b xs ys →
      item (normalize_series xs snap₁.candles.length 0) (f : ℤ) 0
        = item (normalize_series ys snap₂.candles.length 0) (f : ℤ) 0 := by
    intro xs ys hxy
    rw [item_natCast, item_natCast]
    exact ((hxy.mono hf).normalize h₁ h₂ 0).getD (Nat.le_refl f) 0
  unfold normalize_microstructure
  rw [hm.spread_bps.isEmpty, hm.depth_bid_1bp_usd.isEmpty, hm.depth_ask_1bp_usd.isEmpty,
    hm.latency_proxy_ms.isEmpty]
  split_ifs
  · rfl
  · simp only [Option.map_some, Microstructure.read, hread hm.spread_bps,
      hread hm.depth_bid_1bp_usd, hread hm.depth_ask_1bp_usd, hread hm.latency_proxy_ms]

include hf h₁ h₂ in
/-- A z-score series computed from a padded series reads the same at the bar. -/
theorem padded_abs_zscores_read (m : PyMath K) {xs ys : List K} (hxy : AgreeUpTo b xs ys) :
    item (compute_abs_zscores m (pad_series xs snap₁.candles.length 0)) (f : ℤ) 0
      = item (compute_abs_zscores m (pad_series ys snap₂.candles.length 0)) (f : ℤ) 0 := by
  rw [item_natCast, item_natCast]
  exact (compute_abs_zscores_agree m ((hxy.mono hf).pad h₁ h₂ 0)).getD (Nat.le_refl f) 0

include h hf h₁ h₂

omit [LinearOrder K] in
/-- The loaded microstructure reads the same at the bar. -/
theorem SnapshotsAgree.load_microstructure_read :
    (load_microstructure_series snap₁ snap₁.candles.length).map (fun x => x.read f)
      = (load_microstructure_series snap₂ snap₂.candles.length).map fun x => x.read f := by
  have htyped := normalize_microstructure_read hf h₁ h₂ h.typed
  have hprovenance :
      (snap₁.provenance_microstructure.bind fun micro =>
          normalize_microstructure micro snap₁.candles.length).map (fun x => x.read f)
        = (snap₂.provenance_microstructure.bind fun micro =>
          normalize_microstructure micro snap₂.candles.length).map fun x => x.read f := by
    have hrel := h.provenance
    revert hrel
    generalize snap₁.provenance_microstructure = p₁
    generalize snap₂.provenance_microstructure = p₂
    intro hrel
    cases hrel with
    | none => rfl
    | some hm => exact normalize_microstructure_read hf h₁ h₂ hm
  unfold load_microstructure_series
  dsimp only
  rw [Option.map_or, Option.map_or, htyped, hprovenance]

/-- The rolling volatility reads the same at the bar. -/
theorem SnapshotsAgree.roll_vol_read (m : PyMath K) :
    item (compute_roll_vol_series m snap₁.closes) (f : ℤ) 0
      = item (compute_roll_vol_series m snap₂.closes) (f : ℤ) 0 := by
  have hentry : ∀ closes : List K, f < closes.length →
      (compute_roll_vol_series m closes).getD f 0 = roll_vol_at m closes f := by
    intro closes hlt
    rw [compute_roll_vol_series, List.getD_eq_getElem _ _ (by simpa using hlt), List.getElem_map,
      List.getElem_range]
  rw [item_natCast, item_natCast, hentry _ (by simpa [DataSnapshot.closes] using h₁),
    hentry _ (by simpa [DataSnapshot.closes] using h₂)]
  exact roll_vol_at_congr m (h.candles.map Candle.close) hf

/-- The causal data of a bar both snapshots have and agree on are the same. -/
theorem SnapshotsAgree.bar_reads (m : PyMath K) (args₁ args₂ : SimArguments K)
    (hmodel : args₁.slippage_model = args₂.slippage_model) (side : PositionSide)
    (settings : LiquidationSettings K) :
    BarReadsAgree (sim_config m snap₁ args₁ side settings)
      (sim_config m snap₂ args₂ side settings) (f : ℤ) := by
  have hoi : item snap₁.open_interest (f : ℤ) 0 = item snap₂.open_interest (f : ℤ) 0 := by
    rw [item_natCast, item_natCast]
    exact h.open_interest.getD hf 0
  have hmicro := h.load_microstructure_read hf h₁ h₂
  have hroll := h.roll_vol_read hf h₁ h₂ m
  have hfunding := padded_abs_zscores_read hf h₁ h₂ m h.funding_rates
  have hliquidation := padded_abs_zscores_read hf h₁ h₂ m h.liquidation_notional
  -- the context is that of one of two models, the same one in both runs
  have hcontext : ∀ dynamic realistic : Bool,
      (let ctx₁ := prepare_sim_context m snap₁ dynamic realistic
       let ctx₂ := prepare_sim_context m snap₂ dynamic realistic
       item ctx₁.roll_vol (f : ℤ) 0 = item ctx₂.roll_vol (f : ℤ) 0
        ∧ item ctx₁.open_interest (f : ℤ) 0 = item ctx₂.open_interest (f : ℤ) 0
        ∧ item ctx₁.funding_z (f : ℤ) 0 = item ctx₂.funding_z (f : ℤ) 0
        ∧ item ctx₁.liquidation_z (f : ℤ) 0 = item ctx₂.liquidation_z (f : ℤ) 0
        ∧ ctx₁.microstructure.map (fun x => x.read f)
          = ctx₂.microstructure.map fun x => x.read f) := by
    intro dynamic realistic
    unfold prepare_sim_context
    split_ifs
    · exact ⟨hroll, hoi, hfunding, hliquidation, hmicro⟩
    · exact ⟨rfl, hoi, rfl, rfl, hmicro⟩
  -- both runs have the same model name
  obtain ⟨hc₁, hc₂, hc₃, hc₄, hc₅⟩ := hcontext (args₂.slippage_model == "dynamic")
    (args₂.slippage_model == "realistic")
  refine ⟨?_, ?_, ?_, ?_, ?_, ?_⟩
  · simp only [SimConfig.candle, sim_config, item_natCast]
    exact h.candles.getD hf Candle.missing
  all_goals
    simp only [SimConfig.micro_at, sim_config, hmodel]
    assumption

omit [LinearOrder K] in
/-- The settlements charged on a bar both snapshots have and agree on are the
same. -/
theorem SnapshotsAgree.funding_events_read :
    (compute_funding_event_counts snap₁.candles snap₁.venue).getD f 0
      = (compute_funding_event_counts snap₂.candles snap₂.venue).getD f 0 := by
  have hentry : ∀ (candles : List (Candle K)) (venue : String), f < candles.length →
      (compute_funding_event_counts candles venue).getD f 0
        = (funding_event_count_at candles venue f : ℤ) := by
    intro candles venue hlt
    have hrange : f < (List.range candles.length).length := by
      rw [List.length_range]
      exact hlt
    unfold compute_funding_event_counts
    rw [List.getD_eq_getElem?_getD, List.getElem?_map, List.getElem?_eq_getElem hrange,
      List.getElem_range, Option.map_some, Option.getD_some]
  rw [hentry _ _ h₁, hentry _ _ h₂, h.venue]
  unfold funding_event_count_at
  rw [h.candles.getD hf Candle.missing,
    h.candles.getD (le_trans (Nat.sub_le f 1) hf) Candle.missing]

end Reads

/-! ## The run -/

/-- The same arguments with other signals. -/
def SimArguments.with_signals (args : SimArguments K) (entry_signals exit_signals : List Bool) :
    SimArguments K :=
  { args with entry_signals := entry_signals, exit_signals := exit_signals }

/-- The options are resolved from the venue profile and the arguments; the series
and the signals are not read. -/
theorem check_options_congr {snap₁ snap₂ : DataSnapshot K} (args : SimArguments K)
    (entry_signals exit_signals : List Bool) (h : snap₁.venue_profile = snap₂.venue_profile) :
    check_options snap₂ (args.with_signals entry_signals exit_signals)
      = check_options snap₁ args := by
  unfold check_options resolve_liquidation_defaults liquidation_style_is_partial
  rw [h]
  rfl

omit [Field K] [LinearOrder K] in
/-- Snapshots that agree up to a bar end before it together. -/
theorem SnapshotsAgree.length_min {b : ℕ} {snap₁ snap₂ : DataSnapshot K}
    (h : SnapshotsAgree b snap₁ snap₂) :
    min (b + 1) snap₁.candles.length = min (b + 1) snap₂.candles.length := by
  have hlen := congrArg List.length h.candles
  rwa [List.length_take, List.length_take] at hlen

/-- The whole-series flags agree wherever a bar up to `i` prices something. -/
def FlagsAgree (m : PyMath K) (cfg₁ cfg₂ : SimConfig K) (i : ℕ) : Prop :=
  ∀ index, index ≤ i →
    PricedBarsAgree cfg₁ cfg₂ (stateAt (bar_step m cfg₁) SimState.initial index) index

section Run

variable {i : ℕ} {snap₁ snap₂ : DataSnapshot K} {args : SimArguments K}
  {entry₂ exit₂ : List Bool}

/-- Everything bars up to `i` read, the flags aside, is the same. -/
theorem SnapshotsAgree.step_reads (m : PyMath K) (side : PositionSide)
    (settings : LiquidationSettings K)
    (h : SnapshotsAgree (i + args.latency_bars.toNat) snap₁ snap₂)
    (hlatency : 0 ≤ args.latency_bars) (hentry : AgreeUpTo i args.entry_signals entry₂)
    (hexit : AgreeUpTo i args.exit_signals exit₂) (hlast₁ : i + 1 < snap₁.candles.length)
    (hlast₂ : i + 1 < snap₂.candles.length) {index : ℕ} (hindex : index ≤ i) :
    StepReadsAgree (sim_config m snap₁ args side settings)
      (sim_config m snap₂ (args.with_signals entry₂ exit₂) side settings) index := by
  have hlen := h.length_min
  have hbound : index ≤ i + args.latency_bars.toNat := by omega
  -- the fill bar, as a natural number: it is on both snapshots and within the agreement
  obtain ⟨fill, hfill⟩ : ∃ fill : ℕ, (fill : ℤ)
      = min ((index : ℤ) + args.latency_bars) ((snap₁.candles.length : ℤ) - 1) :=
    ⟨_, Int.toNat_of_nonneg (by omega)⟩
  -- either no snapshot ends before the fill bar, or both end together
  have hfill₂ : (fill : ℤ)
      = min ((index : ℤ) + args.latency_bars) ((snap₂.candles.length : ℤ) - 1) := by omega
  have hreads := h.bar_reads (f := index) hbound (by omega) (by omega) m args
    (args.with_signals entry₂ exit₂) rfl side settings
  have hfill_reads := h.bar_reads (f := fill) (by omega) (by omega) (by omega) m args
    (args.with_signals entry₂ exit₂) rfl side settings
  have hfill_index : fill_index (sim_config m snap₁ args side settings) index = fill :=
    hfill.symm
  exact
    { bar := hreads
      fill_bar := hfill_index.trans hfill₂
      fill := by rw [hfill_index]; exact hfill_reads
      funding_rate := h.funding_rates.getD hbound 0
      funding_events := h.funding_events_read hbound (by omega) (by omega)
      entry := hentry.getD hindex false
      exit := hexit.getD hindex false }

variable [FloorRing K]

end Run

/-! ## A pair of runs that agrees and one that does not -/

/-- Five bars with a crash on the fourth; the last bar's open interest and close
are left open. -/
def crash_snapshot (last_open_interest last_close : ℚ) : DataSnapshot ℚ where
  venue := "paper"
  timeframe := "1h"
  candles :=
    [⟨0, 100, 100, 100⟩, ⟨1, 120, 120, 120⟩, ⟨2, 120, 120, 120⟩, ⟨3, 96, 96, 96⟩,
      ⟨4, last_close, last_close, last_close⟩]
  funding_rates := [0, 0, 0, 0, 0]
  open_interest := [50, 50, 50, 96, last_open_interest]
  liquidation_notional := []
  taker_fee_bps := 0
  spread_bps := []
  depth_bid_1bp_usd := []
  depth_ask_1bp_usd := []
  latency_proxy_ms := []
  venue_profile := none
  provenance_microstructure := none

/-- An unleveraged long entry on the fourth bar under the dynamic model. -/
def crash_args : SimArguments ℚ :=
  plain_args [false, false, false, true, false] [false, false, false, false, false] 0 0 1 "dynamic"

theorem crash_check (last_open_interest last_close : ℚ) :
    check_arguments (crash_snapshot last_open_interest last_close) crash_args
      = .ok (.long, plain_settings) :=
  check_arguments_plain 0 "dynamic" rfl ⟨rfl, rfl⟩ (by decide) (by norm_num)

theorem crash_run (last_open_interest last_close : ℚ) :
    ∃ r, simulate_strategy PyMath.rat (crash_snapshot last_open_interest last_close) crash_args
      = .ok r :=
  ⟨_, by rw [simulate_strategy, crash_check]; rfl⟩

theorem crash_snapshots_agree (last_open_interest last_close : ℚ) :
    SnapshotsAgree 3 (crash_snapshot 50 96) (crash_snapshot last_open_interest last_close) where
  venue := rfl
  venue_profile := rfl
  taker_fee_bps := rfl
  candles := rfl
  funding_rates := rfl
  open_interest := rfl
  liquidation_notional := rfl
  typed := ⟨rfl, rfl, rfl, rfl⟩
  provenance := Option.Rel.none

end ProofAlpha.Backtest
