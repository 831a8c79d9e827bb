/-
The batch simulator against the reference simulator: where
`_simulate_single_python` computes what `simulate_strategy` does under the flat
slippage model.

Both loops carry a `SimState`. They keep the same books but not the same
liquidation bookkeeping: `simulate_strategy` keeps a cooldown across positions
and liquidates on the entry bar, `_simulate_single_python` does neither. So the
relation between the two runs leaves the cooldown and the step index of a closed
position free, and `BarMatches` says when a bar does not expose them.
-/
import ProofAlpha.Backtest.Simulator
import ProofAlpha.Backtest.SimulatorNumba

set_option autoImplicit false

namespace ProofAlpha.Backtest

open ProofAlpha.Lib ProofAlpha.Lib.PyList ProofAlpha.Lib.IndexedLoop

variable {K : Type} [Field K] [LinearOrder K]

/-! ## The same parameters -/

/-- `_simulate_single_python` is run on the series, signals and options that
`simulate_strategy` runs its loop with, under the flat model. -/
structure SameParameters (cfg : SimConfig K) (inp : BatchInput K) : Prop where
  closes : inp.closes = cfg.candles.map Candle.close
  highs : inp.highs = cfg.candles.map Candle.high
  lows : inp.lows = cfg.candles.map Candle.low
  funding_rates : inp.funding_rates = cfg.funding_rates
  event_counts : inp.event_counts = cfg.funding_event_counts
  entry_signals : inp.entry_signals = cfg.entry_signals
  exit_signals : inp.exit_signals = cfg.exit_signals
  taker_fee_bps : inp.taker_fee_bps = cfg.taker_fee_bps
  slippage_bps : inp.slippage_bps = cfg.slippage_bps
  latency_bars : inp.latency_bars = cfg.latency_bars
  position_side : inp.position_side = cfg.position_side
  position_leverage : inp.position_leverage = cfg.position_leverage
  settings : inp.settings = cfg.settings
  model : inp.model = "flat"
  not_dynamic : cfg.use_dynamic_slippage = false
  not_realistic : cfg.use_realistic_slippage = false

/-- An order filled whole at the close, at the flat slippage. -/
def flat_quote (cfg : SimConfig K) (bar : ℤ) (size : K) : FillQuote K :=
  ⟨1, size, cfg.slippage_bps, 0, (cfg.candle bar).close⟩

section SameParameters

variable {cfg : SimConfig K} {inp : BatchInput K} (hp : SameParameters cfg inp)

include hp

omit [Field K] [LinearOrder K] in
theorem SameParameters.bars_eq : inp.bars = cfg.bars := by
  rw [BatchInput.bars, hp.closes, List.length_map, SimConfig.bars]

omit [LinearOrder K] in
theorem SameParameters.close_eq (index : ℤ) : inp.close index = (cfg.candle index).close := by
  rw [BatchInput.close, hp.closes]
  exact item_map Candle.close cfg.candles index Candle.missing

omit [Field K] [LinearOrder K] in
theorem SameParameters.fill_index_eq (index : ℕ) :
    batch_fill_index inp index = fill_index cfg index := by
  rw [batch_fill_index, fill_index, hp.latency_bars, hp.bars_eq]

omit [LinearOrder K] in
/-- Both simulators compare with the same trigger price. -/
theorem SameParameters.trigger_price_eq (index : ℕ) :
    batch_trigger_price inp index = bar_trigger_price cfg index := by
  have hhigh : inp.highs.getD index 0 = (cfg.candle index).high := by
    rw [hp.highs, SimConfig.candle, item_natCast]
    exact List.getD_map _ Candle.missing Candle.high
  have hlow : inp.lows.getD index 0 = (cfg.candle index).low := by
    rw [hp.lows, SimConfig.candle, item_natCast]
    exact List.getD_map _ Candle.missing Candle.low
  rw [batch_trigger_price, bar_trigger_price, hhigh, hlow, hp.close_eq, hp.position_side,
    hp.settings]

/-- Both simulators liquidate at the same price. -/
theorem SameParameters.liquidation_price_eq (s : SimState K) :
    single_liquidation_price inp s = position_liquidation_price cfg s := by
  rw [single_liquidation_price, position_liquidation_price, batch_liquidation_price,
    hp.position_side, hp.position_leverage, hp.settings]
  cases cfg.position_side with
  | long =>
      simp only [liquidation_price]
      ring
  | short =>
      simp only [liquidation_price]
      ring

/-! ## The flat model -/

/-- Under the flat model `simulate_strategy` fills an order whole at the close. -/
theorem SameParameters.execution_quote_eq (m : PyMath K) (bar : ℤ) (size : K) (is_entry : Bool) :
    execution_quote m cfg bar size is_entry = flat_quote cfg bar size := by
  simp [execution_quote, resolve_execution_fill_ratio, resolve_slippage_bps, flat_quote,
    resolve_execution_adverse_fill_bps, apply_adverse_fill_price, hp.not_realistic, hp.not_dynamic]

/-- Under the flat model `_simulate_single_python` fills an order whole at the
close. -/
theorem SameParameters.batch_execution_quote_eq (m : PyMath K) (ctx : SlippageContext K)
    (bar : ℤ) (size : K) (is_entry : Bool) :
    batch_execution_quote m inp ctx bar size is_entry = flat_quote cfg bar size := by
  have hne : ("flat" : String) ≠ "realistic" := by decide
  have hbeq : (("flat" : String) == "realistic") = false := by decide
  simp [batch_execution_quote, resolve_batch_execution_fill_ratio, resolve_batch_slippage_bps,
    resolve_execution_adverse_fill_bps, apply_adverse_fill_price, flat_quote, hp.model, hne, hbeq,
    hp.close_eq, hp.slippage_bps]

/-- Under the flat model every slippage lookup is the flat rate. -/
theorem SameParameters.slippage_eq (m : PyMath K) (ctx : SlippageContext K) (notional : K)
    (bar : ℤ) :
    resolve_slippage_bps m cfg notional bar = cfg.slippage_bps
      ∧ resolve_batch_slippage_bps m ctx inp.model inp.slippage_bps notional bar
        = cfg.slippage_bps := by
  constructor
  · simp [resolve_slippage_bps, hp.not_realistic, hp.not_dynamic]
  · rw [resolve_batch_slippage_bps, if_pos hp.model, hp.slippage_bps]

end SameParameters

variable [IsStrictOrderedRing K]

/-- Where the notional is not negative, the absolute value `_apply_trade_cost`
takes changes nothing. -/
theorem apply_trade_cost_of_nonneg {notional : K} (h : 0 ≤ notional) (fee_bps slippage_bps : K) :
    apply_trade_cost notional fee_bps slippage_bps
      = notional * ((fee_bps + slippage_bps) / 10000) := by
  rw [apply_trade_cost, abs_of_nonneg h, bps_to_decimal]

/-! ## Step behaviour -/

/-- `simulate_strategy` looks at the tier's own schedule or ratio. -/
def ReferenceReadsTier (cfg : SimConfig K) : Prop :=
  (cfg.profile_forces_full_liquidation || cfg.explicit_liquidation_step_schedule
    || cfg.explicit_partial_liquidation_ratio) = false

/-- Both simulators, or neither, take the step behaviour of the tier the position
falls in, or the tier prescribes nothing of its own. -/
def StepBehaviorMatches (cfg : SimConfig K) (s : SimState K) : Prop :=
  TierNeutral cfg.position_leverage (position_notional s) cfg.settings.partial_liquidation_ratio
      cfg.settings.maintenance_margin_schedule
    ∨ (ReferenceReadsTier cfg ↔ SingleReadsTier cfg.settings)

/-- The checked configurations: leverage of at least one, valid settings, and a
venue that forces full liquidations resolved to one. -/
structure SimConfig.Checked (cfg : SimConfig K) : Prop where
  leverage : 1 ≤ cfg.position_leverage
  settings : cfg.settings.Valid
  forces_full : cfg.profile_forces_full_liquidation = true →
    cfg.settings.liquidation_step_schedule = none ∧ cfg.settings.partial_liquidation_ratio = 1

omit [IsStrictOrderedRing K] in
/-- Where `StepBehaviorMatches`, both simulators step through the same schedule. -/
theorem SameParameters.step_behavior_eq {cfg : SimConfig K} {inp : BatchInput K}
    (hp : SameParameters cfg inp) (hc : cfg.Checked) {s : SimState K}
    (h : StepBehaviorMatches cfg s) : single_step_behavior inp s = step_behavior cfg s := by
  have href : step_behavior cfg s
      = if cfg.profile_forces_full_liquidation || cfg.explicit_liquidation_step_schedule
            || cfg.explicit_partial_liquidation_ratio then
          (cfg.settings.liquidation_step_schedule, cfg.settings.partial_liquidation_ratio)
        else tier_step_behavior cfg.position_leverage (position_notional s)
          cfg.settings.partial_liquidation_ratio cfg.settings.liquidation_step_schedule
          cfg.settings.maintenance_margin_schedule :=
    resolve_liquidation_step_behavior_eq _ _ _ _ _ _ _ _ hc.forces_full
  by_cases hs : SingleReadsTier inp.settings
  · rw [single_step_behavior_tier inp s hs, hp.position_leverage, hp.settings, href]
    by_cases hr : ReferenceReadsTier cfg
    · rw [if_neg (Bool.eq_false_iff.mp hr)]
    · rw [if_pos (Bool.not_eq_false _ ▸ hr)]
      -- only the batch loop looks at the tier, which then prescribes nothing of its own
      have hneutral := h.resolve_right fun hiff => hr (hiff.mpr (hp.settings ▸ hs))
      exact tier_step_behavior_neutral _ hneutral
  · rw [single_step_behavior_explicit inp s hs, hp.settings, href]
    by_cases hr : ReferenceReadsTier cfg
    · rw [if_neg (Bool.eq_false_iff.mp hr)]
      -- only the reference looks at the tier
      have hneutral := h.resolve_right fun hiff => hs (hp.settings ▸ hiff.mp hr)
      exact (tier_step_behavior_neutral _ hneutral).symm
    · rw [if_pos (Bool.not_eq_false _ ▸ hr)]

/-! ## The relation between the two runs -/

/-- The reference state with another cooldown and step index. -/
def SimState.rebook (s : SimState K) (cooldown : ℤ) (step_index : ℕ) : SimState K :=
  { s with liquidation_cooldown_until := cooldown, liquidation_step_index := step_index }

omit [Field K] [LinearOrder K] [IsStrictOrderedRing K] in
@[simp] theorem SimState.rebook_position_open (s : SimState K) (cooldown : ℤ) (step_index : ℕ) :
    (s.rebook cooldown step_index).position_open = s.position_open := rfl

omit [Field K] [LinearOrder K] [IsStrictOrderedRing K] in
@[simp] theorem SimState.rebook_position_size (s : SimState K) (cooldown : ℤ) (step_index : ℕ) :
    (s.rebook cooldown step_index).position_size = s.position_size := rfl

omit [Field K] [LinearOrder K] [IsStrictOrderedRing K] in
@[simp] theorem SimState.rebook_entry_index (s : SimState K) (cooldown : ℤ) (step_index : ℕ) :
    (s.rebook cooldown step_index).entry_index = s.entry_index := rfl

/-- The two states have the same books, and while a position is open the same
step index. -/
def SameBooks (r t : SimState K) : Prop :=
  ∃ cooldown step_index, t = r.rebook cooldown step_index
    ∧ (r.position_open = true → step_index = r.liquidation_step_index)

/-- An open position has no negative price or size. -/
def PositionSound (s : SimState K) : Prop :=
  s.position_open = true → 0 ≤ s.entry_price ∧ 0 ≤ s.position_size

/-- On a bar in state `r` of the reference run and `t` of the batch run: if the
trigger price is crossed, both or neither are past the entry bar and the
cooldown; a liquidation steps alike; and an order is filled at a close that is
not negative. -/
structure BarMatches (cfg : SimConfig K) (r t : SimState K) (index : ℕ) : Prop where
  due : triggered_at cfg r index = true →
    ((r.entry_index ≤ index ∧ r.liquidation_cooldown_until < index)
      ↔ (t.entry_index < index ∧ t.liquidation_cooldown_until < index))
  steps : liquidation_due cfg r index = true → StepBehaviorMatches cfg r
  order : liquidation_due cfg r index = false →
    ((r.position_open = false ∧ cfg.entry_signals.getD index false = true)
      ∨ (r.position_open = true ∧ cfg.exit_signals.getD index false = true
        ∧ r.entry_index ≤ index)) →
    0 ≤ (cfg.candle (fill_index cfg index)).close

omit [IsStrictOrderedRing K] in
/-- The closing test does not read the liquidation bookkeeping. -/
theorem close_if_flat_rebook (s : SimState K) (cooldown : ℤ) (step_index : ℕ) :
    close_if_flat (s.rebook cooldown step_index)
      = (close_if_flat s).rebook cooldown step_index := by
  have hflat : is_flat (s.rebook cooldown step_index) ↔ is_flat s := Iff.rfl
  unfold close_if_flat
  simp only [hflat]
  split_ifs <;> rfl

/-- After the closing test, an open position is sound if its entry price is. -/
theorem close_if_flat_sound {s : SimState K}
    (hentry : s.position_open = true → 0 ≤ s.entry_price) : PositionSound (close_if_flat s) := by
  unfold close_if_flat
  split_ifs with hflat
  · exact fun h => absurd h Bool.false_ne_true
  · intro hopen
    exact ⟨hentry hopen, le_trans (by norm_num) (not_le.mp hflat).le⟩

section Step

variable {cfg : SimConfig K} {inp : BatchInput K} (hp : SameParameters cfg inp)
  (hc : cfg.Checked)

include hp

omit [IsStrictOrderedRing K] in
/-- Both loops add the same funding and touch nothing else. -/
theorem SameParameters.accrue_eq (r : SimState K) (cooldown : ℤ) (step_index : ℕ) (index : ℕ) :
    ∃ funding, accrue_funding cfg r index = { r with funding_spend := funding }
      ∧ batch_accrue_funding inp (r.rebook cooldown step_index) index
        = SimState.rebook { r with funding_spend := funding } cooldown step_index := by
  unfold accrue_funding batch_accrue_funding
  by_cases hopen : r.position_open = true
  · have hopen' : (r.rebook cooldown step_index).position_open = true := hopen
    refine ⟨_, if_pos hopen, ?_⟩
    rw [if_pos hopen']
    simp only [SimState.rebook, hp.close_eq, hp.funding_rates, hp.position_side,
      hp.event_counts, apply_funding]
  · have hopen' : ¬(r.rebook cooldown step_index).position_open = true := hopen
    refine ⟨r.funding_spend, if_neg hopen, ?_⟩
    rw [if_neg hopen']

omit [LinearOrder K] [IsStrictOrderedRing K] in
/-- Both loops mark the bar alike. -/
theorem SameParameters.mark_eq (r : SimState K) (cooldown : ℤ) (step_index : ℕ) (index : ℕ) :
    batch_mark inp (r.rebook cooldown step_index) index = mark_to_market cfg r index := by
  simp only [batch_mark, mark_to_market, SimState.rebook, equity_mark, unrealized_pnl,
    hp.close_eq, hp.position_side]

omit [IsStrictOrderedRing K] in
/-- Both loops liquidate on a bar that matches, or neither does. -/
theorem SameParameters.liquidation_due_eq {r : SimState K} {cooldown : ℤ} {step_index : ℕ}
    {index : ℕ} (h : BarMatches cfg r (r.rebook cooldown step_index) index) :
    single_liquidation_due inp (r.rebook cooldown step_index) index
      = liquidation_due cfg r index := by
  have htriggered : single_triggered_at inp (r.rebook cooldown step_index) index
      = triggered_at cfg r index := by
    have hprice := hp.liquidation_price_eq (r.rebook cooldown step_index)
    rw [single_triggered_at, triggered_at, hp.trigger_price_eq, hprice, hp.position_side]
    rfl
  unfold single_liquidation_due liquidation_due
  rw [htriggered]
  cases htrig : triggered_at cfg r index with
  | false => rfl
  | true =>
      have hdue := h.due htrig
      simp only [Bool.true_and, ← Bool.decide_and, decide_eq_decide]
      exact hdue.symm

include hc

/-- The liquidation of a sound position costs the same in both simulators: its
notional is not negative. -/
theorem SameParameters.liquidation_cost_eq (m : PyMath K) (ctx : SlippageContext K)
    {r : SimState K} (index : ℕ) (hopen : r.position_open = true) (hsound : PositionSound r) :
    position_liquidation_price cfg r * (r.position_size * step_ratio cfg r)
        * ((inp.taker_fee_bps + cfg.slippage_bps + position_liquidation_fee_bps cfg r) / 10000)
      = apply_trade_cost (position_liquidation_price cfg r * (r.position_size * step_ratio cfg r))
          (cfg.taker_fee_bps + position_liquidation_fee_bps cfg r)
          (resolve_slippage_bps m cfg
            (position_liquidation_price cfg r * (r.position_size * step_ratio cfg r)) index) := by
  obtain ⟨hentry, hsize⟩ := hsound hopen
  have hmargin := hc.settings.resolve_margin cfg.position_leverage (position_notional r)
  have hshare : IsStepRatio (step_ratio cfg r) :=
    hc.settings.step_ratio cfg.position_leverage (position_notional r)
      cfg.profile_forces_full_liquidation cfg.explicit_partial_liquidation_ratio
      cfg.explicit_liquidation_step_schedule r.liquidation_step_index
  have hprice : 0 ≤ position_liquidation_price cfg r :=
    liquidation_price_nonneg _ hentry hc.leverage hmargin
  rw [apply_trade_cost_of_nonneg (mul_nonneg hprice (mul_nonneg hsize hshare.1.le)),
    (hp.slippage_eq m ctx _ _).1, hp.taker_fee_bps]
  ring

/-- On a sound position the liquidation branch of `_simulate_single_python` ends
with the books `liquidate` computes before its closing test. -/
theorem SameParameters.single_liquidate_eq (m : PyMath K) (ctx : SlippageContext K)
    {r : SimState K} (cooldown : ℤ) (index : ℕ) (hopen : r.position_open = true)
    (hsound : PositionSound r) (hsteps : StepBehaviorMatches cfg r) :
    single_liquidate m inp ctx (r.rebook cooldown r.liquidation_step_index) index
      = if is_flat (liquidation_books m cfg r index) then
          (end_liquidated_position (liquidation_books m cfg r index),
            equity_mark (end_liquidated_position (liquidation_books m cfg r index)) 0)
        else
          (liquidation_books m cfg r index,
            equity_mark (liquidation_books m cfg r index) (unrealized_pnl (cfg.candle index).close
              cfg.position_side (liquidation_books m cfg r index))) := by
  have hprice : single_liquidation_price inp (r.rebook cooldown r.liquidation_step_index)
      = position_liquidation_price cfg r := hp.liquidation_price_eq _
  have hratio : single_liquidation_ratio inp (r.rebook cooldown r.liquidation_step_index)
      = step_ratio cfg r := by
    have hbehavior : single_step_behavior inp (r.rebook cooldown r.liquidation_step_index)
        = step_behavior cfg r := hp.step_behavior_eq hc hsteps
    rw [single_liquidation_ratio, hbehavior, step_ratio]
    rfl
  have hfee : single_liquidation_fee_bps inp (r.rebook cooldown r.liquidation_step_index)
      = position_liquidation_fee_bps cfg r := by
    rw [single_liquidation_fee_bps, position_liquidation_fee_bps, hp.position_leverage,
      hp.settings]
    rfl
  have hcost := hp.liquidation_cost_eq hc m ctx index hopen hsound
  have hbooks : ({ realize (r.rebook cooldown r.liquidation_step_index)
        (r.position_size * step_ratio cfg r)
        (price_delta (position_liquidation_price cfg r) r.entry_price cfg.position_side
          * (r.position_size * step_ratio cfg r))
        (position_liquidation_price cfg r * (r.position_size * step_ratio cfg r)
          * ((inp.taker_fee_bps + cfg.slippage_bps + position_liquidation_fee_bps cfg r) / 10000))
      with
        liquidation_cooldown_until := index + cfg.settings.liquidation_cooldown_bars
        liquidation_step_index := r.liquidation_step_index + 1 } : SimState K)
      = liquidation_books m cfg r index := by
    rw [hcost, liquidation_books]
    rfl
  unfold single_liquidate
  simp only [hprice, hratio, hfee, (hp.slippage_eq m ctx _ _).2]
  unfold batch_liquidate
  simp only [hp.position_side, hp.settings, hp.close_eq]
  rw [← hbooks]
  rfl

omit hc in
/-- A fill of non-negative size at a close that is not negative costs the same in
both simulators. -/
theorem SameParameters.fill_cost_eq {bar : ℤ} {size : K} (hclose : 0 ≤ (cfg.candle bar).close)
    (hsize : 0 ≤ size) :
    batch_fill_cost inp (flat_quote cfg bar size) = fill_cost cfg (flat_quote cfg bar size) := by
  unfold batch_fill_cost fill_cost flat_quote
  dsimp only
  rw [if_neg (lt_irrefl 0), apply_trade_cost_of_nonneg (mul_nonneg hclose hsize),
    hp.taker_fee_bps]

/-- The entry branches agree. -/
theorem SameParameters.enter_matches (m : PyMath K) (ctx : SlippageContext K) {r : SimState K}
    (cooldown : ℤ) (step_index index : ℕ) (mark : K) (hopen : r.position_open = false)
    (hclose : 0 ≤ (cfg.candle (fill_index cfg index)).close) :
    let ref := enter m cfg r index mark
    let single := batch_enter inp (r.rebook cooldown step_index) (batch_fill_index inp index)
      (batch_execution_quote m inp ctx (batch_fill_index inp index) inp.position_leverage true) mark
    (SameBooks ref.1 single.1 ∧ PositionSound ref.1) ∧ ref.2.equity = single.2 := by
  have hleverage : 0 ≤ cfg.position_leverage := le_trans zero_le_one hc.leverage
  have hcost := hp.fill_cost_eq hclose hleverage
  dsimp only
  unfold enter batch_enter
  rw [hp.execution_quote_eq, hp.batch_execution_quote_eq, hp.fill_index_eq, hp.position_leverage,
    hcost]
  by_cases hsmall : (flat_quote cfg (fill_index cfg index) cfg.position_leverage).executed_size
      ≤ 1e-9
  · simp only [if_pos hsmall]
    -- nothing is executed and both states stay as they are
    refine ⟨⟨⟨cooldown, step_index, rfl, fun h => ?_⟩, fun h => ?_⟩, trivial⟩
    · exact absurd h (by rw [hopen]; exact Bool.false_ne_true)
    · exact absurd h (by rw [hopen]; exact Bool.false_ne_true)
  · simp only [if_neg hsmall]
    -- the batch loop resets its cooldown here, the reference keeps its own
    exact ⟨⟨⟨-1, 0, rfl, fun _ => rfl⟩, fun _ => ⟨hclose, hleverage⟩⟩, rfl⟩

omit hc in
/-- The exit branches agree on a sound position. -/
theorem SameParameters.exit_matches (m : PyMath K) (ctx : SlippageContext K) {r : SimState K}
    (cooldown : ℤ) (index : ℕ) (mark : K) (hopen : r.position_open = true)
    (hsound : PositionSound r) (hclose : 0 ≤ (cfg.candle (fill_index cfg index)).close) :
    let ref := exit m cfg r index mark
    let t := r.rebook cooldown r.liquidation_step_index
    let single := batch_exit inp t
      (batch_execution_quote m inp ctx (batch_fill_index inp index) t.position_size false) mark
    (SameBooks ref.1 single.1 ∧ PositionSound ref.1) ∧ ref.2.equity = single.2 := by
  obtain ⟨hentry, hsize⟩ := hsound hopen
  have hcost := hp.fill_cost_eq hclose hsize
  have hquote : batch_execution_quote m inp ctx (batch_fill_index inp index)
      (r.rebook cooldown r.liquidation_step_index).position_size false
      = flat_quote cfg (fill_index cfg index) r.position_size := by
    rw [hp.batch_execution_quote_eq, hp.fill_index_eq]
    rfl
  dsimp only
  rw [hquote]
  unfold exit batch_exit
  rw [hp.execution_quote_eq, hcost, hp.position_side]
  by_cases hsmall : (flat_quote cfg (fill_index cfg index) r.position_size).executed_size ≤ 1e-9
  · simp only [if_pos hsmall]
    exact ⟨⟨⟨cooldown, _, rfl, fun _ => rfl⟩, hsound⟩, trivial⟩
  · simp only [if_neg hsmall]
    generalize fill_cost cfg (flat_quote cfg (fill_index cfg index) r.position_size) = cost
    generalize flat_quote cfg (fill_index cfg index) r.position_size = q
    have hbooks : exit_books cfg.position_side (r.rebook cooldown r.liquidation_step_index) q cost
        = (exit_books cfg.position_side r q cost).rebook cooldown r.liquidation_step_index := rfl
    rw [hbooks, close_if_flat_rebook]
    refine ⟨⟨⟨cooldown, _, rfl, fun _ => ?_⟩, close_if_flat_sound fun _ => ?_⟩, rfl⟩
    · unfold close_if_flat
      split_ifs <;> rfl
    · exact hentry

omit hc in
/-- The liquidation branches agree on a sound position. -/
theorem SameParameters.liquidate_matches (hc : cfg.Checked) (m : PyMath K)
    (ctx : SlippageContext K) {r : SimState K} (cooldown : ℤ) (index : ℕ)
    (hopen : r.position_open = true) (hsound : PositionSound r)
    (hsteps : StepBehaviorMatches cfg r) :
    let ref := liquidate m cfg r index
    let single := single_liquidate m inp ctx (r.rebook cooldown r.liquidation_step_index) index
    (SameBooks ref.1 single.1 ∧ PositionSound ref.1) ∧ ref.2.equity = single.2 := by
  dsimp only
  rw [hp.single_liquidate_eq hc m ctx cooldown index hopen hsound hsteps]
  unfold liquidate
  have hbooks_open : (liquidation_books m cfg r index).position_open = true := hopen
  have hsound' : PositionSound (close_if_flat (liquidation_books m cfg r index)) :=
    close_if_flat_sound fun _ => (hsound hopen).1
  generalize liquidation_books m cfg r index = after at hbooks_open hsound' ⊢
  dsimp only
  refine ⟨⟨?_, hsound'⟩, ?_⟩
  · unfold close_if_flat
    split_ifs
    -- the position is gone, and with it what the relation says of the step index
    · exact ⟨-1, 0, rfl, fun h => absurd h Bool.false_ne_true⟩
    · exact ⟨_, _, rfl, fun _ => rfl⟩
  · unfold close_if_flat mark_to_market
    by_cases hflat : is_flat after
    · simp only [if_pos hflat]
      rfl
    · simp only [if_neg hflat, hbooks_open, if_true]

/-- The step lemma: on a bar that matches, both loops keep the same books and
push the same equity. -/
theorem SameParameters.step_matches (m : PyMath K) (ctx : SlippageContext K) {r t : SimState K}
    {index : ℕ} (hbooks : SameBooks r t) (hsound : PositionSound r)
    (h : BarMatches cfg r t index) :
    (SameBooks (bar_step m cfg r index).1 (single_step m inp ctx t index).1
        ∧ PositionSound (bar_step m cfg r index).1)
      ∧ (bar_step m cfg r index).2.equity = (single_step m inp ctx t index).2 := by
  obtain ⟨cooldown, step_index, rfl, hstep⟩ := hbooks
  obtain ⟨funding, href, hsingle⟩ := hp.accrue_eq r cooldown step_index index
  -- the conditions of a bar do not read `funding_spend`, so they hold after it
  obtain ⟨after, hafter⟩ : ∃ after : SimState K, after = { r with funding_spend := funding } :=
    ⟨_, rfl⟩
  have hmatches : BarMatches cfg after (after.rebook cooldown step_index) index := by
    subst hafter
    exact ⟨h.due, h.steps, h.order⟩
  have hstep' : after.position_open = true → step_index = after.liquidation_step_index := by
    subst hafter
    exact hstep
  have hsound' : PositionSound after := by
    subst hafter
    exact hsound
  have hdue := hp.liquidation_due_eq hmatches
  unfold bar_step single_step
  rw [href, hsingle, ← hafter]
  simp only [hdue, hp.mark_eq, hp.entry_signals, hp.exit_signals, SimState.rebook_position_open,
    SimState.rebook_position_size, SimState.rebook_entry_index]
  cases hliq : liquidation_due cfg after index with
  | true =>
      have hopen : after.position_open = true := liquidation_due_open hliq
      -- an open position has the same step index in both runs
      have hindex := hstep' hopen
      subst hindex
      simp only [if_true]
      exact hp.liquidate_matches hc m ctx cooldown index hopen hsound' (hmatches.steps hliq)
  | false =>
      simp only [Bool.false_eq_true, if_false]
      by_cases hentry : after.position_open = false ∧ cfg.entry_signals.getD index false = true
      · rw [if_pos hentry, if_pos hentry]
        exact hp.enter_matches hc m ctx cooldown step_index index _ hentry.1
          (hmatches.order hliq (Or.inl hentry))
      · rw [if_neg hentry, if_neg hentry]
        by_cases hexit : after.position_open = true ∧ cfg.exit_signals.getD index false = true
            ∧ after.entry_index ≤ index
        · have hindex := hstep' hexit.1
          subst hindex
          rw [if_pos hexit, if_pos hexit]
          exact hp.exit_matches m ctx cooldown index _ hexit.1 hsound'
            (hmatches.order hliq (Or.inr hexit))
        · rw [if_neg hexit, if_neg hexit]
          exact ⟨⟨⟨cooldown, step_index, rfl, hstep'⟩, hsound'⟩, rfl⟩

end Step

/-! ## The run -/

/-- Every bar matches, and a forced close is made at a price that is not
negative. -/
structure RunMatches (m : PyMath K) (cfg : SimConfig K) (inp : BatchInput K) : Prop where
  bar : ∀ index, index < cfg.bars →
    BarMatches cfg (stateAt (bar_step m cfg) SimState.initial index)
      (stateAt (single_step m inp (prepare_slippage_context m inp)) SimState.initial index) index
  close : (stateAt (bar_step m cfg) SimState.initial cfg.bars).position_open = true →
    0 ≤ (cfg.candle ((cfg.bars : ℤ) - 1)).close

section Run

variable {cfg : SimConfig K} {inp : BatchInput K} (hp : SameParameters cfg inp)
  (hc : cfg.Checked)

include hp

/-- The forced close takes the same books to the same books. -/
theorem SameParameters.force_close_eq (m : PyMath K) (ctx : SlippageContext K) {r : SimState K}
    (cooldown : ℤ) (step_index : ℕ) (notional : K) (hopen : r.position_open = true)
    (hsound : PositionSound r) (hclose : 0 ≤ (cfg.candle ((cfg.bars : ℤ) - 1)).close) :
    batch_force_close inp (r.rebook cooldown step_index)
        (resolve_batch_slippage_bps m ctx inp.model inp.slippage_bps notional
          ((inp.bars : ℤ) - 1))
      = (force_close m cfg r).rebook cooldown step_index := by
  have hnotional := mul_nonneg hclose (hsound hopen).2
  unfold batch_force_close force_close
  simp only [(hp.slippage_eq m ctx _ _).1, (hp.slippage_eq m ctx _ _).2, hp.close_eq, hp.bars_eq,
    hp.position_side, hp.taker_fee_bps]
  rw [apply_trade_cost_of_nonneg hnotional]
  rfl

include hc

/-- The run lemma: the two loops end with the same books and the same curve. -/
theorem SameParameters.simulate_bars_matches (m : PyMath K) (h : RunMatches m cfg inp) :
    SameBooks (simulate_bars m cfg).1 (single_simulate_bars m inp).1
      ∧ (simulate_bars m cfg).2 = (single_simulate_bars m inp).2 := by
  obtain ⟨⟨hbooks, hsound⟩, hcurve⟩ := run_sim (f := bar_step m cfg)
    (g := single_step m inp (prepare_slippage_context m inp)) (s := SimState.initial)
    (t := SimState.initial) BarOutput.equity id (fun r t => SameBooks r t ∧ PositionSound r)
    cfg.bars ⟨⟨-1, 0, rfl, fun _ => rfl⟩, fun hopen => absurd hopen Bool.false_ne_true⟩
    fun index hindex hrel => hp.step_matches hc m _ hrel.1 hrel.2 (h.bar index hindex)
  rw [List.map_id] at hcurve
  have hclose := h.close
  unfold simulate_bars single_simulate_bars batch_close_out
  rw [hp.bars_eq]
  dsimp only
  rw [run_fst, run_fst, hcurve]
  generalize stateAt (bar_step m cfg) SimState.initial cfg.bars = r at hbooks hsound hclose ⊢
  obtain ⟨cooldown, step_index, ht, hstep⟩ := hbooks
  rw [ht]
  by_cases hopen : r.position_open = true
  · have hforced := hp.force_close_eq m (prepare_slippage_context m inp) cooldown step_index
      (inp.close ((inp.bars : ℤ) - 1) * r.position_size) hopen hsound (hclose hopen)
    rw [hp.bars_eq] at hforced
    rw [if_pos hopen, if_pos (by exact hopen), SimState.rebook_position_size, hforced]
    exact ⟨⟨cooldown, step_index, rfl, fun _ => hstep hopen⟩, rfl⟩
  · rw [if_neg hopen, if_neg (by exact hopen)]
    exact ⟨⟨cooldown, step_index, ht, hstep⟩, rfl⟩

end Run

/-! ## From the arguments -/

omit [IsStrictOrderedRing K] in
/-- Arguments that pass the checks give a checked configuration. -/
theorem sim_config_checked (m : PyMath K) {snapshot : DataSnapshot K} {args : SimArguments K}
    {side : PositionSide} {settings : LiquidationSettings K}
    (h : check_arguments snapshot args = .ok (side, settings)) :
    (sim_config m snapshot args side settings).Checked := by
  obtain ⟨hleverage, -, hvalid, hratio, hschedule⟩ := check_arguments_ok h
  refine ⟨hleverage, hvalid, fun hfull => ?_⟩
  -- a profile of style "full" and no explicit option: the style is not "partial"
  have hstyle : liquidation_style_is_partial snapshot args = false := by
    simp only [sim_config, Bool.and_eq_true, Option.isNone_iff_eq_none] at hfull
    obtain ⟨⟨hprofile, hnoratio⟩, hnoschedule⟩ := hfull
    unfold liquidation_style_is_partial
    rw [hnoratio, hnoschedule]
    cases hvenue : snapshot.venue_profile with
    | none => rfl
    | some profile =>
        rw [hvenue] at hprofile
        have hname := eq_of_beq hprofile
        simp only [hname]
        decide
  have hdefaults : ∀ x : LiquidationSettings K,
      x.partial_liquidation_ratio = settings.partial_liquidation_ratio →
      x.liquidation_step_schedule = settings.liquidation_step_schedule →
      x.liquidation_step_schedule = none ∧ x.partial_liquidation_ratio = 1 := by
    intro x hx1 hx2
    rw [hx1, hx2, hratio, hschedule]
    simp [resolve_liquidation_defaults, hstyle]
  exact hdefaults settings rfl rfl

variable [FloorRing K]

/-- Where every bar matches, `simulate_strategy` returns, and its equity curve,
trade count, winning trades, win rate and gross, fee and funding totals are those
of `_simulate_single_python` run with the same parameters. -/
theorem simulate_strategy_matches_single_python (m : PyMath K) (snapshot : DataSnapshot K)
    (args : SimArguments K) (side : PositionSide) (settings : LiquidationSettings K)
    (inp : BatchInput K) (hchecked : check_arguments snapshot args = .ok (side, settings))
    (hsame : SameParameters (sim_config m snapshot args side settings) inp)
    (hrun : RunMatches m (sim_config m snapshot args side settings) inp) :
    ∃ result, simulate_strategy m snapshot args = .ok result
      ∧ result.equity_curve = (simulate_single_python m inp).equity_curve
      ∧ result.trade_count = (simulate_single_python m inp).trade_count
      ∧ (simulate_bars m (sim_config m snapshot args side settings)).1.winning_trades
        = (simulate_single_python m inp).winning_trades
      ∧ result.win_rate = (simulate_single_python m inp).win_rate
      ∧ result.gross_pnl = (simulate_single_python m inp).gross_pnl
      ∧ result.fee_spend = (simulate_single_python m inp).fee_spend
      ∧ result.funding_spend = (simulate_single_python m inp).funding_spend := by
  obtain ⟨⟨cooldown, step_index, hbooks, -⟩, hcurve⟩ :=
    hsame.simulate_bars_matches (sim_config_checked m hchecked) m hrun
  refine ⟨_, by rw [simulate_strategy, hchecked]; rfl, ?_⟩
  unfold BatchSimResult.win_rate simulate_single_python
  simp only [hbooks, hcurve]
  exact ⟨trivial, rfl, rfl, rfl, rfl, rfl, rfl⟩

/-! ## A run that matches and one that does not -/

/-- Three bars; the second one, on which the entry is filled, trades down to
`low`. -/
def delayed_snapshot (low : ℚ) : DataSnapshot ℚ where
  venue := "paper"
  timeframe := "1h"
  candles := [⟨0, 100, 100, 100⟩, ⟨3600000000, 101, low, 100⟩, ⟨7200000000, 103, 100, 102⟩]
  funding_rates := [0.001, 0.001, 0.001]
  open_interest := []
  liquidation_notional := []
  taker_fee_bps := 5
  spread_bps := []
  depth_bid_1bp_usd := []
  depth_ask_1bp_usd := []
  latency_proxy_ms := []
  venue_profile := none
  provenance_microstructure := none

/-- A long entry at leverage 10 signalled on the first bar and filled one bar
later. -/
def delayed_args : SimArguments ℚ :=
  plain_args [true, false, false] [false, false, true] 10 1 10 "flat"

/-- The same run for `_simulate_single_python`. -/
def delayed_input (low : ℚ) : BatchInput ℚ where
  closes := [100, 100, 102]
  highs := [100, 101, 103]
  lows := [100, low, 100]
  funding_rates := [0.001, 0.001, 0.001]
  funding_event_counts := some
    (compute_funding_event_counts (delayed_snapshot low).candles (delayed_snapshot low).venue)
  entry_signals := [true, false, false]
  exit_signals := [false, false, true]
  taker_fee_bps := 5
  slippage_bps := 10
  position_side := .long
  position_leverage := 10
  latency_bars := 1
  open_interest := none
  liquidation_notional := none
  spread_bps := none
  depth_bid_1bp_usd := none
  depth_ask_1bp_usd := none
  latency_proxy_ms := none
  stress_regimes := none
  slippage_model := "flat"
  settings := plain_settings

theorem delayed_same_parameters (low : ℚ) :
    SameParameters (sim_config PyMath.rat (delayed_snapshot low) delayed_args .long
      plain_settings) (delayed_input low) where
  closes := rfl
  highs := rfl
  lows := rfl
  funding_rates := rfl
  event_counts := rfl
  entry_signals := rfl
  exit_signals := rfl
  taker_fee_bps := rfl
  slippage_bps := rfl
  latency_bars := rfl
  position_side := rfl
  position_leverage := rfl
  settings := rfl
  model := by
    have hmodel : pyLower (pyStrip "flat") = "flat" := by decide
    exact hmodel
  not_dynamic := by
    have hname : (("flat" : String) == "dynamic") = false := by decide
    exact hname
  not_realistic := by
    have hname : (("flat" : String) == "realistic") = false := by decide
    exact hname

theorem delayed_check (low : ℚ) :
    check_arguments (delayed_snapshot low) delayed_args = .ok (.long, plain_settings) :=
  check_arguments_plain 10 "flat" rfl ⟨rfl, rfl⟩ (by decide) (by norm_num)

/-- While the fill bar stays above the liquidation price, the two runs agree. -/
theorem simulate_strategy_matches_single_python_delayed :
    ∃ result, simulate_strategy PyMath.rat (delayed_snapshot 99) delayed_args = .ok result
      ∧ result.equity_curve
        = (simulate_single_python PyMath.rat (delayed_input 99)).equity_curve := by
  have htriggered : ∀ index, index < 3 → triggered_at (sim_config PyMath.rat (delayed_snapshot 99)
      delayed_args .long plain_settings) (stateAt (bar_step PyMath.rat (sim_config PyMath.rat
        (delayed_snapshot 99) delayed_args .long plain_settings)) SimState.initial index) index
      = false := by
    decide +kernel
  have hclose : ∀ index, index < 3 → 0 ≤ ((sim_config PyMath.rat (delayed_snapshot 99)
      delayed_args .long plain_settings).candle (fill_index (sim_config PyMath.rat
        (delayed_snapshot 99) delayed_args .long plain_settings) index)).close := by
    decide +kernel
  obtain ⟨result, hresult, hcurve, -⟩ :=
    simulate_strategy_matches_single_python PyMath.rat (delayed_snapshot 99) delayed_args .long
      plain_settings (delayed_input 99) (delayed_check 99) (delayed_same_parameters 99)
      { bar := fun index hindex =>
          { due := fun h => absurd h (by rw [htriggered index hindex]; exact Bool.false_ne_true)
            steps := fun _ => Or.inl (by intro tier h; cases h)
            order := fun _ _ => hclose index hindex }
        close := fun _ => by decide +kernel }
  exact ⟨result, hresult, hcurve⟩

/-- When the fill bar trades through the liquidation price, `simulate_strategy`
liquidates the position on its entry bar and `_simulate_single_python` does
not. -/
theorem simulate_strategy_ne_single_python_delayed :
    SameParameters (sim_config PyMath.rat (delayed_snapshot 80) delayed_args .long
        plain_settings) (delayed_input 80)
      ∧ ∃ result, simulate_strategy PyMath.rat (delayed_snapshot 80) delayed_args = .ok result
        ∧ result.equity_curve
          ≠ (simulate_single_python PyMath.rat (delayed_input 80)).equity_curve
        ∧ result.gross_pnl ≠ (simulate_single_python PyMath.rat (delayed_input 80)).gross_pnl := by
  refine ⟨delayed_same_parameters 80, _, by rw [simulate_strategy, delayed_check]; rfl, ?_, ?_⟩
  · decide +kernel
  · decide +kernel

end ProofAlpha.Backtest
