/-
What a liquidation realises.

A position is liquidated at its liquidation price, on either side of the market the
entry price less the initial margin plus the maintenance margin. So a liquidation
realises the maintenance margin less the initial margin, a loss as long as the first is
covered by the second. The argument checks bound the maintenance rates and leave them
uncompared with the leverage (`liquidation_realises_no_gain_iff`).
-/
import ProofAlpha.Backtest.Accounting

set_option autoImplicit false

namespace ProofAlpha.Backtest

open ProofAlpha.Lib ProofAlpha.Lib.IndexedLoop

variable {K : Type} [Field K] [LinearOrder K]

/-! ## Margins -/

/-- `effective_maintenance_margin_ratio` of the open position. -/
def position_margin_ratio (cfg : SimConfig K) (s : SimState K) : K :=
  resolve_maintenance_margin_ratio cfg.position_leverage (position_notional s)
    cfg.settings.maintenance_margin_ratio cfg.settings.maintenance_margin_schedule

/-- At the entry price, the maintenance margin of a unit is at most its initial margin. -/
def MarginCovered (cfg : SimConfig K) (s : SimState K) : Prop :=
  s.entry_price * position_margin_ratio cfg s ≤ s.entry_price / cfg.position_leverage

instance (cfg : SimConfig K) (s : SimState K) : Decidable (MarginCovered cfg s) :=
  inferInstanceAs (Decidable (_ ≤ _))

/-- On both sides, a unit is liquidated at the difference of the two margins. -/
theorem price_delta_liquidation (cfg : SimConfig K) (s : SimState K) :
    price_delta (position_liquidation_price cfg s) s.entry_price cfg.position_side
      = s.entry_price * position_margin_ratio cfg s - s.entry_price / cfg.position_leverage := by
  unfold position_liquidation_price position_margin_ratio price_delta liquidation_price
  cases cfg.position_side with
  | long => ring
  | short => ring

/-! ## One bar -/

section Step

variable [IsStrictOrderedRing K] {cfg : SimConfig K} {s : SimState K} {index : ℕ}

/-- A liquidation takes a positive size out of a settled position. -/
theorem liquidation_size_pos (hc : cfg.Checked) (hs : SizeSettled cfg s)
    (hdue : liquidation_due cfg s index = true) : 0 < s.position_size * step_ratio cfg s := by
  have hsize : 1e-9 < s.position_size := hs.flagged.mp (liquidation_due_open hdue)
  have hratio : IsStepRatio (step_ratio cfg s) := hc.settings.step_ratio _ _ _ _ _ _
  exact mul_pos (lt_trans (by norm_num) hsize) hratio.1

/-- The bar of a due liquidation adds no gain exactly when the margin is covered. -/
theorem bar_step_no_gain_iff (m : PyMath K) (hc : cfg.Checked) (hs : SizeSettled cfg s)
    (hdue : liquidation_due cfg s index = true) :
    (bar_step m cfg s index).1.gross_pnl ≤ s.gross_pnl ↔ MarginCovered cfg s := by
  have hsize := liquidation_size_pos hc hs hdue
  have hsale : bar_sale m cfg s index = some ⟨.liquidation, s.position_size * step_ratio cfg s,
      s.entry_price, position_liquidation_price cfg s⟩ := if_pos hdue
  rw [(bar_step_books m cfg s index).1, hsale, Option.map_some, Option.getD_some, Sale.pnl,
    price_delta_liquidation]
  unfold MarginCovered
  rw [← sub_nonpos (a := s.entry_price * _)]
  generalize s.entry_price * position_margin_ratio cfg s
    - s.entry_price / cfg.position_leverage = gain
  constructor
  · intro hle
    have hgain : gain * (s.position_size * step_ratio cfg s) ≤ 0 := by linarith
    by_contra hpos
    exact absurd hgain (not_le.mpr (mul_pos (not_le.mp hpos) hsize))
  · intro hgain
    have hproduct : gain * (s.position_size * step_ratio cfg s) ≤ 0 :=
      mul_nonpos_of_nonpos_of_nonneg hgain hsize.le
    linarith

/-! ## A run -/

/-- Every liquidation of an accepted run adds no gain to the gross pnl if and only if the
initial margin covers the maintenance margin whenever a liquidation is due. -/
theorem liquidation_realises_no_gain_iff (m : PyMath K) {snapshot : DataSnapshot K}
    {args : SimArguments K} {side : PositionSide} {settings : LiquidationSettings K}
    (hcheck : check_arguments snapshot args = .ok (side, settings)) :
    let cfg := sim_config m snapshot args side settings
    let before := stateAt (bar_step m cfg) SimState.initial
    (∀ index < cfg.bars, liquidation_due cfg (before index) index = true →
      (bar_step m cfg (before index) index).1.gross_pnl ≤ (before index).gross_pnl)
      ↔ ∀ index < cfg.bars, liquidation_due cfg (before index) index = true →
        MarginCovered cfg (before index) := by
  intro cfg before
  have hc : cfg.Checked := sim_config_checked m hcheck
  have hsettled : ∀ index, SizeSettled cfg (before index) := stateAt_sizeSettled m hc
  constructor
  · intro hlaw index hindex hdue
    exact (bar_step_no_gain_iff m hc (hsettled index) hdue).mp (hlaw index hindex hdue)
  · intro hcovered index hindex hdue
    exact (bar_step_no_gain_iff m hc (hsettled index) hdue).mpr (hcovered index hindex hdue)

end Step

/-! ## Leverage above the reach of a tier's rate -/

/-- Two bars at one price. -/
def still_snapshot (second_low : ℚ) : DataSnapshot ℚ where
  venue := "binance"
  timeframe := "1h"
  candles := [⟨0, 100, 100, 100⟩, ⟨1, 100, second_low, 100⟩]
  funding_rates := [0, 0]
  open_interest := [1, 1]
  liquidation_notional := [0, 0]
  taker_fee_bps := 0
  spread_bps := []
  depth_bid_1bp_usd := []
  depth_ask_1bp_usd := []
  latency_proxy_ms := []
  venue_profile := none
  provenance_microstructure := none

/-- A long entry on the first bar with the maintenance tiers of the Binance preset. -/
def preset_args (position_leverage : ℚ) : SimArguments ℚ :=
  { plain_args [true, false] [false, false] 0 0 position_leverage "flat" with
    maintenance_margin_schedule := some
      [⟨some 5, none, some 0.01, [], none⟩, ⟨some 20, none, some 0.025, [], none⟩,
        ⟨some 50, none, some 0.05, [], none⟩] }

/-- The settings they resolve to. -/
def preset_settings : LiquidationSettings ℚ :=
  { plain_settings with
    maintenance_margin_schedule :=
      [⟨some 5, none, ⟨0.01, [], none⟩⟩, ⟨some 20, none, ⟨0.025, [], none⟩⟩,
        ⟨some 50, none, ⟨0.05, [], none⟩⟩] }

theorem preset_check (second_low : ℚ) {position_leverage : ℚ} (h : 1 ≤ position_leverage) :
    check_arguments (still_snapshot second_low) (preset_args position_leverage)
      = .ok (.long, preset_settings) := by
  unfold check_arguments check_options resolve_liquidation_defaults liquidation_style_is_partial
  simp only [preset_args, plain_args, still_snapshot, h]
  norm_num [require, check_position_side, unset_or, check_maintenance_item, positive_limit,
    preset_settings, plain_settings]
  rfl

/-- At leverage 10 a drop by eight percent liquidates the position, at a loss. -/
theorem liquidation_at_loss :
    let cfg := sim_config PyMath.rat (still_snapshot 92) (preset_args 10) .long preset_settings
    let before := stateAt (bar_step PyMath.rat cfg) SimState.initial
    liquidation_due cfg (before 1) 1 = true
      ∧ (bar_step PyMath.rat cfg (before 1) 1).1.gross_pnl ≤ (before 1).gross_pnl := by
  have hlaw := (liquidation_realises_no_gain_iff PyMath.rat
    (preset_check 92 (by norm_num : (1 : ℚ) ≤ 10))).mpr (by decide +kernel)
  have hdue : liquidation_due
      (sim_config PyMath.rat (still_snapshot 92) (preset_args 10) .long preset_settings)
      (stateAt (bar_step PyMath.rat
        (sim_config PyMath.rat (still_snapshot 92) (preset_args 10) .long preset_settings))
        SimState.initial 1) 1 = true := by decide +kernel
  exact ⟨hdue, hlaw 1 (by decide) hdue⟩

/-- At leverage 25 the last tier asks for a maintenance margin above the initial margin:
the position is liquidated above its entry price although the price stands still. -/
theorem liquidation_at_gain :
    let cfg := sim_config PyMath.rat (still_snapshot 100) (preset_args 25) .long preset_settings
    let before := stateAt (bar_step PyMath.rat cfg) SimState.initial
    check_arguments (still_snapshot 100) (preset_args 25) = .ok (.long, preset_settings)
      ∧ liquidation_due cfg (before 1) 1 = true
      ∧ (bar_step PyMath.rat cfg (before 1) 1).1.gross_pnl = (before 1).gross_pnl + 25
      ∧ ∃ result, simulate_strategy PyMath.rat (still_snapshot 100) (preset_args 25) = .ok result
        ∧ result.liquidation_events = [⟨1, 101, 100, 25⟩] ∧ result.gross_pnl = 25 := by
  intro cfg before
  have hcheck := preset_check 100 (by norm_num : (1 : ℚ) ≤ 25)
  refine ⟨hcheck, by decide +kernel, by decide +kernel, _, by rw [simulate_strategy, hcheck]; rfl,
    ?_, ?_⟩
  · decide +kernel
  · decide +kernel

end ProofAlpha.Backtest
