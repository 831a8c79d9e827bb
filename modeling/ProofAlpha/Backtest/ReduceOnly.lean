/-
What a reduce-only order does to the position it is meant to reduce.

An accepted order changes the position by its filled quantity, with the sign of its
side. The validation of a reduce-only order looks at the intent, at whether there is
a position and at its size, but never at the side. So an accepted reduce-only order
reduces the position exactly when its side is the one that closes it, there is depth
to fill from, and what is filled does not exceed the position by the tolerance of the
size check (`reduce_only_reduces_iff`).
-/
import Mathlib.Algebra.Order.Field.Basic
import Mathlib.Tactic.Linarith
import Mathlib.Tactic.NormNum
import ProofAlpha.Backtest.BinanceUsdm

set_option autoImplicit false

namespace ProofAlpha.Backtest

open ProofAlpha.Lib

variable {K : Type} [Field K] [LinearOrder K]

/-! ## Positions -/

/-- A quantity with the sign of its side. -/
def OrderSide.signed : OrderSide → K → K
  | .BUY, quantity => quantity
  | .SELL, quantity => -quantity

/-- The change makes the position strictly smaller and does not flip its sign. -/
def Reduces (position change : K) : Prop :=
  |position + change| < |position| ∧ 0 ≤ position * (position + change)

instance (position change : K) : Decidable (Reduces position change) :=
  inferInstanceAs (Decidable (_ ∧ _))

/-- The side that closes the position: selling a long one, buying back a short one. -/
def OrderSide.Closes : OrderSide → K → Prop
  | .BUY, position => position < 0
  | .SELL, position => 0 < position

variable [IsStrictOrderedRing K]

/-- Selling reduces a long position by at most all of it, and no other. -/
theorem reduces_sell_iff (position : K) {filled : K} (hfilled : 0 ≤ filled) :
    Reduces position (-filled) ↔ 0 < position ∧ 0 < filled ∧ filled ≤ position := by
  unfold Reduces
  constructor
  · rintro ⟨hsmaller, hsign⟩
    have hpos : 0 < position := by
      by_contra hle
      -- what is sold makes a position that is not long no smaller
      have hposition : position ≤ 0 := not_lt.mp hle
      have hafter : position + -filled ≤ 0 := by linarith
      rw [abs_of_nonpos hposition, abs_of_nonpos hafter] at hsmaller
      linarith
    have hafter : 0 ≤ position + -filled := nonneg_of_mul_nonneg_right hsign hpos
    rw [abs_of_pos hpos, abs_of_nonneg hafter] at hsmaller
    exact ⟨hpos, by linarith, by linarith⟩
  · rintro ⟨hpos, hfilled, hle⟩
    have hafter : 0 ≤ position + -filled := by linarith
    refine ⟨?_, mul_nonneg hpos.le hafter⟩
    rw [abs_of_pos hpos, abs_of_nonneg hafter]
    linarith

omit [IsStrictOrderedRing K] in
/-- Both sides work alike on positions of opposite sign. -/
theorem reduces_neg_iff (position change : K) :
    Reduces (-position) (-change) ↔ Reduces position change := by
  unfold Reduces
  rw [← neg_add, abs_neg, abs_neg, neg_mul_neg]

theorem reduces_signed_iff (side : OrderSide) (position : K) {filled : K} (hfilled : 0 ≤ filled) :
    Reduces position (side.signed filled)
      ↔ side.Closes position ∧ 0 < filled ∧ filled ≤ |position| := by
  cases side with
  | SELL =>
      show Reduces position (-filled) ↔ 0 < position ∧ _
      rw [reduces_sell_iff position hfilled]
      refine and_congr_right fun hpos => ?_
      rw [abs_of_pos hpos]
  | BUY =>
      show Reduces position filled ↔ position < 0 ∧ _
      have hsell := reduces_sell_iff (-position) hfilled
      rw [reduces_neg_iff, neg_pos] at hsell
      rw [hsell]
      refine and_congr_right fun hneg => ?_
      rw [abs_of_neg hneg]

/-! ## Accepted orders -/

section Accepted

variable [FloorRing K] {order : BinanceUsdMOrderRequest K} {rules : BinanceUsdMRuleSet K}

/-- The quantity of the order in whole steps. -/
def step_quantity (order : BinanceUsdMOrderRequest K) (rules : BinanceUsdMRuleSet K) : K :=
  ⌊order.quantity / rules.step_size⌋ * rules.step_size

omit [IsStrictOrderedRing K] in
theorem round_down_ok {quantity step_size rounded : K}
    (h : round_down quantity step_size = .ok rounded) :
    0 < step_size ∧ rounded = ⌊quantity / step_size⌋ * step_size := by
  obtain ⟨hstep, h⟩ := require_bind_ok h
  exact ⟨of_decide_eq_true hstep, (Except.ok.inj h).symm⟩

/-- What holds of an order without reasons against it. -/
structure PassesValidation (order : BinanceUsdMOrderRequest K) (rules : BinanceUsdMRuleSet K) :
    Prop where
  quantity : 0 < order.quantity
  price : 0 < order.price
  steps : 0 < step_quantity order rules
  tick : round_to_tick order.price rules.tick_size = .ok order.price
  min_notional : rules.min_notional ≤ step_quantity order rules * order.price
  intent : order.reduce_only = true → order.intent = .reduce
  position : order.reduce_only = true → 0 < |order.current_position_qty|
  size : order.reduce_only = true →
    step_quantity order rules ≤ |order.current_position_qty| + 1e-12

omit [IsStrictOrderedRing K] in
theorem passesValidation_of_nil (h : validate_binance_usdm_order order rules = .ok []) :
    PassesValidation order rules := by
  obtain ⟨rounded_qty, hqty, h⟩ := bind_ok h
  obtain ⟨rounded_price, hprice, h⟩ := bind_ok h
  obtain ⟨-, rfl⟩ := round_down_ok hqty
  have hnil := Except.ok.inj h
  simp only [List.append_eq_nil_iff, reason_if_eq_nil, decide_eq_false_iff_not, not_le, not_lt,
    ne_eq, not_not, Bool.and_eq_false_imp, bne_eq_false_iff_eq] at hnil
  obtain ⟨⟨⟨⟨⟨⟨⟨⟨⟨⟨⟨hquantity, hpos⟩, hsteps⟩, htick⟩, hnotional⟩, -⟩, -⟩, -⟩, hintent⟩, hposition⟩,
    hsize⟩, -⟩ := hnil
  exact
    { quantity := hquantity
      price := hpos
      steps := hsteps
      tick := by rw [hprice, htick]
      min_notional := hnotional
      intent := hintent
      position := hposition
      size := hsize }

omit [IsStrictOrderedRing K] in
/-- An accepted order has passed the validation, and is filled from the local depth. -/
theorem simulate_accepted {m : PyMath K} {cost_context : DynamicCostContext K}
    {local_depth_notional : K} {report : BinanceUsdMExecutionReport K}
    (h : simulate_binance_usdm_order m order rules cost_context local_depth_notional = .ok report)
    (haccepted : report.accepted = true) :
    PassesValidation order rules ∧ report.rounded_quantity = some (step_quantity order rules)
      ∧ report.fill_ratio = fill_ratio_from_depth (order.price * step_quantity order rules)
          local_depth_notional order.liquidity_path := by
  obtain ⟨reasons, hreasons, h⟩ := bind_ok h
  obtain ⟨rounded_price, hprice, h⟩ := bind_ok h
  obtain ⟨rounded_quantity, hqty, h⟩ := bind_ok h
  obtain ⟨-, rfl⟩ := round_down_ok hqty
  dsimp only at h
  split at h
  · next hempty =>
    obtain ⟨hnil, -⟩ := List.append_eq_nil_iff.mp (List.isEmpty_iff.mp hempty)
    rw [hnil] at hreasons
    have hpasses := passesValidation_of_nil hreasons
    rw [hpasses.tick] at hprice
    obtain rfl := Except.ok.inj hprice
    obtain rfl := Except.ok.inj h
    exact ⟨hpasses, rfl, rfl⟩
  · obtain rfl := Except.ok.inj h
    exact absurd haccepted Bool.false_ne_true

/-- The filled quantity: all of the order, or what the depth pays for at its price. -/
theorem filled_quantity_eq {quantity price local_depth_notional : K} (hquantity : 0 < quantity)
    (hprice : 0 < price) (hdepth : 0 < local_depth_notional) (path : LiquidityPath) :
    quantity * fill_ratio_from_depth (price * quantity) local_depth_notional path
      = min quantity (local_depth_notional * depth_multiplier path / price) := by
  have hmultiplier : (0 : K) < depth_multiplier path := by
    cases path <;> norm_num [depth_multiplier]
  have hnotional : 0 < price * quantity := mul_pos hprice hquantity
  have hratio : 0 ≤ local_depth_notional * depth_multiplier path / (price * quantity) :=
    div_nonneg (mul_pos hdepth hmultiplier).le hnotional.le
  rw [fill_ratio_from_depth, if_neg (not_le.mpr hnotional), if_neg (not_le.mpr hdepth),
    max_eq_right (le_min zero_le_one hratio), mul_min_of_nonneg _ _ hquantity.le, mul_one]
  congr 1
  field_simp

omit [FloorRing K] [IsStrictOrderedRing K] in
theorem fill_ratio_without_depth {notional local_depth_notional : K}
    (hdepth : local_depth_notional ≤ 0) (path : LiquidityPath) :
    fill_ratio_from_depth notional local_depth_notional path = 0 := by
  rw [fill_ratio_from_depth, if_pos hdepth, ite_self]

end Accepted

/-! ## Reduce-only orders -/

section ReduceOnly

variable [FloorRing K]

/-- The signed quantity that a report adds to the position. -/
def filled_change (order : BinanceUsdMOrderRequest K) (report : BinanceUsdMExecutionReport K) : K :=
  order.side.signed (report.rounded_quantity.getD 0 * report.fill_ratio)

/-- The order works against the position, finds depth and stays within the position. -/
structure WorksAgainstPosition (order : BinanceUsdMOrderRequest K) (rules : BinanceUsdMRuleSet K)
    (local_depth_notional : K) : Prop where
  closes : order.side.Closes order.current_position_qty
  depth : 0 < local_depth_notional
  within : step_quantity order rules ≤ |order.current_position_qty|
    ∨ local_depth_notional * depth_multiplier order.liquidity_path
        ≤ |order.current_position_qty| * order.price

/-- An accepted order, a reduce-only one like any other, reduces the position exactly when it works
against it. -/
theorem reduce_only_reduces_iff {m : PyMath K} {order : BinanceUsdMOrderRequest K}
    {rules : BinanceUsdMRuleSet K} {cost_context : DynamicCostContext K}
    {local_depth_notional : K} {report : BinanceUsdMExecutionReport K}
    (h : simulate_binance_usdm_order m order rules cost_context local_depth_notional = .ok report)
    (haccepted : report.accepted = true) :
    Reduces order.current_position_qty (filled_change order report)
      ↔ WorksAgainstPosition order rules local_depth_notional := by
  obtain ⟨hpasses, hquantity, hratio⟩ := simulate_accepted h haccepted
  rw [filled_change, hquantity, hratio, Option.getD_some]
  rcases le_or_gt local_depth_notional 0 with hdepth | hdepth
  · -- nothing is filled
    rw [fill_ratio_without_depth hdepth, mul_zero, reduces_signed_iff _ _ le_rfl]
    constructor
    · rintro ⟨-, hfilled, -⟩
      exact absurd hfilled (lt_irrefl 0)
    · intro hworks
      exact absurd hworks.depth (not_lt.mpr hdepth)
  · have hmultiplier : (0 : K) < depth_multiplier order.liquidity_path := by
      cases order.liquidity_path <;> norm_num [depth_multiplier]
    have hfilled : 0 < min (step_quantity order rules)
        (local_depth_notional * depth_multiplier order.liquidity_path / order.price) :=
      lt_min hpasses.steps (div_pos (mul_pos hdepth hmultiplier) hpasses.price)
    rw [filled_quantity_eq hpasses.steps hpasses.price hdepth, reduces_signed_iff _ _ hfilled.le,
      min_le_iff, div_le_iff₀ hpasses.price]
    constructor
    · rintro ⟨hcloses, -, hwithin⟩
      exact ⟨hcloses, hdepth, hwithin⟩
    · intro hworks
      exact ⟨hworks.closes, hfilled, hworks.within⟩

/-- Rules with a tick of ten cents and a step of a hundredth. -/
def coarse_rules : BinanceUsdMRuleSet ℚ where
  tick_size := 1 / 10
  step_size := 1 / 100
  min_notional := 5
  maker_fee_bps := 2
  taker_fee_bps := 5
  max_participation_rate := 1 / 10

/-- A reduce-only order for a quarter of a unit, on a side and a position of one unit. -/
def quarter_order (side : OrderSide) (current_position_qty : ℚ) : BinanceUsdMOrderRequest ℚ where
  side := side
  quantity := 1 / 4
  price := 100
  intent := .reduce
  reduce_only := true
  current_position_qty := current_position_qty

/-- A quiet market. -/
def quiet_context : DynamicCostContext ℚ where
  liquidity_path := .taker
  hour_of_day := 3
  volatility_percentile := 0
  spread_percentile := 0
  order_size_pct_local_liquidity := 0
  oi_percentile := 0
  liquidation_intensity_percentile := 0

/-- What the simulation makes of the order against a depth of a thousand, whatever its side. -/
def quarter_report : BinanceUsdMExecutionReport ℚ where
  execution_model_id := "binance_usdm_v3"
  accepted := true
  status := "filled"
  reason_codes := []
  rounded_price := some 100
  rounded_quantity := some (1 / 4)
  notional := 25
  maker_taker := .taker
  fill_ratio := 1
  fee_bps := 5
  spread_bps := 0
  impact_bps := 2
  total_cost_bps := 7
  capacity_ok := true
  queue_position_estimate := none

/-- Sold from a long position of one unit, a quarter of it goes. -/
theorem reduce_only_reduces_iff_sell :
    simulate_binance_usdm_order PyMath.rat (quarter_order .SELL 1) coarse_rules quiet_context 1000
        = .ok quarter_report
      ∧ Reduces 1 (filled_change (quarter_order .SELL 1) quarter_report) := by
  have hreport : simulate_binance_usdm_order PyMath.rat (quarter_order .SELL 1) coarse_rules
      quiet_context 1000 = .ok quarter_report := by decide +kernel
  refine ⟨hreport, (reduce_only_reduces_iff hreport rfl).mpr ?_⟩
  exact ⟨show (0 : ℚ) < 1 by decide, by norm_num, .inl (by decide +kernel)⟩

/-- A reduce-only order to buy is accepted on a long position, and makes it larger. -/
theorem reduce_only_buy_accepted_when_long :
    simulate_binance_usdm_order PyMath.rat (quarter_order .BUY 1) coarse_rules quiet_context 1000
        = .ok quarter_report
      ∧ quarter_report.accepted = true ∧ (quarter_order .BUY 1).reduce_only = true
      ∧ ¬ Reduces 1 (filled_change (quarter_order .BUY 1) quarter_report) :=
  ⟨by decide +kernel, rfl, rfl, by decide +kernel⟩

end ReduceOnly

end ProofAlpha.Backtest
