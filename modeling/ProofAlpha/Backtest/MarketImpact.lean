/-
Execution costs, market impact and execution pressure: `backtest/execution_costs.py`,
`backtest/market_impact.py` and the helpers of `backtest/simulator.py` that price a fill.

Prices, sizes, rates and basis points are elements of an ordered field `K`. The
regime labels are the six canonical names; `other` stands for any other string,
the empty one included, which the multiplier tables map to `1.0`.

Both simulators precompute series before their loops: `roll_vol` and the absolute z-scores
read, at bar `i`, only the values up to bar `i`. The open-interest stress flag and the
depth-depletion flag compare a bar with a percentile of the whole series.
-/
import ProofAlpha.Lib.PyList
import ProofAlpha.Lib.PyMath

set_option autoImplicit false

namespace ProofAlpha.Backtest

open ProofAlpha.Lib

variable {K : Type} [Field K] [LinearOrder K]

/-! ## `execution_costs.py` -/

/-- `position_side`, one of `"long"` and `"short"`. -/
inductive PositionSide
  | long
  | short
  deriving DecidableEq, Repr

/-- `direction`: `-1.0` for a short, `1.0` for a long. -/
def PositionSide.direction : PositionSide → K
  | .long => 1
  | .short => -1

def bps_to_decimal (basis_points : K) : K := basis_points / 10000

def apply_trade_cost (notional fee_bps slippage_bps : K) : K :=
  |notional| * bps_to_decimal (fee_bps + slippage_bps)

def apply_funding (notional funding_rate : K) (position_side : PositionSide) : K :=
  |notional| * funding_rate * position_side.direction

/-! ## `market_impact.py` -/

/-- The regime labels of `label_snapshot_regimes`, and any other string. -/
inductive RegimeLabel
  | crash
  | short_squeeze
  | liquidity_stress
  | bull
  | bear
  | sideways
  | other
  deriving DecidableEq, Repr

/-- `_STRESS_MULTIPLIERS.get(label, 1.0)`; the batch simulator's
`_STRESS_REGIME_MULTIPLIERS` is the same table. -/
def stress_multiplier : RegimeLabel → K
  | .crash => 1.50
  | .short_squeeze => 1.35
  | .liquidity_stress => 1.25
  | _ => 1

/-- `compute_dynamic_slippage` at its default `k = 0.1`. -/
def compute_dynamic_slippage (m : PyMath K) (trade_notional volatility open_interest : K)
    (oi_is_stressed : Bool) (stress_regime : RegimeLabel) (flat_fallback_bps : K) : K :=
  if open_interest ≤ 0 then flat_fallback_bps
  else
    let notional_abs := |trade_notional|
    let vol := max 0 volatility
    let participation := notional_abs / open_interest
    let base_bps := 0.1 * m.sqrt (max participation 0) * vol * 10000
    let multiplier := if oi_is_stressed then stress_multiplier stress_regime else 1
    -- the multiplier counts only on a stressed bar
    let total_bps := base_bps * multiplier
    max 0 (min 500 total_bps)

/-- `ImpactCostCoefficients`. -/
structure ImpactCostCoefficients (K : Type) where
  eta : K
  alpha : K
  k_latency : K

/-- The default coefficients; `_REALISTIC_SLIPPAGE_COEFF` and the batch
simulator's `_BatchImpactCoeff` both hold these values. -/
def realistic_slippage_coeff : ImpactCostCoefficients K where
  eta := 0.10
  alpha := 0.50
  k_latency := 0.01

def impact_cost_bps (m : PyMath K)
    (q_notional available_depth_notional sigma_1h spread_bps latency_ms : K)
    (coeff : ImpactCostCoefficients K) : K :=
  -- every input is clamped here; the kernel's inlined copy clamps fewer
  let depth := max available_depth_notional 1e-9
  let q_abs := |q_notional|
  let sigma := max sigma_1h 0
  let spread := max spread_bps 0
  let latency := max latency_ms 0
  let participation := q_abs / depth
  let temp_bps := coeff.eta * sigma * m.pow participation coeff.alpha * 10000
  let delay_bps := coeff.k_latency * latency * sigma
  let total_bps := spread / 2 + temp_bps + delay_bps
  max 0 (min 500 total_bps)

/-- The linearly interpolated percentile of a series: the threshold shared by
`compute_oi_stress_flag`, `_compute_low_percentile_flags` and the batch
simulator's `_percentile_threshold`. `rank` is `percentile / 100 * (n - 1)`, so
its floor is a natural-number quotient. -/
def percentile_threshold (values : List K) (percentile : ℕ) : K :=
  let sorted_values := values.insertionSort (· ≤ ·)
  let n := values.length
  let rank : K := (percentile : K) / 100 * ((n - 1 : ℕ) : K)
  -- `math.floor(rank)`
  let lower := percentile * (n - 1) / 100
  let upper := min (lower + 1) (n - 1)
  let frac := rank - (lower : K)
  sorted_values.getD lower 0 * (1 - frac) + sorted_values.getD upper 0 * frac

/-- `compute_oi_stress_flag` at its default 90th percentile. -/
def compute_oi_stress_flag (open_interest_series : List K) (current_oi : K) : Bool :=
  if open_interest_series.isEmpty then false
  else decide (percentile_threshold open_interest_series 90 < current_oi)

/-! ## Bounds -/

/-- Every stress multiplier is at least neutral. -/
theorem one_le_stress_multiplier [IsStrictOrderedRing K] (label : RegimeLabel) :
    (1 : K) ≤ stress_multiplier label := by
  cases label <;> simp only [stress_multiplier] <;> norm_num

end ProofAlpha.Backtest

/-! ## Slippage and execution pressure -/

namespace ProofAlpha.Backtest

open ProofAlpha.Lib ProofAlpha.Lib.PyList

variable {K : Type} [Field K] [LinearOrder K]

/-! ## Precomputed series -/

/-- The close-to-close returns of a window. -/
def bar_returns (win : List K) : List K :=
  List.zipWith (fun previous current => (current - previous) / max previous 1e-12) win win.tail

/-- Entry `index` of the rolling volatility: the sample deviation of the returns
in `closes[max(0, index - 30) : index + 1]`, `0.01` for a one-bar window. -/
def roll_vol_at (m : PyMath K) (closes : List K) (index : ℕ) : K :=
  -- natural subtraction is the `max(0, ...)` of the slice
  let win := (closes.take (index + 1)).drop (index - 30)
  if win.length < 2 then 0.01
  else
    let bar_rets := bar_returns win
    let mean_r := bar_rets.sum / (bar_rets.length : K)
    -- the sample variance; `max` keeps a single return from dividing by zero
    let var_r := (bar_rets.map fun r => (r - mean_r) ^ 2).sum
      / ((max (bar_rets.length - 1) 1 : ℕ) : K)
    m.sqrt (max var_r 0)

def compute_roll_vol_series (m : PyMath K) (closes : List K) : List K :=
  (List.range closes.length).map (roll_vol_at m closes)

/-- The loop of `_compute_abs_zscores` from bar `i` on, with its running sums. -/
def abs_zscores_from (m : PyMath K) (i : ℕ) (running_sum running_sq_sum : K) : List K → List K
  | [] => []
  | v :: rest =>
      let running_sum' := running_sum + v
      let running_sq_sum' := running_sq_sum + v * v
      let n : K := ((i + 1 : ℕ) : K)
      let mean_val := running_sum' / n
      let variance := running_sq_sum' / n - mean_val * mean_val
      let std := m.sqrt (max variance 0)
      -- the first bar and a flat series score zero
      let z := if i + 1 < 2 then 0 else if std ≤ 1e-12 then 0 else |(v - mean_val) / std|
      z :: abs_zscores_from m (i + 1) running_sum' running_sq_sum' rest

/-- `_compute_abs_zscores`. -/
def compute_abs_zscores (m : PyMath K) (values : List K) : List K :=
  abs_zscores_from m 0 0 0 values

/-- `_compute_low_percentile_flags`. -/
def compute_low_percentile_flags (values : List K) (percentile : ℕ) : List Bool :=
  values.map fun value => decide (value ≤ percentile_threshold values percentile)

/-- The z-scores of a truncated series are the truncated z-scores. -/
theorem abs_zscores_from_take (m : PyMath K) (values : List K) : ∀ (k i : ℕ) (s q : K),
    (abs_zscores_from m i s q values).take k = abs_zscores_from m i s q (values.take k) := by
  induction values with
  | nil => intro k i s q; rw [List.take_nil, abs_zscores_from, List.take_nil]
  | cons v rest ih =>
      intro k i s q
      -- the running sums at bar `i` do not depend on the bars cut off
      cases k with
      | zero => rfl
      | succ k =>
          rw [abs_zscores_from, List.take_succ_cons, ih, List.take_succ_cons, abs_zscores_from]

/-- Expanding-window z-scores do not look ahead. -/
theorem compute_abs_zscores_agree (m : PyMath K) {b : ℕ} {xs ys : List K}
    (h : AgreeUpTo b xs ys) : AgreeUpTo b (compute_abs_zscores m xs) (compute_abs_zscores m ys) := by
  rw [AgreeUpTo, compute_abs_zscores, compute_abs_zscores, abs_zscores_from_take,
    abs_zscores_from_take, h]

/-- Rolling volatility does not look ahead. -/
theorem roll_vol_at_congr (m : PyMath K) {b i : ℕ} {xs ys : List K} (h : AgreeUpTo b xs ys)
    (hi : i ≤ b) : roll_vol_at m xs i = roll_vol_at m ys i := by
  have htake : xs.take (i + 1) = ys.take (i + 1) := h.mono hi
  rw [roll_vol_at, roll_vol_at, htake]

/-- The rolling volatility is non-negative. -/
theorem roll_vol_at_nonneg [IsStrictOrderedRing K] (m : PyMath K) (closes : List K) (index : ℕ) :
    0 ≤ roll_vol_at m closes index := by
  rw [roll_vol_at]
  dsimp only
  split
  · norm_num
  · exact m.sqrt_nonneg _

/-! ## Pricing one fill -/

/-- `_cascade_multiplier`. -/
def cascade_multiplier (oi_stressed : Bool) (funding_z liquidation_z : K)
    (depth_depleted : Bool) : K :=
  let signal_count := oi_stressed.toNat + (decide (2 < |funding_z|)).toNat
    + (decide (2 < liquidation_z)).toNat + depth_depleted.toNat
  if 4 ≤ signal_count then 1.75
  else if signal_count = 3 then 1.50
  else if signal_count = 2 then 1.25
  else 1

/-- `_resolve_execution_fill_ratio` past its guards: the share of an order of
notional `trade_notional` that a visible depth fills. -/
def depth_fill_ratio (trade_notional available_depth cascade : K) (depth_depleted : Bool) : K :=
  if available_depth ≤ 0 then 0
  else
    let depth_ratio := available_depth / max trade_notional 1e-9
    -- a deep book out of a cascade fills the whole order
    if 2 ≤ depth_ratio ∧ cascade ≤ 1.25 ∧ depth_depleted = false then 1
    else
      let fill_ratio := min 1 depth_ratio
      let fill_ratio := if 1 < cascade then fill_ratio / cascade else fill_ratio
      let fill_ratio :=
        if depth_depleted = true ∧ depth_ratio < 1.5 then fill_ratio * 0.85 else fill_ratio
      max 0.05 (min 1 fill_ratio)

/-- `_resolve_execution_adverse_fill_bps`, its series read at the bar. -/
def resolve_execution_adverse_fill_bps (effective_slippage_bps fill_ratio : K)
    (use_realistic_slippage oi_stressed : Bool) (funding_z liquidation_z : K)
    (depth_depleted : Bool) : K :=
  if use_realistic_slippage = false ∨ effective_slippage_bps ≤ 0 then 0
  else
    let cascade := cascade_multiplier oi_stressed funding_z liquidation_z depth_depleted
    let fill_shortfall := max 0 (1 - fill_ratio)
    if fill_shortfall < 1e-3 ∧ effective_slippage_bps < 25 then 0
    else
      let stress_pressure := fill_shortfall
      let stress_pressure := if depth_depleted then max stress_pressure 0.10 else stress_pressure
      let stress_pressure := if oi_stressed then stress_pressure + 0.05 else stress_pressure
      let stress_pressure := if 2 < |funding_z| then stress_pressure + 0.05 else stress_pressure
      let stress_pressure := if 2 < liquidation_z then stress_pressure + 0.05 else stress_pressure
      if cascade ≤ 1 ∧ stress_pressure < 0.10 then 0
      else
        let adverse_bps := effective_slippage_bps * (0.20 + min 0.90 stress_pressure)
        -- a cascade scales the surcharge once more, by at most a half
        let adverse_bps := if 1 < cascade then adverse_bps * min 1.50 (cascade / 1.25)
          else adverse_bps
        min 150 (max 0 adverse_bps)

/-- `_apply_adverse_fill_price`. -/
def apply_adverse_fill_price (fill_price : K) (position_side : PositionSide) (is_entry : Bool)
    (adverse_fill_bps : K) : K :=
  if adverse_fill_bps ≤ 0 then fill_price
  else
    let multiplier := adverse_fill_bps / 10000
    match position_side with
    | .long => if is_entry then fill_price * (1 + multiplier) else fill_price * (1 - multiplier)
    | .short => if is_entry then fill_price * (1 - multiplier) else fill_price * (1 + multiplier)

/-- A depth fill ratio is a share: between zero and one. -/
theorem depth_fill_ratio_mem [IsStrictOrderedRing K] (trade_notional available_depth cascade : K)
    (depth_depleted : Bool) :
    0 ≤ depth_fill_ratio trade_notional available_depth cascade depth_depleted
      ∧ depth_fill_ratio trade_notional available_depth cascade depth_depleted ≤ 1 := by
  have h005 : (0 : K) ≤ 0.05 ∧ (0.05 : K) ≤ 1 := ⟨by norm_num, by norm_num⟩
  rw [depth_fill_ratio]
  dsimp only
  split
  · exact ⟨le_rfl, zero_le_one⟩
  · split
    · exact ⟨zero_le_one, le_rfl⟩
    · exact ⟨le_max_of_le_left h005.1, max_le h005.2 (min_le_left _ _)⟩

end ProofAlpha.Backtest
