/-
The indicator library: `backtest/indicators.py`.

Each indicator returns one value a bar. A loop that carries a running value is an
`IndexedLoop.run` over the bars; a window is a slice that ends at the bar.
-/
import ProofAlpha.Lib.IndexedLoop
import ProofAlpha.Lib.PyMath

set_option autoImplicit false

namespace ProofAlpha.Backtest

open ProofAlpha.Lib ProofAlpha.Lib.IndexedLoop

variable {K : Type} [Field K] [LinearOrder K]

/-! ## Averages -/

/-- `prices[max(0, i - period + 1) : i + 1]`. -/
def trailing_window (prices : List K) (period i : ℕ) : List K :=
  (prices.take (i + 1)).drop (i + 1 - period)

omit [LinearOrder K] in
/-- `wma`. -/
def wma (prices : List K) (period : ℤ) : List K :=
  let p := (max 1 period).toNat
  let denom : K := (p : K) * (p + 1) / 2
  (List.range prices.length).map fun i =>
    let window := trailing_window prices p i
    let n := window.length
    -- the warmup takes the simple mean of what is there
    if n < p then window.sum / n
    else ((List.range n).map fun j => ((j + 1 : ℕ) : K) * window.getD j 0).sum / denom

/-- `hma`. -/
def hma [FloorRing K] (m : PyMath K) (prices : List K) (period : ℤ) : List K :=
  let p := max 2 period
  let half_p := max 1 (p / 2)
  let sqrt_p := max 1 (roundHalfEven (m.sqrt (p : K)))
  let wma_half := wma prices half_p
  let wma_full := wma prices p
  let diff := (List.range prices.length).map fun i => 2 * wma_half.getD i 0 - wma_full.getD i 0
  wma diff sqrt_p

/-- One pass of the loop of `ema`: the running average and the running sum. -/
def ema_step (prices : List K) (p : ℕ) (s : K × K) (i : ℕ) : (K × K) × K :=
  let price := prices.getD i 0
  let next : K × K :=
    if i = 0 then (price, price)
    else if i < p then ((s.2 + price) / ((i + 1 : ℕ) : K), s.2 + price)
    else (2 / ((p : K) + 1) * price + (1 - 2 / ((p : K) + 1)) * s.1, s.2)
  (next, next.1)

/-- `ema`. -/
def ema (prices : List K) (period : ℤ) : List K :=
  (run (ema_step prices (max 1 period).toNat) (prices.headD 0, 0) prices.length).2

/-! ## Efficiency ratio -/

/-- The efficiency ratio of a bar past the warmup, over `n` bars. -/
def efficiency_ratio (prices : List K) (n i : ℕ) : K :=
  let direction := |prices.getD i 0 - prices.getD (i - n) 0|
  let volatility := ((List.range n).map fun j =>
    |prices.getD (i - n + 1 + j) 0 - prices.getD (i - n + j) 0|).sum
  max 0 (min 1 (if 1e-12 < volatility then direction / volatility else 0))

/-- One pass of the loop of `kama`: the running average, and what the bar appends to
the two series. -/
def kama_step (prices : List K) (n : ℕ) (fast_sc slow_sc : K) (current_kama : K) (i : ℕ) :
    K × (K × K) :=
  let price := prices.getD i 0
  if i < n then (price, (price, 0))
  else
    let er := efficiency_ratio prices n i
    let sc := (er * (fast_sc - slow_sc) + slow_sc) ^ 2
    let next := current_kama + sc * (price - current_kama)
    (next, (next, er))

/-- `kama`: the averages and the efficiency ratios. -/
def kama (prices : List K) (n f s : ℤ) : List K × List K :=
  let fast_sc : K := 2 / ((max 2 f : ℤ) + 1)
  let slow_sc : K := 2 / ((max 2 s : ℤ) + 1)
  (run (kama_step prices (max 2 n).toNat fast_sc slow_sc) (prices.headD 0) prices.length).2.unzip

/-! ## Ranges and oscillators -/

/-- The true range of a bar. -/
def true_range (highs lows closes : List K) (i : ℕ) : K :=
  let h := highs.getD i 0
  let lo := lows.getD i 0
  if i = 0 then h - lo
  else
    let prev_c := closes.getD (i - 1) 0
    max (max (h - lo) |h - prev_c|) |lo - prev_c|

/-- `atr`. -/
def atr (highs lows closes : List K) (period : ℤ) : List K :=
  let p := (max 1 period).toNat
  let alpha : K := 1 / p
  let tr := (List.range closes.length).map (true_range highs lows closes)
  let seed :=
    if p ≤ tr.length then (tr.take p).sum / p else tr.sum / ((max 1 tr.length : ℕ) : K)
  (run (fun current_atr i =>
      if i < p then (current_atr, (tr.take (i + 1)).sum / ((i + 1 : ℕ) : K))
      else
        let next := alpha * tr.getD i 0 + (1 - alpha) * current_atr
        (next, next)) seed tr.length).2

/-- The value `rsi` gives from the two averages. -/
def relative_strength (avg_up avg_dn : K) : K :=
  if avg_up < 1e-12 ∧ avg_dn < 1e-12 then 50
  else if avg_dn < 1e-12 then 100
  else 100 - 100 / (1 + avg_up / avg_dn)

/-- `rsi`: neutral up to the warmup. -/
def rsi (closes : List K) (period : ℤ) : List K :=
  let p := (max 1 period).toNat
  if closes.length ≤ p then List.replicate closes.length 50
  else
    let changes := List.zipWith (fun previous current => current - previous) closes closes.tail
    let up := changes.map fun c => max 0 c
    let dn := changes.map fun c => max 0 (-c)
    let step : K × K → ℕ → (K × K) × K := fun avg k =>
      -- bar `p + k` adds the change `p + k - 1`; bar `p` keeps the seed averages
      let next : K × K :=
        if k = 0 then avg
        else ((avg.1 * ((p : K) - 1) + up.getD (p + k - 1) 0) / p,
          (avg.2 * ((p : K) - 1) + dn.getD (p + k - 1) 0) / p)
      (next, relative_strength next.1 next.2)
    List.replicate p 50
      ++ (run step ((up.take p).sum / p, (dn.take p).sum / p) (closes.length - p)).2

/-- `zscore`. -/
def zscore (m : PyMath K) (closes : List K) (period : ℤ) : List K :=
  let p := (max 2 period).toNat
  let ema_vals := ema closes (p : ℤ)
  (List.range closes.length).map fun i =>
    if i + 1 < p then 0
    else
      let window := trailing_window closes p i
      let mean := window.sum / (window.length : K)
      let variance := (window.map fun v => (v - mean) ^ 2).sum / (window.length : K)
      let std := if 0 < variance then m.sqrt variance else 1e-12
      (closes.getD i 0 - ema_vals.getD i 0) / std

end ProofAlpha.Backtest
