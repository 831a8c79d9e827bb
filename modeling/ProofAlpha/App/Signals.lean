/-
The signal generators of `app/runtime.py`: `_build_signals` and its three backbones.

A generator walks over the bars from the second one on. It carries what it knows of
its open trade and marks each bar as an entry, as an exit or as neither; a trade
still open after the last bar exits there.
-/
import ProofAlpha.App.StrategyGraph
import ProofAlpha.Backtest.Indicators
import ProofAlpha.Backtest.Snapshot

set_option autoImplicit false

namespace ProofAlpha.App

open ProofAlpha.Lib ProofAlpha.Lib.IndexedLoop
open ProofAlpha.Backtest (DataSnapshot Candle ema atr rsi zscore hma kama)

variable {K : Type} [Field K] [LinearOrder K] [FloorRing K]

/-! ## Filters -/

/-- `_precompute_filter_emas`. -/
def precompute_filter_emas (closes : List K) (strategy : StrategyGraph)
    (layer_parameters : LayerParameters K) : List (String × List K) :=
  (strategy.layers.filter fun layer => layer.family = .directional_filter).map fun layer =>
    (layer.name, ema closes (pyInt (get_layer_parameter layer_parameters layer.name "len" 20)))

/-- `_resolve_time_stop_bars`. -/
def resolve_time_stop_bars (strategy : StrategyGraph) (layer_parameters : LayerParameters K)
    (default : ℤ) : ℤ :=
  match strategy.layers.find? fun layer => layer.family = .exit ∧ layer.name = "time_stop" with
  | some layer => pyInt (get_layer_parameter layer_parameters layer.name "hold_bars" (default : K))
  | none => default

/-- The average a directional filter compares the close with. -/
def filter_ema (closes : List K) (index : ℕ) (filter_emas : List (String × List K))
    (layer_name : String) : K :=
  let ema_series := (filter_emas.lookup layer_name).getD []
  if index < ema_series.length then ema_series.getD index 0
  else
    let window := (closes.take (index + 1)).drop (index - 20)
    window.sum / ((max 1 window.length : ℕ) : K)

/-- `recent_range`. -/
def recent_range (closes : List K) (index : ℕ) : K :=
  let recent := (closes.take (index + 1)).drop (index - 10)
  if 1 < recent.length then
    recent.foldl max (recent.headD 0) - recent.foldl min (recent.headD 0)
  else 0

/-- The test `_passes_filters` makes with one layer. -/
def passes_filter (closes : List K) (index : ℕ) (layer_parameters : LayerParameters K)
    (position_side : String) (filter_emas : List (String × List K)) (layer : LayerSpec) : Bool :=
  let close := closes.getD index 0
  match layer.family with
  | .directional_filter =>
      let average := filter_ema closes index filter_emas layer.name
      if position_side = "short" then decide (close ≤ average) else decide (average ≤ close)
  | .known_good_flat_filter | .custom_flat_filter =>
      let recent_range_pct := recent_range closes index / max close 1e-9
      decide (get_layer_parameter layer_parameters layer.name "flat_range_threshold" 0.003
        ≤ recent_range_pct)
  | _ => true

/-- `_passes_filters`. -/
def passes_filters (closes : List K) (index : ℕ) (strategy : StrategyGraph)
    (layer_parameters : LayerParameters K) (position_side : String)
    (filter_emas : List (String × List K)) : Bool :=
  strategy.layers.all (passes_filter closes index layer_parameters position_side filter_emas)

/-! ## The walk over the bars -/

/-- What a generator marks on a bar: an entry, an exit. -/
abbrev SignalMark := Bool × Bool

/-- The two signal lists of a walk over the bars from the second one on. -/
def walk_signals {σ : Type} (bars : ℕ) (step : σ → ℕ → σ × SignalMark) (start : σ)
    (is_open : σ → Bool) : List Bool × List Bool :=
  let done := run (fun s k => step s (k + 1)) start (bars - 1)
  let marks : List SignalMark := if bars = 0 then [] else (false, false) :: done.2
  let exit_signals := marks.map Prod.snd
  (marks.map Prod.fst,
    -- `exit_signals[-1] = True`
    if is_open done.1 then exit_signals.set (bars - 1) true else exit_signals)

/-! ## `mom_squeeze` -/

/-- `stride`. -/
def entry_stride (strategy : StrategyGraph) (layer_parameters : LayerParameters K) : ℤ :=
  let default : ℤ := max 2 (5 - min (strategy.layers.length : ℤ) 2)
  let stride := pyInt (get_layer_parameter layer_parameters strategy.backbone "entry_stride"
    (default : K))
  if strategy.layers.any fun layer => layer.family = .directional_filter then max 2 (stride - 1)
  else stride

/-- The close of a bar has moved to the side of the position. -/
def moves_with_side (closes : List K) (index : ℕ) (position_side : String) : Bool :=
  if position_side = "short" then decide (closes.getD index 0 < closes.getD (index - 1) 0)
  else decide (closes.getD (index - 1) 0 < closes.getD index 0)

/-- One bar of `_build_mom_squeeze_signals`; the state is `open_index`. -/
def mom_squeeze_step (closes : List K) (strategy : StrategyGraph)
    (layer_parameters : LayerParameters K) (position_side : String) (stride hold_bars : ℤ)
    (open_index : Option ℕ) (index : ℕ) : Option ℕ × SignalMark :=
  match open_index with
  | none =>
      if Int.fmod index stride = 1 ∧ moves_with_side closes index position_side
          ∧ passes_filters closes index strategy layer_parameters position_side
            (precompute_filter_emas closes strategy layer_parameters) then
        (some index, (true, false))
      else (none, (false, false))
  | some entered =>
      if hold_bars ≤ (index : ℤ) - entered then (none, (false, true))
      else (some entered, (false, false))

/-- `_build_mom_squeeze_signals`. A stride of zero raises at the first bar. -/
def build_mom_squeeze_signals (closes : List K) (strategy : StrategyGraph)
    (layer_parameters : LayerParameters K) (position_side : String) :
    Except String (List Bool × List Bool) :=
  let hold_bars := resolve_time_stop_bars strategy layer_parameters 3
  let stride := entry_stride strategy layer_parameters
  if stride = 0 ∧ 2 ≤ closes.length then .error "integer modulo by zero"
  else
    .ok (walk_signals closes.length
      (mom_squeeze_step closes strategy layer_parameters position_side stride hold_bars) none
      Option.isSome)

/-! ## `kama_hma` and `keltner_fade` -/

/-- The open trade of a generator with an ATR stop. -/
structure OpenTrade (K : Type) where
  open_index : ℕ
  entry_price : K
  atr_at_entry : K

/-- What the generator does on a bar with a trade open: exit at the ATR stop or after
`max_hold` bars. -/
def trade_exits (trade : OpenTrade K) (close : K) (index : ℕ) (position_side : String) (k_stop : K)
    (max_hold : ℤ) : Bool :=
  let stop_dist := k_stop * trade.atr_at_entry
  (position_side = "long" ∧ close < trade.entry_price - stop_dist)
    ∨ (position_side = "short" ∧ trade.entry_price + stop_dist < close)
    ∨ max_hold ≤ (index : ℤ) - trade.open_index

/-- One bar of a generator with an ATR stop, `enters` saying whether it opens a trade
on the bar. -/
def atr_stop_step (closes atr_vals : List K) (position_side : String) (k_stop : K) (max_hold : ℤ)
    (enters : Bool) (trade : Option (OpenTrade K)) (index : ℕ) :
    Option (OpenTrade K) × SignalMark :=
  let close := closes.getD index 0
  match trade with
  | some open_trade =>
      if trade_exits open_trade close index position_side k_stop max_hold then
        (none, (false, true))
      else (some open_trade, (false, false))
  | none =>
      if enters then (some ⟨index, close, max (atr_vals.getD index 0) 1e-9⟩, (true, false))
      else (none, (false, false))

/-- `in_trend` after a bar: between the two thresholds it stays as it was. -/
def next_in_trend (er theta_trend theta_flat : K) (in_trend : Bool) : Bool :=
  if theta_trend ≤ er then true else if er ≤ theta_flat then false else in_trend

/-- `_build_kama_hma_signals`. -/
def build_kama_hma_signals (m : PyMath K) (closes highs lows : List K) (strategy : StrategyGraph)
    (layer_parameters : LayerParameters K) (position_side : String) : List Bool × List Bool :=
  let p := get_layer_parameter layer_parameters strategy.backbone
  let theta_trend := p "theta_trend" 0.60
  let theta_flat := p "theta_flat" 0.25
  let k_stop := p "k_stop" 2
  let max_hold := resolve_time_stop_bars strategy layer_parameters 24
  let er_series := (kama closes (pyInt (p "n" 10)) (pyInt (p "f" 2)) (pyInt (p "s" 30))).2
  let hma_vals := hma m closes (pyInt (p "n_hma" 20))
  let atr_vals := atr highs lows closes (pyInt (p "p_atr" 14))
  let filter_emas := precompute_filter_emas closes strategy layer_parameters
  -- the slope is looked at for the two sides only
  let slope_agrees : ℕ → Bool := fun i =>
    (position_side = "long" → hma_vals.getD (i - 1) 0 < hma_vals.getD i 0)
      ∧ (position_side = "short" → hma_vals.getD i 0 < hma_vals.getD (i - 1) 0)
  let step : Bool × Option (OpenTrade K) → ℕ → (Bool × Option (OpenTrade K)) × SignalMark :=
    fun s i =>
      let in_trend := next_in_trend (er_series.getD i 0) theta_trend theta_flat s.1
      let enters := in_trend && slope_agrees i
        && passes_filters closes i strategy layer_parameters position_side filter_emas
      let next := atr_stop_step closes atr_vals position_side k_stop max_hold enters s.2 i
      ((in_trend, next.1), next.2)
  walk_signals closes.length step (false, none) fun s => s.2.isSome

/-- `_build_keltner_fade_signals`. -/
def build_keltner_fade_signals (m : PyMath K) (closes highs lows : List K)
    (strategy : StrategyGraph) (layer_parameters : LayerParameters K) (position_side : String) :
    List Bool × List Bool :=
  let p := get_layer_parameter layer_parameters strategy.backbone
  let p_ema := pyInt (p "p_ema" 20)
  let width := p "m" 2
  let theta_os := p "theta_os" 30
  let theta_ob := p "theta_ob" 70
  let k_stop := p "k_stop" 1.5
  let t_bars := resolve_time_stop_bars strategy layer_parameters (pyInt (p "t_bars" 10))
  let z_threshold := p "z_threshold" 2
  let ema_mid := ema closes p_ema
  let atr_vals := atr highs lows closes (pyInt (p "p_atr" 14))
  let rsi_vals := rsi closes (pyInt (p "p_rsi" 14))
  let z_vals := zscore m closes p_ema
  let enters : ℕ → Bool := fun i =>
    let close := closes.getD i 0
    let upper := ema_mid.getD i 0 + width * atr_vals.getD i 0
    let lower := ema_mid.getD i 0 - width * atr_vals.getD i 0
    (position_side = "long" ∧ close < lower ∧ rsi_vals.getD i 0 < theta_os
        ∧ z_vals.getD i 0 < -z_threshold)
      ∨ (position_side = "short" ∧ upper < close ∧ theta_ob < rsi_vals.getD i 0
        ∧ z_threshold < z_vals.getD i 0)
  walk_signals closes.length
    (fun trade i => atr_stop_step closes atr_vals position_side k_stop t_bars (enters i) trade i)
    none Option.isSome

/-! ## Dispatch -/

/-- `_build_signals`. Every name but the other two runs `mom_squeeze`. -/
def build_signals (m : PyMath K) (snapshot : DataSnapshot K) (strategy : StrategyGraph)
    (layer_parameters : LayerParameters K) (position_side : String) :
    Except String (List Bool × List Bool) :=
  let closes := snapshot.candles.map Candle.close
  let highs := snapshot.candles.map Candle.high
  let lows := snapshot.candles.map Candle.low
  if strategy.backbone = "kama_hma" then
    .ok (build_kama_hma_signals m closes highs lows strategy layer_parameters position_side)
  else if strategy.backbone = "keltner_fade" then
    .ok (build_keltner_fade_signals m closes highs lows strategy layer_parameters position_side)
  else build_mom_squeeze_signals closes strategy layer_parameters position_side

/-! ## One mark a bar -/

omit [Field K] [LinearOrder K] [FloorRing K] in
theorem walk_signals_length {σ : Type} (bars : ℕ) (step : σ → ℕ → σ × SignalMark) (start : σ)
    (is_open : σ → Bool) :
    (walk_signals bars step start is_open).1.length = bars
      ∧ (walk_signals bars step start is_open).2.length = bars := by
  unfold walk_signals
  dsimp only
  by_cases hbars : bars = 0
  · rw [if_pos hbars, hbars]
    simp
  · rw [if_neg hbars]
    have hlength : ∀ marks : List SignalMark, marks.length = bars - 1 →
        ((false, false) :: marks).length = bars := by
      intro marks hmarks
      rw [List.length_cons]
      omega
    constructor
    · rw [List.length_map]
      exact hlength _ (run_snd_length _ _ _)
    · split_ifs
      · rw [List.length_set, List.length_map]
        exact hlength _ (run_snd_length _ _ _)
      · rw [List.length_map]
        exact hlength _ (run_snd_length _ _ _)

/-- The signals of a snapshot are one pair a candle. -/
theorem build_signals_length {m : PyMath K} {snapshot : DataSnapshot K} {strategy : StrategyGraph}
    {layer_parameters : LayerParameters K} {position_side : String}
    {signals : List Bool × List Bool}
    (h : build_signals m snapshot strategy layer_parameters position_side = .ok signals) :
    signals.1.length = snapshot.candles.length ∧ signals.2.length = snapshot.candles.length := by
  have hcloses : (snapshot.candles.map Candle.close).length = snapshot.candles.length :=
    List.length_map _
  unfold build_signals at h
  dsimp only at h
  split_ifs at h
  · rw [← Except.ok.inj h, ← hcloses]
    exact walk_signals_length _ _ _ _
  · rw [← Except.ok.inj h, ← hcloses]
    exact walk_signals_length _ _ _ _
  · unfold build_mom_squeeze_signals at h
    dsimp only at h
    split_ifs at h
    rw [← Except.ok.inj h, ← hcloses]
    exact walk_signals_length _ _ _ _

omit [Field K] [LinearOrder K] [FloorRing K] in
theorem walk_signals_first {σ : Type} (bars : ℕ) (step : σ → ℕ → σ × SignalMark) (start : σ)
    (is_open : σ → Bool) : (walk_signals bars step start is_open).1.getD 0 false = false := by
  unfold walk_signals
  dsimp only
  split_ifs <;> rfl

/-- The walk starts at the second bar, so nothing is entered at the first. -/
theorem build_signals_first {m : PyMath K} {snapshot : DataSnapshot K} {strategy : StrategyGraph}
    {layer_parameters : LayerParameters K} {position_side : String}
    {signals : List Bool × List Bool}
    (h : build_signals m snapshot strategy layer_parameters position_side = .ok signals) :
    signals.1.getD 0 false = false := by
  unfold build_signals at h
  dsimp only at h
  split_ifs at h
  · rw [← Except.ok.inj h]
    exact walk_signals_first _ _ _ _
  · rw [← Except.ok.inj h]
    exact walk_signals_first _ _ _ _
  · unfold build_mom_squeeze_signals at h
    dsimp only at h
    split_ifs at h
    rw [← Except.ok.inj h]
    exact walk_signals_first _ _ _ _

end ProofAlpha.App
