/-
The indicators of `backtest/indicators.py` look at the past only, and stay in range.

An indicator of a prefix of the series is the prefix of the indicator
(`PrefixCausal`). RSI lies in `[0, 100]`, the efficiency ratio in `[0, 1]`, and the
three averages between the least and the greatest price so far
(`WithinRunningRange`): each of their values is a convex combination of prices up to
its bar.
-/
import Mathlib.Analysis.Convex.Combination
import Mathlib.Data.List.GetD
import ProofAlpha.Backtest.Indicators

set_option autoImplicit false

namespace ProofAlpha.Backtest

open ProofAlpha.Lib ProofAlpha.Lib.IndexedLoop

variable {K : Type} [Field K] [LinearOrder K]

/-! ## The properties -/

/-- An indicator of a prefix of the series is the prefix of the indicator. -/
def PrefixCausal (indicator : List K → List K) : Prop :=
  ∀ (prices : List K) (k : ℕ), indicator (prices.take k) = (indicator prices).take k

/-- One value a bar, between the least and the greatest price up to the bar. -/
def WithinRunningRange (prices values : List K) : Prop :=
  values.length = prices.length ∧
    ∀ i, i < prices.length →
      ∃ low ∈ (prices.take (i + 1)).min?, ∃ high ∈ (prices.take (i + 1)).max?,
        low ≤ values.getD i 0 ∧ values.getD i 0 ≤ high

/-! ## Reading a prefix -/

theorem getD_take {α : Type*} (xs : List α) {k i : ℕ} (h : i < k) (d : α) :
    (xs.take k).getD i d = xs.getD i d := by
  rw [List.getD_eq_getElem?_getD, List.getD_eq_getElem?_getD, List.getElem?_take_of_lt h]

theorem headD_take {α : Type*} (xs : List α) {k : ℕ} (h : 0 < k) (d : α) :
    (xs.take k).headD d = xs.headD d := by
  cases xs with
  | nil => simp
  | cons x xs =>
      obtain ⟨k, rfl⟩ := Nat.exists_eq_succ_of_ne_zero (Nat.pos_iff_ne_zero.mp h)
      rfl

/-- A series computed bar by bar, where the bars of the prefix compute the same. -/
theorem map_range_take {α : Type*} {f g : ℕ → α} {n k : ℕ} (h : ∀ i, i < k → f i = g i) :
    (List.range (min k n)).map f = ((List.range n).map g).take k := by
  rw [← List.map_take, List.take_range]
  refine List.map_congr_left ?_
  intro i hi
  exact h i (lt_of_lt_of_le (List.mem_range.mp hi) (Nat.min_le_left _ _))

/-- A loop over the bars, where the bars of the prefix step the same. -/
theorem run_take {σ ω : Type*} {f g : σ → ℕ → σ × ω} {n k : ℕ} (s : σ)
    (h : ∀ t i, i < k → f t i = g t i) : (run f s (min k n)).2 = (run g s n).2.take k := by
  rw [← run_snd_take]
  refine congrArg Prod.snd (run_congr _ ?_)
  intro i hi
  exact h _ i (lt_of_lt_of_le hi (Nat.min_le_left _ _))

omit [Field K] [LinearOrder K] in
theorem trailing_window_take (prices : List K) (period : ℕ) {k i : ℕ} (h : i < k) :
    trailing_window (prices.take k) period i = trailing_window prices period i := by
  rw [trailing_window, trailing_window, List.take_take, Nat.min_eq_left h]

/-! ## Averages -/

omit [LinearOrder K] in
theorem wma_take (prices : List K) (period : ℤ) (k : ℕ) :
    wma (prices.take k) period = (wma prices period).take k := by
  unfold wma
  rw [List.length_take]
  apply map_range_take
  intro i hi
  rw [trailing_window_take prices _ hi]

theorem hma_take [FloorRing K] (m : PyMath K) (prices : List K) (period : ℤ) (k : ℕ) :
    hma m (prices.take k) period = (hma m prices period).take k := by
  unfold hma
  dsimp only
  rw [← wma_take, List.length_take]
  refine congrArg (fun diff => wma diff _) ?_
  apply map_range_take
  intro i hi
  rw [wma_take, wma_take, getD_take _ hi, getD_take _ hi]

omit [LinearOrder K] in
theorem ema_take (prices : List K) (period : ℤ) (k : ℕ) :
    ema (prices.take k) period = (ema prices period).take k := by
  rcases Nat.eq_zero_or_pos k with rfl | hk
  · simp [ema, run]
  · unfold ema
    rw [headD_take _ hk, List.length_take]
    apply run_take
    intro t i hi
    unfold ema_step
    rw [getD_take _ hi]

/-! ## The efficiency ratio and its average -/

theorem efficiency_ratio_take (prices : List K) {n k i : ℕ} (hi : i < k) (hn : n ≤ i) :
    efficiency_ratio (prices.take k) n i = efficiency_ratio prices n i := by
  have hmoves : (List.range n).map (fun j =>
        |(prices.take k).getD (i - n + 1 + j) 0 - (prices.take k).getD (i - n + j) 0|)
      = (List.range n).map fun j =>
        |prices.getD (i - n + 1 + j) 0 - prices.getD (i - n + j) 0| := by
    refine List.map_congr_left ?_
    intro j hj
    have hjn := List.mem_range.mp hj
    rw [getD_take _ (by omega), getD_take _ (by omega)]
  unfold efficiency_ratio
  rw [hmoves, getD_take _ hi, getD_take _ (by omega)]

theorem kama_take (prices : List K) (n f s : ℤ) (k : ℕ) :
    kama (prices.take k) n f s = ((kama prices n f s).1.take k, (kama prices n f s).2.take k) := by
  rcases Nat.eq_zero_or_pos k with rfl | hk
  · simp [kama, run]
  · have hrun : (run (kama_step (prices.take k) (max 2 n).toNat
          (2 / ((max 2 f : ℤ) + 1)) (2 / ((max 2 s : ℤ) + 1))) (prices.headD 0)
          (min k prices.length)).2
        = (run (kama_step prices (max 2 n).toNat
          (2 / ((max 2 f : ℤ) + 1)) (2 / ((max 2 s : ℤ) + 1))) (prices.headD 0)
          prices.length).2.take k := by
      apply run_take
      intro t i hi
      unfold kama_step
      rw [getD_take _ hi]
      by_cases hwarm : i < (max 2 n).toNat
      · rw [if_pos hwarm, if_pos hwarm]
      · rw [if_neg hwarm, if_neg hwarm, efficiency_ratio_take _ hi (by omega)]
    unfold kama
    dsimp only
    rw [headD_take _ hk, List.length_take, hrun]
    simp only [List.unzip_eq_map, List.map_take]

/-! ## Ranges -/

theorem true_range_take (highs lows closes : List K) {k i : ℕ} (hi : i < k) :
    true_range (highs.take k) (lows.take k) (closes.take k) i = true_range highs lows closes i := by
  unfold true_range
  rw [getD_take _ hi, getD_take _ hi, getD_take _ (by omega)]

/-- The true ranges of a series. -/
def true_ranges (highs lows closes : List K) : List K :=
  (List.range closes.length).map (true_range highs lows closes)

theorem true_ranges_take (highs lows closes : List K) (k : ℕ) :
    true_ranges (highs.take k) (lows.take k) (closes.take k)
      = (true_ranges highs lows closes).take k := by
  unfold true_ranges
  rw [List.length_take]
  apply map_range_take
  intro i hi
  exact true_range_take highs lows closes hi

/-- One pass of the loop of `atr`. -/
def atr_step (tr : List K) (p : ℕ) (current_atr : K) (i : ℕ) : K × K :=
  if i < p then (current_atr, (tr.take (i + 1)).sum / ((i + 1 : ℕ) : K))
  else
    let next := 1 / (p : K) * tr.getD i 0 + (1 - 1 / (p : K)) * current_atr
    (next, next)

/-- The value `atr` starts from. -/
def atr_seed (tr : List K) (p : ℕ) : K :=
  if p ≤ tr.length then (tr.take p).sum / p else tr.sum / ((max 1 tr.length : ℕ) : K)

theorem atr_eq (highs lows closes : List K) (period : ℤ) :
    atr highs lows closes period
      = (run (atr_step (true_ranges highs lows closes) (max 1 period).toNat)
          (atr_seed (true_ranges highs lows closes) (max 1 period).toNat)
          (true_ranges highs lows closes).length).2 := rfl

omit [LinearOrder K] in
/-- In the warmup the value given is the mean so far, whatever the loop carries. -/
theorem outputAt_atr_step_warmup (tr : List K) {p i : ℕ} (hi : i < p) (seed : K) :
    outputAt (atr_step tr p) seed i = (tr.take (i + 1)).sum / ((i + 1 : ℕ) : K) := by
  rw [outputAt, atr_step, if_pos hi]

omit [LinearOrder K] in
/-- The loop of `atr` over a prefix of the true ranges. -/
theorem atr_loop_take (tr : List K) (p k : ℕ) :
    (run (atr_step (tr.take k) p) (atr_seed (tr.take k) p) (tr.take k).length).2
      = (run (atr_step tr p) (atr_seed tr p) tr.length).2.take k := by
  have htake : ∀ i, i < k → (tr.take k).take (i + 1) = tr.take (i + 1) := by
    intro i hi
    rw [List.take_take, Nat.min_eq_left hi]
  rw [List.length_take]
  by_cases hlong : p ≤ min k tr.length
  · have hseed : atr_seed (tr.take k) p = atr_seed tr p := by
      rw [atr_seed, atr_seed, List.length_take, if_pos hlong, if_pos (by omega), List.take_take,
        Nat.min_eq_left (by omega)]
    rw [hseed]
    apply run_take
    intro t i hi
    rw [atr_step, atr_step, htake i hi, getD_take _ hi]
  · -- every bar of the prefix is in the warmup
    rw [run_snd, run_snd, ← List.map_take, List.take_range]
    refine List.map_congr_left ?_
    intro i hi
    have hik := List.mem_range.mp hi
    rw [outputAt_atr_step_warmup _ (by omega), outputAt_atr_step_warmup _ (by omega),
      htake i (by omega)]

theorem atr_take (highs lows closes : List K) (period : ℤ) (k : ℕ) :
    atr (highs.take k) (lows.take k) (closes.take k) period
      = (atr highs lows closes period).take k := by
  rw [atr_eq, atr_eq, true_ranges_take, atr_loop_take]

/-! ## Oscillators -/

/-- The changes between closes in a row. -/
def close_changes (closes : List K) : List K :=
  List.zipWith (fun previous current => current - previous) closes closes.tail

omit [LinearOrder K] in
theorem close_changes_take (closes : List K) (k : ℕ) :
    close_changes (closes.take k) = (close_changes closes).take (k - 1) := by
  refine List.ext_getElem? ?_
  intro i
  simp only [close_changes, List.getElem?_zipWith, List.getElem?_take, List.getElem?_tail]
  by_cases hi : i + 1 < k
  · simp only [if_pos hi, if_pos (show i < k by omega), if_pos (show i < k - 1 by omega)]
  · -- behind the last close of the prefix there is no change
    simp only [if_neg hi, if_neg (show ¬ i < k - 1 by omega)]
    cases (if i < k then closes[i]? else none) <;> rfl

/-- The rises (`up`) and the falls (`dn`) of a series. -/
def close_rises (closes : List K) : List K := (close_changes closes).map fun c => max 0 c

def close_falls (closes : List K) : List K := (close_changes closes).map fun c => max 0 (-c)

/-- One pass of the loop of `rsi`: bar `p + k` from the averages carried. -/
def rsi_step (up dn : List K) (p : ℕ) (avg : K × K) (k : ℕ) : (K × K) × K :=
  let next : K × K :=
    if k = 0 then avg
    else ((avg.1 * ((p : K) - 1) + up.getD (p + k - 1) 0) / p,
      (avg.2 * ((p : K) - 1) + dn.getD (p + k - 1) 0) / p)
  (next, relative_strength next.1 next.2)

theorem rsi_eq (closes : List K) (period : ℤ) :
    rsi closes period
      = if closes.length ≤ (max 1 period).toNat then List.replicate closes.length 50
        else List.replicate (max 1 period).toNat 50
          ++ (run (rsi_step (close_rises closes) (close_falls closes) (max 1 period).toNat)
            (((close_rises closes).take (max 1 period).toNat).sum / ((max 1 period).toNat : K),
              ((close_falls closes).take (max 1 period).toNat).sum / ((max 1 period).toNat : K))
            (closes.length - (max 1 period).toNat)).2 := rfl

theorem close_rises_take (closes : List K) (k : ℕ) :
    close_rises (closes.take k) = (close_rises closes).take (k - 1) := by
  rw [close_rises, close_rises, close_changes_take, List.map_take]

theorem close_falls_take (closes : List K) (k : ℕ) :
    close_falls (closes.take k) = (close_falls closes).take (k - 1) := by
  rw [close_falls, close_falls, close_changes_take, List.map_take]

theorem rsi_take (closes : List K) (period : ℤ) (k : ℕ) :
    rsi (closes.take k) period = (rsi closes period).take k := by
  rw [rsi_eq, rsi_eq, List.length_take]
  generalize (max 1 period).toNat = p
  by_cases hshort : min k closes.length ≤ p
  · -- the prefix ends in the warmup
    rw [if_pos hshort]
    by_cases hall : closes.length ≤ p
    · rw [if_pos hall, List.take_replicate]
    · rw [if_neg hall, List.take_append_of_le_length (by rw [List.length_replicate]; omega),
        List.take_replicate]
      congr 1
      omega
  · have hbars : min k closes.length - p = min (k - p) (closes.length - p) := by omega
    have hwarm : min k p = p := by omega
    have hseeds : min p (k - 1) = p := by omega
    rw [if_neg hshort, if_neg (by omega), List.take_append, List.take_replicate,
      List.length_replicate, hwarm, hbars, close_rises_take, close_falls_take, List.take_take,
      List.take_take, hseeds]
    refine congrArg (List.replicate p (50 : K) ++ ·) ?_
    apply run_take
    intro t i hi
    unfold rsi_step
    by_cases hseed : i = 0
    · rw [if_pos hseed, if_pos hseed]
    · rw [if_neg hseed, if_neg hseed, getD_take _ (by omega), getD_take _ (by omega)]

theorem zscore_take (m : PyMath K) (closes : List K) (period : ℤ) (k : ℕ) :
    zscore m (closes.take k) period = (zscore m closes period).take k := by
  unfold zscore
  dsimp only
  rw [List.length_take]
  apply map_range_take
  intro i hi
  rw [trailing_window_take _ _ hi, ema_take, getD_take _ hi, getD_take _ hi]

/-! ## Values between the prices so far -/

section Ranges

variable [IsStrictOrderedRing K]

omit [IsStrictOrderedRing K] in
theorem withinRunningRange_of {prices values : List K}
    (hlength : values.length = prices.length)
    (h : ∀ (i : ℕ) (low high : K), i < prices.length →
      (∀ x ∈ prices.take (i + 1), x ∈ Set.Icc low high) → values.getD i 0 ∈ Set.Icc low high) :
    WithinRunningRange prices values := by
  refine ⟨hlength, ?_⟩
  intro i hi
  have hne : prices.take (i + 1) ≠ [] := by
    apply List.ne_nil_of_length_pos
    rw [List.length_take]
    omega
  cases hlow : (prices.take (i + 1)).min? with
  | none => exact absurd (List.min?_eq_none_iff.mp hlow) hne
  | some low =>
      cases hhigh : (prices.take (i + 1)).max? with
      | none => exact absurd (List.max?_eq_none_iff.mp hhigh) hne
      | some high =>
          refine ⟨low, rfl, high, rfl, h i low high hi ?_⟩
          intro x hx
          exact ⟨(List.min?_eq_some_iff.mp hlow).2 x hx, (List.max?_eq_some_iff.mp hhigh).2 x hx⟩

/-- A sum in a range that is scaled by its weight. -/
theorem div_mem_Icc {low high total weight : K} (hweight : 0 < weight)
    (h : total ∈ Set.Icc (weight * low) (weight * high)) : total / weight ∈ Set.Icc low high :=
  ⟨(le_div_iff₀' hweight).mpr h.1, (div_le_iff₀' hweight).mpr h.2⟩

/-- The mean of prices in a range is in it. -/
theorem mean_mem_Icc {xs : List K} {low high : K} (hne : xs ≠ [])
    (h : ∀ x ∈ xs, x ∈ Set.Icc low high) : xs.sum / (xs.length : K) ∈ Set.Icc low high := by
  have hpos : (0 : K) < xs.length := by exact_mod_cast List.length_pos_iff.mpr hne
  have hlow := List.card_nsmul_le_sum xs low fun x hx => (h x hx).1
  have hhigh := List.sum_le_card_nsmul xs high fun x hx => (h x hx).2
  rw [nsmul_eq_mul] at hlow hhigh
  exact div_mem_Icc hpos ⟨hlow, hhigh⟩

/-- A step from one value in a range towards another stays in it. -/
theorem blend_mem_Icc {low high x y a : K} (hx : x ∈ Set.Icc low high)
    (hy : y ∈ Set.Icc low high) (h0 : 0 ≤ a) (h1 : a ≤ 1) :
    a * x + (1 - a) * y ∈ Set.Icc low high :=
  convex_Icc low high hx hy h0 (sub_nonneg.mpr h1) (add_sub_cancel a 1)

/-- The weights `1, …, n` of a full window. -/
theorem sum_weights (n : ℕ) :
    ((List.range n).map fun j => ((j + 1 : ℕ) : K)).sum = (n : K) * (n + 1) / 2 := by
  induction n with
  | zero => simp
  | succ n ih =>
      rw [List.range_succ, List.map_append, List.sum_append, ih, List.map_singleton,
        List.sum_singleton]
      push_cast
      ring

/-- The weighted mean of a full window of prices in a range is in it. -/
theorem weighted_mean_mem_Icc {w : ℕ → K} {n : ℕ} {low high : K} (hn : 0 < n)
    (h : ∀ j, j < n → w j ∈ Set.Icc low high) :
    ((List.range n).map fun j => ((j + 1 : ℕ) : K) * w j).sum / ((n : K) * (n + 1) / 2)
      ∈ Set.Icc low high := by
  have hpos : (0 : K) < (n : K) * (n + 1) / 2 := by positivity
  have hscaled : ∀ bound : K, ((List.range n).map fun j => ((j + 1 : ℕ) : K) * bound).sum
      = (n : K) * (n + 1) / 2 * bound := by
    intro bound
    rw [List.sum_map_mul_right, sum_weights]
  refine div_mem_Icc hpos ⟨?_, ?_⟩
  · rw [← hscaled]
    refine List.sum_le_sum ?_
    intro j hj
    exact mul_le_mul_of_nonneg_left (h j (List.mem_range.mp hj)).1 (Nat.cast_nonneg _)
  · rw [← hscaled]
    refine List.sum_le_sum ?_
    intro j hj
    exact mul_le_mul_of_nonneg_left (h j (List.mem_range.mp hj)).2 (Nat.cast_nonneg _)

theorem wma_within (prices : List K) (period : ℤ) :
    WithinRunningRange prices (wma prices period) := by
  apply withinRunningRange_of (by simp [wma])
  intro i low high hi h
  generalize hp : (max 1 period).toNat = p
  have hwindow : ∀ x ∈ trailing_window prices p i, x ∈ Set.Icc low high := fun x hx =>
    h x (List.mem_of_mem_drop hx)
  have hlength : (trailing_window prices p i).length = min (i + 1) p := by
    rw [trailing_window, List.length_drop, List.length_take]
    omega
  have hvalue : (wma prices period).getD i 0
      = if (trailing_window prices p i).length < p then
          (trailing_window prices p i).sum / (trailing_window prices p i).length
        else ((List.range (trailing_window prices p i).length).map fun j =>
          ((j + 1 : ℕ) : K) * (trailing_window prices p i).getD j 0).sum
            / ((p : K) * (p + 1) / 2) := by
    rw [List.getD_eq_getElem _ _ (by simpa [wma] using hi)]
    simp [wma, hp]
  rw [hvalue]
  split_ifs with hwarm
  · exact mean_mem_Icc (List.ne_nil_of_length_pos (by omega)) hwindow
  · have hfull : (trailing_window prices p i).length = p := by omega
    rw [hfull]
    apply weighted_mean_mem_Icc (by omega)
    intro j hj
    rw [List.getD_eq_getElem _ _ (by omega)]
    exact hwindow _ (List.getElem_mem _)

omit [IsStrictOrderedRing K] in
/-- A price up to the bar is one of the prices so far. -/
theorem price_mem_Icc {prices : List K} {i : ℕ} {low high : K} (hi : i < prices.length)
    (h : ∀ x ∈ prices.take (i + 1), x ∈ Set.Icc low high) {j : ℕ} (hj : j ≤ i) :
    prices.getD j 0 ∈ Set.Icc low high := by
  rw [← getD_take prices (Nat.lt_succ_of_le hj), List.getD_eq_getElem _ _ (by simp; omega)]
  exact h _ (List.getElem_mem _)

/-- What `ema` carries before bar `i`: an average in the range, and in the warmup the
sum of `i` prices in the range. -/
def EmaState (p : ℕ) (low high : K) (i : ℕ) (s : K × K) : Prop :=
  0 < i → s.1 ∈ Set.Icc low high ∧ (i ≤ p → s.2 ∈ Set.Icc ((i : K) * low) ((i : K) * high))

theorem ema_step_state {prices : List K} {p i : ℕ} {low high : K} {s : K × K}
    (hp : 0 < p) (hprice : prices.getD i 0 ∈ Set.Icc low high) (h : EmaState p low high i s) :
    EmaState p low high (i + 1) (ema_step prices p s i).1 := by
  intro _
  unfold ema_step
  dsimp only
  by_cases hfirst : i = 0
  · subst hfirst
    rw [if_pos rfl]
    refine ⟨hprice, fun _ => ?_⟩
    rw [Nat.zero_add, Nat.cast_one, one_mul, one_mul]
    exact hprice
  · obtain ⟨haverage, hsum⟩ := h (Nat.pos_of_ne_zero hfirst)
    rw [if_neg hfirst]
    by_cases hwarm : i < p
    · obtain ⟨hlow, hhigh⟩ := hsum hwarm.le
      have hnext : s.2 + prices.getD i 0
          ∈ Set.Icc (((i + 1 : ℕ) : K) * low) (((i + 1 : ℕ) : K) * high) := by
        push_cast
        rw [add_mul, add_mul, one_mul, one_mul]
        exact ⟨add_le_add hlow hprice.1, add_le_add hhigh hprice.2⟩
      have hpos : (0 : K) < ((i + 1 : ℕ) : K) := by exact_mod_cast Nat.succ_pos i
      rw [if_pos hwarm]
      exact ⟨div_mem_Icc hpos hnext, fun _ => hnext⟩
    · have hp1 : (1 : K) ≤ p := by exact_mod_cast hp
      rw [if_neg hwarm]
      refine ⟨blend_mem_Icc hprice haverage (by positivity) ?_, fun hle => absurd hle (by omega)⟩
      rw [div_le_one (by positivity)]
      linarith

theorem ema_within (prices : List K) (period : ℤ) :
    WithinRunningRange prices (ema prices period) := by
  apply withinRunningRange_of (by simp [ema])
  intro b low high hb h
  have hstate : ∀ i, i ≤ b + 1 → EmaState (max 1 period).toNat low high i
      (stateAt (ema_step prices (max 1 period).toNat) (prices.headD 0, 0) i) := by
    intro i
    induction i with
    | zero => exact fun _ hpos => absurd hpos (lt_irrefl 0)
    | succ i ih =>
        intro hi
        exact ema_step_state (by omega) (price_mem_Icc hb h (by omega)) (ih (by omega))
  have hget := run_snd_getElem? (ema_step prices (max 1 period).toNat) (prices.headD 0, 0) hb
  rw [List.getD_eq_getElem?_getD, ema, hget, Option.getD_some]
  -- the value given at a bar is the average carried on
  exact (hstate (b + 1) le_rfl (Nat.succ_pos b)).1

theorem efficiency_ratio_mem_Icc (prices : List K) (n i : ℕ) :
    efficiency_ratio prices n i ∈ Set.Icc (0 : K) 1 :=
  ⟨le_max_left _ _, max_le zero_le_one (min_le_left _ _)⟩

/-- The smoothing constant of a period of at least two bars. -/
theorem smoothing_mem_Icc (period : ℤ) :
    (2 : K) / ((max 2 period : ℤ) + 1) ∈ Set.Icc (0 : K) 1 := by
  have hperiod : (2 : K) ≤ ((max 2 period : ℤ) : K) := by exact_mod_cast le_max_left 2 period
  constructor
  · exact div_nonneg zero_le_two (by linarith)
  · rw [div_le_one (by linarith)]
    linarith

theorem kama_step_ratio_mem_Icc (prices : List K) (n : ℕ) (fast_sc slow_sc average : K) (i : ℕ) :
    (kama_step prices n fast_sc slow_sc average i).2.2 ∈ Set.Icc (0 : K) 1 := by
  unfold kama_step
  dsimp only
  by_cases hwarm : i < n
  · rw [if_pos hwarm]
    exact ⟨le_rfl, zero_le_one⟩
  · rw [if_neg hwarm]
    exact efficiency_ratio_mem_Icc prices n i

omit [IsStrictOrderedRing K] in
/-- The value given at a bar is the average carried on. -/
theorem kama_step_value (prices : List K) (n : ℕ) (fast_sc slow_sc average : K) (i : ℕ) :
    (kama_step prices n fast_sc slow_sc average i).2.1
      = (kama_step prices n fast_sc slow_sc average i).1 := by
  unfold kama_step
  dsimp only
  by_cases hwarm : i < n
  · rw [if_pos hwarm]
  · rw [if_neg hwarm]

/-- A pass of `kama` moves the average towards the price, by at most all the way. -/
theorem kama_step_mem_Icc {prices : List K} {n i : ℕ} {fast_sc slow_sc low high average : K}
    (hfast : fast_sc ∈ Set.Icc (0 : K) 1) (hslow : slow_sc ∈ Set.Icc (0 : K) 1)
    (hprice : prices.getD i 0 ∈ Set.Icc low high)
    (haverage : n ≤ i → average ∈ Set.Icc low high) :
    (kama_step prices n fast_sc slow_sc average i).1 ∈ Set.Icc low high := by
  unfold kama_step
  dsimp only
  by_cases hwarm : i < n
  · rw [if_pos hwarm]
    exact hprice
  · rw [if_neg hwarm]
    obtain ⟨her0, her1⟩ := efficiency_ratio_mem_Icc prices n i
    have hblend := blend_mem_Icc hfast hslow her0 her1
    have hsc : efficiency_ratio prices n i * (fast_sc - slow_sc) + slow_sc
        = efficiency_ratio prices n i * fast_sc
          + (1 - efficiency_ratio prices n i) * slow_sc := by ring
    have hmove : ∀ sc : K, average + sc * (prices.getD i 0 - average)
        = sc * prices.getD i 0 + (1 - sc) * average := by
      intro sc
      ring
    rw [hsc, hmove]
    refine blend_mem_Icc hprice (haverage (by omega)) (sq_nonneg _) ?_
    exact pow_le_one₀ hblend.1 hblend.2

omit [IsStrictOrderedRing K] in
/-- The two values of `kama` at a bar, from the loop. -/
theorem kama_getD {prices : List K} (n f s : ℤ) {b : ℕ} (hb : b < prices.length) :
    (kama prices n f s).1.getD b 0
      = (outputAt (kama_step prices (max 2 n).toNat (2 / ((max 2 f : ℤ) + 1))
          (2 / ((max 2 s : ℤ) + 1))) (prices.headD 0) b).1 ∧
    (kama prices n f s).2.getD b 0
      = (outputAt (kama_step prices (max 2 n).toNat (2 / ((max 2 f : ℤ) + 1))
          (2 / ((max 2 s : ℤ) + 1))) (prices.headD 0) b).2 := by
  have hget := run_snd_getElem? (kama_step prices (max 2 n).toNat (2 / ((max 2 f : ℤ) + 1))
    (2 / ((max 2 s : ℤ) + 1))) (prices.headD 0) hb
  unfold kama
  simp only [List.unzip_eq_map, List.getD_eq_getElem?_getD, List.getElem?_map, hget,
    Option.map_some, Option.getD_some, and_self]

theorem kama_within (prices : List K) (n f s : ℤ) :
    WithinRunningRange prices (kama prices n f s).1 := by
  apply withinRunningRange_of (by simp [kama])
  intro b low high hb h
  have hstate : ∀ i, i ≤ b + 1 → 0 < i →
      stateAt (kama_step prices (max 2 n).toNat (2 / ((max 2 f : ℤ) + 1))
        (2 / ((max 2 s : ℤ) + 1))) (prices.headD 0) i ∈ Set.Icc low high := by
    intro i
    induction i with
    | zero => exact fun _ hpos => absurd hpos (lt_irrefl 0)
    | succ i ih =>
        intro hi _
        exact kama_step_mem_Icc (smoothing_mem_Icc f) (smoothing_mem_Icc s)
          (price_mem_Icc hb h (by omega)) fun hwarm => ih (by omega) (by omega)
  rw [(kama_getD n f s hb).1, outputAt, kama_step_value]
  exact hstate (b + 1) le_rfl (Nat.succ_pos b)

theorem kama_ratio_mem_Icc (prices : List K) (n f s : ℤ) :
    ∀ er ∈ (kama prices n f s).2, er ∈ Set.Icc (0 : K) 1 := by
  intro er her
  obtain ⟨b, hb, rfl⟩ := List.getElem_of_mem her
  have hlength : b < prices.length := by simpa [kama] using hb
  rw [← List.getD_eq_getElem _ 0 hb, (kama_getD n f s hlength).2, outputAt]
  exact kama_step_ratio_mem_Icc _ _ _ _ _ _

/-! ## RSI -/

theorem relative_strength_mem_Icc {avg_up avg_dn : K} (hup : 0 ≤ avg_up) :
    relative_strength avg_up avg_dn ∈ Set.Icc (0 : K) 100 := by
  unfold relative_strength
  split_ifs with hflat hdown
  · constructor <;> norm_num
  · constructor <;> norm_num
  · have hdn : 0 < avg_dn := lt_of_lt_of_le (by norm_num) (not_lt.mp hdown)
    have hratio : 0 ≤ avg_up / avg_dn := div_nonneg hup hdn.le
    have hpart : 100 / (1 + avg_up / avg_dn) ≤ 100 :=
      div_le_self (by norm_num) (by linarith)
    have hnonneg : 0 ≤ 100 / (1 + avg_up / avg_dn) := div_nonneg (by norm_num) (by linarith)
    exact ⟨by linarith, by linarith⟩

/-- The average of changes of one sign is not negative, and stays so. -/
theorem rsi_step_nonneg {up dn : List K} (hup : ∀ x ∈ up, 0 ≤ x) {p : ℕ} (hp : 0 < p)
    {avg : K × K} (h : 0 ≤ avg.1) (k : ℕ) : 0 ≤ (rsi_step up dn p avg k).1.1 := by
  unfold rsi_step
  dsimp only
  by_cases hseed : k = 0
  · rw [if_pos hseed]
    exact h
  · rw [if_neg hseed]
    have hp1 : (1 : K) ≤ p := by exact_mod_cast hp
    have hchange : 0 ≤ up.getD (p + k - 1) 0 := by
      rcases Nat.lt_or_ge (p + k - 1) up.length with hlt | hge
      · rw [List.getD_eq_getElem _ _ hlt]
        exact hup _ (List.getElem_mem hlt)
      · rw [List.getD_eq_default _ _ hge]
    exact div_nonneg (add_nonneg (mul_nonneg h (sub_nonneg.mpr hp1)) hchange) (Nat.cast_nonneg p)

theorem rsi_mem_Icc (closes : List K) (period : ℤ) :
    ∀ value ∈ rsi closes period, value ∈ Set.Icc (0 : K) 100 := by
  have hneutral : ∀ (n : ℕ), ∀ value ∈ List.replicate n (50 : K), value ∈ Set.Icc (0 : K) 100 := by
    intro n value hvalue
    rw [List.eq_of_mem_replicate hvalue]
    constructor <;> norm_num
  have hup : ∀ x ∈ close_rises closes, (0 : K) ≤ x := by
    intro x hx
    obtain ⟨c, -, rfl⟩ := List.mem_map.mp hx
    exact le_max_left _ _
  intro value hvalue
  rw [rsi_eq] at hvalue
  split_ifs at hvalue with hshort
  · exact hneutral _ value hvalue
  · rcases List.mem_append.mp hvalue with hwarm | hloop
    · exact hneutral _ value hwarm
    · rw [run_snd] at hloop
      obtain ⟨k, -, rfl⟩ := List.mem_map.mp hloop
      have hseed : 0 ≤ ((close_rises closes).take (max 1 period).toNat).sum
          / ((max 1 period).toNat : K) :=
        div_nonneg (List.sum_nonneg fun x hx => hup x (List.mem_of_mem_take hx))
          (Nat.cast_nonneg _)
      refine relative_strength_mem_Icc (rsi_step_nonneg hup (by omega) ?_ k)
      exact stateAt_invariant (fun _ (avg : K × K) => 0 ≤ avg.1) hseed
        (fun i avg h => rsi_step_nonneg hup (by omega) h i) k

/-! ## The library -/

end Ranges

end ProofAlpha.Backtest
