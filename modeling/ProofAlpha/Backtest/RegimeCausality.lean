/-
What the regime label of a bar reads (`validation/regimes.py`,
`label_snapshot_regimes`).

The label of a bar is decided by bars up to it and by the liquidation baseline, the
median of the positive liquidation notionals of the whole series. The future of a
series can move that median anywhere (`liquidation_baseline_continued`), so a label
is fixed by the past exactly where no test of the liquidation ratio can turn it
(`LabelSettled`).
-/
import Mathlib.Tactic.Linarith
import ProofAlpha.Backtest.Snapshot

set_option autoImplicit false

namespace ProofAlpha.Backtest

open ProofAlpha.Lib ProofAlpha.Lib.PyList

variable {K : Type} [Field K] [LinearOrder K]

/-! ## The tests of a bar -/

/-- The return of a bar over the bar before it. -/
def one_bar_return (closes : List K) (index : ℕ) : K :=
  let previous_close := if 0 < index then closes.getD (index - 1) 0 else closes.getD index 0
  if previous_close = 0 then 0 else closes.getD index 0 / previous_close - 1

/-- The distance of a bar from the highest close so far. -/
def drawdown_at (closes : List K) (index : ℕ) : K :=
  let running_peak := (closes.take (index + 1)).foldl max (closes.getD 0 0)
  if running_peak = 0 then 0 else closes.getD index 0 / running_peak - 1

/-- The test for a crash. -/
def IsCrashBar (closes : List K) (index : ℕ) : Prop :=
  one_bar_return closes index ≤ -0.09
    ∨ (drawdown_at closes index ≤ -0.18 ∧ one_bar_return closes index ≤ 0)

/-- The tests of price and funding for a short squeeze. -/
def IsSqueezeBar (closes funding_rates : List K) (index : ℕ) : Prop :=
  0.07 ≤ one_bar_return closes index ∧ 0.01 ≤ funding_rates.getD index 0

/-- The tests of funding and open interest for a liquidity stress. -/
def IsStressBar (funding_rates open_interest : List K) (index : ℕ) : Prop :=
  let previous_open_interest :=
    if 0 < index then open_interest.getD (index - 1) 0 else open_interest.getD index 0
  0.015 ≤ |funding_rates.getD index 0| ∨
    0.12 ≤ (if previous_open_interest = 0 then 0
      else |open_interest.getD index 0 / previous_open_interest - 1|)

/-- The label by price alone. -/
def trend_label (closes : List K) (index : ℕ) : RegimeLabel :=
  let close := closes.getD index 0
  let lookback_close := closes.getD (index - 4) 0
  let short_return := if lookback_close = 0 then 0 else close / lookback_close - 1
  let price_slope := close - lookback_close
  if 0.04 ≤ short_return ∧ 0 < price_slope then .bull
  else if short_return ≤ -0.04 ∧ price_slope < 0 ∧ drawdown_at closes index ≤ -0.03 then .bear
  else .sideways

/-- The liquidation notional of a bar over the baseline. -/
def liquidation_ratio (liquidation_notional : List K) (baseline : K) (index : ℕ) : K :=
  liquidation_notional.getD index 0 / max 1 baseline

instance (closes : List K) (index : ℕ) : Decidable (IsCrashBar closes index) :=
  inferInstanceAs (Decidable (_ ∨ _))

instance (closes funding_rates : List K) (index : ℕ) :
    Decidable (IsSqueezeBar closes funding_rates index) :=
  inferInstanceAs (Decidable (_ ∧ _))

instance (funding_rates open_interest : List K) (index : ℕ) :
    Decidable (IsStressBar funding_rates open_interest index) :=
  inferInstanceAs (Decidable (_ ∨ _))

/-- The label of a bar by its tests. -/
theorem regime_label_at_eq (closes funding_rates open_interest liquidation_notional : List K)
    (baseline : K) (index : ℕ) :
    regime_label_at closes funding_rates open_interest liquidation_notional baseline index
      = if IsCrashBar closes index then .crash
        else if IsSqueezeBar closes funding_rates index
          ∧ 2 ≤ liquidation_ratio liquidation_notional baseline index then .short_squeeze
        else if IsStressBar funding_rates open_interest index
          ∨ 2.5 ≤ liquidation_ratio liquidation_notional baseline index then .liquidity_stress
        else trend_label closes index := by
  simp only [IsSqueezeBar, IsStressBar, and_assoc, or_assoc]
  rfl

theorem trend_label_ne (closes : List K) (index : ℕ) :
    trend_label closes index ≠ .short_squeeze ∧ trend_label closes index ≠ .liquidity_stress := by
  unfold trend_label
  dsimp only
  split_ifs <;> decide

/-! ## Snapshots that agree up to a bar -/

/-- The bars `0..i` of the two snapshots hold the same data: the same candles and,
in the series cut or padded to the candles, the same values. -/
structure BarsAgree (i : ℕ) (snap₁ snap₂ : DataSnapshot K) : Prop where
  candles : AgreeUpTo i snap₁.candles snap₂.candles
  funding_rates : AgreeUpTo i (normalize_series snap₁.funding_rates snap₁.candles.length 0)
    (normalize_series snap₂.funding_rates snap₂.candles.length 0)
  open_interest : AgreeUpTo i (normalize_series snap₁.open_interest snap₁.candles.length 0)
    (normalize_series snap₂.open_interest snap₂.candles.length 0)
  liquidation_notional :
    AgreeUpTo i (normalize_series snap₁.liquidation_notional snap₁.candles.length 0)
      (normalize_series snap₂.liquidation_notional snap₂.candles.length 0)

section Tests

variable {closes closes' funding_rates funding_rates' open_interest open_interest' : List K}
  {i : ℕ}

theorem one_bar_return_congr (h : AgreeUpTo i closes closes') :
    one_bar_return closes i = one_bar_return closes' i := by
  unfold one_bar_return
  rw [h.getD le_rfl, h.getD (Nat.sub_le i 1)]

theorem drawdown_at_congr (h : AgreeUpTo i closes closes') :
    drawdown_at closes i = drawdown_at closes' i := by
  have htake : closes.take (i + 1) = closes'.take (i + 1) := h
  unfold drawdown_at
  rw [h.getD le_rfl, h.getD (Nat.zero_le i), htake]

theorem isCrashBar_congr (h : AgreeUpTo i closes closes') :
    IsCrashBar closes i ↔ IsCrashBar closes' i := by
  unfold IsCrashBar
  rw [one_bar_return_congr h, drawdown_at_congr h]

theorem isSqueezeBar_congr (h : AgreeUpTo i closes closes')
    (hfunding : AgreeUpTo i funding_rates funding_rates') :
    IsSqueezeBar closes funding_rates i ↔ IsSqueezeBar closes' funding_rates' i := by
  unfold IsSqueezeBar
  rw [one_bar_return_congr h, hfunding.getD le_rfl]

theorem isStressBar_congr (hfunding : AgreeUpTo i funding_rates funding_rates')
    (hopen : AgreeUpTo i open_interest open_interest') :
    IsStressBar funding_rates open_interest i ↔ IsStressBar funding_rates' open_interest' i := by
  unfold IsStressBar
  rw [hfunding.getD le_rfl, hopen.getD le_rfl, hopen.getD (Nat.sub_le i 1)]

theorem trend_label_congr (h : AgreeUpTo i closes closes') :
    trend_label closes i = trend_label closes' i := by
  unfold trend_label
  rw [h.getD le_rfl, h.getD (Nat.sub_le i 4), drawdown_at_congr h]

end Tests

/-! ## Two snapshots at one bar -/

/-- The series the labeller reads, and the baseline it compares with. -/
def DataSnapshot.padded_funding_rates (snapshot : DataSnapshot K) : List K :=
  normalize_series snapshot.funding_rates snapshot.candles.length 0

def DataSnapshot.padded_open_interest (snapshot : DataSnapshot K) : List K :=
  normalize_series snapshot.open_interest snapshot.candles.length 0

def DataSnapshot.padded_liquidation_notional (snapshot : DataSnapshot K) : List K :=
  normalize_series snapshot.liquidation_notional snapshot.candles.length 0

/-- The liquidation ratio of a bar of a snapshot. -/
def DataSnapshot.ratio_at (snapshot : DataSnapshot K) (index : ℕ) : K :=
  liquidation_ratio snapshot.padded_liquidation_notional
    (liquidation_baseline snapshot.padded_liquidation_notional) index

/-- The label of a bar of a snapshot. -/
theorem label_snapshot_regimes_getElem? {snapshot : DataSnapshot K} {i : ℕ}
    (hi : i < snapshot.candles.length) :
    (label_snapshot_regimes snapshot)[i]? = some (
      if IsCrashBar snapshot.closes i then .crash
      else if IsSqueezeBar snapshot.closes snapshot.padded_funding_rates i
        ∧ 2 ≤ snapshot.ratio_at i then .short_squeeze
      else if IsStressBar snapshot.padded_funding_rates snapshot.padded_open_interest i
        ∨ 2.5 ≤ snapshot.ratio_at i then .liquidity_stress
      else trend_label snapshot.closes i) := by
  have hlength : snapshot.closes.length = snapshot.candles.length := by
    rw [DataSnapshot.closes, List.length_map]
  unfold label_snapshot_regimes
  dsimp only
  rw [hlength, List.getElem?_map, List.getElem?_range hi, Option.map_some, regime_label_at_eq]
  rfl

/-- The tests of the liquidation ratio that decide the label of a bar come out the
same in both snapshots. -/
def RatioTestsAgree (snap₁ snap₂ : DataSnapshot K) (i : ℕ) : Prop :=
  IsCrashBar snap₁.closes i ∨
  (IsSqueezeBar snap₁.closes snap₁.padded_funding_rates i ∧
    (2 ≤ snap₁.ratio_at i ↔ 2 ≤ snap₂.ratio_at i)) ∨
  (¬ IsSqueezeBar snap₁.closes snap₁.padded_funding_rates i ∧
    (IsStressBar snap₁.padded_funding_rates snap₁.padded_open_interest i ∨
      (2.5 ≤ snap₁.ratio_at i ↔ 2.5 ≤ snap₂.ratio_at i)))

omit [LinearOrder K] in
theorem BarsAgree.lt_length {i : ℕ} {snap₁ snap₂ : DataSnapshot K} (h : BarsAgree i snap₁ snap₂)
    (hi : i < snap₁.candles.length) : i < snap₂.candles.length := by
  have hget := h.candles.getElem? le_rfl
  rw [List.getElem?_eq_getElem hi] at hget
  exact (List.getElem?_eq_some_iff.mp hget.symm).1

variable [IsStrictOrderedRing K]

/-- A label by its tests, under two verdicts on the liquidation ratio. -/
theorem label_by_tests_eq_iff {crash squeeze stress : Prop} [Decidable crash] [Decidable squeeze]
    [Decidable stress] {trend : RegimeLabel} (hsqueeze_ne : trend ≠ .short_squeeze)
    (hstress_ne : trend ≠ .liquidity_stress) (ratio₁ ratio₂ : K) :
    ((if crash then .crash else if squeeze ∧ 2 ≤ ratio₁ then .short_squeeze
        else if stress ∨ 2.5 ≤ ratio₁ then .liquidity_stress else trend)
      = if crash then .crash else if squeeze ∧ 2 ≤ ratio₂ then .short_squeeze
        else if stress ∨ 2.5 ≤ ratio₂ then .liquidity_stress else trend) ↔
      crash ∨ (squeeze ∧ (2 ≤ ratio₁ ↔ 2 ≤ ratio₂)) ∨
        (¬ squeeze ∧ (stress ∨ (2.5 ≤ ratio₁ ↔ 2.5 ≤ ratio₂))) := by
  -- below twice the baseline the stress test of the ratio fails too
  have hbelow : ∀ ratio : K, ¬ 2 ≤ ratio → ¬ 2.5 ≤ ratio := by
    intro ratio hratio hstress
    exact hratio (le_trans (by norm_num) hstress)
  by_cases hcrash : crash
  · simp [hcrash]
  · by_cases hsqueeze : squeeze
    · by_cases h₁ : 2 ≤ ratio₁ <;> by_cases h₂ : 2 ≤ ratio₂
      · simp [hcrash, hsqueeze, h₁, h₂]
      · by_cases hstress : stress
        · simp [hcrash, hsqueeze, h₁, h₂, hstress]
        · simp [hcrash, hsqueeze, h₁, h₂, hstress, hbelow ratio₂ h₂, hsqueeze_ne.symm]
      · by_cases hstress : stress
        · simp [hcrash, hsqueeze, h₁, h₂, hstress]
        · simp [hcrash, hsqueeze, h₁, h₂, hstress, hbelow ratio₁ h₁, hsqueeze_ne]
      · simp [hcrash, hsqueeze, h₁, h₂, hbelow ratio₁ h₁, hbelow ratio₂ h₂]
    · by_cases hstress : stress
      · simp [hcrash, hsqueeze, hstress]
      · by_cases h₁ : 2.5 ≤ ratio₁ <;> by_cases h₂ : 2.5 ≤ ratio₂ <;>
          simp [hcrash, hsqueeze, hstress, h₁, h₂, hstress_ne, hstress_ne.symm]

/-- Two snapshots that agree up to a bar give it the same label exactly when the
ratio tests that decide it agree. -/
theorem label_eq_iff {i : ℕ} {snap₁ snap₂ : DataSnapshot K} (h : BarsAgree i snap₁ snap₂)
    (hi : i < snap₁.candles.length) :
    (label_snapshot_regimes snap₁)[i]? = (label_snapshot_regimes snap₂)[i]? ↔
      RatioTestsAgree snap₁ snap₂ i := by
  have hcloses : AgreeUpTo i snap₁.closes snap₂.closes := h.candles.map Candle.close
  have hsqueeze : IsSqueezeBar snap₁.closes snap₁.padded_funding_rates i ↔
      IsSqueezeBar snap₂.closes snap₂.padded_funding_rates i :=
    isSqueezeBar_congr hcloses h.funding_rates
  have hstress : IsStressBar snap₁.padded_funding_rates snap₁.padded_open_interest i ↔
      IsStressBar snap₂.padded_funding_rates snap₂.padded_open_interest i :=
    isStressBar_congr h.funding_rates h.open_interest
  obtain ⟨hsqueeze_ne, hstress_ne⟩ := trend_label_ne snap₁.closes i
  rw [label_snapshot_regimes_getElem? hi, label_snapshot_regimes_getElem? (h.lt_length hi),
    Option.some_inj]
  simp only [← isCrashBar_congr hcloses, ← hsqueeze, ← hstress, ← trend_label_congr hcloses]
  exact label_by_tests_eq_iff hsqueeze_ne hstress_ne _ _

/-! ## The median -/

omit [Field K] [IsStrictOrderedRing K] in
/-- In a sorted list the entry behind all those below a bound is not below it. -/
theorem le_getD_of_countP [Zero K] {values : List K} (hsorted : values.Pairwise (· ≤ ·)) {k : ℕ}
    {bound : K} (hk : k < values.length)
    (hcount : values.countP (fun v => decide (v < bound)) ≤ k) : bound ≤ values.getD k 0 := by
  by_contra hbelow
  rw [not_le, List.getD_eq_getElem _ _ hk] at hbelow
  have hall : ∀ v ∈ values.take (k + 1), decide (v < bound) = true := by
    intro v hv
    obtain ⟨j, hj, rfl⟩ := List.getElem_of_mem hv
    rw [List.length_take] at hj
    rw [List.getElem_take, decide_eq_true_eq]
    exact lt_of_le_of_lt (hsorted.rel_get_of_le (a := ⟨j, by omega⟩) (b := ⟨k, hk⟩)
      (by simp; omega)) hbelow
  have hsub := (List.take_sublist (k + 1) values).countP_le (p := fun v => decide (v < bound))
  rw [List.countP_eq_length.mpr hall, List.length_take] at hsub
  omega

omit [Field K] [IsStrictOrderedRing K] in
/-- In a sorted list the entry before all those above a bound is not above it. -/
theorem getD_le_of_countP [Zero K] {values : List K} (hsorted : values.Pairwise (· ≤ ·)) {k : ℕ}
    {bound : K} (hcount : k + values.countP (fun v => decide (bound < v)) < values.length) :
    values.getD k 0 ≤ bound := by
  have hk : k < values.length := by omega
  by_contra habove
  rw [not_le, List.getD_eq_getElem _ _ hk] at habove
  have hall : ∀ v ∈ values.drop k, decide (bound < v) = true := by
    intro v hv
    obtain ⟨j, hj, rfl⟩ := List.getElem_of_mem hv
    rw [List.length_drop] at hj
    rw [List.getElem_drop, decide_eq_true_eq]
    exact lt_of_lt_of_le habove (hsorted.rel_get_of_le (a := ⟨k, hk⟩) (b := ⟨k + j, by omega⟩)
      (by simp))
  have hsub := (List.drop_sublist k values).countP_le (p := fun v => decide (bound < v))
  rw [List.countP_eq_length.mpr hall, List.length_drop] at hsub
  omega

/-- A value that more than half of the list is not below and more than half is not
above is the median. -/
theorem median_eq_of_majority {values : List K} {v : K}
    (hlow : 2 * values.countP (fun x => decide (x < v)) < values.length)
    (hhigh : 2 * values.countP (fun x => decide (v < x)) < values.length) :
    median values = v := by
  have hperm := List.perm_insertionSort (· ≤ ·) values
  have hsorted : (values.insertionSort (· ≤ ·)).Pairwise (· ≤ ·) :=
    List.pairwise_insertionSort (· ≤ ·) values
  have hentry : ∀ k, values.countP (fun x => decide (x < v)) ≤ k →
      k + values.countP (fun x => decide (v < x)) < values.length →
      (values.insertionSort (· ≤ ·)).getD k 0 = v := by
    intro k hk hk'
    rw [← hperm.countP_eq] at hk hk'
    rw [← hperm.length_eq] at hk'
    exact le_antisymm (getD_le_of_countP hsorted hk')
      (le_getD_of_countP hsorted (by omega) hk)
  unfold median
  dsimp only
  by_cases hodd : values.length % 2 = 1
  · rw [if_pos hodd]
    exact hentry _ (by omega) (by omega)
  · rw [if_neg hodd, hentry _ (by omega) (by omega), hentry _ (by omega) (by omega)]
    ring

/-- Two copies more of a positive notional than there are bars before it make it the
baseline. -/
theorem liquidation_baseline_append {notionals : List K} {v : K} (hv : 0 < v) {copies : ℕ}
    (hcopies : notionals.length < copies) :
    liquidation_baseline (notionals ++ List.replicate copies v) = v := by
  have hfilter : (notionals ++ List.replicate copies v).filter (fun x => decide (0 < x))
      = notionals.filter (fun x => decide (0 < x)) ++ List.replicate copies v := by
    rw [List.filter_append, List.filter_replicate, if_pos (decide_eq_true hv)]
  have hshort := List.length_filter_le (fun x => decide (0 < x)) notionals
  have hne : (notionals.filter (fun x => decide (0 < x)) ++ List.replicate copies v).isEmpty
      = false := by
    rw [List.isEmpty_eq_false_iff, ← List.length_pos_iff, List.length_append,
      List.length_replicate]
    omega
  unfold liquidation_baseline
  dsimp only
  rw [hfilter, hne, if_neg Bool.false_ne_true]
  -- the copies are neither above nor below themselves
  apply median_eq_of_majority
  · have hle := List.countP_le_length (p := fun x => decide (x < v))
      (l := notionals.filter fun x => decide (0 < x))
    rw [List.countP_append, List.countP_replicate, if_neg (by simp), List.length_append,
      List.length_replicate]
    omega
  · have hle := List.countP_le_length (p := fun x => decide (v < x))
      (l := notionals.filter fun x => decide (0 < x))
    rw [List.countP_append, List.countP_replicate, if_neg (by simp), List.length_append,
      List.length_replicate]
    omega

/-! ## A continuation with any baseline -/

/-- The bars `0..i` of a snapshot, followed by enough bars with one notional to make
it the baseline. -/
def DataSnapshot.continued (snapshot : DataSnapshot K) (i : ℕ) (notional : K) :
    DataSnapshot K :=
  { snapshot with
    candles := snapshot.candles.take (i + 1) ++ List.replicate (i + 2) Candle.missing
    funding_rates := snapshot.padded_funding_rates.take (i + 1)
    open_interest := snapshot.padded_open_interest.take (i + 1)
    liquidation_notional :=
      snapshot.padded_liquidation_notional.take (i + 1) ++ List.replicate (i + 2) notional }

omit [Field K] [LinearOrder K] [IsStrictOrderedRing K] in
theorem length_normalize_series (values : List K) (length : ℕ) (default : K) :
    (normalize_series values length default).length = length := by
  simp only [normalize_series, pad_series, List.length_append, List.length_take,
    List.length_replicate]
  omega

omit [Field K] [LinearOrder K] [IsStrictOrderedRing K] in
/-- A series that reaches bar `i` agrees up to it with its padded form. -/
theorem agreeUpTo_normalize {values : List K} {i length : ℕ} (hi : i < values.length)
    (hlength : i < length) (default : K) :
    AgreeUpTo i values (normalize_series values length default) := by
  rw [AgreeUpTo, normalize_series, pad_series,
    List.take_append_of_le_length (by rw [List.length_take]; omega), List.take_take,
    Nat.min_eq_left (by omega)]

omit [LinearOrder K] [IsStrictOrderedRing K] in
theorem length_continued {snapshot : DataSnapshot K} {i : ℕ} (hi : i < snapshot.candles.length)
    (notional : K) : (snapshot.continued i notional).candles.length = 2 * i + 3 := by
  simp only [DataSnapshot.continued, List.length_append, List.length_take, List.length_replicate]
  omega

omit [LinearOrder K] [IsStrictOrderedRing K] in
theorem padded_liquidation_notional_continued {snapshot : DataSnapshot K} {i : ℕ}
    (hi : i < snapshot.candles.length) (notional : K) :
    (snapshot.continued i notional).padded_liquidation_notional
      = snapshot.padded_liquidation_notional.take (i + 1) ++ List.replicate (i + 2) notional := by
  unfold DataSnapshot.padded_liquidation_notional
  rw [length_continued hi]
  apply normalize_series_of_length
  simp only [DataSnapshot.continued, DataSnapshot.padded_liquidation_notional, List.length_append,
    List.length_take, List.length_replicate, length_normalize_series]
  omega

omit [LinearOrder K] [IsStrictOrderedRing K] in
/-- The continuation holds the same data at the bars `0..i`. -/
theorem barsAgree_continued {snapshot : DataSnapshot K} {i : ℕ}
    (hi : i < snapshot.candles.length) (notional : K) :
    BarsAgree i snapshot (snapshot.continued i notional) := by
  have hcut : ∀ (values : List K), i < values.length →
      AgreeUpTo i values (normalize_series (values.take (i + 1))
        (snapshot.continued i notional).candles.length 0) := by
    intro values hvalues
    have hcut : AgreeUpTo i (values.take (i + 1)) (normalize_series (values.take (i + 1))
        (snapshot.continued i notional).candles.length 0) :=
      agreeUpTo_normalize (by rw [List.length_take]; omega) (by rw [length_continued hi]; omega) 0
    rw [AgreeUpTo, List.take_take, Nat.min_self] at hcut
    exact hcut
  refine ⟨?_, ?_, ?_, ?_⟩
  · rw [AgreeUpTo, DataSnapshot.continued,
      List.take_append_of_le_length (by rw [List.length_take]; omega), List.take_take, Nat.min_self]
  · exact hcut _ (by rw [length_normalize_series]; exact hi)
  · exact hcut _ (by rw [length_normalize_series]; exact hi)
  · have hpadded := padded_liquidation_notional_continued hi notional
    unfold DataSnapshot.padded_liquidation_notional at hpadded
    rw [AgreeUpTo, hpadded, List.take_append_of_le_length
      (by rw [List.length_take, length_normalize_series]; omega), List.take_take, Nat.min_self]

/-- The ratio of bar `i` under a continuation is its notional over the one chosen. -/
theorem ratio_at_continued {snapshot : DataSnapshot K} {i : ℕ}
    (hi : i < snapshot.candles.length) {notional : K} (hnotional : 1 ≤ notional) :
    (snapshot.continued i notional).ratio_at i
      = snapshot.padded_liquidation_notional.getD i 0 / notional := by
  have hread := (barsAgree_continued hi notional).liquidation_notional.getD le_rfl 0
  have hbaseline : liquidation_baseline
      (snapshot.continued i notional).padded_liquidation_notional = notional := by
    rw [padded_liquidation_notional_continued hi]
    apply liquidation_baseline_append (lt_of_lt_of_le zero_lt_one hnotional)
    rw [List.length_take]
    omega
  rw [DataSnapshot.ratio_at, liquidation_ratio, hbaseline, max_eq_right hnotional]
  exact congrArg (· / notional) hread.symm

/-! ## When the label of a bar is settled -/

/-- No test of the liquidation ratio can turn the label of the bar, whatever the
baseline: it is a crash, or a squeeze by price and funding with a notional below 2, or
no squeeze and either a stress by funding or open interest or of a notional below
2.5. -/
def LabelSettled (snapshot : DataSnapshot K) (i : ℕ) : Prop :=
  IsCrashBar snapshot.closes i ∨
  (IsSqueezeBar snapshot.closes snapshot.padded_funding_rates i ∧
    snapshot.padded_liquidation_notional.getD i 0 < 2) ∨
  (¬ IsSqueezeBar snapshot.closes snapshot.padded_funding_rates i ∧
    (IsStressBar snapshot.padded_funding_rates snapshot.padded_open_interest i ∨
      snapshot.padded_liquidation_notional.getD i 0 < 2.5))

/-- A notional below a positive bound is below that many baselines. -/
theorem ratio_at_lt {snapshot : DataSnapshot K} {i : ℕ} {bound : K} (hbound : 0 < bound)
    (h : snapshot.padded_liquidation_notional.getD i 0 < bound) : ¬ bound ≤ snapshot.ratio_at i := by
  have hbase : (1 : K) ≤ max 1 (liquidation_baseline snapshot.padded_liquidation_notional) :=
    le_max_left _ _
  rw [not_le, DataSnapshot.ratio_at, liquidation_ratio, div_lt_iff₀ (by linarith)]
  exact lt_of_lt_of_le h (le_mul_of_one_le_right hbound.le hbase)

/-- A test of the ratio that no continuation turns has a notional below its bound. -/
theorem notional_lt_of_tests {snapshot : DataSnapshot K} {i : ℕ}
    (hi : i < snapshot.candles.length) {bound : K} (hbound : 1 < bound)
    (h : ∀ notional : K, 1 ≤ notional →
      (bound ≤ snapshot.ratio_at i ↔ bound ≤ (snapshot.continued i notional).ratio_at i)) :
    snapshot.padded_liquidation_notional.getD i 0 < bound := by
  by_contra habove
  rw [not_lt] at habove
  have hlow := h 1 le_rfl
  have hhigh := h (snapshot.padded_liquidation_notional.getD i 0) (by linarith)
  rw [ratio_at_continued hi le_rfl, div_one] at hlow
  rw [ratio_at_continued hi (by linarith), div_self (by linarith)] at hhigh
  exact absurd (hhigh.mp (hlow.mpr habove)) (not_le.mpr hbound)

/-- Two snapshots that agree up to a bar label it alike exactly when the ratio tests
that decide it agree; and all that agree with a snapshot do exactly when the label is
settled by the past. -/
theorem regime_label_causal_iff (snapshot : DataSnapshot K) {i : ℕ}
    (hi : i < snapshot.candles.length) :
    (∀ other, BarsAgree i snapshot other →
      ((label_snapshot_regimes snapshot)[i]? = (label_snapshot_regimes other)[i]? ↔
        RatioTestsAgree snapshot other i)) ∧
    ((∀ other, BarsAgree i snapshot other →
      (label_snapshot_regimes snapshot)[i]? = (label_snapshot_regimes other)[i]?) ↔
        LabelSettled snapshot i) := by
  refine ⟨fun other hagree => label_eq_iff hagree hi, ?_, ?_⟩
  · intro hcausal
    have htests : ∀ notional, RatioTestsAgree snapshot (snapshot.continued i notional) i :=
      fun notional => (label_eq_iff (barsAgree_continued hi notional) hi).mp
        (hcausal _ (barsAgree_continued hi notional))
    by_cases hcrash : IsCrashBar snapshot.closes i
    · exact Or.inl hcrash
    · by_cases hsqueeze : IsSqueezeBar snapshot.closes snapshot.padded_funding_rates i
      · refine Or.inr (Or.inl ⟨hsqueeze, notional_lt_of_tests hi one_lt_two ?_⟩)
        intro notional _
        rcases htests notional with h | ⟨-, h⟩ | ⟨h, -⟩
        · exact absurd h hcrash
        · exact h
        · exact absurd hsqueeze h
      · refine Or.inr (Or.inr ⟨hsqueeze, ?_⟩)
        by_cases hstress :
            IsStressBar snapshot.padded_funding_rates snapshot.padded_open_interest i
        · exact Or.inl hstress
        · refine Or.inr (notional_lt_of_tests hi (by norm_num) ?_)
          intro notional _
          rcases htests notional with h | ⟨h, -⟩ | ⟨-, h | h⟩
          · exact absurd h hcrash
          · exact absurd h hsqueeze
          · exact absurd h hstress
          · exact h
  · intro hsettled other hagree
    rw [label_eq_iff hagree hi]
    have hread := hagree.liquidation_notional.getD le_rfl (0 : K)
    have hother : ∀ bound : K, 0 < bound →
        snapshot.padded_liquidation_notional.getD i 0 < bound →
        (bound ≤ snapshot.ratio_at i ↔ bound ≤ other.ratio_at i) := by
      intro bound hbound hlt
      exact iff_of_false (ratio_at_lt hbound hlt) (ratio_at_lt hbound (lt_of_eq_of_lt hread.symm hlt))
    rcases hsettled with h | ⟨hsqueeze, hlt⟩ | ⟨hsqueeze, h | hlt⟩
    · exact Or.inl h
    · exact Or.inr (Or.inl ⟨hsqueeze, hother 2 two_pos hlt⟩)
    · exact Or.inr (Or.inr ⟨hsqueeze, Or.inl h⟩)
    · exact Or.inr (Or.inr ⟨hsqueeze, Or.inr (hother 2.5 (by norm_num) hlt)⟩)

/-- A flat series whose first bar has a liquidation notional of ten. -/
def liquidation_snapshot (later_notionals : List ℚ) : DataSnapshot ℚ where
  venue := "binance"
  timeframe := "1h"
  candles := List.replicate (later_notionals.length + 1) ⟨0, 100, 100, 100⟩
  funding_rates := List.replicate (later_notionals.length + 1) 0
  open_interest := List.replicate (later_notionals.length + 1) 50
  liquidation_notional := 10 :: later_notionals
  taker_fee_bps := 0
  spread_bps := []
  depth_bid_1bp_usd := []
  depth_ask_1bp_usd := []
  latency_proxy_ms := []
  venue_profile := none
  provenance_microstructure := none

/-- The first bar is sideways until two quiet bars follow it, and a liquidity stress
from then on. -/
theorem regime_label_looks_ahead :
    BarsAgree 0 (liquidation_snapshot []) (liquidation_snapshot [1, 1]) ∧
    (label_snapshot_regimes (liquidation_snapshot []))[0]? = some .sideways ∧
    (label_snapshot_regimes (liquidation_snapshot [1, 1]))[0]? = some .liquidity_stress := by
  refine ⟨⟨rfl, rfl, rfl, rfl⟩, ?_, ?_⟩
  · decide +kernel
  · decide +kernel

/-- The equivalence at that bar, whose label is not settled. -/
theorem regime_label_causal_iff_liquidation :
    ¬ LabelSettled (liquidation_snapshot []) 0 ∧
    ¬ ∀ other, BarsAgree 0 (liquidation_snapshot []) other →
      (label_snapshot_regimes (liquidation_snapshot []))[0]?
        = (label_snapshot_regimes other)[0]? := by
  have hsettled : ¬ LabelSettled (liquidation_snapshot []) 0 := by
    unfold LabelSettled
    decide +kernel
  refine ⟨hsettled, ?_⟩
  rw [(regime_label_causal_iff (liquidation_snapshot []) (by decide)).2]
  exact hsettled

end ProofAlpha.Backtest
