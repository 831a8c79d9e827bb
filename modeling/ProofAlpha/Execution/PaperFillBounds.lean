/-
What the paper fill model fills, and at which price.

The walk fills the quantity or all there is, at the average price of the levels it
takes from (`walk_depth_eq`); both are rounded to twelve digits. The limit of an
intent is read on the post-only path and nowhere else, so on the other path it
holds exactly where the book happens to stay within it (`limit_holds_iff`).
-/
import ProofAlpha.Execution.PaperFill

set_option autoImplicit false

namespace ProofAlpha.Execution

open ProofAlpha.Lib
open ProofAlpha.Lib.PriceLevel (Nonneg cost depth taken units)

variable {K : Type} [Field K] [LinearOrder K] (texts : PyTexts K)

/-! ## The levels of a market fill -/

/-- No level has a negative quantity, or there is only one level. -/
def Walkable (levels : List (PriceLevel K)) : Prop := Nonneg levels ∨ ∃ level, levels = [level]

theorem normalize_depth_levels_nonneg (raw_levels : JsonValue K) :
    Nonneg (normalize_depth_levels texts raw_levels) := by
  intro level hlevel
  unfold normalize_depth_levels at hlevel
  split at hlevel
  · -- a level that is kept has passed the check for positive numbers
    obtain ⟨raw, -, hraw⟩ := List.mem_filterMap.mp hlevel
    unfold depth_level at hraw
    split at hraw
    · split at hraw
      · split_ifs at hraw with hpos
        cases hraw
        exact hpos.2.le
      · cases hraw
    · cases hraw
  · cases hlevel

theorem depth_levels_walkable (intent : PaperFillIntent K) (snapshot : PaperFillSnapshot K) :
    Walkable (depth_levels_for_market_fill texts intent snapshot) := by
  unfold depth_levels_for_market_fill
  dsimp only
  -- either side of the book: the level of the last trade, or the levels that are listed
  split_ifs
  · exact Or.inr ⟨_, rfl⟩
  · exact Or.inl (normalize_depth_levels_nonneg texts _)
  · exact Or.inr ⟨_, rfl⟩
  · exact Or.inl (normalize_depth_levels_nonneg texts _)

theorem Walkable.nonneg {levels : List (PriceLevel K)} (h : Walkable levels)
    (hdepth : 0 ≤ depth levels) : Nonneg levels := by
  rcases h with hnonneg | ⟨level, rfl⟩
  · exact hnonneg
  · intro other hother
    rw [List.mem_singleton.mp hother]
    simpa [depth] using hdepth

/-! ## The walk -/

variable [IsStrictOrderedRing K]

/-- The loop takes what the greedy allocation takes. -/
theorem foldl_walk_level {levels : List (PriceLevel K)} (h : Nonneg levels) {st : WalkState K}
    (hst : 0 ≤ st.remaining) :
    levels.foldl walk_level st
      = ⟨st.remaining - (units levels st.remaining).sum,
          st.filled + (units levels st.remaining).sum,
          st.notional + cost levels st.remaining⟩ := by
  -- what remains of the order goes into the next level, so for every state
  induction levels generalizing st with
  | nil => simp [units, cost, PriceLevel.weigh]
  | cons level rest ih =>
      have hlevel : 0 ≤ level.qty := h level (List.mem_cons_self ..)
      have hrest : Nonneg rest := fun l hl => h l (List.mem_cons_of_mem _ hl)
      rw [List.foldl_cons, cost, PriceLevel.weigh_cons, units, List.sum_cons, ← cost]
      by_cases hdone : st.remaining ≤ 0
      · -- nothing remains: the loop has left, and the allocation takes nothing more
        have hzero : st.remaining = 0 := le_antisymm hdone hst
        rw [walk_level, if_pos hdone, ih hrest hst, hzero, min_eq_left hlevel]
        simp
      · rw [walk_level, if_neg hdone, ih hrest (sub_nonneg.mpr (min_le_left _ _))]
        dsimp only
        rw [← add_assoc, ← add_assoc, sub_sub]

/-- The quantity that a walk fills before it is rounded. -/
def walked_qty (levels : List (PriceLevel K)) (order_qty : K) : K :=
  max 0 (min order_qty (depth levels))

variable [FloorRing K]

/-- The walk fills the quantity or all there is, at the average price. -/
theorem walk_depth_eq {levels : List (PriceLevel K)} (h : Walkable levels) (order_qty : K) :
    walk_depth levels order_qty
      = if walked_qty levels order_qty ≤ 0
        then ⟨0, (levels.head?.map PriceLevel.price).getD 0⟩
        else ⟨pyRound (walked_qty levels order_qty) 12,
          pyRound (cost levels order_qty / walked_qty levels order_qty) 12⟩ := by
  unfold walk_depth walked_qty
  by_cases hdepth : 0 ≤ depth levels
  · have hnonneg := h.nonneg hdepth
    rw [foldl_walk_level hnonneg (le_max_left _ _)]
    dsimp only
    rw [zero_add, zero_add, PriceLevel.sum_units hnonneg (le_max_left _ _)]
    have hqty : min (max 0 order_qty) (depth levels) = max 0 (min order_qty (depth levels)) := by
      rw [max_min_distrib_left, max_eq_right hdepth]
    rw [hqty]
    by_cases hnone : max 0 (min order_qty (depth levels)) ≤ 0
    · rw [if_pos hnone, if_pos hnone]
    · have hpos : 0 < order_qty := by
        by_contra hle
        exact hnone (max_le le_rfl ((min_le_left _ _).trans (not_lt.mp hle)))
      rw [if_neg hnone, if_neg hnone, max_eq_right hpos.le]
  · -- one level with a negative quantity
    obtain hnonneg | ⟨level, rfl⟩ := h
    · exact absurd (PriceLevel.depth_nonneg hnonneg) hdepth
    · have hlevel : level.qty < 0 := by simpa [depth] using hdepth
      have hnone : max 0 (min order_qty (depth [level])) ≤ 0 :=
        max_le le_rfl ((min_le_right _ _).trans (not_le.mp hdepth).le)
      rw [if_pos hnone, List.foldl_cons, List.foldl_nil, if_pos]
      unfold walk_level
      split_ifs
      · exact le_rfl
      · dsimp only
        rw [zero_add]
        exact (min_le_right _ _).trans hlevel.le

/-- The average price of a walk lies between rounded prices of levels it takes
from. -/
theorem walk_depth_price {levels : List (PriceLevel K)} (h : Walkable levels) {order_qty : K}
    (hpos : 0 < min order_qty (depth levels)) :
    (∃ best ∈ taken levels order_qty,
        pyRound best.price 12 ≤ (walk_depth levels order_qty).vwap_price)
      ∧ ∃ worst ∈ taken levels order_qty,
        (walk_depth levels order_qty).vwap_price ≤ pyRound worst.price 12 := by
  have hqty : 0 < order_qty := lt_of_lt_of_le hpos (min_le_left _ _)
  have hnonneg := h.nonneg (lt_of_lt_of_le hpos (min_le_right _ _)).le
  have hsum := PriceLevel.sum_units hnonneg hqty.le
  have hwalked : walked_qty levels order_qty = min order_qty (depth levels) :=
    max_eq_right hpos.le
  rw [walk_depth_eq h, hwalked, if_neg (not_le.mpr hpos)]
  dsimp only
  -- rounding keeps the order of the average and the two prices
  rw [← hsum] at hpos ⊢
  obtain ⟨best, hbest, hle⟩ := PriceLevel.exists_taken_le hnonneg hqty.le hpos
  obtain ⟨worst, hworst, hge⟩ := PriceLevel.exists_le_taken hnonneg hqty.le hpos
  exact ⟨⟨best, hbest, pyRound_mono hle 12⟩, worst, hworst, pyRound_mono hge 12⟩

/-! ## A book with one ask -/

/-- A book with one level on the ask side. -/
def one_ask (price qty : ℚ) : PaperFillSnapshot ℚ where
  ts := "2026-05-07T00:00:00Z"
  symbol := "BTCUSDT"
  bid := 99
  ask := 101
  visible_depth_qty := 1
  topn_depth_qty := 1
  last_trade_price := 100
  traded_qty_at_price := 0
  canceled_ahead_qty := 0
  depth_ahead_qty := 0
  funding_rate := 0
  bid_depth_levels := .list []
  ask_depth_levels := .list [.list [.float price, .float qty]]
  adverse_price_after_fill := none

/-- A limit buy that is not post-only. -/
def limit_buy (qty limit : ℚ) : PaperFillIntent ℚ where
  symbol := "BTCUSDT"
  side := "BUY"
  qty := qty
  expected_price := limit
  reduce_only := false
  limit_price := some limit
  order_type := "limit"
  post_only := false
  time_in_force := "GTC"

/-! ## Conservation -/

theorem walk_depth_qty {levels : List (PriceLevel K)} (h : Walkable levels) (order_qty : K) :
    (walk_depth levels order_qty).qty_filled = pyRound (walked_qty levels order_qty) 12 := by
  rw [walk_depth_eq h]
  split_ifs with hnone
  · have hzero : walked_qty levels order_qty = 0 := le_antisymm hnone (le_max_left _ _)
    rw [hzero, (decimal_zero 12).pyRound_eq]
  · rfl

/-- What is rounded away of a filled quantity is within half a unit of the last
digit, and so is what is rounded away of the rest. -/
theorem filled_add_canceled {qty filled : K} (hle : filled ≤ qty) :
    |pyRound filled 12 + pyRound (max 0 (qty - pyRound filled 12)) 12 - qty|
      ≤ 1 / 2 / 10 ^ 12 := by
  rcases le_total (pyRound filled 12) qty with hround | hround
  · rw [max_eq_right (sub_nonneg.mpr hround)]
    have hrest := abs_pyRound_sub_le (qty - pyRound filled 12) 12
    rwa [sub_sub_eq_add_sub, add_comm] at hrest
  · -- rounded up above what was submitted
    have hup := (abs_le.mp (abs_pyRound_sub_le filled 12)).2
    rw [max_eq_left (sub_nonpos.mpr hround), (decimal_zero 12).pyRound_eq, add_zero,
      abs_of_nonneg (sub_nonneg.mpr hround)]
    linarith

/-- An order that is not post-only fills what its walk fills. -/
theorem qty_filled_market {intent : PaperFillIntent K} (snapshot : PaperFillSnapshot K)
    (latency_ms maker_fee_rate taker_fee_rate : K) (hmarket : is_passive intent = false) :
    (simulate_fill_model_v2 texts intent snapshot latency_ms maker_fee_rate
        taker_fee_rate).qty_filled
      = pyRound (walked_qty (depth_levels_for_market_fill texts intent snapshot) intent.qty) 12 := by
  simp only [simulate_fill_model_v2, hmarket, Bool.false_eq_true, if_false, market_path]
  rw [walk_depth_qty (depth_levels_walkable texts intent snapshot), pyRound_pyRound]

/-- An order that is not post-only fills the quantity or all that the opposite side
holds; filled and canceled add up to submitted, and the price lies between prices
of levels taken, all up to the twelve digits. A negative quantity fills nothing. -/
theorem market_fill_conserves (intent : PaperFillIntent K) (snapshot : PaperFillSnapshot K)
    (latency_ms maker_fee_rate taker_fee_rate : K) (hmarket : is_passive intent = false) :
    let levels := depth_levels_for_market_fill texts intent snapshot
    let fill := simulate_fill_model_v2 texts intent snapshot latency_ms maker_fee_rate
      taker_fee_rate
    fill.qty_filled = pyRound (max 0 (min intent.qty (depth levels))) 12
    ∧ (0 ≤ intent.qty →
      |fill.qty_filled + fill.qty_canceled - fill.qty_submitted| ≤ 1 / 2 / 10 ^ 12)
    ∧ (0 < min intent.qty (depth levels) →
      (∃ best ∈ taken levels intent.qty, pyRound best.price 12 ≤ fill.live_vwap_price)
        ∧ ∃ worst ∈ taken levels intent.qty, fill.live_vwap_price ≤ pyRound worst.price 12) := by
  intro levels fill
  have hwalkable : Walkable levels := depth_levels_walkable texts intent snapshot
  have hwalk := walk_depth_qty hwalkable intent.qty
  have hfilled : fill.qty_filled = pyRound (walked_qty levels intent.qty) 12 :=
    qty_filled_market texts snapshot latency_ms maker_fee_rate taker_fee_rate hmarket
  have hcanceled : fill.qty_canceled
      = pyRound (max 0 (intent.qty - pyRound (walked_qty levels intent.qty) 12)) 12 := by
    simp only [fill, simulate_fill_model_v2, hmarket, Bool.false_eq_true, if_false, market_path]
    rw [hwalk]
  have hprice : fill.live_vwap_price = pyRound (walk_depth levels intent.qty).vwap_price 12 := by
    simp only [fill, simulate_fill_model_v2, hmarket, Bool.false_eq_true, if_false, market_path,
      levels]
  refine ⟨hfilled, ?_, ?_⟩
  · intro hqty
    rw [hfilled, hcanceled]
    exact filled_add_canceled (max_le hqty (min_le_left _ _))
  · intro hpos
    obtain ⟨⟨best, hbest, hle⟩, worst, hworst, hge⟩ := walk_depth_price hwalkable hpos
    rw [hprice]
    refine ⟨⟨best, hbest, ?_⟩, worst, hworst, ?_⟩
    · rw [← pyRound_pyRound]
      exact pyRound_mono hle 12
    · rw [← pyRound_pyRound worst.price]
      exact pyRound_mono hge 12

theorem market_fill_conserves_one_ask :
    |(simulate_fill_model_v2 plain_texts (limit_buy 2 102) (one_ask 101 1) 0 0 0).qty_filled
        + (simulate_fill_model_v2 plain_texts (limit_buy 2 102) (one_ask 101 1) 0 0 0).qty_canceled
        - (simulate_fill_model_v2 plain_texts (limit_buy 2 102) (one_ask 101 1) 0 0
          0).qty_submitted| ≤ 1 / 2 / 10 ^ 12 :=
  (market_fill_conserves plain_texts (limit_buy 2 102) (one_ask 101 1) 0 0 0 rfl).2.1
    (by decide +kernel)

/-- A negative quantity fills nothing, which is more than the quantity; a price with
thirteen digits is rounded below the only level. -/
theorem market_fill_rounds :
    (simulate_fill_model_v2 plain_texts (limit_buy (-1) 102) (one_ask 101 1) 0 0 0).qty_filled = 0
      ∧ (simulate_fill_model_v2 plain_texts (limit_buy (-1) 102) (one_ask 101 1) 0 0
          0).qty_canceled = 0
      ∧ (simulate_fill_model_v2 plain_texts (limit_buy 1 102)
          (one_ask (1 + 4 / 10 ^ 13) 1) 0 0 0).qty_filled = 1
      ∧ (simulate_fill_model_v2 plain_texts (limit_buy 1 102)
          (one_ask (1 + 4 / 10 ^ 13) 1) 0 0 0).live_vwap_price = 1 := by
  decide +kernel

/-! ## The limit -/

/-- A price that a limit of the side allows. -/
def WithinLimit (side : String) (limit price : K) : Prop :=
  (pyUpper side = "BUY" → price ≤ limit) ∧ (pyUpper side = "SELL" → limit ≤ price)

/-- What an intent can be filled from: the queue, or the opposite side of the book. -/
def available_qty (intent : PaperFillIntent K) (snapshot : PaperFillSnapshot K) : K :=
  if is_passive intent then fillable_after_queue snapshot
  else depth (depth_levels_for_market_fill texts intent snapshot)

/-- What the first units of the opposite side cost on average, to twelve digits. -/
def opposite_price (intent : PaperFillIntent K) (snapshot : PaperFillSnapshot K) : K :=
  let levels := depth_levels_for_market_fill texts intent snapshot
  pyRound (cost levels intent.qty / min intent.qty (depth levels)) 12

/-- Nothing is there to fill, or a post-only limit order whose limit is not rounded
for the worse, or a book whose first units stay within the limit. -/
def LimitHolds (intent : PaperFillIntent K) (snapshot : PaperFillSnapshot K) (limit : K) : Prop :=
  min intent.qty (available_qty texts intent snapshot) ≤ 1 / 2 / 10 ^ 12
    ∨ (is_passive intent = true ∧ WithinLimit intent.side limit (pyRound limit 12))
    ∨ (is_passive intent = false
      ∧ WithinLimit intent.side limit (opposite_price texts intent snapshot))

/-- A fill is reported if more than half a unit of the last digit is there. -/
theorem qty_filled_pos_iff (intent : PaperFillIntent K) (snapshot : PaperFillSnapshot K)
    (latency_ms maker_fee_rate taker_fee_rate : K) :
    0 < (simulate_fill_model_v2 texts intent snapshot latency_ms maker_fee_rate
        taker_fee_rate).qty_filled
      ↔ 1 / 2 / 10 ^ 12 < min intent.qty (available_qty texts intent snapshot) := by
  cases hpassive : is_passive intent with
  | true =>
      simp only [simulate_fill_model_v2, hpassive, if_true, passive_path, approximate_queue_fill,
        available_qty]
      rw [pyRound_pyRound, pyRound_pos_iff]
  | false =>
      have hunit : (0 : K) < 1 / 2 / 10 ^ 12 := by positivity
      rw [qty_filled_market texts snapshot _ _ _ hpassive, available_qty, hpassive,
        if_neg Bool.false_ne_true, pyRound_pos_iff, walked_qty, lt_max_iff,
        or_iff_right hunit.not_gt]

omit [IsStrictOrderedRing K] in
/-- The price of a post-only limit order is its limit. -/
theorem live_vwap_price_passive {intent : PaperFillIntent K} (snapshot : PaperFillSnapshot K)
    (latency_ms maker_fee_rate taker_fee_rate : K) {limit : K}
    (hlimit : intent.limit_price = some limit) (hpassive : is_passive intent = true) :
    (simulate_fill_model_v2 texts intent snapshot latency_ms maker_fee_rate
      taker_fee_rate).live_vwap_price = pyRound limit 12 := by
  simp only [simulate_fill_model_v2, hpassive, if_true, passive_path, hlimit, Option.getD_some]

/-- The price of every other order is that of the book. -/
theorem live_vwap_price_market {intent : PaperFillIntent K} {snapshot : PaperFillSnapshot K}
    (latency_ms maker_fee_rate taker_fee_rate : K) (hmarket : is_passive intent = false)
    (hpos : 0 < min intent.qty (depth (depth_levels_for_market_fill texts intent snapshot))) :
    (simulate_fill_model_v2 texts intent snapshot latency_ms maker_fee_rate
      taker_fee_rate).live_vwap_price = opposite_price texts intent snapshot := by
  simp only [simulate_fill_model_v2, hmarket, Bool.false_eq_true, if_false, market_path,
    opposite_price]
  rw [walk_depth_eq (depth_levels_walkable texts intent snapshot), walked_qty,
    max_eq_right hpos.le, if_neg (not_le.mpr hpos)]
  exact pyRound_pyRound _ _

/-- A reported fill stays within the limit of its intent exactly where nothing can be
filled, or the limit of a post-only order is not rounded for the worse, or the book
stays within it. -/
theorem limit_holds_iff (intent : PaperFillIntent K) (snapshot : PaperFillSnapshot K)
    (latency_ms maker_fee_rate taker_fee_rate : K) {limit : K}
    (hlimit : intent.limit_price = some limit) :
    let fill := simulate_fill_model_v2 texts intent snapshot latency_ms maker_fee_rate
      taker_fee_rate
    (0 < fill.qty_filled → WithinLimit intent.side limit fill.live_vwap_price)
      ↔ LimitHolds texts intent snapshot limit := by
  intro fill
  rw [qty_filled_pos_iff, LimitHolds]
  by_cases hnone : min intent.qty (available_qty texts intent snapshot) ≤ 1 / 2 / 10 ^ 12
  · exact ⟨fun _ => Or.inl hnone, fun _ hpos => absurd hpos (not_lt.mpr hnone)⟩
  · have hpos := not_le.mp hnone
    rw [imp_iff_right hpos, or_iff_right hnone]
    cases hpassive : is_passive intent with
    | true =>
        have hprice : fill.live_vwap_price = pyRound limit 12 :=
          live_vwap_price_passive texts snapshot _ _ _ hlimit hpassive
        rw [hprice]
        simp
    | false =>
        have hunit : (0 : K) < 1 / 2 / 10 ^ 12 := by positivity
        rw [available_qty, hpassive, if_neg Bool.false_ne_true] at hpos
        have hprice : fill.live_vwap_price = opposite_price texts intent snapshot :=
          live_vwap_price_market texts _ _ _ hpassive (hunit.trans hpos)
        rw [hprice]
        simp

theorem limit_holds_at_ask :
    0 < (simulate_fill_model_v2 plain_texts (limit_buy 1 102) (one_ask 101 1) 0 0 0).qty_filled
      ∧ WithinLimit "BUY" 102
        (simulate_fill_model_v2 plain_texts (limit_buy 1 102) (one_ask 101 1) 0 0 0).live_vwap_price := by
  have hfilled : 0 < (simulate_fill_model_v2 plain_texts (limit_buy 1 102) (one_ask 101 1) 0 0
      0).qty_filled := by
    decide +kernel
  refine ⟨hfilled, (limit_holds_iff plain_texts (limit_buy 1 102) (one_ask 101 1) 0 0 0 rfl).mpr
    (Or.inr (Or.inr ⟨rfl, fun _ => by decide +kernel, fun h => ?_⟩)) hfilled⟩
  exact absurd h (by decide)

/-- A limit buy at 100 that is not post-only is filled at 101. -/
theorem limit_buy_filled_above_limit :
    (simulate_fill_model_v2 plain_texts (limit_buy 1 100) (one_ask 101 1) 0 0 0).qty_filled = 1
      ∧ (simulate_fill_model_v2 plain_texts (limit_buy 1 100) (one_ask 101 1) 0 0
        0).live_vwap_price = 101 := by
  decide +kernel

end ProofAlpha.Execution
