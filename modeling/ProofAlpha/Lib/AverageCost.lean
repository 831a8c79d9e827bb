/-
Average-cost accounting.

A trade is a signed quantity at a price. Trades on the side of the open position
are averaged into its price; trades against it leave the price alone until they
have used the position up, and what is left of such a trade opens a position of
its own. The price is then an average of opening trades (`Lot.exists_price_le`,
`Lot.exists_le_price`), and it is the net cost over the net quantity as long as every
trade against the position is made at its price (`Lot.cost_eq`).
-/
import Mathlib.Algebra.Order.Field.Basic
import Mathlib.Algebra.Order.AbsoluteValue.Basic
import Mathlib.Algebra.BigOperators.Group.List.Basic
import Mathlib.Data.List.Induction
import Mathlib.Tactic.FieldSimp
import Mathlib.Tactic.Linarith
import Mathlib.Tactic.LinearCombination
import Mathlib.Tactic.Ring

set_option autoImplicit false

namespace ProofAlpha.Lib

/-- A signed quantity at a price. -/
structure Trade (K : Type) where
  qty : K
  price : K
  deriving DecidableEq

/-- A net quantity and the average price at which it was opened. -/
structure Lot (K : Type) where
  qty : K
  price : K

section Accounting

variable {K : Type} [Field K] [LinearOrder K]

/-- No position. -/
def Lot.flat : Lot K := ⟨0, 0⟩

/-- A trade adds to the position, reduces it, or closes it and opens the rest. -/
def Lot.trade (lot : Lot K) (t : Trade K) : Lot K :=
  if 0 ≤ lot.qty * t.qty then
    ⟨lot.qty + t.qty, (lot.qty * lot.price + t.qty * t.price) / (lot.qty + t.qty)⟩
  else if |t.qty| < |lot.qty| then ⟨lot.qty + t.qty, lot.price⟩
  else ⟨lot.qty + t.qty, t.price⟩

/-- The position after a list of trades. -/
def Lot.after (trades : List (Trade K)) : Lot K := trades.foldl Lot.trade Lot.flat

/-- Every trade against the open position is made at its average price. -/
def CountersAtAverage (trades : List (Trade K)) : Prop :=
  ∀ before t rest, trades = before ++ t :: rest →
    (Lot.after before).qty * t.qty < 0 → t.price = (Lot.after before).price

theorem Lot.trade_qty (lot : Lot K) (t : Trade K) : (lot.trade t).qty = lot.qty + t.qty := by
  unfold Lot.trade
  split_ifs <;> rfl

/-- A trade that only reduces leaves the average price. -/
theorem Lot.trade_price_of_reduce {lot : Lot K} {t : Trade K} (hagainst : lot.qty * t.qty < 0)
    (hsize : |t.qty| < |lot.qty|) : (lot.trade t).price = lot.price := by
  rw [Lot.trade, if_neg (not_le.mpr hagainst), if_pos hsize]

theorem Lot.after_append (trades : List (Trade K)) (t : Trade K) :
    Lot.after (trades ++ [t]) = (Lot.after trades).trade t := by
  rw [Lot.after, List.foldl_append, ← Lot.after, List.foldl_cons, List.foldl_nil]

/-- The net quantity adds up the trades. -/
theorem Lot.after_qty (trades : List (Trade K)) :
    (Lot.after trades).qty = (trades.map Trade.qty).sum := by
  induction trades using List.reverseRecOn with
  | nil => rfl
  | append_singleton trades t ih =>
      rw [Lot.after_append, Lot.trade_qty, ih, List.map_append, List.sum_append, List.map_singleton,
        List.sum_singleton]

theorem CountersAtAverage.append_left {trades later : List (Trade K)}
    (h : CountersAtAverage (trades ++ later)) : CountersAtAverage trades := by
  intro before t rest hsplit
  exact h before t (rest ++ later) (by rw [hsplit, List.append_assoc, List.cons_append])

theorem countersAtAverage_nil : CountersAtAverage ([] : List (Trade K)) := by
  intro before t rest hsplit
  simp at hsplit

theorem CountersAtAverage.concat {trades : List (Trade K)} {t : Trade K}
    (h : CountersAtAverage trades)
    (ht : (Lot.after trades).qty * t.qty < 0 → t.price = (Lot.after trades).price) :
    CountersAtAverage (trades ++ [t]) := by
  intro before u rest hsplit
  rcases List.eq_nil_or_concat rest with rfl | ⟨rest, x, rfl⟩
  · -- the last trade itself
    obtain ⟨rfl, hlast⟩ := List.append_inj' hsplit rfl
    rw [List.singleton_inj] at hlast
    exact hlast ▸ ht
  · refine h before u rest ?_
    rw [List.concat_eq_append, ← List.cons_append, ← List.append_assoc] at hsplit
    exact (List.append_inj' hsplit rfl).1

variable [IsStrictOrderedRing K]

/-- Two quantities on one side do not cancel. -/
theorem add_ne_zero_of_mul_nonneg {a b : K} (h : 0 ≤ a * b) (hab : a ≠ 0 ∨ b ≠ 0) :
    a + b ≠ 0 := by
  intro hsum
  have hb : b = -a := by linear_combination hsum
  rw [hb] at h hab
  have ha : a = 0 := by nlinarith [mul_self_nonneg a]
  simp [ha] at hab

/-- The cost of a lot grows by what the trade costs, if a trade against it is
made at its price. -/
theorem Lot.trade_cost {lot : Lot K} {t : Trade K}
    (hcounter : lot.qty * t.qty < 0 → t.price = lot.price) :
    (lot.trade t).qty * (lot.trade t).price = lot.qty * lot.price + t.qty * t.price := by
  rw [Lot.trade_qty]
  unfold Lot.trade
  by_cases hside : 0 ≤ lot.qty * t.qty
  · rw [if_pos hside]
    by_cases hzero : lot.qty + t.qty = 0
    · -- the two are on one side, so both are zero
      have hboth : lot.qty = 0 ∧ t.qty = 0 := by
        by_contra hne
        exact add_ne_zero_of_mul_nonneg hside (by tauto) hzero
      simp [hboth.1, hboth.2]
    · exact mul_div_cancel₀ _ hzero
  · have hprice := hcounter (not_le.mp hside)
    rw [if_neg hside]
    -- reduced, or closed and opened again at the trade's price: the same price
    split_ifs
    · dsimp only
      rw [hprice]
      ring
    · dsimp only
      rw [hprice]
      ring

/-- Net cost is net quantity times average price, as long as trades against the
position are made at its price. -/
theorem Lot.cost_eq {trades : List (Trade K)} (h : CountersAtAverage trades) :
    (trades.map fun t => t.qty * t.price).sum
      = (Lot.after trades).qty * (Lot.after trades).price := by
  induction trades using List.reverseRecOn with
  | nil => simp [Lot.after, Lot.flat]
  | append_singleton trades t ih =>
      rw [Lot.after_append, Lot.trade_cost (h trades t [] rfl), List.map_append, List.sum_append,
        ih h.append_left, List.map_singleton, List.sum_singleton]

/-- An average of two prices lies between them. -/
theorem weighted_average_between {a b x y : K} (hside : 0 ≤ a * b) (ha : a ≠ 0) :
    min x y ≤ (a * x + b * y) / (a + b) ∧ (a * x + b * y) / (a + b) ≤ max x y := by
  -- the weight of the first price
  have hpos : 0 < a / (a + b) := by
    rw [← mul_div_mul_left a (a + b) ha]
    have := mul_self_pos.mpr ha
    exact div_pos this (by nlinarith)
  have hle : a / (a + b) ≤ 1 := by
    rw [← mul_div_mul_left a (a + b) ha]
    have := mul_self_pos.mpr ha
    exact (div_le_one (by nlinarith)).mpr (by nlinarith)
  have hne : a + b ≠ 0 := add_ne_zero_of_mul_nonneg hside (Or.inl ha)
  have havg : (a * x + b * y) / (a + b) = a / (a + b) * x + (1 - a / (a + b)) * y := by
    field_simp
    ring
  rw [havg]
  rcases le_total x y with hxy | hxy
  · rw [min_eq_left hxy, max_eq_right hxy]
    constructor <;> nlinarith
  · rw [min_eq_right hxy, max_eq_left hxy]
    constructor <;> nlinarith

/-- A trade smaller than the position leaves the position on its side. -/
theorem mul_add_pos_of_abs_lt {a b : K} (h : |b| < |a|) : 0 < a * (a + b) := by
  have hab : -(|a| * |b|) ≤ a * b := by
    rw [← abs_mul]
    exact neg_abs_le _
  have ha : |a| * |a| = a * a := abs_mul_abs_self a
  nlinarith [abs_nonneg b]

/-- What holds of the price of every trade on the side of the position, and of
every average of two such prices, holds of the price of the position. -/
theorem Lot.price_of_trades (P : K → Prop)
    (haverage : ∀ a b x y : K, 0 ≤ a * b → a ≠ 0 → P x → P y → P ((a * x + b * y) / (a + b)))
    {trades : List (Trade K)} (hopen : (Lot.after trades).qty ≠ 0)
    (hside : ∀ t ∈ trades, 0 < t.qty * (Lot.after trades).qty → P t.price) :
    P (Lot.after trades).price := by
  -- by the last trade; the position before it may have been on the other side
  induction trades using List.reverseRecOn with
  | nil => exact absurd rfl hopen
  | append_singleton trades t ih =>
      rw [Lot.after_append] at hopen hside ⊢
      rw [Lot.trade_qty] at hopen hside
      generalize Lot.after trades = lot at *
      -- the price before the trade, if the position stays on its side
      have hbefore : lot.qty ≠ 0 → 0 < lot.qty * (lot.qty + t.qty) → P lot.price := by
        intro hne hsame
        refine ih hne fun u hu hpos => hside u (List.mem_append_left _ hu) ?_
        have hsq : 0 < lot.qty * lot.qty := mul_self_pos.mpr hne
        have hprod : 0 < lot.qty * lot.qty * (u.qty * (lot.qty + t.qty)) := by
          calc 0 < (u.qty * lot.qty) * (lot.qty * (lot.qty + t.qty)) := mul_pos hpos hsame
            _ = lot.qty * lot.qty * (u.qty * (lot.qty + t.qty)) := by ring
        exact pos_of_mul_pos_right hprod hsq.le
      have hlast : 0 < t.qty * (lot.qty + t.qty) → P t.price :=
        hside t (List.mem_append_right _ (List.mem_singleton.mpr rfl))
      unfold Lot.trade
      by_cases hadd : 0 ≤ lot.qty * t.qty
      · rw [if_pos hadd]
        dsimp only
        by_cases hlot : lot.qty = 0
        · -- the trade opens the position
          have ht : t.qty ≠ 0 := by simpa [hlot] using hopen
          rw [hlot, zero_mul, zero_add, zero_add, mul_div_cancel_left₀ _ ht]
          exact hlast (by rw [hlot, zero_add]; exact mul_self_pos.mpr ht)
        · have hsq : 0 < lot.qty * lot.qty := mul_self_pos.mpr hlot
          have hold : P lot.price := hbefore hlot (by rw [mul_add]; linarith)
          by_cases ht : t.qty = 0
          · rw [ht, zero_mul, add_zero, add_zero, mul_div_cancel_left₀ _ hlot]
            exact hold
          · have htsq : 0 < t.qty * t.qty := mul_self_pos.mpr ht
            exact haverage _ _ _ _ hadd hlot hold
              (hlast (by rw [mul_add, mul_comm t.qty lot.qty]; linarith))
      · rw [if_neg hadd]
        by_cases hsize : |t.qty| < |lot.qty|
        · rw [if_pos hsize]
          have hlot : lot.qty ≠ 0 := by
            intro h
            rw [h, zero_mul] at hadd
            exact hadd le_rfl
          exact hbefore hlot (mul_add_pos_of_abs_lt hsize)
        · rw [if_neg hsize]
          -- equal sizes on opposite sides would close the position
          have hlarger : |lot.qty| < |t.qty| := by
            refine lt_of_le_of_ne (not_lt.mp hsize) fun h => ?_
            rcases abs_eq_abs.mp h with heq | hneg
            · exact hadd (by rw [heq]; exact mul_self_nonneg _)
            · exact hopen (by rw [hneg, neg_add_cancel])
          exact hlast (by rw [add_comm]; exact mul_add_pos_of_abs_lt hlarger)

/-- Some trade on the side of an open position was made at its price or below. -/
theorem Lot.exists_price_le {trades : List (Trade K)} (hopen : (Lot.after trades).qty ≠ 0) :
    ∃ t ∈ trades, 0 < t.qty * (Lot.after trades).qty ∧ t.price ≤ (Lot.after trades).price := by
  by_contra hnone
  refine lt_irrefl (Lot.after trades).price
    (Lot.price_of_trades (fun p => (Lot.after trades).price < p) ?_ hopen ?_)
  · intro a b x y hside ha hx hy
    exact (lt_min hx hy).trans_le (weighted_average_between hside ha).1
  · intro t ht hpos
    by_contra hle
    exact hnone ⟨t, ht, hpos, not_lt.mp hle⟩

/-- Some trade on the side of an open position was made at its price or above. -/
theorem Lot.exists_le_price {trades : List (Trade K)} (hopen : (Lot.after trades).qty ≠ 0) :
    ∃ t ∈ trades, 0 < t.qty * (Lot.after trades).qty ∧ (Lot.after trades).price ≤ t.price := by
  by_contra hnone
  refine lt_irrefl (Lot.after trades).price
    (Lot.price_of_trades (fun p => p < (Lot.after trades).price) ?_ hopen ?_)
  · intro a b x y hside ha hx hy
    exact (weighted_average_between hside ha).2.trans_lt (max_lt hx hy)
  · intro t ht hpos
    by_contra hle
    exact hnone ⟨t, ht, hpos, not_lt.mp hle⟩

end Accounting

end ProofAlpha.Lib
