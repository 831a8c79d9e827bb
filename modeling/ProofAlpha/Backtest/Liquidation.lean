/-
Liquidation schedules: the helpers of `backtest/simulator.py` that both
simulators share.

A maintenance-margin or liquidation-fee schedule is a list of tiers. A tier's
optional `max_leverage` and `max_notional` keys are `none` when absent, where the
source reads them as `inf`; its remaining keys are the tier's `rule`. `None` and
the empty schedule are the same list: the source tests both with `not schedule`.
-/
import Mathlib.Data.List.GetD
import ProofAlpha.Backtest.MarketImpact

set_option autoImplicit false

namespace ProofAlpha.Backtest

open ProofAlpha.Lib

variable {K V : Type} [Field K] [LinearOrder K]

/-! ## Tiers -/

/-- One schedule entry: its two limits and what it prescribes. -/
structure Tier (K V : Type) where
  max_leverage : Option K
  max_notional : Option K
  rule : V

/-- The keys of a `maintenance_margin_schedule` item besides its limits. An
absent `liquidation_step_schedule` is the empty one: the source takes the
override only from a non-empty list. -/
structure MarginRule (K : Type) where
  maintenance_margin_ratio : K
  liquidation_step_schedule : List K
  partial_liquidation_ratio : Option K

/-- `a <= b` where `none` is `float("inf")`. -/
def limit_le : Option K → Option K → Bool
  | _, none => true
  | none, some _ => false
  | some a, some b => decide (a ≤ b)

/-- The sort key `(max_leverage, max_notional)` compared lexicographically. -/
def tier_key_le (a b : Tier K V) : Prop :=
  limit_le a.max_leverage b.max_leverage
    ∧ (limit_le b.max_leverage a.max_leverage → limit_le a.max_notional b.max_notional)

instance (a b : Tier K V) : Decidable (tier_key_le a b) :=
  inferInstanceAs (Decidable (_ ∧ (_ → _)))

/-- The schedule in key order; insertion sort is stable, as `sorted` is. The
batch simulator's `_sort_tier_schedule` is the same expression. -/
def sort_tier_schedule (schedule : List (Tier K V)) : List (Tier K V) :=
  schedule.insertionSort tier_key_le

/-- The position fits under both limits of the tier. -/
def tier_applies (position_leverage position_notional : K) (tier : Tier K V) : Bool :=
  limit_le (some position_leverage) tier.max_leverage
    && limit_le (some position_notional) tier.max_notional

/-- `_resolve_tier_entry`: the first tier in key order the position fits under,
else the last one. -/
def resolve_tier_entry (position_leverage position_notional : K) (schedule : List (Tier K V)) :
    Option (Tier K V) :=
  let tiers := sort_tier_schedule schedule
  (tiers.find? (tier_applies position_leverage position_notional)).or tiers.getLast?

/-- `_resolve_tier_value`, the value key given as a projection. -/
def resolve_tier_value (position_leverage position_notional default_value : K)
    (schedule : List (Tier K V)) (value : V → K) : K :=
  match resolve_tier_entry position_leverage position_notional schedule with
  | none => default_value
  | some tier => value tier.rule

def resolve_maintenance_margin_ratio (position_leverage position_notional default_value : K)
    (schedule : List (Tier K (MarginRule K))) : K :=
  resolve_tier_value position_leverage position_notional default_value schedule
    MarginRule.maintenance_margin_ratio

/-! ## The liquidation settings -/

/-- The liquidation options both simulators run with. In `simulate_strategy`
they are what `_resolve_liquidation_defaults` returns. -/
structure LiquidationSettings (K : Type) where
  maintenance_margin_ratio : K
  liquidation_fee_bps : K
  liquidation_mark_price_weight : K
  liquidation_mark_premium_bps : K
  partial_liquidation_ratio : K
  liquidation_cooldown_bars : ℤ
  liquidation_step_schedule : Option (List K)
  maintenance_margin_schedule : List (Tier K (MarginRule K))
  liquidation_fee_schedule : List (Tier K K)

/-! ## Prices and step behaviour -/

/-- `_price_delta`. -/
def price_delta (current_price entry_price : K) : PositionSide → K
  | .short => entry_price - current_price
  | .long => current_price - entry_price

/-- `_liquidation_price`. -/
def liquidation_price (entry_price : K) (position_side : PositionSide)
    (position_leverage maintenance_margin_ratio : K) : K :=
  match position_side with
  | .short => entry_price * (1 + 1 / position_leverage - maintenance_margin_ratio)
  | .long => entry_price * (1 - 1 / position_leverage + maintenance_margin_ratio)

/-- `_liquidation_trigger_price`; the batch simulator's
`_batch_liquidation_trigger_price` is the same expression. -/
def liquidation_trigger_price (high low close : K) (position_side : PositionSide)
    (liquidation_mark_price_weight liquidation_mark_premium_bps : K) : K :=
  match position_side with
  | .short =>
      (high * (1 - liquidation_mark_price_weight) + close * liquidation_mark_price_weight)
        * (1 + liquidation_mark_premium_bps / 10000)
  | .long =>
      (low * (1 - liquidation_mark_price_weight) + close * liquidation_mark_price_weight)
        * (1 - liquidation_mark_premium_bps / 10000)

/-- The trigger price has crossed the liquidation price. -/
def liquidation_triggered (trigger liquidation : K) : PositionSide → Bool
  | .short => decide (liquidation ≤ trigger)
  | .long => decide (trigger ≤ liquidation)

/-- `_liquidation_ratio_for_event`. -/
def liquidation_ratio_for_event (liquidation_step_schedule : Option (List K))
    (partial_liquidation_ratio : K) (liquidation_step_index : ℕ) : K :=
  match liquidation_step_schedule with
  | some (step :: steps) =>
      (step :: steps).getD (min liquidation_step_index steps.length) 0
  | _ => partial_liquidation_ratio

/-- The part of `_resolve_liquidation_step_behavior` that looks at the tier the
position falls in: its own schedule, else its own ratio, else the defaults. -/
def tier_step_behavior (position_leverage position_notional : K)
    (default_partial_liquidation_ratio : K) (default_liquidation_step_schedule : Option (List K))
    (maintenance_margin_schedule : List (Tier K (MarginRule K))) : Option (List K) × K :=
  match resolve_tier_entry position_leverage position_notional maintenance_margin_schedule with
  | none => (default_liquidation_step_schedule, default_partial_liquidation_ratio)
  | some tier =>
      if !tier.rule.liquidation_step_schedule.isEmpty then
        (some tier.rule.liquidation_step_schedule, default_partial_liquidation_ratio)
      else
        match tier.rule.partial_liquidation_ratio with
        | some tier_ratio => (default_liquidation_step_schedule, tier_ratio)
        | none => (default_liquidation_step_schedule, default_partial_liquidation_ratio)

/-- `_resolve_liquidation_step_behavior`. Its `liquidation_style` argument is not
read by the source. -/
def resolve_liquidation_step_behavior (position_leverage position_notional : K)
    (profile_forces_full_liquidation explicit_partial_liquidation_ratio
      explicit_liquidation_step_schedule : Bool)
    (default_partial_liquidation_ratio : K) (default_liquidation_step_schedule : Option (List K))
    (maintenance_margin_schedule : List (Tier K (MarginRule K))) : Option (List K) × K :=
  if profile_forces_full_liquidation then (none, 1)
  else if explicit_liquidation_step_schedule || explicit_partial_liquidation_ratio then
    (default_liquidation_step_schedule, default_partial_liquidation_ratio)
  else
    tier_step_behavior position_leverage position_notional default_partial_liquidation_ratio
      default_liquidation_step_schedule maintenance_margin_schedule

/-! ## What a tier can change -/

/-- The tier prescribes no schedule and no ratio other than the default one. -/
def Tier.IsNeutral (tier : Tier K (MarginRule K)) (default_partial_liquidation_ratio : K) : Prop :=
  tier.rule.liquidation_step_schedule = []
    ∧ tier.rule.partial_liquidation_ratio.getD default_partial_liquidation_ratio
      = default_partial_liquidation_ratio

/-- The tier the position falls in, if any, prescribes nothing of its own. -/
def TierNeutral (position_leverage position_notional default_partial_liquidation_ratio : K)
    (maintenance_margin_schedule : List (Tier K (MarginRule K))) : Prop :=
  ∀ tier, resolve_tier_entry position_leverage position_notional maintenance_margin_schedule
    = some tier → tier.IsNeutral default_partial_liquidation_ratio

omit [Field K] in
/-- A neutral tier leaves the defaults. -/
theorem tier_step_behavior_neutral {position_leverage position_notional ratio : K}
    {maintenance_margin_schedule : List (Tier K (MarginRule K))} (schedule : Option (List K))
    (h : TierNeutral position_leverage position_notional ratio maintenance_margin_schedule) :
    tier_step_behavior position_leverage position_notional ratio schedule
      maintenance_margin_schedule = (schedule, ratio) := by
  unfold tier_step_behavior
  cases hentry : resolve_tier_entry position_leverage position_notional
      maintenance_margin_schedule with
  | none => rfl
  | some tier =>
      obtain ⟨hsteps, hratio⟩ := h tier hentry
      dsimp only
      rw [hsteps]
      cases hown : tier.rule.partial_liquidation_ratio with
      | none => rfl
      | some tier_ratio =>
          rw [hown, Option.getD_some] at hratio
          rw [hratio]
          rfl

/-- Where a forced full liquidation is also what the defaults say, the behaviour
is the defaults unless the tier is looked at. -/
theorem resolve_liquidation_step_behavior_eq (position_leverage position_notional ratio : K)
    (forces_full explicit_ratio explicit_schedule : Bool) (schedule : Option (List K))
    (maintenance_margin_schedule : List (Tier K (MarginRule K)))
    (hfull : forces_full = true → schedule = none ∧ ratio = 1) :
    resolve_liquidation_step_behavior position_leverage position_notional forces_full
        explicit_ratio explicit_schedule ratio schedule maintenance_margin_schedule
      = if forces_full || explicit_schedule || explicit_ratio then (schedule, ratio)
        else tier_step_behavior position_leverage position_notional ratio schedule
          maintenance_margin_schedule := by
  unfold resolve_liquidation_step_behavior
  cases forces_full with
  | true =>
      obtain ⟨hschedule, hratio⟩ := hfull rfl
      rw [hschedule, hratio]
      rfl
  | false => rfl

omit [LinearOrder K] in
/-- An absent or empty schedule leaves the ratio. -/
theorem liquidation_ratio_for_event_empty {schedule : Option (List K)}
    (h : schedule.getD [] = []) (ratio : K) (step_index : ℕ) :
    liquidation_ratio_for_event schedule ratio step_index = ratio := by
  cases schedule with
  | none => rfl
  | some steps =>
      rw [Option.getD_some] at h
      rw [h]
      rfl

/-! ## Checked settings -/

/-- A step ratio the checks let through. -/
def IsStepRatio (value : K) : Prop := 0 < value ∧ value ≤ 1

instance (value : K) : Decidable (IsStepRatio value) := inferInstanceAs (Decidable (_ ∧ _))

/-- What the argument checks of `simulate_strategy` establish of the settings. -/
structure LiquidationSettings.Valid (settings : LiquidationSettings K) : Prop where
  margin : 0 ≤ settings.maintenance_margin_ratio ∧ settings.maintenance_margin_ratio < 1
  ratio : IsStepRatio settings.partial_liquidation_ratio
  steps : ∀ value ∈ settings.liquidation_step_schedule.getD [], IsStepRatio value
  tier_margin : ∀ tier ∈ settings.maintenance_margin_schedule,
    0 ≤ tier.rule.maintenance_margin_ratio ∧ tier.rule.maintenance_margin_ratio < 1
  tier_steps : ∀ tier ∈ settings.maintenance_margin_schedule,
    ∀ value ∈ tier.rule.liquidation_step_schedule, IsStepRatio value
  tier_ratio : ∀ tier ∈ settings.maintenance_margin_schedule,
    ∀ ratio, tier.rule.partial_liquidation_ratio = some ratio → IsStepRatio ratio

omit [Field K] in
/-- The tier looked up is one of the schedule. -/
theorem resolve_tier_entry_mem {position_leverage position_notional : K}
    {schedule : List (Tier K V)} {tier : Tier K V}
    (h : resolve_tier_entry position_leverage position_notional schedule = some tier) :
    tier ∈ schedule := by
  have hsorted : tier ∈ sort_tier_schedule schedule := by
    unfold resolve_tier_entry at h
    rcases Option.or_eq_some_iff.mp h with hfind | ⟨-, hlast⟩
    · exact List.mem_of_find?_eq_some hfind
    · exact List.mem_of_getLast? hlast
  exact (List.mem_insertionSort tier_key_le).mp hsorted

/-- The resolved maintenance margin is a fraction. -/
theorem LiquidationSettings.Valid.resolve_margin {settings : LiquidationSettings K}
    (h : settings.Valid) (position_leverage position_notional : K) :
    0 ≤ resolve_maintenance_margin_ratio position_leverage position_notional
        settings.maintenance_margin_ratio settings.maintenance_margin_schedule
      ∧ resolve_maintenance_margin_ratio position_leverage position_notional
        settings.maintenance_margin_ratio settings.maintenance_margin_schedule < 1 := by
  unfold resolve_maintenance_margin_ratio resolve_tier_value
  cases hentry : resolve_tier_entry position_leverage position_notional
      settings.maintenance_margin_schedule with
  | none => exact h.margin
  | some tier => exact h.tier_margin tier (resolve_tier_entry_mem hentry)

/-- A step lookup in a schedule of step ratios gives one. -/
theorem liquidation_ratio_for_event_isStepRatio {schedule : Option (List K)} {ratio : K}
    (hsteps : ∀ value ∈ schedule.getD [], IsStepRatio value) (hratio : IsStepRatio ratio)
    (step_index : ℕ) :
    IsStepRatio (liquidation_ratio_for_event schedule ratio step_index) := by
  unfold liquidation_ratio_for_event
  split
  · rename_i step steps
    have hlt : min step_index steps.length < (step :: steps).length := by
      rw [List.length_cons]
      omega
    rw [List.getD_eq_getElem _ _ hlt]
    exact hsteps _ (List.getElem_mem hlt)
  · exact hratio

/-- Checked settings only ever liquidate a step ratio of the position. -/
theorem LiquidationSettings.Valid.step_ratio {settings : LiquidationSettings K}
    (h : settings.Valid) (position_leverage position_notional : K)
    (forces_full explicit_ratio explicit_schedule : Bool) (step_index : ℕ) [IsStrictOrderedRing K] :
    IsStepRatio
      (let behavior := resolve_liquidation_step_behavior position_leverage position_notional
        forces_full explicit_ratio explicit_schedule settings.partial_liquidation_ratio
        settings.liquidation_step_schedule settings.maintenance_margin_schedule
      liquidation_ratio_for_event behavior.1 behavior.2 step_index) := by
  unfold resolve_liquidation_step_behavior
  dsimp only
  split
  · exact liquidation_ratio_for_event_isStepRatio (by simp) ⟨zero_lt_one, le_rfl⟩ _
  · split
    · exact liquidation_ratio_for_event_isStepRatio h.steps h.ratio _
    · unfold tier_step_behavior
      cases hentry : resolve_tier_entry position_leverage position_notional
          settings.maintenance_margin_schedule with
      | none => exact liquidation_ratio_for_event_isStepRatio h.steps h.ratio _
      | some tier =>
          have hmem := resolve_tier_entry_mem hentry
          dsimp only
          split
          · exact liquidation_ratio_for_event_isStepRatio (h.tier_steps tier hmem) h.ratio _
          · cases hown : tier.rule.partial_liquidation_ratio with
            | none => exact liquidation_ratio_for_event_isStepRatio h.steps h.ratio _
            | some tier_ratio =>
                exact liquidation_ratio_for_event_isStepRatio h.steps
                  (h.tier_ratio tier hmem tier_ratio hown) _

/-- With leverage of at least one and a margin below one, the liquidation price
of a position has the sign of its entry price. -/
theorem liquidation_price_nonneg [IsStrictOrderedRing K] {entry_price position_leverage margin : K}
    (side : PositionSide) (hentry : 0 ≤ entry_price) (hleverage : 1 ≤ position_leverage)
    (hmargin : 0 ≤ margin ∧ margin < 1) :
    0 ≤ liquidation_price entry_price side position_leverage margin := by
  have hinv0 : 0 ≤ 1 / position_leverage :=
    div_nonneg zero_le_one (le_trans zero_le_one hleverage)
  have hinv1 : 1 / position_leverage ≤ 1 :=
    (div_le_one (lt_of_lt_of_le zero_lt_one hleverage)).mpr hleverage
  cases side with
  | long =>
      refine mul_nonneg hentry ?_
      linarith [hmargin.1]
  | short =>
      refine mul_nonneg hentry ?_
      linarith [hmargin.2]

end ProofAlpha.Backtest
