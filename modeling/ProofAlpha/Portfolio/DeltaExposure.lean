/-
What a delta order plan does to the exposures.

An action moves its symbol to the target, up to the rounding of the difference to 8
decimals (`current_add_delta`). An action is reduce-only when its difference is
negative, which means a smaller exposure only for targets that are not negative; a
plan knows no others (`validate_symbol_target`).
-/
import Mathlib.Algebra.Order.BigOperators.Group.List
import ProofAlpha.Portfolio.DeltaOrderPlan

set_option autoImplicit false

namespace ProofAlpha.Portfolio

open ProofAlpha.Lib
open ProofAlpha.Strategy

section Exposure

variable {K T : Type} [Field K] [LinearOrder K] [FloorRing K]

/-! ## One action for a symbol -/

theorem sorted_set_nodup (texts : List String) : (sorted_set texts).Nodup :=
  (List.perm_insertionSort (· ≤ ·) texts.dedup).symm.nodup (List.nodup_dedup texts)

/-- The symbols of the actions come in the order of the loop. -/
theorem delta_symbols_sublist (current target_by_symbol : Dict String K)
    (targets : List (SymbolTarget K)) (symbols : List String) :
    ((symbols.filterMap (delta_action current target_by_symbol targets)).map
      DeltaAction.symbol).Sublist symbols := by
  induction symbols with
  | nil => exact List.Sublist.slnil
  | cons symbol rest ih =>
      rw [List.filterMap_cons]
      cases haction : delta_action current target_by_symbol targets symbol with
      | none => exact ih.cons symbol
      | some action =>
          rw [List.map_cons, delta_action_symbol haction]
          exact ih.cons_cons symbol

theorem delta_symbols_nodup (current : Dict String K) (targets : List (SymbolTarget K)) :
    ((delta_actions current targets).map DeltaAction.symbol).Nodup :=
  (delta_symbols_sublist current _ targets _).nodup (sorted_set_nodup _)

omit [Field K] [LinearOrder K] [FloorRing K] in
/-- Every action is in exactly one of the four groups. -/
theorem groups_perm (actions : List (DeltaAction K)) :
    (actions.filter (fun action => action.action = .opening)
        ++ actions.filter (fun action => action.action = .increase)
        ++ actions.filter (fun action => action.action = .reduction)
        ++ actions.filter (fun action => action.action = .closing)).Perm actions := by
  induction actions with
  | nil => exact List.Perm.nil
  | cons action rest ih =>
      simp only [List.filter_cons, decide_eq_true_eq]
      cases action.action with
      | opening =>
          simpa using ih
      | increase =>
          simp only [reduceCtorEq, if_false, if_true, List.append_assoc, List.cons_append] at ih ⊢
          exact List.perm_middle.trans (ih.cons action)
      | reduction =>
          simp only [reduceCtorEq, if_false, if_true, List.append_assoc, List.cons_append] at ih ⊢
          rw [← List.append_assoc] at ih ⊢
          exact List.perm_middle.trans (ih.cons action)
      | closing =>
          simp only [reduceCtorEq, if_false, if_true, List.append_assoc] at ih ⊢
          rw [← List.append_assoc, ← List.append_assoc] at ih ⊢
          exact List.perm_middle.trans (ih.cons action)

theorem actions_perm (env : ArtifactEnv K T) (plan_id : String) (current : Dict String K)
    (targets : List (SymbolTarget K)) (costs : DeltaCosts K) :
    (build_delta_order_plan env plan_id current targets costs).actions.Perm
      (delta_actions current targets) :=
  groups_perm _

variable [IsStrictOrderedRing K]

/-! ## The exposure after the actions -/

/-- The exposure of a symbol once the differences of some actions are applied. -/
def exposure_after (current : Dict String K) (actions : List (DeltaAction K)) (symbol : String) :
    K :=
  exposure current symbol
    + ((actions.filter fun action => action.symbol = symbol).map DeltaAction.delta_notional).sum

/-- What an action says of its symbol. -/
theorem action_delta {current : Dict String K} {targets : List (SymbolTarget K)}
    {action : DeltaAction K} (h : action ∈ delta_actions current targets) :
    action.delta_notional
        = pyRound (exposure (target_notional_by_symbol targets) action.symbol
            - exposure current action.symbol) 8
      ∧ action.reduce_only = decide (action.delta_notional < 0) := by
  have haction := mem_delta_actions_iff.mp h
  unfold delta_action at haction
  dsimp only at haction
  split at haction
  · cases haction
  · rw [← Option.some.inj haction]
    exact ⟨rfl, rfl⟩

/-- A difference that is not ordered is rounded to zero. -/
theorem round_delta_of_none {current target_by_symbol : Dict String K}
    {targets : List (SymbolTarget K)} {symbol : String}
    (h : delta_action current target_by_symbol targets symbol = none) :
    pyRound (exposure target_by_symbol symbol - exposure current symbol) 8 = 0 := by
  unfold delta_action at h
  dsimp only at h
  split at h
  · rename_i hsmall
    -- a rounded difference that is not zero is at least a unit of the eighth decimal
    by_contra hne
    have hunit := (decimal_pyRound (exposure target_by_symbol symbol - exposure current symbol)
      8).unit_le_abs hne
    have htiny : (1 : K) / 10 ^ 9 ≤ 1 / 10 ^ 8 := by norm_num
    linarith
  · cases h

/-- The actions on a symbol add up to its rounded difference. -/
theorem sum_deltas (current : Dict String K) (targets : List (SymbolTarget K)) (symbol : String) :
    (((delta_actions current targets).filter fun action => action.symbol = symbol).map
        DeltaAction.delta_notional).sum
      = pyRound (exposure (target_notional_by_symbol targets) symbol - exposure current symbol)
          8 := by
  cases haction : delta_action current (target_notional_by_symbol targets) targets symbol with
  | none =>
      have hnil : (delta_actions current targets).filter
          (fun action => action.symbol = symbol) = [] := by
        rw [List.filter_eq_nil_iff]
        intro action hmem hsymbol
        rw [decide_eq_true_iff] at hsymbol
        rw [mem_delta_actions_iff, hsymbol, haction] at hmem
        cases hmem
      rw [hnil, round_delta_of_none haction]
      rfl
  | some action =>
      have hsymbol := delta_action_symbol haction
      -- there is one action on the symbol, this one
      have hsingle : (delta_actions current targets).filter
          (fun action => action.symbol = symbol) = [action] := by
        rw [← List.perm_singleton]
        refine (List.perm_ext_iff_of_nodup
          ((delta_symbols_nodup current targets).of_map.filter _) (List.nodup_singleton _)).mpr ?_
        intro other
        rw [List.mem_filter, decide_eq_true_iff, List.mem_singleton, mem_delta_actions_iff]
        constructor
        · rintro ⟨hother, hsame⟩
          rw [hsame, haction] at hother
          exact (Option.some.inj hother).symm
        · rintro rfl
          exact ⟨by rw [hsymbol]; exact haction, hsymbol⟩
      have hmem : action ∈ delta_actions current targets := by
        rw [mem_delta_actions_iff, hsymbol]
        exact haction
      rw [hsingle, List.map_singleton, List.sum_singleton, (action_delta hmem).1, hsymbol]

/-- The actions of a plan move every symbol to its target, up to the rounding of the
difference. -/
theorem exposure_after_plan (env : ArtifactEnv K T) (plan_id : String) (current : Dict String K)
    (targets : List (SymbolTarget K)) (costs : DeltaCosts K) (symbol : String) :
    exposure_after current (build_delta_order_plan env plan_id current targets costs).actions symbol
      = exposure current symbol
        + pyRound (exposure (target_notional_by_symbol targets) symbol - exposure current symbol)
            8 := by
  rw [exposure_after, ← sum_deltas]
  congr 1
  exact (((actions_perm env plan_id current targets costs).filter _).map _).sum_eq

/-- The turnover is the sum of the ordered amounts. -/
theorem estimated_turnover_eq (env : ArtifactEnv K T) (plan_id : String)
    (current : Dict String K) (targets : List (SymbolTarget K)) (costs : DeltaCosts K) :
    (build_delta_order_plan env plan_id current targets costs).estimated_turnover
      = ((build_delta_order_plan env plan_id current targets costs).actions.map fun action =>
          |action.delta_notional|).sum := by
  rw [((actions_perm env plan_id current targets costs).map _).sum_eq]
  -- the amounts have eight decimals each, so their sum is not rounded
  refine (decimal_sum fun amount hamount => ?_).pyRound_eq
  obtain ⟨action, haction, rfl⟩ := List.mem_map.mp hamount
  rw [(action_delta haction).1]
  exact (decimal_pyRound _ 8).abs

/-! ## Reductions -/

/-- Targets that pass the check for negative amounts add up to exposures that are not
negative. -/
theorem target_exposure_nonneg {targets : List (SymbolTarget K)}
    (h : ∀ target ∈ targets, 0 ≤ target.target_notional) (symbol : String) :
    0 ≤ exposure (target_notional_by_symbol targets) symbol := by
  induction targets using List.reverseRecOn with
  | nil => exact le_rfl
  | append_singleton targets target ih =>
      have ih := ih fun t ht => h t (List.mem_append_left _ ht)
      have htarget := h target (List.mem_append_right _ (List.mem_singleton.mpr rfl))
      rw [target_notional_by_symbol, List.foldl_append, List.foldl_cons, List.foldl_nil,
        ← target_notional_by_symbol]
      by_cases hsymbol : symbol = target.symbol
      · subst hsymbol
        rw [exposure, AList.lookup_insert]
        exact pyRound_nonneg (add_nonneg ih htarget) 8
      · rw [exposure, AList.lookup_insert_ne hsymbol]
        exact ih

/-- Every symbol gets at most one action; together the actions move every symbol to its
target, exactly where the exposure held has at most 8 decimals and else within half a unit
of the eighth; the turnover adds them up; and for targets that are not negative every
reduce-only action makes the exposure smaller and keeps its sign. -/
theorem delta_plan_moves_to_targets (env : ArtifactEnv K T) (plan_id : String)
    (current : Dict String K) (targets : List (SymbolTarget K)) (costs : DeltaCosts K) :
    let plan := build_delta_order_plan env plan_id current targets costs
    (plan.actions.map DeltaAction.symbol).Nodup
    ∧ (∀ symbol,
      |exposure_after current plan.actions symbol - exposure plan.target_positions symbol|
          ≤ 1 / 2 / 10 ^ 8
        ∧ (Decimal 8 (exposure current symbol) →
          exposure_after current plan.actions symbol = exposure plan.target_positions symbol))
    ∧ plan.estimated_turnover = (plan.actions.map fun action => |action.delta_notional|).sum
    ∧ ((∀ target ∈ targets, 0 ≤ target.target_notional) →
      ∀ action ∈ plan.actions, action.reduce_only = true →
        Decimal 8 (exposure current action.symbol) →
          |exposure_after current plan.actions action.symbol| < |exposure current action.symbol|
            ∧ 0 ≤ exposure current action.symbol
              * exposure_after current plan.actions action.symbol) := by
  intro plan
  have hexact : ∀ symbol, Decimal 8 (exposure current symbol) →
      exposure_after current plan.actions symbol = exposure plan.target_positions symbol := by
    intro symbol hdecimal
    have hdelta := (decimal_target_notional targets symbol).sub hdecimal
    rw [exposure_after_plan, hdelta.pyRound_eq, add_sub_cancel]
    rfl
  refine ⟨?_, fun symbol => ⟨?_, hexact symbol⟩, estimated_turnover_eq _ _ _ _ _, ?_⟩
  · exact ((actions_perm env plan_id current targets costs).map _).symm.nodup
      (delta_symbols_nodup current targets)
  · have hround := abs_pyRound_sub_le
      (exposure (target_notional_by_symbol targets) symbol - exposure current symbol) 8
    rw [exposure_after_plan]
    rwa [sub_sub_eq_add_sub, add_comm] at hround
  · intro hnonneg action hmem hreduce hdecimal
    have htarget := target_exposure_nonneg hnonneg action.symbol
    obtain ⟨hdelta, hreduce_only⟩ := action_delta ((actions_perm _ _ _ _ _).mem_iff.mp hmem)
    rw [hreduce_only, decide_eq_true_iff, hdelta,
      ((decimal_target_notional targets action.symbol).sub hdecimal).pyRound_eq,
      sub_neg] at hreduce
    -- the target lies between zero and what is held
    rw [hexact action.symbol hdecimal]
    have hcurrent := htarget.trans_lt hreduce
    refine ⟨?_, mul_nonneg hcurrent.le htarget⟩
    rw [abs_of_pos hcurrent]
    exact (abs_of_nonneg htarget).trans_lt hreduce

end Exposure

/-! ## A long and a short target -/

/-- A target notional on BTCUSDT. -/
def btc_target (target_notional : ℚ) : SymbolTarget ℚ where
  symbol := "BTCUSDT"
  artifact_id := "artifact-btc"
  role := "core"
  target_weight := 1 / 4
  target_notional := target_notional
  max_loss_budget := 1000
  max_slippage_bps := 8
  max_funding_cost_bps := 4
  rebalance_reason := "drift"

/-- A notional held on BTCUSDT. -/
def btc_held (notional : ℚ) : Dict String ℚ := (∅ : Dict String ℚ).insert "BTCUSDT" notional

/-- From 5 to 3. -/
theorem delta_plan_moves_to_targets_reduction :
    exposure_after (btc_held 5)
        (build_delta_order_plan plain_env "target-v1" (btc_held 5) [btc_target 3] {}).actions
        "BTCUSDT"
      = exposure (build_delta_order_plan plain_env "target-v1" (btc_held 5) [btc_target 3]
        {}).target_positions "BTCUSDT" :=
  ((delta_plan_moves_to_targets plain_env "target-v1" (btc_held 5) [btc_target 3] {}).2.1
    "BTCUSDT").2 ⟨500000000, by decide +kernel⟩

/-- From 5 to -3 the sell is reduce-only and turns the position round; a third is not sold
off entirely. -/
theorem reduce_only_flips_to_short :
    ((build_delta_order_plan plain_env "target-v1" (btc_held 5) [btc_target (-3)] {}).actions.map
        fun action => (action.symbol, action.delta_notional, action.reduce_only))
        = [("BTCUSDT", -8, true)]
      ∧ exposure_after (btc_held 5) (build_delta_order_plan plain_env "target-v1" (btc_held 5)
          [btc_target (-3)] {}).actions "BTCUSDT" = -3
      ∧ exposure_after (btc_held (1 / 3)) (build_delta_order_plan plain_env "target-v1"
          (btc_held (1 / 3)) [] {}).actions "BTCUSDT" ≠ 0 := by
  decide +kernel

end ProofAlpha.Portfolio
