/-
Target portfolios and delta order plans: `portfolio/target_portfolio.py`, the `SymbolTarget` of
`portfolio/symbol_target.py` and `portfolio/delta_order_plan.py`.

Every allocation of a plan is spread evenly over its symbols. The delta plan compares the
notional held on every symbol with its target and orders the difference, rounded to 8
decimals; `actions_eq_nil_iff` says when it orders nothing. The checks for finite numbers
have no counterpart: an element of `K` is finite.
-/
import ProofAlpha.Lib.Checks
import ProofAlpha.Portfolio.Allocator

set_option autoImplicit false

namespace ProofAlpha.Portfolio

open ProofAlpha.Lib
open ProofAlpha.Strategy

/-- `SymbolTarget`. -/
structure SymbolTarget (K : Type) where
  symbol : String
  artifact_id : String
  role : String
  target_weight : K
  target_notional : K
  max_loss_budget : K
  max_slippage_bps : K
  max_funding_cost_bps : K
  rebalance_reason : String

/-- `TargetPortfolio`. -/
structure TargetPortfolio (K : Type) where
  target_portfolio_id : String
  universe_id : String
  artifact_set_id : String
  capital_base : K
  gross_exposure_target : K
  net_exposure_target : K
  btc_beta_target : K
  eth_beta_target : K
  max_symbol_weight : K
  max_cluster_weight : K
  symbol_targets : List (SymbolTarget K)

/-- The arguments of `build_target_portfolio` that have a default. -/
structure TargetOptions (K : Type) [Field K] where
  btc_beta_target : K := 0
  eth_beta_target : K := 0
  max_symbol_weight : K := 1
  max_cluster_weight : K := 1
  max_slippage_bps : K := 25
  max_funding_cost_bps : K := 10
  rebalance_reason : String := "scheduled"

section Targets

variable {K T : Type} [Field K]

/-- `target.to_dict()`. -/
def symbol_target_payload (target : SymbolTarget K) : JsonValue K :=
  .dict
    [("symbol", .str target.symbol), ("artifact_id", .str target.artifact_id),
      ("role", .str target.role), ("target_weight", .float target.target_weight),
      ("target_notional", .float target.target_notional),
      ("max_loss_budget", .float target.max_loss_budget),
      ("max_slippage_bps", .float target.max_slippage_bps),
      ("max_funding_cost_bps", .float target.max_funding_cost_bps),
      ("rebalance_reason", .str target.rebalance_reason)]

variable [LinearOrder K] [FloorRing K]

/-- The target of an allocation on one of its symbols. -/
def symbol_target (capital_base : K) (options : TargetOptions K)
    (allocation : PortfolioAllocation K) (symbol : String) : SymbolTarget K :=
  let per_symbol_notional := allocation.notional / symbol_count allocation.symbols
  { symbol := symbol
    artifact_id := allocation.artifact_id
    role := allocation.portfolio_role
    target_weight := pyRound (per_symbol_notional / capital_base) 12
    target_notional := pyRound per_symbol_notional 8
    max_loss_budget := pyRound (per_symbol_notional * allocation.max_drawdown) 8
    max_slippage_bps := options.max_slippage_bps
    max_funding_cost_bps := options.max_funding_cost_bps
    rebalance_reason := options.rebalance_reason }

/-- One allocation of the loop of `build_target_portfolio`. -/
def allocation_targets (capital_base : K) (options : TargetOptions K)
    (allocation : PortfolioAllocation K) : Except String (List (SymbolTarget K)) := do
  require (decide (0 ≤ allocation.notional)) "allocation_notional_must_be_non_negative"
  require (decide (0 ≤ allocation.max_drawdown)) "allocation_max_drawdown_must_be_non_negative"
  pure (allocation.symbols.map (symbol_target capital_base options allocation))

/-- `build_target_portfolio`. -/
def build_target_portfolio (env : ArtifactEnv K T) (universe_id artifact_set_id : String)
    (capital_base : K) (allocations : List (PortfolioAllocation K)) (options : TargetOptions K) :
    Except String (TargetPortfolio K) := do
  require (decide (0 < capital_base)) "capital_base_must_be_positive"
  let targets := (← allocations.mapM (allocation_targets capital_base options)).flatten
  let gross := pyRound (targets.map fun target => |target.target_weight|).sum 12
  let net := pyRound (targets.map SymbolTarget.target_weight).sum 12
  let payload : JsonValue K := .dict
    [("universe_id", .str universe_id), ("artifact_set_id", .str artifact_set_id),
      ("capital_base", .float capital_base), ("gross_exposure_target", .float gross),
      ("net_exposure_target", .float net), ("btc_beta_target", .float options.btc_beta_target),
      ("eth_beta_target", .float options.eth_beta_target),
      ("max_symbol_weight", .float options.max_symbol_weight),
      ("max_cluster_weight", .float options.max_cluster_weight),
      ("symbol_targets", .list (targets.map symbol_target_payload))]
  pure
    { target_portfolio_id :=
        "target-portfolio-" ++ String.ofList ((stable_hash env payload).toList.take 16)
      universe_id := universe_id
      artifact_set_id := artifact_set_id
      capital_base := capital_base
      gross_exposure_target := gross
      net_exposure_target := net
      btc_beta_target := options.btc_beta_target
      eth_beta_target := options.eth_beta_target
      max_symbol_weight := options.max_symbol_weight
      max_cluster_weight := options.max_cluster_weight
      symbol_targets := targets }

end Targets

end ProofAlpha.Portfolio

/-! ## Delta order plans -/

namespace ProofAlpha.Portfolio

open ProofAlpha.Lib
open ProofAlpha.Strategy

/-- The side of an action. -/
inductive OrderSide
  | BUY
  | SELL
deriving DecidableEq

/-- The name of an action. -/
inductive ActionName
  | opening
  | increase
  | reduction
  | closing
deriving DecidableEq

def OrderSide.text : OrderSide → String
  | .BUY => "BUY"
  | .SELL => "SELL"

def ActionName.text : ActionName → String
  | .opening => "open"
  | .increase => "increase"
  | .reduction => "reduction"
  | .closing => "close"

/-- `DeltaAction`. -/
structure DeltaAction (K : Type) where
  symbol : String
  artifact_id : Option String
  side : OrderSide
  current_notional : K
  target_notional : K
  delta_notional : K
  action : ActionName
  reduce_only : Bool
  rebalance_reason : String

/-- `DeltaOrderPlan`. -/
structure DeltaOrderPlan (K : Type) where
  delta_order_plan_id : String
  target_portfolio_id : String
  current_positions : Dict String K
  target_positions : Dict String K
  opens : List (DeltaAction K)
  increases : List (DeltaAction K)
  reductions : List (DeltaAction K)
  closes : List (DeltaAction K)
  estimated_turnover : K
  estimated_fees : K
  estimated_slippage : K
  estimated_funding : K

/-- An entry of `to_internal_order_intents`. -/
structure DeltaIntent (K : Type) where
  symbol : String
  artifact_id : Option String
  side : OrderSide
  qty_notional : K
  reduce_only : Bool
  source_delta_plan_id : String
  source_delta_action : ActionName

/-- The costs per unit of turnover that `build_delta_order_plan` is given. -/
structure DeltaCosts (K : Type) [Field K] where
  fee_bps : K := 0
  slippage_bps : K := 0
  funding_cost_bps : K := 0

section Plan

variable {K T : Type} [Field K] [LinearOrder K] [FloorRing K]

/-- The actions of a plan, in the order in which they become intents. -/
def DeltaOrderPlan.actions (plan : DeltaOrderPlan K) : List (DeltaAction K) :=
  plan.opens ++ plan.increases ++ plan.reductions ++ plan.closes

/-- `to_internal_order_intents`. -/
def to_internal_order_intents (plan : DeltaOrderPlan K) : List (DeltaIntent K) :=
  plan.actions.map fun action =>
    { symbol := action.symbol
      artifact_id := action.artifact_id
      side := action.side
      qty_notional := |action.delta_notional|
      reduce_only := action.reduce_only
      source_delta_plan_id := plan.delta_order_plan_id
      source_delta_action := action.action }

/-- `_target_notional_by_symbol`. -/
def target_notional_by_symbol (targets : List (SymbolTarget K)) : Dict String K :=
  targets.foldl (fun result target => result.insert target.symbol
    (pyRound (exposure result target.symbol + target.target_notional) 8)) ∅

/-- The value that the last target of a symbol has. -/
def last_by_symbol {ν : Type} (value : SymbolTarget K → ν) (targets : List (SymbolTarget K)) :
    Dict String ν :=
  targets.foldl (fun result target => result.insert target.symbol (value target)) ∅

/-- `set(current) | set(target_by_symbol)`, sorted. -/
def traded_symbols (current target_by_symbol : Dict String K) : List String :=
  sorted_set (current.keys ++ target_by_symbol.keys)

/-- The name of the action for a difference that is not 0. -/
def action_name (current_notional target_notional delta : K) : ActionName :=
  if current_notional = 0 ∧ 0 < target_notional then .opening
  else if target_notional = 0 ∧ 0 < current_notional then .closing
  else if 0 < delta then .increase
  else .reduction

/-- One symbol of the loop of `build_delta_order_plan`. -/
def delta_action (current target_by_symbol : Dict String K) (targets : List (SymbolTarget K))
    (symbol : String) : Option (DeltaAction K) :=
  let current_notional := exposure current symbol
  let target_notional := exposure target_by_symbol symbol
  let delta := pyRound (target_notional - current_notional) 8
  if |delta| < 1 / 10 ^ 9 then none
  else some
    { symbol := symbol
      artifact_id := (last_by_symbol SymbolTarget.artifact_id targets).lookup symbol
      side := if 0 < delta then .BUY else .SELL
      current_notional := pyRound current_notional 8
      target_notional := pyRound target_notional 8
      delta_notional := delta
      action := action_name current_notional target_notional delta
      reduce_only := decide (delta < 0)
      rebalance_reason :=
        ((last_by_symbol SymbolTarget.rebalance_reason targets).lookup symbol).getD "target_delta" }

/-- The actions that the loop collects. -/
def delta_actions (current : Dict String K) (targets : List (SymbolTarget K)) :
    List (DeltaAction K) :=
  (traded_symbols current (target_notional_by_symbol targets)).filterMap
    (delta_action current (target_notional_by_symbol targets) targets)

/-- `action.to_dict()`. -/
def delta_action_payload (action : DeltaAction K) : JsonValue K :=
  .dict
    [("symbol", .str action.symbol),
      ("artifact_id", (action.artifact_id.map JsonValue.str).getD .null),
      ("side", .str action.side.text), ("current_notional", .float action.current_notional),
      ("target_notional", .float action.target_notional),
      ("delta_notional", .float action.delta_notional), ("action", .str action.action.text),
      ("reduce_only", .bool action.reduce_only),
      ("rebalance_reason", .str action.rebalance_reason)]

/-- `build_delta_order_plan`. -/
def build_delta_order_plan (env : ArtifactEnv K T) (plan_id : String)
    (current_positions : Dict String K) (target_positions : List (SymbolTarget K))
    (costs : DeltaCosts K) : DeltaOrderPlan K :=
  let actions := delta_actions current_positions target_positions
  let turnover := pyRound (actions.map fun action => |action.delta_notional|).sum 8
  let payload : JsonValue K := .dict
    [("target_portfolio_id", .str plan_id), ("current_positions", amounts current_positions),
      ("target_positions", amounts (target_notional_by_symbol target_positions)),
      ("actions", .list (actions.map delta_action_payload))]
  { delta_order_plan_id :=
      "delta-order-plan-" ++ String.ofList ((stable_hash env payload).toList.take 16)
    target_portfolio_id := plan_id
    current_positions := current_positions
    target_positions := target_notional_by_symbol target_positions
    opens := actions.filter fun action => action.action = .opening
    increases := actions.filter fun action => action.action = .increase
    reductions := actions.filter fun action => action.action = .reduction
    closes := actions.filter fun action => action.action = .closing
    estimated_turnover := turnover
    estimated_fees := pyRound (turnover * costs.fee_bps / 10000) 8
    estimated_slippage := pyRound (turnover * costs.slippage_bps / 10000) 8
    estimated_funding := pyRound (turnover * costs.funding_cost_bps / 10000) 8 }

/-! ## What is ordered -/

omit [LinearOrder K] [FloorRing K] in
/-- A symbol that is neither held nor targeted counts as 0. -/
theorem exposure_of_notMem {amounts : Dict String K} {symbol : String} (h : symbol ∉ amounts) :
    exposure amounts symbol = 0 := by
  rw [exposure, AList.lookup_eq_none.mpr h]
  rfl

theorem delta_action_symbol {current target_by_symbol : Dict String K}
    {targets : List (SymbolTarget K)} {symbol : String} {action : DeltaAction K}
    (h : delta_action current target_by_symbol targets symbol = some action) :
    action.symbol = symbol := by
  unfold delta_action at h
  dsimp only at h
  split at h
  · cases h
  · rw [← Option.some.inj h]

/-- The target amounts are sums that have been rounded. -/
theorem decimal_target_notional (targets : List (SymbolTarget K)) (symbol : String) :
    Decimal 8 (exposure (target_notional_by_symbol targets) symbol) := by
  induction targets using List.reverseRecOn with
  | nil => exact decimal_zero 8
  | append_singleton targets target ih =>
      rw [target_notional_by_symbol, List.foldl_append, List.foldl_cons, List.foldl_nil,
        ← target_notional_by_symbol]
      by_cases hsymbol : symbol = target.symbol
      · rw [hsymbol, exposure, AList.lookup_insert]
        exact decimal_pyRound _ 8
      · rw [exposure, AList.lookup_insert_ne hsymbol]
        exact ih

theorem side_eq_buy_iff {buys : Prop} [Decidable buys] :
    (if buys then OrderSide.BUY else OrderSide.SELL) = .BUY ↔ buys := by
  by_cases h : buys
  · rw [if_pos h]
    exact ⟨fun _ => h, fun _ => rfl⟩
  · rw [if_neg h]
    exact ⟨fun hside => OrderSide.noConfusion hside, fun hbuys => absurd hbuys h⟩

variable [IsStrictOrderedRing K]

/-- Between amounts of 8 decimals, the difference is ordered exactly, and only an
empty one is not ordered. -/
theorem delta_action_spec (targets : List (SymbolTarget K)) {current : Dict String K}
    {symbol : String} (hcurrent : Decimal 8 (exposure current symbol)) :
    (exposure (target_notional_by_symbol targets) symbol = exposure current symbol ∧
        delta_action current (target_notional_by_symbol targets) targets symbol = none) ∨
      ∃ action, delta_action current (target_notional_by_symbol targets) targets symbol = some action
        ∧ action.symbol = symbol ∧ action.delta_notional ≠ 0
        ∧ action.delta_notional
          = exposure (target_notional_by_symbol targets) symbol - exposure current symbol
        ∧ (action.side = .BUY ↔ 0 < action.delta_notional) := by
  have hdecimal := (decimal_target_notional targets symbol).sub hcurrent
  rcases eq_or_ne (exposure (target_notional_by_symbol targets) symbol) (exposure current symbol)
    with hsame | hne
  · refine Or.inl ⟨hsame, ?_⟩
    rw [delta_action, hdecimal.pyRound_eq, hsame, sub_self, abs_zero, if_pos (by positivity)]
  · have hdelta : exposure (target_notional_by_symbol targets) symbol - exposure current symbol ≠ 0 :=
      sub_ne_zero.mpr hne
    have hunit := hdecimal.unit_le_abs hdelta
    have hlarge : ¬ |exposure (target_notional_by_symbol targets) symbol - exposure current symbol|
        < 1 / 10 ^ 9 := by
      rw [not_lt]
      refine le_trans ?_ hunit
      norm_num
    refine Or.inr ⟨_, by rw [delta_action, hdecimal.pyRound_eq, if_neg hlarge], rfl, hdelta, rfl, ?_⟩
    exact side_eq_buy_iff

/-- The loop orders for every symbol what `delta_action` orders. -/
theorem mem_delta_actions_iff {current : Dict String K} {targets : List (SymbolTarget K)}
    {action : DeltaAction K} :
    action ∈ delta_actions current targets ↔ delta_action current
      (target_notional_by_symbol targets) targets action.symbol = some action := by
  rw [delta_actions, List.mem_filterMap]
  constructor
  · rintro ⟨symbol, -, haction⟩
    have hsymbol : action.symbol = symbol := delta_action_symbol haction
    rw [hsymbol]
    exact haction
  · intro haction
    refine ⟨action.symbol, ?_, haction⟩
    rw [traded_symbols, mem_sorted_set, List.mem_append]
    by_contra hnot
    obtain ⟨hcurrent, htarget⟩ := not_or.mp hnot
    rw [delta_action, exposure_of_notMem hcurrent, exposure_of_notMem htarget, sub_zero,
      (decimal_zero 8).pyRound_eq, abs_zero, if_pos (by positivity)] at haction
    cases haction

omit [IsStrictOrderedRing K] in
/-- The actions of a plan are those of the loop. -/
theorem mem_actions {env : ArtifactEnv K T} {plan_id : String} {current : Dict String K}
    {targets : List (SymbolTarget K)} {costs : DeltaCosts K} {action : DeltaAction K} :
    action ∈ (build_delta_order_plan env plan_id current targets costs).actions
      ↔ action ∈ delta_actions current targets := by
  have hgroups : (build_delta_order_plan env plan_id current targets costs).actions
      = (delta_actions current targets).filter (fun action => action.action = .opening)
        ++ (delta_actions current targets).filter (fun action => action.action = .increase)
        ++ (delta_actions current targets).filter (fun action => action.action = .reduction)
        ++ (delta_actions current targets).filter (fun action => action.action = .closing) := rfl
  rw [hgroups]
  simp only [List.mem_append, List.mem_filter, decide_eq_true_eq]
  constructor
  · rintro (((⟨h, -⟩ | ⟨h, -⟩) | ⟨h, -⟩) | ⟨h, -⟩)
    · exact h
    · exact h
    · exact h
    · exact h
  · intro h
    cases hname : action.action with
    | opening => exact Or.inl (Or.inl (Or.inl ⟨h, rfl⟩))
    | increase => exact Or.inl (Or.inl (Or.inr ⟨h, rfl⟩))
    | reduction => exact Or.inl (Or.inr ⟨h, rfl⟩)
    | closing => exact Or.inr ⟨h, rfl⟩

/-- A plan orders nothing exactly if every symbol is held at its target. -/
theorem actions_eq_nil_iff {env : ArtifactEnv K T} {plan_id : String} {current : Dict String K}
    {targets : List (SymbolTarget K)} {costs : DeltaCosts K}
    (hcurrent : ∀ symbol, Decimal 8 (exposure current symbol)) :
    (build_delta_order_plan env plan_id current targets costs).actions = []
      ↔ ∀ symbol, exposure (target_notional_by_symbol targets) symbol = exposure current symbol := by
  rw [List.eq_nil_iff_forall_not_mem]
  constructor
  · intro hnone symbol
    rcases delta_action_spec targets (hcurrent symbol) with
      ⟨hsame, -⟩ | ⟨action, haction, hsymbol, -⟩
    · exact hsame
    · rw [← hsymbol] at haction
      exact absurd (mem_actions.mpr (mem_delta_actions_iff.mpr haction)) (hnone action)
  · intro hsame action hmem
    have haction := mem_delta_actions_iff.mp (mem_actions.mp hmem)
    rcases delta_action_spec targets (hcurrent action.symbol) with
      ⟨-, hnone⟩ | ⟨ordered, -, -, hne, hdelta, -⟩
    · rw [hnone] at haction
      cases haction
    · rw [hsame, sub_self] at hdelta
      exact hne hdelta

end Plan

end ProofAlpha.Portfolio
