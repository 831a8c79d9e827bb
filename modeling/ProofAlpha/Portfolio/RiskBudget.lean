/-
The risk budget of a portfolio: `portfolio/risk_budget.py`.

The weights of a cluster and the betas of the whole portfolio are added up over the
targets and then compared with their caps. The cap on a symbol is compared with one target
at a time, so a symbol that several artifacts target can be above it in total
(`within_budget_iff`). A beta that is NaN makes a sum that no comparison finds too large.
-/
import ProofAlpha.Lib.Checks
import ProofAlpha.Lib.FloatArithmetic
import ProofAlpha.Lib.PyDict
import ProofAlpha.Lib.PyMath
import ProofAlpha.Portfolio.DeltaOrderPlan

set_option autoImplicit false

namespace ProofAlpha.Portfolio

open ProofAlpha.Lib

/-! ## The budget -/

/-- `PortfolioRiskBudget`. -/
structure PortfolioRiskBudget (K : Type) where
  max_symbol_weight : PyFloat K
  max_cluster_weight : PyFloat K
  max_btc_beta : PyFloat K
  max_eth_beta : PyFloat K
  max_funding_cost_bps : PyFloat K
  max_turnover_weight : PyFloat K
  cluster_by_symbol : Dict String String
  beta_by_symbol : Dict String (Dict String (PyFloat K))
  turnover_weight : PyFloat K

/-- The `metrics` of a result. -/
structure RiskBudgetMetrics (K : Type) where
  cluster_weight : List (String × PyFloat K)
  btc_beta : PyFloat K
  eth_beta : PyFloat K
  turnover_weight : PyFloat K

/-- `PortfolioRiskBudgetResult`. -/
structure PortfolioRiskBudgetResult (K : Type) where
  passed : Bool
  rejections : List String
  metrics : RiskBudgetMetrics K

/-- What the loop over the targets carries. -/
structure BudgetState (K : Type) where
  rejections : List String
  cluster_weight : Dict String (PyFloat K)
  btc_beta : PyFloat K
  eth_beta : PyFloat K

section Budget

variable {K : Type}

/-- The fields of a budget that must be finite. -/
def budget_fields (budget : PortfolioRiskBudget K) : List (String × PyFloat K) :=
  [("max_symbol_weight", budget.max_symbol_weight),
    ("max_cluster_weight", budget.max_cluster_weight), ("max_btc_beta", budget.max_btc_beta),
    ("max_eth_beta", budget.max_eth_beta), ("max_funding_cost_bps", budget.max_funding_cost_bps),
    ("max_turnover_weight", budget.max_turnover_weight),
    ("turnover_weight", budget.turnover_weight)]

/-- The fields of a target that must be finite. -/
def target_fields (target : SymbolTarget (PyFloat K)) : List (String × PyFloat K) :=
  [("target_weight", target.target_weight), ("target_notional", target.target_notional),
    ("max_loss_budget", target.max_loss_budget), ("max_slippage_bps", target.max_slippage_bps),
    ("max_funding_cost_bps", target.max_funding_cost_bps)]

/-- The names of the fields that are not finite. -/
def non_finite_fields (fields : List (String × PyFloat K)) : List String :=
  (fields.filter fun field => field.2.finite.isNone).map Prod.fst

/-- `_target_non_finite_fields`. -/
def target_non_finite_fields (target : SymbolTarget (PyFloat K)) : List String :=
  non_finite_fields (target_fields target)

/-- `budget.cluster_by_symbol.get(target.symbol, "unclustered")`. -/
def cluster_of (budget : PortfolioRiskBudget K) (target : SymbolTarget (PyFloat K)) : String :=
  (budget.cluster_by_symbol.lookup target.symbol).getD "unclustered"

variable [Field K]

/-- `budget.beta_by_symbol.get(target.symbol, {}).get(asset, 0.0)`. -/
def beta_of (budget : PortfolioRiskBudget K) (asset : String)
    (target : SymbolTarget (PyFloat K)) : PyFloat K :=
  (((budget.beta_by_symbol.lookup target.symbol).getD ∅).lookup asset).getD 0

variable [LinearOrder K]

/-- The weight of a target in an asset. -/
def beta_weight (budget : PortfolioRiskBudget K) (asset : String)
    (target : SymbolTarget (PyFloat K)) : PyFloat K :=
  target.target_weight * beta_of budget asset target

/-- What one target appends to the rejections. -/
def target_rejections (budget : PortfolioRiskBudget K) (target : SymbolTarget (PyFloat K)) :
    List String :=
  match target_non_finite_fields target with
  | [] =>
      reason_if (target.target_weight.abs.gt budget.max_symbol_weight)
          ("symbol_cap:" ++ target.symbol)
        ++ reason_if (target.max_funding_cost_bps.gt budget.max_funding_cost_bps)
          ("funding_budget:" ++ target.symbol)
  | invalid_fields => invalid_fields.map fun field_name =>
      "target_non_finite:" ++ target.symbol ++ ":" ++ field_name

/-- One target of the loop; one with an invalid field is skipped. -/
def budget_step (budget : PortfolioRiskBudget K) (st : BudgetState K)
    (target : SymbolTarget (PyFloat K)) : BudgetState K :=
  let rejections := st.rejections ++ target_rejections budget target
  if (target_non_finite_fields target).isEmpty then
    { rejections := rejections
      cluster_weight :=
        st.cluster_weight.add (cluster_of budget target) target.target_weight.abs
      btc_beta := st.btc_beta + (beta_weight budget "BTC" target).abs
      eth_beta := st.eth_beta + (beta_weight budget "ETH" target).abs }
  else { st with rejections := rejections }

/-- The loop over the targets. -/
def budget_loop (budget : PortfolioRiskBudget K) (targets : List (SymbolTarget (PyFloat K))) :
    BudgetState K :=
  targets.foldl (budget_step budget)
    { rejections := (non_finite_fields (budget_fields budget)).map fun field_name =>
        "budget_non_finite:" ++ field_name
      cluster_weight := ∅
      btc_beta := 0
      eth_beta := 0 }

/-- `round(value, 12)`. -/
def round_12 [FloorRing K] (value : PyFloat K) : PyFloat K :=
  match value.finite with
  | some x => .of (pyRound x 12)
  | none => value

/-- `evaluate_portfolio_risk_budget`. -/
def evaluate_portfolio_risk_budget [FloorRing K] (targets : List (SymbolTarget (PyFloat K)))
    (budget : PortfolioRiskBudget K) : PortfolioRiskBudgetResult K :=
  let st := budget_loop budget targets
  let cluster_weight := Dict.sorted_items st.cluster_weight
  let rejections := st.rejections
    ++ cluster_weight.flatMap (fun item =>
      reason_if (item.2.gt budget.max_cluster_weight) ("cluster_cap:" ++ item.1))
    ++ reason_if (st.btc_beta.gt budget.max_btc_beta) "btc_beta_cap"
    ++ reason_if (st.eth_beta.gt budget.max_eth_beta) "eth_beta_cap"
    ++ reason_if (budget.turnover_weight.gt budget.max_turnover_weight) "turnover_budget"
  { passed := rejections.isEmpty
    rejections := rejections
    metrics :=
      { cluster_weight := cluster_weight
        btc_beta := round_12 st.btc_beta
        eth_beta := round_12 st.eth_beta
        turnover_weight := budget.turnover_weight } }

end Budget

/-! ## What a portfolio adds up to -/

section Totals

variable {K : Type} [Field K] [LinearOrder K]

/-- The absolute weights of the targets on a symbol. -/
def symbol_weight (targets : List (SymbolTarget (PyFloat K))) (symbol : String) : PyFloat K :=
  ((targets.filter fun target => target.symbol = symbol).map fun target =>
    target.target_weight.abs).sum

/-- The absolute weights of the targets in a cluster. -/
def total_cluster_weight (budget : PortfolioRiskBudget K)
    (targets : List (SymbolTarget (PyFloat K))) (cluster : String) : PyFloat K :=
  ((targets.filter fun target => cluster_of budget target = cluster).map fun target =>
    target.target_weight.abs).sum

/-- The exposure of the whole portfolio to an asset. -/
def beta_exposure (budget : PortfolioRiskBudget K) (asset : String)
    (targets : List (SymbolTarget (PyFloat K))) : PyFloat K :=
  (targets.map (beta_weight budget asset)).sum

/-- The sum of the absolute exposures of the targets. -/
def gross_beta (budget : PortfolioRiskBudget K) (asset : String)
    (targets : List (SymbolTarget (PyFloat K))) : PyFloat K :=
  ((targets.map (beta_weight budget asset)).map PyFloat.abs).sum

/-- The weights of every symbol and cluster with a target, and the betas of the portfolio,
are within the caps. -/
structure WithinBudget (targets : List (SymbolTarget (PyFloat K)))
    (budget : PortfolioRiskBudget K) : Prop where
  symbol : ∀ target ∈ targets,
    (symbol_weight targets target.symbol).le budget.max_symbol_weight
  cluster : ∀ target ∈ targets,
    (total_cluster_weight budget targets (cluster_of budget target)).le budget.max_cluster_weight
  btc_beta : (beta_exposure budget "BTC" targets).abs.le budget.max_btc_beta
  eth_beta : (beta_exposure budget "ETH" targets).abs.le budget.max_eth_beta

/-- What `evaluate_portfolio_risk_budget` rejects: a field that is not finite, a target above
the cap of a symbol or above the funding budget, and a cluster, a beta or a turnover above
its cap. -/
structure Accepted (targets : List (SymbolTarget (PyFloat K)))
    (budget : PortfolioRiskBudget K) : Prop where
  budget_finite : ∀ field ∈ budget_fields budget, field.2.finite ≠ none
  target_finite : ∀ target ∈ targets, ∀ field ∈ target_fields target, field.2.finite ≠ none
  target_weight : ∀ target ∈ targets,
    target.target_weight.abs.gt budget.max_symbol_weight = false
  funding : ∀ target ∈ targets,
    target.max_funding_cost_bps.gt budget.max_funding_cost_bps = false
  cluster : ∀ target ∈ targets,
    (total_cluster_weight budget targets (cluster_of budget target)).gt budget.max_cluster_weight
      = false
  btc_beta : (gross_beta budget "BTC" targets).gt budget.max_btc_beta = false
  eth_beta : (gross_beta budget "ETH" targets).gt budget.max_eth_beta = false
  turnover : budget.turnover_weight.gt budget.max_turnover_weight = false

/-- Several targets of one symbol, each within the cap, are above it together. -/
def Concentrated (targets : List (SymbolTarget (PyFloat K))) (budget : PortfolioRiskBudget K) :
    Prop :=
  ∃ target ∈ targets,
    (∀ other ∈ targets, other.symbol = target.symbol →
      other.target_weight.abs.gt budget.max_symbol_weight = false)
    ∧ (symbol_weight targets target.symbol).gt budget.max_symbol_weight = true

/-- The weight of a target in BTC or ETH is NaN. -/
def UndefinedBeta (targets : List (SymbolTarget (PyFloat K))) (budget : PortfolioRiskBudget K) :
    Prop :=
  ∃ target ∈ targets, beta_weight budget "BTC" target = .nan
    ∨ beta_weight budget "ETH" target = .nan

end Totals

/-! ## What passes -/

section Passed

variable {K : Type}

theorem non_finite_fields_eq_nil {fields : List (String × PyFloat K)} :
    non_finite_fields fields = [] ↔ ∀ field ∈ fields, field.2.finite ≠ none := by
  unfold non_finite_fields
  rw [List.map_eq_nil_iff, List.filter_eq_nil_iff]
  exact forall₂_congr fun field _ => by rw [Option.isNone_iff_eq_none]

variable [Field K] [LinearOrder K]

theorem target_rejections_eq_nil {budget : PortfolioRiskBudget K}
    {target : SymbolTarget (PyFloat K)} :
    target_rejections budget target = []
      ↔ (∀ field ∈ target_fields target, field.2.finite ≠ none)
        ∧ target.target_weight.abs.gt budget.max_symbol_weight = false
        ∧ target.max_funding_cost_bps.gt budget.max_funding_cost_bps = false := by
  unfold target_rejections
  rw [← non_finite_fields_eq_nil, ← target_non_finite_fields]
  cases target_non_finite_fields target with
  | nil =>
      dsimp only
      rw [List.append_eq_nil_iff, reason_if_eq_nil, reason_if_eq_nil, and_iff_right rfl]
  | cons field_name fields => simp

theorem budget_loop_concat (budget : PortfolioRiskBudget K)
    (targets : List (SymbolTarget (PyFloat K))) (target : SymbolTarget (PyFloat K)) :
    budget_loop budget (targets ++ [target])
      = budget_step budget (budget_loop budget targets) target := by
  unfold budget_loop
  rw [List.foldl_append, List.foldl_cons, List.foldl_nil]

/-- The loop collects the rejections of the budget and of its targets. -/
theorem budget_loop_rejections (budget : PortfolioRiskBudget K)
    (targets : List (SymbolTarget (PyFloat K))) :
    (budget_loop budget targets).rejections
      = (non_finite_fields (budget_fields budget)).map (fun field_name =>
          "budget_non_finite:" ++ field_name)
        ++ targets.flatMap (target_rejections budget) := by
  induction targets using List.reverseRecOn with
  | nil => exact (List.append_nil _).symm
  | append_singleton targets target ih =>
      have hstep : (budget_step budget (budget_loop budget targets) target).rejections
          = (budget_loop budget targets).rejections ++ target_rejections budget target := by
        unfold budget_step
        split_ifs <;> rfl
      rw [budget_loop_concat, hstep, ih, List.flatMap_append, List.flatMap_singleton,
        List.append_assoc]

/-- When no target is skipped, the loop adds up the weights of all of them. -/
theorem budget_loop_of_valid (budget : PortfolioRiskBudget K)
    {targets : List (SymbolTarget (PyFloat K))}
    (h : ∀ target ∈ targets, target_non_finite_fields target = []) :
    (budget_loop budget targets).cluster_weight
        = Dict.tally (fun target => some (cluster_of budget target))
          (fun target => target.target_weight.abs) targets
      ∧ (budget_loop budget targets).btc_beta = gross_beta budget "BTC" targets
      ∧ (budget_loop budget targets).eth_beta = gross_beta budget "ETH" targets := by
  induction targets using List.reverseRecOn with
  | nil => exact ⟨rfl, rfl, rfl⟩
  | append_singleton targets target ih =>
      obtain ⟨hcluster, hbtc, heth⟩ := ih fun other hother => h other (List.mem_append_left _ hother)
      have hvalid := h target (List.mem_append_right _ (List.mem_singleton_self target))
      have hgross : ∀ asset, gross_beta budget asset (targets ++ [target])
          = gross_beta budget asset targets + (beta_weight budget asset target).abs := by
        intro asset
        unfold gross_beta
        rw [List.map_append, List.map_append, List.sum_append]
        exact congrArg _ (List.sum_singleton ..)
      rw [budget_loop_concat, budget_step, if_pos (by rw [hvalid]; rfl), hgross, hgross, ← hbtc,
        ← heth]
      refine ⟨?_, rfl, rfl⟩
      unfold Dict.tally at hcluster ⊢
      rw [List.foldl_append, ← hcluster]
      rfl

/-- The clusters of the loop are within the cap when those of the targets are. -/
theorem cluster_rejections_eq_nil {budget : PortfolioRiskBudget K}
    {targets : List (SymbolTarget (PyFloat K))} :
    ((Dict.sorted_items (Dict.tally (fun target => some (cluster_of budget target))
        (fun target => target.target_weight.abs) targets)).flatMap fun item =>
          reason_if (item.2.gt budget.max_cluster_weight) ("cluster_cap:" ++ item.1)) = []
      ↔ ∀ target ∈ targets, (total_cluster_weight budget targets (cluster_of budget target)).gt
        budget.max_cluster_weight = false := by
  have hlookup : ∀ cluster, (∃ target ∈ targets, some (cluster_of budget target) = some cluster) →
      (Dict.tally (fun target => some (cluster_of budget target))
        (fun target => target.target_weight.abs) targets).lookup cluster
      = some (total_cluster_weight budget targets cluster) := by
    intro cluster hmem
    rw [Dict.lookup_tally _ _ _ _ hmem]
    unfold total_cluster_weight
    simp only [Option.some_inj]
  rw [List.flatMap_eq_nil_iff]
  constructor
  · intro h target htarget
    have hitem := Dict.mem_sorted_items.mpr
      (hlookup (cluster_of budget target) ⟨target, htarget, rfl⟩)
    exact reason_if_eq_nil.mp (h _ hitem)
  · rintro h ⟨cluster, weight⟩ hitem
    have hentry := Dict.mem_sorted_items.mp hitem
    obtain ⟨target, htarget, hcluster⟩ := (Dict.mem_tally _ _ _ cluster).mp
      (AList.lookup_isSome.mp (by rw [hentry]; rfl))
    rw [hlookup cluster ⟨target, htarget, hcluster⟩] at hentry
    rw [← Option.some.inj hentry, ← Option.some.inj hcluster]
    exact reason_if_eq_nil.mpr (h target htarget)

theorem passed_iff_accepted [FloorRing K] {targets : List (SymbolTarget (PyFloat K))}
    {budget : PortfolioRiskBudget K} :
    (evaluate_portfolio_risk_budget targets budget).passed = true ↔ Accepted targets budget := by
  unfold evaluate_portfolio_risk_budget
  dsimp only
  rw [List.isEmpty_iff, List.append_eq_nil_iff, List.append_eq_nil_iff, List.append_eq_nil_iff,
    List.append_eq_nil_iff, budget_loop_rejections, List.append_eq_nil_iff, List.map_eq_nil_iff,
    List.flatMap_eq_nil_iff, reason_if_eq_nil, reason_if_eq_nil, reason_if_eq_nil,
    non_finite_fields_eq_nil]
  constructor
  · rintro ⟨⟨⟨⟨⟨hbudget, htargets⟩, hclusters⟩, hbtc⟩, heth⟩, hturnover⟩
    have htarget := fun target htarget => target_rejections_eq_nil.mp (htargets target htarget)
    obtain ⟨hcluster, hgross_btc, hgross_eth⟩ := budget_loop_of_valid budget
      fun target hmem => non_finite_fields_eq_nil.mpr (htarget target hmem).1
    rw [hcluster] at hclusters
    rw [hgross_btc] at hbtc
    rw [hgross_eth] at heth
    exact ⟨hbudget, fun target hmem => (htarget target hmem).1,
      fun target hmem => (htarget target hmem).2.1, fun target hmem => (htarget target hmem).2.2,
      cluster_rejections_eq_nil.mp hclusters, hbtc, heth, hturnover⟩
  · intro h
    obtain ⟨hcluster, hgross_btc, hgross_eth⟩ := budget_loop_of_valid budget
      fun target hmem => non_finite_fields_eq_nil.mpr (h.target_finite target hmem)
    rw [hcluster, hgross_btc, hgross_eth]
    refine ⟨⟨⟨⟨⟨h.budget_finite, ?_⟩, ?_⟩, h.btc_beta⟩, h.eth_beta⟩, h.turnover⟩
    · exact fun target hmem => target_rejections_eq_nil.mpr
        ⟨h.target_finite target hmem, h.target_weight target hmem, h.funding target hmem⟩
    · exact cluster_rejections_eq_nil.mpr h.cluster

end Passed

/-! ## What a passing portfolio keeps -/

section Within

variable {K : Type} [Field K] [LinearOrder K]
  {targets : List (SymbolTarget (PyFloat K))} {budget : PortfolioRiskBudget K}
  (haccepted : Accepted targets budget)

include haccepted

/-- The weights of an accepted portfolio are finite. -/
theorem finite_total_weight (p : SymbolTarget (PyFloat K) → Bool) :
    PyFloat.finite ((targets.filter p).map fun target => target.target_weight.abs).sum
      ≠ none := by
  rw [show (fun target : SymbolTarget (PyFloat K) => target.target_weight.abs)
    = PyFloat.abs ∘ SymbolTarget.target_weight from rfl, ← List.map_map]
  refine PyFloat.finite_sum_map_abs fun weight hweight => ?_
  obtain ⟨target, htarget, rfl⟩ := List.mem_map.mp hweight
  exact haccepted.target_finite target (List.mem_of_mem_filter htarget) ("target_weight", _)
    List.mem_cons_self

/-- An accepted portfolio has no symbol above its cap if none is concentrated. -/
theorem symbol_within_iff :
    (∀ target ∈ targets, (symbol_weight targets target.symbol).le budget.max_symbol_weight)
      ↔ ¬ Concentrated targets budget := by
  have hcap : budget.max_symbol_weight.finite ≠ none :=
    haccepted.budget_finite ("max_symbol_weight", _) List.mem_cons_self
  have hle : ∀ symbol, (symbol_weight targets symbol).le budget.max_symbol_weight
      ↔ (symbol_weight targets symbol).gt budget.max_symbol_weight = false := fun symbol =>
    PyFloat.le_iff_of_finite (finite_total_weight haccepted _) hcap
  unfold Concentrated
  constructor
  · rintro hwithin ⟨target, htarget, -, hgt⟩
    have hnot := (hle target.symbol).mp (hwithin target htarget)
    rw [hgt] at hnot
    cases hnot
  · intro hnone target htarget
    rw [hle]
    by_contra hgt
    exact hnone ⟨target, htarget, fun other hother _ => haccepted.target_weight other hother,
      Bool.eq_true_of_not_eq_false hgt⟩

theorem cluster_within (target : SymbolTarget (PyFloat K)) (htarget : target ∈ targets) :
    (total_cluster_weight budget targets (cluster_of budget target)).le
      budget.max_cluster_weight := by
  have hcap : budget.max_cluster_weight.finite ≠ none :=
    haccepted.budget_finite ("max_cluster_weight", _) (by simp [budget_fields])
  exact (PyFloat.le_iff_of_finite (finite_total_weight haccepted _) hcap).mpr
    (haccepted.cluster target htarget)

variable [IsStrictOrderedRing K]

/-- An accepted portfolio keeps to the caps on its betas when no beta is NaN. -/
theorem betas_within_iff :
    (beta_exposure budget "BTC" targets).abs.le budget.max_btc_beta
        ∧ (beta_exposure budget "ETH" targets).abs.le budget.max_eth_beta
      ↔ ¬ UndefinedBeta targets budget := by
  have hbtc : budget.max_btc_beta.finite ≠ none :=
    haccepted.budget_finite ("max_btc_beta", _) (by simp [budget_fields])
  have heth : budget.max_eth_beta.finite ≠ none :=
    haccepted.budget_finite ("max_eth_beta", _) (by simp [budget_fields])
  unfold beta_exposure UndefinedBeta
  rw [PyFloat.abs_sum_le_iff hbtc haccepted.btc_beta, PyFloat.abs_sum_le_iff heth haccepted.eth_beta,
    List.mem_map, List.mem_map, ← not_or, ← exists_or]
  exact not_congr (exists_congr fun target => by tauto)

end Within

section Budgets

variable {K : Type} [Field K] [LinearOrder K] [IsStrictOrderedRing K] [FloorRing K]

/-- A passing result means that the portfolio keeps its budget if and only if it is rejected
for another reason, or no symbol is concentrated and no beta is NaN. -/
theorem within_budget_iff (targets : List (SymbolTarget (PyFloat K)))
    (budget : PortfolioRiskBudget K) :
    ((evaluate_portfolio_risk_budget targets budget).passed = true → WithinBudget targets budget)
      ↔ ¬ Accepted targets budget
        ∨ ¬ Concentrated targets budget ∧ ¬ UndefinedBeta targets budget := by
  rw [passed_iff_accepted]
  by_cases haccepted : Accepted targets budget
  · rw [← symbol_within_iff haccepted, ← betas_within_iff haccepted]
    constructor
    · intro hwithin
      have h := hwithin haccepted
      exact Or.inr ⟨h.symbol, h.btc_beta, h.eth_beta⟩
    · rintro (hrejected | ⟨hsymbol, hbtc, heth⟩) _
      · exact absurd haccepted hrejected
      · exact ⟨hsymbol, cluster_within haccepted, hbtc, heth⟩
  · exact iff_of_true (fun h => absurd h haccepted) (Or.inl haccepted)

end Budgets

/-! ## Two artifacts on one symbol -/

/-- A target of an artifact on BTCUSDT. -/
def weighted_target (artifact_id : String) (target_weight : ℚ) : SymbolTarget (PyFloat ℚ) where
  symbol := "BTCUSDT"
  artifact_id := artifact_id
  role := "core_alpha"
  target_weight := .of target_weight
  target_notional := .of (1000 * target_weight)
  max_loss_budget := .of (100 * target_weight)
  max_slippage_bps := .of 25
  max_funding_cost_bps := .of 10
  rebalance_reason := "scheduled"

/-- No symbol may have more than 0.4 of the capital. -/
def symbol_budget : PortfolioRiskBudget ℚ where
  max_symbol_weight := .of 0.4
  max_cluster_weight := .of 1
  max_btc_beta := .of 1
  max_eth_beta := .of 1
  max_funding_cost_bps := .of 10
  max_turnover_weight := .of 1
  cluster_by_symbol := AList.insert "BTCUSDT" "majors" ∅
  beta_by_symbol := AList.insert "BTCUSDT" (AList.insert "BTC" (.of 1) ∅) ∅
  turnover_weight := .of 0

/-- One target within the cap passes and is within the budget. -/
theorem within_budget_single :
    (evaluate_portfolio_risk_budget [weighted_target "a" 0.3] symbol_budget).passed = true
      ∧ WithinBudget [weighted_target "a" 0.3] symbol_budget := by
  have hpassed : (evaluate_portfolio_risk_budget [weighted_target "a" 0.3] symbol_budget).passed
      = true := by
    decide +kernel
  refine ⟨hpassed, (within_budget_iff [weighted_target "a" 0.3] symbol_budget).mpr
    (Or.inr ⟨?_, ?_⟩) hpassed⟩
  · rintro ⟨target, htarget, -, hgt⟩
    rw [List.mem_singleton.mp htarget] at hgt
    exact absurd hgt (by decide +kernel)
  · rintro ⟨target, htarget, hnan⟩
    rw [List.mem_singleton.mp htarget] at hnan
    exact absurd hnan (by decide +kernel)

/-- Two artifacts with 0.3 each pass, and BTCUSDT has 0.6 of the capital. -/
theorem within_budget_shared_symbol :
    (evaluate_portfolio_risk_budget [weighted_target "a" 0.3, weighted_target "b" 0.3] symbol_budget).passed
        = true
      ∧ ¬ WithinBudget [weighted_target "a" 0.3, weighted_target "b" 0.3] symbol_budget := by
  have htotal : symbol_weight [weighted_target "a" 0.3, weighted_target "b" 0.3] "BTCUSDT" = .of 0.6 := by
    decide +kernel
  refine ⟨by decide +kernel, fun h => ?_⟩
  have hsymbol := h.symbol (weighted_target "a" 0.3) List.mem_cons_self
  rw [show (weighted_target "a" 0.3).symbol = "BTCUSDT" from rfl, htotal] at hsymbol
  exact absurd (PyFloat.le_of_of.mp hsymbol) (by norm_num)

end ProofAlpha.Portfolio
