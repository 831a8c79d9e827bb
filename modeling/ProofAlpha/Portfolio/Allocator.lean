/-
The portfolio allocator: `build_portfolio_plan` of `portfolio/allocator.py`.

Candidates are looked at in order. Each is refused with a reason or allocated
what it asks for, up to its own maximum; afterwards the role pass rejects, of
every role above its fraction of the total, all allocations but the largest.

`none` is an exception of `paper_authority_decision`. That function reads the
clock for every candidate with a payload: `clock n` is what it reads for the
candidate at position `n`.
-/
import ProofAlpha.Lib.FirstBy
import ProofAlpha.Lib.PyMath
import ProofAlpha.Strategy.Artifacts

set_option autoImplicit false

namespace ProofAlpha.Portfolio

open ProofAlpha.Lib
open ProofAlpha.Strategy

/-- `PORTFOLIO_ROLES`. -/
def PORTFOLIO_ROLES : List String :=
  ["core", "defensive", "opportunistic", "carry", "crash_hedge"]

/-- `ACTIVE_ARTIFACT_STATES`. -/
def ACTIVE_ARTIFACT_STATES : List String :=
  ["paper", "shadow_live", "tiny_live", "pilot_live", "scaled_live"]

/-- `PortfolioArtifactCandidate`. -/
structure PortfolioArtifactCandidate (K : Type) where
  artifact_id : String
  strategy_id : String
  symbol_scope : List String
  regime_scope : List String
  portfolio_role : String
  target_notional : K
  max_notional : K
  expected_return_bps : K
  max_drawdown : K
  artifact_health : String
  approved : Bool
  paper_live_divergence_bps : K
  stress_loss_by_scenario : Option (Dict String K)
  correlation_by_artifact : Option (Dict String K)
  artifact_payload : Option (JsonObject K)

/-- `PortfolioConstraints`. -/
structure PortfolioConstraints (K : Type) where
  equity : K
  max_per_symbol_exposure : K
  max_aggregate_leverage : K
  drawdown_budget : K
  max_pairwise_correlation : K
  max_role_fraction : K

/-- `PortfolioAllocation`. -/
structure PortfolioAllocation (K : Type) where
  artifact_id : String
  strategy_id : String
  symbols : List String
  portfolio_role : String
  notional : K
  expected_return_bps : K
  max_drawdown : K

/-- `PortfolioRejection`. -/
structure PortfolioRejection where
  artifact_id : String
  reason_code : String
  reason : String

/-- `PortfolioPlan`. -/
structure PortfolioPlan (K : Type) where
  portfolio_plan_id : String
  accepted : Bool
  allocations : List (PortfolioAllocation K)
  rejections : List PortfolioRejection
  constraints : PortfolioConstraints K
  active_regimes : Dict String String
  exposure_by_symbol : Dict String K
  notional_by_symbol : Dict String K
  aggregate_leverage : K
  drawdown_usage : K
  created_at_utc : String
  candidate_payloads : List (JsonObject K)

/-- What the loop of `build_portfolio_plan` carries along. -/
structure PlanState (K : Type) where
  allocations : List (PortfolioAllocation K)
  rejections : List PortfolioRejection
  exposure_by_symbol : Dict String K
  notional_by_symbol : Dict String K
  drawdown_usage : K

/-! ## Refusals -/

section Refusals

variable {K T : Type} [Field K] [LinearOrder K] [FloorRing K]

/-- The checks of `_candidate_rejection` on the scope of a candidate. -/
def scope_rejection (candidate : PortfolioArtifactCandidate K)
    (active_regimes : Dict String String) : Option PortfolioRejection :=
  if candidate.symbol_scope = [] then
    some ⟨candidate.artifact_id, "missing_symbol_scope", "artifact must declare symbol scope"⟩
  else if candidate.regime_scope = [] then
    some ⟨candidate.artifact_id, "missing_regime_scope", "artifact must declare regime scope"⟩
  else if candidate.portfolio_role ∉ PORTFOLIO_ROLES then
    some ⟨candidate.artifact_id, "invalid_portfolio_role",
      "artifact must declare a supported portfolio role"⟩
  else if candidate.artifact_health ∉ ACTIVE_ARTIFACT_STATES then
    some ⟨candidate.artifact_id, "artifact_not_active",
      "artifact lifecycle state cannot be allocated"⟩
  else if candidate.symbol_scope.any fun symbol =>
      (active_regimes.lookup symbol).any (· ∉ candidate.regime_scope) then
    some ⟨candidate.artifact_id, "regime_scope_mismatch",
      "active regime is outside artifact regime scope"⟩
  else none

/-- `_candidate_rejection`. -/
def candidate_rejection [LinearOrder T] (env : ArtifactEnv K T) (clock : T × T)
    (candidate : PortfolioArtifactCandidate K) (active_regimes : Dict String String) :
    Option (Option PortfolioRejection) :=
  if ! candidate.approved then
    some (some ⟨candidate.artifact_id, "artifact_not_approved", "artifact is not approved"⟩)
  else match candidate.artifact_payload with
    | none => some (scope_rejection candidate active_regimes)
    | some payload => match paper_authority_decision env clock.1 clock.2 payload none false with
      | some (.ok authority) =>
          if ! authority.allowed then
            let reason :=
              if "missing_promotion_manifest" ∈ authority.reasons then "missing_promotion_manifest"
              else authority.reasons.headD "artifact_not_paper_eligible"
            some (some ⟨candidate.artifact_id, reason,
              "artifact manifest does not permit paper allocation"⟩)
          else some (scope_rejection candidate active_regimes)
      | _ => none

/-- What a candidate is allocated: `min(float(target_notional), float(max_notional))`. -/
def requested_notional (candidate : PortfolioArtifactCandidate K) : K :=
  min candidate.target_notional candidate.max_notional

/-- `max(1, len(symbol_scope))`. -/
def symbol_count (symbols : List String) : K := ((max 1 symbols.length : ℕ) : K)

/-- `per_symbol_notional`. -/
def per_symbol_notional (candidate : PortfolioArtifactCandidate K) : K :=
  requested_notional candidate / symbol_count candidate.symbol_scope

/-- The correlation that `_crowding_rejection` reads for a candidate and an
allocation: the candidate's own entry, else the one of the allocated candidate. -/
def crowding_correlation (candidates : List (PortfolioArtifactCandidate K))
    (candidate : PortfolioArtifactCandidate K) (allocation : PortfolioAllocation K) : Option K :=
  match (candidate.correlation_by_artifact.getD ∅).lookup allocation.artifact_id with
  | some corr => some corr
  | none =>
      (candidates.reverse.find? fun item => item.artifact_id = allocation.artifact_id).bind
        fun reverse => (reverse.correlation_by_artifact.getD ∅).lookup candidate.artifact_id

/-- `_crowding_rejection`. -/
def crowding_rejection (candidate : PortfolioArtifactCandidate K)
    (allocations : List (PortfolioAllocation K)) (candidates : List (PortfolioArtifactCandidate K))
    (constraints : PortfolioConstraints K) : Option PortfolioRejection :=
  if allocations.any fun allocation =>
      (crowding_correlation candidates candidate allocation).any
        fun corr => decide (constraints.max_pairwise_correlation < |corr|) then
    some ⟨candidate.artifact_id, "correlation_crowding",
      "candidate is too correlated with allocated artifact"⟩
  else none

/-- `sum(allocation.notional for allocation in allocations)`. -/
def total_notional (allocations : List (PortfolioAllocation K)) : K :=
  (allocations.map PortfolioAllocation.notional).sum

/-- `drawdown_after`. -/
def drawdown_after (constraints : PortfolioConstraints K) (st : PlanState K)
    (candidate : PortfolioArtifactCandidate K) : K :=
  st.drawdown_usage + requested_notional candidate / constraints.equity * candidate.max_drawdown

/-- The exposure of a symbol so far. -/
def exposure (exposure_by_symbol : Dict String K) (symbol : String) : K :=
  (exposure_by_symbol.lookup symbol).getD 0

/-- The limits that the loop checks. -/
def limit_rejection (constraints : PortfolioConstraints K) (st : PlanState K)
    (candidate : PortfolioArtifactCandidate K) : Option PortfolioRejection :=
  if candidate.symbol_scope.any fun symbol => decide (constraints.max_per_symbol_exposure
      < exposure st.exposure_by_symbol symbol + per_symbol_notional candidate) then
    some ⟨candidate.artifact_id, "per_symbol_exposure_limit",
      "candidate would breach max per-symbol exposure"⟩
  else if constraints.equity ≤ 0 ∨ constraints.max_aggregate_leverage
      < (total_notional st.allocations + requested_notional candidate) / constraints.equity then
    some ⟨candidate.artifact_id, "aggregate_leverage_limit",
      "candidate would breach aggregate leverage"⟩
  else if constraints.drawdown_budget < drawdown_after constraints st candidate then
    some ⟨candidate.artifact_id, "drawdown_budget_limit",
      "candidate would breach drawdown budget"⟩
  else none

/-- Why the loop refuses a candidate, if it does. -/
def refusal [LinearOrder T] (env : ArtifactEnv K T) (clock : T × T)
    (candidates : List (PortfolioArtifactCandidate K)) (constraints : PortfolioConstraints K)
    (active_regimes : Dict String String) (st : PlanState K)
    (candidate : PortfolioArtifactCandidate K) : Option (Option PortfolioRejection) :=
  (candidate_rejection env clock candidate active_regimes).map fun rejection =>
    (rejection.or (crowding_rejection candidate st.allocations candidates constraints)).or
      (limit_rejection constraints st candidate)

/-! ## The loop -/

/-- The allocation of a candidate. -/
def allocation_of (candidate : PortfolioArtifactCandidate K) : PortfolioAllocation K where
  artifact_id := candidate.artifact_id
  strategy_id := candidate.strategy_id
  symbols := candidate.symbol_scope
  portfolio_role := candidate.portfolio_role
  notional := pyRound (requested_notional candidate) 8
  expected_return_bps := candidate.expected_return_bps
  max_drawdown := candidate.max_drawdown

/-- Adds an amount to every symbol of a scope, one occurrence after the other. -/
def add_exposure (symbols : List String) (per_symbol : K) (exposure_by_symbol : Dict String K) :
    Dict String K :=
  symbols.foldl (fun exposures symbol =>
    exposures.insert symbol (pyRound (exposure exposures symbol + per_symbol) 8)) exposure_by_symbol

/-- The part of the loop that allocates a candidate. -/
def allocate (constraints : PortfolioConstraints K) (st : PlanState K)
    (candidate : PortfolioArtifactCandidate K) : PlanState K where
  allocations := st.allocations ++ [allocation_of candidate]
  rejections := st.rejections
  exposure_by_symbol :=
    add_exposure candidate.symbol_scope (per_symbol_notional candidate) st.exposure_by_symbol
  notional_by_symbol :=
    candidate.symbol_scope.foldl (fun notionals symbol =>
      notionals.insert symbol (exposure (add_exposure candidate.symbol_scope
        (per_symbol_notional candidate) st.exposure_by_symbol) symbol)) st.notional_by_symbol
  drawdown_usage := drawdown_after constraints st candidate

/-- One candidate of the loop. -/
def plan_step [LinearOrder T] (env : ArtifactEnv K T) (clock : T × T)
    (candidates : List (PortfolioArtifactCandidate K)) (constraints : PortfolioConstraints K)
    (active_regimes : Dict String String) (st : PlanState K)
    (candidate : PortfolioArtifactCandidate K) : Option (PlanState K) :=
  (refusal env clock candidates constraints active_regimes st candidate).map fun
    | some rejection => { st with rejections := st.rejections ++ [rejection] }
    | none => allocate constraints st candidate

/-- The loop, from the candidate at position `n` on. -/
def plan_loop [LinearOrder T] (env : ArtifactEnv K T) (clock : ℕ → T × T)
    (candidates : List (PortfolioArtifactCandidate K)) (constraints : PortfolioConstraints K)
    (active_regimes : Dict String String) :
    ℕ → List (PortfolioArtifactCandidate K) → PlanState K → Option (PlanState K)
  | _, [], st => some st
  | n, candidate :: rest, st =>
      (plan_step env (clock n) candidates constraints active_regimes st candidate).bind
        (plan_loop env clock candidates constraints active_regimes (n + 1) rest)

/-- The state before the first candidate. -/
def initial_state : PlanState K where
  allocations := []
  rejections := []
  exposure_by_symbol := ∅
  notional_by_symbol := ∅
  drawdown_usage := 0

/-! ## The role pass -/

/-- The allocations of a role. -/
def role_rows (allocations : List (PortfolioAllocation K)) (role : String) :
    List (PortfolioAllocation K) :=
  allocations.filter fun allocation => allocation.portfolio_role = role

/-- `sorted(rows, key=lambda item: item.notional, reverse=True)`. -/
def largest_first (rows : List (PortfolioAllocation K)) : List (PortfolioAllocation K) :=
  rows.insertionSort fun a b => b.notional ≤ a.notional

/-- `_role_fraction_rejections`. -/
def role_fraction_rejections (allocations : List (PortfolioAllocation K))
    (constraints : PortfolioConstraints K) : List PortfolioRejection :=
  if 1 ≤ constraints.max_role_fraction ∨ allocations.length < 2 then []
  else if total_notional allocations ≤ 0 then []
  else
    (first_by id (allocations.map PortfolioAllocation.portfolio_role)).flatMap fun role =>
      let rows := role_rows allocations role
      if total_notional rows / total_notional allocations ≤ constraints.max_role_fraction then []
      else (largest_first rows).tail.map fun row =>
        ⟨row.artifact_id, "role_crowding_limit", "portfolio role " ++ role ++ " exceeds fraction limit"⟩

/-- `_exposure_from_allocations`. -/
def exposure_from_allocations (allocations : List (PortfolioAllocation K)) : Dict String K :=
  allocations.foldl (fun exposures allocation =>
    add_exposure allocation.symbols (allocation.notional / symbol_count allocation.symbols)
      exposures) ∅

/-- The state after the role pass. -/
def role_pass (constraints : PortfolioConstraints K) (st : PlanState K) : PlanState K :=
  let role_rejections := role_fraction_rejections st.allocations constraints
  if role_rejections.isEmpty then st
  else
    let rejected_ids := role_rejections.map PortfolioRejection.artifact_id
    let allocations := st.allocations.filter fun allocation => allocation.artifact_id ∉ rejected_ids
    let exposure_by_symbol := exposure_from_allocations allocations
    { allocations := allocations
      rejections := st.rejections ++ role_rejections
      exposure_by_symbol := exposure_by_symbol
      notional_by_symbol := exposure_by_symbol
      drawdown_usage := (allocations.map fun allocation =>
        allocation.notional / constraints.equity * allocation.max_drawdown).sum }

/-! ## The plan -/

/-- A dict of amounts as JSON. -/
def amounts (d : Dict String K) : JsonValue K :=
  .dict (d.entries.map fun entry => (entry.1, .float entry.2))

/-- Texts as JSON. -/
def texts_json (items : List String) : JsonValue K := .list (items.map JsonValue.str)

/-- `asdict(allocation)`. -/
def allocation_payload (allocation : PortfolioAllocation K) : JsonValue K :=
  .dict
    [("artifact_id", .str allocation.artifact_id), ("strategy_id", .str allocation.strategy_id),
      ("symbols", texts_json allocation.symbols),
      ("portfolio_role", .str allocation.portfolio_role), ("notional", .float allocation.notional),
      ("expected_return_bps", .float allocation.expected_return_bps),
      ("max_drawdown", .float allocation.max_drawdown)]

/-- `asdict(rejection)`. -/
def rejection_payload (rejection : PortfolioRejection) : JsonValue K :=
  .dict [("artifact_id", .str rejection.artifact_id), ("reason_code", .str rejection.reason_code),
    ("reason", .str rejection.reason)]

/-- `asdict(constraints)`. -/
def constraints_payload (constraints : PortfolioConstraints K) : JsonValue K :=
  .dict
    [("equity", .float constraints.equity),
      ("max_per_symbol_exposure", .float constraints.max_per_symbol_exposure),
      ("max_aggregate_leverage", .float constraints.max_aggregate_leverage),
      ("drawdown_budget", .float constraints.drawdown_budget),
      ("max_pairwise_correlation", .float constraints.max_pairwise_correlation),
      ("max_role_fraction", .float constraints.max_role_fraction)]

/-- `_candidate_payload`. -/
def candidate_payload (candidate : PortfolioArtifactCandidate K) : JsonObject K :=
  [("artifact_id", .str candidate.artifact_id), ("strategy_id", .str candidate.strategy_id),
    ("symbol_scope", texts_json candidate.symbol_scope),
    ("regime_scope", texts_json candidate.regime_scope),
    ("portfolio_role", .str candidate.portfolio_role),
    ("target_notional", .float candidate.target_notional),
    ("max_notional", .float candidate.max_notional),
    ("expected_return_bps", .float candidate.expected_return_bps),
    ("max_drawdown", .float candidate.max_drawdown),
    ("artifact_health", .str candidate.artifact_health), ("approved", .bool candidate.approved),
    ("paper_live_divergence_bps", .float candidate.paper_live_divergence_bps),
    ("stress_loss_by_scenario", amounts (candidate.stress_loss_by_scenario.getD ∅)),
    ("correlation_by_artifact", amounts (candidate.correlation_by_artifact.getD ∅)),
    ("artifact_payload", (candidate.artifact_payload.map JsonValue.dict).getD .null)]

/-- `plan_without_id`. -/
def plan_without_id (constraints : PortfolioConstraints K) (active_regimes : Dict String String)
    (st : PlanState K) : JsonValue K :=
  .dict
    [("allocations", .list (st.allocations.map allocation_payload)),
      ("rejections", .list (st.rejections.map rejection_payload)),
      ("constraints", constraints_payload constraints),
      ("active_regimes",
        .dict (active_regimes.entries.map fun entry => (entry.1, .str entry.2))),
      ("exposure_by_symbol", amounts st.exposure_by_symbol),
      ("drawdown_usage", .float (pyRound st.drawdown_usage 8))]

/-- `build_portfolio_plan`; `now` is `_now_utc()`. -/
def build_portfolio_plan [LinearOrder T] (env : ArtifactEnv K T) (clock : ℕ → T × T)
    (now : String) (candidates : List (PortfolioArtifactCandidate K))
    (constraints : PortfolioConstraints K) (active_regimes : Dict String String)
    (now_utc : Option String) : Option (PortfolioPlan K) :=
  (plan_loop env clock candidates constraints active_regimes 0 candidates initial_state).map
    fun looped =>
      let st := role_pass constraints looped
      let plan_hash := stable_hash env (plan_without_id constraints active_regimes st)
      let aggregate_leverage :=
        if constraints.equity ≤ 0 then 0 else total_notional st.allocations / constraints.equity
      { portfolio_plan_id := "portfolio-" ++ String.ofList (plan_hash.toList.take 16)
        accepted := ! st.allocations.isEmpty && st.rejections.isEmpty
        allocations := st.allocations
        rejections := st.rejections
        constraints := constraints
        active_regimes := active_regimes
        exposure_by_symbol := st.exposure_by_symbol
        notional_by_symbol := st.notional_by_symbol
        aggregate_leverage := pyRound aggregate_leverage 8
        drawdown_usage := pyRound st.drawdown_usage 8
        created_at_utc := (now_utc.filter (· ≠ "")).getD now
        candidate_payloads := candidates.map candidate_payload }

end Refusals

end ProofAlpha.Portfolio
