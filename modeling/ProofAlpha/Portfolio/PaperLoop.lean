/-
The paper portfolio loop: `run_paper_portfolio_allocator_tick` of
`portfolio/paper_loop.py`.

A tick reads the exposure of the session from the recorded order telemetry, makes
a candidate of every artifact of the session, resizes what it asks for, builds a
portfolio plan and a target portfolio from it, and orders the difference between
the targets and the exposure. It writes the plan, the link of the session to it
and a journal entry.

The JSON columns are decoded values, an empty column is `none`. A row of
`order_telemetry` is written from an intent, so it has a symbol. An error is the
text of the exception.
-/
import ProofAlpha.Lib.PyJson
import ProofAlpha.Portfolio.DeltaOrderPlan

set_option autoImplicit false

namespace ProofAlpha.Portfolio

open ProofAlpha.Lib
open ProofAlpha.Strategy

/-! ## The memory database -/

/-- A row of `paper_session_artifacts`. -/
structure SessionArtifactRow (K : Type) where
  lifecycle_state : Option String
  status : String
  payload : Option (JsonValue K)

/-- A row of `artifacts`. -/
structure ArtifactRow (K : Type) where
  strategy_id : String
  rollout_stage : Option String
  approved : ℤ
  payload : Option (JsonValue K)

/-- A row of `live_metrics`. -/
structure LiveMetricRow (K : Type) where
  metric_id : String
  artifact_id : Option String
  ts_utc : String
  metric_name : String
  metric_value : Option K

/-- A row of `order_telemetry`. -/
structure OrderTelemetryRow (K : Type) where
  session_id : Option String
  symbol : String
  side : OrderSide
  qty_filled : Option K
  live_vwap_price : Option K
  was_rejected : Option ℤ
  risk_blocked : Option ℤ

/-- A row of `portfolio_plans`. -/
structure PortfolioPlanRow where
  status : String
  created_at_utc : String

/-- A row of `paper_portfolio_decisions`. -/
structure DecisionRow where
  session_id : String
  portfolio_plan_id : String
  ts_utc : String
  interval_seconds : ℤ
  status : String
  reason_code : String

/-- The tables that a tick reads or writes; `paper_sessions` holds the plan that
each session is linked to. -/
structure LoopDb (K : Type) where
  paper_sessions : Dict String (Option String)
  paper_session_artifacts : Dict (String × String) (SessionArtifactRow K)
  artifacts : Dict String (ArtifactRow K)
  live_metrics : List (LiveMetricRow K)
  order_telemetry : List (OrderTelemetryRow K)
  portfolio_plans : Dict String PortfolioPlanRow
  paper_portfolio_decisions : Dict String DecisionRow

/-- `PaperPortfolioLoopConfig`. -/
structure PaperPortfolioLoopConfig (K : Type) where
  session_id : String
  constraints : JsonObject K
  active_regimes : Dict String String
  interval_seconds : ℤ
  min_calibration_samples : ℤ
  max_paper_slip_bps : K

/-- What a tick reads from the clock. -/
structure TickClock (T : Type) where
  authority : ℕ → T × T
  plan_utc : String
  journal_utc : String

/-- The result of a tick, less its dashboard. -/
structure TickResult (K : Type) where
  status : String
  session_id : String
  portfolio_plan_id : String
  interval_seconds : ℤ
  allocations : List (PortfolioAllocation K)
  rejections : List PortfolioRejection
  current_exposure_by_symbol : Dict String K
  target_portfolio : TargetPortfolio K
  delta_order_plan : DeltaOrderPlan K
  internal_order_intents : List (DeltaIntent K)
  resized_targets : Dict String K
  loop_rejections : Dict String (List String)
  candidate_count : ℕ

/-! ## Payloads -/

section Payloads

variable {K : Type} [Field K] [DecidableEq K]

/-- `_merge_payloads`. -/
def merge_payloads (raw_values : List (Option (JsonValue K))) : Dict String (JsonValue K) :=
  raw_values.foldl (fun merged raw => match raw with
    | some (.dict payload) =>
        payload.foldl (fun merged field => merged.insert field.1 field.2) merged
    | _ => merged) ∅

/-- `payload.get(key)`. -/
def payload_get (payload : Dict String (JsonValue K)) (key : String) : JsonValue K :=
  (payload.lookup key).getD .null

/-- `float(value)`. -/
def float_value (texts : PyTexts K) (value : JsonValue K) : Except String K :=
  match float_or_none texts.parse_float value with
  | some x => .ok x
  | none => match value with
    | .str _ => .error "could not convert string to float"
    | _ => .error "float() argument must be a string or a real number"

/-- `float(value or default)`, `none` where the default is taken. -/
def float_if_given (texts : PyTexts K) (value : JsonValue K) : Except String (Option K) :=
  if truthy value then (float_value texts value).map some else .ok none

/-- `_string_tuple`. -/
def string_tuple (texts : PyTexts K) : JsonValue K → List String
  | .list items => (items.map (py_str texts.composite_text)).filter (· ≠ "")
  | .str text => if text = "" then [] else [text]
  | _ => []

/-- `_dict_of_float`. -/
def dict_of_float (texts : PyTexts K) : JsonValue K → Except String (Dict String K)
  | .dict fields => fields.foldlM (fun amounts field =>
      (float_value texts field.2).map fun x => amounts.insert field.1 x) ∅
  | _ => .ok ∅

/-- `float(payload[key])`. -/
def required_float (texts : PyTexts K) (payload : JsonObject K) (key : String) :
    Except String K :=
  match List.lookup key payload with
  | some value => float_value texts value
  | none => .error ("'" ++ key ++ "'")

/-- `_constraints_from_payload`. -/
def constraints_from_payload (texts : PyTexts K) (payload : JsonObject K) :
    Except String (PortfolioConstraints K) := do
  pure
    { equity := ← required_float texts payload "equity"
      max_per_symbol_exposure := ← required_float texts payload "max_per_symbol_exposure"
      max_aggregate_leverage := ← required_float texts payload "max_aggregate_leverage"
      drawdown_budget := ← required_float texts payload "drawdown_budget"
      max_pairwise_correlation := ← required_float texts payload "max_pairwise_correlation"
      max_role_fraction :=
        ← float_value texts (JsonObject.get_or payload "max_role_fraction" (.float 1)) }

end Payloads

section Loop

variable {K T : Type} [Field K] [LinearOrder K] [FloorRing K]

/-! ## Telemetry -/

/-- `qty_filled * live_vwap_price`, `none` for SQL's NULL. -/
def filled_notional (row : OrderTelemetryRow K) : Option K :=
  row.qty_filled.bind fun qty => row.live_vwap_price.map fun price => qty * price

/-- The rows of a session that `_load_current_exposure` counts. -/
def exposure_rows (telemetry : List (OrderTelemetryRow K)) (session_id : String) :
    List (OrderTelemetryRow K) :=
  telemetry.filter fun row =>
    row.was_rejected.getD 0 = 0 ∧ row.risk_blocked.getD 0 = 0 ∧ row.session_id = some session_id

/-- `COALESCE(SUM(ABS(qty_filled * live_vwap_price)), 0)` of a symbol. -/
def recorded_notional (telemetry : List (OrderTelemetryRow K)) (session_id symbol : String) : K :=
  (((exposure_rows telemetry session_id).filter fun row => row.symbol = symbol).map
    fun row => |(filled_notional row).getD 0|).sum

/-- `_load_current_exposure`. -/
def load_current_exposure (telemetry : List (OrderTelemetryRow K)) (session_id : String) :
    Dict String K :=
  (sorted_set ((exposure_rows telemetry session_id).map OrderTelemetryRow.symbol)).foldl
    (fun exposures symbol =>
      exposures.insert symbol (pyRound (recorded_notional telemetry session_id symbol) 8)) ∅

/-- The metrics that the loop reads, in the order of the query. -/
def metric_rows (live_metrics : List (LiveMetricRow K)) : List (LiveMetricRow K) :=
  (live_metrics.filter fun row =>
      row.metric_name ∈ ["paper_live_sample_count", "paper_live_max_abs_slip_bps"]).insertionSort
    fun a b => a.ts_utc < b.ts_utc ∨ a.ts_utc = b.ts_utc ∧ a.metric_id ≤ b.metric_id

/-- `_load_paper_telemetry`. -/
def load_paper_telemetry (live_metrics : List (LiveMetricRow K)) : Dict String (Dict String K) :=
  (metric_rows live_metrics).foldl (fun result row =>
    let artifact_id := row.artifact_id.getD "None"
    result.insert artifact_id
      (((result.lookup artifact_id).getD ∅).insert row.metric_name (row.metric_value.getD 0))) ∅

/-- A metric of an artifact. -/
def metric (telemetry : Dict String (Dict String K)) (artifact_id metric_name : String) : K :=
  (((telemetry.lookup artifact_id).getD ∅).lookup metric_name).getD 0

/-- `_loop_rejection_reasons`. -/
def loop_rejection_reasons (texts : PyTexts K) (telemetry : Dict String (Dict String K))
    (artifact_id : String) (min_calibration_samples : ℤ) (max_paper_slip_bps : K) : List String :=
  let sample_count := truncate (metric telemetry artifact_id "paper_live_sample_count")
  let max_slip := |metric telemetry artifact_id "paper_live_max_abs_slip_bps"|
  reason_if (sample_count < min_calibration_samples)
      ("insufficient_paper_samples:" ++ toString sample_count ++ "<"
        ++ toString min_calibration_samples)
    ++ reason_if (max_paper_slip_bps < max_slip)
      ("paper_slip_too_wide:" ++ py_str texts.composite_text (.float max_slip) ++ ">"
        ++ py_str texts.composite_text (.float max_paper_slip_bps))

/-! ## Candidates -/

/-- `allowed_per_symbol`: the room that the exposure leaves under the cap. -/
def allowed_on (constraints : PortfolioConstraints K) (current_exposure : Dict String K)
    (symbol : String) : K :=
  max 0 (constraints.max_per_symbol_exposure - exposure current_exposure symbol)

/-- `_resize_target_for_current_exposure`. -/
def resize_target_for_current_exposure (target : K) (symbol_scope : List String)
    (constraints : PortfolioConstraints K) (current_exposure : Dict String K) : K :=
  match symbol_scope with
  | [] => target
  | symbol :: rest =>
      let allowed := (rest.map (allowed_on constraints current_exposure)).foldl min
        (allowed_on constraints current_exposure symbol)
      if target / symbol_count symbol_scope ≤ allowed then target
      else pyRound (min target (allowed * symbol_count symbol_scope)) 8

/-- The numbers that the payload of a candidate gives. -/
structure CandidateNumbers (K : Type) where
  target_notional : K
  max_notional : Option K
  expected_return_bps : K
  max_drawdown : K
  stress_loss_by_scenario : Dict String K
  correlation_by_artifact : Dict String K

/-- The conversions of `_load_candidates`. -/
def candidate_numbers (texts : PyTexts K) (payload : Dict String (JsonValue K)) :
    Except String (CandidateNumbers K) := do
  pure
    { target_notional := (← float_if_given texts (payload_get payload "target_notional")).getD 0
      max_notional := ← float_if_given texts (payload_get payload "max_notional")
      expected_return_bps :=
        (← float_if_given texts (payload_get payload "expected_return_bps")).getD 0
      max_drawdown := (← float_if_given texts (payload_get payload "max_drawdown")).getD 0
      stress_loss_by_scenario :=
        ← dict_of_float texts (payload_get payload "stress_loss_by_scenario")
      correlation_by_artifact :=
        ← dict_of_float texts (payload_get payload "correlation_by_artifact") }

/-- The first text that is there and not empty. -/
def first_text : List (Option String) → String → String
  | [], default => default
  | some text :: rest, default => if text = "" then first_text rest default else text
  | none :: rest, default => first_text rest default

/-- What the loop of `_load_candidates` adds for an artifact of the session. -/
structure LoadedCandidate (K : Type) where
  candidate : PortfolioArtifactCandidate K
  resized : Option K
  reasons : List String

/-- One row of `_load_candidates`, of the artifact `artifact_id`. -/
def load_candidate (texts : PyTexts K) (config : PaperPortfolioLoopConfig K)
    (constraints : PortfolioConstraints K) (telemetry : Dict String (Dict String K))
    (artifacts : Dict String (ArtifactRow K)) (current_exposure : Dict String K)
    (row : String × SessionArtifactRow K) : Except String (LoadedCandidate K) := do
  let artifact_id := row.1
  let artifact := artifacts.lookup artifact_id
  let payload := merge_payloads [artifact.bind ArtifactRow.payload, row.2.payload]
  let reasons := loop_rejection_reasons texts telemetry artifact_id
    config.min_calibration_samples config.max_paper_slip_bps
  let symbol_scope := string_tuple texts (payload_get payload "symbol_scope")
  let numbers ← candidate_numbers texts payload
  let target := numbers.target_notional
  let resized := resize_target_for_current_exposure target symbol_scope constraints current_exposure
  let health := first_text [artifact.bind ArtifactRow.rollout_stage, row.2.lifecycle_state] "paper"
  pure
    { candidate :=
        { artifact_id := artifact_id
          strategy_id := first_text [artifact.map ArtifactRow.strategy_id]
            (text_or texts.composite_text (payload_get payload "strategy_id") artifact_id)
          symbol_scope := symbol_scope
          regime_scope := string_tuple texts (payload_get payload "regime_scope")
          portfolio_role :=
            text_or texts.composite_text (payload_get payload "portfolio_role") "core"
          target_notional := resized
          max_notional :=
            if resized < target then min (numbers.max_notional.getD resized) resized
            else numbers.max_notional.getD target
          expected_return_bps := numbers.expected_return_bps
          max_drawdown := numbers.max_drawdown
          artifact_health :=
            if row.2.status ≠ "active" ∨ reasons ≠ [] then "sample_guarded" else health
          approved := (artifact.map fun found => decide (found.approved ≠ 0)).getD true
          paper_live_divergence_bps := metric telemetry artifact_id "paper_live_max_abs_slip_bps"
          stress_loss_by_scenario := some numbers.stress_loss_by_scenario
          correlation_by_artifact := some numbers.correlation_by_artifact
          artifact_payload := none }
      resized := if resized < target then some (pyRound resized 8) else none
      reasons := reasons }

/-- The artifacts of a session, in the order of the query. -/
def session_rows (db : LoopDb K) (session_id : String) : List (String × SessionArtifactRow K) :=
  ((db.paper_session_artifacts.entries.filter fun item => item.1.1 = session_id).map
    fun item => (item.1.2, item.2)).insertionSort fun a b => a.1 ≤ b.1

/-- `_load_candidates`. -/
def load_candidates (texts : PyTexts K) (config : PaperPortfolioLoopConfig K)
    (constraints : PortfolioConstraints K) (db : LoopDb K) :
    Except String (List (LoadedCandidate K)) := do
  require (decide (config.session_id ∈ db.paper_sessions))
    ("paper session not found: " ++ config.session_id)
  (session_rows db config.session_id).mapM (load_candidate texts config constraints
    (load_paper_telemetry db.live_metrics) db.artifacts
    (load_current_exposure db.order_telemetry config.session_id))

/-! ## The tick -/

/-- `"accepted" if plan.accepted else "rejected"`. -/
def plan_status (plan : PortfolioPlan K) : String := if plan.accepted then "accepted" else "rejected"

/-- The result of a tick, from the candidates, the plan and the target portfolio. -/
def tick_result (env : ArtifactEnv K T) (config : PaperPortfolioLoopConfig K)
    (current_exposure : Dict String K) (loaded : List (LoadedCandidate K)) (plan : PortfolioPlan K)
    (target_portfolio : TargetPortfolio K) : TickResult K :=
  let delta_order_plan := build_delta_order_plan env target_portfolio.target_portfolio_id
    current_exposure target_portfolio.symbol_targets {}
  { status := plan_status plan
    session_id := config.session_id
    portfolio_plan_id := plan.portfolio_plan_id
    interval_seconds := config.interval_seconds
    allocations := plan.allocations
    rejections := plan.rejections
    current_exposure_by_symbol := current_exposure
    target_portfolio := target_portfolio
    delta_order_plan := delta_order_plan
    internal_order_intents := to_internal_order_intents delta_order_plan
    resized_targets := loaded.foldl (fun resized item => match item.resized with
      | some target => resized.insert item.candidate.artifact_id target
      | none => resized) ∅
    loop_rejections := loaded.foldl (fun rejections item =>
      if item.reasons = [] then rejections
      else rejections.insert item.candidate.artifact_id item.reasons) ∅
    candidate_count := loaded.length }

/-- The writes of a tick: `persist_portfolio_plan`, `_link_session_plan` and
`_journal_decision`. -/
def tick_writes (env : ArtifactEnv K T) (clock : TickClock T) (config : PaperPortfolioLoopConfig K)
    (plan : PortfolioPlan K) (result : TickResult K) (db : LoopDb K) : LoopDb K :=
  let decision_id := "paper-portfolio-" ++ String.ofList ((stable_hash env (.dict
    [("session_id", .str config.session_id), ("plan", .str result.portfolio_plan_id),
      ("ts", .str clock.journal_utc)])).toList.take 16)
  { db with
    portfolio_plans := db.portfolio_plans.insert plan.portfolio_plan_id
      { status := plan_status plan, created_at_utc := plan.created_at_utc }
    paper_sessions := if config.session_id ∈ db.paper_sessions
      then db.paper_sessions.insert config.session_id (some plan.portfolio_plan_id)
      else db.paper_sessions
    paper_portfolio_decisions := db.paper_portfolio_decisions.insert decision_id
      { session_id := config.session_id
        portfolio_plan_id := result.portfolio_plan_id
        ts_utc := clock.journal_utc
        interval_seconds := config.interval_seconds
        status := result.status
        reason_code := "paper_portfolio_loop_tick" } }

/-- `run_paper_portfolio_allocator_tick`. -/
def run_paper_portfolio_allocator_tick [LinearOrder T] (env : ArtifactEnv K T) (texts : PyTexts K)
    (clock : TickClock T) (config : PaperPortfolioLoopConfig K) (db : LoopDb K) :
    Except String (LoopDb K × TickResult K) := do
  let constraints ← constraints_from_payload texts config.constraints
  let current_exposure := load_current_exposure db.order_telemetry config.session_id
  let loaded ← load_candidates texts config constraints db
  match build_portfolio_plan env clock.authority clock.plan_utc
      (loaded.map LoadedCandidate.candidate) constraints config.active_regimes none with
  | none => .error "unhashable type"
  | some plan => do
      let target_portfolio ← build_target_portfolio env "paper-session" plan.portfolio_plan_id
        constraints.equity plan.allocations {}
      let result := tick_result env config current_exposure loaded plan target_portfolio
      pure (tick_writes env clock config plan result db, result)

/-! ## What a tick reads and leaves -/

/-- A tick that returns has got through each of its parts. -/
theorem tick_eq_ok_iff [LinearOrder T] {env : ArtifactEnv K T} {texts : PyTexts K}
    {clock : TickClock T} {config : PaperPortfolioLoopConfig K} {db db' : LoopDb K}
    {result : TickResult K} :
    run_paper_portfolio_allocator_tick env texts clock config db = .ok (db', result) ↔
      ∃ constraints loaded plan target_portfolio,
        constraints_from_payload texts config.constraints = .ok constraints
        ∧ load_candidates texts config constraints db = .ok loaded
        ∧ build_portfolio_plan env clock.authority clock.plan_utc
          (loaded.map LoadedCandidate.candidate) constraints config.active_regimes none = some plan
        ∧ build_target_portfolio env "paper-session" plan.portfolio_plan_id constraints.equity
          plan.allocations {} = .ok target_portfolio
        ∧ result = tick_result env config (load_current_exposure db.order_telemetry config.session_id)
          loaded plan target_portfolio
        ∧ db' = tick_writes env clock config plan result db := by
  constructor
  · intro h
    obtain ⟨constraints, hconstraints, h⟩ := bind_ok h
    obtain ⟨loaded, hloaded, h⟩ := bind_ok h
    cases hplan : build_portfolio_plan env clock.authority clock.plan_utc
        (loaded.map LoadedCandidate.candidate) constraints config.active_regimes none with
    | none =>
        rw [hplan] at h
        cases h
    | some plan =>
        rw [hplan] at h
        obtain ⟨target_portfolio, htarget, h⟩ := bind_ok h
        cases h
        exact ⟨constraints, loaded, plan, target_portfolio, hconstraints, hloaded, hplan, htarget,
          rfl, rfl⟩
  · rintro ⟨constraints, loaded, plan, target_portfolio, hconstraints, hloaded, hplan, htarget,
      rfl, rfl⟩
    unfold run_paper_portfolio_allocator_tick
    rw [hconstraints, ok_bind]
    dsimp only
    rw [hloaded, ok_bind, hplan]
    dsimp only
    rw [htarget, ok_bind]
    rfl

/-- The exposure of a symbol is what is recorded of it, rounded. -/
theorem exposure_load_current_exposure [IsStrictOrderedRing K]
    (telemetry : List (OrderTelemetryRow K)) (session_id symbol : String) :
    exposure (load_current_exposure telemetry session_id) symbol
      = pyRound (recorded_notional telemetry session_id symbol) 8 := by
  rw [exposure, load_current_exposure, Dict.lookup_foldl_insert_of_key]
  split_ifs with hsymbol
  · rfl
  · have hnone : (exposure_rows telemetry session_id).filter (fun row => row.symbol = symbol) = [] := by
      rw [List.filter_eq_nil_iff]
      intro row hrow hsame
      rw [mem_sorted_set] at hsymbol
      exact hsymbol (List.mem_map.mpr ⟨row, hrow, of_decide_eq_true hsame⟩)
    rw [recorded_notional, hnone, List.map_nil, List.sum_nil, (decimal_zero 8).pyRound_eq]
    rfl

omit [FloorRing K] in
/-- Rows that are recorded later add up. -/
theorem recorded_notional_append (telemetry fills : List (OrderTelemetryRow K))
    (session_id symbol : String) :
    recorded_notional (telemetry ++ fills) session_id symbol
      = recorded_notional telemetry session_id symbol
        + recorded_notional fills session_id symbol := by
  rw [recorded_notional, exposure_rows, List.filter_append, List.filter_append, List.map_append,
    List.sum_append]
  rfl

end Loop

end ProofAlpha.Portfolio
