/-
When the paper portfolio loop comes to rest.

A tick orders the difference between targets and recorded exposure; once its
orders are filled and recorded, the next tick should order nothing. Two things
stand in the way. The exposure is the sum of the absolute notionals of all fills,
so a sale adds to it. And the room under the per-symbol cap is what the session's
own exposure leaves, so a fill can shrink what a candidate asks for.

`next_tick_orders_nothing_iff` is about fills that change no request: the next
tick orders nothing exactly if the orders were all purchases and no recorded sum
lies half-way between two amounts of 8 decimals that the rounding tells apart.
-/
import ProofAlpha.Portfolio.PaperLoop

set_option autoImplicit false

namespace ProofAlpha.Portfolio

open ProofAlpha.Lib
open ProofAlpha.Strategy

section Loop

variable {K T : Type} [Field K] [LinearOrder K] [FloorRing K]

/-! ## A plan depends on the requests

A candidate that is refused on its own account is refused whatever it asks for.
`at_request` keeps of the two amounts of a candidate the one that the plan uses. -/

/-- No check of `_candidate_rejection` refuses a candidate without a payload. -/
def is_eligible (active_regimes : Dict String String) (candidate : PortfolioArtifactCandidate K) :
    Bool :=
  candidate.approved && (scope_rejection candidate active_regimes).isNone

/-- What a candidate asks for, if it is looked at. -/
def live_request (active_regimes : Dict String String) (candidate : PortfolioArtifactCandidate K) :
    Option K :=
  if is_eligible active_regimes candidate then some (requested_notional candidate) else none

/-- The candidate with an amount as target and maximum. -/
def at_amount (candidate : PortfolioArtifactCandidate K) (amount : K) :
    PortfolioArtifactCandidate K :=
  { candidate with target_notional := amount, max_notional := amount }

/-- The candidate with what it asks for as target and maximum. -/
def at_request (active_regimes : Dict String String) (candidate : PortfolioArtifactCandidate K) :
    PortfolioArtifactCandidate K :=
  at_amount candidate ((live_request active_regimes candidate).getD 0)

omit [FloorRing K] in
/-- Candidates that differ in their amounts only, and ask for the same. -/
theorem at_request_congr {active_regimes : Dict String String}
    {candidate candidate' : PortfolioArtifactCandidate K}
    (hfields : candidate' = { candidate with
      target_notional := candidate'.target_notional
      max_notional := candidate'.max_notional })
    (hrequest : live_request active_regimes candidate' = live_request active_regimes candidate) :
    at_request active_regimes candidate' = at_request active_regimes candidate := by
  unfold at_request
  rw [hrequest, hfields]
  rfl

section Amount

variable (candidate : PortfolioArtifactCandidate K)

omit [FloorRing K] [Field K] in
theorem requested_at_amount (amount : K) :
    requested_notional (at_amount candidate amount) = amount :=
  min_self amount

theorem allocation_of_at_amount :
    allocation_of (at_amount candidate (requested_notional candidate)) = allocation_of candidate := by
  rw [allocation_of, requested_at_amount]
  rfl

omit [FloorRing K] in
theorem per_symbol_at_amount :
    per_symbol_notional (at_amount candidate (requested_notional candidate))
      = per_symbol_notional candidate := by
  rw [per_symbol_notional, requested_at_amount]
  rfl

variable (constraints : PortfolioConstraints K) (st : PlanState K)

omit [FloorRing K] in
theorem drawdown_after_at_amount :
    drawdown_after constraints st (at_amount candidate (requested_notional candidate))
      = drawdown_after constraints st candidate := by
  rw [drawdown_after, requested_at_amount]
  rfl

omit [FloorRing K] in
theorem limit_rejection_at_amount :
    limit_rejection constraints st (at_amount candidate (requested_notional candidate))
      = limit_rejection constraints st candidate := by
  unfold limit_rejection
  rw [requested_at_amount, per_symbol_at_amount, drawdown_after_at_amount]
  rfl

theorem allocate_at_amount :
    allocate constraints st (at_amount candidate (requested_notional candidate))
      = allocate constraints st candidate := by
  unfold allocate
  rw [allocation_of_at_amount, per_symbol_at_amount, drawdown_after_at_amount]
  rfl

end Amount

omit [FloorRing K] in
theorem crowding_rejection_at_request (active_regimes : Dict String String)
    (allocations : List (PortfolioAllocation K)) (candidates : List (PortfolioArtifactCandidate K))
    (constraints : PortfolioConstraints K) (candidate : PortfolioArtifactCandidate K) :
    crowding_rejection (at_request active_regimes candidate) allocations
        (candidates.map (at_request active_regimes)) constraints
      = crowding_rejection candidate allocations candidates constraints := by
  have hcorrelation : ∀ allocation, crowding_correlation (candidates.map (at_request active_regimes))
      (at_request active_regimes candidate) allocation
        = crowding_correlation candidates candidate allocation := by
    intro allocation
    unfold crowding_correlation
    rw [← List.map_reverse, List.find?_map, Option.bind_map]
    rfl
  unfold crowding_rejection
  simp only [hcorrelation]
  rfl

variable [LinearOrder T]

omit [FloorRing K] in
/-- The checks of a candidate without a payload. -/
theorem candidate_rejection_eq (env : ArtifactEnv K T) (time : T × T)
    {active_regimes : Dict String String} {candidate : PortfolioArtifactCandidate K}
    (hpayload : candidate.artifact_payload = none) :
    candidate_rejection env time candidate active_regimes
      = some (if candidate.approved then scope_rejection candidate active_regimes
        else some ⟨candidate.artifact_id, "artifact_not_approved", "artifact is not approved"⟩) := by
  rw [candidate_rejection, hpayload]
  cases candidate.approved with
  | true => rfl
  | false => rfl

/-- A candidate without a payload is looked at without the clock. -/
theorem plan_step_at_request (env : ArtifactEnv K T) (time time' : T × T)
    (candidates : List (PortfolioArtifactCandidate K)) (constraints : PortfolioConstraints K)
    (active_regimes : Dict String String) (st : PlanState K)
    {candidate : PortfolioArtifactCandidate K} (hpayload : candidate.artifact_payload = none) :
    plan_step env time' (candidates.map (at_request active_regimes)) constraints active_regimes st
        (at_request active_regimes candidate)
      = plan_step env time candidates constraints active_regimes st candidate := by
  have hrejection : candidate_rejection env time' (at_request active_regimes candidate)
      active_regimes = candidate_rejection env time candidate active_regimes := by
    rw [candidate_rejection_eq env time hpayload, candidate_rejection_eq env time']
    · rfl
    · exact hpayload
  unfold plan_step refusal
  rw [hrejection, candidate_rejection_eq env time hpayload, crowding_rejection_at_request]
  cases helig : is_eligible active_regimes candidate with
  | false =>
      -- a candidate that is refused on its own account, with the same reason
      cases happroved : candidate.approved with
      | false => rfl
      | true =>
          rw [is_eligible, happroved, Bool.true_and, Option.isNone_eq_false_iff] at helig
          obtain ⟨rejection, hscope⟩ := Option.isSome_iff_exists.mp helig
          rw [if_pos rfl, hscope]
          rfl
  | true =>
      have hrequest : at_request active_regimes candidate
          = at_amount candidate (requested_notional candidate) := by
        rw [at_request, live_request, if_pos helig]
        rfl
      rw [hrequest, limit_rejection_at_amount, allocate_at_amount]

theorem plan_loop_at_request (env : ArtifactEnv K T) (clock clock' : ℕ → T × T)
    (candidates : List (PortfolioArtifactCandidate K)) (constraints : PortfolioConstraints K)
    (active_regimes : Dict String String) (rest : List (PortfolioArtifactCandidate K)) :
    ∀ (n : ℕ) (st : PlanState K), (∀ candidate ∈ rest, candidate.artifact_payload = none) →
      plan_loop env clock' (candidates.map (at_request active_regimes)) constraints active_regimes n
          (rest.map (at_request active_regimes)) st
        = plan_loop env clock candidates constraints active_regimes n rest st := by
  induction rest with
  | nil =>
      intro n st _
      rfl
  | cons candidate rest ih =>
      intro n st hpayload
      rw [List.map_cons, plan_loop, plan_loop,
        plan_step_at_request env (clock n) (clock' n) candidates constraints active_regimes st
          (hpayload candidate (List.mem_cons_self ..))]
      congr 1
      funext st'
      exact ih (n + 1) st' fun other hother => hpayload other (List.mem_cons_of_mem candidate hother)

/-- Candidates without payloads that ask for the same get the same allocations,
whatever the clock says. -/
theorem build_portfolio_plan_congr (env : ArtifactEnv K T) {clock clock' : ℕ → T × T}
    {now now' : String} {candidates candidates' : List (PortfolioArtifactCandidate K)}
    {constraints : PortfolioConstraints K} {active_regimes : Dict String String}
    {plan : PortfolioPlan K} (hsame : candidates'.map (at_request active_regimes) = candidates.map (at_request active_regimes))
    (hpayload : ∀ candidate ∈ candidates, candidate.artifact_payload = none)
    (hpayload' : ∀ candidate ∈ candidates', candidate.artifact_payload = none)
    (hplan : build_portfolio_plan env clock now candidates constraints active_regimes none
      = some plan) :
    ∃ plan', build_portfolio_plan env clock' now' candidates' constraints active_regimes none
        = some plan'
      ∧ plan'.portfolio_plan_id = plan.portfolio_plan_id ∧ plan'.allocations = plan.allocations := by
  have hloop : plan_loop env clock' candidates' constraints active_regimes 0 candidates'
      initial_state
        = plan_loop env clock candidates constraints active_regimes 0 candidates initial_state := by
    rw [← plan_loop_at_request env clock clock candidates constraints active_regimes candidates 0 _
        hpayload, ← hsame,
      plan_loop_at_request env clock' clock candidates' constraints active_regimes candidates' 0 _
        hpayload']
  unfold build_portfolio_plan at hplan ⊢
  rw [hloop]
  obtain ⟨st, hst, hplan⟩ := Option.map_eq_some_iff.mp hplan
  rw [hst, ← hplan]
  exact ⟨_, rfl, rfl, rfl⟩

/-! ## Candidates under two exposures -/

omit [LinearOrder T] in
/-- The exposure decides nothing about a candidate but its two amounts. -/
theorem load_candidate_at_request {texts : PyTexts K} {config : PaperPortfolioLoopConfig K}
    {constraints : PortfolioConstraints K} {telemetry : Dict String (Dict String K)}
    {artifacts : Dict String (ArtifactRow K)} {before after : Dict String K}
    {row : String × SessionArtifactRow K}
    (h : (load_candidate texts config constraints telemetry artifacts after row).map
        (fun loaded => live_request config.active_regimes loaded.candidate)
      = (load_candidate texts config constraints telemetry artifacts before row).map
        fun loaded => live_request config.active_regimes loaded.candidate) :
    (load_candidate texts config constraints telemetry artifacts after row).map
        (fun loaded => at_request config.active_regimes loaded.candidate)
      = (load_candidate texts config constraints telemetry artifacts before row).map
        fun loaded => at_request config.active_regimes loaded.candidate := by
  unfold load_candidate at h ⊢
  dsimp only at h ⊢
  cases hnumbers : candidate_numbers texts
      (merge_payloads [(artifacts.lookup row.1).bind ArtifactRow.payload, row.2.payload]) with
  | error message => rfl
  | ok numbers =>
      rw [hnumbers] at h
      exact congrArg Except.ok (at_request_congr rfl (Except.ok.inj h))

omit [LinearOrder T] in
/-- The loop knows no artifact payloads. -/
theorem load_candidate_payload {texts : PyTexts K} {config : PaperPortfolioLoopConfig K}
    {constraints : PortfolioConstraints K} {telemetry : Dict String (Dict String K)}
    {artifacts : Dict String (ArtifactRow K)} {current_exposure : Dict String K}
    (row : String × SessionArtifactRow K) (loaded : LoadedCandidate K)
    (h : load_candidate texts config constraints telemetry artifacts current_exposure row
      = .ok loaded) : loaded.candidate.artifact_payload = none := by
  obtain ⟨numbers, -, h⟩ := bind_ok h
  cases h
  rfl

/-! ## Executing a plan -/

/-- A telemetry row of a fill of an action: it counts for the session, is on the
symbol and the side of the action, and has a quantity and a price. -/
structure FillOf (session_id : String) (action : DeltaAction K) (row : OrderTelemetryRow K) :
    Prop where
  session : row.session_id = some session_id
  not_rejected : row.was_rejected.getD 0 = 0
  not_blocked : row.risk_blocked.getD 0 = 0
  symbol : row.symbol = action.symbol
  side : row.side = action.side
  filled : ∃ qty price, row.qty_filled = some qty ∧ row.live_vwap_price = some price
    ∧ 0 ≤ qty ∧ 0 ≤ price

/-- The rows are fills of the actions, and the fills of every action come to its
notional. -/
structure ExecutedExactly (session_id : String) (actions : List (DeltaAction K))
    (fills : List (OrderTelemetryRow K)) : Prop where
  of_action : ∀ fill ∈ fills, ∃ action ∈ actions, FillOf session_id action fill
  complete : ∀ action ∈ actions,
    ((fills.filter fun fill => fill.symbol = action.symbol).map
      fun fill => (filled_notional fill).getD 0).sum = |action.delta_notional|

/-- The database with rows recorded in `order_telemetry`. -/
def record_fills (fills : List (OrderTelemetryRow K)) (db : LoopDb K) : LoopDb K :=
  { db with order_telemetry := db.order_telemetry ++ fills }

section Executed

variable {session_id : String} {actions : List (DeltaAction K)} {fills : List (OrderTelemetryRow K)}

omit [FloorRing K] in
theorem FillOf.notional_nonneg [IsStrictOrderedRing K] {action : DeltaAction K}
    {row : OrderTelemetryRow K} (h : FillOf session_id action row) :
    0 ≤ (filled_notional row).getD 0 := by
  obtain ⟨qty, price, hqty, hprice, hqty_nonneg, hprice_nonneg⟩ := h.filled
  rw [filled_notional, hqty, hprice]
  exact mul_nonneg hqty_nonneg hprice_nonneg

omit [FloorRing K] in
/-- All fills of an execution count. -/
theorem ExecutedExactly.exposure_rows_eq (h : ExecutedExactly session_id actions fills) :
    exposure_rows fills session_id = fills := by
  rw [exposure_rows, List.filter_eq_self]
  intro fill hfill
  obtain ⟨action, -, hof⟩ := h.of_action fill hfill
  exact decide_eq_true ⟨hof.not_rejected, hof.not_blocked, hof.session⟩

omit [FloorRing K] in
/-- What is recorded of an executed action, on either side. -/
theorem ExecutedExactly.recorded_of_action [IsStrictOrderedRing K]
    (h : ExecutedExactly session_id actions fills) {action : DeltaAction K}
    (haction : action ∈ actions) :
    recorded_notional fills session_id action.symbol = |action.delta_notional| := by
  rw [← h.complete action haction, recorded_notional, h.exposure_rows_eq]
  congr 1
  refine List.map_congr_left fun fill hfill => ?_
  obtain ⟨filled, -, hof⟩ := h.of_action fill (List.mem_filter.mp hfill).1
  exact abs_of_nonneg hof.notional_nonneg

omit [FloorRing K] in
/-- Nothing is recorded on a symbol without an action. -/
theorem ExecutedExactly.recorded_of_no_action (h : ExecutedExactly session_id actions fills)
    {symbol : String} (hnone : ∀ action ∈ actions, action.symbol ≠ symbol) :
    recorded_notional fills session_id symbol = 0 := by
  have hfilter : fills.filter (fun fill => fill.symbol = symbol) = [] := by
    rw [List.filter_eq_nil_iff]
    intro fill hfill hsymbol
    obtain ⟨action, haction, hof⟩ := h.of_action fill hfill
    exact hnone action haction (hof.symbol.symm.trans (of_decide_eq_true hsymbol))
  rw [recorded_notional, h.exposure_rows_eq, hfilter]
  rfl

/-- The recorded sum of the action's symbol is no tie that the ordered amount
moves to the other parity. -/
def LandsExactly (telemetry : List (OrderTelemetryRow K)) (session_id : String)
    (action : DeltaAction K) : Prop :=
  ¬ Halfway 8 (recorded_notional telemetry session_id action.symbol)
    ∨ EvenDecimal 8 action.delta_notional

variable [IsStrictOrderedRing K]

/-- A sale that is recorded raises the exposure instead of lowering it. -/
theorem lt_exposure_after_sale {recorded delta : K} (hdelta : Decimal 8 delta) (hsale : delta < 0) :
    pyRound recorded 8 + delta < pyRound (recorded + |delta|) 8 := by
  have hunit := hdelta.unit_le_abs hsale.ne
  have hbefore := (abs_le.mp (abs_pyRound_sub_le recorded 8)).2
  have hafter := (abs_le.mp (abs_pyRound_sub_le (recorded + |delta|) 8)).1
  have hhalf : (1 : K) / 2 / 10 ^ 8 + 1 / 2 / 10 ^ 8 = 1 / 10 ^ 8 := by norm_num
  linarith

/-- The exposure reaches the target exactly after a purchase that lands exactly. -/
theorem exposure_at_target_iff {recorded delta : K} (hdelta : Decimal 8 delta) (hne : delta ≠ 0) :
    pyRound recorded 8 + delta = pyRound (recorded + |delta|) 8
      ↔ 0 < delta ∧ (¬ Halfway 8 recorded ∨ EvenDecimal 8 delta) := by
  rcases lt_or_gt_of_ne hne with hsale | hpurchase
  · constructor
    · intro hsame
      exact absurd hsame (lt_exposure_after_sale hdelta hsale).ne
    · rintro ⟨hpurchase, -⟩
      exact absurd hpurchase hsale.not_gt
  · rw [abs_of_pos hpurchase, eq_comm, hdelta.pyRound_add_iff]
    exact ⟨fun hlands => ⟨hpurchase, hlands⟩, fun hlands => hlands.2⟩

/-- The exposure that a tick reads has 8 decimals. -/
theorem decimal_exposure (telemetry : List (OrderTelemetryRow K)) (session_id symbol : String) :
    Decimal 8 (exposure (load_current_exposure telemetry session_id) symbol) := by
  rw [exposure_load_current_exposure]
  exact decimal_pyRound _ 8

/-- The symbol of an executed action is at its target exactly if the action is a
purchase that lands exactly. -/
theorem action_at_target_iff {telemetry : List (OrderTelemetryRow K)}
    {targets : List (SymbolTarget K)} (h : ExecutedExactly session_id actions fills)
    {action : DeltaAction K} (hmem : action ∈ actions)
    (hordered : delta_action (load_current_exposure telemetry session_id)
      (target_notional_by_symbol targets) targets action.symbol = some action) :
    exposure (target_notional_by_symbol targets) action.symbol
        = exposure (load_current_exposure (telemetry ++ fills) session_id) action.symbol
      ↔ action.side = .BUY ∧ LandsExactly telemetry session_id action := by
  have hdecimal := decimal_exposure telemetry session_id action.symbol
  rcases delta_action_spec targets hdecimal with
    ⟨-, hnone⟩ | ⟨ordered, hsome, -, hne, hdelta, hside⟩
  · rw [hnone] at hordered
    cases hordered
  · rw [hsome] at hordered
    rw [Option.some.inj hordered] at hne hdelta hside
    have htarget : exposure (target_notional_by_symbol targets) action.symbol
        = pyRound (recorded_notional telemetry session_id action.symbol) 8
          + action.delta_notional := by
      rw [hdelta, exposure_load_current_exposure]
      ring
    have hunits : Decimal 8 action.delta_notional := by
      rw [hdelta]
      exact (decimal_target_notional targets action.symbol).sub hdecimal
    rw [htarget, exposure_load_current_exposure, recorded_notional_append,
      h.recorded_of_action hmem, exposure_at_target_iff hunits hne, hside]
    rfl

omit [LinearOrder T] in
/-- After an exact execution every symbol is recorded at its target exactly if
the plan has only purchases, and all of them land exactly. -/
theorem exposure_after_iff {env : ArtifactEnv K T} {plan_id : String}
    {telemetry : List (OrderTelemetryRow K)} {targets : List (SymbolTarget K)}
    {costs : DeltaCosts K}
    (h : ExecutedExactly session_id (build_delta_order_plan env plan_id
      (load_current_exposure telemetry session_id) targets costs).actions fills) :
    (∀ symbol, exposure (target_notional_by_symbol targets) symbol
        = exposure (load_current_exposure (telemetry ++ fills) session_id) symbol) ↔
      ∀ action ∈ (build_delta_order_plan env plan_id
          (load_current_exposure telemetry session_id) targets costs).actions,
        action.side = .BUY ∧ LandsExactly telemetry session_id action := by
  constructor
  · intro hsame action hmem
    have hordered := mem_delta_actions_iff.mp (mem_actions.mp hmem)
    exact (action_at_target_iff h hmem hordered).mp (hsame action.symbol)
  · intro hactions symbol
    rcases delta_action_spec targets (decimal_exposure telemetry session_id symbol) with
      ⟨hsame, hnone⟩ | ⟨action, hordered, hsymbol, -⟩
    · -- nothing was ordered on the symbol, and nothing is recorded
      have hother : ∀ action ∈ (build_delta_order_plan env plan_id
          (load_current_exposure telemetry session_id) targets costs).actions,
          action.symbol ≠ symbol := by
        rintro action hmem rfl
        rw [mem_delta_actions_iff.mp (mem_actions.mp hmem)] at hnone
        cases hnone
      rw [hsame, exposure_load_current_exposure, exposure_load_current_exposure,
        recorded_notional_append, h.recorded_of_no_action hother, add_zero]
    · rw [← hsymbol] at hordered ⊢
      have hmem := mem_delta_actions_iff.mpr hordered
      exact (action_at_target_iff h (mem_actions.mpr hmem) hordered).mpr
        (hactions action (mem_actions.mpr hmem))

end Executed

/-! ## The next tick -/

/-- What an artifact of the session asks for, under the exposure that is recorded;
`none` if it is refused on its own account. -/
def recorded_request (texts : PyTexts K) (config : PaperPortfolioLoopConfig K)
    (constraints : PortfolioConstraints K) (db : LoopDb K) (row : String × SessionArtifactRow K) :
    Except String (Option K) :=
  (load_candidate texts config constraints (load_paper_telemetry db.live_metrics) db.artifacts
    (load_current_exposure db.order_telemetry config.session_id) row).map
      fun loaded => live_request config.active_regimes loaded.candidate

/-- The artifacts of the session ask for the same in both databases. -/
def SameRequests (texts : PyTexts K) (config : PaperPortfolioLoopConfig K) (db db' : LoopDb K) :
    Prop :=
  ∀ constraints, constraints_from_payload texts config.constraints = .ok constraints →
    ∀ row ∈ session_rows db config.session_id,
      recorded_request texts config constraints db' row
        = recorded_request texts config constraints db row

/-- What a session's candidates are made of is the same in both databases. -/
structure SameCandidates (session_id : String) (db db' : LoopDb K) : Prop where
  session : session_id ∈ db.paper_sessions → session_id ∈ db'.paper_sessions
  session_artifacts : db'.paper_session_artifacts = db.paper_session_artifacts
  artifacts : db'.artifacts = db.artifacts
  live_metrics : db'.live_metrics = db.live_metrics

omit [LinearOrder K] [FloorRing K] [LinearOrder T] [Field K] in
/-- Neither the writes of a tick nor recorded fills change the candidates. -/
theorem sameCandidates_after (env : ArtifactEnv K T) (clock : TickClock T)
    (config : PaperPortfolioLoopConfig K) (plan : PortfolioPlan K) (result : TickResult K)
    (fills : List (OrderTelemetryRow K)) (db : LoopDb K) :
    SameCandidates config.session_id db
      (record_fills fills (tick_writes env clock config plan result db)) where
  session := by
    intro hsession
    change config.session_id ∈ if config.session_id ∈ db.paper_sessions then _ else _
    rw [if_pos hsession]
    exact (AList.mem_insert _).mpr (Or.inl rfl)
  session_artifacts := rfl
  artifacts := rfl
  live_metrics := rfl

omit [LinearOrder T] in
/-- With the same candidates that ask for the same, the loop loads candidates that
differ in their amounts only. -/
theorem load_candidates_same {texts : PyTexts K} {config : PaperPortfolioLoopConfig K}
    {constraints : PortfolioConstraints K} {db db' : LoopDb K} {loaded : List (LoadedCandidate K)}
    (hsame : SameCandidates config.session_id db db') (hrequests : SameRequests texts config db db')
    (hconstraints : constraints_from_payload texts config.constraints = .ok constraints)
    (hloaded : load_candidates texts config constraints db = .ok loaded) :
    ∃ loaded', load_candidates texts config constraints db' = .ok loaded'
      ∧ (loaded'.map LoadedCandidate.candidate).map (at_request config.active_regimes)
        = (loaded.map LoadedCandidate.candidate).map (at_request config.active_regimes) := by
  obtain ⟨hsession, hrows⟩ := require_bind_ok hloaded
  have hsteps : ∀ row ∈ session_rows db config.session_id,
      (load_candidate texts config constraints (load_paper_telemetry db'.live_metrics) db'.artifacts
          (load_current_exposure db'.order_telemetry config.session_id) row).map
            (fun item => at_request config.active_regimes item.candidate)
        = (load_candidate texts config constraints (load_paper_telemetry db.live_metrics)
          db.artifacts (load_current_exposure db.order_telemetry config.session_id) row).map
            fun item => at_request config.active_regimes item.candidate := by
    intro row hrow
    have hrequest := hrequests constraints hconstraints row hrow
    unfold recorded_request at hrequest
    rw [hsame.artifacts, hsame.live_metrics] at hrequest ⊢
    exact load_candidate_at_request hrequest
  obtain ⟨loaded', hloaded', hmap⟩ := mapM_ok_congr hsteps hrows
  have hrows' : session_rows db' config.session_id = session_rows db config.session_id := by
    rw [session_rows, hsame.session_artifacts]
    rfl
  refine ⟨loaded', ?_, by rw [List.map_map, List.map_map]; exact hmap⟩
  rw [load_candidates, hrows', hloaded', decide_eq_true (hsame.session (of_decide_eq_true hsession))]
  rfl

omit [LinearOrder T] in
/-- No loaded candidate has a payload. -/
theorem load_candidates_payload {texts : PyTexts K} {config : PaperPortfolioLoopConfig K}
    {constraints : PortfolioConstraints K} {db : LoopDb K} {loaded : List (LoadedCandidate K)}
    (hloaded : load_candidates texts config constraints db = .ok loaded) :
    ∀ candidate ∈ loaded.map LoadedCandidate.candidate, candidate.artifact_payload = none := by
  obtain ⟨-, hrows⟩ := require_bind_ok hloaded
  intro candidate hcandidate
  obtain ⟨item, hitem, rfl⟩ := List.mem_map.mp hcandidate
  exact forall_of_mapM_ok load_candidate_payload hrows item hitem

variable [IsStrictOrderedRing K]

/-- After a tick whose orders are executed exactly and change no candidate's
request, the next tick returns, and orders nothing exactly if all the orders were
purchases that land exactly. -/
theorem next_tick_orders_nothing_iff {env : ArtifactEnv K T} {texts : PyTexts K}
    {clock : TickClock T} {config : PaperPortfolioLoopConfig K} {db db' : LoopDb K}
    {result : TickResult K} {fills : List (OrderTelemetryRow K)} (next_clock : TickClock T)
    (htick : run_paper_portfolio_allocator_tick env texts clock config db = .ok (db', result))
    (hexecuted : ExecutedExactly config.session_id result.delta_order_plan.actions fills)
    (hrequests : SameRequests texts config db (record_fills fills db')) :
    ∃ db_next next, run_paper_portfolio_allocator_tick env texts next_clock config
        (record_fills fills db') = .ok (db_next, next)
      ∧ (next.delta_order_plan.actions = [] ↔ ∀ action ∈ result.delta_order_plan.actions,
        action.side = .BUY ∧ LandsExactly db.order_telemetry config.session_id action) := by
  obtain ⟨constraints, loaded, plan, target_portfolio, hconstraints, hloaded, hplan, htarget,
    rfl, rfl⟩ := tick_eq_ok_iff.mp htick
  -- the second tick finds the same candidates, but for their amounts, and so the same targets
  obtain ⟨loaded', hloaded', hcandidates⟩ := load_candidates_same
    (sameCandidates_after env clock config plan _ fills db) hrequests hconstraints hloaded
  obtain ⟨plan', hplan', hid, hallocations⟩ := build_portfolio_plan_congr env hcandidates
    (load_candidates_payload hloaded) (load_candidates_payload hloaded') hplan
  rw [← hid, ← hallocations] at htarget
  refine ⟨_, _, tick_eq_ok_iff.mpr ⟨constraints, loaded', plan', target_portfolio, hconstraints,
    hloaded', hplan', htarget, rfl, rfl⟩, ?_⟩
  -- what it orders is decided by the exposure that the fills leave
  exact (actions_eq_nil_iff fun symbol => decimal_exposure _ _ symbol).trans
    (exposure_after_iff hexecuted)

end Loop

/-! ### A session that rests, and one that does not -/

/-- A filled order of the session. -/
def plain_fill (side : OrderSide) (notional : ℚ) : OrderTelemetryRow ℚ where
  session_id := some "paper-loop-session"
  symbol := "BTCUSDT"
  side := side
  qty_filled := some 1
  live_vwap_price := some notional
  was_rejected := some 0
  risk_blocked := some 0

/-- A session with one active artifact on one symbol. -/
def plain_loop_db (target : ℤ) (telemetry : List (OrderTelemetryRow ℚ)) : LoopDb ℚ where
  paper_sessions := AList.insert "paper-loop-session" none ∅
  paper_session_artifacts := AList.insert ("paper-loop-session", "core-btc")
    { lifecycle_state := some "paper"
      status := "active"
      payload := some (.dict
        [("symbol_scope", .list [.str "BTCUSDT"]), ("regime_scope", .list [.str "trend"]),
          ("target_notional", .int target)]) } ∅
  artifacts := ∅
  live_metrics := []
  order_telemetry := telemetry
  portfolio_plans := ∅
  paper_portfolio_decisions := ∅

/-- A cap on the symbol, and other limits that are far away. -/
def plain_loop_config (cap : ℤ) : PaperPortfolioLoopConfig ℚ where
  session_id := "paper-loop-session"
  constraints :=
    [("equity", .int 100), ("max_per_symbol_exposure", .int cap),
      ("max_aggregate_leverage", .int 10), ("drawdown_budget", .int 1),
      ("max_pairwise_correlation", .int 1)]
  active_regimes := ∅
  interval_seconds := 900
  min_calibration_samples := 0
  max_paper_slip_bps := 25

def plain_tick_clock : TickClock ℕ where
  authority := fun _ => (plain_clock, plain_clock)
  plan_utc := "2026-05-07T00:00:00Z"
  journal_utc := "2026-05-07T00:00:00Z"

/-- Symbol, side and amount of the orders of a tick. -/
def tick_orders (outcome : LoopDb ℚ × TickResult ℚ) : List (String × OrderSide × ℚ) :=
  outcome.2.delta_order_plan.actions.map fun action =>
    (action.symbol, action.side, action.delta_notional)

/-- The one fill of the one order of a tick. -/
theorem executed_plain_fill {actions : List (DeltaAction ℚ)} {side : OrderSide} {delta : ℚ}
    (h : actions.map (fun action => (action.symbol, action.side, action.delta_notional))
      = [("BTCUSDT", side, delta)]) :
    ExecutedExactly "paper-loop-session" actions [plain_fill side |delta|] := by
  obtain ⟨action, rfl, haction⟩ := List.map_eq_singleton_iff.mp h
  simp only [Prod.mk.injEq] at haction
  obtain ⟨hsymbol, hside, hdelta⟩ := haction
  refine ⟨fun fill hfill => ⟨action, List.mem_singleton_self action, ?_⟩, fun other hother => ?_⟩
  · rw [List.mem_singleton.mp hfill]
    exact ⟨rfl, rfl, rfl, hsymbol.symm, hside.symm, 1, |delta|, rfl, rfl, zero_le_one,
      abs_nonneg delta⟩
  · rw [List.mem_singleton.mp hother, hsymbol, hdelta]
    simp [plain_fill, filled_notional]

/-- Under the cap there is room for the artifact's target also after the purchase. -/
theorem sameRequests_bought {db' : LoopDb ℚ} {result : TickResult ℚ}
    (htick : run_paper_portfolio_allocator_tick plain_env plain_texts plain_tick_clock
      (plain_loop_config 1000) (plain_loop_db 40 []) = .ok (db', result)) :
    SameRequests plain_texts (plain_loop_config 1000) (plain_loop_db 40 [])
      (record_fills [plain_fill .BUY 40] db') := by
  obtain ⟨constraints, loaded, plan, target_portfolio, -, -, -, -, -, rfl⟩ := tick_eq_ok_iff.mp htick
  intro constraints' hconstraints' row hrow
  have hread : constraints_from_payload plain_texts (plain_loop_config 1000).constraints
      = .ok ⟨100, 1000, 10, 1, 1, 1⟩ := by
    rfl
  rw [← Except.ok.inj (hread.symm.trans hconstraints'), List.mem_singleton.mp hrow]
  change recorded_request _ _ _ (plain_loop_db 40 [plain_fill .BUY 40]) _ = _
  decide +kernel

/-- A session without exposure buys 40, and then rests. -/
theorem next_tick_orders_nothing_bought :
    ∃ db' result, run_paper_portfolio_allocator_tick plain_env plain_texts plain_tick_clock
        (plain_loop_config 1000) (plain_loop_db 40 []) = .ok (db', result)
      ∧ tick_orders (db', result) = [("BTCUSDT", .BUY, 40)]
      ∧ ∃ db_next next, run_paper_portfolio_allocator_tick plain_env plain_texts plain_tick_clock
          (plain_loop_config 1000) (record_fills [plain_fill .BUY 40] db') = .ok (db_next, next)
        ∧ next.delta_order_plan.actions = [] := by
  have hrun : (run_paper_portfolio_allocator_tick plain_env plain_texts plain_tick_clock
      (plain_loop_config 1000) (plain_loop_db 40 [])).map tick_orders = .ok [("BTCUSDT", .BUY, 40)] := by
    decide +kernel
  obtain ⟨⟨db', result⟩, htick, horders⟩ := map_ok hrun
  have hexecuted := executed_plain_fill horders
  rw [abs_of_pos (by norm_num)] at hexecuted
  obtain ⟨db_next, next, hnext, hrests⟩ := next_tick_orders_nothing_iff plain_tick_clock htick
    hexecuted (sameRequests_bought htick)
  refine ⟨db', result, htick, horders, db_next, next, hnext, hrests.mpr fun action haction => ?_⟩
  obtain ⟨bought, hactions, hbought⟩ := List.map_eq_singleton_iff.mp horders
  rw [hactions] at haction
  rw [List.mem_singleton.mp haction]
  simp only [Prod.mk.injEq] at hbought
  refine ⟨hbought.2.1, Or.inl ?_⟩
  change ¬ Int.fract ((0 : ℚ) * 10 ^ 8) = 1 / 2
  rw [zero_mul, Int.fract_zero]
  norm_num

/-- A session that holds 60 sells 20; the sale is recorded, and the next tick
sells 40 more. -/
theorem reduction_repeated :
    ∃ db' result, run_paper_portfolio_allocator_tick plain_env plain_texts plain_tick_clock
        (plain_loop_config 1000) (plain_loop_db 40 [plain_fill .BUY 60]) = .ok (db', result)
      ∧ tick_orders (db', result) = [("BTCUSDT", .SELL, -20)]
      ∧ ExecutedExactly (plain_loop_config 1000).session_id result.delta_order_plan.actions
          [plain_fill .SELL 20]
      ∧ ∃ db_next next, run_paper_portfolio_allocator_tick plain_env plain_texts plain_tick_clock
          (plain_loop_config 1000) (record_fills [plain_fill .SELL 20] db') = .ok (db_next, next)
        ∧ tick_orders (db_next, next) = [("BTCUSDT", .SELL, -40)]
        ∧ next.delta_order_plan.actions ≠ [] := by
  have hrun : (run_paper_portfolio_allocator_tick plain_env plain_texts plain_tick_clock
      (plain_loop_config 1000) (plain_loop_db 40 [plain_fill .BUY 60])).map (fun outcome =>
        (tick_orders outcome, (run_paper_portfolio_allocator_tick plain_env plain_texts
          plain_tick_clock (plain_loop_config 1000)
          (record_fills [plain_fill .SELL 20] outcome.1)).map tick_orders))
      = .ok ([("BTCUSDT", .SELL, -20)], .ok [("BTCUSDT", .SELL, -40)]) := by
    decide +kernel
  obtain ⟨⟨db', result⟩, htick, hviews⟩ := map_ok hrun
  obtain ⟨horders, hnext⟩ := Prod.mk.inj hviews
  obtain ⟨⟨db_next, next⟩, hnext_tick, hnext_orders⟩ := map_ok hnext
  have hexecuted := executed_plain_fill horders
  rw [abs_neg, abs_of_pos (by norm_num)] at hexecuted
  refine ⟨db', result, htick, horders, hexecuted, db_next, next, hnext_tick, hnext_orders,
    fun hnone => ?_⟩
  rw [tick_orders, hnone] at hnext_orders
  cases hnext_orders

-- Under a cap of 100 a purchase of 80 leaves room for 20, and 60 are sold again.
example : (run_paper_portfolio_allocator_tick plain_env plain_texts plain_tick_clock
    (plain_loop_config 100) (plain_loop_db 80 [])).map (fun outcome =>
      (tick_orders outcome, (run_paper_portfolio_allocator_tick plain_env plain_texts
        plain_tick_clock (plain_loop_config 100)
        (record_fills [plain_fill .BUY 80] outcome.1)).map tick_orders))
    = .ok ([("BTCUSDT", .BUY, 80)], .ok [("BTCUSDT", .SELL, -60)]) := by
  decide +kernel

end ProofAlpha.Portfolio
