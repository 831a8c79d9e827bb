/-
The limits that a portfolio plan keeps, all at once.

Every limit is checked when a candidate is allocated, so the last allocation that
touches a sum decides whether the sum is within its limit. Three things come
between: a scope that lists a symbol twice is checked as if it listed it once; the
correlation that an allocated candidate declares is not read where the new one
declares its own; and the role pass, which takes every role above its fraction
down to its largest allocation, looks at each role once and at no sum again.

`AdmissionSound` and `RolesSound` exclude these, in the state before each step;
then the plan keeps all five limits, up to half a unit of the eighth decimal for
each rounding of the code.
-/
import Mathlib.Algebra.Order.BigOperators.Group.List
import ProofAlpha.Portfolio.Allocator

set_option autoImplicit false

namespace ProofAlpha.Portfolio

open ProofAlpha.Lib
open ProofAlpha.Strategy

variable {K T : Type} [Field K] [LinearOrder K]

/-! ## The limits -/

/-- What a rounding to eight decimals moves a number by at most. -/
def half_unit : K := 1 / 2 / 10 ^ 8

/-- How often a symbol is listed. -/
def listed (symbol : String) (symbols : List String) : K := (symbols.count symbol : K)

/-- The exposure that allocations have to a symbol. -/
def symbol_exposure (allocations : List (PortfolioAllocation K)) (symbol : String) : K :=
  (allocations.map fun allocation =>
    listed symbol allocation.symbols
      * (allocation.notional / symbol_count allocation.symbols)).sum

/-- The drawdown budget that allocations use. -/
def drawdown_used (constraints : PortfolioConstraints K)
    (allocations : List (PortfolioAllocation K)) : K :=
  (allocations.map fun allocation =>
    allocation.notional / constraints.equity * allocation.max_drawdown).sum

/-- The roundings of amounts: one for each candidate and for each symbol it lists. -/
def rounding_slack (candidates : List (PortfolioArtifactCandidate K)) : K :=
  (candidates.map fun candidate => (candidate.symbol_scope.length : K) + 1).sum * half_unit

/-- The roundings of notionals, as far as the drawdown budget goes. -/
def drawdown_slack (constraints : PortfolioConstraints K)
    (candidates : List (PortfolioArtifactCandidate K)) : K :=
  (candidates.map fun candidate => |candidate.max_drawdown|).sum * (half_unit / constraints.equity)

/-- The correlation that one candidate declares with another. -/
def declared (candidate other : PortfolioArtifactCandidate K) : Option K :=
  (candidate.correlation_by_artifact.getD ∅).lookup other.artifact_id

/-- Two candidates whose correlation is within the cap, whoever declares it. -/
def Uncrowded (constraints : PortfolioConstraints K)
    (candidate other : PortfolioArtifactCandidate K) : Prop :=
  ∀ corr, declared candidate other = some corr ∨ declared other candidate = some corr →
    |corr| ≤ constraints.max_pairwise_correlation

/-- All five limits on the allocations of a plan. -/
structure LimitsHold (constraints : PortfolioConstraints K)
    (candidates : List (PortfolioArtifactCandidate K))
    (allocations : List (PortfolioAllocation K)) : Prop where
  per_symbol : ∀ symbol, (∃ allocation ∈ allocations, symbol ∈ allocation.symbols) →
    symbol_exposure allocations symbol
      ≤ constraints.max_per_symbol_exposure + rounding_slack candidates
  leverage : allocations ≠ [] → 0 < constraints.equity ∧ total_notional allocations
    ≤ constraints.max_aggregate_leverage * constraints.equity + rounding_slack candidates
  drawdown : allocations ≠ [] → drawdown_used constraints allocations
    ≤ constraints.drawdown_budget + drawdown_slack constraints candidates
  correlation : allocations.Pairwise fun a b => ∀ c ∈ candidates, ∀ d ∈ candidates,
    c.artifact_id = a.artifact_id → d.artifact_id = b.artifact_id → Uncrowded constraints c d
  role_fraction : ∀ role, total_notional (role_rows allocations role)
    ≤ constraints.max_role_fraction * total_notional allocations

variable [FloorRing K]

/-- A candidate that may be allocated: with all occurrences of its symbols counted
it stays within the cap, and where it and an allocated candidate both declare
their correlation, the allocated one's is within the cap. -/
structure AdmissionSound (constraints : PortfolioConstraints K)
    (candidates : List (PortfolioArtifactCandidate K)) (st : PlanState K)
    (candidate : PortfolioArtifactCandidate K) : Prop where
  symbols : ∀ symbol ∈ candidate.symbol_scope, exposure st.exposure_by_symbol symbol
      + listed symbol candidate.symbol_scope * per_symbol_notional candidate
    ≤ constraints.max_per_symbol_exposure
  correlations : ∀ allocation ∈ st.allocations, ∀ other ∈ candidates,
    other.artifact_id = allocation.artifact_id → ∀ own reverse,
      declared candidate other = some own → declared other candidate = some reverse →
        |reverse| ≤ constraints.max_pairwise_correlation

/-- The role pass takes a role down. -/
def over_fraction (constraints : PortfolioConstraints K)
    (allocations : List (PortfolioAllocation K)) (role : String) : Bool :=
  ! (decide (1 ≤ constraints.max_role_fraction ∨ allocations.length < 2)
      || decide (total_notional allocations ≤ 0)
      || decide (total_notional (role_rows allocations role) / total_notional allocations
        ≤ constraints.max_role_fraction))

/-- The allocations of a role, the largest only where the role is taken down. -/
def counted_rows (constraints : PortfolioConstraints K)
    (allocations : List (PortfolioAllocation K)) (role : String) : List (PortfolioAllocation K) :=
  if over_fraction constraints allocations role then
    (largest_first (role_rows allocations role)).take 1
  else role_rows allocations role

/-- The allocations before the role pass: with every role above its fraction
counted by its largest allocation, no role is above its fraction; and if the pass
takes a role down, there are no negative notionals and drawdowns. -/
structure RolesSound (constraints : PortfolioConstraints K)
    (allocations : List (PortfolioAllocation K)) : Prop where
  within : ∀ role, total_notional (counted_rows constraints allocations role)
    ≤ constraints.max_role_fraction * total_notional
      ((first_by id (allocations.map PortfolioAllocation.portfolio_role)).flatMap
        (counted_rows constraints allocations))
  signs : (∃ role, over_fraction constraints allocations role = true) →
    ∀ allocation ∈ allocations, 0 ≤ allocation.notional ∧ 0 ≤ allocation.max_drawdown

/-- A run of `build_portfolio_plan` that no defect of the loop or of the role pass
touches. -/
structure PlanSound [LinearOrder T] (env : ArtifactEnv K T) (clock : ℕ → T × T)
    (candidates : List (PortfolioArtifactCandidate K)) (constraints : PortfolioConstraints K)
    (active_regimes : Dict String String) : Prop where
  ids : (candidates.map PortfolioArtifactCandidate.artifact_id).Nodup
  admissions : ∀ before candidate after, candidates = before ++ candidate :: after → ∀ st,
    plan_loop env clock candidates constraints active_regimes 0 before initial_state = some st →
      refusal env (clock before.length) candidates constraints active_regimes st candidate
          = some none →
        AdmissionSound constraints candidates st candidate
  roles : ∀ st,
    plan_loop env clock candidates constraints active_regimes 0 candidates initial_state
      = some st → RolesSound constraints st.allocations

/-! ## Sums -/

variable [IsStrictOrderedRing K]

omit [FloorRing K] in
theorem half_unit_nonneg : (0 : K) ≤ half_unit := by
  unfold half_unit
  positivity

/-- Rounding to eight decimals moves a number by half a unit at most. -/
theorem abs_pyRound_le (x : K) : |pyRound x 8 - x| ≤ half_unit := abs_pyRound_sub_le x 8

omit [FloorRing K] in
theorem symbol_count_pos (symbols : List String) : (0 : K) < symbol_count symbols := by
  unfold symbol_count
  have hone : 1 ≤ max 1 symbols.length := le_max_left _ _
  exact_mod_cast hone

omit [LinearOrder K] [FloorRing K] [IsStrictOrderedRing K] in
theorem listed_cons_self (symbol : String) (symbols : List String) :
    (listed symbol (symbol :: symbols) : K) = listed symbol symbols + 1 := by
  unfold listed
  rw [List.count_cons_self]
  push_cast
  ring

omit [LinearOrder K] [FloorRing K] [IsStrictOrderedRing K] in
theorem listed_cons_ne {symbol other : String} (hne : other ≠ symbol) (symbols : List String) :
    (listed symbol (other :: symbols) : K) = listed symbol symbols := by
  unfold listed
  rw [List.count_cons_of_ne hne]

omit [FloorRing K] in
theorem listed_nonneg (symbol : String) (symbols : List String) :
    (0 : K) ≤ listed symbol symbols := Nat.cast_nonneg _

omit [FloorRing K] in
/-- A symbol is listed at most as often as the scope is long. -/
theorem listed_le_symbol_count (symbol : String) (symbols : List String) :
    (listed symbol symbols : K) ≤ symbol_count symbols := by
  unfold listed symbol_count
  exact_mod_cast List.count_le_length.trans (le_max_right _ _)

/-- Adding a scope raises the exposure to a symbol once for every time it is
listed. -/
theorem exposure_add_exposure (symbols : List String) (per_symbol : K) (symbol : String) :
    ∀ d : Dict String K, |exposure (add_exposure symbols per_symbol d) symbol
        - (exposure d symbol + listed symbol symbols * per_symbol)|
      ≤ listed symbol symbols * half_unit := by
  induction symbols with
  | nil =>
      intro d
      simp [add_exposure, listed]
  | cons other symbols ih =>
      intro d
      have hrest := ih (d.insert other (pyRound (exposure d other + per_symbol) 8))
      have hstep : add_exposure (other :: symbols) per_symbol d = add_exposure symbols per_symbol
          (d.insert other (pyRound (exposure d other + per_symbol) 8)) := rfl
      rw [hstep]
      by_cases hother : other = symbol
      · subst hother
        have hnew : exposure (d.insert other (pyRound (exposure d other + per_symbol) 8)) other
            = pyRound (exposure d other + per_symbol) 8 := by
          unfold exposure
          rw [AList.lookup_insert, Option.getD_some]
        rw [hnew] at hrest
        rw [listed_cons_self]
        have hround := abs_pyRound_le (exposure d other + per_symbol)
        rw [abs_le] at hround hrest ⊢
        constructor
        · linarith [hround.1, hrest.1]
        · linarith [hround.2, hrest.2]
      · have hold : exposure (d.insert other (pyRound (exposure d other + per_symbol) 8)) symbol
            = exposure d symbol := by
          unfold exposure
          rw [AList.lookup_insert_ne (Ne.symm hother)]
        rw [hold] at hrest
        rw [listed_cons_ne hother]
        exact hrest

/-! ## The loop -/

/-- The exposure to a symbol that candidates ask for. -/
def requested_exposure (chosen : List (PortfolioArtifactCandidate K)) (symbol : String) : K :=
  (chosen.map fun candidate =>
    listed symbol candidate.symbol_scope * per_symbol_notional candidate).sum

/-- How often candidates list a symbol. -/
def times_listed (chosen : List (PortfolioArtifactCandidate K)) (symbol : String) : K :=
  (chosen.map fun candidate => (listed symbol candidate.symbol_scope : K)).sum

/-- What is known of the loop once it has allocated the candidates `chosen`. -/
structure LoopInvariant (constraints : PortfolioConstraints K)
    (candidates chosen : List (PortfolioArtifactCandidate K)) (st : PlanState K) : Prop where
  allocations : st.allocations = chosen.map allocation_of
  exposures : ∀ symbol, |exposure st.exposure_by_symbol symbol - requested_exposure chosen symbol|
    ≤ times_listed chosen symbol * half_unit
  per_symbol : ∀ symbol, (∃ candidate ∈ chosen, symbol ∈ candidate.symbol_scope) →
    requested_exposure chosen symbol
      ≤ constraints.max_per_symbol_exposure + times_listed chosen symbol * half_unit
  leverage : chosen ≠ [] → 0 < constraints.equity ∧ total_notional st.allocations
    ≤ constraints.max_aggregate_leverage * constraints.equity + half_unit
  drawdown_usage : st.drawdown_usage = (chosen.map fun candidate =>
    requested_notional candidate / constraints.equity * candidate.max_drawdown).sum
  drawdown : chosen ≠ [] → st.drawdown_usage ≤ constraints.drawdown_budget
  correlation : chosen.Pairwise (Uncrowded constraints)

omit [FloorRing K] [IsStrictOrderedRing K] in
/-- What the checks of the loop say of a candidate that passes them. -/
theorem refusal_eq_none [LinearOrder T] {env : ArtifactEnv K T} {clock : T × T}
    {candidates : List (PortfolioArtifactCandidate K)} {constraints : PortfolioConstraints K}
    {active_regimes : Dict String String} {st : PlanState K}
    {candidate : PortfolioArtifactCandidate K}
    (h : refusal env clock candidates constraints active_regimes st candidate = some none) :
    (∀ allocation ∈ st.allocations, ∀ corr,
        crowding_correlation candidates candidate allocation = some corr →
          |corr| ≤ constraints.max_pairwise_correlation)
      ∧ 0 < constraints.equity
      ∧ (total_notional st.allocations + requested_notional candidate) / constraints.equity
        ≤ constraints.max_aggregate_leverage
      ∧ drawdown_after constraints st candidate ≤ constraints.drawdown_budget := by
  unfold refusal at h
  obtain ⟨rejection, -, hnone⟩ := Option.map_eq_some_iff.mp h
  rw [Option.or_eq_none_iff, Option.or_eq_none_iff] at hnone
  obtain ⟨⟨-, hcrowding⟩, hlimit⟩ := hnone
  unfold crowding_rejection at hcrowding
  unfold limit_rejection at hlimit
  split_ifs at hcrowding with hcrowded
  split_ifs at hlimit with hsymbol hleverage hdrawdown
  rw [not_or, not_le, not_lt] at hleverage
  refine ⟨fun allocation hallocation corr hcorr => ?_, hleverage.1, hleverage.2,
    not_lt.mp hdrawdown⟩
  by_contra hover
  apply hcrowded
  rw [List.any_eq_true]
  refine ⟨allocation, hallocation, ?_⟩
  rw [hcorr, Option.any_some, decide_eq_true_eq]
  exact not_le.mp hover

omit [Field K] [LinearOrder K] [FloorRing K] [IsStrictOrderedRing K] in
/-- A candidate of a list with distinct ids is found by its id. -/
theorem find_by_id {candidates : List (PortfolioArtifactCandidate K)}
    (hids : (candidates.map PortfolioArtifactCandidate.artifact_id).Nodup)
    {candidate : PortfolioArtifactCandidate K} (hcandidate : candidate ∈ candidates) :
    (candidates.reverse.find? fun item => item.artifact_id = candidate.artifact_id)
      = some candidate := by
  cases hfind : candidates.reverse.find? fun item => item.artifact_id = candidate.artifact_id with
  | none =>
      have hnone := List.find?_eq_none.mp hfind candidate (List.mem_reverse.mpr hcandidate)
      exact absurd (decide_eq_true rfl) hnone
  | some item =>
      have hid : item.artifact_id = candidate.artifact_id := by
        simpa using List.find?_some hfind
      have hitem : item ∈ candidates := List.mem_reverse.mp (List.mem_of_find?_eq_some hfind)
      rw [List.inj_on_of_nodup_map hids hitem hcandidate hid]

omit [FloorRing K] [IsStrictOrderedRing K] in
theorem requested_exposure_concat (chosen : List (PortfolioArtifactCandidate K))
    (candidate : PortfolioArtifactCandidate K) (symbol : String) :
    requested_exposure (chosen ++ [candidate]) symbol = requested_exposure chosen symbol
      + listed symbol candidate.symbol_scope * per_symbol_notional candidate := by
  unfold requested_exposure
  rw [List.map_append, List.sum_append, List.map_singleton, List.sum_singleton]

omit [LinearOrder K] [FloorRing K] [IsStrictOrderedRing K] in
theorem times_listed_concat (chosen : List (PortfolioArtifactCandidate K))
    (candidate : PortfolioArtifactCandidate K) (symbol : String) :
    times_listed (chosen ++ [candidate]) symbol
      = times_listed chosen symbol + listed symbol candidate.symbol_scope := by
  unfold times_listed
  rw [List.map_append, List.sum_append, List.map_singleton, List.sum_singleton]

omit [LinearOrder K] [FloorRing K] [IsStrictOrderedRing K] in
theorem total_notional_concat (allocations : List (PortfolioAllocation K))
    (allocation : PortfolioAllocation K) :
    total_notional (allocations ++ [allocation]) = total_notional allocations + allocation.notional := by
  unfold total_notional
  rw [List.map_append, List.sum_append, List.map_singleton, List.sum_singleton]

omit [IsStrictOrderedRing K] in
/-- The correlation that is read for an allocated candidate. -/
theorem crowding_correlation_allocation_of
    {candidates : List (PortfolioArtifactCandidate K)}
    (hids : (candidates.map PortfolioArtifactCandidate.artifact_id).Nodup)
    {candidate other : PortfolioArtifactCandidate K} (hother : other ∈ candidates) :
    crowding_correlation candidates candidate (allocation_of other)
      = (declared candidate other).or (declared other candidate) := by
  have hid : (allocation_of other).artifact_id = other.artifact_id := rfl
  unfold crowding_correlation declared
  rw [hid, find_by_id hids hother]
  cases (candidate.correlation_by_artifact.getD ∅).lookup other.artifact_id with
  | none => rw [Option.none_or, Option.bind_some]
  | some corr => rw [Option.some_or]

omit [IsStrictOrderedRing K] in
/-- A sound candidate that passes the checks is uncrowded by those before it. -/
theorem uncrowded_of_sound {candidates : List (PortfolioArtifactCandidate K)}
    {constraints : PortfolioConstraints K} {st : PlanState K}
    {candidate other : PortfolioArtifactCandidate K}
    (hids : (candidates.map PortfolioArtifactCandidate.artifact_id).Nodup)
    (hother : other ∈ candidates) (hallocated : allocation_of other ∈ st.allocations)
    (hread : ∀ allocation ∈ st.allocations, ∀ corr,
      crowding_correlation candidates candidate allocation = some corr →
        |corr| ≤ constraints.max_pairwise_correlation)
    (hsound : AdmissionSound constraints candidates st candidate) :
    Uncrowded constraints other candidate := by
  have hcorr := hread _ hallocated
  rw [crowding_correlation_allocation_of hids hother] at hcorr
  intro corr hdeclared
  cases hown : declared candidate other with
  | none =>
      rw [hown, Option.none_or] at hcorr
      rcases hdeclared with hreverse | hnone
      · exact hcorr corr hreverse
      · rw [hown] at hnone
        exact absurd hnone (by simp)
  | some own =>
      rw [hown, Option.some_or] at hcorr
      rcases hdeclared with hreverse | hsame
      · exact hsound.correlations _ hallocated other hother rfl own corr hown hreverse
      · exact hcorr corr (hown.symm.trans hsame)

/-- The rounded exposure keeps following the one that is asked for. -/
theorem exposures_allocate {constraints : PortfolioConstraints K}
    {candidates chosen : List (PortfolioArtifactCandidate K)} {st : PlanState K}
    (hinv : LoopInvariant constraints candidates chosen st)
    (candidate : PortfolioArtifactCandidate K) (symbol : String) :
    |exposure (allocate constraints st candidate).exposure_by_symbol symbol
        - requested_exposure (chosen ++ [candidate]) symbol|
      ≤ times_listed (chosen ++ [candidate]) symbol * half_unit := by
  have hadded := exposure_add_exposure candidate.symbol_scope (per_symbol_notional candidate)
    symbol st.exposure_by_symbol
  have hbefore := hinv.exposures symbol
  rw [requested_exposure_concat, times_listed_concat]
  show |exposure (add_exposure candidate.symbol_scope (per_symbol_notional candidate)
    st.exposure_by_symbol) symbol - _| ≤ _
  rw [abs_le] at hadded hbefore ⊢
  constructor
  · linarith [hadded.1, hbefore.1]
  · linarith [hadded.2, hbefore.2]

/-- A sound candidate keeps what is asked for on its symbols within the cap. -/
theorem per_symbol_allocate {constraints : PortfolioConstraints K}
    {candidates chosen : List (PortfolioArtifactCandidate K)} {st : PlanState K}
    {candidate : PortfolioArtifactCandidate K}
    (hinv : LoopInvariant constraints candidates chosen st)
    (hsound : AdmissionSound constraints candidates st candidate) {symbol : String}
    (hsymbol : ∃ other ∈ chosen ++ [candidate], symbol ∈ other.symbol_scope) :
    requested_exposure (chosen ++ [candidate]) symbol ≤ constraints.max_per_symbol_exposure
      + times_listed (chosen ++ [candidate]) symbol * half_unit := by
  rw [requested_exposure_concat, times_listed_concat]
  by_cases hlisted : symbol ∈ candidate.symbol_scope
  · -- the candidate is the last one that lists the symbol
    have hcap := hsound.symbols symbol hlisted
    have hbefore := (abs_le.mp (hinv.exposures symbol)).1
    have htimes : 0 ≤ (listed symbol candidate.symbol_scope : K) * half_unit :=
      mul_nonneg (listed_nonneg _ _) half_unit_nonneg
    linarith
  · have hnone : (listed symbol candidate.symbol_scope : K) = 0 := by
      unfold listed
      rw [List.count_eq_zero_of_not_mem hlisted, Nat.cast_zero]
    rw [hnone, zero_mul, add_zero, add_zero]
    obtain ⟨other, hother, hin⟩ := hsymbol
    rcases List.mem_append.mp hother with hold | hnew
    · exact hinv.per_symbol symbol ⟨other, hold, hin⟩
    · rw [List.mem_singleton.mp hnew] at hin
      exact absurd hin hlisted

/-- Allocating a sound candidate keeps the invariant. -/
theorem loopInvariant_allocate [LinearOrder T] {env : ArtifactEnv K T} {clock : T × T}
    {candidates chosen : List (PortfolioArtifactCandidate K)}
    {constraints : PortfolioConstraints K} {active_regimes : Dict String String}
    {st : PlanState K} {candidate : PortfolioArtifactCandidate K}
    (hinv : LoopInvariant constraints candidates chosen st)
    (hids : (candidates.map PortfolioArtifactCandidate.artifact_id).Nodup)
    (hchosen : ∀ other ∈ chosen, other ∈ candidates)
    (hrefusal : refusal env clock candidates constraints active_regimes st candidate = some none)
    (hsound : AdmissionSound constraints candidates st candidate) :
    LoopInvariant constraints candidates (chosen ++ [candidate])
      (allocate constraints st candidate) := by
  obtain ⟨hread, hequity, hleverage, hdrawdown⟩ := refusal_eq_none hrefusal
  refine ⟨?_, exposures_allocate hinv candidate, fun symbol => per_symbol_allocate hinv hsound,
    fun _ => ⟨hequity, ?_⟩, ?_, fun _ => hdrawdown, ?_⟩
  · show st.allocations ++ [allocation_of candidate] = _
    rw [hinv.allocations, List.map_append, List.map_singleton]
  · rw [div_le_iff₀ hequity] at hleverage
    have hround := (abs_le.mp (abs_pyRound_le (requested_notional candidate))).2
    show total_notional (st.allocations ++ [allocation_of candidate]) ≤ _
    rw [total_notional_concat]
    show _ + pyRound (requested_notional candidate) 8 ≤ _
    linarith
  · show drawdown_after constraints st candidate = _
    unfold drawdown_after
    rw [hinv.drawdown_usage, List.map_append, List.sum_append, List.map_singleton,
      List.sum_singleton]
  · rw [List.pairwise_append]
    refine ⟨hinv.correlation, List.pairwise_singleton _ _, fun other hother last hlast => ?_⟩
    rw [List.mem_singleton.mp hlast]
    refine uncrowded_of_sound hids (hchosen other hother) ?_ hread hsound
    rw [hinv.allocations]
    exact List.mem_map_of_mem hother

section Run

variable [LinearOrder T] {env : ArtifactEnv K T} {clock : ℕ → T × T}
  {candidates : List (PortfolioArtifactCandidate K)} {constraints : PortfolioConstraints K}
  {active_regimes : Dict String String}

omit [IsStrictOrderedRing K] in
theorem plan_loop_append (xs ys : List (PortfolioArtifactCandidate K)) :
    ∀ (n : ℕ) (st : PlanState K),
      plan_loop env clock candidates constraints active_regimes n (xs ++ ys) st
        = (plan_loop env clock candidates constraints active_regimes n xs st).bind
          (plan_loop env clock candidates constraints active_regimes (n + xs.length) ys) := by
  induction xs with
  | nil =>
      intro n st
      rfl
  | cons x xs ih =>
      intro n st
      rw [List.cons_append, plan_loop, plan_loop, Option.bind_assoc, List.length_cons,
        show n + (xs.length + 1) = n + 1 + xs.length by omega]
      congr 1
      funext st'
      exact ih (n + 1) st'

theorem loopInvariant_initial : LoopInvariant constraints candidates [] initial_state := by
  refine ⟨rfl, fun symbol => ?_, fun symbol hsymbol => ?_, fun hne => absurd rfl hne, rfl,
    fun hne => absurd rfl hne, List.Pairwise.nil⟩
  · simp [exposure, initial_state, requested_exposure, times_listed]
  · obtain ⟨candidate, hcandidate, -⟩ := hsymbol
    exact absurd hcandidate List.not_mem_nil

/-- The invariant holds before every candidate of a sound run. -/
theorem loopInvariant_of_loop
    (hsound : PlanSound env clock candidates constraints active_regimes) :
    ∀ before after, candidates = before ++ after → ∀ st,
      plan_loop env clock candidates constraints active_regimes 0 before initial_state = some st →
        ∃ chosen, chosen.Sublist before ∧ LoopInvariant constraints candidates chosen st := by
  intro before
  induction before using List.reverseRecOn with
  | nil =>
      intro after _ st h
      rw [← Option.some.inj h]
      exact ⟨[], List.Sublist.refl [], loopInvariant_initial⟩
  | append_singleton before candidate ih =>
      intro after hsplit st h
      rw [List.append_assoc, List.singleton_append] at hsplit
      rw [plan_loop_append, Nat.zero_add] at h
      obtain ⟨st', hbefore, hlast⟩ := Option.bind_eq_some_iff.mp h
      obtain ⟨chosen, hchosen, hinv⟩ := ih (candidate :: after) hsplit st' hbefore
      rw [plan_loop] at hlast
      obtain ⟨st'', hstep, hend⟩ := Option.bind_eq_some_iff.mp hlast
      rw [← Option.some.inj hend]
      unfold plan_step at hstep
      obtain ⟨outcome, hrefusal, hst⟩ := Option.map_eq_some_iff.mp hstep
      cases outcome with
      | some rejection =>
          -- a refused candidate changes the rejections only
          refine ⟨chosen, hchosen.trans (List.sublist_append_left _ _), ?_⟩
          rw [← hst]
          exact ⟨hinv.allocations, hinv.exposures, hinv.per_symbol, hinv.leverage,
            hinv.drawdown_usage, hinv.drawdown, hinv.correlation⟩
      | none =>
          refine ⟨chosen ++ [candidate], hchosen.append (List.Sublist.refl _), ?_⟩
          rw [← hst]
          refine loopInvariant_allocate hinv hsound.ids (fun other hother => ?_) hrefusal
            (hsound.admissions before candidate after hsplit st' hbefore hrefusal)
          rw [hsplit]
          exact List.mem_append_left _ (hchosen.subset hother)

end Run

/-! ## The role pass -/

section RolePass

variable {constraints : PortfolioConstraints K} {allocations : List (PortfolioAllocation K)}

omit [Field K] [LinearOrder K] [FloorRing K] [IsStrictOrderedRing K] in
theorem mem_role_rows {role : String} {allocation : PortfolioAllocation K} :
    allocation ∈ role_rows allocations role
      ↔ allocation ∈ allocations ∧ allocation.portfolio_role = role := by
  unfold role_rows
  rw [List.mem_filter, decide_eq_true_eq]

omit [Field K] [FloorRing K] [IsStrictOrderedRing K] in
theorem mem_largest_first {rows : List (PortfolioAllocation K)}
    {allocation : PortfolioAllocation K} :
    allocation ∈ largest_first rows ↔ allocation ∈ rows := by
  unfold largest_first
  exact List.mem_insertionSort _

omit [Field K] [LinearOrder K] [FloorRing K] [IsStrictOrderedRing K] in
/-- The role of an allocation is one of the roles. -/
theorem mem_roles {allocation : PortfolioAllocation K} (h : allocation ∈ allocations) :
    allocation.portfolio_role
      ∈ first_by id (allocations.map PortfolioAllocation.portfolio_role) := by
  have hfirst : allocation.portfolio_role
      ∈ (first_by id (allocations.map PortfolioAllocation.portfolio_role)).map id := by
    rw [mem_map_first_by, List.map_id]
    exact List.mem_map_of_mem h
  rwa [List.map_id] at hfirst

omit [FloorRing K] [IsStrictOrderedRing K] in
/-- The role pass rejects all but the largest allocation of a role it takes down. -/
theorem mem_rejected_ids {artifact_id : String} :
    artifact_id ∈ (role_fraction_rejections allocations constraints).map PortfolioRejection.artifact_id
      ↔ ∃ role, over_fraction constraints allocations role = true
        ∧ ∃ row ∈ (largest_first (role_rows allocations role)).tail, row.artifact_id = artifact_id := by
  unfold role_fraction_rejections over_fraction
  split_ifs with hinactive hempty
  · rw [decide_eq_true hinactive]
    simp
  · rw [decide_eq_true hempty]
    simp
  · rw [decide_eq_false hinactive, decide_eq_false hempty, List.map_flatMap, List.mem_flatMap]
    simp only [Bool.false_or]
    constructor
    · rintro ⟨role, -, hid⟩
      split_ifs at hid with hwithin
      · exact absurd hid List.not_mem_nil
      · rw [List.map_map] at hid
        obtain ⟨row, hrow, hrow_id⟩ := List.mem_map.mp hid
        exact ⟨role, by rw [decide_eq_false hwithin]; rfl, row, hrow, hrow_id⟩
    · rintro ⟨role, hover, row, hrow, hrow_id⟩
      have hwithin : ¬ total_notional (role_rows allocations role) / total_notional allocations
          ≤ constraints.max_role_fraction := by simpa using hover
      have hin := mem_role_rows.mp (mem_largest_first.mp (List.mem_of_mem_tail hrow))
      refine ⟨role, ?_, ?_⟩
      · rw [← hin.2]
        exact mem_roles hin.1
      · rw [if_neg hwithin, List.map_map]
        exact List.mem_map.mpr ⟨row, hrow, hrow_id⟩

/-- The allocations that the role pass does not reject. -/
def left_by_roles (constraints : PortfolioConstraints K)
    (allocations : List (PortfolioAllocation K)) : List (PortfolioAllocation K) :=
  allocations.filter fun allocation => allocation.artifact_id
    ∉ (role_fraction_rejections allocations constraints).map PortfolioRejection.artifact_id

omit [FloorRing K] [IsStrictOrderedRing K] in
theorem mem_left_by_roles {allocation : PortfolioAllocation K} :
    allocation ∈ left_by_roles constraints allocations ↔ allocation ∈ allocations
      ∧ allocation.artifact_id ∉ (role_fraction_rejections allocations constraints).map
        PortfolioRejection.artifact_id := by
  rw [left_by_roles, List.mem_filter, decide_eq_true_eq]

omit [FloorRing K] [IsStrictOrderedRing K] in
theorem left_by_roles_sublist : (left_by_roles constraints allocations).Sublist allocations :=
  List.filter_sublist

omit [FloorRing K] [IsStrictOrderedRing K] in
/-- A pass that takes no role down leaves everything. -/
theorem left_by_roles_eq_self (hnone : ∀ role, ¬ over_fraction constraints allocations role = true) :
    left_by_roles constraints allocations = allocations := by
  rw [left_by_roles, List.filter_eq_self]
  intro allocation _
  rw [decide_eq_true_eq, mem_rejected_ids]
  rintro ⟨role, hrole, -⟩
  exact hnone role hrole

omit [IsStrictOrderedRing K] in
/-- The allocations after the role pass. -/
theorem role_pass_allocations (st : PlanState K) :
    (role_pass constraints st).allocations = left_by_roles constraints st.allocations := by
  unfold role_pass left_by_roles
  dsimp only
  split_ifs with hempty
  · rw [List.isEmpty_iff.mp hempty]
    simp
  · rfl

omit [FloorRing K] [IsStrictOrderedRing K] in
/-- Rows that are counted are rows of the role. -/
theorem counted_rows_subperm (role : String) :
    (counted_rows constraints allocations role).Subperm (role_rows allocations role) := by
  unfold counted_rows
  split_ifs with hover
  · exact (List.take_sublist _ _).subperm.trans (List.perm_insertionSort _ _).subperm
  · exact List.Subperm.refl _

omit [FloorRing K] [IsStrictOrderedRing K] in
theorem mem_role_rows_of_counted {role : String} {allocation : PortfolioAllocation K}
    (h : allocation ∈ counted_rows constraints allocations role) :
    allocation ∈ allocations ∧ allocation.portfolio_role = role :=
  mem_role_rows.mp ((counted_rows_subperm role).subset h)

omit [FloorRing K] [IsStrictOrderedRing K] in
theorem counted_rows_nodup (hnodup : allocations.Nodup) (role : String) :
    (counted_rows constraints allocations role).Nodup := by
  have hsubperm : (counted_rows constraints allocations role).Subperm (role_rows allocations role) :=
    counted_rows_subperm role
  obtain ⟨rows, hperm, hsublist⟩ := hsubperm
  exact hperm.nodup_iff.mp ((hnodup.filter _).sublist hsublist)

omit [Field K] [LinearOrder K] [FloorRing K] [IsStrictOrderedRing K] in
/-- Of distinct rows, the ones outside the tail are the first. -/
theorem not_mem_tail_iff {rows : List (PortfolioAllocation K)} (hnodup : rows.Nodup)
    {allocation : PortfolioAllocation K} (h : allocation ∈ rows) :
    allocation ∉ rows.tail ↔ allocation ∈ rows.take 1 := by
  cases rows with
  | nil => exact absurd h List.not_mem_nil
  | cons first rest =>
      rw [List.tail_cons, List.take_succ_cons, List.take_zero, List.mem_singleton]
      rw [List.nodup_cons] at hnodup
      constructor
      · intro hrest
        exact (List.mem_cons.mp h).resolve_right hrest
      · rintro rfl
        exact hnodup.1

section Distinct

variable (hids : (allocations.map PortfolioAllocation.artifact_id).Nodup)

include hids

omit [FloorRing K] [IsStrictOrderedRing K] in
/-- An allocation is left over exactly if it is counted. -/
theorem not_rejected_iff {allocation : PortfolioAllocation K} (h : allocation ∈ allocations) :
    allocation.artifact_id ∉ (role_fraction_rejections allocations constraints).map
        PortfolioRejection.artifact_id
      ↔ allocation ∈ counted_rows constraints allocations allocation.portfolio_role := by
  have hrow : allocation ∈ role_rows allocations allocation.portfolio_role :=
    mem_role_rows.mpr ⟨h, rfl⟩
  have hsame : ∀ role row, row ∈ (largest_first (role_rows allocations role)).tail →
      row.artifact_id = allocation.artifact_id → row = allocation ∧ role = allocation.portfolio_role := by
    intro role row htail hid
    have hin := mem_role_rows.mp (mem_largest_first.mp (List.mem_of_mem_tail htail))
    have heq : row = allocation := List.inj_on_of_nodup_map hids hin.1 h hid
    exact ⟨heq, by rw [← hin.2, heq]⟩
  have hnodup : (largest_first (role_rows allocations allocation.portfolio_role)).Nodup :=
    ((List.perm_insertionSort _ _).nodup_iff).mpr ((List.Nodup.of_map _ hids).filter _)
  rw [mem_rejected_ids]
  unfold counted_rows
  split_ifs with hover
  · rw [← not_mem_tail_iff hnodup (mem_largest_first.mpr hrow), not_iff_not]
    constructor
    · rintro ⟨role, -, row, htail, hid⟩
      obtain ⟨rfl, rfl⟩ := hsame role row htail hid
      exact htail
    · exact fun htail => ⟨_, hover, allocation, htail, rfl⟩
  · refine iff_of_true ?_ hrow
    rintro ⟨role, hover', row, htail, hid⟩
    rw [(hsame role row htail hid).2] at hover'
    exact hover hover'

omit [FloorRing K] [IsStrictOrderedRing K] in
/-- What is left of a role is what is counted of it. -/
theorem role_rows_left_perm (constraints : PortfolioConstraints K) (role : String) :
    (role_rows (left_by_roles constraints allocations) role).Perm
      (counted_rows constraints allocations role) := by
  have hnodup : allocations.Nodup := List.Nodup.of_map _ hids
  refine (List.perm_ext_iff_of_nodup ((hnodup.sublist left_by_roles_sublist).filter _) ?_).mpr
    fun allocation => ?_
  · exact counted_rows_nodup hnodup role
  · show allocation ∈ role_rows (left_by_roles constraints allocations) role ↔ _
    rw [mem_role_rows, mem_left_by_roles]
    constructor
    · rintro ⟨⟨hin, hleft⟩, rfl⟩
      exact (not_rejected_iff hids hin).mp hleft
    · intro hcounted
      obtain ⟨hin, rfl⟩ := mem_role_rows_of_counted hcounted
      exact ⟨⟨hin, (not_rejected_iff hids hin).mpr hcounted⟩, rfl⟩

omit [FloorRing K] [IsStrictOrderedRing K] in
/-- What is left of all roles is what is counted of them. -/
theorem left_perm (constraints : PortfolioConstraints K) :
    (left_by_roles constraints allocations).Perm
      ((first_by id (allocations.map PortfolioAllocation.portfolio_role)).flatMap
        (counted_rows constraints allocations)) := by
  have hnodup : allocations.Nodup := List.Nodup.of_map _ hids
  have hroles := map_first_by_nodup id (allocations.map PortfolioAllocation.portfolio_role)
  rw [List.map_id] at hroles
  refine (List.perm_ext_iff_of_nodup (hnodup.sublist left_by_roles_sublist) ?_).mpr
    fun allocation => ?_
  · rw [List.nodup_flatMap]
    refine ⟨fun role _ => counted_rows_nodup hnodup role, ?_⟩
    refine hroles.imp fun hne allocation hfirst hsecond => hne ?_
    rw [← (mem_role_rows_of_counted hfirst).2, (mem_role_rows_of_counted hsecond).2]
  · rw [mem_left_by_roles, List.mem_flatMap]
    constructor
    · rintro ⟨hin, hleft⟩
      exact ⟨_, mem_roles hin, (not_rejected_iff hids hin).mp hleft⟩
    · rintro ⟨role, -, hcounted⟩
      obtain ⟨hin, rfl⟩ := mem_role_rows_of_counted hcounted
      exact ⟨hin, (not_rejected_iff hids hin).mpr hcounted⟩

omit [FloorRing K] in
/-- Where roles have no limit, notionals that are not negative are sound. -/
theorem rolesSound_of_unlimited (hfree : 1 ≤ constraints.max_role_fraction)
    (hnonneg : ∀ allocation ∈ allocations, 0 ≤ allocation.notional) :
    RolesSound constraints allocations := by
  have hover : ∀ role, over_fraction constraints allocations role = false := by
    intro role
    unfold over_fraction
    rw [decide_eq_true (Or.inl hfree)]
    rfl
  have hcounted : ∀ role, counted_rows constraints allocations role = role_rows allocations role :=
    fun role => by rw [counted_rows, hover, if_neg Bool.false_ne_true]
  refine ⟨fun role => ?_, fun ⟨role, hrole⟩ => ?_⟩
  · have htotal : total_notional _ = total_notional _ :=
      ((left_perm hids constraints).map PortfolioAllocation.notional).sum_eq
    rw [← htotal, hcounted, left_by_roles_eq_self fun other => Bool.eq_false_iff.mp (hover other)]
    have hterms : ∀ x ∈ allocations.map PortfolioAllocation.notional, 0 ≤ x := by
      intro x hx
      obtain ⟨allocation, hallocation, rfl⟩ := List.mem_map.mp hx
      exact hnonneg allocation hallocation
    have hrole : total_notional (role_rows allocations role) ≤ total_notional allocations :=
      (List.filter_sublist.map _).sum_le_sum hterms
    exact hrole.trans (le_mul_of_one_le_left (List.sum_nonneg hterms) hfree)
  · rw [hover] at hrole
    exact absurd hrole (by decide)

end Distinct

omit [FloorRing K] in
/-- A sum over what is left is at most the sum over all allocations, where its
terms are not negative if the pass takes a role down. -/
theorem sum_left_le {weight : PortfolioAllocation K → K}
    (hweight : (∃ role, over_fraction constraints allocations role = true) →
      ∀ allocation ∈ allocations, 0 ≤ weight allocation) :
    ((left_by_roles constraints allocations).map weight).sum ≤ (allocations.map weight).sum := by
  by_cases hover : ∃ role, over_fraction constraints allocations role = true
  · refine (left_by_roles_sublist.map weight).sum_le_sum fun x hx => ?_
    obtain ⟨allocation, hallocation, rfl⟩ := List.mem_map.mp hx
    exact hweight hover allocation hallocation
  · rw [left_by_roles_eq_self (not_exists.mp hover)]

omit [FloorRing K] in
/-- A sound role pass raises no exposure. -/
theorem exposure_left_le (hroles : RolesSound constraints allocations) (symbol : String) :
    symbol_exposure (left_by_roles constraints allocations) symbol
      ≤ symbol_exposure allocations symbol := by
  refine sum_left_le fun hover allocation hallocation => ?_
  obtain ⟨hnotional, -⟩ := hroles.signs hover allocation hallocation
  exact mul_nonneg (listed_nonneg _ _) (div_nonneg hnotional (symbol_count_pos _).le)

omit [FloorRing K] in
/-- Nor the total. -/
theorem notional_left_le (hroles : RolesSound constraints allocations) :
    total_notional (left_by_roles constraints allocations) ≤ total_notional allocations :=
  sum_left_le fun hover allocation hallocation => (hroles.signs hover allocation hallocation).1

omit [FloorRing K] in
/-- Nor the drawdown. -/
theorem drawdown_left_le (hroles : RolesSound constraints allocations)
    (hequity : 0 < constraints.equity) :
    drawdown_used constraints (left_by_roles constraints allocations)
      ≤ drawdown_used constraints allocations := by
  refine sum_left_le fun hover allocation hallocation => ?_
  obtain ⟨hnotional, hdrawdown⟩ := hroles.signs hover allocation hallocation
  exact mul_nonneg (div_nonneg hnotional hequity.le) hdrawdown

end RolePass

/-! ## All limits at once -/

section Rounded

variable {candidates chosen : List (PortfolioArtifactCandidate K)}

omit [FloorRing K] in
/-- The roundings that an exposure goes through are within the slack. -/
theorem roundings_le_slack (hchosen : chosen.Sublist candidates) (symbol : String) :
    (times_listed chosen symbol + chosen.length) * half_unit ≤ rounding_slack candidates := by
  have hone : (chosen.length : K) = (chosen.map fun _ => (1 : K)).sum := by
    rw [List.map_const', List.sum_replicate, nsmul_eq_mul, mul_one]
  have hcount : times_listed chosen symbol + chosen.length
      ≤ (chosen.map fun candidate => (candidate.symbol_scope.length : K) + 1).sum := by
    unfold times_listed listed
    rw [hone, ← List.sum_map_add]
    refine List.sum_le_sum fun candidate _ => ?_
    have hlength : ((candidate.symbol_scope.count symbol : ℕ) : K)
        ≤ candidate.symbol_scope.length := by exact_mod_cast List.count_le_length
    linarith
  have hall : (chosen.map fun candidate => (candidate.symbol_scope.length : K) + 1).sum
      ≤ (candidates.map fun candidate => (candidate.symbol_scope.length : K) + 1).sum := by
    refine (hchosen.map _).sum_le_sum fun x hx => ?_
    obtain ⟨candidate, -, rfl⟩ := List.mem_map.mp hx
    positivity
  exact mul_le_mul_of_nonneg_right (hcount.trans hall) half_unit_nonneg

omit [FloorRing K] in
/-- One rounding is within the slack. -/
theorem half_unit_le_slack (hchosen : chosen.Sublist candidates) (hne : chosen ≠ []) :
    (half_unit : K) ≤ rounding_slack candidates := by
  have htimes : (0 : K) ≤ times_listed chosen "" := by
    refine List.sum_nonneg fun x hx => ?_
    obtain ⟨candidate, -, rfl⟩ := List.mem_map.mp hx
    exact listed_nonneg _ _
  have hlength : (1 : K) ≤ chosen.length := by
    exact_mod_cast List.length_pos_iff.mpr hne
  refine le_trans ?_ (roundings_le_slack hchosen "")
  exact le_mul_of_one_le_left half_unit_nonneg (by linarith)

/-- Stored notionals give the requested exposure up to a rounding each. -/
theorem symbol_exposure_allocation_of_le (symbol : String) :
    symbol_exposure (chosen.map allocation_of) symbol
      ≤ requested_exposure chosen symbol + chosen.length * half_unit := by
  have hunits : (chosen.map fun _ => (half_unit : K)).sum = chosen.length * half_unit := by
    rw [List.map_const', List.sum_replicate, nsmul_eq_mul]
  unfold symbol_exposure requested_exposure
  rw [List.map_map, ← hunits, ← List.sum_map_add]
  refine List.sum_le_sum fun candidate _ => ?_
  have hround := (abs_le.mp (abs_pyRound_le (requested_notional candidate))).2
  have hcount : (0 : K) < symbol_count candidate.symbol_scope := symbol_count_pos _
  have hlisted : (listed symbol candidate.symbol_scope : K) / symbol_count candidate.symbol_scope
      ≤ 1 := (div_le_one hcount).mpr (listed_le_symbol_count _ _)
  have hfraction : 0 ≤ (listed symbol candidate.symbol_scope : K)
      / symbol_count candidate.symbol_scope := div_nonneg (listed_nonneg _ _) hcount.le
  have hunit : (0 : K) ≤ half_unit := half_unit_nonneg
  show listed symbol candidate.symbol_scope * (pyRound (requested_notional candidate) 8
      / symbol_count candidate.symbol_scope) ≤ listed symbol candidate.symbol_scope
      * (requested_notional candidate / symbol_count candidate.symbol_scope) + half_unit
  rw [mul_div_left_comm, mul_div_left_comm (listed symbol candidate.symbol_scope)]
  nlinarith [mul_le_mul_of_nonneg_right hround hfraction,
    mul_le_mul_of_nonneg_left hlisted hunit]

/-- A stored notional uses the requested drawdown up to its rounding. -/
theorem allocation_drawdown_le {constraints : PortfolioConstraints K}
    (hequity : 0 < constraints.equity) (candidate : PortfolioArtifactCandidate K) :
    pyRound (requested_notional candidate) 8 / constraints.equity * candidate.max_drawdown
      ≤ requested_notional candidate / constraints.equity * candidate.max_drawdown
        + |candidate.max_drawdown| * (half_unit / constraints.equity) := by
  have hproduct : (pyRound (requested_notional candidate) 8 - requested_notional candidate)
      * candidate.max_drawdown ≤ half_unit * |candidate.max_drawdown| := by
    refine (le_abs_self _).trans ?_
    rw [abs_mul]
    exact mul_le_mul_of_nonneg_right (abs_pyRound_le _) (abs_nonneg _)
  have hscaled := div_le_div_of_nonneg_right hproduct hequity.le
  calc pyRound (requested_notional candidate) 8 / constraints.equity * candidate.max_drawdown
      = requested_notional candidate / constraints.equity * candidate.max_drawdown
        + (pyRound (requested_notional candidate) 8 - requested_notional candidate)
          * candidate.max_drawdown / constraints.equity := by ring
    _ ≤ requested_notional candidate / constraints.equity * candidate.max_drawdown
        + half_unit * |candidate.max_drawdown| / constraints.equity := by linarith
    _ = requested_notional candidate / constraints.equity * candidate.max_drawdown
        + |candidate.max_drawdown| * (half_unit / constraints.equity) := by ring

/-- Stored notionals use the requested drawdown up to a rounding each. -/
theorem drawdown_used_allocation_of_le {constraints : PortfolioConstraints K}
    (hequity : 0 < constraints.equity) (hchosen : chosen.Sublist candidates) :
    drawdown_used constraints (chosen.map allocation_of)
      ≤ (chosen.map fun candidate =>
          requested_notional candidate / constraints.equity * candidate.max_drawdown).sum
        + drawdown_slack constraints candidates := by
  have hunit : 0 ≤ half_unit / constraints.equity := div_nonneg half_unit_nonneg hequity.le
  have hterms : drawdown_used constraints (chosen.map allocation_of)
      ≤ (chosen.map fun candidate =>
          requested_notional candidate / constraints.equity * candidate.max_drawdown).sum
        + (chosen.map fun candidate => |candidate.max_drawdown|).sum
          * (half_unit / constraints.equity) := by
    rw [← List.sum_map_mul_right, ← List.sum_map_add]
    unfold drawdown_used
    rw [List.map_map]
    exact List.sum_le_sum fun candidate _ => allocation_drawdown_le hequity candidate
  have hall : (chosen.map fun candidate => |candidate.max_drawdown|).sum
      ≤ (candidates.map fun candidate => |candidate.max_drawdown|).sum := by
    refine (hchosen.map _).sum_le_sum fun x hx => ?_
    obtain ⟨candidate, -, rfl⟩ := List.mem_map.mp hx
    exact abs_nonneg _
  have hslack := mul_le_mul_of_nonneg_right hall hunit
  unfold drawdown_slack
  linarith

end Rounded

omit [IsStrictOrderedRing K] in
/-- Distinct candidates make distinct allocations. -/
theorem allocation_ids_nodup {candidates chosen : List (PortfolioArtifactCandidate K)}
    (hids : (candidates.map PortfolioArtifactCandidate.artifact_id).Nodup)
    (hchosen : chosen.Sublist candidates) :
    ((chosen.map allocation_of).map PortfolioAllocation.artifact_id).Nodup := by
  rw [List.map_map]
  exact hids.sublist (hchosen.map _)

/-- In every run of `build_portfolio_plan` that is sound the allocations keep all
five limits, up to the roundings. -/
theorem portfolio_limits_hold [LinearOrder T] (env : ArtifactEnv K T) (clock : ℕ → T × T)
    (now : String) {candidates : List (PortfolioArtifactCandidate K)}
    {constraints : PortfolioConstraints K} {active_regimes : Dict String String}
    {now_utc : Option String} {plan : PortfolioPlan K}
    (hplan : build_portfolio_plan env clock now candidates constraints active_regimes now_utc
      = some plan)
    (hsound : PlanSound env clock candidates constraints active_regimes) :
    LimitsHold constraints candidates plan.allocations := by
  obtain ⟨st, hst, hbuilt⟩ := Option.map_eq_some_iff.mp hplan
  obtain ⟨chosen, hchosen, hinv⟩ :=
    loopInvariant_of_loop hsound candidates [] (List.append_nil _).symm st hst
  have hroles := hsound.roles st hst
  have hleft : plan.allocations = (role_pass constraints st).allocations := by rw [← hbuilt]
  have hids := allocation_ids_nodup hsound.ids hchosen
  rw [hleft, role_pass_allocations]
  rw [hinv.allocations] at hroles ⊢
  have hnonempty : left_by_roles constraints (chosen.map allocation_of) ≠ [] → chosen ≠ [] := by
    rintro hne rfl
    exact hne rfl
  refine ⟨fun symbol hsymbol => ?_, fun hne => ?_, fun hne => ?_, ?_, fun role => ?_⟩
  · obtain ⟨allocation, hallocation, hin⟩ := hsymbol
    obtain ⟨candidate, hcandidate, rfl⟩ := List.mem_map.mp (mem_left_by_roles.mp hallocation).1
    have hpass := exposure_left_le hroles symbol
    have hstored : symbol_exposure (chosen.map allocation_of) symbol
        ≤ requested_exposure chosen symbol + chosen.length * half_unit :=
      symbol_exposure_allocation_of_le symbol
    have hcap := hinv.per_symbol symbol ⟨candidate, hcandidate, hin⟩
    have hslack := roundings_le_slack hchosen symbol
    linarith
  · obtain ⟨hequity, hcap⟩ := hinv.leverage (hnonempty hne)
    rw [hinv.allocations] at hcap
    have hpass := notional_left_le hroles
    have hslack := half_unit_le_slack hchosen (hnonempty hne)
    exact ⟨hequity, by linarith⟩
  · obtain ⟨hequity, -⟩ := hinv.leverage (hnonempty hne)
    have hpass := drawdown_left_le hroles hequity
    have hstored := drawdown_used_allocation_of_le hequity hchosen
    have hbudget := hinv.drawdown (hnonempty hne)
    rw [hinv.drawdown_usage] at hbudget
    linarith
  · refine List.Pairwise.sublist left_by_roles_sublist ?_
    rw [List.pairwise_map]
    refine hinv.correlation.imp_of_mem fun {a b} ha hb hab c hc d hd hca hdb => ?_
    rw [List.inj_on_of_nodup_map hsound.ids hc (hchosen.subset ha) hca,
      List.inj_on_of_nodup_map hsound.ids hd (hchosen.subset hb) hdb]
    exact hab
  · have hrole : total_notional (role_rows _ role) = total_notional _ :=
      ((role_rows_left_perm hids constraints role).map PortfolioAllocation.notional).sum_eq
    have htotal : total_notional _ = total_notional _ :=
      ((left_perm hids constraints).map PortfolioAllocation.notional).sum_eq
    rw [hrole, htotal]
    exact hroles.within role

/-! ### Two plans -/

/-- A candidate without a payload. -/
def plain_candidate (artifact_id : String) (symbol_scope : List String) (portfolio_role : String)
    (notional : ℚ) (correlation_by_artifact : Dict String ℚ) : PortfolioArtifactCandidate ℚ where
  artifact_id := artifact_id
  strategy_id := artifact_id
  symbol_scope := symbol_scope
  regime_scope := ["trend"]
  portfolio_role := portfolio_role
  target_notional := notional
  max_notional := notional
  expected_return_bps := 10
  max_drawdown := 1 / 10
  artifact_health := "paper"
  approved := true
  paper_live_divergence_bps := 0
  stress_loss_by_scenario := none
  correlation_by_artifact := some correlation_by_artifact
  artifact_payload := none

/-- An equity of 100, at most 60 on a symbol, and half of the total on a role. -/
def plain_constraints : PortfolioConstraints ℚ where
  equity := 100
  max_per_symbol_exposure := 60
  max_aggregate_leverage := 2
  drawdown_budget := 1
  max_pairwise_correlation := 9 / 10
  max_role_fraction := 1 / 2

/-- A core candidate that lists its symbol twice and a defensive one; they declare
different correlations. -/
def broken_candidates : List (PortfolioArtifactCandidate ℚ) :=
  [plain_candidate "a" ["BTCUSDT", "BTCUSDT"] "core" 100
      (AList.insert "b" (95 / 100 : ℚ) (∅ : Dict String ℚ)),
    plain_candidate "b" ["ETHUSDT"] "defensive" 50
      (AList.insert "a" (1 / 10 : ℚ) (∅ : Dict String ℚ))]

/-- One candidate, and no limit on its role. -/
def sound_candidate : PortfolioArtifactCandidate ℚ :=
  plain_candidate "a" ["BTCUSDT"] "core" 60 ∅

/-- The constraints without a limit on roles. -/
def free_constraints : PortfolioConstraints ℚ := { plain_constraints with max_role_fraction := 1 }

theorem refusal_sound_candidate (st : PlanState ℚ) (hst : st = initial_state) :
    refusal plain_env (plain_clock, plain_clock) [sound_candidate] free_constraints ∅ st
      sound_candidate = some none := by
  have hnone : (refusal plain_env (plain_clock, plain_clock) [sound_candidate] free_constraints ∅
      initial_state sound_candidate).map Option.isNone = some true := by
    decide +kernel
  obtain ⟨outcome, houtcome, hisnone⟩ := Option.map_eq_some_iff.mp hnone
  rw [hst, houtcome, Option.isNone_iff_eq_none.mp hisnone]

theorem planSound_sound_candidate :
    PlanSound plain_env (fun _ => (plain_clock, plain_clock)) [sound_candidate] free_constraints ∅ := by
  have hrun : plan_loop plain_env (fun _ => (plain_clock, plain_clock)) [sound_candidate]
      free_constraints ∅ 0 [sound_candidate] initial_state
        = some (allocate free_constraints initial_state sound_candidate) := by
    rw [plan_loop, plan_step, refusal_sound_candidate _ rfl]
    rfl
  refine ⟨by decide, fun before candidate after hsplit st hst _ => ?_, fun st hst => ?_⟩
  · cases before with
    | nil =>
        obtain ⟨hcandidate, -⟩ := List.cons.inj hsplit
        rw [← hcandidate, ← Option.some.inj hst]
        refine ⟨fun symbol hsymbol => ?_, fun allocation hallocation => ?_⟩
        · rw [List.mem_singleton.mp hsymbol]
          decide +kernel
        · exact absurd hallocation List.not_mem_nil
    | cons first rest =>
        have hlength := congrArg List.length hsplit
        simp at hlength
  · rw [hrun] at hst
    rw [← Option.some.inj hst]
    refine rolesSound_of_unlimited (List.nodup_singleton _) le_rfl fun allocation hallocation => ?_
    have hsame : allocation = allocation_of sound_candidate := List.mem_singleton.mp hallocation
    rw [hsame]
    decide +kernel

/-- A plan with one allocation. -/
theorem portfolio_limits_hold_single :
    ∃ plan, build_portfolio_plan plain_env (fun _ => (plain_clock, plain_clock)) ""
        [sound_candidate] free_constraints ∅ none = some plan
      ∧ plan.accepted = true
      ∧ LimitsHold free_constraints [sound_candidate] plan.allocations := by
  have hrun : (build_portfolio_plan plain_env (fun _ => (plain_clock, plain_clock)) ""
      [sound_candidate] free_constraints ∅ none).map PortfolioPlan.accepted = some true := by
    decide +kernel
  obtain ⟨plan, hplan, haccepted⟩ := Option.map_eq_some_iff.mp hrun
  exact ⟨plan, hplan, haccepted, portfolio_limits_hold plain_env _ "" hplan planSound_sound_candidate⟩

/-- The plan is accepted with an exposure above the cap, a declared correlation of
0.95 and two thirds of the total on one role. -/
theorem portfolio_limits_broken :
    ∃ plan, build_portfolio_plan plain_env (fun _ => (plain_clock, plain_clock)) ""
        broken_candidates plain_constraints ∅ none = some plan
      ∧ plan.accepted = true
      ∧ plan.allocations.map PortfolioAllocation.artifact_id = ["a", "b"]
      ∧ plain_constraints.max_per_symbol_exposure + rounding_slack broken_candidates
        < symbol_exposure plan.allocations "BTCUSDT"
      ∧ total_notional (role_rows plan.allocations "core")
        = 2 / 3 * total_notional plan.allocations
      ∧ ¬ LimitsHold plain_constraints broken_candidates plan.allocations := by
  have hrun : (build_portfolio_plan plain_env (fun _ => (plain_clock, plain_clock)) ""
      broken_candidates plain_constraints ∅ none).map (fun plan =>
        (plan.accepted, plan.allocations.map PortfolioAllocation.artifact_id,
          symbol_exposure plan.allocations "BTCUSDT",
          total_notional (role_rows plan.allocations "core"), total_notional plan.allocations))
      = some (true, ["a", "b"], 100, 100, 150) := by
    decide +kernel
  obtain ⟨plan, hplan, hvalues⟩ := Option.map_eq_some_iff.mp hrun
  simp only [Prod.mk.injEq] at hvalues
  obtain ⟨haccepted, hids, hexposure, hcore, htotal⟩ := hvalues
  refine ⟨plan, hplan, haccepted, hids, ?_, ?_, fun hlimits => ?_⟩
  · rw [hexposure]
    decide +kernel
  · rw [hcore, htotal]
    norm_num
  · have hrole := hlimits.role_fraction "core"
    rw [hcore, htotal] at hrole
    norm_num [plain_constraints] at hrole

end ProofAlpha.Portfolio
