/-
Orders of the execution engine: `execution/order_manager.py`, with the intents of
`order_intent.py`, the states of `order_state.py` and the client ids of
`idempotency.py`.

A call returns its result beside the manager it leaves behind, also where it
raises. An element of `K` is a finite number, so the checks for finite numbers
have no counterpart. SHA-256 is a parameter.
-/
import Mathlib.Data.Finset.Insert
import Mathlib.Data.List.Chain
import ProofAlpha.Lib.CanonicalJson
import ProofAlpha.Lib.Checks
import ProofAlpha.Lib.PyDict
import ProofAlpha.Lib.PyText

set_option autoImplicit false

namespace ProofAlpha.Execution

open ProofAlpha.Lib

/-- The errors of the order manager. -/
inductive OrderError
  | ValueError (message : String)
  | DuplicateIntentError (message : String)
  | InvalidOrderTransitionError (message : String)
  | KeyError (key : String)
  deriving DecidableEq

/-! ## Order states -/

/-- `OrderLifecycleState`. -/
inductive OrderLifecycleState
  | CREATED
  | RISK_APPROVED
  | TRANSLATED
  | SUBMITTED
  | ACKED
  | PARTIALLY_FILLED
  | FILLED
  | CANCEL_REQUESTED
  | CANCELED
  | EXPIRED
  | REJECTED
  | ORPHANED
  | RECONCILED
  deriving DecidableEq

/-- The text of a state. -/
def OrderLifecycleState.value : OrderLifecycleState → String
  | .CREATED => "CREATED"
  | .RISK_APPROVED => "RISK_APPROVED"
  | .TRANSLATED => "TRANSLATED"
  | .SUBMITTED => "SUBMITTED"
  | .ACKED => "ACKED"
  | .PARTIALLY_FILLED => "PARTIALLY_FILLED"
  | .FILLED => "FILLED"
  | .CANCEL_REQUESTED => "CANCEL_REQUESTED"
  | .CANCELED => "CANCELED"
  | .EXPIRED => "EXPIRED"
  | .REJECTED => "REJECTED"
  | .ORPHANED => "ORPHANED"
  | .RECONCILED => "RECONCILED"

/-- `TERMINAL_STATES`. -/
def TERMINAL_STATES : List OrderLifecycleState :=
  [.FILLED, .CANCELED, .EXPIRED, .REJECTED, .RECONCILED]

/-- `ALLOWED_TRANSITIONS.get(state, set())`. -/
def ALLOWED_TRANSITIONS : OrderLifecycleState → List OrderLifecycleState
  | .CREATED => [.RISK_APPROVED, .REJECTED, .EXPIRED]
  | .RISK_APPROVED => [.TRANSLATED, .REJECTED]
  | .TRANSLATED => [.SUBMITTED, .REJECTED]
  | .SUBMITTED => [.ACKED, .REJECTED, .ORPHANED, .CANCEL_REQUESTED]
  | .ACKED => [.PARTIALLY_FILLED, .FILLED, .CANCEL_REQUESTED, .EXPIRED, .ORPHANED]
  | .PARTIALLY_FILLED => [.FILLED, .CANCEL_REQUESTED, .EXPIRED, .ORPHANED]
  | .CANCEL_REQUESTED => [.CANCELED, .FILLED, .ORPHANED]
  | .ORPHANED => [.RECONCILED, .REJECTED]
  | _ => []

/-- `OrderStateEvent`. -/
structure OrderStateEvent where
  order_id : String
  from_state : Option OrderLifecycleState
  to_state : OrderLifecycleState
  reason : String
  deriving DecidableEq

/-- `OrderRecord`. -/
structure OrderRecord where
  order_id : String
  intent_id : String
  lifecycle_state : OrderLifecycleState
  events : List OrderStateEvent
  deriving DecidableEq

/-- `apply_transition`. -/
def apply_transition (record : OrderRecord) (to_state : OrderLifecycleState) (reason : String) :
    Except OrderError OrderRecord :=
  if record.lifecycle_state ∈ TERMINAL_STATES then
    .error (.InvalidOrderTransitionError
      ("terminal_order_state:" ++ record.lifecycle_state.value))
  else if to_state ∉ ALLOWED_TRANSITIONS record.lifecycle_state then
    .error (.InvalidOrderTransitionError
      ("invalid_order_transition:" ++ record.lifecycle_state.value ++ "->" ++ to_state.value))
  else
    .ok
      { order_id := record.order_id
        intent_id := record.intent_id
        lifecycle_state := to_state
        events := record.events ++
          [{ order_id := record.order_id
             from_state := some record.lifecycle_state
             to_state := to_state
             reason := reason }] }

/-- A transition that is made is allowed, appends its event and changes nothing
else. -/
theorem apply_transition_ok {record updated : OrderRecord} {to_state : OrderLifecycleState}
    {reason : String} (h : apply_transition record to_state reason = .ok updated) :
    record.lifecycle_state ∉ TERMINAL_STATES
      ∧ to_state ∈ ALLOWED_TRANSITIONS record.lifecycle_state
      ∧ updated.order_id = record.order_id ∧ updated.intent_id = record.intent_id
      ∧ updated.lifecycle_state = to_state
      ∧ updated.events = record.events ++
          [⟨record.order_id, some record.lifecycle_state, to_state, reason⟩] := by
  unfold apply_transition at h
  split_ifs at h with hterminal hforbidden
  injection h with h
  subst h
  exact ⟨hterminal, hforbidden, rfl, rfl, rfl, rfl⟩

/-! ## Intents -/

/-- `VALID_SIDES`. -/
def VALID_SIDES : List String := ["BUY", "SELL"]

/-- `VALID_INTENT_TYPES`. -/
def VALID_INTENT_TYPES : List String := ["open", "increase", "reduction", "close"]

/-- `VALID_URGENCY`. -/
def VALID_URGENCY : List String := ["low", "normal", "urgent"]

/-- The fields of an intent that `InternalOrderIntent.create` takes. -/
structure IntentFields (K : Type) where
  artifact_id : String
  portfolio_plan_id : String
  symbol : String
  desired_position_delta : K
  side : String
  intent_type : String
  urgency : String
  reduce_only_required : Bool
  max_slippage_bps : K
  max_spread_bps : K
  max_participation_rate : K
  funding_guard_policy : String
  liquidation_guard_policy : String
  created_at : String
  expires_at : String

/-- `InternalOrderIntent`. -/
structure InternalOrderIntent (K : Type) extends IntentFields K where
  intent_id : String

section Intents

variable {K : Type} [Field K] [LinearOrder K]

/-- The issues of `validate_internal_order_intent`; an intent passes without one. -/
def validate_internal_order_intent (intent : InternalOrderIntent K) : List String :=
  ([("intent_id", intent.intent_id), ("artifact_id", intent.artifact_id),
      ("portfolio_plan_id", intent.portfolio_plan_id), ("symbol", intent.symbol),
      ("created_at", intent.created_at), ("expires_at", intent.expires_at)].flatMap
    fun field => reason_if (field.2 = "") ("missing_" ++ field.1))
  ++ reason_if (intent.side ∉ VALID_SIDES) "invalid_side"
  ++ reason_if (intent.intent_type ∉ VALID_INTENT_TYPES) "invalid_intent_type"
  ++ reason_if (intent.urgency ∉ VALID_URGENCY) "invalid_urgency"
  ++ reason_if (intent.reduce_only_required ∧ intent.side ≠ "SELL") "reduce_only_side_mismatch"
  ++ reason_if (intent.desired_position_delta = 0) "zero_desired_position_delta"
  ++ reason_if
      (min (min intent.max_slippage_bps intent.max_spread_bps) intent.max_participation_rate < 0)
      "negative_risk_bound"
  ++ reason_if (1 < intent.max_participation_rate) "participation_rate_gt_one"
  ++ reason_if (intent.funding_guard_policy = "") "missing_funding_guard_policy"
  ++ reason_if (intent.liquidation_guard_policy = "") "missing_liquidation_guard_policy"

end Intents

/-! ## Hashes -/

/-- The texts of floats, and SHA-256 in hexadecimal. -/
structure OrderEnv (K : Type) where
  floats : JsonFloats K
  hexdigest : String → String

/-- `text[:n]`. -/
def text_prefix (n : ℕ) (text : String) : String := String.ofList (text.toList.take n)

section Hashes

variable {K : Type} (env : OrderEnv K)

/-- `_stable_hash(payload)[:n]`. -/
def stable_hash_prefix (n : ℕ) (payload : JsonObject K) : String :=
  text_prefix n (env.hexdigest (canonical_json env.floats (.dict payload)))

/-- The payload of `InternalOrderIntent.create`. -/
def intent_payload (fields : IntentFields K) : JsonObject K :=
  [("artifact_id", .str fields.artifact_id),
   ("portfolio_plan_id", .str fields.portfolio_plan_id),
   ("symbol", .str fields.symbol),
   ("desired_position_delta", .float fields.desired_position_delta),
   ("side", .str fields.side),
   ("intent_type", .str fields.intent_type),
   ("urgency", .str fields.urgency),
   ("reduce_only_required", .bool fields.reduce_only_required),
   ("max_slippage_bps", .float fields.max_slippage_bps),
   ("max_spread_bps", .float fields.max_spread_bps),
   ("max_participation_rate", .float fields.max_participation_rate),
   ("funding_guard_policy", .str fields.funding_guard_policy),
   ("liquidation_guard_policy", .str fields.liquidation_guard_policy),
   ("created_at", .str fields.created_at),
   ("expires_at", .str fields.expires_at)]

/-- `InternalOrderIntent.create`. -/
def InternalOrderIntent.create (fields : IntentFields K) : InternalOrderIntent K :=
  let fields := { fields with side := pyUpper fields.side }
  { fields with intent_id := stable_hash_prefix env 48 (intent_payload fields) }

/-- The payload of `deterministic_client_order_id`. -/
def client_payload (venue : String) (intent : InternalOrderIntent K) : JsonObject K :=
  [("venue", .str venue),
   ("intent_id", .str intent.intent_id),
   ("artifact_id", .str intent.artifact_id),
   ("portfolio_plan_id", .str intent.portfolio_plan_id),
   ("symbol", .str intent.symbol),
   ("side", .str intent.side),
   ("delta", .float intent.desired_position_delta)]

/-- `deterministic_client_order_id`. -/
def deterministic_client_order_id (venue : String) (intent : InternalOrderIntent K) : String :=
  "cid-" ++ stable_hash_prefix env 28 (client_payload venue intent)

/-- The payload of an order id in `create_order`. -/
def order_payload (venue intent_id : String) : JsonObject K :=
  [("venue", .str venue), ("intent_id", .str intent_id)]

/-- The order id of an intent id. -/
def order_id_of (venue intent_id : String) : String :=
  "order-" ++ stable_hash_prefix env 24 (order_payload venue intent_id)

end Hashes

/-! ## The manager -/

/-- `OrderManager`, with the ids of its `IdempotencyManager`. -/
structure OrderManager where
  venue : String
  client_order_ids : Finset String
  orders : Dict String OrderRecord
  order_by_intent : Dict String String

/-- `OrderManager(venue=venue)`. -/
def OrderManager.new (venue : String) : OrderManager where
  venue := venue
  client_order_ids := ∅
  orders := ∅
  order_by_intent := ∅

/-- The record `create_order` stores. -/
def created_record (order_id intent_id : String) : OrderRecord where
  order_id := order_id
  intent_id := intent_id
  lifecycle_state := .CREATED
  events := [⟨order_id, none, .CREATED, "intent_created"⟩]

section Calls

variable {K : Type} [Field K] [LinearOrder K] (env : OrderEnv K)

/-- `IdempotencyManager.register`: whether the intent is new, and the ids known
afterwards. -/
def register (client_order_ids : Finset String) (venue : String) (intent : InternalOrderIntent K) :
    Bool × Finset String :=
  let client_id := deterministic_client_order_id env venue intent
  if client_id ∈ client_order_ids then (false, client_order_ids)
  else (true, insert client_id client_order_ids)

/-- `OrderManager.create_order`. -/
def create_order (manager : OrderManager) (intent : InternalOrderIntent K) :
    Except OrderError OrderRecord × OrderManager :=
  let issues := validate_internal_order_intent intent
  if issues ≠ [] then (.error (.ValueError (",".intercalate issues)), manager)
  else
    let registered := register env manager.client_order_ids manager.venue intent
    let manager := { manager with client_order_ids := registered.2 }
    if registered.1 = false then
      (.error (.DuplicateIntentError ("duplicate_intent:" ++ intent.intent_id)), manager)
    else
      let order_id := order_id_of env manager.venue intent.intent_id
      let record := created_record order_id intent.intent_id
      (.ok record,
        { manager with
          orders := manager.orders.insert order_id record
          order_by_intent := manager.order_by_intent.insert intent.intent_id order_id })

/-- `OrderManager.transition`. -/
def transition (manager : OrderManager) (order_id : String) (to_state : OrderLifecycleState)
    (reason : String) : Except OrderError OrderRecord × OrderManager :=
  match manager.orders.lookup order_id with
  | none => (.error (.KeyError order_id), manager)
  | some record =>
      match apply_transition record to_state reason with
      | .error error => (.error error, manager)
      | .ok updated =>
          (.ok updated, { manager with orders := manager.orders.insert order_id updated })

/-- A call of the manager. -/
inductive OrderCall (K : Type)
  | create_order (intent : InternalOrderIntent K)
  | transition (order_id : String) (to_state : OrderLifecycleState) (reason : String)

/-- One call. -/
def order_call (manager : OrderManager) : OrderCall K → Except OrderError OrderRecord × OrderManager
  | .create_order intent => create_order env manager intent
  | .transition order_id to_state reason => transition manager order_id to_state reason

/-- The manager after a sequence of calls, successful or not. -/
def manager_after (venue : String) (calls : List (OrderCall K)) : OrderManager :=
  calls.foldl (fun manager call => (order_call env manager call).2) (OrderManager.new venue)

/-- The call is accepted by `create_order`: the intent passes and is new. -/
def Accepted (manager : OrderManager) (intent : InternalOrderIntent K) : Prop :=
  validate_internal_order_intent intent = []
    ∧ deterministic_client_order_id env manager.venue intent ∉ manager.client_order_ids

/-! ### What a call can do -/

/-- A refused intent leaves the manager as it was. -/
theorem create_order_refused {manager : OrderManager} {intent : InternalOrderIntent K}
    (h : ¬ Accepted env manager intent) :
    ∃ error, create_order env manager intent = (.error error, manager) := by
  unfold create_order
  by_cases hissues : validate_internal_order_intent intent = []
  · have hknown : deterministic_client_order_id env manager.venue intent
        ∈ manager.client_order_ids := by
      by_contra hnew
      exact h ⟨hissues, hnew⟩
    have hregister : register env manager.client_order_ids manager.venue intent
        = (false, manager.client_order_ids) := if_pos hknown
    dsimp only
    rw [if_neg (not_not.mpr hissues), hregister, if_pos rfl]
    exact ⟨_, rfl⟩
  · exact ⟨_, if_pos hissues⟩

/-- An accepted intent gets a new record under the order id of its intent id. -/
theorem create_order_accepted {manager : OrderManager} {intent : InternalOrderIntent K}
    (h : Accepted env manager intent) :
    create_order env manager intent =
      (.ok (created_record (order_id_of env manager.venue intent.intent_id) intent.intent_id),
        { manager with
          client_order_ids := insert (deterministic_client_order_id env manager.venue intent)
            manager.client_order_ids
          orders := manager.orders.insert (order_id_of env manager.venue intent.intent_id)
            (created_record (order_id_of env manager.venue intent.intent_id) intent.intent_id)
          order_by_intent := manager.order_by_intent.insert intent.intent_id
            (order_id_of env manager.venue intent.intent_id) }) := by
  have hregister : register env manager.client_order_ids manager.venue intent
      = (true, insert (deterministic_client_order_id env manager.venue intent)
          manager.client_order_ids) := if_neg h.2
  unfold create_order
  dsimp only
  rw [if_neg (not_not.mpr h.1), hregister]
  exact if_neg (show ¬ true = false by decide)

/-- A transition raises and changes nothing, or replaces one record by the next
one. -/
theorem transition_cases (manager : OrderManager) (order_id : String)
    (to_state : OrderLifecycleState) (reason : String) :
    (∃ error, transition manager order_id to_state reason = (.error error, manager))
      ∨ ∃ record updated, manager.orders.lookup order_id = some record
          ∧ apply_transition record to_state reason = .ok updated
          ∧ transition manager order_id to_state reason
            = (.ok updated, { manager with orders := manager.orders.insert order_id updated }) := by
  unfold transition
  cases hrecord : manager.orders.lookup order_id with
  | none => exact Or.inl ⟨_, rfl⟩
  | some record =>
      cases hupdated : apply_transition record to_state reason with
      | error error => exact Or.inl ⟨error, by simp only [hupdated]⟩
      | ok updated => exact Or.inr ⟨record, updated, rfl, hupdated, by simp only [hupdated]⟩

end Calls

end ProofAlpha.Execution

/-!
Which fill histories an order accepts.

A list of transitions is accepted when every state is allowed after the one before it
(`transitions_accepted_iff`). No state is allowed after itself, so an acknowledged order
takes one partial fill and then its end, and refuses the second partial fill.
-/

namespace ProofAlpha.Execution

open ProofAlpha.Lib

/-! ## Lists of transitions -/

/-- A transition and its reason. -/
abbrev Transition := OrderLifecycleState × String

/-- `apply_transition` for each transition in turn. -/
def apply_transitions (record : OrderRecord) (transitions : List Transition) :
    Except OrderError OrderRecord :=
  transitions.foldlM (fun current transition => apply_transition current transition.1 transition.2)
    record

/-- `apply_transition` goes from the one state to the other. -/
def Allowed (from_state to_state : OrderLifecycleState) : Prop :=
  from_state ∉ TERMINAL_STATES ∧ to_state ∈ ALLOWED_TRANSITIONS from_state

instance (from_state to_state : OrderLifecycleState) : Decidable (Allowed from_state to_state) :=
  inferInstanceAs (Decidable (_ ∧ _))

theorem exists_apply_transition {record : OrderRecord} {to_state : OrderLifecycleState}
    (h : Allowed record.lifecycle_state to_state) (reason : String) :
    ∃ updated, apply_transition record to_state reason = .ok updated
      ∧ updated.lifecycle_state = to_state := by
  unfold apply_transition
  rw [if_neg h.1, if_neg (not_not.mpr h.2)]
  exact ⟨_, rfl, rfl⟩

/-- The transitions are accepted when each state is allowed after the one before it. -/
theorem transitions_accepted_iff (transitions : List Transition) : ∀ record : OrderRecord,
    (∃ final, apply_transitions record transitions = .ok final)
      ↔ List.IsChain Allowed (record.lifecycle_state :: transitions.map Prod.fst) := by
  induction transitions with
  | nil =>
      intro record
      exact ⟨fun _ => List.isChain_singleton _, fun _ => ⟨record, rfl⟩⟩
  | cons transition rest ih =>
      intro record
      rw [List.map_cons, List.isChain_cons_cons]
      unfold apply_transitions
      rw [List.foldlM_cons]
      constructor
      · rintro ⟨final, hfinal⟩
        obtain ⟨updated, hfirst, hrest⟩ := bind_ok hfinal
        obtain ⟨hterminal, hallowed, -, -, hstate, -⟩ := apply_transition_ok hfirst
        refine ⟨⟨hterminal, hallowed⟩, ?_⟩
        rw [← hstate]
        exact (ih updated).mp ⟨final, hrest⟩
      · rintro ⟨hallowed, hchain⟩
        obtain ⟨updated, hfirst, hstate⟩ := exists_apply_transition hallowed transition.2
        rw [hfirst, ok_bind]
        rw [← hstate] at hchain
        exact (ih updated).mpr hchain

/-! ## Fill histories -/

/-- How an order ends after its partial fills: it is filled, or it is canceled, with or
without a cancel request before. -/
inductive FillEnding
  | filled
  | canceled
  | canceled_on_request
  deriving DecidableEq

/-- The states of the ending. -/
def FillEnding.states : FillEnding → List OrderLifecycleState
  | .filled => [.FILLED]
  | .canceled => [.CANCELED]
  | .canceled_on_request => [.CANCEL_REQUESTED, .CANCELED]

/-- The states an acknowledged order goes through when it is partially filled `fills`
times and then ends. -/
def fill_history (fills : ℕ) (ending : FillEnding) : List OrderLifecycleState :=
  List.replicate fills .PARTIALLY_FILLED ++ ending.states

/-- A second partial fill is not allowed after the first. -/
theorem not_isChain_two_fills (state : OrderLifecycleState) (fills : ℕ) (ending : FillEnding) :
    ¬ List.IsChain Allowed (state :: fill_history (fills + 2) ending) := by
  intro hchain
  have hrest : List.IsChain Allowed
      (.PARTIALLY_FILLED :: .PARTIALLY_FILLED
        :: (List.replicate fills .PARTIALLY_FILLED ++ ending.states)) :=
    (List.isChain_cons_cons.mp hchain).2
  have hself : ¬ Allowed .PARTIALLY_FILLED .PARTIALLY_FILLED := by decide
  exact hself (List.isChain_cons_cons.mp hrest).1

theorem isChain_one_fill_iff (ending : FillEnding) :
    List.IsChain Allowed (.ACKED :: fill_history 1 ending) ↔ ending ≠ .canceled := by
  cases ending with
  | filled => decide
  | canceled => decide
  | canceled_on_request => decide

/-- An acknowledged order that is partially filled at least once and then ends accepts its
history exactly when it is partially filled once, and is not canceled without a
request. -/
theorem fill_history_accepted_iff {record : OrderRecord} (hacked : record.lifecycle_state = .ACKED)
    {fills : ℕ} (hfills : 1 ≤ fills) (ending : FillEnding) {transitions : List Transition}
    (hstates : transitions.map Prod.fst = fill_history fills ending) :
    (∃ final, apply_transitions record transitions = .ok final)
      ↔ fills = 1 ∧ ending ≠ .canceled := by
  rw [transitions_accepted_iff, hacked, hstates]
  obtain hone | ⟨more, hmore⟩ : fills = 1 ∨ ∃ more, fills = more + 2 := by
    rcases Nat.lt_or_ge fills 2 with hlt | hge
    · exact Or.inl (by omega)
    · exact Or.inr ⟨fills - 2, by omega⟩
  · subst hone
    rw [isChain_one_fill_iff]
    simp
  · subst hmore
    constructor
    · intro hchain
      exact absurd hchain (not_isChain_two_fills _ more ending)
    · rintro ⟨hone, -⟩
      omega

/-- An acknowledged order. -/
def acked_order : OrderRecord := ⟨"order-1", "intent-1", .ACKED, []⟩

/-- It accepts one partial fill and the fill that completes it. -/
theorem one_fill_accepted :
    ∃ final, apply_transitions acked_order
      [(.PARTIALLY_FILLED, "fill 1"), (.FILLED, "fill 2")] = .ok final :=
  (fill_history_accepted_iff rfl le_rfl .filled rfl).mpr ⟨rfl, by decide⟩

/-- It refuses the second of two partial fills. -/
theorem second_fill_refused :
    apply_transitions acked_order
        [(.PARTIALLY_FILLED, "fill 1"), (.PARTIALLY_FILLED, "fill 2"), (.FILLED, "fill 3")]
      = .error (.InvalidOrderTransitionError
        "invalid_order_transition:PARTIALLY_FILLED->PARTIALLY_FILLED") := by
  decide

end ProofAlpha.Execution
