/-
What holds of the orders over the calls of an order manager.

The events of every order are a path of allowed transitions to its state, an
intent id has one order, and a call that raises changes nothing
(`manager_after_inv`, `order_call_raised`). The order id is a hash of the intent
id alone, while a repeated intent is recognised by its client id, which also
covers artifact, plan, symbol, side and delta: an intent id that comes with
another of these takes its order back to `CREATED`, from any state.
`orders_sound_iff` says for which calls this touches no terminal order, and
`created_orders_sound` that it does not where the intents come from
`InternalOrderIntent.create`.
-/
import ProofAlpha.Execution.OrderManager

set_option autoImplicit false

namespace ProofAlpha.Execution

open ProofAlpha.Lib

/-! ## Paths of events -/

/-- The events lead an order from one state to another, each by an allowed
transition. -/
def EventPath (order_id : String) :
    OrderLifecycleState → List OrderStateEvent → OrderLifecycleState → Prop
  | state, [], last => state = last
  | state, event :: events, last =>
      event.order_id = order_id ∧ event.from_state = some state
        ∧ event.to_state ∈ ALLOWED_TRANSITIONS state
        ∧ EventPath order_id event.to_state events last

/-- The events of a record are its creation and a path from there to its state. -/
def RecordPath (order_id : String) (record : OrderRecord) : Prop :=
  record.order_id = order_id ∧ ∃ rest,
    record.events = ⟨order_id, none, .CREATED, "intent_created"⟩ :: rest
      ∧ EventPath order_id .CREATED rest record.lifecycle_state

/-- A path is extended by an allowed transition from its end. -/
theorem EventPath.append {order_id reason : String} {to_state last : OrderLifecycleState}
    {events : List OrderStateEvent} (hallowed : to_state ∈ ALLOWED_TRANSITIONS last) :
    ∀ {state : OrderLifecycleState}, EventPath order_id state events last →
      EventPath order_id state (events ++ [⟨order_id, some last, to_state, reason⟩]) to_state := by
  induction events with
  | nil =>
      intro state h
      obtain rfl : state = last := h
      exact ⟨rfl, rfl, hallowed, rfl⟩
  | cons event events ih =>
      intro state h
      obtain ⟨hid, hfrom, hto, hrest⟩ := h
      exact ⟨hid, hfrom, hto, ih hrest⟩

theorem created_record_path (order_id intent_id : String) :
    RecordPath order_id (created_record order_id intent_id) := ⟨rfl, [], rfl, rfl⟩

/-- A transition that is made extends the path of the record. -/
theorem RecordPath.apply_transition {order_id reason : String} {record updated : OrderRecord}
    {to_state : OrderLifecycleState} (hpath : RecordPath order_id record)
    (h : apply_transition record to_state reason = .ok updated) : RecordPath order_id updated := by
  obtain ⟨hid, rest, hevents, hrest⟩ := hpath
  obtain ⟨-, hallowed, hid', -, hstate, hevents'⟩ := apply_transition_ok h
  refine ⟨hid'.trans hid, rest ++ [⟨order_id, some record.lifecycle_state, to_state, reason⟩],
    ?_, ?_⟩
  · rw [hevents', hevents, hid, List.cons_append]
  · rw [hstate]
    exact hrest.append hallowed

section Runs

variable {K : Type} (env : OrderEnv K)

/-! ## The invariant -/

/-- The intents that the calls ask to create. -/
def requested_intents (calls : List (OrderCall K)) : List (InternalOrderIntent K) :=
  calls.filterMap fun
    | .create_order intent => some intent
    | .transition .. => none

/-- What ties the three tables of a manager together. -/
structure ManagerInv (venue : String) (intents : List (InternalOrderIntent K))
    (manager : OrderManager) : Prop where
  venue_eq : manager.venue = venue
  path : ∀ order_id record, manager.orders.lookup order_id = some record →
    RecordPath order_id record
  indexed : ∀ order_id record, manager.orders.lookup order_id = some record →
    manager.order_by_intent.lookup record.intent_id = some order_id
  known : ∀ intent_id order_id, manager.order_by_intent.lookup intent_id = some order_id →
    order_id = order_id_of env venue intent_id ∧ ∃ intent ∈ intents, intent.intent_id = intent_id
      ∧ deterministic_client_order_id env venue intent ∈ manager.client_order_ids

theorem manager_new_inv (venue : String) : ManagerInv env venue [] (OrderManager.new venue) where
  venue_eq := rfl
  path := by
    intro order_id record h
    cases h
  indexed := by
    intro order_id record h
    cases h
  known := by
    intro intent_id order_id h
    cases h

variable {env} {venue : String} {intents : List (InternalOrderIntent K)} {manager : OrderManager}

/-- More intents may have been asked for. -/
theorem ManagerInv.mono {intents' : List (InternalOrderIntent K)} (hsub : intents ⊆ intents')
    (hinv : ManagerInv env venue intents manager) : ManagerInv env venue intents' manager :=
  { hinv with
    known := by
      intro intent_id order_id h
      obtain ⟨hid, intent, hmem, hrest⟩ := hinv.known intent_id order_id h
      exact ⟨hid, intent, hsub hmem, hrest⟩ }

/-- The id of a record is that of its intent id. -/
theorem ManagerInv.order_id_eq (hinv : ManagerInv env venue intents manager) {order_id : String}
    {record : OrderRecord} (h : manager.orders.lookup order_id = some record) :
    order_id = order_id_of env venue record.intent_id :=
  (hinv.known _ _ (hinv.indexed _ _ h)).1

/-- An intent id has one order. -/
theorem ManagerInv.one_order (hinv : ManagerInv env venue intents manager)
    {order_id order_id' : String} {record record' : OrderRecord}
    (h : manager.orders.lookup order_id = some record)
    (h' : manager.orders.lookup order_id' = some record')
    (hsame : record.intent_id = record'.intent_id) : order_id = order_id' := by
  have hindexed := hinv.indexed _ _ h
  rw [hsame, hinv.indexed _ _ h'] at hindexed
  exact (Option.some.inj hindexed).symm

theorem transition_inv (hinv : ManagerInv env venue intents manager) (order_id : String)
    (to_state : OrderLifecycleState) (reason : String) :
    ManagerInv env venue intents (transition manager order_id to_state reason).2 := by
  rcases transition_cases manager order_id to_state reason with
    ⟨error, hraised⟩ | ⟨record, updated, hrecord, hupdated, hmade⟩
  · rw [hraised]
    exact hinv
  · have hintent : updated.intent_id = record.intent_id := (apply_transition_ok hupdated).2.2.2.1
    rw [hmade]
    refine ⟨hinv.venue_eq, ?_, ?_, hinv.known⟩
    · intro order_id' record' h
      by_cases hid : order_id' = order_id
      · subst hid
        rw [AList.lookup_insert] at h
        obtain rfl := Option.some.inj h
        exact (hinv.path _ _ hrecord).apply_transition hupdated
      · rw [AList.lookup_insert_ne hid] at h
        exact hinv.path _ _ h
    · intro order_id' record' h
      by_cases hid : order_id' = order_id
      · subst hid
        rw [AList.lookup_insert] at h
        obtain rfl := Option.some.inj h
        rw [hintent]
        exact hinv.indexed _ _ hrecord
      · rw [AList.lookup_insert_ne hid] at h
        exact hinv.indexed _ _ h

/-! ## Hashes of a run -/

variable (env) in
/-- Different payloads of the list have different hashes, cut to `n` characters. -/
def CollisionFree (n : ℕ) (payloads : List (JsonObject K)) : Prop :=
  ∀ p ∈ payloads, ∀ q ∈ payloads, stable_hash_prefix env n p = stable_hash_prefix env n q →
    canonical_json env.floats (.dict p) = canonical_json env.floats (.dict q)

/-- The payloads whose hashes are the order ids of the calls. -/
def order_payloads (venue : String) (calls : List (OrderCall K)) : List (JsonObject K) :=
  (requested_intents calls).map fun intent => order_payload venue intent.intent_id

/-- Equal order ids of the run are order ids of one intent id. -/
theorem intent_id_of_order_id {calls : List (OrderCall K)}
    (hfree : CollisionFree env 24 (order_payloads venue calls))
    {intent intent' : InternalOrderIntent K} (hmem : intent ∈ requested_intents calls)
    (hmem' : intent' ∈ requested_intents calls)
    (h : order_id_of env venue intent.intent_id = order_id_of env venue intent'.intent_id) :
    intent.intent_id = intent'.intent_id := by
  have hhash : stable_hash_prefix env 24 (order_payload venue intent.intent_id)
      = stable_hash_prefix env 24 (order_payload venue intent'.intent_id) :=
    String.append_right_inj "order-" |>.mp h
  have htext := hfree _ (List.mem_map_of_mem hmem) _ (List.mem_map_of_mem hmem') hhash
  have hfield := canonical_field_eq env.floats htext "intent_id"
  exact JsonValue.str.inj (Option.some.inj hfield)

/-! ## Calls -/

variable [Field K] [LinearOrder K]

theorem create_order_inv (hinv : ManagerInv env venue intents manager)
    (intent : InternalOrderIntent K) :
    ManagerInv env venue (intents ++ [intent]) (create_order env manager intent).2 := by
  by_cases haccepted : Accepted env manager intent
  · rw [create_order_accepted env haccepted, hinv.venue_eq]
    refine ⟨rfl, ?_, ?_, ?_⟩
    · intro order_id record h
      by_cases hid : order_id = order_id_of env venue intent.intent_id
      · subst hid
        rw [AList.lookup_insert] at h
        obtain rfl := Option.some.inj h
        exact created_record_path _ _
      · rw [AList.lookup_insert_ne hid] at h
        exact hinv.path _ _ h
    · intro order_id record h
      by_cases hid : order_id = order_id_of env venue intent.intent_id
      · subst hid
        rw [AList.lookup_insert] at h
        obtain rfl := Option.some.inj h
        exact AList.lookup_insert _
      · -- the record belongs to another intent id, as it has another order id
        rw [AList.lookup_insert_ne hid] at h
        have hother : record.intent_id ≠ intent.intent_id := by
          intro hsame
          exact hid (hsame ▸ hinv.order_id_eq h)
        rw [AList.lookup_insert_ne hother]
        exact hinv.indexed _ _ h
    · intro intent_id order_id h
      by_cases hid : intent_id = intent.intent_id
      · subst hid
        rw [AList.lookup_insert] at h
        exact ⟨(Option.some.inj h).symm, intent, List.mem_append_right _ (List.mem_singleton_self _),
          rfl, Finset.mem_insert_self _ _⟩
      · rw [AList.lookup_insert_ne hid] at h
        obtain ⟨horder, intent', hmem, hintent, hclient⟩ := hinv.known _ _ h
        exact ⟨horder, intent', List.mem_append_left _ hmem, hintent,
          Finset.mem_insert_of_mem hclient⟩
  · obtain ⟨error, hrefused⟩ := create_order_refused env haccepted
    rw [hrefused]
    exact hinv.mono (List.subset_append_left _ _)

theorem manager_after_append (calls : List (OrderCall K)) (call : OrderCall K) :
    manager_after env venue (calls ++ [call])
      = (order_call env (manager_after env venue calls) call).2 := by
  rw [manager_after, List.foldl_append]
  rfl

variable (env venue) in
/-- The invariant holds after every sequence of calls. -/
theorem manager_after_inv (calls : List (OrderCall K)) :
    ManagerInv env venue (requested_intents calls) (manager_after env venue calls) := by
  induction calls using List.reverseRecOn with
  | nil => exact manager_new_inv env venue
  | append_singleton calls call ih =>
      rw [manager_after_append, requested_intents, List.filterMap_append]
      cases call with
      | create_order intent => exact create_order_inv ih intent
      | transition order_id to_state reason =>
          rw [List.filterMap_cons_none rfl, List.filterMap_nil, List.append_nil]
          exact transition_inv ih order_id to_state reason

/-- A call that raises leaves the manager as it was. -/
theorem order_call_raised {call : OrderCall K} {error : OrderError}
    (h : (order_call env manager call).1 = .error error) :
    (order_call env manager call).2 = manager := by
  cases call with
  | create_order intent =>
      by_cases haccepted : Accepted env manager intent
      · rw [order_call, create_order_accepted env haccepted] at h
        cases h
      · obtain ⟨_, hrefused⟩ := create_order_refused env haccepted
        rw [order_call, hrefused]
  | transition order_id to_state reason =>
      rcases transition_cases manager order_id to_state reason with
        ⟨_, hraised⟩ | ⟨_, _, _, _, hmade⟩
      · rw [order_call, hraised]
      · rw [order_call, hmade] at h
        cases h

/-! ## Terminal orders -/

theorem created_not_terminal : OrderLifecycleState.CREATED ∉ TERMINAL_STATES := by decide

variable (env) in
/-- The call is an accepted intent whose intent id has a terminal order. -/
def ReplacesTerminal (manager : OrderManager) : OrderCall K → Prop
  | .create_order intent => Accepted env manager intent
      ∧ ∃ order_id record, manager.order_by_intent.lookup intent.intent_id = some order_id
        ∧ manager.orders.lookup order_id = some record
        ∧ record.lifecycle_state ∈ TERMINAL_STATES
  | .transition .. => False

/-- A terminal order keeps its record over every other call. -/
theorem order_call_terminal {calls : List (OrderCall K)} {call : OrderCall K}
    (hfree : CollisionFree env 24 (order_payloads venue calls))
    (hinv : ManagerInv env venue (requested_intents calls) manager) (hcall : call ∈ calls)
    (hkeeps : ¬ ReplacesTerminal env manager call) {order_id : String} {record : OrderRecord}
    (h : manager.orders.lookup order_id = some record)
    (hterminal : record.lifecycle_state ∈ TERMINAL_STATES) :
    (order_call env manager call).2.orders.lookup order_id = some record := by
  cases call with
  | create_order intent =>
      by_cases haccepted : Accepted env manager intent
      · have hindexed := hinv.indexed _ _ h
        obtain ⟨horder, intent', hmem', hintent', -⟩ := hinv.known _ _ hindexed
        have hmem : intent ∈ requested_intents calls := List.mem_filterMap.mpr ⟨_, hcall, rfl⟩
        have hother : order_id ≠ order_id_of env venue intent.intent_id := by
          intro hsame
          rw [← hintent'] at horder hindexed
          have hid := intent_id_of_order_id hfree hmem' hmem (horder.symm.trans hsame)
          exact hkeeps ⟨haccepted, order_id, record, hid ▸ hindexed, h, hterminal⟩
        rw [order_call, create_order_accepted env haccepted, hinv.venue_eq]
        exact (AList.lookup_insert_ne hother).trans h
      · obtain ⟨_, hrefused⟩ := create_order_refused env haccepted
        rw [order_call, hrefused]
        exact h
  | transition order_id' to_state reason =>
      rcases transition_cases manager order_id' to_state reason with
        ⟨_, hraised⟩ | ⟨record', _, hrecord', hupdated, hmade⟩
      · rw [order_call, hraised]
        exact h
      · have hother : order_id ≠ order_id' := by
          rintro rfl
          rw [h] at hrecord'
          obtain rfl := Option.some.inj hrecord'
          exact (apply_transition_ok hupdated).1 hterminal
        rw [order_call, hmade]
        exact (AList.lookup_insert_ne hother).trans h

/-- The order of an intent id that comes again and is accepted is new. -/
theorem order_call_replaced (hinv : ManagerInv env venue intents manager)
    {intent : InternalOrderIntent K} (haccepted : Accepted env manager intent) {order_id : String}
    (h : manager.order_by_intent.lookup intent.intent_id = some order_id) :
    (order_call env manager (.create_order intent)).2.orders.lookup order_id
      = some (created_record order_id intent.intent_id) := by
  obtain rfl := (hinv.known _ _ h).1
  rw [order_call, create_order_accepted env haccepted, hinv.venue_eq]
  exact AList.lookup_insert _

/-! ## Whole runs -/

variable (env) in
/-- The orders of a manager are sound over the calls: in every state reached the
events of every order are a path to its state and an intent id has one order, a
terminal order never changes, and a call that raises changes nothing. -/
structure OrdersSound (venue : String) (calls : List (OrderCall K)) : Prop where
  path : ∀ k order_id record,
    (manager_after env venue (calls.take k)).orders.lookup order_id = some record →
      RecordPath order_id record
  one_order : ∀ k order_id order_id' record record',
    (manager_after env venue (calls.take k)).orders.lookup order_id = some record →
    (manager_after env venue (calls.take k)).orders.lookup order_id' = some record' →
    record.intent_id = record'.intent_id → order_id = order_id'
  terminal : ∀ i j, i ≤ j → ∀ order_id record,
    (manager_after env venue (calls.take i)).orders.lookup order_id = some record →
    record.lifecycle_state ∈ TERMINAL_STATES →
      (manager_after env venue (calls.take j)).orders.lookup order_id = some record
  raised : ∀ k call error, calls[k]? = some call →
    (order_call env (manager_after env venue (calls.take k)) call).1 = .error error →
      (order_call env (manager_after env venue (calls.take k)) call).2
        = manager_after env venue (calls.take k)

theorem manager_after_take_succ {calls : List (OrderCall K)} {k : ℕ} {call : OrderCall K}
    (h : calls[k]? = some call) : manager_after env venue (calls.take (k + 1))
      = (order_call env (manager_after env venue (calls.take k)) call).2 := by
  rw [List.take_add_one, h, Option.toList_some, manager_after_append]

theorem manager_after_take_inv (calls : List (OrderCall K)) (k : ℕ) :
    ManagerInv env venue (requested_intents calls)
      (manager_after env venue (calls.take k)) :=
  (manager_after_inv env venue (calls.take k)).mono
    ((List.take_sublist k calls).filterMap _).subset

/-- Where no call replaces a terminal order, terminal orders stay. -/
theorem terminal_unchanged {calls : List (OrderCall K)}
    (hfree : CollisionFree env 24 (order_payloads venue calls))
    (hkeeps : ∀ k call, calls[k]? = some call →
      ¬ ReplacesTerminal env (manager_after env venue (calls.take k)) call)
    {i j : ℕ} (hij : i ≤ j) {order_id : String} {record : OrderRecord}
    (h : (manager_after env venue (calls.take i)).orders.lookup order_id = some record)
    (hterminal : record.lifecycle_state ∈ TERMINAL_STATES) :
    (manager_after env venue (calls.take j)).orders.lookup order_id = some record := by
  induction j, hij using Nat.le_induction with
  | base => exact h
  | succ j hij ih =>
      cases hcall : calls[j]? with
      | none =>
          rw [List.take_add_one, hcall, Option.toList_none, List.append_nil]
          exact ih
      | some call =>
          rw [manager_after_take_succ hcall]
          exact order_call_terminal hfree (manager_after_take_inv calls j)
            (List.mem_of_getElem? hcall) (hkeeps j call hcall) ih hterminal

/-- Where no call replaces a terminal order, the orders are sound. -/
theorem orders_sound_of_kept {calls : List (OrderCall K)}
    (hfree : CollisionFree env 24 (order_payloads venue calls))
    (hkeeps : ∀ k call, calls[k]? = some call →
      ¬ ReplacesTerminal env (manager_after env venue (calls.take k)) call) :
    OrdersSound env venue calls where
  path := fun k _ _ h => (manager_after_take_inv calls k).path _ _ h
  one_order := fun k _ _ _ _ h h' hsame => (manager_after_take_inv calls k).one_order h h' hsame
  terminal := fun _ _ hij _ _ h hterminal => terminal_unchanged hfree hkeeps hij h hterminal
  raised := fun _ _ _ _ h => order_call_raised h

/-- The orders are sound if and only if no accepted intent has the intent id of
a terminal order. -/
theorem orders_sound_iff (venue : String) (calls : List (OrderCall K))
    (hfree : CollisionFree env 24 (order_payloads venue calls)) :
    OrdersSound env venue calls ↔ ∀ k call, calls[k]? = some call →
      ¬ ReplacesTerminal env (manager_after env venue (calls.take k)) call := by
  constructor
  · intro hsound k call hcall hreplaces
    cases call with
    | transition => exact hreplaces
    | create_order intent =>
        obtain ⟨haccepted, order_id, record, hindex, hrecord, hterminal⟩ := hreplaces
        have hkept := hsound.terminal k (k + 1) (Nat.le_succ k) order_id record hrecord hterminal
        rw [manager_after_take_succ hcall, order_call_replaced (manager_after_take_inv calls k)
          haccepted hindex] at hkept
        obtain rfl := Option.some.inj hkept
        exact created_not_terminal hterminal
  · exact orders_sound_of_kept hfree

/-! ## A rejected order that comes back

Texts are hashed by writing them backwards. -/

section Recreated

/-- An environment that writes texts backwards. -/
def mirror_env : OrderEnv ℚ where
  floats := JsonFloats.rat
  hexdigest := fun text => String.ofList text.toList.reverse

/-- An intent to buy one unit of a symbol. -/
def buy_intent (symbol : String) : InternalOrderIntent ℚ where
  intent_id := "intent-1"
  artifact_id := "artifact-btc"
  portfolio_plan_id := "portfolio-v1"
  symbol := symbol
  desired_position_delta := 1
  side := "BUY"
  intent_type := "open"
  urgency := "normal"
  reduce_only_required := false
  max_slippage_bps := 8
  max_spread_bps := 5
  max_participation_rate := 1 / 10
  funding_guard_policy := "block"
  liquidation_guard_policy := "block"
  created_at := "2026-05-07T00:00:00Z"
  expires_at := "2026-05-07T00:15:00Z"

/-- An order is created and rejected. -/
def rejected_calls : List (OrderCall ℚ) :=
  [.create_order (buy_intent "BTCUSDT"),
   .transition (order_id_of mirror_env "binance_usdm" "intent-1") .REJECTED "risk_gate_failed"]

/-- Its intent id comes again with another symbol. -/
def recreated_calls : List (OrderCall ℚ) :=
  rejected_calls ++ [.create_order (buy_intent "BTCUSDC")]

theorem recreated_collision_free :
    CollisionFree mirror_env 24 (order_payloads "binance_usdm" recreated_calls) := by
  have hone : ∀ p ∈ order_payloads "binance_usdm" recreated_calls,
      p = order_payload "binance_usdm" "intent-1" := by
    intro p hp
    rcases List.mem_cons.mp hp with rfl | hp
    · rfl
    · exact List.mem_singleton.mp hp
  intro p hp q hq _
  rw [hone p hp, hone q hq]

theorem rejected_collision_free :
    CollisionFree mirror_env 24 (order_payloads "binance_usdm" rejected_calls) :=
  fun p hp q hq => recreated_collision_free p (List.mem_append_left _ hp) q
    (List.mem_append_left _ hq)

/-- The rejected order, alone, is sound. -/
theorem orders_sound_iff_rejected : OrdersSound mirror_env "binance_usdm" rejected_calls := by
  refine (orders_sound_iff "binance_usdm" rejected_calls rejected_collision_free).mpr ?_
  intro k call hcall hreplaces
  rcases k with _ | _ | k
  · obtain rfl : OrderCall.create_order (buy_intent "BTCUSDT") = call := Option.some.inj hcall
    obtain ⟨-, _, _, hindex, -⟩ := hreplaces
    rw [List.take_zero, manager_after, List.foldl_nil, OrderManager.new,
      AList.lookup_empty] at hindex
    cases hindex
  · obtain rfl : OrderCall.transition _ _ _ = call := Option.some.inj hcall
    exact hreplaces
  · cases hcall

/-- The first intent is accepted. -/
theorem manager_after_first :
    manager_after mirror_env "binance_usdm" (recreated_calls.take 1)
      = (create_order mirror_env (OrderManager.new "binance_usdm") (buy_intent "BTCUSDT")).2
    ∧ Accepted mirror_env (OrderManager.new "binance_usdm") (buy_intent "BTCUSDT") :=
  ⟨rfl, by decide +kernel, Finset.notMem_empty _⟩

/-- Its order is rejected by the second call. -/
theorem lookup_rejected :
    (manager_after mirror_env "binance_usdm" (recreated_calls.take 2)).orders.lookup
        (order_id_of mirror_env "binance_usdm" "intent-1")
      = some { created_record (order_id_of mirror_env "binance_usdm" "intent-1") "intent-1" with
          lifecycle_state := .REJECTED
          events := [⟨order_id_of mirror_env "binance_usdm" "intent-1", none, .CREATED,
              "intent_created"⟩,
            ⟨order_id_of mirror_env "binance_usdm" "intent-1", some .CREATED, .REJECTED,
              "risk_gate_failed"⟩] } := by
  have hfirst : (manager_after mirror_env "binance_usdm" (recreated_calls.take 1)).orders.lookup
      (order_id_of mirror_env "binance_usdm" "intent-1")
      = some (created_record (order_id_of mirror_env "binance_usdm" "intent-1") "intent-1") := by
    rw [manager_after_first.1, create_order_accepted mirror_env manager_after_first.2]
    exact AList.lookup_insert _
  rw [manager_after_take_succ (k := 1) rfl, order_call, transition, hfirst]
  exact AList.lookup_insert _

/-- A client id ends in the last 28 characters of its payload, backwards. -/
theorem client_id_mirror (symbol : String) :
    deterministic_client_order_id mirror_env "binance_usdm" (buy_intent symbol)
      = "cid-" ++ String.ofList ((dump JsonFloats.rat (sort_keys
          (.dict (client_payload "binance_usdm" (buy_intent symbol))))).reverse.take 28) := by
  simp only [deterministic_client_order_id, stable_hash_prefix, text_prefix, mirror_env,
    canonical_json, String.toList_ofList]

/-- The client id of the first intent is the only one known then, and the intent that comes
again has another one. -/
theorem recreated_accepted :
    Accepted mirror_env (manager_after mirror_env "binance_usdm" (recreated_calls.take 2))
      (buy_intent "BTCUSDC") := by
  have hknown : (manager_after mirror_env "binance_usdm" (recreated_calls.take 2)).client_order_ids
      = {deterministic_client_order_id mirror_env "binance_usdm" (buy_intent "BTCUSDT")} := by
    have hkeeps : ∀ manager order_id to_state reason,
        (transition manager order_id to_state reason).2.client_order_ids
          = manager.client_order_ids := by
      intro manager order_id to_state reason
      rcases transition_cases manager order_id to_state reason with ⟨_, h⟩ | ⟨_, _, _, _, h⟩
      · rw [h]
      · rw [h]
    rw [manager_after_take_succ (k := 1) rfl, order_call, hkeeps, manager_after_first.1,
      create_order_accepted mirror_env manager_after_first.2]
    rfl
  refine ⟨by decide +kernel, ?_⟩
  rw [hknown, (manager_after_take_inv recreated_calls 2).venue_eq, Finset.mem_singleton,
    client_id_mirror, client_id_mirror, String.append_right_inj, String.ofList_inj]
  decide +kernel

/-- The rejected order is back in `CREATED`. -/
theorem rejected_order_recreated :
    CollisionFree mirror_env 24 (order_payloads "binance_usdm" recreated_calls)
      ∧ ¬ OrdersSound mirror_env "binance_usdm" recreated_calls := by
  refine ⟨recreated_collision_free, fun hsound => ?_⟩
  have hinv : ManagerInv mirror_env "binance_usdm" (requested_intents recreated_calls)
      (manager_after mirror_env "binance_usdm" (recreated_calls.take 2)) :=
    manager_after_take_inv recreated_calls 2
  have hkept := hsound.terminal 2 3 (Nat.le_succ 2) _ _ lookup_rejected (by decide)
  rw [manager_after_take_succ (k := 2) rfl,
    order_call_replaced hinv recreated_accepted (hinv.indexed _ _ lookup_rejected)] at hkept
  cases hkept

end Recreated

/-! ## Intents made by `create` -/

/-- The payloads whose hashes are the intent ids of the calls. -/
def intent_payloads (calls : List (OrderCall K)) : List (JsonObject K) :=
  (requested_intents calls).map fun intent => intent_payload intent.toIntentFields

/-- The intent has the id that `create` gives it. -/
def MadeByCreate (env : OrderEnv K) (intent : InternalOrderIntent K) : Prop :=
  ∃ fields, intent = InternalOrderIntent.create env fields

omit [Field K] [LinearOrder K] in
/-- Intents that `create` made under one id have one client id. -/
theorem client_id_of_intent_id {calls : List (OrderCall K)}
    (hfree : CollisionFree env 48 (intent_payloads calls)) {intent intent' : InternalOrderIntent K}
    (hmem : intent ∈ requested_intents calls) (hmem' : intent' ∈ requested_intents calls)
    (hmade : MadeByCreate env intent) (hmade' : MadeByCreate env intent')
    (h : intent.intent_id = intent'.intent_id) :
    deterministic_client_order_id env venue intent
      = deterministic_client_order_id env venue intent' := by
  have hid : ∀ {intent : InternalOrderIntent K}, MadeByCreate env intent →
      intent.intent_id = stable_hash_prefix env 48 (intent_payload intent.toIntentFields) := by
    rintro _ ⟨fields, rfl⟩
    rfl
  have hhash := h
  rw [hid hmade, hid hmade'] at hhash
  have htext := hfree _ (List.mem_map_of_mem hmem) _ (List.mem_map_of_mem hmem') hhash
  have hfield := canonical_field_eq env.floats htext
  have hartifact : intent.artifact_id = intent'.artifact_id :=
    JsonValue.str.inj (Option.some.inj (hfield "artifact_id"))
  have hplan : intent.portfolio_plan_id = intent'.portfolio_plan_id :=
    JsonValue.str.inj (Option.some.inj (hfield "portfolio_plan_id"))
  have hsymbol : intent.symbol = intent'.symbol :=
    JsonValue.str.inj (Option.some.inj (hfield "symbol"))
  have hside : intent.side = intent'.side :=
    JsonValue.str.inj (Option.some.inj (hfield "side"))
  have hdelta : intent.desired_position_delta = intent'.desired_position_delta :=
    JsonValue.float.inj (Option.some.inj (hfield "desired_position_delta"))
  rw [deterministic_client_order_id, deterministic_client_order_id, client_payload, client_payload,
    h, hartifact, hplan, hsymbol, hside, hdelta]

/-- Where every intent comes from `create`, the orders are sound: an intent id
comes again with the client id it had, and is refused. -/
theorem created_orders_sound (venue : String) (calls : List (OrderCall K))
    (hmade : ∀ intent ∈ requested_intents calls, MadeByCreate env intent)
    (hintents : CollisionFree env 48 (intent_payloads calls))
    (horders : CollisionFree env 24 (order_payloads venue calls)) :
    OrdersSound env venue calls := by
  apply orders_sound_of_kept horders
  intro k call hcall hreplaces
  have hinv : ManagerInv env venue (requested_intents calls) (manager_after env venue (calls.take k)) :=
    manager_after_take_inv calls k
  cases call with
  | transition => exact hreplaces
  | create_order intent =>
      obtain ⟨haccepted, order_id, _, hindex, -⟩ := hreplaces
      have hmem : intent ∈ requested_intents calls :=
        List.mem_filterMap.mpr ⟨_, List.mem_of_getElem? hcall, rfl⟩
      obtain ⟨-, intent', hmem', hid, hclient⟩ := hinv.known _ _ hindex
      have hnew := haccepted.2
      rw [hinv.venue_eq, client_id_of_intent_id hintents hmem hmem' (hmade _ hmem)
        (hmade _ hmem') hid.symm] at hnew
      exact hnew hclient

theorem created_orders_sound_repeated : ∃ intent : InternalOrderIntent ℚ,
    MadeByCreate mirror_env intent
      ∧ OrdersSound mirror_env "binance_usdm" [.create_order intent, .create_order intent] := by
  refine ⟨.create mirror_env (buy_intent "BTCUSDT").toIntentFields, ⟨_, rfl⟩,
    created_orders_sound "binance_usdm" _ ?_ ?_ ?_⟩
  · rintro intent (_ | ⟨_, _ | ⟨_, ⟨⟩⟩⟩) <;> exact ⟨_, rfl⟩
  · rintro p (_ | ⟨_, _ | ⟨_, ⟨⟩⟩⟩) q (_ | ⟨_, _ | ⟨_, ⟨⟩⟩⟩) - <;> rfl
  · rintro p (_ | ⟨_, _ | ⟨_, ⟨⟩⟩⟩) q (_ | ⟨_, _ | ⟨_, ⟨⟩⟩⟩) - <;> rfl

end Runs

end ProofAlpha.Execution
