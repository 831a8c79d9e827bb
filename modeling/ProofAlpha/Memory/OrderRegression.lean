/-
What `orders_live` shows of an order over the run of the loop.

Apart from its two quantities the row of an order is that of the order's last
event (`lookup_orders_live`): it is a cell that every event of the order
replaces, so a late acknowledgement takes a terminal status back and an event
without exchange id or reduce-only flag drops the earlier one.
`order_never_regresses_iff` says for which journals this does not happen.
-/
import ProofAlpha.Lib.LastWrite
import ProofAlpha.Memory.Projections

set_option autoImplicit false

namespace ProofAlpha.Memory

open ProofAlpha.Lib

variable {K : Type} [Field K] [LinearOrder K]

/-! ## What an event carries and what a row shows -/

/-- The events that replace the row of an order. -/
def order_history (journal : List (ExecutionEvent K)) (order_id_client : String) :
    List (ExecutionEvent K) :=
  journal.filter fun event => projected_order event = some order_id_client

/-- The exchange order id that an event carries. -/
def carried_exchange_id (event : ExecutionEvent K) : Option String :=
  non_empty event.order_id_exchange

/-- The reduce-only flag that an event carries. -/
def carried_reduce_only (event : ExecutionEvent K) : Option Bool :=
  (List.lookup "reduce_only" event.metadata).map truthy

/-- The flag that the reconciliation reads of a row:
`bool(metadata.get("reduce_only", False))`. -/
def shown_reduce_only (row : OrderRow K) : Bool := truthy (row.metadata.get "reduce_only")

/-- The row of an order after the first `k` rows of the journal. -/
def order_row (composite_text : JsonValue K → String) (journal : List (ExecutionEvent K))
    (order_id_client : String) (k : ℕ) : Option (OrderRow K) :=
  (projections_of composite_text (journal.take k)).orders_live.lookup order_id_client

/-- The row of an order never leaves the statuses `terminal`, and always shows
the exchange id and the reduce-only flag that were carried last. -/
structure NeverRegresses (composite_text : JsonValue K → String) (terminal : List String)
    (journal : List (ExecutionEvent K)) (order_id_client : String) : Prop where
  status : ∀ i j, i ≤ j →
    (∃ row, order_row composite_text journal order_id_client i = some row
      ∧ row.status ∈ terminal) →
    ∃ row, order_row composite_text journal order_id_client j = some row
      ∧ row.status ∈ terminal
  exchange_id : ∀ k id,
    latest carried_exchange_id (order_history (journal.take k) order_id_client) = some id →
      ((order_row composite_text journal order_id_client k).bind fun row =>
        non_empty row.order_id_exchange) = some id
  reduce_only : ∀ k flag,
    latest carried_reduce_only (order_history (journal.take k) order_id_client) = some flag →
      (order_row composite_text journal order_id_client k).map shown_reduce_only = some flag

/-- No event of the order takes back what an earlier one established. -/
structure EventsInOrder (terminal : List String) (journal : List (ExecutionEvent K))
    (order_id_client : String) : Prop where
  status : (order_history journal order_id_client).Pairwise fun earlier later =>
    order_status earlier ∈ terminal → order_status later ∈ terminal
  exchange_id : ∀ k event, (order_history journal order_id_client)[k]? = some event →
    carried_exchange_id event = none →
      latest carried_exchange_id ((order_history journal order_id_client).take k) = none
  reduce_only : ∀ k event, (order_history journal order_id_client)[k]? = some event →
    carried_reduce_only event = none →
      latest carried_reduce_only ((order_history journal order_id_client).take k) ≠ some true

/-! ## The row is the last event's -/

section Rows

variable (composite_text : JsonValue K → String)

/-- One row of the journal replaces the row of its own order only. -/
theorem lookup_project_event (st : RebuildState K) (event : ExecutionEvent K)
    (order_id_client : String) :
    ((project_event composite_text st event).orders_live.lookup order_id_client).map
        (fun row => (row.status, row.order_id_exchange, row.metadata))
      = if projected_order event = some order_id_client then
          some (order_status event, event.order_id_exchange, event.metadata)
        else (st.orders_live.lookup order_id_client).map
          fun row => (row.status, row.order_id_exchange, row.metadata) := by
  have hrisk : (project_event composite_text st event).orders_live
      = (project_order_event composite_text st event).orders_live := by
    unfold project_event
    split_ifs <;> rfl
  rw [hrisk, project_order_event]
  cases horder : projected_order event with
  | none => rfl
  | some other =>
      dsimp only [project_order]
      by_cases hsame : other = order_id_client
      · subst hsame
        rw [AList.lookup_insert, if_pos rfl]
        rfl
      · rw [AList.lookup_insert_ne fun h => hsame h.symm,
          if_neg fun h => hsame (Option.some.inj h)]

/-- The status, exchange id and metadata of an order's row are those of the
order's last event. -/
theorem lookup_orders_live (journal : List (ExecutionEvent K)) (order_id_client : String) :
    ((project_events composite_text journal).orders_live.lookup order_id_client).map
        (fun row => (row.status, row.order_id_exchange, row.metadata))
      = (order_history journal order_id_client).getLast?.map
          fun event => (order_status event, event.order_id_exchange, event.metadata) := by
  induction journal using List.reverseRecOn with
  | nil => rfl
  | append_singleton journal event ih =>
      rw [project_events, List.foldl_append, ← project_events, List.foldl_cons, List.foldl_nil,
        lookup_project_event, ih, order_history, order_history, List.filter_append]
      by_cases horder : projected_order event = some order_id_client
      · rw [if_pos horder, List.filter_singleton, decide_eq_true horder]
        simp
      · rw [if_neg horder, List.filter_singleton, decide_eq_false horder]
        simp

/-- After `k` rows of the journal an order has no row and no event, or a row that
shows its last event. -/
theorem order_row_cases (journal : List (ExecutionEvent K)) (order_id_client : String) (k : ℕ) :
    (order_row composite_text journal order_id_client k = none
        ∧ (order_history (journal.take k) order_id_client).getLast? = none)
      ∨ ∃ row event, order_row composite_text journal order_id_client k = some row
        ∧ (order_history (journal.take k) order_id_client).getLast? = some event
        ∧ row.status = order_status event ∧ row.order_id_exchange = event.order_id_exchange
        ∧ row.metadata = event.metadata := by
  -- the row of the table, seen through the three fields
  have hrow := lookup_orders_live composite_text (journal.take k) order_id_client
  change (order_row composite_text journal order_id_client k).map _ = _ at hrow
  cases hlast : (order_history (journal.take k) order_id_client).getLast? with
  | none =>
      rw [hlast, Option.map_none, Option.map_eq_none_iff] at hrow
      exact Or.inl ⟨hrow, rfl⟩
  | some event =>
      rw [hlast, Option.map_some, Option.map_eq_some_iff] at hrow
      obtain ⟨row, hsome, heq⟩ := hrow
      injection heq with hstatus hrest
      injection hrest with hexchange hmetadata
      exact Or.inr ⟨row, event, hsome, rfl, hstatus, hexchange, hmetadata⟩

theorem order_row_status (journal : List (ExecutionEvent K)) (order_id_client : String) (k : ℕ)
    (terminal : List String) :
    (∃ row, order_row composite_text journal order_id_client k = some row
        ∧ row.status ∈ terminal)
      ↔ ∃ event, (order_history (journal.take k) order_id_client).getLast? = some event
        ∧ order_status event ∈ terminal := by
  rcases order_row_cases composite_text journal order_id_client k with
    ⟨hnone, hlast⟩ | ⟨row, event, hsome, hlast, hstatus, -, -⟩
  · rw [hnone, hlast]
    simp
  · rw [hsome, hlast]
    simp [hstatus]

theorem order_row_exchange_id (journal : List (ExecutionEvent K)) (order_id_client : String)
    (k : ℕ) :
    ((order_row composite_text journal order_id_client k).bind fun row =>
        non_empty row.order_id_exchange)
      = (order_history (journal.take k) order_id_client).getLast?.bind
          fun event => (carried_exchange_id event).or none := by
  rcases order_row_cases composite_text journal order_id_client k with
    ⟨hnone, hlast⟩ | ⟨row, event, hsome, hlast, -, hexchange, -⟩
  · rw [hnone, hlast]
    rfl
  · rw [hsome, hlast, Option.bind_some, Option.bind_some, Option.or_none, hexchange]
    rfl

theorem order_row_reduce_only (journal : List (ExecutionEvent K)) (order_id_client : String)
    (k : ℕ) :
    (order_row composite_text journal order_id_client k).map shown_reduce_only
      = (order_history (journal.take k) order_id_client).getLast?.bind
          fun event => (carried_reduce_only event).or (some false) := by
  rcases order_row_cases composite_text journal order_id_client k with
    ⟨hnone, hlast⟩ | ⟨row, event, hsome, hlast, -, -, hmetadata⟩
  · rw [hnone, hlast]
    rfl
  · rw [hsome, hlast, Option.map_some, Option.bind_some, shown_reduce_only, hmetadata,
      carried_reduce_only, JsonObject.get]
    -- a missing flag reads as `null`, which is false
    cases List.lookup "reduce_only" event.metadata <;> rfl

end Rows

/-! ## Regression -/

section Regression

variable (composite_text : JsonValue K → String) (journal : List (ExecutionEvent K))
  (order_id_client : String)

theorem status_never_regresses_iff (terminal : List String) :
    (∀ i j, i ≤ j →
      (∃ row, order_row composite_text journal order_id_client i = some row
        ∧ row.status ∈ terminal) →
      ∃ row, order_row composite_text journal order_id_client j = some row
        ∧ row.status ∈ terminal)
      ↔ (order_history journal order_id_client).Pairwise fun earlier later =>
          order_status earlier ∈ terminal → order_status later ∈ terminal := by
  simp only [order_row_status]
  exact never_leaves_in_log_iff _ journal

theorem exchange_id_never_regresses_iff :
    (∀ k id,
      latest carried_exchange_id (order_history (journal.take k) order_id_client) = some id →
        ((order_row composite_text journal order_id_client k).bind fun row =>
          non_empty row.order_id_exchange) = some id)
      ↔ ∀ k event, (order_history journal order_id_client)[k]? = some event →
          carried_exchange_id event = none →
            latest carried_exchange_id ((order_history journal order_id_client).take k)
              = none := by
  simp only [order_row_exchange_id]
  refine (keeps_field_in_log_iff _ journal).trans ?_
  refine forall_congr' fun k => forall_congr' fun event => imp_congr_right fun _ =>
    imp_congr_right fun _ => ?_
  rw [Option.eq_none_iff_forall_ne_some]
  refine forall_congr' fun id => ⟨fun h hid => ?_, fun h hid => absurd hid h⟩
  cases h hid

theorem reduce_only_never_regresses_iff :
    (∀ k flag,
      latest carried_reduce_only (order_history (journal.take k) order_id_client) = some flag →
        (order_row composite_text journal order_id_client k).map shown_reduce_only = some flag)
      ↔ ∀ k event, (order_history journal order_id_client)[k]? = some event →
          carried_reduce_only event = none →
            latest carried_reduce_only ((order_history journal order_id_client).take k)
              ≠ some true := by
  simp only [order_row_reduce_only]
  refine (keeps_field_in_log_iff _ journal).trans ?_
  refine forall_congr' fun k => forall_congr' fun event => imp_congr_right fun _ =>
    imp_congr_right fun _ => ?_
  constructor
  · intro h htrue
    cases h true htrue
  · intro h flag hflag
    cases flag with
    | false => rfl
    | true => exact absurd hflag h

/-- The row of an order never regresses exactly when no event of the order takes
back what an earlier one established. -/
theorem order_never_regresses_iff (terminal : List String) :
    NeverRegresses composite_text terminal journal order_id_client
      ↔ EventsInOrder terminal journal order_id_client := by
  constructor
  · intro h
    exact ⟨(status_never_regresses_iff composite_text journal order_id_client terminal).mp
        h.status,
      (exchange_id_never_regresses_iff composite_text journal order_id_client).mp h.exchange_id,
      (reduce_only_never_regresses_iff composite_text journal order_id_client).mp h.reduce_only⟩
  · intro h
    exact ⟨(status_never_regresses_iff composite_text journal order_id_client terminal).mpr
        h.status,
      (exchange_id_never_regresses_iff composite_text journal order_id_client).mpr h.exchange_id,
      (reduce_only_never_regresses_iff composite_text journal order_id_client).mpr h.reduce_only⟩

end Regression

/-! ## A late acknowledgement -/

/-- The statuses filled, canceled, rejected and expired. -/
def terminal_statuses : List String := ["FILLED", "CANCELED", "REJECTED", "EXPIRED"]

/-- A reduce-only order is filled, and its acknowledgement comes after. -/
def late_ack_journal : List (ExecutionEvent ℚ) :=
  [{ plain_event 1 "ORDER_FILL" (some "c1") with
      order_id_exchange := some "x1"
      status := some "FILLED"
      metadata := [("reduce_only", .bool true)] },
    { plain_event 2 "ORDER_NEW_ACK" (some "c1") with status := some "NEW" }]

theorem late_ack_regresses :
    ¬ NeverRegresses plain_text terminal_statuses late_ack_journal "c1" := by
  intro h
  have hfirst : ((order_row plain_text late_ack_journal "c1" 1).map OrderRow.status)
      = some "FILLED" := by decide +kernel
  have hsecond : ((order_row plain_text late_ack_journal "c1" 2).map OrderRow.status)
      = some "NEW" := by decide +kernel
  obtain ⟨row, hrow, hfilled⟩ := Option.map_eq_some_iff.mp hfirst
  obtain ⟨row', hrow', hterminal⟩ := h.status 1 2 (by decide)
    ⟨row, hrow, by rw [hfilled]; decide⟩
  rw [hrow', Option.map_some, Option.some_inj] at hsecond
  rw [hsecond] at hterminal
  exact absurd hterminal (by decide)

end ProofAlpha.Memory
