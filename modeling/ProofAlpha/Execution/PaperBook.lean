/-
The local order book: `PaperBookStateBuilder` of `execution/paper_streams.py`.

A side of the book is a dict of positive quantities; `BookSide` carries that as a
field. `apply_to_book` is `apply_depth_payload` from the point where the book of
the symbol is found, and `apply_to_book_cases` is all it can do.
-/
import ProofAlpha.Execution.PaperStreams

set_option autoImplicit false

namespace ProofAlpha.Execution

open ProofAlpha.Lib

variable {K : Type} [Field K] [LinearOrder K]

/-! ## Levels -/

/-- One side of a book: quantity by price, every quantity positive. -/
structure BookSide (K : Type) [Zero K] [LinearOrder K] where
  levels : Dict K K
  positive : ∀ price qty, levels.lookup price = some qty → 0 < qty

/-- `{}`. -/
def BookSide.empty : BookSide K where
  levels := ∅
  positive := by
    intro price qty h
    rw [AList.lookup_empty] at h
    cases h

/-- `side[price] = qty`. -/
def BookSide.set (side : BookSide K) (price qty : K) (hqty : 0 < qty) : BookSide K where
  levels := side.levels.insert price qty
  positive := by
    intro p q h
    by_cases hp : p = price
    · subst hp
      rw [AList.lookup_insert] at h
      cases h
      exact hqty
    · rw [AList.lookup_insert_ne hp] at h
      exact side.positive p q h

/-- `side.pop(price, None)`. -/
def BookSide.pop (side : BookSide K) (price : K) : BookSide K where
  levels := side.levels.erase price
  positive := by
    intro p q h
    by_cases hp : p = price
    · subst hp
      rw [AList.lookup_erase] at h
      cases h
    · rw [AList.lookup_erase_ne hp] at h
      exact side.positive p q h

/-- The price and quantity of a level, where both are numbers. -/
def book_level (rt : StreamRuntime K) : List (JsonValue K) → Option (K × K)
  | price :: qty :: _ =>
      match float_or_none rt.parse_float price, float_or_none rt.parse_float qty with
      | some price, some qty => some (price, qty)
      | _, _ => none
  | _ => none

/-- `_price_qty_map`. -/
def price_qty_map (rt : StreamRuntime K) (levels : List (List (JsonValue K))) : BookSide K :=
  levels.foldl
    (fun side level =>
      match book_level rt level with
      | some (price, qty) =>
          -- a snapshot level without quantity is skipped
          if hqty : qty ≤ 0 then side else side.set price qty (not_le.mp hqty)
      | none => side)
    BookSide.empty

/-- One update of `_apply_book_side`. -/
def apply_book_level (rt : StreamRuntime K) (side : BookSide K) (update : JsonValue K) :
    BookSide K :=
  match update with
  | .list level =>
      match book_level rt level with
      | some (price, qty) =>
          -- an update without quantity removes its level
          if hqty : qty ≤ 0 then side.pop price else side.set price qty (not_le.mp hqty)
      | none => side
  | _ => side

/-- `_apply_book_side`. -/
def apply_book_side (rt : StreamRuntime K) (side : BookSide K) (updates : JsonValue K) :
    BookSide K :=
  match updates with
  | .list updates => updates.foldl (apply_book_level rt) side
  | _ => side

/-! ## Books -/

/-- `LocalOrderBookSnapshot`. -/
structure LocalOrderBookSnapshot (K : Type) where
  symbol : String
  last_update_id : ℤ
  bids : List (List (JsonValue K))
  asks : List (List (JsonValue K))
  received_at_utc : Option String

/-- The status of a book. -/
inductive BookStatus
  | seeded
  | active
  | resync_required
  deriving DecidableEq

/-- The dict a builder keeps for a symbol. -/
structure Book (K : Type) [Zero K] [LinearOrder K] where
  symbol : String
  snapshot_update_id : ℤ
  last_depth_update_id : ℤ
  bids : BookSide K
  asks : BookSide K
  status : BookStatus
  depth_gap_count : ℕ
  dropped_stale_count : ℕ
  applied_update_count : ℕ
  last_received_at_utc : Option String
  last_exchange_event_time : Option String
  resync_reason : Option String

/-- The result dict of `apply_depth_payload`. -/
inductive DepthAction
  | parse_error (symbol : Option String) (reason : String)
  | awaiting_snapshot (symbol : String)
  | dropped_stale (symbol : String) (final_update_id : ℤ)
  | resync_required (symbol : String) (reason : String)
  | applied (symbol : String) (final_update_id : ℤ)
  deriving DecidableEq

/-- The builder's `_books`. -/
abbrev Books (K : Type) [Zero K] [LinearOrder K] := Dict String (Book K)

/-- The book `seed_snapshot` stores. -/
def seeded_book (rt : StreamRuntime K) (snapshot : LocalOrderBookSnapshot K) : Book K where
  symbol := pyUpper snapshot.symbol
  snapshot_update_id := snapshot.last_update_id
  last_depth_update_id := snapshot.last_update_id
  bids := price_qty_map rt snapshot.bids
  asks := price_qty_map rt snapshot.asks
  status := .seeded
  depth_gap_count := 0
  dropped_stale_count := 0
  applied_update_count := 0
  last_received_at_utc := snapshot.received_at_utc
  last_exchange_event_time := none
  resync_reason := none

/-- `PaperBookStateBuilder.seed_snapshot`. -/
def seed_snapshot (rt : StreamRuntime K) (books : Books K) (snapshot : LocalOrderBookSnapshot K) :
    Books K :=
  books.insert (pyUpper snapshot.symbol) (seeded_book rt snapshot)

/-- `_mark_resync`. -/
def mark_resync (book : Book K) (symbol reason : String) : Book K × DepthAction :=
  ({ book with
      status := .resync_required
      resync_reason := some reason
      depth_gap_count := book.depth_gap_count + 1 }, .resync_required symbol reason)

/-- The reason a payload that is not stale asks for a resync, if it does. The
first update must bridge the snapshot; a later one must name the last update, or
not skip an id where it names none. -/
def resync_reason_for (book : Book K) (first_u previous_from_payload : Option ℤ) (final_u : ℤ) :
    Option String :=
  if book.applied_update_count = 0 then
    match first_u with
    | some first =>
        if first ≤ book.snapshot_update_id ∧ book.snapshot_update_id ≤ final_u then none
        else some "first_update_does_not_bridge_snapshot"
    | none => none
  else
    match previous_from_payload, first_u with
    | some previous, _ =>
        if previous ≠ book.last_depth_update_id then some "depth_pu_gap" else none
    | none, some first =>
        if book.last_depth_update_id + 1 < first then some "depth_update_gap" else none
    | none, none => none

section Apply

variable [FloorRing K]

omit [Field K] [LinearOrder K] [FloorRing K] in
/-- `_symbol_from_payload("", payload)`, upper-cased once more. -/
def payload_symbol (payload : JsonObject K) : Option String :=
  (symbol_from_payload "" payload).map pyUpper

/-- The ids of a depth payload: `U`, `u` and `pu`. -/
def first_id (payload : JsonObject K) : Option ℤ := int_or_none (payload.get "U")
def final_id (payload : JsonObject K) : Option ℤ := int_or_none (payload.get "u")
def previous_id (payload : JsonObject K) : Option ℤ := int_or_none (payload.get "pu")

/-- The book after a payload is applied to it. -/
def applied_book (rt : StreamRuntime K) (book : Book K) (payload : JsonObject K)
    (received_at_utc : Option String) (final_u : ℤ) : Book K :=
  { book with
    bids := apply_book_side rt book.bids (payload.get "b")
    asks := apply_book_side rt book.asks (payload.get "a")
    last_depth_update_id := final_u
    applied_update_count := book.applied_update_count + 1
    last_received_at_utc := received_at_utc
    last_exchange_event_time := (int_or_none (payload.get "E")).map rt.ms_to_utc
    -- a required resync is never taken back by an update
    status := if book.status ≠ .resync_required then .active else book.status }

/-- `apply_depth_payload`, once the book of the symbol is found. -/
def apply_to_book (rt : StreamRuntime K) (book : Book K) (symbol : String)
    (payload : JsonObject K) (received_at_utc : Option String) : Book K × DepthAction :=
  match final_id payload with
  | none => (book, .parse_error (some symbol) "missing_final_update_id")
  | some final_u =>
      -- stale is measured against the snapshot, not against the last update
      if final_u < book.snapshot_update_id then
        ({ book with dropped_stale_count := book.dropped_stale_count + 1 },
          .dropped_stale symbol final_u)
      else
        match resync_reason_for book (first_id payload) (previous_id payload) final_u with
        | some reason => mark_resync book symbol reason
        | none => (applied_book rt book payload received_at_utc final_u, .applied symbol final_u)

/-- `PaperBookStateBuilder.apply_depth_payload`. -/
def apply_depth_payload (rt : StreamRuntime K) (books : Books K) (payload : JsonObject K)
    (received_at_utc : Option String) : Books K × DepthAction :=
  match payload_symbol payload with
  | none => (books, .parse_error none "missing_symbol")
  | some symbol =>
      match books.lookup symbol with
      | none => (books, .awaiting_snapshot symbol)
      | some book =>
          let result := apply_to_book rt book symbol payload received_at_utc
          (books.insert symbol result.1, result.2)

/-- The updated book of `apply_to_book` belongs to one of four outcomes: no final
id, stale, out of line, applied. -/
theorem apply_to_book_cases (rt : StreamRuntime K) (book : Book K) (symbol : String)
    (payload : JsonObject K) (received_at_utc : Option String) :
    let result := apply_to_book rt book symbol payload received_at_utc
    (final_id payload = none
        ∧ result = (book, .parse_error (some symbol) "missing_final_update_id"))
      ∨ ∃ final_u, final_id payload = some final_u ∧
        ((final_u < book.snapshot_update_id
            ∧ result = ({ book with dropped_stale_count := book.dropped_stale_count + 1 },
              .dropped_stale symbol final_u))
          ∨ (book.snapshot_update_id ≤ final_u ∧ ∃ reason,
              resync_reason_for book (first_id payload) (previous_id payload) final_u = some reason
              ∧ result = mark_resync book symbol reason)
          ∨ (book.snapshot_update_id ≤ final_u
              ∧ resync_reason_for book (first_id payload) (previous_id payload) final_u = none
              ∧ result = (applied_book rt book payload received_at_utc final_u,
                .applied symbol final_u))) := by
  intro result
  have hresult : result = apply_to_book rt book symbol payload received_at_utc := rfl
  unfold apply_to_book at hresult
  cases hfinal : final_id payload with
  | none =>
      rw [hfinal] at hresult
      exact Or.inl ⟨rfl, hresult⟩
  | some final_u =>
      rw [hfinal] at hresult
      refine Or.inr ⟨final_u, rfl, ?_⟩
      by_cases hstale : final_u < book.snapshot_update_id
      · exact Or.inl ⟨hstale, hresult.trans (if_pos hstale)⟩
      · have hfresh : book.snapshot_update_id ≤ final_u := not_lt.mp hstale
        dsimp only at hresult
        rw [if_neg hstale] at hresult
        cases hreason : resync_reason_for book (first_id payload) (previous_id payload) final_u with
        | some reason =>
            rw [hreason] at hresult
            exact Or.inr (Or.inl ⟨hfresh, reason, rfl, hresult⟩)
        | none =>
            rw [hreason] at hresult
            exact Or.inr (Or.inr ⟨hfresh, rfl, hresult⟩)

end Apply

end ProofAlpha.Execution
