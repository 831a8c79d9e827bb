/-
What a local order book holds, over any run of seeds and depth payloads.

`history` records beside a run, for each symbol, the snapshot it was last seeded
with and the payloads applied since. `BookMatches` is the invariant that relates
the two: the applied payloads bridge the snapshot and follow one another without
a gap, and the levels are the snapshot's with exactly these payloads applied. A
required resync stays required until the next seed, though a payload that
continues the chain is still applied.

Without `pu` a payload is only tested against a gap ahead, so an update that the
book already covers can be applied once more; `ReappliesOld` is exactly when.
-/
import ProofAlpha.Execution.PaperBook

set_option autoImplicit false

namespace ProofAlpha.Execution

open ProofAlpha.Lib

variable {K : Type} [Field K] [LinearOrder K] [FloorRing K]

/-! ## Runs -/

/-- A call on a builder. -/
inductive BookCall (K : Type) where
  | seed (snapshot : LocalOrderBookSnapshot K)
  | apply (payload : JsonObject K) (received_at_utc : Option String)

/-- The books after one call. -/
def call_books (rt : StreamRuntime K) (books : Books K) : BookCall K → Books K
  | .seed snapshot => seed_snapshot rt books snapshot
  | .apply payload received_at_utc => (apply_depth_payload rt books payload received_at_utc).1

/-- The books of a builder after a list of calls. -/
def books_after (rt : StreamRuntime K) (calls : List (BookCall K)) : Books K :=
  calls.foldl (call_books rt) ∅

/-- The last seed of a symbol and the payloads applied since. -/
structure SinceSeed (K : Type) where
  snapshot : LocalOrderBookSnapshot K
  updates : List (JsonObject K)

/-- What one call, made on `books`, adds to the history. -/
def call_history (rt : StreamRuntime K) (books : Books K) (history : Dict String (SinceSeed K)) :
    BookCall K → Dict String (SinceSeed K)
  | .seed snapshot => history.insert (pyUpper snapshot.symbol) ⟨snapshot, []⟩
  | .apply payload received_at_utc =>
      match (apply_depth_payload rt books payload received_at_utc).2 with
      | .applied symbol _ =>
          -- only a symbol with a seed has updates to extend
          match history.lookup symbol with
          | some since =>
              history.insert symbol { since with updates := since.updates ++ [payload] }
          | none => history
      | _ => history

/-- The books and the history after a list of calls, side by side. -/
def run_calls (rt : StreamRuntime K) (calls : List (BookCall K)) :
    Books K × Dict String (SinceSeed K) :=
  calls.foldl (fun st call => (call_books rt st.1 call, call_history rt st.1 st.2 call)) (∅, ∅)

/-- The history of a list of calls. -/
def history_after (rt : StreamRuntime K) (calls : List (BookCall K)) :
    Dict String (SinceSeed K) :=
  (run_calls rt calls).2

theorem run_calls_append_singleton (rt : StreamRuntime K) (calls : List (BookCall K))
    (call : BookCall K) :
    run_calls rt (calls ++ [call])
      = (call_books rt (run_calls rt calls).1 call,
        call_history rt (run_calls rt calls).1 (run_calls rt calls).2 call) := by
  unfold run_calls
  rw [List.foldl_append]
  rfl

theorem books_after_append_singleton (rt : StreamRuntime K) (calls : List (BookCall K))
    (call : BookCall K) :
    books_after rt (calls ++ [call]) = call_books rt (books_after rt calls) call := by
  unfold books_after
  rw [List.foldl_append]
  rfl

theorem run_calls_fst (rt : StreamRuntime K) (calls : List (BookCall K)) :
    (run_calls rt calls).1 = books_after rt calls := by
  induction calls using List.reverseRecOn with
  | nil => rfl
  | append_singleton calls call ih =>
      rw [run_calls_append_singleton, books_after_append_singleton, ← ih]

/-! ## The invariant -/

/-- The payload carries integer `U`, `u` and `pu`. -/
structure CarriesIds (payload : JsonObject K) : Prop where
  first : (first_id payload).isSome = true
  final : (final_id payload).isSome = true
  previous : (previous_id payload).isSome = true

/-- A first update bridges a snapshot: `U ≤ snapshot id ≤ u`. -/
def Bridges (snapshot_id : ℤ) (payload : JsonObject K) : Prop :=
  ∃ first final, first_id payload = some first ∧ final_id payload = some final
    ∧ first ≤ snapshot_id ∧ snapshot_id ≤ final

/-- An update follows another: its `pu` is the other's `u`. -/
def Follows (before after : JsonObject K) : Prop :=
  ∃ u, final_id before = some u ∧ previous_id after = some u

/-- The updates bridge the snapshot and follow one another. -/
def GapFree (snapshot_id : ℤ) (updates : List (JsonObject K)) : Prop :=
  (∀ payload ∈ updates.head?, Bridges snapshot_id payload) ∧ updates.IsChain Follows

/-- The final id of the last update, the snapshot's where there is none. -/
def chain_end (snapshot_id : ℤ) (updates : List (JsonObject K)) : ℤ :=
  (updates.getLast?.bind final_id).getD snapshot_id

/-- One side of the snapshot with the updates applied in order. -/
def replay_side (rt : StreamRuntime K) (levels : List (List (JsonValue K))) (key : String)
    (updates : List (JsonObject K)) : BookSide K :=
  updates.foldl (fun side payload => apply_book_side rt side (payload.get key))
    (price_qty_map rt levels)

/-- The book is what its history makes of it. -/
structure BookMatches (rt : StreamRuntime K) (book : Book K) (since : SinceSeed K) : Prop where
  snapshot_id : book.snapshot_update_id = since.snapshot.last_update_id
  bids : book.bids = replay_side rt since.snapshot.bids "b" since.updates
  asks : book.asks = replay_side rt since.snapshot.asks "a" since.updates
  count : book.applied_update_count = since.updates.length
  final_ids : ∀ payload ∈ since.updates, (final_id payload).isSome = true
  gap_free : GapFree since.snapshot.last_update_id since.updates
  last : book.last_depth_update_id = chain_end since.snapshot.last_update_id since.updates
  active : book.status = .active → since.updates ≠ []

/-- A seeded book matches the history of its seed. -/
theorem BookMatches.seeded (rt : StreamRuntime K) (snapshot : LocalOrderBookSnapshot K) :
    BookMatches rt (seeded_book rt snapshot) ⟨snapshot, []⟩ where
  snapshot_id := rfl
  bids := rfl
  asks := rfl
  count := rfl
  final_ids := by simp
  gap_free := ⟨by simp, List.isChain_nil⟩
  last := rfl
  active := by
    intro h
    change BookStatus.seeded = .active at h
    cases h

/-- The book differs from another in counters and status only, and is active only
if the other is. -/
structure SameChain (before after : Book K) : Prop where
  snapshot_id : after.snapshot_update_id = before.snapshot_update_id
  bids : after.bids = before.bids
  asks : after.asks = before.asks
  count : after.applied_update_count = before.applied_update_count
  last : after.last_depth_update_id = before.last_depth_update_id
  active : after.status = .active → before.status = .active

theorem BookMatches.of_sameChain {rt : StreamRuntime K} {before after : Book K}
    {since : SinceSeed K} (h : BookMatches rt before since) (hsame : SameChain before after) :
    BookMatches rt after since where
  snapshot_id := hsame.snapshot_id.trans h.snapshot_id
  bids := hsame.bids.trans h.bids
  asks := hsame.asks.trans h.asks
  count := hsame.count.trans h.count
  final_ids := h.final_ids
  gap_free := h.gap_free
  last := hsame.last.trans h.last
  active := fun hactive => h.active (hsame.active hactive)

/-- The final id of a chain is that of the update put last. -/
theorem chain_end_append_singleton {payload : JsonObject K} {final_u : ℤ} (snapshot_id : ℤ)
    (updates : List (JsonObject K)) (hfinal : final_id payload = some final_u) :
    chain_end snapshot_id (updates ++ [payload]) = final_u := by
  unfold chain_end
  rw [List.getLast?_concat, Option.bind_some, hfinal]
  rfl

/-- Without a reason for a resync, a payload that carries its ids bridges the
snapshot or names the last update. -/
theorem resync_reason_for_eq_none {book : Book K}
    {payload : JsonObject K} {final_u : ℤ} (hids : CarriesIds payload)
    (hfinal : final_id payload = some final_u)
    (h : resync_reason_for book (first_id payload) (previous_id payload) final_u = none) :
    (book.applied_update_count = 0 → Bridges book.snapshot_update_id payload)
      ∧ (book.applied_update_count ≠ 0 → previous_id payload = some book.last_depth_update_id) := by
  obtain ⟨first, hfirst⟩ := Option.isSome_iff_exists.mp hids.first
  obtain ⟨previous, hprevious⟩ := Option.isSome_iff_exists.mp hids.previous
  unfold resync_reason_for at h
  rw [hfirst, hprevious] at h
  constructor
  · intro hzero
    rw [if_pos hzero] at h
    dsimp only at h
    split_ifs at h with hbridge
    exact ⟨first, final_u, hfirst, hfinal, hbridge⟩
  · intro hcount
    rw [if_neg hcount] at h
    dsimp only at h
    split_ifs at h with hsame
    rw [hprevious, not_not.mp hsame]

/-- A payload without a reason for a resync extends the chain. -/
theorem BookMatches.gapFree_append {rt : StreamRuntime K} {book : Book K} {since : SinceSeed K}
    {payload : JsonObject K} {final_u : ℤ} (h : BookMatches rt book since)
    (hids : CarriesIds payload) (hfinal : final_id payload = some final_u)
    (hreason : resync_reason_for book (first_id payload) (previous_id payload) final_u = none) :
    GapFree since.snapshot.last_update_id (since.updates ++ [payload]) := by
  obtain ⟨hfirst, hlater⟩ := resync_reason_for_eq_none hids hfinal hreason
  rcases List.eq_nil_or_concat since.updates with hnil | ⟨earlier, before, hconcat⟩
  · -- the first update bridges the snapshot
    have hzero : book.applied_update_count = 0 := by rw [h.count, hnil, List.length_nil]
    have hbridge := hfirst hzero
    rw [h.snapshot_id] at hbridge
    rw [hnil]
    exact ⟨by simpa using hbridge, List.isChain_singleton payload⟩
  · -- a later one names the update before it
    rw [List.concat_eq_append] at hconcat
    have hcount : book.applied_update_count ≠ 0 := by
      rw [h.count, hconcat]
      simp
    obtain ⟨u, hu⟩ := Option.isSome_iff_exists.mp (h.final_ids before (by rw [hconcat]; simp))
    have hlast : book.last_depth_update_id = u := by
      rw [h.last, hconcat, chain_end_append_singleton _ _ hu]
    have hfollows : Follows before payload := ⟨u, hu, by rw [hlater hcount, hlast]⟩
    refine ⟨?_, ?_⟩
    · have hhead : (since.updates ++ [payload]).head? = since.updates.head? := by
        rw [List.head?_append_of_ne_nil]
        rw [hconcat]
        simp
      rw [hhead]
      exact h.gap_free.1
    · refine List.isChain_append.mpr ⟨h.gap_free.2, List.isChain_singleton payload, ?_⟩
      intro x hx y hy
      rw [hconcat, List.getLast?_concat] at hx
      cases hx
      cases hy
      exact hfollows

/-- Applying a payload that extends the chain keeps the invariant. -/
theorem BookMatches.applied {rt : StreamRuntime K} {book : Book K} {since : SinceSeed K}
    {payload : JsonObject K} {final_u : ℤ} (h : BookMatches rt book since)
    (hids : CarriesIds payload) (hfinal : final_id payload = some final_u)
    (hreason : resync_reason_for book (first_id payload) (previous_id payload) final_u = none)
    (received_at_utc : Option String) :
    BookMatches rt (applied_book rt book payload received_at_utc final_u)
      { since with updates := since.updates ++ [payload] } where
  snapshot_id := h.snapshot_id
  bids := by
    unfold replay_side
    rw [List.foldl_append]
    exact congrArg (fun side => apply_book_side rt side (payload.get "b")) h.bids
  asks := by
    unfold replay_side
    rw [List.foldl_append]
    exact congrArg (fun side => apply_book_side rt side (payload.get "a")) h.asks
  count := by
    rw [List.length_append, List.length_singleton, ← h.count]
    rfl
  final_ids := by
    intro x hx
    rcases List.mem_append.mp hx with hold | hnew
    · exact h.final_ids x hold
    · rw [List.mem_singleton.mp hnew]
      exact hids.final
  gap_free := h.gapFree_append hids hfinal hreason
  last := (chain_end_append_singleton _ _ hfinal).symm
  active := fun _ => by simp

/-- Without an applied update, a call on a book changes neither its levels nor its
chain. -/
theorem apply_to_book_sameChain (rt : StreamRuntime K) (book : Book K) (symbol : String)
    (payload : JsonObject K) (received_at_utc : Option String)
    (h : ∀ s u, (apply_to_book rt book symbol payload received_at_utc).2 ≠ .applied s u) :
    SameChain book (apply_to_book rt book symbol payload received_at_utc).1 := by
  rcases apply_to_book_cases rt book symbol payload received_at_utc with
    ⟨-, hresult⟩ | ⟨final_u, -, ⟨-, hresult⟩ | ⟨-, reason, -, hresult⟩ | ⟨-, -, hresult⟩⟩
  · rw [hresult]
    exact ⟨rfl, rfl, rfl, rfl, rfl, id⟩
  · rw [hresult]
    exact ⟨rfl, rfl, rfl, rfl, rfl, id⟩
  · rw [hresult]
    refine ⟨rfl, rfl, rfl, rfl, rfl, ?_⟩
    intro hactive
    change BookStatus.resync_required = .active at hactive
    cases hactive
  · exact absurd (congrArg Prod.snd hresult) (h symbol final_u)

/-- An applied update: its payload was not stale, gave no reason for a resync, and
made the applied book. -/
theorem apply_to_book_applied {rt : StreamRuntime K} {book : Book K} {symbol s : String}
    {payload : JsonObject K} {received_at_utc : Option String} {u : ℤ}
    (h : (apply_to_book rt book symbol payload received_at_utc).2 = .applied s u) :
    s = symbol ∧ final_id payload = some u ∧ book.snapshot_update_id ≤ u
      ∧ resync_reason_for book (first_id payload) (previous_id payload) u = none
      ∧ (apply_to_book rt book symbol payload received_at_utc).1
        = applied_book rt book payload received_at_utc u := by
  rcases apply_to_book_cases rt book symbol payload received_at_utc with
    ⟨-, hresult⟩ | ⟨final_u, hfinal, ⟨-, hresult⟩ | ⟨-, reason, -, hresult⟩ |
      ⟨hfresh, hreason, hresult⟩⟩
  · rw [hresult] at h
    cases h
  · rw [hresult] at h
    cases h
  · rw [hresult] at h
    cases h
  · rw [hresult] at h
    cases h
    exact ⟨rfl, hfinal, hfresh, hreason, congrArg Prod.fst hresult⟩

/-- Once a resync is required it stays required, whatever the payload. -/
theorem apply_to_book_resync (rt : StreamRuntime K) {book : Book K} (symbol : String)
    (payload : JsonObject K) (received_at_utc : Option String)
    (h : book.status = .resync_required) :
    (apply_to_book rt book symbol payload received_at_utc).1.status = .resync_required := by
  -- four outcomes; only the last one sets the status to active
  rcases apply_to_book_cases rt book symbol payload received_at_utc with
    ⟨-, hresult⟩ | ⟨final_u, -, ⟨-, hresult⟩ | ⟨-, reason, -, hresult⟩ | ⟨-, -, hresult⟩⟩
  · rw [hresult]
    exact h
  · rw [hresult]
    exact h
  · rw [hresult]
    rfl
  · rw [hresult]
    change (if book.status ≠ .resync_required then BookStatus.active else book.status) = _
    rw [if_neg (not_not.mpr h), h]

/-! ## One call -/

/-- The books and the history cover the same symbols and match on each. -/
def HistoryMatches (rt : StreamRuntime K) (books : Books K) (history : Dict String (SinceSeed K)) :
    Prop :=
  ∀ symbol, Option.Rel (BookMatches rt) (books.lookup symbol) (history.lookup symbol)

/-- A book has the record of the calls since its seed. -/
theorem HistoryMatches.exists_since {rt : StreamRuntime K} {books : Books K}
    {history : Dict String (SinceSeed K)} (h : HistoryMatches rt books history) {symbol : String}
    {book : Book K} (hbook : books.lookup symbol = some book) :
    ∃ since, history.lookup symbol = some since ∧ BookMatches rt book since := by
  have hrel := h symbol
  rw [hbook] at hrel
  generalize history.lookup symbol = recorded at hrel ⊢
  cases hrel with
  | some hmatch => exact ⟨_, rfl, hmatch⟩

/-- Storing a matching pair under one symbol keeps the match on every symbol. -/
theorem HistoryMatches.insert {rt : StreamRuntime K} {books : Books K}
    {history : Dict String (SinceSeed K)} (h : HistoryMatches rt books history) (symbol : String)
    {book : Book K} {since : SinceSeed K} (hmatch : BookMatches rt book since) :
    HistoryMatches rt (books.insert symbol book) (history.insert symbol since) := by
  intro s
  by_cases hs : s = symbol
  · subst hs
    rw [AList.lookup_insert, AList.lookup_insert]
    exact Option.Rel.some hmatch
  · rw [AList.lookup_insert_ne hs, AList.lookup_insert_ne hs]
    exact h s

/-- Replacing a book by one on the same chain keeps the match. -/
theorem HistoryMatches.insert_left {rt : StreamRuntime K} {books : Books K}
    {history : Dict String (SinceSeed K)} (h : HistoryMatches rt books history) {symbol : String}
    {book after : Book K} (hbook : books.lookup symbol = some book) (hsame : SameChain book after) :
    HistoryMatches rt (books.insert symbol after) history := by
  intro s
  by_cases hs : s = symbol
  · subst hs
    obtain ⟨since, hhistory, hmatch⟩ := h.exists_since hbook
    rw [AList.lookup_insert, hhistory]
    exact Option.Rel.some (hmatch.of_sameChain hsame)
  · rw [AList.lookup_insert_ne hs]
    exact h s

/-- What a call on a symbol without a book does: nothing. -/
theorem apply_depth_payload_of_none (rt : StreamRuntime K) {books : Books K}
    {payload : JsonObject K} (received_at_utc : Option String)
    (h : ∀ symbol, payload_symbol payload = some symbol → books.lookup symbol = none) :
    (apply_depth_payload rt books payload received_at_utc).1 = books
      ∧ ∀ s u, (apply_depth_payload rt books payload received_at_utc).2 ≠ .applied s u := by
  unfold apply_depth_payload
  cases hsymbol : payload_symbol payload with
  | none => exact ⟨rfl, fun s u => by simp⟩
  | some symbol =>
      dsimp only
      rw [h symbol hsymbol]
      exact ⟨rfl, fun s u => by simp⟩

/-- What a call on a symbol with a book does: it replaces that book. -/
theorem apply_depth_payload_of_some (rt : StreamRuntime K) {books : Books K}
    {payload : JsonObject K} (received_at_utc : Option String) {symbol : String} {book : Book K}
    (hsymbol : payload_symbol payload = some symbol) (hbook : books.lookup symbol = some book) :
    apply_depth_payload rt books payload received_at_utc
      = (books.insert symbol (apply_to_book rt book symbol payload received_at_utc).1,
        (apply_to_book rt book symbol payload received_at_utc).2) := by
  unfold apply_depth_payload
  rw [hsymbol]
  dsimp only
  rw [hbook]

/-- A payload that is not applied adds nothing to the history. -/
theorem call_history_of_not_applied {rt : StreamRuntime K} {books : Books K}
    (history : Dict String (SinceSeed K)) {payload : JsonObject K} {received_at_utc : Option String}
    (h : ∀ s u, (apply_depth_payload rt books payload received_at_utc).2 ≠ .applied s u) :
    call_history rt books history (.apply payload received_at_utc) = history := by
  unfold call_history
  dsimp only
  split
  · next s u happlied => exact absurd happlied (h s u)
  · rfl

/-- Every call keeps the match of books and history. -/
theorem call_matches {rt : StreamRuntime K} {books : Books K} {history : Dict String (SinceSeed K)}
    (h : HistoryMatches rt books history) (call : BookCall K)
    (hids : ∀ payload received_at_utc, call = .apply payload received_at_utc → CarriesIds payload) :
    HistoryMatches rt (call_books rt books call) (call_history rt books history call) := by
  cases call with
  | seed snapshot => exact h.insert _ (BookMatches.seeded rt snapshot)
  | apply payload received_at_utc =>
      unfold call_books
      dsimp only
      by_cases hnone : ∀ symbol, payload_symbol payload = some symbol → books.lookup symbol = none
      · obtain ⟨hbooks, hskipped⟩ :=
          apply_depth_payload_of_none rt received_at_utc hnone
        rw [call_history_of_not_applied history hskipped, hbooks]
        exact h
      · push Not at hnone
        obtain ⟨symbol, hsymbol, hsome⟩ := hnone
        obtain ⟨book, hbook⟩ := Option.ne_none_iff_exists'.mp hsome
        have hcall := apply_depth_payload_of_some rt received_at_utc hsymbol hbook
        by_cases happlied : ∃ s u,
            (apply_to_book rt book symbol payload received_at_utc).2 = .applied s u
        · obtain ⟨s, u, haction⟩ := happlied
          obtain ⟨rfl, hfinal, -, hreason, hmade⟩ := apply_to_book_applied haction
          obtain ⟨since, hhistory, hmatch⟩ := h.exists_since hbook
          unfold call_history
          dsimp only
          rw [hcall, haction, hmade]
          dsimp only
          rw [hhistory]
          exact h.insert s (hmatch.applied (hids payload received_at_utc rfl) hfinal hreason _)
        · push Not at happlied
          have hskipped : ∀ s u,
              (apply_depth_payload rt books payload received_at_utc).2 ≠ .applied s u := by
            rw [hcall]
            exact happlied
          rw [call_history_of_not_applied history hskipped, hcall]
          exact h.insert_left hbook (apply_to_book_sameChain rt book symbol payload _ happlied)

/-- The call seeds the symbol. -/
def BookCall.Seeds (symbol : String) : BookCall K → Prop
  | .seed snapshot => pyUpper snapshot.symbol = symbol
  | .apply _ _ => False

/-- What a call does to the book of one symbol: seeds it, applies a payload to it,
or leaves it. -/
theorem call_books_cases (rt : StreamRuntime K) (books : Books K) (call : BookCall K)
    (symbol : String) :
    (∃ snapshot, call = .seed snapshot ∧ call.Seeds symbol
        ∧ (call_books rt books call).lookup symbol = some (seeded_book rt snapshot))
      ∨ (¬ call.Seeds symbol ∧ ∃ payload received_at_utc before,
          call = .apply payload received_at_utc ∧ payload_symbol payload = some symbol
          ∧ books.lookup symbol = some before
          ∧ (call_books rt books call).lookup symbol
            = some (apply_to_book rt before symbol payload received_at_utc).1)
      ∨ (¬ call.Seeds symbol
          ∧ (∀ payload received_at_utc, call = .apply payload received_at_utc →
              payload_symbol payload = some symbol → books.lookup symbol = none)
          ∧ (call_books rt books call).lookup symbol = books.lookup symbol) := by
  cases call with
  | seed snapshot =>
      by_cases hsymbol : pyUpper snapshot.symbol = symbol
      · refine Or.inl ⟨snapshot, rfl, hsymbol, ?_⟩
        subst hsymbol
        exact AList.lookup_insert books
      · refine Or.inr (Or.inr ⟨hsymbol, ?_, AList.lookup_insert_ne (Ne.symm hsymbol)⟩)
        intro payload received h
        cases h
  | apply payload received_at_utc =>
      by_cases hfound : ∃ book, payload_symbol payload = some symbol
          ∧ books.lookup symbol = some book
      · obtain ⟨book, hsymbol, hbook⟩ := hfound
        refine Or.inr (Or.inl ⟨id, payload, received_at_utc, book, rfl, hsymbol, hbook, ?_⟩)
        unfold call_books
        dsimp only
        rw [apply_depth_payload_of_some rt received_at_utc hsymbol hbook]
        exact AList.lookup_insert books
      · refine Or.inr (Or.inr ⟨id, ?_, ?_⟩)
        · intro p received h hsymbol
          cases h
          by_contra hne
          obtain ⟨book, hbook⟩ := Option.ne_none_iff_exists'.mp hne
          exact hfound ⟨book, hsymbol, hbook⟩
        · unfold call_books
          dsimp only
          by_cases hnone : ∀ s, payload_symbol payload = some s → books.lookup s = none
          · rw [(apply_depth_payload_of_none rt _ hnone).1]
          · -- the payload goes to the book of another symbol
            push Not at hnone
            obtain ⟨other, hother, hsome⟩ := hnone
            obtain ⟨book, hbook⟩ := Option.ne_none_iff_exists'.mp hsome
            rw [apply_depth_payload_of_some rt received_at_utc hother hbook]
            refine AList.lookup_insert_ne ?_
            rintro rfl
            exact hfound ⟨book, hother, hbook⟩

/-- A call that does not seed the symbol leaves a required resync required. -/
theorem call_books_resync {rt : StreamRuntime K} {books : Books K} {symbol : String} {book : Book K}
    (hbook : books.lookup symbol = some book) (hresync : book.status = .resync_required)
    {call : BookCall K} (hseed : ¬ call.Seeds symbol) :
    ∃ after, (call_books rt books call).lookup symbol = some after
      ∧ after.status = .resync_required := by
  rcases call_books_cases rt books call symbol with
    ⟨_, -, hseeds, -⟩ | ⟨-, payload, received, before, -, -, hbefore, hafter⟩ | ⟨-, -, hafter⟩
  · exact absurd hseeds hseed
  · rw [hbook] at hbefore
    cases hbefore
    exact ⟨_, hafter, apply_to_book_resync rt symbol payload received hresync⟩
  · exact ⟨book, hafter.trans hbook, hresync⟩

/-! ## Whole runs -/

/-- Every payload of the calls carries integer ids. -/
def AllCarryIds (calls : List (BookCall K)) : Prop :=
  ∀ payload received_at_utc, BookCall.apply payload received_at_utc ∈ calls → CarriesIds payload

/-- Books and history match after every run. -/
theorem run_matches (rt : StreamRuntime K) {calls : List (BookCall K)} (hids : AllCarryIds calls) :
    HistoryMatches rt (books_after rt calls) (history_after rt calls) := by
  rw [← run_calls_fst]
  unfold history_after
  induction calls using List.reverseRecOn with
  | nil => exact fun symbol => Option.Rel.none
  | append_singleton calls call ih =>
      have hcalls : AllCarryIds calls :=
        fun payload received hmem => hids payload received (List.mem_append_left _ hmem)
      rw [run_calls_append_singleton]
      refine call_matches (ih hcalls) call fun payload received hcall => ?_
      exact hids payload received (List.mem_append_right _ (hcall ▸ List.mem_singleton_self _))

/-- A required resync lasts through every run without a seed of the symbol. -/
theorem run_resync {rt : StreamRuntime K} {symbol : String} (calls later : List (BookCall K))
    {book : Book K} (hbook : (books_after rt calls).lookup symbol = some book)
    (hresync : book.status = .resync_required) (hseeds : ∀ call ∈ later, ¬ call.Seeds symbol) :
    ∃ after, (books_after rt (calls ++ later)).lookup symbol = some after
      ∧ after.status = .resync_required := by
  induction later using List.reverseRecOn with
  | nil => exact ⟨book, by rwa [List.append_nil], hresync⟩
  | append_singleton later call ih =>
      obtain ⟨after, hafter, hstatus⟩ := ih fun c hc => hseeds c (List.mem_append_left _ hc)
      rw [← List.append_assoc, books_after_append_singleton]
      exact call_books_resync hafter hstatus
        (hseeds call (List.mem_append_right _ (List.mem_singleton_self _)))

/-- The levels of a symbol's book: its two sides. -/
def levels_of (books : Books K) (symbol : String) : Option (BookSide K × BookSide K) :=
  (books.lookup symbol).map fun book => (book.bids, book.asks)

/-- A payload that is not applied leaves every level as it was. -/
theorem levels_of_not_applied {rt : StreamRuntime K} {books : Books K} {payload : JsonObject K}
    {received_at_utc : Option String}
    (h : ∀ s u, (apply_depth_payload rt books payload received_at_utc).2 ≠ .applied s u)
    (symbol : String) :
    levels_of (apply_depth_payload rt books payload received_at_utc).1 symbol
      = levels_of books symbol := by
  by_cases hnone : ∀ s, payload_symbol payload = some s → books.lookup s = none
  · rw [(apply_depth_payload_of_none rt _ hnone).1]
  · push Not at hnone
    obtain ⟨s, hsymbol, hsome⟩ := hnone
    obtain ⟨book, hbook⟩ := Option.ne_none_iff_exists'.mp hsome
    have hcall := apply_depth_payload_of_some rt received_at_utc hsymbol hbook
    rw [hcall] at h ⊢
    have hsame := apply_to_book_sameChain rt book s payload received_at_utc h
    unfold levels_of
    by_cases hs : symbol = s
    · subst hs
      rw [AList.lookup_insert, hbook, Option.map_some, Option.map_some, hsame.bids, hsame.asks]
    · rw [AList.lookup_insert_ne hs]

/-- What is true of a book and the updates applied since its seed. -/
structure BookCorrect (rt : StreamRuntime K) (book : Book K) (since : SinceSeed K) : Prop where
  gap_free : book.status = .active →
    since.updates ≠ [] ∧ GapFree since.snapshot.last_update_id since.updates
  bids : book.bids = replay_side rt since.snapshot.bids "b" since.updates
  asks : book.asks = replay_side rt since.snapshot.asks "a" since.updates
  bids_positive : ∀ price qty, book.bids.levels.lookup price = some qty → 0 < qty
  asks_positive : ∀ price qty, book.asks.levels.lookup price = some qty → 0 < qty

/-- After every run of seeds and payloads with integer ids: every book is the
snapshot of its last seed with exactly the updates applied since, which form a
gap-free chain when the book is active; a payload that is not applied leaves the
levels as they were; and a required resync stays required until the next seed. -/
theorem paper_book_correct (rt : StreamRuntime K) {calls : List (BookCall K)}
    (hids : AllCarryIds calls) :
    (∀ symbol book, (books_after rt calls).lookup symbol = some book →
        ∃ since, (history_after rt calls).lookup symbol = some since ∧ BookCorrect rt book since)
      ∧ (∀ payload received_at_utc,
          (∀ s u, (apply_depth_payload rt (books_after rt calls) payload received_at_utc).2
            ≠ .applied s u) →
          ∀ symbol,
            levels_of (apply_depth_payload rt (books_after rt calls) payload received_at_utc).1
                symbol
              = levels_of (books_after rt calls) symbol)
      ∧ ∀ symbol book later, (books_after rt calls).lookup symbol = some book →
          book.status = .resync_required → (∀ call ∈ later, ¬ call.Seeds symbol) →
          ∃ after, (books_after rt (calls ++ later)).lookup symbol = some after
            ∧ after.status = .resync_required := by
  refine ⟨?_, fun payload received h symbol => levels_of_not_applied h symbol, ?_⟩
  · intro symbol book hbook
    obtain ⟨since, hhistory, hmatch⟩ := (run_matches rt hids).exists_since hbook
    exact ⟨since, hhistory,
      { gap_free := fun hactive => ⟨hmatch.active hactive, hmatch.gap_free⟩
        bids := hmatch.bids
        asks := hmatch.asks
        bids_positive := book.bids.positive
        asks_positive := book.asks.positive }⟩
  · intro symbol book later hbook hresync hseeds
    exact run_resync calls later hbook hresync hseeds

/-! ## The last update id -/

/-- Nothing applied yet: the last update id is the snapshot's. -/
def FreshAtSnapshot (book : Book K) : Prop :=
  book.applied_update_count = 0 → book.last_depth_update_id = book.snapshot_update_id

/-- The payload is older than the last applied update, yet not older than the
snapshot, and neither its `pu` nor, without `pu`, its `U` shows a gap. -/
def ReappliesOld (book : Book K) (payload : JsonObject K) : Prop :=
  book.applied_update_count ≠ 0 ∧ ∃ u, final_id payload = some u
    ∧ book.snapshot_update_id ≤ u ∧ u < book.last_depth_update_id
    ∧ (∀ previous, previous_id payload = some previous → previous = book.last_depth_update_id)
    ∧ (previous_id payload = none → ∀ first, first_id payload = some first →
      first ≤ book.last_depth_update_id + 1)

omit [FloorRing K] in
/-- After the first applied update, the reasons for a resync are the two gaps. -/
theorem resync_reason_for_eq_none_iff {book : Book K} (hcount : book.applied_update_count ≠ 0)
    (first_u previous_from_payload : Option ℤ) (final_u : ℤ) :
    resync_reason_for book first_u previous_from_payload final_u = none
      ↔ (∀ previous, previous_from_payload = some previous →
          previous = book.last_depth_update_id)
        ∧ (previous_from_payload = none → ∀ first, first_u = some first →
          first ≤ book.last_depth_update_id + 1) := by
  unfold resync_reason_for
  rw [if_neg hcount]
  cases previous_from_payload with
  | some previous => simp
  | none =>
      cases first_u with
      | none => simp
      | some first => simp

/-- An old update is applied again exactly in a book that takes it. -/
theorem reappliesOld_iff {book : Book K} (hfresh : FreshAtSnapshot book)
    (payload : JsonObject K) :
    ReappliesOld book payload ↔ ∃ u, final_id payload = some u ∧ book.snapshot_update_id ≤ u
      ∧ u < book.last_depth_update_id
      ∧ resync_reason_for book (first_id payload) (previous_id payload) u = none := by
  constructor
  · rintro ⟨hcount, u, hfinal, hsnapshot, hold, hgaps⟩
    exact ⟨u, hfinal, hsnapshot, hold, (resync_reason_for_eq_none_iff hcount _ _ u).mpr hgaps⟩
  · rintro ⟨u, hfinal, hsnapshot, hold, hreason⟩
    have hcount : book.applied_update_count ≠ 0 := by
      intro hzero
      have hlast := hfresh hzero
      omega
    exact ⟨hcount, u, hfinal, hsnapshot, hold, (resync_reason_for_eq_none_iff hcount _ _ u).mp hreason⟩

theorem apply_to_book_fresh (rt : StreamRuntime K) {book : Book K} (symbol : String)
    (payload : JsonObject K) (received_at_utc : Option String) (h : FreshAtSnapshot book) :
    FreshAtSnapshot (apply_to_book rt book symbol payload received_at_utc).1 := by
  by_cases happlied : ∃ s u, (apply_to_book rt book symbol payload received_at_utc).2 = .applied s u
  · obtain ⟨s, u, haction⟩ := happlied
    obtain ⟨-, -, -, -, hmade⟩ := apply_to_book_applied haction
    rw [hmade]
    exact fun hzero => absurd hzero (Nat.succ_ne_zero _)
  · push Not at happlied
    have hsame := apply_to_book_sameChain rt book symbol payload received_at_utc happlied
    unfold FreshAtSnapshot
    rw [hsame.count, hsame.last, hsame.snapshot_id]
    exact h

/-- A payload lowers the last update id exactly when it applies an old update
again. -/
theorem apply_to_book_last_iff (rt : StreamRuntime K) {book : Book K} (symbol : String)
    (payload : JsonObject K) (received_at_utc : Option String) (h : FreshAtSnapshot book) :
    book.last_depth_update_id
        ≤ (apply_to_book rt book symbol payload received_at_utc).1.last_depth_update_id
      ↔ ¬ ReappliesOld book payload := by
  rw [reappliesOld_iff h]
  rcases apply_to_book_cases rt book symbol payload received_at_utc with
    ⟨hnone, hresult⟩ | ⟨final_u, hfinal, ⟨hstale, hresult⟩ | ⟨-, reason, hreason, hresult⟩ |
      ⟨hfresh, hreason, hresult⟩⟩
  · rw [hresult]
    refine ⟨fun _ => ?_, fun _ => le_refl _⟩
    rintro ⟨u, hu, -⟩
    rw [hnone] at hu
    cases hu
  · rw [hresult]
    refine ⟨fun _ => ?_, fun _ => le_refl _⟩
    rintro ⟨u, hu, hsnapshot, -⟩
    rw [hfinal] at hu
    cases hu
    omega
  · rw [hresult]
    refine ⟨fun _ => ?_, fun _ => le_refl _⟩
    rintro ⟨u, hu, -, -, hno_reason⟩
    rw [hfinal] at hu
    cases hu
    rw [hreason] at hno_reason
    cases hno_reason
  · rw [hresult]
    change book.last_depth_update_id ≤ final_u ↔ _
    constructor
    · rintro hle ⟨u, hu, -, hold, -⟩
      rw [hfinal] at hu
      cases hu
      omega
    · intro hnot
      by_contra hlt
      exact hnot ⟨final_u, hfinal, hfresh, not_le.mp hlt, hreason⟩

/-- The call applies an old update of the symbol again. -/
def CallReappliesOld (symbol : String) (book : Book K) : BookCall K → Prop
  | .seed _ => False
  | .apply payload _ => payload_symbol payload = some symbol ∧ ReappliesOld book payload

/-- One call that does not seed the symbol: its book stays, and its last update id
is lowered exactly when the call applies an old update again. -/
theorem call_books_last_iff (rt : StreamRuntime K) {books : Books K} {symbol : String}
    {before : Book K} (hbefore : books.lookup symbol = some before)
    (hfresh : FreshAtSnapshot before) {call : BookCall K} (hseed : ¬ call.Seeds symbol) :
    ∃ after, (call_books rt books call).lookup symbol = some after
      ∧ (before.last_depth_update_id ≤ after.last_depth_update_id
        ↔ ¬ CallReappliesOld symbol before call) := by
  rcases call_books_cases rt books call symbol with
    ⟨_, -, hseeds, -⟩ | ⟨-, payload, received, book, rfl, hsymbol, hbook, hafter⟩ |
      ⟨-, hother, hafter⟩
  · exact absurd hseeds hseed
  · rw [hbefore] at hbook
    cases hbook
    have hcall : CallReappliesOld symbol before (.apply payload received)
        ↔ ReappliesOld before payload := and_iff_right hsymbol
    refine ⟨_, hafter, ?_⟩
    rw [hcall]
    exact apply_to_book_last_iff rt symbol payload received hfresh
  · refine ⟨before, hafter.trans hbefore, fun _ hold => ?_, fun _ => le_refl _⟩
    cases call with
    | seed snapshot => exact hold
    | apply payload received =>
        have hnone := hother payload received rfl hold.1
        rw [hbefore] at hnone
        cases hnone

/-- Every reachable book without applied updates is at its snapshot. -/
theorem books_after_fresh (rt : StreamRuntime K) (calls : List (BookCall K)) :
    ∀ symbol book, (books_after rt calls).lookup symbol = some book → FreshAtSnapshot book := by
  induction calls using List.reverseRecOn with
  | nil =>
      intro symbol book hbook
      cases hbook
  | append_singleton calls call ih =>
      intro symbol book hbook
      rw [books_after_append_singleton] at hbook
      rcases call_books_cases rt (books_after rt calls) call symbol with
        ⟨snapshot, -, -, hafter⟩ | ⟨-, payload, received, before, -, -, hbefore, hafter⟩ |
          ⟨-, -, hafter⟩
      · rw [hafter] at hbook
        cases hbook
        exact fun _ => rfl
      · rw [hafter] at hbook
        cases hbook
        exact apply_to_book_fresh rt symbol payload received (ih symbol before hbefore)
      · exact ih symbol book (hafter.symm.trans hbook)

section Monotone

variable (rt : StreamRuntime K) (calls later : List (BookCall K)) (symbol : String)

/-- The symbol's book after the first `k` of the later calls. -/
def book_at (k : ℕ) : Option (Book K) := (books_after rt (calls ++ later.take k)).lookup symbol

/-- The step of a run without a seed of the symbol. -/
theorem book_at_succ (hseeds : ∀ call ∈ later, ¬ call.Seeds symbol) {k : ℕ}
    (hk : k < later.length) {before : Book K} (hbefore : book_at rt calls later symbol k = some before) :
    ∃ after, book_at rt calls later symbol (k + 1) = some after
      ∧ (before.last_depth_update_id ≤ after.last_depth_update_id
        ↔ ¬ CallReappliesOld symbol before later[k]) := by
  have hfresh := books_after_fresh rt _ symbol before hbefore
  obtain ⟨after, hafter, hiff⟩ := call_books_last_iff rt hbefore hfresh
    (hseeds later[k] (List.getElem_mem hk))
  refine ⟨after, ?_, hiff⟩
  unfold book_at
  rw [List.take_succ_eq_append_getElem hk, ← List.append_assoc, books_after_append_singleton]
  exact hafter

/-- A book stays through a run without a seed of its symbol. -/
theorem book_at_exists (hseeds : ∀ call ∈ later, ¬ call.Seeds symbol) {i j : ℕ} (hij : i ≤ j)
    (hj : j ≤ later.length) {before : Book K} (hbefore : book_at rt calls later symbol i = some before) :
    ∃ after, book_at rt calls later symbol j = some after := by
  induction j, hij using Nat.le_induction with
  | base => exact ⟨before, hbefore⟩
  | succ j hij ih =>
      obtain ⟨middle, hmiddle⟩ := ih (Nat.le_of_succ_le hj)
      obtain ⟨after, hafter, -⟩ := book_at_succ rt calls later symbol hseeds hj hmiddle
      exact ⟨after, hafter⟩

/-- Between two seeds of a symbol, the last update id of its book never decreases
if and only if no call applies an old update again. -/
theorem last_depth_update_id_monotone_iff (hseeds : ∀ call ∈ later, ¬ call.Seeds symbol) :
    (∀ i j, i ≤ j → j ≤ later.length → ∀ before after,
        book_at rt calls later symbol i = some before →
        book_at rt calls later symbol j = some after →
        before.last_depth_update_id ≤ after.last_depth_update_id)
      ↔ ∀ k (hk : k < later.length), ∀ before, book_at rt calls later symbol k = some before →
        ¬ CallReappliesOld symbol before later[k] := by
  constructor
  · intro hmono k hk before hbefore
    obtain ⟨after, hafter, hiff⟩ := book_at_succ rt calls later symbol hseeds hk hbefore
    exact hiff.mp (hmono k (k + 1) (Nat.le_succ k) hk before after hbefore hafter)
  · intro hnone i j hij
    induction j, hij using Nat.le_induction with
    | base =>
        intro _ before after hbefore hafter
        rw [hbefore] at hafter
        cases hafter
        exact le_refl _
    | succ j hij ih =>
        intro hj before after hbefore hafter
        obtain ⟨middle, hmiddle⟩ :=
          book_at_exists rt calls later symbol hseeds hij (Nat.le_of_succ_le hj) hbefore
        obtain ⟨next, hnext, hiff⟩ := book_at_succ rt calls later symbol hseeds hj hmiddle
        rw [hafter] at hnext
        cases hnext
        exact le_trans (ih (Nat.le_of_succ_le hj) before middle hbefore hmiddle)
          (hiff.mpr (hnone j hj middle hmiddle))

end Monotone

/-! ## Two runs -/

/-- A bid-only snapshot of BTCUSDT. -/
def bid_snapshot (last_update_id : ℤ) : LocalOrderBookSnapshot ℚ where
  symbol := "BTCUSDT"
  last_update_id := last_update_id
  bids := [[.int 100, .int 1]]
  asks := []
  received_at_utc := none

/-- A depth payload of BTCUSDT that sets one bid; `pu` may be missing. -/
def bid_payload (first_u final_u : ℤ) (previous_u : Option ℤ) (qty : ℤ) : JsonObject ℚ :=
  [("s", .str "BTCUSDT"), ("U", .int first_u), ("u", .int final_u),
    ("pu", (previous_u.map JsonValue.int).getD .null), ("b", .list [.list [.int 100, .int qty]])]

theorem bid_payload_carriesIds (first_u final_u previous_u qty : ℤ) :
    CarriesIds (bid_payload first_u final_u (some previous_u) qty) :=
  ⟨rfl, rfl, rfl⟩

/-- A seed at id 12, a payload that starts behind a gap, and one that bridges the
snapshot. -/
def gapped_calls : List (BookCall ℚ) :=
  [.seed (bid_snapshot 12), .apply (bid_payload 14 15 (some 13) 2) none]

/-- The gap asks for a resync, and still the next payload is applied: the level
changes under the required resync. -/
theorem resync_required_payload_applied :
    AllCarryIds gapped_calls
      ∧ ((books_after minute_runtime gapped_calls).lookup "BTCUSDT").map Book.status
        = some .resync_required
      ∧ CarriesIds (bid_payload 10 13 (some 9) 3)
      ∧ (apply_depth_payload minute_runtime (books_after minute_runtime gapped_calls)
          (bid_payload 10 13 (some 9) 3) none).2 = .applied "BTCUSDT" 13 := by
  refine ⟨?_, by decide +kernel, bid_payload_carriesIds 10 13 9 3, by decide +kernel⟩
  intro payload received hmem
  simp only [gapped_calls, List.mem_cons, reduceCtorEq, BookCall.apply.injEq, List.not_mem_nil,
    or_false, false_or] at hmem
  rw [hmem.1]
  exact bid_payload_carriesIds 14 15 13 2

/-- A seed at id 12 and two payloads that follow it. -/
def chained_calls : List (BookCall ℚ) :=
  [.seed (bid_snapshot 12), .apply (bid_payload 10 13 (some 9) 2) none,
    .apply (bid_payload 14 15 (some 13) 0) none]

/-- Their book is active and correct. -/
theorem paper_book_correct_chained :
    ∃ book since, (books_after minute_runtime chained_calls).lookup "BTCUSDT" = some book
      ∧ book.status = .active
      ∧ (history_after minute_runtime chained_calls).lookup "BTCUSDT" = some since
      ∧ BookCorrect minute_runtime book since := by
  have hids : AllCarryIds chained_calls := by
    intro payload received hmem
    simp only [chained_calls, List.mem_cons, reduceCtorEq, BookCall.apply.injEq, List.not_mem_nil,
      or_false, false_or] at hmem
    rcases hmem with ⟨rfl, -⟩ | ⟨rfl, -⟩
    · exact bid_payload_carriesIds 10 13 9 2
    · exact bid_payload_carriesIds 14 15 13 0
  have hstatus : ((books_after minute_runtime chained_calls).lookup "BTCUSDT").map Book.status
      = some .active := by decide +kernel
  obtain ⟨book, hbook, hactive⟩ := Option.map_eq_some_iff.mp hstatus
  obtain ⟨since, hsince, hcorrect⟩ :=
    (paper_book_correct minute_runtime hids).1 "BTCUSDT" book hbook
  exact ⟨book, since, hbook, hactive, hsince, hcorrect⟩

/-- Without `pu`: an update up to id 15, then one up to id 12. -/
def reordered_calls : List (BookCall ℚ) :=
  [.apply (bid_payload 9 15 none 2) none, .apply (bid_payload 11 12 none 3) none]

/-- The second update is applied on top of the first, and the last update id falls
from 15 to 12. -/
theorem last_depth_update_id_decreases :
    (∀ call ∈ reordered_calls, ¬ call.Seeds "BTCUSDT")
      ∧ (book_at minute_runtime [.seed (bid_snapshot 10)] reordered_calls "BTCUSDT" 1).map
          Book.last_depth_update_id = some 15
      ∧ (book_at minute_runtime [.seed (bid_snapshot 10)] reordered_calls "BTCUSDT" 2).map
          Book.last_depth_update_id = some 12 := by
  refine ⟨?_, by decide +kernel, by decide +kernel⟩
  intro call hcall
  simp only [reordered_calls, List.mem_cons, List.not_mem_nil, or_false] at hcall
  rcases hcall with rfl | rfl
  · exact id
  · exact id

/-- Without `pu`: two updates in order. -/
def ordered_calls : List (BookCall ℚ) :=
  [.apply (bid_payload 9 15 none 2) none, .apply (bid_payload 16 17 none 3) none]

/-- Their last update ids do not decrease. -/
theorem last_depth_update_id_monotone_ordered :
    ∃ before after,
      book_at minute_runtime [.seed (bid_snapshot 10)] ordered_calls "BTCUSDT" 1 = some before
      ∧ book_at minute_runtime [.seed (bid_snapshot 10)] ordered_calls "BTCUSDT" 2 = some after
      ∧ before.last_depth_update_id ≤ after.last_depth_update_id := by
  have hseeds : ∀ call ∈ ordered_calls, ¬ call.Seeds "BTCUSDT" := by
    intro call hcall
    simp only [ordered_calls, List.mem_cons, List.not_mem_nil, or_false] at hcall
    rcases hcall with rfl | rfl
    · exact id
    · exact id
  have hlast : ∀ k, k < 3 →
      ((book_at minute_runtime [.seed (bid_snapshot 10)] ordered_calls "BTCUSDT" k).map
        Book.last_depth_update_id) = some (if k = 0 then 10 else if k = 1 then 15 else 17) := by
    decide +kernel
  obtain ⟨first, hfirst, -⟩ := Option.map_eq_some_iff.mp (hlast 1 (by decide))
  obtain ⟨second, hsecond, -⟩ := Option.map_eq_some_iff.mp (hlast 2 (by decide))
  refine ⟨first, second, hfirst, hsecond, ?_⟩
  refine (last_depth_update_id_monotone_iff minute_runtime [.seed (bid_snapshot 10)] ordered_calls
    "BTCUSDT" hseeds).mpr ?_ 1 2 (by decide) le_rfl first second hfirst hsecond
  intro k hk before hbefore
  have hbook := hlast k (Nat.lt_succ_of_lt hk)
  rw [hbefore, Option.map_some, Option.some_inj] at hbook
  have hcases : k = 0 ∨ k = 1 := by
    have hlength : ordered_calls.length = 2 := rfl
    omega
  rcases hcases with rfl | rfl
  · rintro ⟨-, -, u, hu, -, hold, -⟩
    have hfinal : u = 15 := (Option.some.inj hu).symm
    rw [hbook, hfinal] at hold
    exact absurd hold (by decide)
  · rintro ⟨-, -, u, hu, -, hold, -⟩
    have hfinal : u = 17 := (Option.some.inj hu).symm
    rw [hbook, hfinal] at hold
    exact absurd hold (by decide)

end ProofAlpha.Execution
