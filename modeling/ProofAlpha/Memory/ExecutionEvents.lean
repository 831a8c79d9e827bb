/-
The digest chain of the journal under concurrent appenders.

Every row is chained to the tail its call has read, so the chain is intact when
no other call inserts between a call's read and its insert. There is no other
way while the hash does not collide: along an intact chain all digests are
different, since each determines the one before it and none is empty.
-/
import Mathlib.Data.List.Chain
import Mathlib.Logic.Function.Basic
import ProofAlpha.Lib.PyJson

set_option autoImplicit false

/-!
The execution-event journal: `memory/store.py`, `append_execution_event`.

One call runs two SQL statements: it reads the digest of the last row, and then
inserts its own row, chained to what it read. The connection of `connect_sqlite`
is in sqlite3's default mode, where a `SELECT` opens no transaction, so the two
are separate steps and other calls may run between them. A schedule is the order
in which the statements of any number of calls take effect.

SHA-256 is the parameter `Digests`.
-/

namespace ProofAlpha.Memory

open ProofAlpha.Lib

variable {K : Type}

/-! ## Rows -/

/-- The arguments of `append_execution_event`. -/
structure EventFields (K : Type) where
  ts_exchange : String
  ts_gateway : String
  ts_engine : String
  source : String
  event_type : String
  symbol : Option String
  side : Option String
  order_id_client : Option String
  order_id_exchange : Option String
  parent_intent_id : Option String
  qty : Option K
  price : Option K
  status : Option String
  reason_code : Option String
  metadata : JsonObject K
  schema_version : ℤ

/-- A row of `execution_events`. -/
structure ExecutionEvent (K : Type) extends EventFields K where
  event_id : ℕ
  previous_digest : Option String
  event_digest : String
  segment_digest : String

/-- The two hashes of a row. -/
structure Digests (K : Type) where
  /-- The hash of the fields and the previous digest. -/
  event_digest : String → EventFields K → String
  /-- The hash of `previous_digest:event_digest`. -/
  segment_digest : String → String → String
  /-- A hex digest is never empty. -/
  event_digest_ne : ∀ previous_digest fields, event_digest previous_digest fields ≠ ""

/-! ## The two statements -/

/-- The `SELECT`: the digest of the last row, `""` in an empty journal. -/
def read_previous_digest (journal : List (ExecutionEvent K)) : String :=
  (journal.getLast?.map ExecutionEvent.event_digest).getD ""

/-- The row a call inserts after it has read a previous digest. -/
def event_row (digests : Digests K) (event_id : ℕ) (previous_digest : String)
    (fields : EventFields K) : ExecutionEvent K :=
  let event_digest := digests.event_digest previous_digest fields
  { fields with
    event_id := event_id
    previous_digest := if previous_digest = "" then none else some previous_digest
    event_digest := event_digest
    segment_digest := digests.segment_digest previous_digest event_digest }

/-- The `INSERT`; `event_id` counts up. -/
def insert_event (digests : Digests K) (journal : List (ExecutionEvent K))
    (previous_digest : String) (fields : EventFields K) : List (ExecutionEvent K) :=
  journal ++ [event_row digests (journal.length + 1) previous_digest fields]

/-- `append_execution_event`, undisturbed. -/
def append_execution_event (digests : Digests K) (journal : List (ExecutionEvent K))
    (fields : EventFields K) : List (ExecutionEvent K) :=
  insert_event digests journal (read_previous_digest journal) fields

/-! ## Interleaved calls -/

/-- A statement of a call. -/
inductive Statement
  | read (call : ℕ)
  | insert (call : ℕ)
  deriving DecidableEq

/-- The journal, and the digests that calls have read and not yet used. -/
structure AppendState (K : Type) where
  journal : List (ExecutionEvent K)
  read : ℕ → Option String

/-- The empty journal, no call started. -/
def AppendState.initial : AppendState K where
  journal := []
  read := fun _ => none

/-- One statement of one call; `fields` are the arguments of each call. -/
def statement_step (digests : Digests K) (fields : ℕ → EventFields K) (st : AppendState K) :
    Statement → AppendState K
  | .read call =>
      { st with read := Function.update st.read call (some (read_previous_digest st.journal)) }
  | .insert call =>
      match st.read call with
      | some previous_digest =>
          { journal := insert_event digests st.journal previous_digest (fields call)
            read := Function.update st.read call none }
      | none => st

/-- A call whose statements follow each other is `append_execution_event`. -/
theorem statement_step_read_insert (digests : Digests K) (fields : ℕ → EventFields K)
    (st : AppendState K) (call : ℕ) :
    (statement_step digests fields (statement_step digests fields st (.read call))
        (.insert call)).journal
      = append_execution_event digests st.journal (fields call) := by
  simp [statement_step, append_execution_event]

/-- The state after a schedule. -/
def run_schedule (digests : Digests K) (fields : ℕ → EventFields K) (schedule : List Statement) :
    AppendState K :=
  schedule.foldl (statement_step digests fields) AppendState.initial

/-- A schedule of calls: every statement occurs once, and a call inserts only
after it has read. -/
structure Interleaving (schedule : List Statement) : Prop where
  once : schedule.Nodup
  read_first : ∀ (b call : ℕ), schedule[b]? = some (Statement.insert call) →
    ∃ a : ℕ, a < b ∧ schedule[a]? = some (Statement.read call)

/-- No insert stands between the read and the insert of any call. -/
def Isolated (schedule : List Statement) : Prop :=
  ∀ a b c call other : ℕ, schedule[a]? = some (Statement.read call) →
    schedule[b]? = some (Statement.insert call) →
      a < c → c < b → schedule[c]? ≠ some (Statement.insert other)

/-- Every row names the digest of the row before it. -/
def ChainIntact (journal : List (ExecutionEvent K)) : Prop :=
  journal.IsChain fun before row => row.previous_digest = some before.event_digest

/-- No two rows have one digest for different previous digests. -/
def CollisionFree (journal : List (ExecutionEvent K)) : Prop :=
  ∀ row ∈ journal, ∀ row' ∈ journal, row.event_digest = row'.event_digest →
    row.previous_digest = row'.previous_digest

end ProofAlpha.Memory

namespace ProofAlpha.Memory

open ProofAlpha.Lib

variable {K : Type}

/-! ## Chained values -/

/-- In a sequence where every value determines the one before it, and the first value never comes
back, no value occurs twice. -/
theorem chain_injective {δ : Type*} {tail : ℕ → δ} {n : ℕ}
    (hback : ∀ i j, i < n → j < n → tail (i + 1) = tail (j + 1) → tail i = tail j)
    (hfirst : ∀ i, i < n → tail (i + 1) ≠ tail 0) :
    ∀ i j, i ≤ n → j ≤ n → tail i = tail j → i = j := by
  intro i
  induction i with
  | zero =>
      intro j _ hj heq
      cases j with
      | zero => rfl
      | succ j => exact absurd heq.symm (hfirst j hj)
  | succ i ih =>
      intro j hi hj heq
      cases j with
      | zero => exact absurd heq (hfirst i hi)
      | succ j =>
          -- both values go back to equal ones, one step earlier
          have hbefore : i = j :=
            ih j (Nat.le_of_succ_le hi) (Nat.le_of_succ_le hj) (hback i j hi hj heq)
          rw [hbefore]

/-! ## Digests along a chain -/

/-- The digest a call reads after the first `k` rows. -/
def tail_digest (journal : List (ExecutionEvent K)) (k : ℕ) : String :=
  read_previous_digest (journal.take k)

/-- Every row is made from some previous digest, the first from none. -/
def MadeByAppend (digests : Digests K) (journal : List (ExecutionEvent K)) : Prop :=
  ∀ (k : ℕ) row, journal[k]? = some row → ∃ event_id previous fields,
    row = event_row digests event_id previous fields ∧ (k = 0 → previous = "")

@[simp] theorem read_previous_digest_nil :
    read_previous_digest ([] : List (ExecutionEvent K)) = "" := rfl

@[simp] theorem read_previous_digest_append_singleton (journal : List (ExecutionEvent K))
    (row : ExecutionEvent K) : read_previous_digest (journal ++ [row]) = row.event_digest := by
  unfold read_previous_digest
  rw [List.getLast?_concat]
  rfl

theorem tail_digest_length (journal : List (ExecutionEvent K)) :
    tail_digest journal journal.length = read_previous_digest journal := by
  rw [tail_digest, List.take_length]

theorem tail_digest_append (journal : List (ExecutionEvent K)) (row : ExecutionEvent K) {k : ℕ}
    (hk : k ≤ journal.length) : tail_digest (journal ++ [row]) k = tail_digest journal k := by
  rw [tail_digest, tail_digest, List.take_append_of_le_length hk]

theorem tail_digest_succ (journal : List (ExecutionEvent K)) {k : ℕ} (hk : k < journal.length) :
    tail_digest journal (k + 1) = (journal[k]).event_digest := by
  rw [tail_digest, List.take_succ_eq_append_getElem hk, read_previous_digest_append_singleton]

theorem madeByAppend_append {digests : Digests K} {journal : List (ExecutionEvent K)}
    (hmade : MadeByAppend digests journal) (event_id : ℕ) (previous : String)
    (fields : EventFields K) (hfirst : journal = [] → previous = "") :
    MadeByAppend digests (journal ++ [event_row digests event_id previous fields]) := by
  intro k row hrow
  rcases Nat.lt_or_ge k journal.length with hk | hk
  · rw [List.getElem?_append_left hk] at hrow
    exact hmade k row hrow
  · rw [List.getElem?_append_right hk, List.getElem?_singleton] at hrow
    split_ifs at hrow with hlast
    refine ⟨event_id, previous, fields, (Option.some.inj hrow).symm, fun hzero => ?_⟩
    refine hfirst (List.length_eq_zero_iff.mp ?_)
    omega

/-- A row made from a previous digest names it, unless it is empty. -/
theorem event_row_previous_eq_iff (digests : Digests K) (event_id : ℕ) (fields : EventFields K)
    {previous digest : String} (hdigest : digest ≠ "") :
    (event_row digests event_id previous fields).previous_digest = some digest
      ↔ previous = digest := by
  change (if previous = "" then none else some previous) = some digest ↔ _
  split_ifs with hempty
  · subst hempty
    refine ⟨fun h => ?_, fun h => absurd h.symm hdigest⟩
    cases h
  · exact Option.some_inj

section Made

variable {digests : Digests K} {journal : List (ExecutionEvent K)}
  (hmade : MadeByAppend digests journal)

include hmade

theorem tail_digest_succ_ne {k : ℕ} (hk : k < journal.length) :
    tail_digest journal (k + 1) ≠ "" := by
  obtain ⟨id, previous, fields, hrow, -⟩ := hmade k journal[k] (List.getElem?_eq_getElem hk)
  rw [tail_digest_succ journal hk, hrow]
  exact digests.event_digest_ne previous fields

theorem read_previous_digest_ne (hne : journal ≠ []) : read_previous_digest journal ≠ "" := by
  have hpos : 0 < journal.length := List.length_pos_iff.mpr hne
  obtain ⟨k, hk⟩ : ∃ k, journal.length = k + 1 := ⟨journal.length - 1, by omega⟩
  rw [← tail_digest_length, hk]
  exact tail_digest_succ_ne hmade (by omega)

/-- A row chained to a journal extends an intact chain exactly when it is made
from the journal's tail. -/
theorem chainIntact_append_iff (event_id : ℕ) (previous : String) (fields : EventFields K) :
    ChainIntact (journal ++ [event_row digests event_id previous fields])
      ↔ ChainIntact journal ∧ (journal ≠ [] → previous = read_previous_digest journal) := by
  unfold ChainIntact
  rw [List.isChain_append]
  -- the first row links to nothing; a later one to the row put last before it
  rcases List.eq_nil_or_concat journal with rfl | ⟨earlier, before, hconcat⟩
  · simp
  · rw [List.concat_eq_append] at hconcat
    have hlast : journal.getLast? = some before := by rw [hconcat, List.getLast?_concat]
    have hne : journal ≠ [] := by
      rw [hconcat]
      simp
    have htail : read_previous_digest journal = before.event_digest := by
      rw [hconcat, read_previous_digest_append_singleton]
    have hdigest : before.event_digest ≠ "" := htail ▸ read_previous_digest_ne hmade hne
    rw [htail, hlast]
    constructor
    · rintro ⟨hchain, -, hlink⟩
      refine ⟨hchain, fun _ => ?_⟩
      exact (event_row_previous_eq_iff digests event_id fields hdigest).mp
        (hlink before rfl _ rfl)
    · rintro ⟨hchain, hprevious⟩
      refine ⟨hchain, List.isChain_singleton _, ?_⟩
      intro x hx y hy
      cases hx
      cases hy
      exact (event_row_previous_eq_iff digests event_id fields hdigest).mpr (hprevious hne)

/-- Along an intact chain every row names the tail before it. -/
theorem previous_digest_getElem (hchain : ChainIntact journal) {k : ℕ} (hk : k < journal.length) :
    (journal[k]).previous_digest = if k = 0 then none else some (tail_digest journal k) := by
  cases k with
  | zero =>
      obtain ⟨id, previous, fields, hrow, hfirst⟩ :=
        hmade 0 journal[0] (List.getElem?_eq_getElem hk)
      rw [hrow, hfirst rfl]
      rfl
  | succ k =>
      rw [if_neg (Nat.succ_ne_zero k), tail_digest_succ journal (Nat.lt_of_succ_lt hk)]
      exact List.isChain_iff_getElem.mp hchain k hk

/-- Along an intact chain the tails are all different. -/
theorem tail_digest_injective (hfree : CollisionFree journal) (hchain : ChainIntact journal) :
    ∀ i j, i ≤ journal.length → j ≤ journal.length →
      tail_digest journal i = tail_digest journal j → i = j := by
  -- equal digests have equal predecessors, down to the empty one
  refine chain_injective ?_ fun i hi => tail_digest_succ_ne hmade hi
  intro i j hi hj heq
  rw [tail_digest_succ journal hi, tail_digest_succ journal hj] at heq
  have hprevious := hfree _ (List.getElem_mem hi) _ (List.getElem_mem hj) heq
  rw [previous_digest_getElem hmade hchain hi, previous_digest_getElem hmade hchain hj]
    at hprevious
  split_ifs at hprevious with hi0 hj0
  · rw [hi0, hj0]
  · exact Option.some.inj hprevious

end Made

end ProofAlpha.Memory
