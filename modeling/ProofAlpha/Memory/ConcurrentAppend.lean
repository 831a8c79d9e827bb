/-
Concurrent calls of `append_execution_event`.

`append_invariant` says, along any schedule, what each call has read: the tail
of the journal as it was at the call's read. From it the row of every insert is
known, and `concurrent_append_chain_intact` compares it with the tail at the
insert.
-/
import Mathlib.Tactic.IntervalCases
import ProofAlpha.Memory.ExecutionEvents

set_option autoImplicit false

namespace ProofAlpha.Memory

variable {K : Type}

/-! ## Schedules -/

/-- Whether a statement is an insert. -/
def Statement.isInsert : Statement → Bool
  | .read _ => false
  | .insert _ => true

/-- The number of inserts of a schedule. -/
def inserts (schedule : List Statement) : ℕ :=
  schedule.countP Statement.isInsert

theorem inserts_append_read (s : List Statement) (call : ℕ) :
    inserts (s ++ [.read call]) = inserts s := by
  simp [inserts, List.countP_append, Statement.isInsert]

theorem inserts_append_insert (s : List Statement) (call : ℕ) :
    inserts (s ++ [.insert call]) = inserts s + 1 := by
  simp [inserts, List.countP_append, Statement.isInsert]

theorem inserts_take_le (s : List Statement) (a : ℕ) : inserts (s.take a) ≤ inserts s :=
  (List.take_sublist a s).countP_le

/-- No insert follows position `a` exactly when all inserts stand before it. -/
theorem inserts_take_eq_iff {s : List Statement} {a call : ℕ}
    (ha : s[a]? = some (Statement.read call)) :
    inserts (s.take a) = inserts s
      ↔ ∀ c other, a < c → s[c]? ≠ some (Statement.insert other) := by
  -- the inserts before the read and those from it on
  have hsplit : inserts s = inserts (s.take a) + inserts (s.drop a) := by
    unfold inserts
    rw [← List.countP_append, List.take_append_drop]
  have hzero : inserts (s.take a) = inserts s ↔ inserts (s.drop a) = 0 := by omega
  rw [hzero, inserts, List.countP_eq_zero]
  constructor
  · intro hnone c other hc hinsert
    refine hnone (.insert other) ?_ rfl
    refine List.mem_iff_getElem?.mpr ⟨c - a, ?_⟩
    rw [List.getElem?_drop, show a + (c - a) = c by omega]
    exact hinsert
  · intro hnone x hx
    obtain ⟨k, hk⟩ := List.mem_iff_getElem?.mp hx
    rw [List.getElem?_drop] at hk
    cases x with
    | read _ => simp [Statement.isInsert]
    | insert other =>
        -- position `a` itself is a read
        have hpos : k ≠ 0 := by
          rintro rfl
          rw [Nat.add_zero, ha] at hk
          cases hk
        exact absurd hk (hnone (a + k) other (by omega))

theorem interleaving_of_append {s : List Statement} {x : Statement}
    (h : Interleaving (s ++ [x])) : Interleaving s := by
  refine ⟨h.once.sublist (List.sublist_append_left s [x]), fun b call hb => ?_⟩
  have hlt : b < s.length := (List.getElem?_eq_some_iff.mp hb).1
  obtain ⟨a, hab, ha⟩ := h.read_first b call (by rw [List.getElem?_append_left hlt, hb])
  rw [List.getElem?_append_left (by omega)] at ha
  exact ⟨a, hab, ha⟩

/-- A new statement does not occur before. -/
theorem notMem_of_interleaving_append {s : List Statement} {x : Statement}
    (h : Interleaving (s ++ [x])) : x ∉ s := by
  have hdisjoint := (List.nodup_append.mp h.once).2.2
  exact fun hx => hdisjoint x hx x (List.mem_singleton_self x) rfl

/-- The read of a call that inserts now. -/
theorem read_of_interleaving_append {s : List Statement} {call : ℕ}
    (h : Interleaving (s ++ [.insert call])) : ∃ a : ℕ, s[a]? = some (Statement.read call) := by
  obtain ⟨a, hlt, ha⟩ := h.read_first s.length call List.getElem?_concat_length
  rw [List.getElem?_append_left hlt] at ha
  exact ⟨a, ha⟩

theorem getElem?_append_singleton_eq_some {s : List Statement} {x y : Statement} {a : ℕ}
    (h : (s ++ [x])[a]? = some y) : s[a]? = some y ∨ (a = s.length ∧ x = y) := by
  rcases Nat.lt_or_ge a s.length with hlt | hge
  · rw [List.getElem?_append_left hlt] at h
    exact Or.inl h
  · rw [List.getElem?_append_right hge, List.getElem?_singleton] at h
    split_ifs at h with hlast
    exact Or.inr ⟨by omega, Option.some.inj h⟩

/-- Reading leaves a schedule isolated. -/
theorem isolated_append_read (s : List Statement) (call : ℕ) :
    Isolated (s ++ [.read call]) ↔ Isolated s := by
  constructor
  · intro h a b c call' other ha hb hac hcb hc
    have hlt : b < s.length := (List.getElem?_eq_some_iff.mp hb).1
    refine h a b c call' other ?_ ?_ hac hcb ?_
    all_goals rw [List.getElem?_append_left (by omega)]; assumption
  · intro h a b c call' other ha hb hac hcb hc
    rcases getElem?_append_singleton_eq_some hb with hb | ⟨-, hne⟩
    · have hlt : b < s.length := (List.getElem?_eq_some_iff.mp hb).1
      rw [List.getElem?_append_left (by omega)] at ha hc
      exact h a b c call' other ha hb hac hcb hc
    · cases hne

/-- An insert leaves a schedule isolated exactly when no insert has come after
its read. -/
theorem isolated_append_insert {s : List Statement} {a call : ℕ}
    (hs : Interleaving (s ++ [.insert call])) (ha : s[a]? = some (Statement.read call)) :
    Isolated (s ++ [.insert call]) ↔ Isolated s ∧ inserts (s.take a) = inserts s := by
  have halt : a < s.length := (List.getElem?_eq_some_iff.mp ha).1
  rw [inserts_take_eq_iff ha]
  constructor
  · intro h
    constructor
    · intro a' b c call' other ha' hb hac hcb hc
      have hlt : b < s.length := (List.getElem?_eq_some_iff.mp hb).1
      refine h a' b c call' other ?_ ?_ hac hcb ?_
      all_goals rw [List.getElem?_append_left (by omega)]; assumption
    · intro c other hac hc
      have hlt : c < s.length := (List.getElem?_eq_some_iff.mp hc).1
      refine h a s.length c call other ?_ List.getElem?_concat_length hac hlt ?_
      all_goals rw [List.getElem?_append_left (by omega)]; assumption
  · rintro ⟨hbefore, hafter⟩ a' b c call' other ha' hb hac hcb hc
    rcases getElem?_append_singleton_eq_some hb with hb | ⟨rfl, hlast⟩
    · have hlt : b < s.length := (List.getElem?_eq_some_iff.mp hb).1
      rw [List.getElem?_append_left (by omega)] at ha' hc
      exact hbefore a' b c call' other ha' hb hac hcb hc
    · -- the insert of this call; its read stands only at `a`
      cases hlast
      rw [List.getElem?_append_left (by omega)] at ha' hc
      have hsame : a' = a :=
        (List.getElem?_inj (by omega) (interleaving_of_append hs).once).mp (ha'.trans ha.symm)
      exact hafter c other (by omega) hc

/-! ## Runs -/

section Run

variable (digests : Digests K) (fields : ℕ → EventFields K)

theorem run_schedule_append (s : List Statement) (x : Statement) :
    run_schedule digests fields (s ++ [x])
      = statement_step digests fields (run_schedule digests fields s) x := by
  rw [run_schedule, List.foldl_append]
  rfl

/-- What holds after a schedule. -/
structure AppendInvariant (s : List Statement) : Prop where
  length_journal : (run_schedule digests fields s).journal.length = inserts s
  made : MadeByAppend digests (run_schedule digests fields s).journal
  /-- A call that has not inserted holds the tail at its read. -/
  pending : ∀ a call, s[a]? = some (Statement.read call) → Statement.insert call ∉ s →
    (run_schedule digests fields s).read call
      = some (tail_digest (run_schedule digests fields s).journal (inserts (s.take a)))

variable {digests fields}

/-- An insert adds the row made from the tail at the call's read. -/
theorem AppendInvariant.run_append_insert {s : List Statement} {a call : ℕ}
    (hinv : AppendInvariant digests fields s) (hs : Interleaving (s ++ [.insert call]))
    (ha : s[a]? = some (Statement.read call)) :
    run_schedule digests fields (s ++ [.insert call])
      = { journal := (run_schedule digests fields s).journal ++
            [event_row digests ((run_schedule digests fields s).journal.length + 1)
              (tail_digest (run_schedule digests fields s).journal (inserts (s.take a)))
              (fields call)]
          read := Function.update (run_schedule digests fields s).read call none } := by
  rw [run_schedule_append, statement_step,
    hinv.pending a call ha (notMem_of_interleaving_append hs)]
  rfl

theorem AppendInvariant.append_read {s : List Statement} {call : ℕ}
    (hinv : AppendInvariant digests fields s) (hs : Interleaving (s ++ [.read call])) :
    AppendInvariant digests fields (s ++ [.read call]) := by
  have hrun : run_schedule digests fields (s ++ [.read call])
      = { run_schedule digests fields s with
          read := Function.update (run_schedule digests fields s).read call
            (some (read_previous_digest (run_schedule digests fields s).journal)) } := by
    rw [run_schedule_append, statement_step]
  refine ⟨?_, ?_, ?_⟩
  · rw [hrun, inserts_append_read]
    exact hinv.length_journal
  · rw [hrun]
    exact hinv.made
  · intro a call' ha hpending
    rw [hrun]
    change Function.update _ call _ call' = _
    have hnot : Statement.insert call' ∉ s := fun h => hpending (List.mem_append_left _ h)
    rcases getElem?_append_singleton_eq_some ha with hread | ⟨rfl, hlast⟩
    · -- an earlier read, of another call
      have hlt : a < s.length := (List.getElem?_eq_some_iff.mp hread).1
      have hne : call' ≠ call := by
        rintro rfl
        exact notMem_of_interleaving_append hs (List.mem_of_getElem? hread)
      rw [Function.update_of_ne hne, List.take_append_of_le_length hlt.le]
      exact hinv.pending a call' hread hnot
    · cases hlast
      rw [Function.update_self, List.take_left, ← hinv.length_journal, tail_digest_length]

theorem AppendInvariant.append_insert {s : List Statement} {call : ℕ}
    (hinv : AppendInvariant digests fields s) (hs : Interleaving (s ++ [.insert call])) :
    AppendInvariant digests fields (s ++ [.insert call]) := by
  obtain ⟨a, ha⟩ := read_of_interleaving_append hs
  have hrun := hinv.run_append_insert hs ha
  refine ⟨?_, ?_, ?_⟩
  · rw [hrun, inserts_append_insert, List.length_append, hinv.length_journal]
    rfl
  · rw [hrun]
    refine madeByAppend_append hinv.made _ _ _ fun hnil => ?_
    rw [hnil]
    exact congrArg read_previous_digest List.take_nil
  · intro a' call' ha' hpending
    rw [hrun]
    change Function.update _ call _ call' = _
    rcases getElem?_append_singleton_eq_some ha' with ha' | ⟨-, hlast⟩
    · have hlt : a' < s.length := (List.getElem?_eq_some_iff.mp ha').1
      have hne : call' ≠ call := by
        rintro rfl
        exact hpending (List.mem_append_right _ (List.mem_singleton_self _))
      have hle : inserts (s.take a') ≤ (run_schedule digests fields s).journal.length := by
        rw [hinv.length_journal]
        exact inserts_take_le s a'
      rw [Function.update_of_ne hne, List.take_append_of_le_length hlt.le,
        tail_digest_append _ _ hle]
      exact hinv.pending a' call' ha' fun h => hpending (List.mem_append_left _ h)
    · cases hlast

variable (digests fields)

theorem append_invariant {s : List Statement} (hs : Interleaving s) :
    AppendInvariant digests fields s := by
  -- a schedule is taken apart from its end: the last statement sees the run before it
  induction s using List.reverseRecOn with
  | nil =>
      refine ⟨rfl, fun k row hrow => ?_, fun a call ha _ => ?_⟩
      · cases hrow
      · cases ha
  | append_singleton s x ih =>
      have hinv := ih (interleaving_of_append hs)
      cases x with
      | read call => exact hinv.append_read hs
      | insert call => exact hinv.append_insert hs

theorem collisionFree_of_append {journal : List (ExecutionEvent K)} {row : ExecutionEvent K}
    (h : CollisionFree (journal ++ [row])) : CollisionFree journal :=
  fun r hr r' hr' => h r (List.mem_append_left _ hr) r' (List.mem_append_left _ hr')

/-- The chain is intact if no call inserts between the read and the insert of
another one, and, while the hash does not collide, only then. -/
theorem concurrent_append_chain_intact {schedule : List Statement} (hs : Interleaving schedule) :
    (Isolated schedule → ChainIntact (run_schedule digests fields schedule).journal) ∧
      (CollisionFree (run_schedule digests fields schedule).journal →
        ChainIntact (run_schedule digests fields schedule).journal → Isolated schedule) := by
  induction schedule using List.reverseRecOn with
  | nil =>
      refine ⟨fun _ => List.isChain_nil, fun _ _ => ?_⟩
      intro a b c call other ha
      cases ha
  | append_singleton s x ih =>
      obtain ⟨hintact, hisolated⟩ := ih (interleaving_of_append hs)
      have hinv := append_invariant digests fields (interleaving_of_append hs)
      cases x with
      | read call =>
          have hjournal : (run_schedule digests fields (s ++ [.read call])).journal
              = (run_schedule digests fields s).journal := by
            rw [run_schedule_append, statement_step]
          rw [isolated_append_read, hjournal]
          exact ⟨hintact, hisolated⟩
      | insert call =>
          obtain ⟨a, ha⟩ := read_of_interleaving_append hs
          -- both sides reduce to the read of this call: is its tail still the tail
          rw [isolated_append_insert hs ha, hinv.run_append_insert hs ha]
          change (_ → ChainIntact (_ ++ [_])) ∧ (_ → ChainIntact (_ ++ [_]) → _)
          rw [chainIntact_append_iff hinv.made]
          constructor
          · rintro ⟨hbefore, hall⟩
            refine ⟨hintact hbefore, fun _ => ?_⟩
            rw [hall, ← hinv.length_journal, tail_digest_length]
          · rintro hfree ⟨hchain, hprevious⟩
            have hfree := collisionFree_of_append hfree
            refine ⟨hisolated hfree hchain, ?_⟩
            have hle : inserts (s.take a) ≤ (run_schedule digests fields s).journal.length := by
              rw [hinv.length_journal]
              exact inserts_take_le s a
            by_cases hnil : (run_schedule digests fields s).journal = []
            · have hlength := hinv.length_journal
              rw [hnil] at hlength hle
              rw [List.length_nil] at hlength hle
              omega
            · -- equal tails are at equal places
              have htail := (hprevious hnil).trans (tail_digest_length _).symm
              rw [← hinv.length_journal]
              exact tail_digest_injective hinv.made hfree hchain _ _ hle le_rfl htail

end Run

/-! ## Two calls -/

/-- A hash that keeps what it is made from. -/
def joined_digests : Digests ℚ where
  event_digest previous_digest fields := previous_digest ++ "/" ++ fields.event_type
  segment_digest previous_digest event_digest := previous_digest ++ ":" ++ event_digest
  event_digest_ne := by
    intro previous_digest fields hempty
    have hlength := congrArg String.length hempty
    simp [String.length_append] at hlength

/-- Call 0 submits the order that every other call acknowledges. -/
def order_fields (call : ℕ) : EventFields ℚ where
  ts_exchange := "2026-01-01T00:00:00Z"
  ts_gateway := "2026-01-01T00:00:00Z"
  ts_engine := "2026-01-01T00:00:00Z"
  source := "paper_executor"
  event_type := if call = 0 then "ORDER_SUBMIT" else "ORDER_ACK"
  symbol := some "BTCUSDT"
  side := some "BUY"
  order_id_client := some "o1"
  order_id_exchange := none
  parent_intent_id := none
  qty := some 1
  price := some 100
  status := none
  reason_code := none
  metadata := []
  schema_version := 1

/-- One call after the other. -/
def serial_schedule : List Statement := [.read 0, .insert 0, .read 1, .insert 1]

/-- Both calls read before either inserts. -/
def crossed_schedule : List Statement := [.read 0, .read 1, .insert 0, .insert 1]

theorem serial_schedule_interleaving : Interleaving serial_schedule := by
  refine ⟨by decide, fun b call hb => ?_⟩
  have hlt : b < 4 := (List.getElem?_eq_some_iff.mp hb).1
  interval_cases b <;> cases hb
  · exact ⟨0, by decide, rfl⟩
  · exact ⟨2, by decide, rfl⟩

theorem crossed_schedule_interleaving : Interleaving crossed_schedule := by
  refine ⟨by decide, fun b call hb => ?_⟩
  have hlt : b < 4 := (List.getElem?_eq_some_iff.mp hb).1
  interval_cases b <;> cases hb
  · exact ⟨0, by decide, rfl⟩
  · exact ⟨1, by decide, rfl⟩

theorem serial_schedule_isolated : Isolated serial_schedule := by
  intro a b c call other ha hb hac hcb hc
  have hlt : b < 4 := (List.getElem?_eq_some_iff.mp hb).1
  interval_cases b <;> cases hb
  · omega
  · -- only the first call's insert stands before, and its own read after that
    interval_cases c <;> cases hc
    interval_cases a
    cases ha

theorem concurrent_append_chain_intact_serial :
    ChainIntact (run_schedule joined_digests order_fields serial_schedule).journal
      ∧ Isolated serial_schedule := by
  have hmain := concurrent_append_chain_intact joined_digests order_fields
    serial_schedule_interleaving
  have hintact := hmain.1 serial_schedule_isolated
  refine ⟨hintact, hmain.2 ?_ hintact⟩
  unfold CollisionFree
  decide +kernel

/-- Two calls that read one tail fork the chain: the second row names no row. -/
theorem concurrent_append_chain_forks :
    Interleaving crossed_schedule
      ∧ ¬ ChainIntact (run_schedule joined_digests order_fields crossed_schedule).journal := by
  refine ⟨crossed_schedule_interleaving, ?_⟩
  unfold ChainIntact
  decide +kernel

end ProofAlpha.Memory
