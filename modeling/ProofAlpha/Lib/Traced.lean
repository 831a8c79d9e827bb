/-
Programs that may raise and keep a log.

The log of a program is what it has done, also of one that raises in the end. Without its log
such a program is one of `Except`, and leaving the log out goes with how programs are put
together (`result_bind`, `result_foldlM`). What is true of the events of its parts is true of
the events of a program (`Logs.bind`, `logs_foldlM`).
-/
import Mathlib.Data.List.Basic
import Mathlib.Tactic.Common

set_option autoImplicit false

namespace ProofAlpha.Lib

/-- A program that raises or returns a value, with the events that it has logged. -/
structure Traced (ε E α : Type) where
  result : Except ε α
  log : List E

namespace Traced

variable {ε E α β : Type}

instance : Monad (Traced ε E) where
  pure a := ⟨.ok a, []⟩
  bind x f :=
    match x.result with
    | .error error => ⟨.error error, x.log⟩
    | .ok a => ⟨(f a).result, x.log ++ (f a).log⟩

/-- A program that logs nothing. -/
def lift (x : Except ε α) : Traced ε E α := ⟨x, []⟩

/-- The events, logged. -/
def notes (events : List E) : Traced ε E Unit := ⟨.ok (), events⟩

/-- One event, logged. -/
def note (event : E) : Traced ε E Unit := notes [event]

/-! ## One program after another -/

theorem bind_of_error {x : Traced ε E α} {error : ε} (h : x.result = .error error)
    (f : α → Traced ε E β) : x >>= f = ⟨.error error, x.log⟩ := by
  cases x with
  | mk result log =>
      obtain rfl : result = .error error := h
      rfl

theorem bind_of_ok {x : Traced ε E α} {a : α} (h : x.result = .ok a) (f : α → Traced ε E β) :
    x >>= f = ⟨(f a).result, x.log ++ (f a).log⟩ := by
  cases x with
  | mk result log =>
      obtain rfl : result = .ok a := h
      rfl

instance : LawfulMonad (Traced ε E) := LawfulMonad.mk' _
  (fun x => by
    cases x with
    | mk result log =>
        cases result with
        | error error => rfl
        | ok a => exact congrArg (Traced.mk _) (List.append_nil log))
  (fun a f => rfl)
  (fun x f g => by
    cases x with
    | mk result log =>
        cases result with
        | error error => rfl
        | ok a =>
            rw [bind_of_ok rfl f, bind_of_ok rfl fun a => f a >>= g]
            cases hf : (f a).result with
            | error error =>
                rw [bind_of_error hf]
                exact bind_of_error rfl g
            | ok b =>
                rw [bind_of_ok hf, ← List.append_assoc]
                exact bind_of_ok rfl g)

/-! ## Without the log -/

@[simp] theorem result_pure (a : α) : (pure a : Traced ε E α).result = .ok a := rfl

@[simp] theorem result_lift (x : Except ε α) : (lift x : Traced ε E α).result = x := rfl

@[simp] theorem result_notes (events : List E) : (notes events : Traced ε E Unit).result = .ok () :=
  rfl

@[simp] theorem result_note (event : E) : (note event : Traced ε E Unit).result = .ok () := rfl

@[simp] theorem result_bind (x : Traced ε E α) (f : α → Traced ε E β) :
    (x >>= f).result = x.result >>= fun a => (f a).result := by
  cases h : x.result with
  | error error => rw [bind_of_error h]; rfl
  | ok a => rw [bind_of_ok h]; rfl

theorem result_foldlM {step : β → α → Traced ε E β} {step' : β → α → Except ε β}
    (h : ∀ b a, (step b a).result = step' b a) (xs : List α) (b : β) :
    (xs.foldlM step b).result = xs.foldlM step' b := by
  induction xs generalizing b with
  | nil => rfl
  | cons x xs ih =>
      rw [List.foldlM_cons, List.foldlM_cons, result_bind, h]
      exact congrArg _ (funext ih)

theorem result_mapM {f : α → Traced ε E β} {f' : α → Except ε β} (h : ∀ a, (f a).result = f' a)
    (xs : List α) : (xs.mapM f).result = xs.mapM f' := by
  induction xs with
  | nil => rfl
  | cons x xs ih =>
      rw [List.mapM_cons, List.mapM_cons, result_bind, h]
      refine congrArg _ (funext fun y => ?_)
      rw [result_bind, ih]
      rfl

/-- A program that returns a value of some kind. -/
theorem exists_ok_of_any {x : Except ε α} {p : α → Bool} (h : x.toOption.any p = true) :
    ∃ a, x = .ok a ∧ p a = true := by
  cases x with
  | error error => cases h
  | ok a => exact ⟨a, rfl, h⟩

/-! ## The events of a run -/

/-- The events that a program logs are of one kind. -/
def Logs (P : E → Prop) (x : Traced ε E α) : Prop := ∀ event ∈ x.log, P event

variable {P : E → Prop}

theorem logs_pure (a : α) : Logs P (pure a : Traced ε E α) := fun _ hevent => nomatch hevent

theorem logs_lift (x : Except ε α) : Logs P (lift x : Traced ε E α) :=
  fun _ hevent => nomatch hevent

theorem logs_notes {events : List E} (h : ∀ event ∈ events, P event) :
    Logs P (notes events : Traced ε E Unit) := h

theorem logs_note {event : E} (h : P event) : Logs P (note event : Traced ε E Unit) :=
  logs_notes (List.forall_mem_singleton.mpr h)

theorem Logs.bind {x : Traced ε E α} {f : α → Traced ε E β} (hx : Logs P x)
    (hf : ∀ a, Logs P (f a)) : Logs P (x >>= f) := by
  cases h : x.result with
  | error error =>
      rw [bind_of_error h]
      exact hx
  | ok a =>
      rw [bind_of_ok h]
      exact List.forall_mem_append.mpr ⟨hx, hf a⟩

theorem logs_foldlM {step : β → α → Traced ε E β} (h : ∀ b a, Logs P (step b a)) (xs : List α)
    (b : β) : Logs P (xs.foldlM step b) := by
  induction xs generalizing b with
  | nil => exact logs_pure b
  | cons x xs ih =>
      rw [List.foldlM_cons]
      exact (h b x).bind ih

theorem logs_mapM {f : α → Traced ε E β} (h : ∀ a, Logs P (f a)) (xs : List α) :
    Logs P (xs.mapM f) := by
  induction xs with
  | nil => exact logs_pure []
  | cons x xs ih =>
      rw [List.mapM_cons]
      refine (h x).bind fun y => ih.bind fun ys => ?_
      exact logs_pure (y :: ys)

/-! ## What an event needs -/

@[simp] theorem log_pure (a : α) : (pure a : Traced ε E α).log = [] := rfl

@[simp] theorem log_note_bind (event : E) (f : Unit → Traced ε E α) :
    (note event >>= f).log = event :: (f ()).log := by
  rw [bind_of_ok (result_note event)]
  rfl

/-- What is made of a value is not logged. -/
theorem log_bind_pure (x : Traced ε E α) (f : α → β) : (x >>= fun a => pure (f a)).log = x.log := by
  cases h : x.result with
  | error error => rw [bind_of_error h]
  | ok a =>
      rw [bind_of_ok h]
      exact List.append_nil x.log

/-- What a program logs when it first computes something: nothing if that raises. -/
theorem log_lift_bind {Q : List E → Prop} {x : Except ε α} {f : α → Traced ε E β} (hnil : Q [])
    (h : ∀ a, x = .ok a → Q (f a).log) : Q (lift x >>= f).log := by
  cases x with
  | error error =>
      rw [bind_of_error (result_lift _)]
      exact hnil
  | ok a =>
      rw [bind_of_ok (result_lift _)]
      exact h a rfl

/-- Every event that needs another one stands right behind it, the first one behind the event
before the log. -/
def AnswersFrom (needs : E → Option E) : Option E → List E → Prop
  | _, [] => True
  | previous, event :: log =>
      (∀ needed, needs event = some needed → previous = some needed)
        ∧ AnswersFrom needs (some event) log

/-- A program whose events follow those that they need. -/
def Answers (needs : E → Option E) (x : Traced ε E α) : Prop := AnswersFrom needs none x.log

variable {needs : E → Option E}

/-- A log that needs nothing before it may stand behind anything. -/
theorem AnswersFrom.of_none {previous : Option E} {log : List E}
    (h : AnswersFrom needs none log) : AnswersFrom needs previous log := by
  cases log with
  | nil => trivial
  | cons event log => exact ⟨fun needed hneeds => absurd (h.1 needed hneeds) nofun, h.2⟩

theorem AnswersFrom.append {previous : Option E} {log log' : List E}
    (h : AnswersFrom needs previous log) (h' : AnswersFrom needs none log') :
    AnswersFrom needs previous (log ++ log') := by
  induction log generalizing previous with
  | nil => exact h'.of_none
  | cons event log ih => exact ⟨h.1, ih h.2⟩

/-- What stands right before an event that needs something. -/
theorem AnswersFrom.getLast? {previous : Option E} {before after : List E} {event needed : E}
    (h : AnswersFrom needs previous (before ++ event :: after))
    (hneeds : needs event = some needed) :
    before.getLast?.or previous = some needed := by
  induction before generalizing previous with
  | nil => exact h.1 needed hneeds
  | cons first before ih =>
      have hrest := ih h.2
      rw [List.getLast?_cons, Option.some_or]
      cases hlast : before.getLast? with
      | none => rwa [hlast, Option.none_or] at hrest
      | some last => rwa [hlast, Option.some_or] at hrest

theorem Answers.bind {x : Traced ε E α} {f : α → Traced ε E β} (hx : Answers needs x)
    (hf : ∀ a, Answers needs (f a)) : Answers needs (x >>= f) := by
  cases h : x.result with
  | error error =>
      rw [bind_of_error h]
      exact hx
  | ok a =>
      rw [bind_of_ok h]
      exact hx.append (hf a)

end Traced

end ProofAlpha.Lib
