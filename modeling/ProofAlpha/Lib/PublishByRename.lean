/-
Publishing a file by renaming: a writer fills a temporary file and then renames
it to its target.

Writers are `ω`, names `N`, a file is a list of `α`. The events of any number of
writers interleave freely; a writer may raise, which removes its temporary file, or
crash, which leaves everything as it is. `history` records the writers that have
renamed, the last one first. `Published` says what the files are in terms of it,
and `run_published` that every run keeps it: a name that is nobody's temporary file
holds what its last writer wrote, whole.
-/
import Mathlib.Data.List.Induction
import Mathlib.Logic.Function.Basic
import Mathlib.Tactic.Common

set_option autoImplicit false

namespace ProofAlpha.Lib.PublishByRename

variable {ω N α : Type}

/-- How far a writer has come. -/
inductive Stage
  | idle
  | writing (written : ℕ)
  | synced
  | published
  | raised
  | crashed
  deriving DecidableEq

/-- One step of one writer. -/
inductive Event (ω : Type)
  | create (w : ω)
  | write (w : ω) (count : ℕ)
  | sync (w : ω)
  | rename (w : ω)
  | raise (w : ω)
  | crash (w : ω)

/-- What a writer writes, and under which names. -/
structure Writers (ω N α : Type) where
  temporary : ω → N
  target : ω → N
  text : ω → List α

/-- The files, how far every writer is, and who has renamed. -/
structure State (ω N α : Type) where
  files : N → Option (List α)
  stage : ω → Stage
  history : List ω

/-- Nobody has started. -/
def State.initial (files : N → Option (List α)) : State ω N α where
  files := files
  stage := fun _ => .idle
  history := []

section Steps

variable [DecidableEq ω] [DecidableEq N]

/-- A writer goes to a stage and a file changes. -/
def State.move (st : State ω N α) (w : ω) (stage : Stage) (name : N)
    (content : Option (List α)) : State ω N α :=
  { st with
    files := Function.update st.files name content
    stage := Function.update st.stage w stage }

/-- A step; an event that the writer is not ready for changes nothing. -/
def step (writers : Writers ω N α) (st : State ω N α) : Event ω → State ω N α
  | .create w =>
      match st.stage w with
      | .idle => st.move w (.writing 0) (writers.temporary w) (some [])
      | _ => st
  | .write w count =>
      match st.stage w with
      | .writing written =>
          st.move w (.writing (written + count)) (writers.temporary w)
            (some ((writers.text w).take (written + count)))
      | _ => st
  | .sync w =>
      match st.stage w with
      | .writing _ => st.move w .synced (writers.temporary w) (some (writers.text w))
      | _ => st
  | .rename w =>
      match st.stage w with
      | .synced =>
          { files :=
              Function.update (Function.update st.files (writers.target w)
                (st.files (writers.temporary w))) (writers.temporary w) none
            stage := Function.update st.stage w .published
            history := w :: st.history }
      | _ => st
  | .raise w =>
      match st.stage w with
      | .idle | .writing _ | .synced => st.move w .raised (writers.temporary w) none
      | _ => st
  | .crash w =>
      match st.stage w with
      | .published | .raised => st
      | _ => { st with stage := Function.update st.stage w .crashed }

/-- The state after a schedule. -/
def run (writers : Writers ω N α) (files : N → Option (List α)) (schedule : List (Event ω)) :
    State ω N α :=
  schedule.foldl (step writers) (State.initial files)

end Steps

/-- Temporary names are nobody else's, and no target is one of them. -/
structure Separate (writers : Writers ω N α) : Prop where
  temporary_inj : ∀ w v, writers.temporary w = writers.temporary v → w = v
  target_ne : ∀ w v, writers.target w ≠ writers.temporary v

/-- What a temporary file holds at a stage; a crash may leave anything behind. -/
def TemporaryAt (text : List α) (content : Option (List α)) : Stage → Prop
  | .writing written => content = some (text.take written)
  | .synced => content = some text
  | .published | .raised => content = none
  | .idle | .crashed => True

/-- What the last writer that renamed to a name wrote there. -/
def lastPublished [DecidableEq N] (writers : Writers ω N α) (files : N → Option (List α))
    (history : List ω) (name : N) : Option (List α) :=
  match history.find? fun w => writers.target w = name with
  | some w => some (writers.text w)
  | none => files name

/-- The files of a state, from its stages and its history. -/
structure Published [DecidableEq N] (writers : Writers ω N α) (files : N → Option (List α))
    (st : State ω N α) : Prop where
  temporary : ∀ w, TemporaryAt (writers.text w) (st.files (writers.temporary w)) (st.stage w)
  visible : ∀ name, (∀ w, name ≠ writers.temporary w) →
    st.files name = lastPublished writers files st.history name
  history : ∀ w, w ∈ st.history ↔ st.stage w = .published
  nodup : st.history.Nodup

section Invariant

variable [DecidableEq ω] [DecidableEq N] {writers : Writers ω N α} {files : N → Option (List α)}
  {st : State ω N α}

omit [DecidableEq ω] in
theorem published_initial (writers : Writers ω N α) (files : N → Option (List α)) :
    Published writers files (State.initial files) where
  temporary := fun _ => trivial
  visible := fun _ _ => rfl
  history := fun _ => by simp [State.initial]
  nodup := List.nodup_nil

/-- A step within the temporary file of a writer that has not renamed. -/
theorem Published.move (h : Published writers files st) (hsep : Separate writers) {w : ω}
    {stage : Stage} {content : Option (List α)} (hold : st.stage w ≠ .published)
    (hnew : stage ≠ .published) (hcontent : TemporaryAt (writers.text w) content stage) :
    Published writers files (st.move w stage (writers.temporary w) content) where
  temporary := by
    intro v
    rcases eq_or_ne v w with rfl | hv
    · simpa [State.move] using hcontent
    · have hname : writers.temporary v ≠ writers.temporary w :=
        fun heq => hv (hsep.temporary_inj v w heq)
      simpa [State.move, hv, hname] using h.temporary v
  visible := by
    intro name hname
    simpa [State.move, hname w] using h.visible name hname
  history := by
    intro v
    rcases eq_or_ne v w with rfl | hv
    · simp [State.move, hnew, h.history, hold]
    · simp [State.move, hv, h.history]
  nodup := h.nodup

/-- A rename moves the whole text under the target. -/
theorem Published.rename (h : Published writers files st) (hsep : Separate writers) {w : ω}
    (hstage : st.stage w = .synced) :
    Published writers files (step writers st (.rename w)) := by
  have htext : st.files (writers.temporary w) = some (writers.text w) := by
    simpa [TemporaryAt, hstage] using h.temporary w
  simp only [step, hstage]
  refine ⟨fun v => ?_, fun name hname => ?_, fun v => ?_, ?_⟩
  · rcases eq_or_ne v w with rfl | hv
    · simp [TemporaryAt]
    · have hname : writers.temporary v ≠ writers.temporary w :=
        fun heq => hv (hsep.temporary_inj v w heq)
      simpa [hv, hname, (hsep.target_ne w v).symm] using h.temporary v
  · rcases eq_or_ne name (writers.target w) with rfl | htarget
    · simp [lastPublished, hname w, htext]
    · simpa [lastPublished, hname w, htarget, htarget.symm] using h.visible name hname
  · rcases eq_or_ne v w with rfl | hv
    · simp
    · simp [hv, h.history]
  · refine List.nodup_cons.mpr ⟨fun hmem => ?_, h.nodup⟩
    rw [h.history, hstage] at hmem
    cases hmem

/-- A crash changes no file. -/
theorem Published.crash (h : Published writers files st) {w : ω}
    (hold : st.stage w ≠ .published) :
    Published writers files { st with stage := Function.update st.stage w .crashed } where
  temporary := by
    intro v
    rcases eq_or_ne v w with rfl | hv
    · simp [TemporaryAt]
    · simpa [hv] using h.temporary v
  visible := h.visible
  history := by
    intro v
    rcases eq_or_ne v w with rfl | hv
    · simp [h.history, hold]
    · simp [hv, h.history]
  nodup := h.nodup

/-- One step keeps the account of the files. -/
theorem step_published (hsep : Separate writers) (h : Published writers files st)
    (event : Event ω) : Published writers files (step writers st event) := by
  cases event with
  | create w =>
      cases hstage : st.stage w <;> simp only [step, hstage]
      case idle => exact h.move hsep (by simp [hstage]) (by simp) (by simp [TemporaryAt])
      all_goals exact h
  | write w count =>
      cases hstage : st.stage w <;> simp only [step, hstage]
      case writing => exact h.move hsep (by simp [hstage]) (by simp) rfl
      all_goals exact h
  | sync w =>
      cases hstage : st.stage w <;> simp only [step, hstage]
      case writing => exact h.move hsep (by simp [hstage]) (by simp) rfl
      all_goals exact h
  | rename w =>
      by_cases hstage : st.stage w = .synced
      · exact h.rename hsep hstage
      · cases hw : st.stage w <;> simp only [step, hw]
        case synced => exact absurd hw hstage
        all_goals exact h
  | raise w =>
      cases hstage : st.stage w <;> simp only [step, hstage]
      case idle | writing | synced =>
        exact h.move hsep (by simp [hstage]) (by simp) rfl
      all_goals exact h
  | crash w =>
      cases hstage : st.stage w <;> simp only [step, hstage]
      case published | raised => exact h
      all_goals exact h.crash (by simp [hstage])

/-- Every run keeps the account of the files. -/
theorem run_published (hsep : Separate writers) (files : N → Option (List α))
    (schedule : List (Event ω)) : Published writers files (run writers files schedule) := by
  unfold run
  induction schedule using List.reverseRecOn with
  | nil => exact published_initial writers files
  | append_singleton schedule event ih =>
      rw [List.foldl_append]
      exact step_published hsep ih event

end Invariant

end ProofAlpha.Lib.PublishByRename
