/-
Artifact files: `io/artifacts.py`, `write_text_atomic`, under any number of callers.

A call fills a hidden file beside its output, flushes it and renames it to the
output; whatever it raises before that is followed by the `finally` block, which
removes the hidden file. The statements of all calls interleave, and a process may
die at any of them. `uuid.uuid4().hex` is the token of a call.
-/
import Mathlib.Data.String.Basic
import ProofAlpha.Lib.PublishByRename

set_option autoImplicit false

namespace ProofAlpha.Io

open ProofAlpha.Lib.PublishByRename

/-- A path: its directory and its name. -/
structure FilePath where
  parent : String
  name : String
  deriving DecidableEq

/-- A call of `write_text_atomic`, with the token it draws. -/
structure WriteCall where
  output : FilePath
  text : String
  token : String

/-- `temp_path`. -/
def temp_path (call : WriteCall) : FilePath where
  parent := call.output.parent
  name := "." ++ call.output.name ++ ".tmp-" ++ call.token

/-- `write_text_atomic`, for the calls of a family. -/
def write_text_atomic {ω : Type} (calls : ω → WriteCall) : Writers ω FilePath Char where
  temporary := fun w => temp_path (calls w)
  target := fun w => (calls w).output
  text := fun w => (calls w).text.toList

section Calls

variable {ω : Type} {calls : ω → WriteCall}

/-- Tokens have 32 digits and no two calls draw the same one; no output is the hidden file
of a call. -/
structure FreshTokens (calls : ω → WriteCall) : Prop where
  length : ∀ w, (calls w).token.length = 32
  fresh : ∀ w v, (calls w).token = (calls v).token → w = v
  output_ne : ∀ w v, (calls w).output ≠ temp_path (calls v)

/-- The token is the end of the hidden name. -/
theorem token_eq_of_temp_path_eq {a b : WriteCall} (hlen : a.token.length = b.token.length)
    (h : temp_path a = temp_path b) : a.token = b.token := by
  have hname : (temp_path a).name.toList = (temp_path b).name.toList := by rw [h]
  simp only [temp_path, String.toList_append] at hname
  have htoken : a.token.toList = b.token.toList := (List.append_inj' hname hlen).2
  exact String.toList_injective htoken

theorem FreshTokens.separate (h : FreshTokens calls) : Separate (write_text_atomic calls) where
  temporary_inj := fun w v heq =>
    h.fresh w v (token_eq_of_temp_path_eq (by rw [h.length, h.length]) heq)
  target_ne := h.output_ne

/-- The directories after a schedule of statements. -/
def after_writes [DecidableEq ω] (calls : ω → WriteCall) (files : FilePath → Option (List Char))
    (schedule : List (Event ω)) : State ω FilePath Char :=
  run (write_text_atomic calls) files schedule

/-- The text of a file, if it is there. -/
def read_text (st : State ω FilePath Char) (path : FilePath) : Option String :=
  (st.files path).map String.ofList

/-- The last call that renamed to a path. -/
def last_writer (calls : ω → WriteCall) (st : State ω FilePath Char) (path : FilePath) :
    Option ω :=
  st.history.find? fun w => (calls w).output = path

end Calls

/-- Two calls on one report. -/
def report_call (second : Bool) : WriteCall where
  output := ⟨"out", "report.json"⟩
  text := if second then "[2]" else "[1]"
  token := if second then "0123456789abcdef0123456789abcdef"
    else "fedcba9876543210fedcba9876543210"

end ProofAlpha.Io
