/-
The queue of candidate studies: `app/operator_loop.py`, with the study signature of
`app/config.py`.

The queue is one JSON file. A record reads the file, changes the entry of its candidate or
appends one, and writes the file; what it writes is what the next one reads. A record that
raises leaves the file alone. `composite_text` is `str` of a float, a list or a dict, and
`hexdigest` the SHA-256 of a text.
-/
import ProofAlpha.Lib.CanonicalJson
import ProofAlpha.Lib.Checks
import ProofAlpha.Lib.FirstBy

set_option autoImplicit false

namespace ProofAlpha.App

open ProofAlpha.Lib

/-! ## The signature of a study -/

/-- `ignored_top_level`; the function that has it calls itself on every nested value. -/
def IGNORED_TOP_LEVEL : List String :=
  ["run_id", "research_lineage", "research_hypotheses", "research_variant",
    "parameter_avoidance", "advisory_context", "advisory_rationale"]

section Signature

variable {K : Type}

mutual

/-- `_canonicalize_signature_payload`; to sort the fields that are left is to leave fields of
the sorted ones. -/
def canonicalize_signature_payload : JsonValue K → JsonValue K
  | .null => .null
  | .bool b => .bool b
  | .int n => .int n
  | .float x => .float x
  | .str text => .str text
  | .list items => .list (canonicalize_signature_items items)
  | .dict fields => .dict (by_key (canonicalize_signature_fields fields))

def canonicalize_signature_items : List (JsonValue K) → List (JsonValue K)
  | [] => []
  | value :: items => canonicalize_signature_payload value :: canonicalize_signature_items items

def canonicalize_signature_fields : List (String × JsonValue K) → List (String × JsonValue K)
  | [] => []
  | (key, value) :: fields =>
      if key ∈ IGNORED_TOP_LEVEL then canonicalize_signature_fields fields
      else (key, canonicalize_signature_payload value) :: canonicalize_signature_fields fields

end

mutual

/-- A study without the ignored fields, at every depth. -/
def without_ignored : JsonValue K → JsonValue K
  | .null => .null
  | .bool b => .bool b
  | .int n => .int n
  | .float x => .float x
  | .str text => .str text
  | .list items => .list (without_ignored_items items)
  | .dict fields => .dict (without_ignored_fields fields)

def without_ignored_items : List (JsonValue K) → List (JsonValue K)
  | [] => []
  | value :: items => without_ignored value :: without_ignored_items items

def without_ignored_fields : List (String × JsonValue K) → List (String × JsonValue K)
  | [] => []
  | (key, value) :: fields =>
      if key ∈ IGNORED_TOP_LEVEL then without_ignored_fields fields
      else (key, without_ignored value) :: without_ignored_fields fields

end

mutual

/-- The canonical payload is the study without the ignored fields, sorted. -/
theorem canonicalize_signature_payload_eq :
    ∀ value : JsonValue K, canonicalize_signature_payload value = sort_keys (without_ignored value)
  | .null => rfl
  | .bool _ => rfl
  | .int _ => rfl
  | .float _ => rfl
  | .str _ => rfl
  | .list items => by
      rw [canonicalize_signature_payload, without_ignored, sort_keys,
        canonicalize_signature_items_eq items]
  | .dict fields => by
      rw [canonicalize_signature_payload, without_ignored, sort_keys,
        canonicalize_signature_fields_eq fields]

theorem canonicalize_signature_items_eq :
    ∀ items : List (JsonValue K),
      canonicalize_signature_items items = sort_keys_items (without_ignored_items items)
  | [] => rfl
  | value :: items => by
      rw [canonicalize_signature_items, without_ignored_items, sort_keys_items,
        canonicalize_signature_payload_eq value, canonicalize_signature_items_eq items]

theorem canonicalize_signature_fields_eq :
    ∀ fields : List (String × JsonValue K),
      canonicalize_signature_fields fields = sort_keys_fields (without_ignored_fields fields)
  | [] => rfl
  | (key, value) :: fields => by
      rw [canonicalize_signature_fields, without_ignored_fields]
      by_cases hkey : key ∈ IGNORED_TOP_LEVEL
      · rw [if_pos hkey, if_pos hkey, canonicalize_signature_fields_eq fields]
      · rw [if_neg hkey, if_neg hkey, sort_keys_fields, canonicalize_signature_payload_eq value,
          canonicalize_signature_fields_eq fields]

end

end Signature

/-- What the queue takes from the libraries it uses. -/
structure QueueEnv (K : Type) where
  floats : JsonFloats K
  hexdigest : String → String
  composite_text : JsonValue K → String

variable {K : Type} (env : QueueEnv K)

/-- `build_study_signature_from_payload`. -/
def build_study_signature_from_payload (payload : JsonObject K) : String :=
  env.hexdigest (canonical_json env.floats (canonicalize_signature_payload (.dict payload)))

/-- `build_candidate_id`. -/
def build_candidate_id (study_payload : JsonObject K) : String :=
  "sha256:" ++ build_study_signature_from_payload env study_payload

/-- Two studies are one candidate exactly where they agree up to the order of fields once the
ignored fields are left out, also those inside other fields. -/
theorem build_candidate_id_eq_iff (hinj : Function.Injective env.hexdigest)
    (study_payload study_payload' : JsonObject K) :
    build_candidate_id env study_payload = build_candidate_id env study_payload'
      ↔ sort_keys (without_ignored (.dict study_payload))
          = sort_keys (without_ignored (.dict study_payload')) := by
  have hdigest_eq : build_candidate_id env study_payload = build_candidate_id env study_payload'
      ↔ build_study_signature_from_payload env study_payload
          = build_study_signature_from_payload env study_payload' := by
    rw [build_candidate_id, build_candidate_id, ← String.toList_inj, String.toList_append,
      String.toList_append, List.append_cancel_left_eq, String.toList_inj]
  have hdigest : build_study_signature_from_payload env study_payload
        = build_study_signature_from_payload env study_payload'
      ↔ canonical_json env.floats (canonicalize_signature_payload (.dict study_payload))
          = canonical_json env.floats (canonicalize_signature_payload (.dict study_payload')) :=
    hinj.eq_iff
  rw [hdigest_eq, hdigest, canonical_json_eq_iff, canonicalize_signature_payload_eq,
    canonicalize_signature_payload_eq, sort_keys_sort_keys, sort_keys_sort_keys]

/-- A text is its own digest. -/
def plain_queue_env : QueueEnv ℚ where
  floats := .rat
  hexdigest := id
  composite_text := fun _ => ""

theorem build_candidate_id_eq_iff_nested :
    build_candidate_id plain_queue_env [("snapshot", .dict [("run_id", .str "a")])]
      = build_candidate_id plain_queue_env [("run_id", .str "b"), ("snapshot", .dict [])] :=
  (build_candidate_id_eq_iff plain_queue_env Function.injective_id _ _).mpr rfl

/-! ## The queue -/

def CANDIDATE_QUEUE_VERSION : ℤ := 1

/-- The arguments of `record_candidate_queue_entry` after the path. -/
structure QueueCall (K : Type) where
  study_payload : JsonObject K
  config_path : String
  run_id : String
  readiness : JsonObject K
  failed_gates : List String := []
  failure_taxonomy : List String := []
  paper_hypotheses : List String := []
  next_action_ids : List String := []
  tested : Bool := false
  rejected : Bool := false
  promoted : Bool := false
  profile : String := "strict_v3"

/-- The candidate that a record is about. -/
def QueueCall.candidate_id (call : QueueCall K) : String :=
  build_candidate_id env call.study_payload

/-- `_empty_candidate_queue` with a list of candidates. -/
def candidate_queue (profile : String) (candidates : List (JsonValue K)) : JsonObject K :=
  [("artifact_type", .str "candidate_queue"),
    ("version", .int CANDIDATE_QUEUE_VERSION),
    ("profile", .str profile),
    ("candidates", .list candidates)]

/-- What `load_candidate_queue` makes of an object. -/
def loaded_queue (payload : JsonObject K) (profile : String) : JsonObject K :=
  let payload := payload.set_default "artifact_type" (.str "candidate_queue")
  let payload := JsonObject.set_default payload "version" (.int CANDIDATE_QUEUE_VERSION)
  let payload := JsonObject.set_default payload "profile" (.str profile)
  match JsonObject.get payload "candidates" with
  | .list _ => payload
  | _ => JsonObject.set payload "candidates" (.list [])

/-- `load_candidate_queue`; no content is a file that is not there. -/
def load_candidate_queue (file : Option (JsonValue K)) (profile : String) : JsonObject K :=
  match file with
  | some (.dict payload) => loaded_queue payload profile
  | _ => candidate_queue profile []

/-- `_candidate_list` of a loaded queue. -/
def candidate_list (queue : JsonObject K) : List (JsonValue K) :=
  match queue.get "candidates" with
  | .list candidates => candidates
  | _ => []

/-- `_string_list`; `composite_text` is `str` of a float, a list or a dict. -/
def string_list (composite_text : JsonValue K → String) : JsonValue K → List String
  | .list items => items.map (py_str composite_text)
  | _ => []

section Record

variable [Field K] [LinearOrder K]

/-- `_candidate_status`. -/
def candidate_status (call : QueueCall K) : String :=
  if call.promoted then "promoted"
  else if call.rejected then "rejected"
  else if call.tested then "tested"
  else if truthy (call.readiness.get "research_ready") then "ready"
  else "blocked_data"

/-- `_readiness_payload`. -/
def readiness_payload (readiness : JsonObject K) : JsonObject K :=
  [("run_ready", .bool (truthy (readiness.get "run_ready"))),
    ("research_ready", .bool (truthy (readiness.get "research_ready"))),
    ("improvement_ready", .bool (truthy (readiness.get "improvement_ready"))),
    ("blockers", .list ((string_list env.composite_text (readiness.get "blockers")).map .str))]

/-- A list of texts as a JSON value. -/
def text_list (texts : List String) : JsonValue K := .list (texts.map .str)

/-- The entry of a candidate as `record_candidate_queue_entry` writes it. -/
def candidate_entry (first_seen_run_id : String) (seen_count : ℤ) (call : QueueCall K) :
    JsonObject K :=
  [("candidate_id", .str (call.candidate_id env)),
    ("config_path", .str call.config_path),
    ("status", .str (candidate_status call)),
    ("first_seen_run_id", .str first_seen_run_id),
    ("last_seen_run_id", .str call.run_id),
    ("seen_count", .int seen_count),
    ("readiness", .dict (readiness_payload env call.readiness)),
    ("failed_gates", text_list call.failed_gates),
    ("failure_taxonomy", text_list call.failure_taxonomy),
    ("paper_hypotheses", text_list call.paper_hypotheses),
    ("next_action_ids", text_list call.next_action_ids)]

/-- The test of `_find_candidate`. -/
def is_candidate (candidate_id : String) : JsonValue K → Bool
  | .dict candidate => is_text (JsonObject.get candidate "candidate_id") candidate_id
  | _ => false

variable [FloorRing K]

/-- `int(candidate.get("seen_count", 0) or 0)`. -/
def seen_count_of (candidate : JsonObject K) : Except String ℤ :=
  let value := candidate.get_or "seen_count" (.int 0)
  if truthy value then
    match int_or_none value with
    | some n => .ok n
    | none => .error "seen_count"
  else .ok 0

/-- What a record does to an entry that is there. -/
def update_candidate (call : QueueCall K) (candidate : JsonObject K) :
    Except String (JsonObject K) := do
  let candidate := candidate.set "config_path" (.str call.config_path)
  let candidate := candidate.set "status" (.str (candidate_status call))
  let candidate := candidate.set "last_seen_run_id" (.str call.run_id)
  let seen_count ← seen_count_of candidate
  let candidate := candidate.set "seen_count" (.int (seen_count + 1))
  let candidate := candidate.set "readiness" (.dict (readiness_payload env call.readiness))
  let candidate := candidate.set "failed_gates" (text_list call.failed_gates)
  let candidate := candidate.set "failure_taxonomy" (text_list call.failure_taxonomy)
  let candidate := candidate.set "paper_hypotheses" (text_list call.paper_hypotheses)
  return candidate.set "next_action_ids" (text_list call.next_action_ids)

/-- The candidates after a record: the first entry of its candidate is updated where it
stands, and without one a new entry is appended. -/
def record_candidate (call : QueueCall K) : List (JsonValue K) → Except String (List (JsonValue K))
  | [] => .ok [.dict (candidate_entry env call.run_id 1 call)]
  | .dict candidate :: rest =>
      if is_candidate (call.candidate_id env) (.dict candidate) then
        (update_candidate env call candidate).map fun updated => .dict updated :: rest
      else (record_candidate call rest).map fun rest => .dict candidate :: rest
  | item :: rest => (record_candidate call rest).map fun rest => item :: rest

/-- `record_candidate_queue_entry`: the queue that is written and returned. -/
def record_candidate_queue_entry (file : Option (JsonValue K)) (call : QueueCall K) :
    Except String (JsonObject K) :=
  let queue := load_candidate_queue file call.profile
  (record_candidate env call (candidate_list queue)).map fun candidates =>
    queue.set "candidates" (.list candidates)

/-- The file after one record after the other; the first that raises ends the run. -/
def record_all (file : Option (JsonValue K)) (calls : List (QueueCall K)) :
    Except String (Option (JsonValue K)) :=
  calls.foldlM (fun file call =>
    (record_candidate_queue_entry env file call).map fun queue => some (.dict queue)) file

/-! ## One record -/

theorem seen_count_of_int {candidate : JsonObject K} {n : ℤ}
    (h : candidate.get_or "seen_count" (.int 0) = .int n) : seen_count_of candidate = .ok n := by
  unfold seen_count_of
  rw [h]
  by_cases hn : n = 0
  · subst hn
    rfl
  · have htrue : truthy (.int n : JsonValue K) = true := decide_eq_true hn
    rw [if_pos htrue]
    rfl

/-- An entry that a record has written is brought up to date by the next one. -/
theorem update_candidate_entry {call earlier : QueueCall K}
    (hsame : earlier.candidate_id env = call.candidate_id env) (first_seen_run_id : String)
    (seen_count : ℤ) :
    update_candidate env call (candidate_entry env first_seen_run_id seen_count earlier)
      = .ok (candidate_entry env first_seen_run_id (seen_count + 1) call) := by
  have hcount : seen_count_of (((candidate_entry env first_seen_run_id seen_count earlier).set
        "config_path" (.str call.config_path)).set "status" (.str (candidate_status call)) |>.set
        "last_seen_run_id" (.str call.run_id)) = .ok seen_count :=
    seen_count_of_int rfl
  unfold update_candidate
  refine (congrArg (· >>= _) hcount).trans ?_
  rw [ok_bind]
  simp [candidate_entry, JsonObject.set, hsame]
  rfl

/-! ## The queue after a run -/

/-- The records of a candidate. -/
def sightings (calls : List (QueueCall K)) (call : QueueCall K) : List (QueueCall K) :=
  calls.filter fun other => other.candidate_id env = call.candidate_id env

/-- The entry that a candidate has after some records, the first of which is given: it counts
the records of the candidate and shows what the last of them said. -/
def entry_after (calls : List (QueueCall K)) (first : QueueCall K) : JsonObject K :=
  candidate_entry env first.run_id (sightings env calls first).length
    ((sightings env calls first).getLastD first)

omit [Field K] [LinearOrder K] [FloorRing K] in
/-- The last record of a candidate is one of that candidate. -/
theorem candidate_id_getLastD (calls : List (QueueCall K)) (first : QueueCall K) :
    ((sightings env calls first).getLastD first).candidate_id env = first.candidate_id env := by
  cases h : (sightings env calls first).getLast? with
  | none => rw [List.getLastD_eq_getLast?, h, Option.getD_none]
  | some last =>
      rw [List.getLastD_eq_getLast?, h, Option.getD_some]
      have hmem : last ∈ sightings env calls first := List.mem_of_getLast? h
      exact of_decide_eq_true (List.mem_filter.mp hmem).2

omit [FloorRing K] in
theorem is_candidate_entry_after (calls : List (QueueCall K)) (call first : QueueCall K) :
    is_candidate (call.candidate_id env) (.dict (entry_after env calls first)) = true
      ↔ first.candidate_id env = call.candidate_id env := by
  rw [← candidate_id_getLastD env calls first]
  exact decide_eq_true_iff

omit [FloorRing K] in
/-- A record leaves the entries of other candidates as they are. -/
theorem entry_after_concat_of_ne {calls : List (QueueCall K)} {call first : QueueCall K}
    (hne : first.candidate_id env ≠ call.candidate_id env) :
    entry_after env (calls ++ [call]) first = entry_after env calls first := by
  have hsame : sightings env (calls ++ [call]) first = sightings env calls first := by
    rw [sightings, List.filter_append, List.filter_cons_of_neg (by simpa using hne.symm),
      List.filter_nil, List.append_nil, sightings]
  rw [entry_after, hsame, entry_after]

omit [FloorRing K] in
theorem entry_after_concat_of_eq {calls : List (QueueCall K)} {call first : QueueCall K}
    (hsame : first.candidate_id env = call.candidate_id env) :
    entry_after env (calls ++ [call]) first
      = candidate_entry env first.run_id ((sightings env calls first).length + 1) call := by
  have hmore : sightings env (calls ++ [call]) first = sightings env calls first ++ [call] := by
    rw [sightings, List.filter_append, List.filter_cons_of_pos (by simpa using hsame.symm),
      List.filter_nil, sightings]
  rw [entry_after, hmore, List.length_append, List.getLastD_concat]
  rfl

omit [FloorRing K] in
theorem entry_after_concat_of_new {calls : List (QueueCall K)} {call : QueueCall K}
    (hnew : call.candidate_id env ∉ calls.map (QueueCall.candidate_id env)) :
    entry_after env (calls ++ [call]) call = candidate_entry env call.run_id 1 call := by
  have hnone : sightings env calls call = [] := by
    refine List.filter_eq_nil_iff.mpr fun other hother => ?_
    rw [decide_eq_true_iff]
    intro heq
    exact hnew (List.mem_map.mpr ⟨other, hother, heq⟩)
  rw [entry_after_concat_of_eq env rfl, hnone]
  rfl

/-- A record of a candidate without an entry appends one. -/
theorem record_candidate_of_new (calls : List (QueueCall K)) {call : QueueCall K} :
    ∀ {firsts : List (QueueCall K)},
      (∀ first ∈ firsts, first.candidate_id env ≠ call.candidate_id env) →
      record_candidate env call (firsts.map fun first => .dict (entry_after env calls first))
        = .ok ((firsts.map fun first => .dict (entry_after env (calls ++ [call]) first))
            ++ [.dict (candidate_entry env call.run_id 1 call)])
  | [], _ => rfl
  | first :: firsts, hnew => by
      have hfirst := hnew first (List.mem_cons_self ..)
      have hskip : ¬ is_candidate (call.candidate_id env) (.dict (entry_after env calls first)) :=
        fun h => hfirst ((is_candidate_entry_after env calls call first).mp h)
      have hrest := record_candidate_of_new calls fun other hother =>
        hnew other (List.mem_cons_of_mem first hother)
      rw [List.map_cons, record_candidate, if_neg hskip, hrest, List.map_cons,
        entry_after_concat_of_ne env hfirst]
      rfl

/-- A record of a candidate with an entry updates that one. -/
theorem record_candidate_of_seen (calls : List (QueueCall K)) {call : QueueCall K} :
    ∀ {firsts : List (QueueCall K)}, (firsts.map (QueueCall.candidate_id env)).Nodup →
      call.candidate_id env ∈ firsts.map (QueueCall.candidate_id env) →
      record_candidate env call (firsts.map fun first => .dict (entry_after env calls first))
        = .ok (firsts.map fun first => .dict (entry_after env (calls ++ [call]) first))
  | [], _, hseen => nomatch hseen
  | first :: firsts, hnodup, hseen => by
      rw [List.map_cons, List.nodup_cons] at hnodup
      rw [List.map_cons, record_candidate, List.map_cons]
      by_cases hfirst : first.candidate_id env = call.candidate_id env
      · -- no later entry is one of this candidate
        have hothers : ∀ other ∈ firsts,
            entry_after env (calls ++ [call]) other = entry_after env calls other := by
          intro other hother
          refine entry_after_concat_of_ne env fun heq => hnodup.1 ?_
          rw [hfirst, ← heq]
          exact List.mem_map_of_mem hother
        rw [if_pos ((is_candidate_entry_after env calls call first).mpr hfirst),
          entry_after_concat_of_eq env hfirst, entry_after,
          update_candidate_entry env ((candidate_id_getLastD env calls first).trans hfirst),
          List.map_congr_left fun other hother => congrArg JsonValue.dict (hothers other hother)]
        rfl
      · have hskip : ¬ is_candidate (call.candidate_id env) (.dict (entry_after env calls first)) :=
          fun h => hfirst ((is_candidate_entry_after env calls call first).mp h)
        have hlater : call.candidate_id env ∈ firsts.map (QueueCall.candidate_id env) :=
          (List.mem_cons.mp hseen).resolve_left fun heq => hfirst heq.symm
        have hrest := record_candidate_of_seen calls hnodup.2 hlater
        rw [if_neg hskip, hrest, entry_after_concat_of_ne env hfirst]
        rfl

/-- A queue that was written is loaded and written again with its head unchanged. -/
theorem record_candidate_queue_entry_written (profile : String) (candidates : List (JsonValue K))
    (call : QueueCall K) :
    record_candidate_queue_entry env (some (.dict (candidate_queue profile candidates))) call
      = (record_candidate env call candidates).map (candidate_queue profile) := rfl

/-- The file after any records, the first of which found no file: one entry for each candidate,
in the order in which they were first seen. Each entry counts the records of its candidate,
names the first run that saw it, and is otherwise what its last record said. -/
theorem candidate_queue_after (first : QueueCall K) (rest : List (QueueCall K)) :
    record_all env none (first :: rest)
      = .ok (some (.dict (candidate_queue first.profile
          ((first_by (QueueCall.candidate_id env) (first :: rest)).map fun seen =>
            .dict (entry_after env (first :: rest) seen))))) := by
  induction rest using List.reverseRecOn with
  | nil =>
      have hentry : entry_after env ([] ++ [first]) first
          = candidate_entry env first.run_id 1 first := entry_after_concat_of_new env List.not_mem_nil
      rw [List.nil_append] at hentry
      rw [first_by, first_by, List.filter_nil, List.map_singleton, hentry]
      rfl
  | append_singleton rest call ih =>
      have hsplit : record_all env none (first :: (rest ++ [call]))
          = record_all env none (first :: rest) >>= fun file => record_all env file [call] := by
        rw [← List.cons_append, record_all, List.foldlM_append]
        rfl
      have hone : ∀ file, record_all env file [call]
          = (record_candidate_queue_entry env file call).map fun queue => some (.dict queue) := by
        intro file
        rw [record_all, List.foldlM_cons, bind_congr fun _ => List.foldlM_nil, bind_pure]
      rw [hsplit, ih, ok_bind, hone, record_candidate_queue_entry_written, ← List.cons_append,
        first_by_concat]
      by_cases hseen : call.candidate_id env ∈ (first :: rest).map (QueueCall.candidate_id env)
      · have hkeys : call.candidate_id env
            ∈ (first_by (QueueCall.candidate_id env) (first :: rest)).map
              (QueueCall.candidate_id env) := mem_map_first_by.mpr hseen
        rw [record_candidate_of_seen env (first :: rest) (map_first_by_nodup _ _) hkeys,
          if_pos hseen, List.append_nil]
        rfl
      · have hnew : ∀ other ∈ first_by (QueueCall.candidate_id env) (first :: rest),
            other.candidate_id env ≠ call.candidate_id env := by
          intro other hother heq
          refine hseen (heq ▸ ?_)
          exact List.mem_map_of_mem (mem_of_mem_first_by hother)
        rw [record_candidate_of_new env (first :: rest) hnew, if_neg hseen, List.map_append,
          List.map_singleton, entry_after_concat_of_new env hseen]
        rfl

end Record

end ProofAlpha.App
