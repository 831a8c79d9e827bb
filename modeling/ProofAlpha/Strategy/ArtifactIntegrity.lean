/-
What the hash of an artifact protects.

The hash covers every field but its own, and canonical texts of different fields
differ, so an object that keeps the hash of another one and changes a field is
refused. The comparison is skipped where the text of the hash is empty, though
the field is a required one: an object with an empty hash is accepted whatever
its fields say, and so is any accepted object whose hash is blanked.
-/
import ProofAlpha.Strategy.Artifacts

set_option autoImplicit false

namespace ProofAlpha.Strategy

open ProofAlpha.Lib

section Acceptance

variable {K T : Type} [Field K] [DecidableEq K] [LinearOrder T] (env : ArtifactEnv K T)

/-- The validation accepts the object. -/
def Accepted (clock : T) (payload : JsonObject K) : Prop :=
  ∃ validation, validate_strategy_artifact env clock payload = some validation
    ∧ validation.passed = true

/-- The object passes every check but that of the hash. -/
def FieldsAccepted (clock : T) (payload : JsonObject K) : Prop :=
  JsonObject.get payload "artifact_schema_version" = .str ARTIFACT_SCHEMA_VERSION
    ∧ field_reasons env clock payload = some []

/-- An object is accepted when its fields are and its hash is empty or right. -/
theorem accepted_iff (clock : T) (payload : JsonObject K) :
    Accepted env clock payload ↔ FieldsAccepted env clock payload
      ∧ (hash_text env payload = ""
        ∨ hash_text env payload = artifact_hash env (other_fields payload)) := by
  unfold Accepted FieldsAccepted validate_strategy_artifact
  by_cases hversion : JsonObject.get payload "artifact_schema_version"
      = .str ARTIFACT_SCHEMA_VERSION
  · rw [is_text_iff.mpr hversion, Bool.not_true, if_neg Bool.false_ne_true]
    cases hreasons : field_reasons env clock payload with
    | none => simp
    | some reasons =>
        simp only [Option.map_some, Option.some.injEq, exists_eq_left', List.isEmpty_iff,
          List.append_eq_nil_iff, reason_if_eq_nil, Bool.and_eq_false_iff, bne_eq_false_iff_eq]
        tauto
  · have hfalse : is_text (JsonObject.get payload "artifact_schema_version")
        ARTIFACT_SCHEMA_VERSION = false := by
      rw [← Bool.not_eq_true, is_text_iff]
      exact hversion
    rw [hfalse, Bool.not_false, if_pos rfl]
    simp [hversion]

omit [Field K] [DecidableEq K] [LinearOrder T] in
/-- A hash field that is a text is read as it is. -/
theorem hash_text_of_str {payload : JsonObject K} {text : String}
    (h : JsonObject.get payload "artifact_sha256" = .str text) : hash_text env payload = text := by
  unfold JsonObject.get at h
  unfold hash_text JsonObject.get_or
  cases hlookup : List.lookup "artifact_sha256" payload with
  | none =>
      rw [hlookup] at h
      cases h
  | some value =>
      rw [hlookup, Option.getD_some] at h
      rw [Option.getD_some, h]
      rfl

end Acceptance

/-! ## Edits -/

section Edits

variable {K T : Type}

/-- An edit of an object: it keeps the hash and changes another field, or it
changes the hash only. -/
def Altered (p q : JsonObject K) : Prop :=
  (canonical_field q "artifact_sha256" = canonical_field p "artifact_sha256"
      ∧ ∃ key, key ≠ "artifact_sha256" ∧ canonical_field q key ≠ canonical_field p key)
    ∨ (other_fields q = other_fields p
      ∧ canonical_field q "artifact_sha256" ≠ canonical_field p "artifact_sha256")

/-- The fields that are hashed are those under any other key. -/
theorem canonical_field_other_fields (payload : JsonObject K) {key : String}
    (hkey : key ≠ "artifact_sha256") :
    canonical_field (other_fields payload) key = canonical_field payload key := by
  have hlookup : List.lookup key (other_fields payload) = List.lookup key payload := by
    unfold other_fields
    induction payload with
    | nil => rfl
    | cons field payload ih =>
        by_cases hfield : field.1 = "artifact_sha256"
        · rw [List.filter_cons_of_neg (by simp [hfield]), ih, List.lookup_cons,
            beq_false_of_ne (by rw [hfield]; exact hkey)]
        · rw [List.filter_cons_of_pos (by simp [hfield]), List.lookup_cons, List.lookup_cons, ih]
  rw [canonical_field, canonical_field, hlookup]

/-- Setting the hash leaves the fields that are hashed. -/
@[simp] theorem other_fields_set_field (payload : JsonObject K) (value : JsonValue K) :
    other_fields (set_field payload "artifact_sha256" value) = other_fields payload := by
  have hmap : ∀ payload : JsonObject K, other_fields (payload.map fun field =>
      if field.1 = "artifact_sha256" then ("artifact_sha256", value) else field)
        = other_fields payload := by
    intro payload
    unfold other_fields
    induction payload with
    | nil => rfl
    | cons field payload ih =>
        rw [List.map_cons]
        by_cases hfield : field.1 = "artifact_sha256"
        · rw [if_pos hfield, List.filter_cons_of_neg (by simp),
            List.filter_cons_of_neg (by simp [hfield]), ih]
        · rw [if_neg hfield, List.filter_cons, List.filter_cons, ih]
  unfold set_field
  split_ifs with hsome
  · exact hmap payload
  · simp [other_fields]

/-- A field that is set holds its value. -/
theorem lookup_set_field (payload : JsonObject K) (key : String) (value : JsonValue K) :
    List.lookup key (set_field payload key value) = some value := by
  unfold set_field
  split_ifs with hsome
  · induction payload with
    | nil => cases hsome
    | cons field payload ih =>
        rw [List.map_cons]
        by_cases hfield : field.1 = key
        · rw [if_pos hfield, List.lookup_cons, beq_self_eq_true]
        · have hne : (key == field.1) = false := beq_false_of_ne fun h => hfield h.symm
          rw [List.lookup_cons, hne] at hsome
          rw [if_neg hfield, List.lookup_cons, hne]
          exact ih hsome
  · rw [Bool.not_eq_true, Option.isSome_eq_false_iff, Option.isNone_iff_eq_none] at hsome
    rw [List.lookup_append, hsome, Option.none_or, List.lookup_cons, beq_self_eq_true]

/-- The other fields keep theirs. -/
theorem lookup_set_field_ne (payload : JsonObject K) {key other : String}
    (value : JsonValue K) (hne : other ≠ key) :
    List.lookup other (set_field payload key value) = List.lookup other payload := by
  have hkey : (other == key) = false := beq_false_of_ne hne
  unfold set_field
  split_ifs with hsome
  · clear hsome
    induction payload with
    | nil => rfl
    | cons field payload ih =>
        rw [List.map_cons, List.lookup_cons, List.lookup_cons, ih]
        by_cases hfield : field.1 = key
        · rw [if_pos hfield, hfield, hkey]
        · rw [if_neg hfield]
  · rw [List.lookup_append, List.lookup_cons, hkey, List.lookup_nil, Option.or_none]

theorem sort_keys_eq_str {value : JsonValue K} {text : String} :
    sort_keys value = .str text ↔ value = .str text := by
  cases value with
  | str text' => rw [sort_keys]
  | _ => simp [sort_keys]

theorem canonical_field_eq_str {payload : JsonObject K} {key text : String} :
    canonical_field payload key = some (.str text)
      ↔ JsonObject.get payload key = .str text := by
  unfold canonical_field JsonObject.get
  cases List.lookup key payload with
  | none => simp
  | some value => simp [sort_keys_eq_str]

variable (env : ArtifactEnv K T)

/-- Objects that differ in a field other than the hash have different hashes. -/
theorem artifact_hash_ne {p q : JsonObject K} {key : String} (hkey : key ≠ "artifact_sha256")
    (hne : canonical_field q key ≠ canonical_field p key) :
    artifact_hash env (other_fields q) ≠ artifact_hash env (other_fields p) := by
  intro h
  have hfield := canonical_field_eq env.floats (env.hexdigest_injective h) key
  rw [canonical_field_other_fields q hkey, canonical_field_other_fields p hkey] at hfield
  exact hne hfield

/-- The hash of the edited object is compared: it is not empty, nor a value of
another type that is written as the same text. -/
def HashCompared (p q : JsonObject K) : Prop :=
  hash_text env q ≠ ""
    ∧ ((∃ text, JsonObject.get q "artifact_sha256" = .str text)
      ∨ hash_text env q ≠ hash_text env p)

/-- After an edit of an object with the right hash, the hash is wrong exactly
where it is compared. -/
theorem hash_mismatch_iff {p q : JsonObject K} (haltered : Altered p q)
    (hp : JsonObject.get p "artifact_sha256" = .str (artifact_hash env (other_fields p))) :
    (hash_text env q ≠ "" ∧ hash_text env q ≠ artifact_hash env (other_fields q))
      ↔ HashCompared env p q := by
  have htext : hash_text env p = artifact_hash env (other_fields p) := hash_text_of_str env hp
  unfold HashCompared
  rcases haltered with ⟨hsame, key, hkey, hne⟩ | ⟨hothers, hchanged⟩
  · -- the hash is the old one, the fields are not
    have hq : JsonObject.get q "artifact_sha256" = .str (artifact_hash env (other_fields p)) := by
      rw [← canonical_field_eq_str, hsame, canonical_field_eq_str]
      exact hp
    have hdiff := artifact_hash_ne env hkey hne
    rw [hash_text_of_str env hq]
    constructor
    · exact fun h => ⟨h.1, Or.inl ⟨_, hq⟩⟩
    · exact fun h => ⟨h.1, hdiff.symm⟩
  · rw [hothers, htext]
    constructor
    · exact fun h => ⟨h.1, Or.inr h.2⟩
    · rintro ⟨hne, ⟨text, hq⟩ | hdiff⟩
      · refine ⟨hne, fun heq => hchanged ?_⟩
        rw [hash_text_of_str env hq] at heq
        rw [canonical_field_eq_str.mpr hp, canonical_field_eq_str.mpr hq, heq]
      · exact ⟨hne, hdiff⟩

/-- A stamped artifact carries the hash of its other fields. -/
theorem artifact_sha256_stamp_artifact (artifact : JsonObject K) :
    JsonObject.get (stamp_artifact env artifact) "artifact_sha256"
      = .str (artifact_hash env (other_fields (stamp_artifact env artifact))) := by
  unfold stamp_artifact JsonObject.get
  rw [lookup_set_field, other_fields_set_field, Option.getD_some]

/-- So does every artifact that `build_strategy_artifact` returns. -/
theorem artifact_sha256_build_strategy_artifact [Field K] [DecidableEq K]
    {payload artifact : JsonObject K} (h : build_strategy_artifact env payload = some artifact) :
    JsonObject.get artifact "artifact_sha256"
      = .str (artifact_hash env (other_fields artifact)) := by
  unfold build_strategy_artifact at h
  obtain ⟨with_manifest, -, rfl⟩ := Option.map_eq_some_iff.mp h
  exact artifact_sha256_stamp_artifact env with_manifest

end Edits

/-- For every artifact that is accepted at one time and every edit of it that is
validated at another: the hash of the artifact is that of its other fields and
the edited object is refused, exactly when the artifact has a hash that is a text
and not empty, and the hash of the edited object is compared or one of its fields
is refused anyway. -/
theorem artifact_integrity_iff {K T : Type} [Field K] [DecidableEq K] [LinearOrder T]
    (env : ArtifactEnv K T) (clock later : T) {p q : JsonObject K}
    (hp : Accepted env clock p) (haltered : Altered p q) :
    (JsonObject.get p "artifact_sha256" = .str (artifact_hash env (other_fields p))
        ∧ ¬ Accepted env later q)
      ↔ (∃ text, text ≠ "" ∧ JsonObject.get p "artifact_sha256" = .str text)
        ∧ (HashCompared env p q ∨ ¬ FieldsAccepted env later q) := by
  have hrefused : ¬ Accepted env later q ↔ ¬ FieldsAccepted env later q
      ∨ hash_text env q ≠ "" ∧ hash_text env q ≠ artifact_hash env (other_fields q) := by
    rw [accepted_iff]
    tauto
  rw [hrefused]
  constructor
  · rintro ⟨hhash, hq⟩
    rw [← hash_mismatch_iff env haltered hhash]
    exact ⟨⟨_, env.hexdigest_ne _, hhash⟩, hq.symm⟩
  · rintro ⟨⟨text, htext, hhash⟩, hq⟩
    -- a hash that is not empty has been compared when the artifact was accepted
    have hright : text = artifact_hash env (other_fields p) := by
      rcases ((accepted_iff env clock p).mp hp).2 with hempty | hequal
      · rw [hash_text_of_str env hhash] at hempty
        exact absurd hempty htext
      · rwa [hash_text_of_str env hhash] at hequal
    rw [hright] at hhash
    rw [← hash_mismatch_iff env haltered hhash] at hq
    exact ⟨hhash, hq.symm⟩

/-! ### An artifact and its edits -/

theorem artifact_sha256_plain_artifact :
    JsonObject.get plain_artifact "artifact_sha256"
      = .str (artifact_hash plain_env (other_fields plain_artifact)) := by
  have hbuilt : (build_strategy_artifact plain_env (plain_payload true)).isSome = true := by
    decide +kernel
  obtain ⟨artifact, hartifact⟩ := Option.isSome_iff_exists.mp hbuilt
  have hplain : plain_artifact = artifact := by rw [plain_artifact, hartifact, Option.getD_some]
  rw [hplain]
  exact artifact_sha256_build_strategy_artifact plain_env hartifact

theorem fieldsAccepted_plain_artifact : FieldsAccepted plain_env plain_clock plain_artifact :=
  ⟨is_text_iff.mp (by decide +kernel), by decide +kernel⟩

theorem accepted_plain_artifact : Accepted plain_env plain_clock plain_artifact := by
  refine (accepted_iff _ _ _).mpr ⟨fieldsAccepted_plain_artifact, Or.inr ?_⟩
  exact hash_text_of_str plain_env artifact_sha256_plain_artifact

/-- The artifact with its hash blanked. -/
def blank_artifact : JsonObject ℚ := set_field plain_artifact "artifact_sha256" (.str "")

/-- The blank artifact with another order policy. -/
def repriced_artifact : JsonObject ℚ :=
  set_field blank_artifact "order_policy" (.dict [("order_type", .str "market")])

theorem altered_plain_artifact : Altered plain_artifact blank_artifact := by
  refine Or.inr ⟨other_fields_set_field _ _, ?_⟩
  rw [canonical_field_eq_str.mpr artifact_sha256_plain_artifact, blank_artifact, canonical_field,
    lookup_set_field]
  intro h
  exact plain_env.hexdigest_ne _ (JsonValue.str.inj (Option.some.inj h)).symm

theorem altered_blank_artifact : Altered blank_artifact repriced_artifact := by
  refine Or.inl ⟨?_, "order_policy", by decide, fun h => ?_⟩
  · rw [repriced_artifact, canonical_field, lookup_set_field_ne _ _ (by decide), canonical_field]
  · -- the old order policy is empty
    have htruthy := congrArg (Option.map truthy) h
    exact absurd htruthy (by decide +kernel)

/-- The edit that blanks the hash of an artifact. -/
theorem artifact_integrity_blanked :
    (JsonObject.get plain_artifact "artifact_sha256"
          = .str (artifact_hash plain_env (other_fields plain_artifact))
        ∧ ¬ Accepted plain_env plain_clock blank_artifact)
      ↔ (∃ text, text ≠ "" ∧ JsonObject.get plain_artifact "artifact_sha256" = .str text)
        ∧ (HashCompared plain_env plain_artifact blank_artifact
          ∨ ¬ FieldsAccepted plain_env plain_clock blank_artifact) :=
  artifact_integrity_iff plain_env plain_clock plain_clock accepted_plain_artifact
    altered_plain_artifact

/-- An artifact without a hash is accepted, and accepted again with another order
policy. -/
theorem blank_hash_accepted :
    Accepted plain_env plain_clock blank_artifact
      ∧ JsonObject.get blank_artifact "artifact_sha256"
        ≠ .str (artifact_hash plain_env (other_fields blank_artifact))
      ∧ Altered blank_artifact repriced_artifact
      ∧ Accepted plain_env plain_clock repriced_artifact := by
  have hblank : JsonObject.get blank_artifact "artifact_sha256" = .str "" :=
    is_text_iff.mp (by decide +kernel)
  have hrepriced : JsonObject.get repriced_artifact "artifact_sha256" = .str "" :=
    is_text_iff.mp (by decide +kernel)
  refine ⟨?_, ?_, altered_blank_artifact, ?_⟩
  · refine (accepted_iff _ _ _).mpr ⟨⟨is_text_iff.mp (by decide +kernel), by decide +kernel⟩, ?_⟩
    exact Or.inl (hash_text_of_str plain_env hblank)
  · rw [hblank]
    intro h
    exact plain_env.hexdigest_ne _ (JsonValue.str.inj h).symm
  · refine (accepted_iff _ _ _).mpr ⟨⟨is_text_iff.mp (by decide +kernel), by decide +kernel⟩, ?_⟩
    exact Or.inl (hash_text_of_str plain_env hrepriced)

end ProofAlpha.Strategy
