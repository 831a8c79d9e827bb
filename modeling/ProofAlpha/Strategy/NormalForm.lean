/-
The normal form of a bounded strategy specification (`strategy/dsl.py`).

Every section has a normal form that its own normaliser leaves as it is:
`NormalNames` for a list of names, `NormalEntries` for a section whose fields are
sorted by key. An accepted specification is normalised section by section
(`accepts_iff`), so its normal form is accepted again as far as its sections are
read again as what they are. The two optional sections are not: an absent one is
written as `{}`, which is a present and empty one.
-/
import Mathlib.Data.List.Dedup
import Mathlib.Data.Rat.Floor
import ProofAlpha.Strategy.BoundedDsl

set_option autoImplicit false

namespace ProofAlpha.Strategy

open ProofAlpha.Lib ProofAlpha.App

variable {F : Type}

/-! ## Lists of names -/

/-- Names in order, each there once, none of them blank. -/
structure NormalNames (names : List String) : Prop where
  sorted : names.Pairwise (· < ·)
  named : ∀ name ∈ names, pyStrip name ≠ ""

theorem normalNames_normalize (raw : JsonValue F) : NormalNames (normalize_string_list raw) := by
  unfold normalize_string_list
  split
  · next items =>
      refine ⟨?_, ?_⟩
      · have hnodup := (List.perm_insertionSort (· ≤ ·) (items.filterMap named_item).dedup).symm.nodup
          (List.nodup_dedup _)
        exact (List.pairwise_insertionSort (· ≤ ·) _).imp₂
          (fun _ _ hle hne => lt_of_le_of_ne hle hne) hnodup
      · intro name hname
        rw [List.mem_insertionSort, List.mem_dedup, List.mem_filterMap] at hname
        obtain ⟨item, -, hitem⟩ := hname
        unfold named_item at hitem
        split at hitem
        · split_ifs at hitem with hblank
          rwa [← Option.some.inj hitem]
        · cases hitem
  · exact ⟨List.Pairwise.nil, fun name hname => absurd hname List.not_mem_nil⟩

/-- `any(name not in allowed for name in names)`. -/
theorem any_not_mem_eq_false {names allowed : List String} :
    (names.any fun name => decide (name ∉ allowed)) = false ↔ ∀ name ∈ names, name ∈ allowed := by
  rw [List.any_eq_false]
  refine forall₂_congr fun name _ => ?_
  rw [decide_eq_true_eq, not_not]

theorem named_item_str {name : String} (hname : pyStrip name ≠ "") :
    named_item (.str name : JsonValue F) = some name := if_neg hname

/-- Normal names are read back as they are. -/
theorem normalize_text_list {names : List String} (h : NormalNames names) :
    normalize_string_list (text_list names : JsonValue F) = names := by
  have hnodup : names.Nodup := h.sorted.imp ne_of_lt
  have hread : (names.map JsonValue.str).filterMap (named_item (F := F)) = names := by
    rw [List.filterMap_map]
    refine (List.filterMap_congr fun name hname => ?_).trans List.filterMap_some
    exact named_item_str (h.named name hname)
  rw [text_list, normalize_string_list, hread, hnodup.dedup]
  exact (h.sorted.imp le_of_lt).insertionSort_eq

/-! ## Sections sorted by key -/

/-- Fields in the order of their keys, each as `keep` wants it. -/
structure NormalEntries (keep : String → JsonValue F → Prop) (entries : JsonObject F) : Prop where
  sorted : entries.Pairwise fun a b => a.1 < b.1
  kept : ∀ item ∈ entries, keep item.1 item.2

theorem normalEntries_sorted_items {keep : String → JsonValue F → Prop}
    {d : Dict String (JsonValue F)} (h : ∀ key value, d.lookup key = some value → keep key value) :
    NormalEntries keep d.sorted_items :=
  ⟨Dict.pairwise_sorted_items d, fun item hitem =>
    h item.1 item.2 (Dict.mem_sorted_items.mp hitem)⟩

/-- What is kept of a dict after one more field. -/
theorem kept_insert {keep : String → JsonValue F → Prop} {d : Dict String (JsonValue F)}
    (h : ∀ key value, d.lookup key = some value → keep key value) {key : String}
    {value : JsonValue F} (hkeep : keep key value) :
    ∀ key' value', (d.insert key value).lookup key' = some value' → keep key' value' := by
  intro key' value' hlookup
  by_cases heq : key' = key
  · subst heq
    rw [AList.lookup_insert] at hlookup
    rwa [← Option.some.inj hlookup]
  · rw [AList.lookup_insert_ne heq] at hlookup
    exact h key' value' hlookup

section Schema

variable (runtime : DslRuntime F)

/-- The entry of a parameter whose bounds are bounds. -/
def IsBounds (_name : String) (value : JsonValue F) : Prop :=
  ∃ minimum maximum step, value = parameter_bounds minimum maximum step ∧
    runtime.gt minimum maximum = false ∧ runtime.not_positive step = false

variable {runtime}

theorem read_bounds_of_isBounds {name : String} {value : JsonValue F}
    (h : IsBounds runtime name value) : read_bounds runtime value = .ok (some value) := by
  obtain ⟨minimum, maximum, step, rfl, hgt, hstep⟩ := h
  change (if runtime.gt minimum maximum || runtime.not_positive step then .ok none
    else .ok (some (parameter_bounds minimum maximum step)) :
      Except String (Option (JsonValue F))) = _
  rw [hgt, hstep]
  rfl

theorem isBounds_of_read_bounds {name : String} {raw value : JsonValue F}
    (h : read_bounds runtime raw = .ok (some value)) : IsBounds runtime name value := by
  unfold read_bounds at h
  split at h
  · obtain ⟨minimum, -, hrest⟩ := bind_ok h
    obtain ⟨maximum, -, hlast⟩ := bind_ok hrest
    obtain ⟨step, -, hchecked⟩ := bind_ok hlast
    rcases minimum with _ | minimum
    · cases hchecked
    rcases maximum with _ | maximum
    · cases hchecked
    rcases step with _ | step
    · cases hchecked
    dsimp only at hchecked
    split_ifs at hchecked with hbad
    · cases hchecked
    · rw [Bool.or_eq_true, not_or, Bool.not_eq_true, Bool.not_eq_true] at hbad
      cases hchecked
      exact ⟨minimum, maximum, step, rfl, hbad.1, hbad.2⟩
  · cases h

theorem normalEntries_parameter_schema {raw : JsonValue F} {entries : JsonObject F}
    (h : normalize_parameter_schema runtime raw = .ok entries) :
    NormalEntries (IsBounds runtime) entries := by
  have hstep : ∀ (d d' : Dict String (JsonValue F)),
      (∀ key value, d.lookup key = some value → IsBounds runtime key value) →
      ∀ item : String × JsonValue F, parameter_step runtime d item = .ok d' →
      ∀ key value, d'.lookup key = some value → IsBounds runtime key value := by
    intro d d' hd item hstep
    rw [parameter_step] at hstep
    obtain ⟨bounds, hread, hstep⟩ := bind_ok hstep
    cases bounds with
    | none =>
        cases hstep
        exact hd
    | some bounds =>
        cases hstep
        exact kept_insert hd (isBounds_of_read_bounds hread)
  unfold normalize_parameter_schema at h
  split at h
  · next items =>
      cases hrun : items.foldlM (parameter_step runtime) ∅ with
      | error message =>
          rw [hrun] at h
          cases h
      | ok d =>
          rw [hrun] at h
          cases h
          exact normalEntries_sorted_items
            (foldlM_keeps (fun d d' hd item _ => hstep d d' hd item) (by simp) hrun)
  · cases h
    exact ⟨List.Pairwise.nil, fun item hitem => absurd hitem List.not_mem_nil⟩

/-- A normal schema is read back as it is. -/
theorem normalize_normal_schema {entries : JsonObject F}
    (h : NormalEntries (IsBounds runtime) entries) :
    normalize_parameter_schema runtime (.dict entries) = .ok entries := by
  have hstep : ∀ d : Dict String (JsonValue F), ∀ item ∈ entries,
      parameter_step runtime d item = .ok (d.insert item.1 item.2) := by
    intro d item hitem
    rw [parameter_step, read_bounds_of_isBounds (h.kept item hitem)]
    rfl
  rw [normalize_parameter_schema, foldlM_eq_ok_foldl hstep]
  exact congrArg Except.ok (Dict.sorted_items_foldl_insert h.sorted)

end Schema

/-! ## The execution policy -/

/-- A field that an execution policy may have, with a plain value. -/
def IsPolicyField (field_name : String) (value : JsonValue F) : Prop :=
  field_name ∉ PROHIBITED_FORECAST_EXECUTION_FIELDS ∧
    field_name ∈ ALLOWED_EXECUTION_POLICY_FIELDS ∧ is_scalar value = true

theorem execution_policy_step_of_isPolicyField {s : Dict String (JsonValue F) × List String}
    {item : String × JsonValue F} (h : IsPolicyField item.1 item.2) :
    execution_policy_step s item = (s.1.insert item.1 item.2, s.2) := by
  rw [execution_policy_step, if_neg h.1, if_neg (not_not_intro h.2.1), if_pos h.2.2]

theorem normalEntries_execution_policy (raw : JsonValue F) :
    NormalEntries IsPolicyField (normalize_execution_policy raw).1 := by
  have hstep : ∀ (s : Dict String (JsonValue F) × List String),
      (∀ key value, s.1.lookup key = some value → IsPolicyField key value) →
      ∀ (item : String × JsonValue F) key value,
        (execution_policy_step s item).1.lookup key = some value → IsPolicyField key value := by
    intro s hs item
    unfold execution_policy_step
    split_ifs with hprohibited hallowed hscalar
    · exact hs
    · exact kept_insert hs ⟨hprohibited, hallowed, hscalar⟩
    · exact hs
    · exact hs
  unfold normalize_execution_policy
  split
  · exact normalEntries_sorted_items (List.foldlRecOn _ _ (by simp) fun s hs item _ => hstep s hs item)
  · exact ⟨List.Pairwise.nil, fun item hitem => absurd hitem List.not_mem_nil⟩

/-- A normal policy is read back as it is, and nothing is found against its fields. -/
theorem normalize_normal_policy {entries : JsonObject F}
    (h : NormalEntries IsPolicyField entries) :
    normalize_execution_policy (.dict entries) = (entries, []) := by
  have hfold : ∀ (fields : JsonObject F) (d : Dict String (JsonValue F)),
      (∀ item ∈ fields, IsPolicyField item.1 item.2) →
      fields.foldl execution_policy_step (d, [])
        = (fields.foldl (fun d item => d.insert item.1 item.2) d, []) := by
    intro fields
    induction fields with
    | nil => intro d _; rfl
    | cons item fields ih =>
        intro d hfields
        rw [List.foldl_cons,
          execution_policy_step_of_isPolicyField (hfields item List.mem_cons_self)]
        exact ih _ fun item' hitem' => hfields item' (List.mem_cons_of_mem item hitem')
  rw [normalize_execution_policy, hfold entries ∅ h.kept]
  exact congrArg (·, []) (Dict.sorted_items_foldl_insert h.sorted)

/-! ## The structure -/

/-- A normal structure. -/
def structure_entry (backbone : String) (layers : String → List String) : JsonObject F :=
  by_key (("backbone", .str backbone) :: STRUCTURE_LISTS.map fun field_name =>
    (field_name, text_list (layers field_name)))

theorem structure_entry_eq (backbone : String) (layers : String → List String) :
    (structure_entry backbone layers : JsonObject F)
      = [("backbone", .str backbone), ("custom_filters", text_list (layers "custom_filters")),
        ("directional_layers", text_list (layers "directional_layers")),
        ("exit_layers", text_list (layers "exit_layers")),
        ("known_good_filters", text_list (layers "known_good_filters"))] := by
  simp [structure_entry, by_key, STRUCTURE_LISTS]

/-- Approved layers in every list. -/
def ApprovedLayers (layers : String → List String) : Prop :=
  ∀ field_name ∈ STRUCTURE_LISTS,
    NormalNames (layers field_name) ∧ ∀ name ∈ layers field_name, name ∈ approved_layer_names

section Structure

variable {runtime : DslRuntime F}

/-- What the normaliser makes of a structure it takes. -/
theorem normalize_structure_cases (raw : JsonValue F) :
    normalize_structure runtime raw = [] ∨ ∃ backbone layers,
      backbone ∈ approved_layer_names ∧ ApprovedLayers layers ∧
        normalize_structure runtime raw = structure_entry backbone layers := by
  unfold normalize_structure
  split
  · next fields =>
      dsimp only
      split_ifs with hbackbone hlayers
      · exact Or.inl rfl
      · refine Or.inr ⟨_, fun field_name => normalize_string_list (JsonObject.get fields field_name),
          hbackbone, ?_, rfl⟩
        intro field_name hfield
        refine ⟨normalNames_normalize _, fun name hname => ?_⟩
        by_contra hnot
        refine hlayers (List.any_eq_true.mpr ⟨field_name, hfield, ?_⟩)
        exact List.any_eq_true.mpr ⟨name, hname, decide_eq_true hnot⟩
      · exact Or.inl rfl
  · exact Or.inl rfl

theorem get_structure_entry (backbone : String) (layers : String → List String)
    {field_name : String} (hfield : field_name ∈ STRUCTURE_LISTS) :
    JsonObject.get (structure_entry backbone layers : JsonObject F) field_name
      = text_list (layers field_name) := by
  rw [structure_entry_eq]
  simp only [STRUCTURE_LISTS, List.mem_cons, List.not_mem_nil, or_false] at hfield
  rcases hfield with rfl | rfl | rfl | rfl
  · rfl
  · rfl
  · rfl
  · rfl

theorem pyStrip_approved {name : String} (h : name ∈ approved_layer_names) :
    pyStrip name = name := by
  have hall : ∀ name ∈ approved_layer_names, pyStrip name = name := by decide +kernel
  exact hall name h

/-- A normal structure is read back as it is. -/
theorem normalize_structure_entry {backbone : String} {layers : String → List String}
    (hbackbone : backbone ∈ approved_layer_names) (hlayers : ApprovedLayers layers) :
    normalize_structure runtime (.dict (structure_entry backbone layers))
      = structure_entry backbone layers := by
  have hread : ∀ field_name ∈ STRUCTURE_LISTS,
      normalize_string_list (JsonObject.get (structure_entry backbone layers : JsonObject F)
        field_name) = layers field_name := by
    intro field_name hfield
    rw [get_structure_entry backbone layers hfield]
    exact normalize_text_list (hlayers field_name hfield).1
  have hname : JsonObject.get_or (structure_entry backbone layers : JsonObject F) "backbone"
      (.str "") = .str backbone := by
    rw [structure_entry_eq]
    rfl
  have hstrip : pyStrip (py_str runtime.composite_text (.str backbone)) = backbone :=
    pyStrip_approved hbackbone
  have happroved : ¬ (STRUCTURE_LISTS.any fun field_name =>
      (normalize_string_list (JsonObject.get (structure_entry backbone layers : JsonObject F)
        field_name)).any fun name => name ∉ approved_layer_names) = true := by
    rw [List.any_eq_true]
    rintro ⟨field_name, hfield, hany⟩
    rw [hread field_name hfield, List.any_eq_true] at hany
    obtain ⟨name, hmem, hnot⟩ := hany
    exact of_decide_eq_true hnot ((hlayers field_name hfield).2 name hmem)
  rw [normalize_structure, hname, hstrip, if_neg (not_not_intro hbackbone), if_neg happroved]
  refine congrArg (fun fields => by_key (("backbone", .str backbone) :: fields)) ?_
  exact List.map_congr_left fun field_name hfield => by rw [hread field_name hfield]

end Structure

/-! ## The forecast configuration -/

/-- A normal forecast configuration. -/
structure IsForecastEntry (entries : JsonObject F) (config_checksum : String)
    (context_length : ℤ) (feature_fields : List String) (horizon : ℤ) (model_id : String) :
    Prop where
  eq : entries
    = forecast_feature_entry config_checksum context_length feature_fields horizon model_id
  checksum : config_checksum ≠ ""
  context : 0 < context_length
  names : NormalNames feature_fields
  fields : feature_fields ≠ []
  allowed : ∀ name ∈ feature_fields, name ∈ ALLOWED_FORECAST_FEATURE_FIELDS
  horizon : 0 < horizon
  model : model_id ≠ ""

section Forecast

variable {runtime : DslRuntime F}

theorem nonempty_text_eq_some {value : JsonValue F} {text : String} :
    nonempty_text value = some text ↔ value = .str text ∧ text ≠ "" := by
  unfold nonempty_text
  split
  · split_ifs with hempty
    · rw [hempty]
      simp only [JsonValue.str.injEq, false_iff, not_and, not_not]
      exact Eq.symm
    · rw [Option.some_inj, JsonValue.str.injEq]
      constructor
      · rintro rfl
        exact ⟨rfl, hempty⟩
      · exact And.left
  · next hstr =>
      simp only [reduceCtorEq, false_iff, not_and]
      exact fun heq => absurd heq (hstr text)

theorem positive_int_eq_some {number : Option ℤ} {n : ℤ} :
    positive_int number = some n ↔ number = some n ∧ 0 < n := by
  rw [positive_int, Option.filter_eq_some_iff, decide_eq_true_eq]

/-- A configuration without issues is absent or has a normal form. -/
theorem normalize_forecast_cases {raw : JsonValue F} {entries : JsonObject F}
    (h : normalize_forecast_feature_config runtime raw = .ok (entries, [])) :
    (raw = .null ∧ entries = []) ∨
      ∃ config_checksum context_length feature_fields horizon model_id,
        IsForecastEntry entries config_checksum context_length feature_fields horizon model_id := by
  unfold normalize_forecast_feature_config at h
  split at h
  · cases h
    exact Or.inl ⟨rfl, rfl⟩
  · next fields =>
      obtain ⟨horizon, -, hrest⟩ := bind_ok h
      obtain ⟨context_length, -, hchecked⟩ := bind_ok hrest
      dsimp only at hchecked
      split_ifs at hchecked with hissues
      · -- the issues are the second component, which is empty
        rw [Except.ok.injEq, Prod.mk.injEq] at hchecked
        exact absurd hchecked.2 hissues
      · rw [not_not] at hissues
        simp only [List.append_eq_nil_iff, reason_if_eq_nil, Option.isNone_eq_false_iff,
          Option.isSome_iff_exists, List.isEmpty_eq_false_iff] at hissues
        obtain ⟨⟨⟨⟨⟨⟨⟨-, -⟩, model_id, hmodel⟩, hor, hhorizon⟩, con, hcontext⟩, checksum,
          hchecksum⟩, hfields⟩, hallowed⟩ := hissues
        obtain ⟨rfl, hpositive⟩ := positive_int_eq_some.mp hhorizon
        obtain ⟨rfl, hpositive'⟩ := positive_int_eq_some.mp hcontext
        rw [hmodel, hchecksum] at hchecked
        cases hchecked
        refine Or.inr ⟨checksum, con, _, hor, model_id, rfl, (nonempty_text_eq_some.mp hchecksum).2,
          hpositive', normalNames_normalize _, hfields, any_not_mem_eq_false.mp hallowed, hpositive,
          (nonempty_text_eq_some.mp hmodel).2⟩
  · cases h

/-- A normal configuration is read back as it is. -/
theorem normalize_forecast_entry {entries : JsonObject F} {config_checksum : String}
    {context_length : ℤ} {feature_fields : List String} {horizon : ℤ} {model_id : String}
    (h : IsForecastEntry entries config_checksum context_length feature_fields horizon model_id) :
    normalize_forecast_feature_config runtime (.dict entries) = .ok (entries, []) := by
  obtain ⟨rfl, hchecksum, hcontext, hnames, hfields, hallowed, hhorizon, hmodel⟩ := h
  have hread : normalize_string_list (text_list feature_fields : JsonValue F) = feature_fields :=
    normalize_text_list hnames
  have hkeys : (forecast_feature_entry config_checksum context_length feature_fields horizon
      model_id : JsonObject F).filter
        (fun item => decide (item.1 ∉ ALLOWED_FORECAST_FEATURE_CONFIG_FIELDS)) = [] := by
    refine List.filter_eq_nil_iff.mpr fun item hitem hnot => of_decide_eq_true hnot ?_
    have hall : ∀ key ∈ ["config_checksum", "context_length", "feature_fields", "horizon",
        "model_id", "provider"], key ∈ ALLOWED_FORECAST_FEATURE_CONFIG_FIELDS := by decide
    exact hall item.1 (List.mem_map_of_mem (f := Prod.fst) hitem)
  have hhorizon' : positive_int (some horizon) = some horizon :=
    positive_int_eq_some.mpr ⟨rfl, hhorizon⟩
  have hcontext' : positive_int (some context_length) = some context_length :=
    positive_int_eq_some.mpr ⟨rfl, hcontext⟩
  have hmodel' : nonempty_text (.str model_id : JsonValue F) = some model_id :=
    nonempty_text_eq_some.mpr ⟨rfl, hmodel⟩
  have hchecksum' : nonempty_text (.str config_checksum : JsonValue F) = some config_checksum :=
    nonempty_text_eq_some.mpr ⟨rfl, hchecksum⟩
  -- the fields of the entry, in the order in which they are read
  obtain ⟨get_horizon, get_context, get_model, get_checksum, get_fields, get_provider⟩ :
      JsonObject.get (forecast_feature_entry config_checksum context_length feature_fields horizon
          model_id : JsonObject F) "horizon" = .int horizon ∧
      JsonObject.get (forecast_feature_entry config_checksum context_length feature_fields horizon
          model_id : JsonObject F) "context_length" = .int context_length ∧
      JsonObject.get (forecast_feature_entry config_checksum context_length feature_fields horizon
          model_id : JsonObject F) "model_id" = .str model_id ∧
      JsonObject.get (forecast_feature_entry config_checksum context_length feature_fields horizon
          model_id : JsonObject F) "config_checksum" = .str config_checksum ∧
      JsonObject.get (forecast_feature_entry config_checksum context_length feature_fields horizon
          model_id : JsonObject F) "feature_fields" = text_list feature_fields ∧
      JsonObject.get (forecast_feature_entry config_checksum context_length feature_fields horizon
          model_id : JsonObject F) "provider" = .str "timesfm" := ⟨rfl, rfl, rfl, rfl, rfl, rfl⟩
  rw [normalize_forecast_feature_config, get_horizon, get_context, to_int, to_int, ok_bind, ok_bind]
  dsimp only
  rw [hkeys, get_model, get_checksum, get_fields, get_provider, hread, any_not_mem_eq_false.mpr hallowed,
    hhorizon', hcontext', hmodel', hchecksum', is_text_iff.mpr rfl, List.isEmpty_eq_false_iff.mpr hfields]
  rfl

end Forecast

/-! ## Accepted specifications -/

section Accepted

variable (runtime : DslRuntime F)

/-- A specification without a reason against it, section by section. -/
structure Accepts (spec : JsonObject F) (normal : NormalSections F) : Prop where
  keys : ∀ item ∈ spec, item.1 ∈ ALLOWED_KEYS
  family : JsonObject.get spec "family" = .str normal.family
  family_allowed : normal.family ∈ ALLOWED_FAMILIES
  variant_id : JsonObject.get spec "variant_id" = .str normal.variant_id
  variant_named : pyStrip normal.variant_id ≠ ""
  features : normalize_string_list (JsonObject.get spec "feature_contracts")
    = normal.feature_contracts
  features_some : normal.feature_contracts ≠ []
  features_allowed : ∀ name ∈ normal.feature_contracts, name ∈ ALLOWED_FEATURE_CONTRACTS
  schema : normalize_parameter_schema runtime (JsonObject.get spec "parameter_schema")
    = .ok normal.parameter_schema
  schema_some : normal.parameter_schema ≠ []
  hooks : normalize_string_list (JsonObject.get spec "risk_hooks") = normal.risk_hooks
  hooks_allowed : ∀ name ∈ normal.risk_hooks, name ∈ ALLOWED_RISK_HOOKS
  policy : normalize_execution_policy (JsonObject.get spec "execution_policy")
    = (normal.execution_policy, [])
  policy_checked : execution_policy_reasons normal.execution_policy = .ok []
  struct : normalize_structure runtime (JsonObject.get spec "structure") = normal.struct
  struct_checked : structure_reasons (JsonObject.get spec "structure") normal.struct = []
  forecast : normalize_forecast_feature_config runtime
    (JsonObject.get spec "forecast_feature_config") = .ok (normal.forecast_feature_config, [])
  forecast_some : "forecast_feature" ∈ normal.feature_contracts →
    normal.forecast_feature_config ≠ []
  forecast_contract : is_present (JsonObject.get spec "forecast_feature_config") = true →
    "forecast_feature" ∈ normal.feature_contracts

variable {runtime}

theorem is_member_eq_true {names : List String} {value : JsonValue F} :
    is_member names value = .ok true ↔ ∃ text, value = .str text ∧ text ∈ names := by
  unfold is_member
  split
  · next text =>
      simp only [Except.ok.injEq, decide_eq_true_eq, JsonValue.str.injEq, exists_eq_left']
  · simp
  · simp
  · next hstr _ _ =>
      simp only [Except.ok.injEq, Bool.false_eq_true, false_iff, not_exists, not_and]
      exact fun text heq => absurd heq (hstr text)

theorem named_item_eq_some {value : JsonValue F} {text : String} :
    named_item value = some text ↔ value = .str text ∧ pyStrip text ≠ "" := by
  unfold named_item
  split
  · next name =>
      rw [JsonValue.str.injEq]
      constructor
      · intro h
        split_ifs at h with hblank
        obtain rfl := Option.some.inj h
        exact ⟨rfl, hblank⟩
      · rintro ⟨rfl, hnamed⟩
        exact if_neg hnamed
  · next hstr =>
      simp only [reduceCtorEq, false_iff, not_and]
      exact fun heq => absurd heq (hstr text)

/-- Every key is allowed exactly where none is prohibited and none unknown. -/
theorem keys_allowed_iff {spec : JsonObject F} :
    (∀ item ∈ spec, item.1 ∈ ALLOWED_KEYS) ↔
      (spec.any fun item => item.1 ∈ PROHIBITED_FREE_FORM_FIELDS) = false ∧
      (spec.filter fun item => item.1 ∉ ALLOWED_KEYS ∧ item.1 ∉ PROHIBITED_FREE_FORM_FIELDS)
        = [] := by
  have hdisjoint : ∀ key ∈ ALLOWED_KEYS, key ∉ PROHIBITED_FREE_FORM_FIELDS := by decide
  rw [List.any_eq_false, List.filter_eq_nil_iff, ← forall₂_and]
  refine forall₂_congr fun item _ => ?_
  rw [decide_eq_true_eq, decide_eq_true_eq, not_and_or, not_not, not_not]
  constructor
  · exact fun hallowed => ⟨hdisjoint item.1 hallowed, Or.inl hallowed⟩
  · rintro ⟨hfree, hallowed | hprohibited⟩
    · exact hallowed
    · exact absurd hprohibited hfree

/-- The validation of an accepted specification. -/
def accepted (runtime : DslRuntime F) (normal : NormalSections F) :
    BoundedStrategyValidation F :=
  ⟨true, [], some (runtime.identity_digest normal.spec), normal.spec⟩

theorem accepts_of_passed {spec : JsonObject F} {validation : BoundedStrategyValidation F}
    (h : validate_bounded_strategy_spec runtime (.dict spec) = .ok validation)
    (hpassed : validation.passed = true) :
    ∃ normal, Accepts runtime spec normal ∧ validation = accepted runtime normal := by
  rw [validate_bounded_strategy_spec] at h
  obtain ⟨family_allowed, hfamily, h⟩ := bind_ok h
  obtain ⟨schema, hschema, h⟩ := bind_ok h
  obtain ⟨policy_reasons, hpolicy, h⟩ := bind_ok h
  obtain ⟨forecast, hforecast, h⟩ := bind_ok h
  dsimp only at h
  split_ifs at h with hreasons
  · cases h
    cases hpassed
  · cases h
    rw [not_not] at hreasons
    simp only [List.append_eq_nil_iff, reason_if_eq_nil, Bool.not_eq_false', List.map_eq_nil_iff,
      Option.isNone_eq_false_iff, Option.isSome_iff_exists, List.isEmpty_eq_false_iff,
      any_not_mem_eq_false, Bool.and_eq_false_imp, decide_eq_true_eq] at hreasons
    obtain ⟨⟨⟨⟨⟨⟨⟨⟨⟨⟨⟨⟨⟨hfree, hunknown⟩, hallowed⟩, variant_id, hvariant⟩, hfeatures⟩,
      hfeatures'⟩, hschema'⟩, hhooks⟩, hissues⟩, hpolicy'⟩, hstruct⟩, hforecast'⟩, hsome⟩,
      hcontract⟩ := hreasons
    subst hallowed hpolicy'
    obtain ⟨family, hfamily', hmember⟩ := is_member_eq_true.mp hfamily
    obtain ⟨hvariant', hnamed⟩ := named_item_eq_some.mp hvariant
    rw [hfamily', hvariant']
    have hkeys := keys_allowed_iff.mpr ⟨hfree, hunknown⟩
    refine ⟨⟨family, variant_id, normalize_string_list (JsonObject.get spec "feature_contracts"),
      schema, normalize_string_list (JsonObject.get spec "risk_hooks"),
      (normalize_execution_policy (JsonObject.get spec "execution_policy")).1,
      normalize_structure runtime (JsonObject.get spec "structure"), forecast.1⟩, ?_, rfl⟩
    exact
      { keys := hkeys
        family := hfamily'
        family_allowed := hmember
        variant_id := hvariant'
        variant_named := hnamed
        features := rfl
        features_some := hfeatures
        features_allowed := hfeatures'
        schema := hschema
        schema_some := hschema'
        hooks := rfl
        hooks_allowed := hhooks
        policy := Prod.ext rfl hissues
        policy_checked := hpolicy
        struct := rfl
        struct_checked := hstruct
        forecast := hforecast.trans (congrArg Except.ok (Prod.ext rfl hforecast'))
        forecast_some := hsome
        forecast_contract := fun hpresent => not_not.mp (of_decide_eq_false (hcontract hpresent)) }

theorem passed_of_accepts {spec : JsonObject F} {normal : NormalSections F}
    (h : Accepts runtime spec normal) :
    validate_bounded_strategy_spec runtime (.dict spec) = .ok (accepted runtime normal) := by
  obtain ⟨hfree, hunknown⟩ := keys_allowed_iff.mp h.keys
  have hfamily := is_member_eq_true.mpr ⟨normal.family, h.family, h.family_allowed⟩
  have hvariant := named_item_eq_some.mpr ⟨h.variant_id, h.variant_named⟩
  have hsome : (decide ("forecast_feature" ∈ normal.feature_contracts)
      && List.isEmpty normal.forecast_feature_config) = false := by
    rw [Bool.and_eq_false_imp, decide_eq_true_eq]
    exact fun hfeature => List.isEmpty_eq_false_iff.mpr (h.forecast_some hfeature)
  have hcontract : (is_present (JsonObject.get spec "forecast_feature_config")
      && decide ("forecast_feature" ∉ normal.feature_contracts)) = false := by
    rw [Bool.and_eq_false_imp, decide_eq_false_iff_not, not_not]
    exact h.forecast_contract
  rw [validate_bounded_strategy_spec, hfamily, ok_bind, h.schema, ok_bind]
  dsimp only
  rw [h.policy, h.policy_checked, ok_bind, h.forecast, ok_bind]
  dsimp only
  rw [hfree, hunknown, hvariant, h.features, List.isEmpty_eq_false_iff.mpr h.features_some,
    any_not_mem_eq_false.mpr h.features_allowed, List.isEmpty_eq_false_iff.mpr h.schema_some,
    h.hooks, any_not_mem_eq_false.mpr h.hooks_allowed, h.struct, h.struct_checked, hsome, hcontract,
    h.family, h.variant_id]
  rfl

/-! ## Normalising twice -/

theorem is_present_iff {value : JsonValue F} : is_present value = true ↔ value ≠ .null := by
  cases value with
  | null => simp [is_present]
  | _ => simp [is_present]

/-- Of the raw structure only its presence counts. -/
theorem structure_reasons_congr {raw : JsonValue F} (hraw : is_present raw = true)
    {normalized : JsonObject F} :
    structure_reasons raw normalized = structure_reasons (.dict normalized) normalized := by
  rw [structure_reasons, structure_reasons, hraw]
  rfl

/-- An absent structure is written as `{}`, which is an invalid one. -/
theorem structure_reasons_of_absent {spec : JsonObject F} {normal : NormalSections F}
    (h : Accepts runtime spec normal) (habsent : JsonObject.get spec "structure" = .null) :
    structure_reasons (.dict normal.struct)
      (normalize_structure runtime (.dict normal.struct)) ≠ [] := by
  have hempty : normal.struct = [] := by
    rw [← h.struct, habsent]
    rfl
  have hrejected : normalize_structure runtime (.dict []) = [] := by
    have hblank : (pyStrip "" : String) ∉ approved_layer_names := by decide +kernel
    unfold normalize_structure
    dsimp only
    rw [if_pos]
    exact hblank
  rw [hempty, hrejected]
  exact List.cons_ne_nil _ _

/-- An absent forecast configuration is written as `{}`, which lacks every field. -/
theorem forecast_issues_of_absent {spec : JsonObject F} {normal : NormalSections F}
    (h : Accepts runtime spec normal)
    (habsent : JsonObject.get spec "forecast_feature_config" = .null) (entries : JsonObject F) :
    normalize_forecast_feature_config runtime (.dict normal.forecast_feature_config)
      ≠ .ok (entries, []) := by
  have hempty : normal.forecast_feature_config = [] := by
    have hnull := h.forecast
    rw [habsent, normalize_forecast_feature_config, Except.ok.injEq, Prod.mk.injEq] at hnull
    exact hnull.1.symm
  rw [hempty]
  intro hread
  rcases normalize_forecast_cases hread with ⟨hnull, -⟩ | ⟨_, _, _, _, _, hentry⟩
  · cases hnull
  · have hissues : normalize_forecast_feature_config runtime (.dict [])
        = .ok ([], ["forecast_feature_provider_not_allowed", "missing_forecast_feature_model_id",
          "invalid_forecast_feature_horizon", "invalid_forecast_feature_context_length",
          "missing_forecast_feature_config_checksum", "missing_forecast_feature_fields"]) := rfl
    rw [hread, Except.ok.injEq, Prod.mk.injEq] at hissues
    cases hissues.2

/-- A normal form is accepted as what it is, if both optional sections are there. -/
theorem Accepts.spec {spec : JsonObject F} {normal : NormalSections F}
    (h : Accepts runtime spec normal) (hstructure : JsonObject.get spec "structure" ≠ .null)
    (hforecast : JsonObject.get spec "forecast_feature_config" ≠ .null) :
    Accepts runtime normal.spec normal := by
  have hpolicy : NormalEntries IsPolicyField normal.execution_policy := by
    have hentries := normalEntries_execution_policy (JsonObject.get spec "execution_policy")
    rwa [h.policy] at hentries
  have hstruct : normal.struct ≠ [] := by
    intro hempty
    have hchecked := h.struct_checked
    rw [structure_reasons, is_present_iff.mpr hstructure, hempty] at hchecked
    exact absurd hchecked (List.cons_ne_nil _ _)
  obtain ⟨backbone, layers, hbackbone, hlayers, hentry⟩ :=
    (normalize_structure_cases (JsonObject.get spec "structure")).resolve_left
      (by rw [h.struct]; exact hstruct)
  rw [h.struct] at hentry
  have hread : normalize_structure runtime (.dict normal.struct) = normal.struct := by
    rw [hentry]
    exact normalize_structure_entry hbackbone hlayers
  obtain ⟨_, _, _, _, _, hconfig⟩ :=
    (normalize_forecast_cases h.forecast).resolve_left fun hnull => hforecast hnull.1
  exact
    { keys := by
        have hkeys : normal.spec.map Prod.fst = ALLOWED_KEYS := rfl
        exact fun item hitem => hkeys ▸ List.mem_map_of_mem hitem
      family := rfl
      family_allowed := h.family_allowed
      variant_id := rfl
      variant_named := h.variant_named
      features := normalize_text_list (h.features ▸ normalNames_normalize _)
      features_some := h.features_some
      features_allowed := h.features_allowed
      schema := normalize_normal_schema (normalEntries_parameter_schema h.schema)
      schema_some := h.schema_some
      hooks := normalize_text_list (h.hooks ▸ normalNames_normalize _)
      hooks_allowed := h.hooks_allowed
      policy := normalize_normal_policy hpolicy
      policy_checked := h.policy_checked
      struct := hread
      struct_checked := (structure_reasons_congr (is_present_iff.mpr hstructure)).symm.trans
        h.struct_checked
      forecast := normalize_forecast_entry hconfig
      forecast_some := h.forecast_some
      forecast_contract := fun _ => h.forecast_contract (is_present_iff.mpr hforecast) }

/-- **Normalising an accepted specification again gives the same exactly where both
optional sections are present.** -/
theorem normalization_idempotent_iff (runtime : DslRuntime F) (spec : JsonValue F)
    {validation : BoundedStrategyValidation F}
    (h : validate_bounded_strategy_spec runtime spec = .ok validation)
    (hpassed : validation.passed = true) :
    ∃ fields, spec = .dict fields ∧
      ((∃ again, validate_bounded_strategy_spec runtime (.dict validation.normalized_spec)
            = .ok again ∧ again.passed = true ∧
          again.normalized_spec = validation.normalized_spec ∧
          again.identity_hash = validation.identity_hash) ↔
        JsonObject.get fields "structure" ≠ .null ∧
          JsonObject.get fields "forecast_feature_config" ≠ .null) := by
  cases spec with
  | dict fields =>
      refine ⟨fields, rfl, ?_⟩
      obtain ⟨normal, haccepts, rfl⟩ := accepts_of_passed h hpassed
      constructor
      · rintro ⟨again, hagain, hpassed', -, -⟩
        obtain ⟨normal', haccepts', -⟩ := accepts_of_passed hagain hpassed'
        constructor
        · intro habsent
          refine structure_reasons_of_absent haccepts habsent ?_
          have hchecked := haccepts'.struct_checked
          rwa [← haccepts'.struct] at hchecked
        · exact fun habsent => forecast_issues_of_absent haccepts habsent _ haccepts'.forecast
      · rintro ⟨hstructure, hforecast⟩
        exact ⟨accepted runtime normal,
          passed_of_accepts (haccepts.spec hstructure hforecast), rfl, rfl, rfl⟩
  | _ =>
      cases h
      cases hpassed

end Accepted

/-! ## One specification, with and without a forecast configuration -/

/-- Exact numbers, and the digests of the two specifications below. -/
def plain_runtime : DslRuntime ℚ where
  toPyTexts := plain_texts
  float_of_int := fun n => .ok n
  gt := fun x y => decide (y < x)
  not_positive := fun x => decide (x ≤ 0)
  int_of_float := fun x => .ok (some (truncate x))
  identity_digest := fun spec =>
    match JsonObject.get spec "forecast_feature_config" with
    | .dict [] => "7e0f8164f6444602986949a33069dba3bac730ee095d72e6f41372c6738cb312"
    | _ => "40fac927c2a71d2f083a7866a89ffedf525559eea6762b15d563b8eae309d24a"

/-- A specification with the given contracts and forecast configuration. -/
def plain_spec (feature_contracts : List String) (forecast : JsonValue ℚ) : JsonObject ℚ :=
  [("family", .str "momentum"), ("variant_id", .str "v1"),
    ("feature_contracts", text_list feature_contracts),
    ("parameter_schema",
      .dict [("lookback", .dict [("minimum", .int 24), ("maximum", .int 72), ("step", .int 12)])]),
    ("risk_hooks", text_list ["max_drawdown"]),
    ("execution_policy",
      .dict [("venue", .str "binance"), ("signal_tf", .str "1h"), ("execution_tf", .str "15m")]),
    ("structure", .dict [("backbone", .str "mom_squeeze")]),
    ("forecast_feature_config", forecast)]

/-- Its normal sections. -/
def plain_normal (feature_contracts : List String) (forecast : JsonObject ℚ) : NormalSections ℚ where
  family := "momentum"
  variant_id := "v1"
  feature_contracts := feature_contracts
  parameter_schema := [("lookback", parameter_bounds 24 72 12)]
  risk_hooks := ["max_drawdown"]
  execution_policy := [("execution_tf", .str "15m"), ("signal_tf", .str "1h"),
    ("venue", .str "binance")]
  struct := structure_entry "mom_squeeze" fun _ => []
  forecast_feature_config := forecast

def plain_forecast : JsonObject ℚ :=
  forecast_feature_entry "sha256:timesfm" 512 ["timesfm_skew"] 2 "timesfm-2.5"

theorem plain_accepts {feature_contracts : List String} (hnames : NormalNames feature_contracts)
    (hsome : feature_contracts ≠ [])
    (hallowed : ∀ name ∈ feature_contracts, name ∈ ALLOWED_FEATURE_CONTRACTS)
    {forecast : JsonValue ℚ} {entries : JsonObject ℚ}
    (hforecast : normalize_forecast_feature_config plain_runtime forecast = .ok (entries, []))
    (hentries : "forecast_feature" ∈ feature_contracts → entries ≠ [])
    (hcontract : is_present forecast = true → "forecast_feature" ∈ feature_contracts) :
    Accepts plain_runtime (plain_spec feature_contracts forecast)
      (plain_normal feature_contracts entries) := by
  have hkeys : (plain_spec feature_contracts forecast).map Prod.fst = ALLOWED_KEYS := rfl
  exact
    { keys := fun item hitem => hkeys ▸ List.mem_map_of_mem hitem
      family := rfl
      family_allowed := (by decide : "momentum" ∈ ALLOWED_FAMILIES)
      variant_id := rfl
      variant_named := (by decide : pyStrip "v1" ≠ "")
      features := normalize_text_list hnames
      features_some := hsome
      features_allowed := hallowed
      schema := rfl
      schema_some := List.cons_ne_nil _ _
      hooks := normalize_text_list ⟨List.pairwise_singleton _ _, by decide⟩
      hooks_allowed := (by decide : ∀ name ∈ ["max_drawdown"], name ∈ ALLOWED_RISK_HOOKS)
      policy := rfl
      policy_checked := rfl
      struct := rfl
      struct_checked := rfl
      forecast := hforecast
      forecast_some := hentries
      forecast_contract := hcontract }

theorem plain_forecast_accepted :
    Accepts plain_runtime (plain_spec ["forecast_feature", "ohlcv"] (.dict plain_forecast))
      (plain_normal ["forecast_feature", "ohlcv"] plain_forecast) := by
  have hentry : IsForecastEntry plain_forecast "sha256:timesfm" 512 ["timesfm_skew"] 2
      "timesfm-2.5" :=
    ⟨rfl, by decide, by decide, ⟨List.pairwise_singleton _ _, by decide⟩, by decide, by decide,
      by decide, by decide⟩
  exact plain_accepts ⟨by decide, by decide⟩ (by decide) (by decide)
    (normalize_forecast_entry hentry) (fun _ => List.cons_ne_nil _ _) (fun _ => List.mem_cons_self)

theorem normalization_idempotent_iff_forecast :
    ∃ fields, JsonValue.dict (plain_spec ["forecast_feature", "ohlcv"] (.dict plain_forecast))
        = .dict fields ∧
      ((∃ again, validate_bounded_strategy_spec plain_runtime (.dict
            (plain_normal ["forecast_feature", "ohlcv"] plain_forecast).spec) = .ok again ∧
          again.passed = true ∧
          again.normalized_spec
            = (plain_normal ["forecast_feature", "ohlcv"] plain_forecast).spec ∧
          again.identity_hash = some (plain_runtime.identity_digest
            (plain_normal ["forecast_feature", "ohlcv"] plain_forecast).spec)) ↔
        JsonObject.get fields "structure" ≠ .null ∧
          JsonObject.get fields "forecast_feature_config" ≠ .null) :=
  normalization_idempotent_iff plain_runtime _ (passed_of_accepts plain_forecast_accepted) rfl

/-- Without a forecast configuration a specification is accepted and its normal form is not. -/
theorem normal_form_rejected :
    ∃ validation, validate_bounded_strategy_spec plain_runtime (.dict (plain_spec ["ohlcv"] .null))
        = .ok validation ∧ validation.passed = true ∧
      ¬ ∃ again, validate_bounded_strategy_spec plain_runtime (.dict validation.normalized_spec)
        = .ok again ∧ again.passed = true := by
  have haccepts : Accepts plain_runtime (plain_spec ["ohlcv"] .null) (plain_normal ["ohlcv"] []) :=
    plain_accepts ⟨List.pairwise_singleton _ _, by decide⟩ (by decide) (by decide) rfl (by decide)
      (by decide)
  refine ⟨_, passed_of_accepts haccepts, rfl, ?_⟩
  rintro ⟨again, hagain, hpassed⟩
  obtain ⟨normal, haccepts', -⟩ := accepts_of_passed hagain hpassed
  exact forecast_issues_of_absent haccepts rfl _ haccepts'.forecast

end ProofAlpha.Strategy
