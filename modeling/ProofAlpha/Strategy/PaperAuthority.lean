/-
On what evidence an artifact may trade on paper.

An artifact says several times whether its evidence passes: in its gate details,
in the sections of the artifact, in those of the promotion manifest and in the
manifest's flag `paper_eligibility`. `validate_promotion_manifest` recomputes the
manifest and compares hashes, gate results and risk limits with it, but it takes
the flag as it stands. So authority rests on the evidence exactly where the flag
is the one that the recomputed manifest has, the manifest's own sections give the
same flag, and no failing gate is left out of the gate results.
-/
import ProofAlpha.Strategy.ArtifactIntegrity

set_option autoImplicit false

namespace ProofAlpha.Strategy

open ProofAlpha.Lib

/-! ## Results that pass -/

/-- Every recorded result passes. -/
def AllPass (results : Dict String Bool) : Prop :=
  ∀ name passed, results.lookup name = some passed → passed = true

theorem all_pass_iff {results : Dict String Bool} : all_pass results = true ↔ AllPass results := by
  unfold all_pass AllPass Dict.values
  simp only [List.all_map, List.all_eq_true, Function.comp_apply, id_eq]
  constructor
  · intro h name passed hlookup
    exact h ⟨name, passed⟩ (AList.mem_lookup_iff.mp hlookup)
  · rintro h ⟨name, passed⟩ hentry
    exact h name passed (AList.mem_lookup_iff.mpr hentry)

theorem allPass_empty : AllPass ∅ := by
  intro name passed h
  simp at h

theorem AllPass.insert {results : Dict String Bool} (h : AllPass results) (name : String) :
    AllPass (results.insert name true) := by
  intro other passed hlookup
  by_cases hother : other = name
  · subst hother
    rw [AList.lookup_insert] at hlookup
    exact (Option.some.inj hlookup).symm
  · rw [AList.lookup_insert_ne hother] at hlookup
    exact h other passed hlookup

/-- Without entries there is nothing that fails. -/
theorem empty_or_all_pass {results : Dict String Bool} :
    (results.entries.isEmpty || all_pass results) = true ↔ AllPass results := by
  rw [Bool.or_eq_true, all_pass_iff]
  refine ⟨fun h => h.elim (fun hempty => ?_) id, Or.inr⟩
  have hresults : results = ∅ := AList.ext (List.isEmpty_iff.mp hempty)
  rw [hresults]
  exact allPass_empty

section Evidence

variable {K : Type} [Field K] [DecidableEq K]

/-- The check of a section that may leave its result out. -/
def CheckPasses (result : JsonObject K) : Prop :=
  is_true (JsonObject.get_or result "passed" (.bool true)) = true

omit [Field K] [DecidableEq K] in
/-- What makes evidence eligible. -/
theorem paper_eligibility_iff {gate_results scenario_results regime_results : Dict String Bool}
    {capacity_result turnover_result : JsonObject K} :
    paper_eligibility gate_results scenario_results regime_results capacity_result
        turnover_result = true
      ↔ gate_results.entries.isEmpty = false ∧ AllPass gate_results ∧ AllPass scenario_results
        ∧ AllPass regime_results ∧ CheckPasses capacity_result ∧ CheckPasses turnover_result := by
  unfold paper_eligibility CheckPasses
  rw [Bool.and_eq_true, Bool.and_eq_true, Bool.and_eq_true, Bool.and_eq_true, Bool.and_eq_true,
    empty_or_all_pass, empty_or_all_pass, all_pass_iff, Bool.not_eq_true']
  tauto

/-- The sections in which an artifact, or a manifest, records its results. -/
structure SectionsPass (payload : JsonObject K) : Prop where
  gate_results : AllPass (bool_dict (JsonObject.get payload "gate_results"))
  scenario_results : AllPass (bool_dict (JsonObject.get payload "scenario_results"))
  regime_results : AllPass (bool_dict (JsonObject.get payload "regime_results"))
  capacity_result : CheckPasses (json_object (JsonObject.get payload "capacity_result"))
  turnover_result : CheckPasses (json_object (JsonObject.get payload "turnover_result"))

/-- The results among the gate details of an artifact. -/
def gate_details (artifact : JsonObject K) : List (JsonObject K) :=
  match JsonObject.get_or artifact "validation_gate_details" (.list []) with
  | .list items => items.filterMap fun
      | .dict item => some item
      | _ => none
  | _ => []

/-- `bool(item.get("passed", False))`. -/
def detail_passed (item : JsonObject K) : Bool :=
  truthy (JsonObject.get_or item "passed" (.bool false))

/-- Everything that an artifact records passes. -/
structure EvidencePasses (artifact : JsonObject K) : Prop where
  details : ∀ item ∈ gate_details artifact, detail_passed item = true
  artifact_sections : SectionsPass artifact
  manifest_sections : SectionsPass (json_object (JsonObject.get artifact "promotion_manifest"))

/-- Every gate that fails, in the details or in the section of the artifact, is a
failing one of the gate results. -/
structure FailuresRecorded (artifact : JsonObject K) (gate_results : Dict String Bool) :
    Prop where
  details : ∀ item ∈ gate_details artifact, detail_passed item = false →
    ∃ name, JsonObject.get item "name" = .str name ∧ gate_results.lookup name = some false
  artifact_section : ∀ name,
    (bool_dict (JsonObject.get artifact "gate_results")).lookup name = some false →
      gate_results.lookup name = some false

/-- Gate details that all pass give gate results that all pass, item by item. -/
theorem allPass_gate_results_from_details {items : List (JsonValue K)}
    (h : ∀ item, JsonValue.dict item ∈ items → detail_passed item = true) :
    AllPass (gate_results_from_details (.list items)) := by
  have hfold : ∀ results : Dict String Bool, AllPass results →
      AllPass (items.foldl record_gate results) := by
    induction items with
    | nil => exact fun results hresults => hresults
    | cons value items ih =>
        intro results hresults
        rw [List.foldl_cons]
        refine ih (fun item hitem => h item (List.mem_cons_of_mem _ hitem)) _ ?_
        unfold record_gate
        split
        · next item =>
            have hpassed : detail_passed item = true := h item (List.mem_cons_self ..)
            unfold detail_passed at hpassed
            split
            · split_ifs with hname
              · exact hresults
              · rw [hpassed]
                exact hresults.insert _
            · exact hresults
        · exact hresults
  exact hfold ∅ allPass_empty

/-- Gate results of passing evidence all pass. -/
theorem allPass_gate_results_of {artifact : JsonObject K} {gate_results : Dict String Bool}
    (hresults : gate_results_of artifact = some gate_results)
    (hstatus : status_passed (JsonObject.get artifact "validation_status") = some true)
    (hdetails : ∀ item ∈ gate_details artifact, detail_passed item = true)
    (hsection : AllPass (bool_dict (JsonObject.get artifact "gate_results"))) :
    AllPass gate_results := by
  unfold gate_results_of at hresults
  dsimp only at hresults
  split_ifs at hresults with hfrom_details hfrom_section
  · rw [← Option.some.inj hresults]
    unfold gate_details at hdetails
    cases hvalue : JsonObject.get_or artifact "validation_gate_details" (.list []) with
    | list items =>
        rw [hvalue] at hdetails
        refine allPass_gate_results_from_details fun item hitem => hdetails item ?_
        exact List.mem_filterMap.mpr ⟨_, hitem, rfl⟩
    | _ => exact allPass_empty
  · rw [← Option.some.inj hresults]
    exact hsection
  · rw [hstatus, Option.map_some] at hresults
    rw [← Option.some.inj hresults]
    exact allPass_empty.insert _

/-- There is always a gate result. -/
theorem gate_results_of_nonempty {artifact : JsonObject K} {gate_results : Dict String Bool}
    (hresults : gate_results_of artifact = some gate_results) :
    gate_results.entries.isEmpty = false := by
  unfold gate_results_of at hresults
  dsimp only at hresults
  split_ifs at hresults with hfrom_details hfrom_section
  · rw [← Option.some.inj hresults, ← Bool.not_eq_true']
    exact hfrom_details
  · rw [← Option.some.inj hresults, ← Bool.not_eq_true']
    exact hfrom_section
  · obtain ⟨passed, -, rfl⟩ := Option.map_eq_some_iff.mp hresults
    rfl

end Evidence

/-! ## The flag against the evidence -/

section Authority

variable {K T : Type} [Field K] [DecidableEq K] [LinearOrder T] (env : ArtifactEnv K T)

/-- The flag of the manifest is the one that the recomputed manifest has and the
one that the manifest's own sections give, and no failing gate is left out. -/
def FlagMatchesEvidence (artifact : JsonObject K) (manifest : PromotionManifest K) : Prop :=
  ∃ expected, build_promotion_manifest env artifact (some manifest.expiry_time_utc) = some expected
    ∧ manifest.paper_eligibility = expected.paper_eligibility
    ∧ manifest.paper_eligibility = paper_eligibility manifest.gate_results
      manifest.scenario_results manifest.regime_results manifest.capacity_result
      manifest.turnover_result
    ∧ FailuresRecorded artifact expected.gate_results

/-- What an accepted manifest says. -/
structure ManifestAccepted (artifact : JsonObject K) (manifest expected : PromotionManifest K) :
    Prop where
  read : from_dict env (JsonObject.get artifact "promotion_manifest") = .ok manifest
  recomputed : build_promotion_manifest env artifact (some manifest.expiry_time_utc) = some expected
  eligible : manifest.paper_eligibility = true
  gate_results : ∀ name, manifest.gate_results.lookup name = expected.gate_results.lookup name
  status : status_passed (JsonObject.get artifact "validation_status") = some true

omit [Field K] [DecidableEq K] [LinearOrder T] in
/-- Dicts of results that do not differ have the same entries. -/
theorem lookup_eq_of_results_differ {left right : Dict String Bool}
    (h : results_differ left right = false) (name : String) :
    left.lookup name = right.lookup name := by
  have hitems : Dict.sorted_items left = Dict.sorted_items right := by
    unfold results_differ at h
    simpa using h
  apply Option.ext
  intro passed
  rw [← Dict.mem_sorted_items, hitems, Dict.mem_sorted_items]

/-- A manifest without a reason against it. -/
theorem manifest_reasons_eq_nil {clock : T} {artifact : JsonObject K}
    {manifest expected : PromotionManifest K} {now_utc : Option String}
    (h : manifest_reasons env clock artifact manifest expected now_utc = []) :
    manifest.paper_eligibility = true
      ∧ ∀ name, manifest.gate_results.lookup name = expected.gate_results.lookup name := by
  unfold manifest_reasons at h
  simp only [List.append_eq_nil_iff, reason_if_eq_nil, Bool.not_eq_false'] at h
  obtain ⟨⟨⟨⟨-, hgates⟩, -⟩, heligible⟩, -⟩ := h
  exact ⟨heligible, lookup_eq_of_results_differ hgates⟩

theorem sorted_set_eq_nil {reasons : List String} (h : sorted_set reasons = []) : reasons = [] := by
  rw [List.eq_nil_iff_forall_not_mem]
  intro reason hreason
  rw [← mem_sorted_set, h] at hreason
  exact List.not_mem_nil hreason

/-- An accepted artifact has an accepted manifest. -/
theorem manifest_accepted {clock : T} {artifact : JsonObject K}
    (hfields : FieldsAccepted env clock artifact) :
    ∃ manifest expected, ManifestAccepted env artifact manifest expected := by
  have hreasons := hfields.2
  unfold field_reasons at hreasons
  obtain ⟨status_ok, hstatus, hreasons⟩ := Option.bind_eq_some_iff.mp hreasons
  obtain ⟨validation, hvalidation, hnil⟩ := Option.map_eq_some_iff.mp hreasons
  simp only [List.append_eq_nil_iff, reason_if_eq_nil, Bool.not_eq_false'] at hnil
  obtain ⟨⟨⟨⟨⟨⟨-, happroved⟩, hok⟩, hmanifest⟩, -⟩, -⟩, -⟩ := hnil
  rw [if_pos happroved] at hvalidation
  unfold validate_promotion_manifest at hvalidation
  split at hvalidation
  · split at hvalidation
    · rw [← Option.some.inj hvalidation] at hmanifest
      exact absurd hmanifest (List.cons_ne_nil _ _)
    · next manifest hread =>
        obtain ⟨expected, hexpected, rfl⟩ := Option.map_eq_some_iff.mp hvalidation
        obtain ⟨heligible, hgates⟩ := manifest_reasons_eq_nil env (sorted_set_eq_nil hmanifest)
        exact ⟨manifest, expected, hread, hexpected, heligible, hgates, hok ▸ hstatus⟩
  · rw [← Option.some.inj hvalidation] at hmanifest
    exact absurd hmanifest (List.cons_ne_nil _ _)

omit [LinearOrder T] in
/-- The sections of a manifest are those it is read with. -/
theorem sectionsPass_iff {value : JsonValue K} {manifest : PromotionManifest K}
    (h : from_dict env value = .ok manifest) :
    SectionsPass (json_object value) ↔ AllPass manifest.gate_results
      ∧ AllPass manifest.scenario_results ∧ AllPass manifest.regime_results
      ∧ CheckPasses manifest.capacity_result ∧ CheckPasses manifest.turnover_result := by
  unfold from_dict at h
  split at h
  · next payload =>
      rw [← Except.ok.inj h]
      exact ⟨fun hpass => ⟨hpass.1, hpass.2, hpass.3, hpass.4, hpass.5⟩,
        fun ⟨hgate, hscenario, hregime, hcapacity, hturnover⟩ =>
          ⟨hgate, hscenario, hregime, hcapacity, hturnover⟩⟩
  · exact absurd h (by simp)

/-- Dicts with the same entries are empty together. -/
theorem isEmpty_of_lookup_eq {left right : Dict String Bool}
    (h : ∀ name, left.lookup name = right.lookup name) (hright : right.entries.isEmpty = false) :
    left.entries.isEmpty = false := by
  rw [← Bool.not_eq_true, List.isEmpty_iff] at hright ⊢
  intro hleft
  apply hright
  rw [List.eq_nil_iff_forall_not_mem]
  rintro ⟨name, passed⟩ hentry
  have hlookup := AList.mem_lookup_iff.mpr hentry
  rw [← h name, show left = ∅ from AList.ext hleft, AList.lookup_empty] at hlookup
  exact absurd hlookup (by simp)

omit [LinearOrder T] in
/-- On an accepted manifest the evidence passes exactly where the flag matches it. -/
theorem evidencePasses_iff {artifact : JsonObject K} {manifest expected : PromotionManifest K}
    (h : ManifestAccepted env artifact manifest expected) :
    EvidencePasses artifact ↔ FlagMatchesEvidence env artifact manifest := by
  obtain ⟨gate_results, hgates, hexpected⟩ := Option.map_eq_some_iff.mp h.recomputed
  have hgate_results : expected.gate_results = gate_results := by rw [← hexpected]
  have hflag : expected.paper_eligibility = true ↔ AllPass gate_results
      ∧ AllPass (bool_dict (JsonObject.get artifact "scenario_results"))
      ∧ AllPass (bool_dict (JsonObject.get artifact "regime_results"))
      ∧ CheckPasses (json_object (JsonObject.get artifact "capacity_result"))
      ∧ CheckPasses (json_object (JsonObject.get artifact "turnover_result")) := by
    rw [← hexpected, paper_eligibility_iff]
    simp only [gate_results_of_nonempty hgates, true_and]
  have hnonempty : manifest.gate_results.entries.isEmpty = false := by
    apply isEmpty_of_lookup_eq h.gate_results
    rw [hgate_results]
    exact gate_results_of_nonempty hgates
  have hsame : AllPass manifest.gate_results ↔ AllPass gate_results := by
    unfold AllPass
    simp only [h.gate_results, hgate_results]
  constructor
  · -- passing evidence leaves no failing gate and makes every flag true
    rintro ⟨hdetails, hartifact, hmanifest⟩
    have hall : AllPass gate_results :=
      allPass_gate_results_of hgates h.status hdetails hartifact.gate_results
    refine ⟨expected, h.recomputed, ?_, ?_, ⟨fun item hitem hfail => ?_, fun name hfail => ?_⟩⟩
    · rw [h.eligible, eq_comm, hflag]
      exact ⟨hall, hartifact.2, hartifact.3, hartifact.4, hartifact.5⟩
    · rw [h.eligible, eq_comm, paper_eligibility_iff]
      exact ⟨hnonempty, (sectionsPass_iff env h.read).mp hmanifest⟩
    · rw [hdetails item hitem] at hfail
      exact absurd hfail (by decide)
    · exact absurd (hartifact.gate_results name false hfail) (by decide)
  · rintro ⟨expected', hrecomputed, hartifact, hmanifest, hrecorded⟩
    rw [h.recomputed] at hrecomputed
    obtain rfl := Option.some.inj hrecomputed
    rw [h.eligible, eq_comm, hflag] at hartifact
    rw [h.eligible, eq_comm, paper_eligibility_iff] at hmanifest
    rw [hgate_results] at hrecorded
    obtain ⟨hall, hscenario, hregime, hcapacity, hturnover⟩ := hartifact
    refine ⟨fun item hitem => ?_, ⟨fun name passed hlookup => ?_, hscenario, hregime, hcapacity,
      hturnover⟩, (sectionsPass_iff env h.read).mpr hmanifest.2⟩
    · -- a failing gate would be one of the gate results
      by_contra hfail
      obtain ⟨name, -, hname⟩ := hrecorded.details item hitem (Bool.not_eq_true _ ▸ hfail)
      exact absurd (hall name false hname) (by decide)
    · by_contra hfail
      rw [Bool.not_eq_true] at hfail
      subst hfail
      exact absurd (hall name false (hrecorded.artifact_section name hlookup)) (by decide)

/-- Authority is granted on passing evidence only. -/
def GrantedOnEvidence (clock later : T) (artifact : JsonObject K) (now_utc : Option String)
    (reduce_only : Bool) : Prop :=
  ∀ decision, paper_authority_decision env clock later artifact now_utc reduce_only
      = some (.ok decision) → decision.allowed = true → EvidencePasses artifact

/-- The decision on an accepted artifact: it is refused once the manifest has
expired, unless only reductions are asked for. -/
theorem paper_authority_decision_accepted {clock : T} (later : T) {artifact : JsonObject K}
    {manifest : PromotionManifest K} (now_utc : Option String) (reduce_only : Bool)
    (haccepted : Accepted env clock artifact)
    (hread : from_dict env (JsonObject.get artifact "promotion_manifest") = .ok manifest) :
    ∃ decision, paper_authority_decision env clock later artifact now_utc reduce_only
        = some (.ok decision)
      ∧ (decision.allowed = true
        ↔ is_expired env later manifest.expiry_time_utc now_utc = false ∨ reduce_only = true) := by
  obtain ⟨validation, hvalidation, hpassed⟩ := haccepted
  unfold paper_authority_decision
  rw [hvalidation, Option.map_some, hpassed, Bool.not_true, if_neg Bool.false_ne_true, hread]
  simp only [bind, Except.bind, pure, Except.pure]
  by_cases hexpired : is_expired env later manifest.expiry_time_utc now_utc = true
  · by_cases hreduce : reduce_only = true
    · rw [if_pos hexpired, if_pos hreduce]
      exact ⟨_, rfl, by simp [hreduce]⟩
    · rw [if_pos hexpired, if_neg hreduce]
      exact ⟨_, rfl, by simp [hexpired, hreduce]⟩
  · rw [if_neg hexpired]
    exact ⟨_, rfl, by simp [hexpired]⟩

/-- On every accepted artifact, at every time and for every request: authority is
granted on passing evidence only, exactly when the manifest has expired and more
than a reduction is asked for, or the flag of the manifest matches the evidence. -/
theorem paper_authority_evidence_iff (clock later : T) (artifact : JsonObject K)
    (now_utc : Option String) (reduce_only : Bool) (haccepted : Accepted env clock artifact) :
    GrantedOnEvidence env clock later artifact now_utc reduce_only
      ↔ ∃ manifest, from_dict env (JsonObject.get artifact "promotion_manifest") = .ok manifest
        ∧ (is_expired env later manifest.expiry_time_utc now_utc = true ∧ reduce_only = false
          ∨ FlagMatchesEvidence env artifact manifest) := by
  obtain ⟨manifest, expected, hmanifest⟩ :=
    manifest_accepted env ((accepted_iff env clock artifact).mp haccepted).1
  obtain ⟨decision, hdecision, hallowed⟩ := paper_authority_decision_accepted env
    later now_utc reduce_only haccepted hmanifest.read
  have hgranted : GrantedOnEvidence env clock later artifact now_utc reduce_only
      ↔ (decision.allowed = true → EvidencePasses artifact) := by
    unfold GrantedOnEvidence
    rw [hdecision]
    constructor
    · exact fun h => h decision rfl
    · rintro h decision' heq
      rw [← Except.ok.inj (Option.some.inj heq)]
      exact h
  rw [hgranted, hallowed, evidencePasses_iff env hmanifest]
  constructor
  · intro h
    refine ⟨manifest, hmanifest.read, ?_⟩
    by_cases hrefused : is_expired env later manifest.expiry_time_utc now_utc = true
        ∧ reduce_only = false
    · exact Or.inl hrefused
    · refine Or.inr (h ?_)
      rw [not_and_or, Bool.not_eq_true, Bool.not_eq_false] at hrefused
      exact hrefused
  · rintro ⟨manifest', hread, hcondition⟩ hallow
    rw [hmanifest.read] at hread
    rw [← Except.ok.inj hread] at hcondition
    rcases hcondition with ⟨hexpired, hreduce⟩ | hmatches
    · rcases hallow with hfresh | hreduce'
      · rw [hexpired] at hfresh
        exact absurd hfresh (by decide)
      · rw [hreduce] at hreduce'
        exact absurd hreduce' (by decide)
    · exact hmatches

end Authority

/-! ### A failing gate -/

/-- An artifact with a failing gate whose manifest is said to be eligible. -/
def failing_artifact : JsonObject ℚ :=
  let artifact := (build_strategy_artifact plain_env (plain_payload false)).getD []
  let manifest := json_object (JsonObject.get artifact "promotion_manifest")
  stamp_artifact plain_env (set_field artifact "promotion_manifest"
    (.dict (set_field manifest "paper_eligibility" (.bool true))))

theorem accepted_failing_artifact : Accepted plain_env plain_clock failing_artifact := by
  rw [accepted_iff]
  refine ⟨⟨is_text_iff.mp (by decide +kernel), by decide +kernel⟩, Or.inr ?_⟩
  exact hash_text_of_str plain_env (artifact_sha256_stamp_artifact plain_env _)

/-- The artifact whose evidence passes. -/
theorem paper_authority_evidence_passing :
    GrantedOnEvidence plain_env plain_clock plain_clock plain_artifact none false
      ↔ ∃ manifest, from_dict plain_env (JsonObject.get plain_artifact "promotion_manifest")
          = .ok manifest
        ∧ (is_expired plain_env plain_clock manifest.expiry_time_utc none = true ∧ false = false
          ∨ FlagMatchesEvidence plain_env plain_artifact manifest) :=
  paper_authority_evidence_iff plain_env plain_clock plain_clock plain_artifact none false
    accepted_plain_artifact

/-- An artifact with the right hash and a failing gate is accepted and granted
authority. -/
theorem failing_gate_granted :
    Accepted plain_env plain_clock failing_artifact
      ∧ JsonObject.get failing_artifact "artifact_sha256"
        = .str (artifact_hash plain_env (other_fields failing_artifact))
      ∧ ¬ GrantedOnEvidence plain_env plain_clock plain_clock failing_artifact none false := by
  refine ⟨accepted_failing_artifact, artifact_sha256_stamp_artifact plain_env _, fun hgranted => ?_⟩
  obtain ⟨manifest, expected, hmanifest⟩ :=
    manifest_accepted plain_env ((accepted_iff _ _ _).mp accepted_failing_artifact).1
  have hfresh : (match from_dict plain_env
      (JsonObject.get failing_artifact "promotion_manifest") with
      | .ok manifest => is_expired plain_env plain_clock manifest.expiry_time_utc none
      | .error _ => true) = false := by decide +kernel
  rw [hmanifest.read] at hfresh
  obtain ⟨decision, hdecision, hallowed⟩ := paper_authority_decision_accepted plain_env
    plain_clock none false accepted_failing_artifact hmanifest.read
  have hevidence := hgranted decision hdecision (hallowed.mpr (Or.inl hfresh))
  have hfails : (gate_details failing_artifact).all detail_passed = false := by decide +kernel
  obtain ⟨item, hitem, hfail⟩ := List.all_eq_false.mp hfails
  exact hfail (hevidence.details item hitem)

end ProofAlpha.Strategy
