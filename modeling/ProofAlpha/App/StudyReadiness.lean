/-
The two readiness reports of a study: `app/data_sufficiency.py` and `app/loop_readiness.py`.

A report lists what speaks against a study, and its verdicts say which of the lists are empty.
The reports look at the same study with checks of their own; `readiness_ladder` says how the
verdicts follow from each other.
-/
import ProofAlpha.Config.Models
import ProofAlpha.Data.Snapshots
import ProofAlpha.Lib.Checks
import ProofAlpha.Lib.FirstBy

set_option autoImplicit false

namespace ProofAlpha.App

open ProofAlpha.Lib
open ProofAlpha.Data (DataSnapshot SnapshotQualityReport)

/-! ## The study -/

/-- What the reports read of a `StudyConfig`. -/
structure LoopStudy (K : Type) where
  run_id : String
  runtime_mode : String
  snapshot : DataSnapshot K
  incumbent : Config.StrategyGraph K
  directional_layers : List (Config.LayerSpec K) := []
  known_good_filters : List (Config.LayerSpec K) := []
  custom_filters : List (Config.LayerSpec K) := []
  exit_layers : List (Config.LayerSpec K) := []

/-- `text.startswith(start)`. -/
def starts_with (start text : String) : Bool := start.toList.isPrefixOf text.toList

/-- `part in text`. -/
def contains_text (part text : String) : Bool := part.toList <:+: text.toList

/-- `_quality_report_issues` of either module. -/
def quality_report_issues {K : Type} (quality_report : Option (SnapshotQualityReport K)) :
    List String :=
  (quality_report.map SnapshotQualityReport.issues).getD []

/-! ## Liquidation features -/

/-- The test of a text that `_object_mentions_liquidation` and `_nested_value_mentions_liquidation`
share. -/
def text_mentions_liquidation (value : String) : Bool :=
  let lowered := pyLower value
  contains_text "liquidation" lowered || contains_text "liq_" lowered || starts_with "liq" lowered

section Mentions

variable {K : Type}

mutual

/-- `_nested_value_mentions_liquidation`. -/
def nested_value_mentions_liquidation : JsonValue K → Bool
  | .str value => text_mentions_liquidation value
  | .list items => items_mention_liquidation items
  | .dict fields => fields_mention_liquidation fields
  | _ => false

def items_mention_liquidation : List (JsonValue K) → Bool
  | [] => false
  | value :: items => nested_value_mentions_liquidation value || items_mention_liquidation items

def fields_mention_liquidation : List (String × JsonValue K) → Bool
  | [] => false
  | (key, value) :: fields =>
      text_mentions_liquidation key || nested_value_mentions_liquidation value
        || fields_mention_liquidation fields

end

/-- `_object_mentions_liquidation` of a layer. -/
def layer_mentions_liquidation (layer : Config.LayerSpec K) : Bool :=
  text_mentions_liquidation layer.name
    || nested_value_mentions_liquidation (.dict layer.eligibility_rules)

/-- `_study_uses_liquidation_features`. -/
def study_uses_liquidation_features (study : LoopStudy K) : Bool :=
  text_mentions_liquidation study.incumbent.backbone
    || (study.incumbent.layers ++ study.incumbent.risk_guards ++ study.directional_layers
        ++ study.known_good_filters ++ study.custom_filters ++ study.exit_layers).any
          layer_mentions_liquidation

end Mentions

/-! ## Data sufficiency -/

def STRICT_V3_MIN_BARS : List (String × ℤ) := [("1Hour", 13140), ("15Min", 52560)]

def STRICT_V3_SYMBOLS : List String := ["BTCUSDT", "ETHUSDT"]

def PUBLIC_ONLY_ALLOWED_PROVIDERS : List String :=
  ["binance_perps", "binance_public_archive", "binance_public_ws_rest_bundle"]

def MIN_RUN_READY_CANDLES : ℤ := 5

def OBSERVED_LIQUIDATION_CONFIDENCE : String := "observed_public_forceorder_with_zero_buckets"

/-- `str(value)` of a float, a list or a dict, with the texts of those that are false. -/
structure CompositeText (K : Type) [Zero K] where
  text : JsonValue K → String
  zero : text (.float 0) = "0.0"
  empty_list : text (.list []) = "[]"
  empty_dict : text (.dict []) = "\x7b\x7d"

variable {K : Type} [Field K] [LinearOrder K] (composite : CompositeText K)

/-- The two collection tests read a status against a set, which raises for a list or a dict. -/
def status_in (statuses : List String) : JsonValue K → Except String Bool
  | .str status => .ok (decide (status ∈ statuses))
  | .list _ => .error "unhashable type: 'list'"
  | .dict _ => .error "unhashable type: 'dict'"
  | _ => .ok false

/-- What one key of the provenance says about paper evidence. -/
def paper_evidence_at (value : JsonValue K) : Except String Bool :=
  match value with
  | .dict fields => do
      let completed ← if truthy (JsonObject.get fields "completed") then pure true
        else status_in ["completed", "healthy"] (JsonObject.get fields "status")
      return completed || truthy (JsonObject.get fields "order_count")
  | value => .ok (truthy value)

/-- `_has_paper_evidence`: the keys in order, until one has evidence. -/
def has_paper_evidence (provenance : JsonObject K) : List String → Except String Bool
  | [] => .ok false
  | key :: keys => do
      if ← paper_evidence_at (provenance.get key) then return true
      has_paper_evidence provenance keys

/-- The keys that `_has_paper_evidence` looks at. -/
def PAPER_EVIDENCE_KEYS : List String :=
  ["paper_evidence", "paper_feedback", "paper_dashboard", "paper_postrun_summary"]

/-- `field_confidence["liquidation_notional"]` as a text. -/
def liquidation_confidence (provenance : JsonObject K) : String :=
  match provenance.get "field_confidence" with
  | .dict field_confidence =>
      text_or composite.text (JsonObject.get field_confidence "liquidation_notional") ""
  | _ => ""

/-- `_looks_like_example_or_fixture`. -/
def looks_like_example_or_fixture (study : LoopStudy K) : Bool :=
  study.runtime_mode == "fixture" || starts_with "example-" study.run_id
    || starts_with "example-" study.snapshot.snapshot_id

/-- `_add`. -/
def add_once (items : List String) (value : String) : List String :=
  if value ∈ items then items else items ++ [value]

/-- The report of `build_data_sufficiency_report`, without the fields that show what it read. -/
structure DataSufficiency where
  profile : String
  run_ready : Bool
  research_ready : Bool
  improvement_ready : Bool
  candle_count : ℤ
  minimum_candle_count : ℤ
  blockers : List String
  missing_data_requirements : List String

/-- `str(provider) if provider is not None else ""`. -/
def provider_text (provenance : JsonObject K) : String :=
  match provenance.get "provider" with
  | .null => ""
  | provider => py_str composite.text provider

/-- The `research_blockers` of `build_data_sufficiency_report`; every one is added once. -/
def research_blockers (study : LoopStudy K) (profile : String) : List String :=
  let snapshot := study.snapshot
  let provenance := snapshot.provenance
  let candle_count : ℤ := snapshot.candles.length
  let minimum_candle_count := (List.lookup snapshot.timeframe STRICT_V3_MIN_BARS).getD 0
  let source_hash_present :=
    truthy (provenance.get "source_hash") || truthy (provenance.get "raw_source_hash")
  let liquidation_observed :=
    liquidation_confidence composite provenance = OBSERVED_LIQUIDATION_CONFIDENCE
  reason_if (profile ≠ "strict_v3") "unsupported_data_sufficiency_profile"
    ++ reason_if (snapshot.symbol ∉ STRICT_V3_SYMBOLS) "unsupported_strict_v3_symbol"
    ++ reason_if (pyLower snapshot.venue ≠ "binance") "unsupported_strict_v3_venue"
    ++ reason_if (snapshot.timeframe ∉ STRICT_V3_MIN_BARS.map Prod.fst)
      "unsupported_strict_v3_timeframe"
    ++ reason_if (looks_like_example_or_fixture study) "example_or_fixture_study"
    ++ reason_if (provider_text composite provenance ∉ PUBLIC_ONLY_ALLOWED_PROVIDERS)
      "missing_real_source_provenance"
    ++ reason_if (!source_hash_present) "missing_source_hash"
    ++ reason_if (!truthy (provenance.get "fetch_manifest")) "missing_fetch_manifest"
    ++ reason_if (candle_count < minimum_candle_count) "insufficient_history_for_v3_improvement"
    ++ reason_if (snapshot.quality_flags ≠ []) "snapshot_quality_flags_present"
    ++ reason_if (quality_report_issues snapshot.quality_report ≠ [])
      "snapshot_quality_issues_present"
    ++ reason_if (study_uses_liquidation_features study && !decide liquidation_observed)
      "liquidation_feature_missing_observed_sidecar"

/-- `build_data_sufficiency_report`. -/
def build_data_sufficiency_report (study : LoopStudy K) (profile : String) :
    Except String DataSufficiency := do
  let provenance := study.snapshot.provenance
  let candle_count : ℤ := study.snapshot.candles.length
  let minimum_candle_count := (List.lookup study.snapshot.timeframe STRICT_V3_MIN_BARS).getD 0
  let liquidation_observed :=
    liquidation_confidence composite provenance = OBSERVED_LIQUIDATION_CONFIDENCE
  let paper_evidence_present ← has_paper_evidence provenance PAPER_EVIDENCE_KEYS
  let research := research_blockers composite study profile
  let improvement :=
    reason_if (!decide liquidation_observed) "liquidation_feature_missing_observed_sidecar"
      ++ reason_if (!paper_evidence_present) "missing_paper_executor_feedback"
  let missing :=
    reason_if (candle_count < minimum_candle_count) "strict_v3_history"
      ++ reason_if (!decide liquidation_observed) "observed_liquidation_sidecar"
      ++ reason_if (!paper_evidence_present) "paper_executor_feedback"
  return {
    profile := profile
    run_ready := MIN_RUN_READY_CANDLES ≤ candle_count
    research_ready := research.isEmpty
    improvement_ready := research.isEmpty && improvement.isEmpty
    candle_count := candle_count
    minimum_candle_count := minimum_candle_count
    blockers := (research ++ improvement).foldl add_once []
    missing_data_requirements := missing }

/-! ## Loop readiness -/

def MIN_LOOP_CANDLE_COUNT : ℤ := 5

/-- `/examples/` stands in the path, written with slashes and in small letters. -/
def under_examples (config_path : String) : Bool :=
  let normalized_path := pyLower (String.ofList (config_path.toList.map fun c =>
    if c = '\\' then '/' else c))
  contains_text "/examples/" ("/" ++ normalized_path) || starts_with "examples/" normalized_path

/-- `_looks_like_example`. -/
def looks_like_example (study : LoopStudy K) (config_path : String) : Bool :=
  starts_with "example-" study.run_id || under_examples config_path

/-- `_has_real_source_provenance`. -/
def has_real_source_provenance (provenance : JsonObject K) : Bool :=
  let provider := text_or composite.text (provenance.get "provider") ""
  decide (provider ≠ "")
    && (truthy (provenance.get "fetch_manifest") || truthy (provenance.get "source_hash")
      || truthy (provenance.get "source_paths"))

/-- `_extract_quality_count`: the number after the prefix of the first flag that has it. -/
def extract_quality_count (quality_flags : List String) (start : String) : ℤ :=
  match quality_flags.find? (starts_with start) with
  | some flag => (int_of_text (String.ofList (flag.toList.drop start.length))).getD 0
  | none => 0

/-- The report of `build_loop_readiness_report`, without the fields that show what it read. -/
structure LoopReadiness where
  eligible : Bool
  config_path : String
  candle_count : ℤ
  blockers : List String
  data_sufficiency : DataSufficiency

/-- The `blockers` of `build_loop_readiness_report`, in the order in which they are found. -/
def readiness_blockers (study : LoopStudy K) (config_path : String) : List String :=
  let snapshot := study.snapshot
  let provenance := snapshot.provenance
  let total_candles : ℤ := snapshot.candles.length
  let missing := extract_quality_count snapshot.quality_flags "missing_liquidation_notional_count="
  let covered := max 0 (total_candles - missing)
  reason_if (looks_like_example study config_path) "example_or_fixture_study"
    ++ reason_if (!has_real_source_provenance composite provenance)
      "missing_real_source_provenance"
    ++ reason_if (liquidation_confidence composite provenance
        ≠ OBSERVED_LIQUIDATION_CONFIDENCE) "missing_liquidation_field_confidence"
    ++ (if total_candles ≤ 0 then ["empty_snapshot"]
      else reason_if (total_candles < MIN_LOOP_CANDLE_COUNT) "insufficient_candle_count")
    ++ reason_if (snapshot.quality_flags ≠ []) "snapshot_quality_flags_present"
    ++ reason_if (quality_report_issues snapshot.quality_report ≠ [])
      "snapshot_quality_issues_present"
    ++ reason_if (covered < total_candles) "liquidation_notional_not_fully_observed"

/-- `build_loop_readiness_report`. -/
def build_loop_readiness_report (study : LoopStudy K) (config_path : String) :
    Except String LoopReadiness := do
  let blockers := readiness_blockers composite study config_path
  let data_sufficiency ← build_data_sufficiency_report composite study "strict_v3"
  return {
    eligible := blockers.isEmpty
    config_path := config_path
    candle_count := study.snapshot.candles.length
    blockers := first_by id blockers
    data_sufficiency := data_sufficiency }

/-! ## How the verdicts follow from each other -/

theorem foldl_add_once_ne_nil (values : List String) {items : List String} (h : items ≠ []) :
    values.foldl add_once items ≠ [] := by
  induction values generalizing items with
  | nil => exact h
  | cons value values ih =>
      refine ih ?_
      unfold add_once
      split_ifs with hmem
      · exact h
      · simp

/-- Adding once loses nothing. -/
theorem foldl_add_once_eq_nil {values : List String} :
    values.foldl add_once [] = [] ↔ values = [] := by
  cases values with
  | nil => simp
  | cons value values =>
      have hone : add_once [] value ≠ [] := by simp [add_once]
      simp [foldl_add_once_ne_nil values hone]

/-- What a study without research blockers has. -/
structure ResearchReady (study : LoopStudy K) : Prop where
  bars : (13140 : ℤ) ≤ study.snapshot.candles.length
  named : starts_with "example-" study.run_id = false
  provider : provider_text composite study.snapshot.provenance
    ∈ PUBLIC_ONLY_ALLOWED_PROVIDERS
  manifest : truthy (study.snapshot.provenance.get "fetch_manifest") = true
  unflagged : study.snapshot.quality_flags = []
  sound : quality_report_issues study.snapshot.quality_report = []

variable {composite}

theorem research_ready_of_no_blockers {study : LoopStudy K} {profile : String}
    (h : research_blockers composite study profile = []) :
    ResearchReady composite study := by
  simp only [research_blockers, List.append_eq_nil_iff, reason_if_eq_nil, decide_eq_false_iff_not,
    not_not, looks_like_example_or_fixture, Bool.or_eq_false_iff, Bool.not_eq_false',
    not_lt] at h
  obtain ⟨⟨⟨⟨⟨⟨⟨⟨⟨-, htimeframe⟩, ⟨-, hnamed⟩, -⟩, hprovider⟩, -⟩, hmanifest⟩, hbars⟩,
    hflags⟩, hsound⟩, -⟩ := h
  have hminimum : ∀ timeframe ∈ STRICT_V3_MIN_BARS.map Prod.fst,
      13140 ≤ (List.lookup timeframe STRICT_V3_MIN_BARS).getD 0 := by decide
  exact {
    bars := (hminimum _ htimeframe).trans hbars
    named := hnamed
    provider := hprovider
    manifest := hmanifest
    unflagged := hflags
    sound := hsound }

/-- The text of what counts as false is no provider. -/
theorem truthy_of_provider {provider : JsonValue K}
    (h : py_str composite.text provider ∈ PUBLIC_ONLY_ALLOWED_PROVIDERS) :
    truthy provider = true := by
  have hother : ∀ text ∈ ["None", "False", "0", "", "0.0", "[]", "\x7b\x7d"],
      text ∉ PUBLIC_ONLY_ALLOWED_PROVIDERS := by decide
  cases provider with
  | null => exact absurd h (hother "None" (by decide))
  | bool b =>
      cases b with
      | false => exact absurd h (hother "False" (by decide))
      | true => rfl
  | int n =>
      refine decide_eq_true fun hzero => ?_
      subst hzero
      exact hother "0" (by decide) h
  | float x =>
      refine decide_eq_true fun hzero => ?_
      subst hzero
      exact hother "0.0" (by decide) (composite.zero ▸ h)
  | str s =>
      refine decide_eq_true fun hempty => ?_
      subst hempty
      exact hother "" (by decide) h
  | list items =>
      cases items with
      | nil => exact absurd (composite.empty_list ▸ h) (hother "[]" (by decide))
      | cons item items => rfl
  | dict fields =>
      cases fields with
      | nil => exact absurd (composite.empty_dict ▸ h) (hother "\x7b\x7d" (by decide))
      | cons field fields => rfl

/-- A provider that is on the list is one. -/
theorem has_real_source_provenance_of {provenance : JsonObject K}
    (hprovider : provider_text composite provenance ∈ PUBLIC_ONLY_ALLOWED_PROVIDERS)
    (hmanifest : truthy (provenance.get "fetch_manifest") = true) :
    has_real_source_provenance composite provenance = true := by
  have htext : py_str composite.text (provenance.get "provider")
      ∈ PUBLIC_ONLY_ALLOWED_PROVIDERS := by
    unfold provider_text at hprovider
    split at hprovider
    · exact absurd hprovider (by decide)
    · exact hprovider
  have hnonempty : ∀ text ∈ PUBLIC_ONLY_ALLOWED_PROVIDERS, text ≠ "" := by decide
  rw [has_real_source_provenance, text_or, if_pos (truthy_of_provider htext), hmanifest,
    decide_eq_true (hnonempty _ htext)]
  rfl

/-- A study without research blockers and with observed liquidations passes every check of the
loop but the one on its path. -/
theorem readiness_blockers_eq_nil_iff {study : LoopStudy K} (config_path : String)
    (hready : ResearchReady composite study)
    (hobserved : liquidation_confidence composite study.snapshot.provenance
      = OBSERVED_LIQUIDATION_CONFIDENCE) :
    readiness_blockers composite study config_path = [] ↔ under_examples config_path = false := by
  have hprovenance := has_real_source_provenance_of hready.provider hready.manifest
  have hbars := hready.bars
  have hsome : ¬ (study.snapshot.candles.length : ℤ) ≤ 0 := by omega
  have hcount : ¬ (study.snapshot.candles.length : ℤ) < MIN_LOOP_CANDLE_COUNT := by
    rw [MIN_LOOP_CANDLE_COUNT]
    omega
  have hmissing : extract_quality_count study.snapshot.quality_flags
      "missing_liquidation_notional_count=" = 0 := by
    rw [hready.unflagged]
    rfl
  have hcovered : ¬ max 0 ((study.snapshot.candles.length : ℤ) - 0)
      < study.snapshot.candles.length := by omega
  rw [readiness_blockers, if_neg hsome, hmissing, hprovenance, hobserved, hready.unflagged,
    hready.sound, decide_eq_false hcount, decide_eq_false hcovered, looks_like_example,
    hready.named, Bool.false_or]
  simp

/-- What the verdicts of a data sufficiency report say about its lists. -/
theorem improvement_ready_iff {study : LoopStudy K} {profile : String} {report : DataSufficiency}
    (h : build_data_sufficiency_report composite study profile = .ok report) :
    report.improvement_ready = true ↔ report.blockers = [] := by
  unfold build_data_sufficiency_report at h
  obtain ⟨paper_evidence_present, -, h⟩ := bind_ok h
  cases h
  dsimp only
  rw [foldl_add_once_eq_nil, Bool.and_eq_true, List.isEmpty_iff, List.isEmpty_iff]
  exact List.append_eq_nil_iff.symm

/-- A study that is ready for improvement claims is ready for research, and one that is ready
for research is ready to run. The loop takes a study that is ready for improvement claims unless
it lies under the examples, although the loop makes its own checks. -/
theorem readiness_ladder {study : LoopStudy K} {config_path : String} {report : LoopReadiness}
    (h : build_loop_readiness_report composite study config_path = .ok report) :
    (report.data_sufficiency.improvement_ready = true ↔ report.data_sufficiency.blockers = [])
      ∧ (report.data_sufficiency.research_ready = true
        → report.data_sufficiency.run_ready = true)
      ∧ (report.data_sufficiency.improvement_ready = true
        → report.data_sufficiency.research_ready = true
          ∧ (report.eligible = true ↔ under_examples config_path = false)) := by
  unfold build_loop_readiness_report at h
  obtain ⟨sufficiency, hsufficiency, h⟩ := bind_ok h
  cases h
  refine ⟨improvement_ready_iff hsufficiency, ?_⟩
  unfold build_data_sufficiency_report at hsufficiency
  obtain ⟨paper_evidence_present, -, hsufficiency⟩ := bind_ok hsufficiency
  cases hsufficiency
  dsimp only
  rw [Bool.and_eq_true, List.isEmpty_iff, List.isEmpty_iff, List.isEmpty_iff]
  refine ⟨fun hresearch => ?_, fun ⟨hresearch, himprovement⟩ => ⟨hresearch, ?_⟩⟩
  · have hbars := (research_ready_of_no_blockers hresearch).bars
    exact decide_eq_true (le_trans (by decide) hbars)
  · have hobserved : liquidation_confidence composite study.snapshot.provenance
        = OBSERVED_LIQUIDATION_CONFIDENCE := by
      simpa using (List.append_eq_nil_iff.mp himprovement).1
    exact readiness_blockers_eq_nil_iff config_path (research_ready_of_no_blockers hresearch)
      hobserved

/-- Only the false values have their own texts. -/
def plain_composite : CompositeText ℚ where
  text
    | .list [] => "[]"
    | .dict [] => "\x7b\x7d"
    | _ => "0.0"
  zero := rfl
  empty_list := rfl
  empty_dict := rfl

/-- A study with a year and a half of hourly bars. -/
def strict_study : LoopStudy ℚ where
  run_id := "strict"
  runtime_mode := "builtin"
  incumbent := { backbone := "trend" }
  snapshot := {
    snapshot_id := "btc"
    symbol := "BTCUSDT"
    venue := "binance"
    timeframe := "1Hour"
    candles := List.replicate 13140 ⟨0, 1, 1, 1, 1, 1, 1⟩
    funding_rates := []
    open_interest := []
    liquidation_notional := []
    maker_fee_bps := 0
    taker_fee_bps := 0
    provenance := [("provider", .str "binance_perps"), ("source_hash", .str "hash"),
      ("fetch_manifest", .str "manifest"), ("paper_evidence", .bool true),
      ("field_confidence",
        .dict [("liquidation_notional", .str OBSERVED_LIQUIDATION_CONFIDENCE)])] }

theorem readiness_ladder_strict : ∃ report,
    build_loop_readiness_report plain_composite strict_study "study.json" = .ok report
      ∧ report.eligible = true := by
  have hready : ∃ report,
      build_loop_readiness_report plain_composite strict_study "study.json" = .ok report
        ∧ report.data_sufficiency.improvement_ready = true := ⟨_, rfl, by decide +kernel⟩
  obtain ⟨report, hreport, himprovement⟩ := hready
  exact ⟨report, hreport, ((readiness_ladder hreport).2.2 himprovement).2.mpr (by decide)⟩

end ProofAlpha.App
