/-
The model registry: `learning/model_registry.py`, with the cards of
`learning/model_card.py`.

Cards and approvals are kept apart: a candidate replaces the card of its id and leaves
the approvals of that id as they are. So the executor gets validated cards exactly as
long as every candidate could be approved again wherever its id is approved
(`executor_cards_valid_iff`).
-/
import ProofAlpha.Lib.Checks
import ProofAlpha.Lib.LastWrite
import ProofAlpha.Lib.PyDict
import ProofAlpha.Lib.PyJson

set_option autoImplicit false

namespace ProofAlpha.Learning

open ProofAlpha.Lib

/-! ## Model cards -/

/-- `MODEL_FAMILIES`. -/
def MODEL_FAMILIES : List String :=
  ["SlippageModel", "ImpactModel", "FillProbabilityModel", "QueuePositionModel",
    "FundingRiskModel", "LiquidityRegimeModel", "CorrelationModel", "StrategyHealthModel",
    "ExecutionPolicyModel", "CapacityModel"]

/-- `ModelCard`. -/
structure ModelCard (K : Type) where
  model_id : String
  parent_model_id : Option String
  family : String
  training_window : String
  symbols_used : List String
  features_used : List String
  target : String
  validation_metric : List (String × K)
  shadow_result : JsonObject K
  paper_result : JsonObject K
  approved_modes : List String
  known_failures : List String
  rollback_model_id : Option String

/-- `ModelCardValidation`. -/
structure ModelCardValidation where
  passed : Bool
  issues : List String

variable {K : Type}

/-- `validate_model_card`. -/
def validate_model_card (card : ModelCard K) : ModelCardValidation :=
  let issues :=
    reason_if (card.model_id = "") "missing_model_id"
    ++ reason_if (card.family = "") "missing_family"
    ++ reason_if (card.training_window = "") "missing_training_window"
    ++ reason_if (card.target = "") "missing_target"
    ++ reason_if (card.family ∉ MODEL_FAMILIES) "unknown_model_family"
    ++ reason_if card.symbols_used.isEmpty "missing_symbols_used"
    ++ reason_if card.features_used.isEmpty "missing_features_used"
    ++ reason_if card.validation_metric.isEmpty "missing_validation_metric"
    ++ reason_if (! is_true (card.shadow_result.get "passed")) "shadow_validation_not_passed"
    ++ reason_if ("paper" ∈ card.approved_modes ∧ ! is_true (card.paper_result.get "passed"))
      "paper_validation_not_passed"
    -- `None` and the empty text count as missing
    ++ reason_if ((card.rollback_model_id.getD "") = "") "missing_rollback_model_id"
  { passed := issues.isEmpty, issues := issues }

/-! ## The registry -/

/-- `ModelApprovalResult`. -/
structure ModelApprovalResult where
  approved : Bool
  model_id : String
  reasons : List String

/-- The errors of the registry. -/
inductive RegistryError
  | ValueError (message : String)
  | KeyError (key : String)

/-- `ModelRegistry`. -/
structure ModelRegistry (K : Type) where
  cards : Dict String (ModelCard K)
  approved : Dict (String × String) String

/-- `ModelRegistry()`. -/
def ModelRegistry.new : ModelRegistry K := ⟨∅, ∅⟩

/-- `register_candidate`. -/
def ModelRegistry.register_candidate (registry : ModelRegistry K) (card : ModelCard K) :
    ModelRegistry K :=
  { registry with cards := registry.cards.insert card.model_id card }

/-- The reasons `approve` finds against a card. -/
def approval_reasons (card : ModelCard K) (mode : String) : List String :=
  (validate_model_card card).issues ++ reason_if (mode ∉ card.approved_modes) "mode_not_approved"

/-- `approve`: the registry it leaves and its result. -/
def ModelRegistry.approve (registry : ModelRegistry K) (model_id mode : String) :
    ModelRegistry K × ModelApprovalResult :=
  match registry.cards.lookup model_id with
  | none => (registry, ⟨false, model_id, ["missing_model_card"]⟩)
  | some card =>
      let reasons := approval_reasons card mode
      if reasons ≠ [] then (registry, ⟨false, model_id, reasons⟩)
      else
        ({ registry with approved := registry.approved.insert (model_id, mode) model_id },
          ⟨true, model_id, []⟩)

/-- `model_for_executor`. -/
def ModelRegistry.model_for_executor (registry : ModelRegistry K) (model_id mode : String) :
    Except RegistryError (ModelCard K) :=
  if registry.approved.lookup (model_id, mode) ≠ some model_id then
    .error (.ValueError ("model_not_approved:" ++ model_id ++ ":" ++ mode))
  else
    match registry.cards.lookup model_id with
    | some card => .ok card
    | none => .error (.KeyError model_id)

/-- A call that changes a registry. -/
inductive RegistryCall (K : Type)
  | register_candidate (card : ModelCard K)
  | approve (model_id mode : String)

def registry_call (registry : ModelRegistry K) : RegistryCall K → ModelRegistry K
  | .register_candidate card => registry.register_candidate card
  | .approve model_id mode => (registry.approve model_id mode).1

/-- The registry after some calls. -/
def registry_after (calls : List (RegistryCall K)) : ModelRegistry K :=
  calls.foldl registry_call ModelRegistry.new

/-! ## What the executor gets -/

/-- The card passes its validation and lists the mode. -/
def ApprovedFor (card : ModelCard K) (mode : String) : Prop :=
  (validate_model_card card).passed = true ∧ mode ∈ card.approved_modes

/-- Every card the executor gets is approved for the mode it asks for. -/
def ExecutorCardsValid (registry : ModelRegistry K) : Prop :=
  ∀ model_id mode card, registry.model_for_executor model_id mode = .ok card →
    ApprovedFor card mode

/-- The candidate is approved for every mode its id is approved for. -/
def KeepsApprovals (registry : ModelRegistry K) (card : ModelCard K) : Prop :=
  ∀ mode, registry.approved.lookup (card.model_id, mode) = some card.model_id →
    ApprovedFor card mode

/-- `approve` finds no reason exactly against a card that is approved for the mode. -/
theorem approval_reasons_eq_nil {card : ModelCard K} {mode : String} :
    approval_reasons card mode = [] ↔ ApprovedFor card mode := by
  have hpassed : (validate_model_card card).passed = (validate_model_card card).issues.isEmpty :=
    rfl
  unfold approval_reasons ApprovedFor
  rw [List.append_eq_nil_iff, reason_if_eq_nil, hpassed, List.isEmpty_iff, decide_eq_false_iff_not,
    not_not]

/-- The executor gets the card of an id that is approved for the mode. -/
theorem model_for_executor_eq_ok {registry : ModelRegistry K} {model_id mode : String}
    {card : ModelCard K} :
    registry.model_for_executor model_id mode = .ok card
      ↔ registry.approved.lookup (model_id, mode) = some model_id
        ∧ registry.cards.lookup model_id = some card := by
  unfold ModelRegistry.model_for_executor
  by_cases happroved : registry.approved.lookup (model_id, mode) = some model_id
  · rw [if_neg (not_not.mpr happroved)]
    cases hcard : registry.cards.lookup model_id with
    | none => simp
    | some found => simp [happroved]
  · rw [if_pos happroved]
    simp [happroved]

theorem executorCardsValid_new : ExecutorCardsValid (ModelRegistry.new : ModelRegistry K) := by
  intro model_id mode card hcard
  have hnone : (∅ : Dict (String × String) String).lookup (model_id, mode) = some model_id :=
    (model_for_executor_eq_ok.mp hcard).1
  rw [AList.lookup_empty] at hnone
  cases hnone

/-! ## The calls -/

/-- An approval is given to a card that is approved for the mode. -/
theorem approve_valid {registry : ModelRegistry K} (h : ExecutorCardsValid registry)
    (model_id mode : String) : ExecutorCardsValid (registry.approve model_id mode).1 := by
  unfold ModelRegistry.approve
  cases hcard : registry.cards.lookup model_id with
  | none => exact h
  | some card =>
      dsimp only
      by_cases hreasons : approval_reasons card mode = []
      · rw [if_neg (not_not.mpr hreasons)]
        intro asked asked_mode found hfound
        obtain ⟨happroved, hlookup⟩ := model_for_executor_eq_ok.mp hfound
        dsimp only at happroved hlookup
        by_cases hsame : (asked, asked_mode) = (model_id, mode)
        · obtain ⟨rfl, rfl⟩ := Prod.mk.inj hsame
          rw [hcard] at hlookup
          rw [← Option.some.inj hlookup]
          exact approval_reasons_eq_nil.mp hreasons
        · rw [AList.lookup_insert_ne hsame] at happroved
          exact h asked asked_mode found (model_for_executor_eq_ok.mpr ⟨happroved, hlookup⟩)
      · rw [if_pos hreasons]
        exact h

/-- A candidate changes what the executor gets for its own id only. -/
theorem register_candidate_valid_iff {registry : ModelRegistry K} (h : ExecutorCardsValid registry)
    (card : ModelCard K) :
    ExecutorCardsValid (registry.register_candidate card) ↔ KeepsApprovals registry card := by
  have hself : (registry.register_candidate card).cards.lookup card.model_id = some card :=
    AList.lookup_insert _
  constructor
  · intro hvalid mode happroved
    exact hvalid card.model_id mode card (model_for_executor_eq_ok.mpr ⟨happroved, hself⟩)
  · intro hkeeps model_id mode found hfound
    obtain ⟨happroved, hlookup⟩ := model_for_executor_eq_ok.mp hfound
    by_cases hid : model_id = card.model_id
    · subst hid
      rw [hself] at hlookup
      rw [← Option.some.inj hlookup]
      exact hkeeps mode happroved
    · have hother : (registry.register_candidate card).cards.lookup model_id
          = registry.cards.lookup model_id := AList.lookup_insert_ne hid
      rw [hother] at hlookup
      exact h model_id mode found (model_for_executor_eq_ok.mpr ⟨happroved, hlookup⟩)

/-- A call keeps the executor's cards valid unless it registers a card that does not
keep the approvals of its id. -/
def CallKeepsApprovals (registry : ModelRegistry K) : RegistryCall K → Prop
  | .register_candidate card => KeepsApprovals registry card
  | .approve _ _ => True

theorem registry_call_valid_iff {registry : ModelRegistry K} (h : ExecutorCardsValid registry)
    (call : RegistryCall K) :
    ExecutorCardsValid (registry_call registry call) ↔ CallKeepsApprovals registry call := by
  cases call with
  | register_candidate card => exact register_candidate_valid_iff h card
  | approve model_id mode => exact ⟨fun _ => trivial, fun _ => approve_valid h model_id mode⟩

/-- In every registry reached, the executor gets cards that are approved for their mode
if and only if every candidate is registered with a card that is approved for every mode
its id is approved for at that time. -/
theorem executor_cards_valid_iff (calls : List (RegistryCall K)) :
    (∀ before rest, calls = before ++ rest → ExecutorCardsValid (registry_after before))
      ↔ ∀ before call rest, calls = before ++ call :: rest →
        CallKeepsApprovals (registry_after before) call := by
  refine forall_beginning_iff executorCardsValid_new ?_ calls
  intro before call hvalid
  have hafter : registry_after (before ++ [call]) = registry_call (registry_after before) call := by
    unfold registry_after
    rw [List.foldl_append]
    rfl
  rw [hafter]
  exact registry_call_valid_iff hvalid call

/-! ## A candidate under an approved id -/

/-- A card that has passed the shadow and the paper stage, in a family. -/
def slippage_card (family : String) : ModelCard ℚ where
  model_id := "slippage-1"
  parent_model_id := none
  family := family
  training_window := "2026-01"
  symbols_used := ["BTCUSDT"]
  features_used := ["spread"]
  target := "slippage_bps"
  validation_metric := [("rmse", 1)]
  shadow_result := [("passed", .bool true)]
  paper_result := [("passed", .bool true)]
  approved_modes := ["paper"]
  known_failures := []
  rollback_model_id := some "slippage-0"

/-- The card is registered and approved, and a card of no known family registered again
under its id. The executor gets the second card. -/
theorem unvalidated_card_served :
    let registry := registry_after
      [.register_candidate (slippage_card "SlippageModel"), .approve "slippage-1" "paper",
        .register_candidate (slippage_card "Unknown")]
    registry.model_for_executor "slippage-1" "paper" = .ok (slippage_card "Unknown")
      ∧ (validate_model_card (slippage_card "Unknown")).issues = ["unknown_model_family"]
      ∧ ¬ ExecutorCardsValid registry := by
  intro registry
  have hserved : registry.model_for_executor "slippage-1" "paper" = .ok (slippage_card "Unknown") :=
    rfl
  refine ⟨hserved, by decide +kernel, ?_⟩
  intro hvalid
  have hpassed := (hvalid "slippage-1" "paper" (slippage_card "Unknown") hserved).1
  revert hpassed
  decide +kernel

end ProofAlpha.Learning
