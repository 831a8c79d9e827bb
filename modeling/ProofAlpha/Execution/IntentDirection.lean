/-
The direction of an order intent: `validate_internal_order_intent` of
`execution/order_intent.py` and the intents that `execution/paper.py` makes.

An intent says its direction three times: by its side, by the sign of its delta and by the
reduce-only flag. The validation compares the flag with the side and takes it for a sale, as the
positions are long (`reducing_intent_iff`). The sign is set by whoever makes the intent.
-/
import ProofAlpha.Execution.OrderManager
import ProofAlpha.Execution.PaperDaemon

set_option autoImplicit false

namespace ProofAlpha.Execution

open ProofAlpha.Lib

section Intents

variable {K : Type} [Field K] [LinearOrder K]

/-! ## The intents of the paper executor -/

/-- The fields that `_internal_intent_from_paper_intent` hands to `InternalOrderIntent.create`. -/
def paper_intent_fields (texts : PyTexts K) (artifact : JsonObject K) (intent : PaperOrderIntent K)
    (created_at : String) : Except String (IntentFields K) := do
  let side := pyUpper intent.side
  let notional := intent.qty * intent.expected_price
  let signed_delta := if side = "SELL" then -notional else notional
  let max_slippage_bps ← float_or texts.parse_float artifact "max_slippage_bps" 100
  let max_spread_bps ← float_or texts.parse_float artifact "max_spread_bps" 100
  let max_participation_rate ← float_or texts.parse_float artifact "max_participation_rate" 1
  .ok
    { artifact_id := py_str texts.composite_text (artifact.get_or "artifact_id" (.str ""))
      portfolio_plan_id :=
        text_or texts.composite_text (artifact.get "portfolio_plan_id") "paper-fixture"
      symbol := intent.symbol
      desired_position_delta := signed_delta
      side := side
      intent_type := if intent.reduce_only then "reduction" else "increase"
      urgency := "normal"
      reduce_only_required := intent.reduce_only
      max_slippage_bps := max_slippage_bps
      max_spread_bps := max_spread_bps
      max_participation_rate := max_participation_rate
      funding_guard_policy :=
        text_or texts.composite_text (artifact.get "funding_guard_policy") "paper_guard"
      liquidation_guard_policy :=
        text_or texts.composite_text (artifact.get "liquidation_guard_policy") "paper_guard"
      created_at := created_at
      expires_at := created_at }

/-- `_internal_intent_from_paper_intent`. -/
def internal_intent_from_paper_intent (env : OrderEnv K) (texts : PyTexts K)
    (artifact : JsonObject K) (intent : PaperOrderIntent K) (created_at : String) :
    Except String (InternalOrderIntent K) :=
  (paper_intent_fields texts artifact intent created_at).map (InternalOrderIntent.create env)

/-! ## What the validation asks for -/

/-- The fields besides the direction are valid. -/
structure OtherFieldsValid (fields : IntentFields K) : Prop where
  artifact_id : fields.artifact_id ≠ ""
  portfolio_plan_id : fields.portfolio_plan_id ≠ ""
  symbol : fields.symbol ≠ ""
  created_at : fields.created_at ≠ ""
  expires_at : fields.expires_at ≠ ""
  intent_type : fields.intent_type ∈ VALID_INTENT_TYPES
  urgency : fields.urgency ∈ VALID_URGENCY
  max_slippage_bps : 0 ≤ fields.max_slippage_bps
  max_spread_bps : 0 ≤ fields.max_spread_bps
  max_participation_rate : 0 ≤ fields.max_participation_rate ∧ fields.max_participation_rate ≤ 1
  funding_guard_policy : fields.funding_guard_policy ≠ ""
  liquidation_guard_policy : fields.liquidation_guard_policy ≠ ""

/-- The direction is valid: a side, a reduce-only flag on sales alone and a delta. -/
structure DirectionValid (fields : IntentFields K) : Prop where
  side : fields.side ∈ VALID_SIDES
  reduce_only : fields.reduce_only_required = true → fields.side = "SELL"
  delta : fields.desired_position_delta ≠ 0

/-- The intents that pass the validation. -/
theorem validate_internal_order_intent_iff (intent : InternalOrderIntent K) :
    validate_internal_order_intent intent = []
      ↔ intent.intent_id ≠ "" ∧ OtherFieldsValid intent.toIntentFields
        ∧ DirectionValid intent.toIntentFields := by
  simp only [validate_internal_order_intent, List.append_eq_nil_iff, List.flatMap_eq_nil_iff,
    reason_if_eq_nil, decide_eq_false_iff_not, List.forall_mem_cons, not_not, not_and, not_lt,
    le_min_iff]
  constructor
  · rintro ⟨⟨⟨⟨⟨⟨⟨⟨⟨hnames, hside⟩, htype⟩, hurgency⟩, hreduce⟩, hdelta⟩, hbounds⟩, hrate⟩, hfunding⟩,
      hliquidation⟩
    obtain ⟨hid, hartifact, hplan, hsymbol, hcreated, hexpires, -⟩ := hnames
    refine ⟨hid, ?_, ⟨hside, hreduce, hdelta⟩⟩
    exact ⟨hartifact, hplan, hsymbol, hcreated, hexpires, htype, hurgency, hbounds.1.1, hbounds.1.2,
      ⟨hbounds.2, hrate⟩, hfunding, hliquidation⟩
  · rintro ⟨hid, hothers, hdirection⟩
    refine ⟨⟨⟨⟨⟨⟨⟨⟨⟨?_, hdirection.side⟩, hothers.intent_type⟩, hothers.urgency⟩,
      hdirection.reduce_only⟩, hdirection.delta⟩, ⟨⟨hothers.max_slippage_bps,
      hothers.max_spread_bps⟩, hothers.max_participation_rate.1⟩⟩,
      hothers.max_participation_rate.2⟩, hothers.funding_guard_policy⟩,
      hothers.liquidation_guard_policy⟩
    refine ⟨hid, hothers.artifact_id, hothers.portfolio_plan_id, hothers.symbol,
      hothers.created_at, hothers.expires_at, ?_⟩
    intro field hfield
    cases hfield

/-! ## Intents that reduce a position -/

/-- The intent reduces a signed position: its delta is of the other sign and no larger, it has the
side of its delta and is reduce-only. -/
structure Reduces (position : K) (fields : IntentFields K) : Prop where
  opposite : fields.desired_position_delta * position < 0
  no_larger : |fields.desired_position_delta| ≤ |position|
  side : fields.side = if 0 < fields.desired_position_delta then "BUY" else "SELL"
  reduce_only : fields.reduce_only_required = true

variable (env : OrderEnv K)

omit [Field K] [LinearOrder K] in
/-- A digest is not empty, and so is no id. -/
theorem create_intent_id_ne (hdigest : ∀ text, (env.hexdigest text).length = 64)
    (fields : IntentFields K) : (InternalOrderIntent.create env fields).intent_id ≠ "" := by
  have hlength : (InternalOrderIntent.create env fields).intent_id.length = 48 := by
    unfold InternalOrderIntent.create stable_hash_prefix text_prefix
    rw [String.length_ofList, List.length_take, String.length_toList, hdigest]
    rfl
  intro hempty
  rw [hempty] at hlength
  exact absurd hlength (by decide)

/-- A created intent passes if its other fields and its direction, with the side in capitals, are
valid. -/
theorem validate_create_iff (hdigest : ∀ text, (env.hexdigest text).length = 64)
    (fields : IntentFields K) :
    validate_internal_order_intent (InternalOrderIntent.create env fields) = []
      ↔ OtherFieldsValid fields ∧ DirectionValid { fields with side := pyUpper fields.side } := by
  rw [validate_internal_order_intent_iff]
  constructor
  · rintro ⟨-, hothers, hdirection⟩
    exact ⟨{ hothers with }, hdirection⟩
  · rintro ⟨hothers, hdirection⟩
    exact ⟨create_intent_id_ne env hdigest fields, { hothers with }, hdirection⟩

/-- An intent that reduces a position passes if and only if the position is long. -/
theorem reducing_intent_iff [IsStrictOrderedRing K]
    (hdigest : ∀ text, (env.hexdigest text).length = 64) {position : K} {fields : IntentFields K}
    (hreduces : Reduces position fields) (hothers : OtherFieldsValid fields) :
    validate_internal_order_intent (InternalOrderIntent.create env fields) = [] ↔ 0 < position := by
  rw [validate_create_iff env hdigest]
  constructor
  · rintro ⟨-, hdirection⟩
    have hsell : pyUpper fields.side = "SELL" := hdirection.reduce_only hreduces.reduce_only
    rw [hreduces.side] at hsell
    by_cases hdelta : 0 < fields.desired_position_delta
    · rw [if_pos hdelta] at hsell
      exact absurd hsell (by decide)
    · exact pos_of_mul_neg_right hreduces.opposite (not_lt.mp hdelta)
  · intro hposition
    have hdelta : fields.desired_position_delta < 0 :=
      neg_of_mul_neg_left hreduces.opposite hposition.le
    have hside : pyUpper fields.side = "SELL" := by
      rw [hreduces.side, if_neg hdelta.le.not_gt]
      decide
    have hvalid : pyUpper fields.side ∈ VALID_SIDES := by
      rw [hside]
      decide
    exact ⟨hothers, hvalid, fun _ => hside, hdelta.ne⟩

/-! ## The sign of the delta -/

variable {env} {texts : PyTexts K} {artifact : JsonObject K} {paper : PaperOrderIntent K}
  {created_at : String} {intent : InternalOrderIntent K}

/-- The paper executor gives an intent its delta by its side. -/
theorem paper_intent_fields_direction {fields : IntentFields K}
    (hfields : paper_intent_fields texts artifact paper created_at = .ok fields) :
    fields.side = pyUpper paper.side
      ∧ fields.desired_position_delta
        = if pyUpper paper.side = "SELL" then -(paper.qty * paper.expected_price)
          else paper.qty * paper.expected_price := by
  unfold paper_intent_fields at hfields
  dsimp only at hfields
  obtain ⟨max_slippage_bps, -, hfields⟩ := bind_ok hfields
  obtain ⟨max_spread_bps, -, hfields⟩ := bind_ok hfields
  obtain ⟨max_participation_rate, -, hfields⟩ := bind_ok hfields
  rw [← Except.ok.inj hfields]
  exact ⟨rfl, rfl⟩

theorem internal_intent_direction
    (hmade : internal_intent_from_paper_intent env texts artifact paper created_at = .ok intent) :
    intent.side = pyUpper paper.side
      ∧ intent.desired_position_delta
        = if pyUpper paper.side = "SELL" then -(paper.qty * paper.expected_price)
          else paper.qty * paper.expected_price := by
  unfold internal_intent_from_paper_intent at hmade
  cases hfields : paper_intent_fields texts artifact paper created_at with
  | error key =>
      rw [hfields] at hmade
      cases hmade
  | ok fields =>
      rw [hfields] at hmade
      obtain rfl : InternalOrderIntent.create env fields = intent := Except.ok.inj hmade
      obtain ⟨hside, hdelta⟩ := paper_intent_fields_direction hfields
      refine ⟨?_, hdelta⟩
      -- the side is put in capitals a second time
      change pyUpper fields.side = pyUpper paper.side
      rw [hside, pyUpper_pyUpper]

/-- An intent of the paper executor that passes has the side of its delta. -/
theorem paper_intent_side_iff [IsStrictOrderedRing K]
    (hmade : internal_intent_from_paper_intent env texts artifact paper created_at = .ok intent)
    (hnotional : 0 < paper.qty * paper.expected_price)
    (hpasses : validate_internal_order_intent intent = []) :
    intent.side = "BUY" ↔ 0 < intent.desired_position_delta := by
  obtain ⟨hside, hdelta⟩ := internal_intent_direction hmade
  have hvalid := ((validate_internal_order_intent_iff intent).mp hpasses).2.2.side
  rw [hside] at hvalid ⊢
  rw [hdelta]
  by_cases hsell : pyUpper paper.side = "SELL"
  · rw [if_pos hsell, hsell]
    constructor
    · intro hbuy
      exact absurd hbuy (by decide)
    · intro hpos
      linarith
  · rw [if_neg hsell]
    constructor
    · intro _
      exact hnotional
    · intro _
      rcases List.mem_cons.mp hvalid with hbuy | hrest
      · exact hbuy
      · exact absurd (List.mem_singleton.mp hrest) hsell

/-- An intent that passes has a side and a delta, and is reduce-only on a sale alone; where the
paper executor made it, it has the side of its delta; and an intent that reduces a position passes
if and only if the position is long. -/
theorem intent_direction [IsStrictOrderedRing K]
    (hdigest : ∀ text, (env.hexdigest text).length = 64) :
    (∀ intent : InternalOrderIntent K, validate_internal_order_intent intent = [] →
        DirectionValid intent.toIntentFields)
      ∧ (∀ (texts : PyTexts K) (artifact : JsonObject K) (paper : PaperOrderIntent K)
          (created_at : String) (intent : InternalOrderIntent K),
        internal_intent_from_paper_intent env texts artifact paper created_at = .ok intent →
          0 < paper.qty * paper.expected_price → validate_internal_order_intent intent = [] →
          (intent.side = "BUY" ↔ 0 < intent.desired_position_delta))
      ∧ ∀ (position : K) (fields : IntentFields K), Reduces position fields →
        OtherFieldsValid fields →
        (validate_internal_order_intent (InternalOrderIntent.create env fields) = []
          ↔ 0 < position) := by
  refine ⟨?_, ?_, ?_⟩
  · intro intent hpasses
    exact ((validate_internal_order_intent_iff intent).mp hpasses).2.2
  · intro texts artifact paper created_at intent hmade hnotional hpasses
    exact paper_intent_side_iff hmade hnotional hpasses
  · intro position fields hreduces hothers
    exact reducing_intent_iff env hdigest hreduces hothers

end Intents

/-! ## A purchase with a negative delta, and a short position -/

/-- Hashes of the right length. -/
def flat_digest_env : OrderEnv ℚ where
  floats := JsonFloats.rat
  hexdigest := fun _ => String.ofList (List.replicate 64 'a')

/-- A purchase of BTCUSDT. -/
def purchase (desired_position_delta : ℚ) (reduce_only_required : Bool) : IntentFields ℚ where
  artifact_id := "artifact-btc"
  portfolio_plan_id := "portfolio-v1"
  symbol := "BTCUSDT"
  desired_position_delta := desired_position_delta
  side := "BUY"
  intent_type := "reduction"
  urgency := "normal"
  reduce_only_required := reduce_only_required
  max_slippage_bps := 8
  max_spread_bps := 5
  max_participation_rate := 1 / 10
  funding_guard_policy := "paper_guard"
  liquidation_guard_policy := "paper_guard"
  created_at := "2026-01-01T00:00:00Z"
  expires_at := "2026-01-01T00:01:00Z"

theorem flat_digest_length (text : String) : (flat_digest_env.hexdigest text).length = 64 := by
  change (String.ofList (List.replicate 64 'a')).length = 64
  rw [String.length_ofList, List.length_replicate]

/-- The reduce-only sale of a long position. -/
theorem intent_direction_sale :
    validate_internal_order_intent (InternalOrderIntent.create flat_digest_env
      { purchase (-50) true with side := "SELL" }) = [] := by
  refine ((intent_direction flat_digest_length).2.2 100 _ ?_ ?_).mpr (by norm_num)
  · exact ⟨by decide +kernel, by decide +kernel, by decide +kernel, rfl⟩
  · constructor <;> decide +kernel

/-- A purchase passes with a negative delta, and the reduce-only purchase that reduces a short
position does not. -/
theorem purchase_of_negative_delta_passes :
    validate_internal_order_intent
          (InternalOrderIntent.create flat_digest_env (purchase (-1) false)) = []
      ∧ (InternalOrderIntent.create flat_digest_env (purchase (-1) false)).side = "BUY"
      ∧ Reduces (-100) (purchase 50 true) ∧ OtherFieldsValid (purchase 50 true)
      ∧ validate_internal_order_intent
          (InternalOrderIntent.create flat_digest_env (purchase 50 true)) ≠ [] := by
  refine ⟨?_, by decide +kernel, ?_, ?_, ?_⟩
  · decide +kernel
  · exact ⟨by decide +kernel, by decide +kernel, by decide +kernel, rfl⟩
  · constructor <;> decide +kernel
  · decide +kernel

end ProofAlpha.Execution
