/-
The translation of an order intent to a venue order:
`execution/venue_translator/binance_usdm.py` with `data/exchange_rules_cache.py`
and `execution/venue_order_request.py`.

Quantity and price are Python floats, as the finiteness checks are about them;
everything after these checks is exact decimal arithmetic in an ordered field. One
helper rounds both to their increment, downwards.
-/
import ProofAlpha.Execution.OrderManager
import ProofAlpha.Lib.PyFloat
import ProofAlpha.Lib.PyMath
import ProofAlpha.Strategy.Artifacts

set_option autoImplicit false

namespace ProofAlpha.Execution

open ProofAlpha.Lib
open ProofAlpha.Strategy (sorted_set)

/-! ## Rules and requests -/

/-- `ExchangeSymbolRules`. -/
structure ExchangeSymbolRules (K : Type) where
  symbol : String
  tick_size : Option K
  step_size : Option K
  min_notional : Option K
  order_types : List String
  leverage_brackets : List (JsonObject K)
  margin_asset : Option String
  status : Option String
  contract_type : Option String
  quote_asset : Option String

/-- `ExchangeRulesCache`. -/
structure ExchangeRulesCache (K : Type) where
  symbols : Dict String (ExchangeSymbolRules K)
  snapshot_hash : String

/-- `VenueOrderRequest`. -/
structure VenueOrderRequest (K : Type) where
  venue : String
  symbol : String
  side : String
  positionSide : String
  type : String
  timeInForce : Option String
  quantity : K
  price : Option K
  stopPrice : Option K
  reduceOnly : Bool
  closePosition : Bool
  workingType : String
  priceProtect : Bool
  newClientOrderId : String
  selfTradePreventionMode : String
  recvWindow : ℤ
  timestamp : ℤ
  metadata_hash : String

/-- `TranslationReport`. -/
structure TranslationReport (K : Type) where
  passed : Bool
  raw_intent : InternalOrderIntent K
  rounded_order : VenueOrderRequest K
  rule_snapshot_hash : String
  rejection_reasons : List String
  warnings : List String

/-- `BinanceUsdMTranslator`. -/
structure BinanceUsdMTranslator (K : Type) where
  rules_cache : ExchangeRulesCache K
  position_mode : String
  margin_mode : String
  leverage : ℤ

/-- The arguments of `translate` beside the intent. -/
structure TranslateArgs (K : Type) where
  quantity : PyFloat K
  price : PyFloat K
  timestamp : ℤ
  passive : Bool
  close_position : Bool
  current_position_notional : Option K

section Helpers

variable {K : Type} [Field K] [LinearOrder K]

/-- The number that a float is, if `_is_positive_finite`. -/
def positive_finite (value : PyFloat K) : Option K := value.finite.filter (0 < ·)

/-- The reasons for which a quantity or a price is refused. -/
def number_reasons (field : String) (value : PyFloat K) : List String :=
  match value.finite with
  | none => ["non_finite_" ++ field]
  | some x => reason_if (x ≤ 0) (field ++ "_not_positive")

/-- `_round_down_to_increment`. -/
def round_down_to_increment [FloorRing K] (value increment : K) : K :=
  if increment ≤ 0 then value else (pyInt (value / increment) : K) * increment

/-- The leverage of a bracket: an integer, or a text of digits. -/
def bracket_leverage (bracket : JsonObject K) : Option ℤ :=
  match bracket.get "initialLeverage" with
  | .int n => some n
  | .bool b => some b.toNat
  | .str s => if s ≠ "" ∧ s.toList.all Char.isDigit then int_of_text s else none
  | _ => none

/-- `_max_leverage`. -/
def max_leverage (rules : ExchangeSymbolRules K) : Option ℤ :=
  (rules.leverage_brackets.filterMap bracket_leverage).max?

/-- `_rule_rejections`. -/
def rule_rejections (rules : ExchangeSymbolRules K) : List String :=
  reason_if (rules.status ∉ [none, some "TRADING"]) "symbol_not_trading"
    ++ reason_if (rules.contract_type ∉ [none, some "PERPETUAL"]) "contract_type_not_perpetual"
    ++ reason_if (rules.quote_asset ∉ [none, some "USDT"]) "quote_asset_not_usdt"
    ++ reason_if ("LIMIT" ∉ rules.order_types) "limit_order_type_not_allowed"
    ++ reason_if (rules.tick_size.getD 0 ≤ 0) "missing_tick_size"
    ++ reason_if (rules.step_size.getD 0 ≤ 0) "missing_step_size"
    ++ reason_if (rules.min_notional.getD 0 ≤ 0) "missing_min_notional"

/-- `_time_in_force`. -/
def time_in_force (intent : InternalOrderIntent K) (passive : Bool) : String :=
  if passive then "GTX" else if intent.urgency = "urgent" then "IOC" else "GTC"

/-- `_position_side`. -/
def position_side (intent : InternalOrderIntent K) (position_mode : String) : String :=
  if position_mode = "one_way" then "BOTH" else if intent.side = "BUY" then "LONG" else "SHORT"

end Helpers

/-! ## The request -/

section Request

variable {K : Type} (env : OrderEnv K)

/-- The metadata that `build_venue_order_request` hashes. -/
def request_metadata (intent : InternalOrderIntent K) : JsonObject K :=
  [("intent_id", .str intent.intent_id),
   ("artifact_id", .str intent.artifact_id),
   ("portfolio_plan_id", .str intent.portfolio_plan_id),
   ("guards", .dict
     [("max_slippage_bps", .float intent.max_slippage_bps),
      ("max_spread_bps", .float intent.max_spread_bps),
      ("max_participation_rate", .float intent.max_participation_rate),
      ("funding", .str intent.funding_guard_policy),
      ("liquidation", .str intent.liquidation_guard_policy)])]

/-- `build_venue_order_request`, with its defaults. -/
def build_venue_order_request (intent : InternalOrderIntent K) (venue : String) (quantity : K)
    (order_type : String) (time_in_force : Option String) (price : Option K) (timestamp : ℤ)
    (position_side : String) : VenueOrderRequest K where
  venue := venue
  symbol := intent.symbol
  side := intent.side
  positionSide := position_side
  type := order_type
  timeInForce := time_in_force
  quantity := quantity
  price := price
  stopPrice := none
  reduceOnly := intent.reduce_only_required
  closePosition := intent.intent_type = "close"
  workingType := "CONTRACT_PRICE"
  priceProtect := true
  newClientOrderId := deterministic_client_order_id env venue intent
  selfTradePreventionMode := "EXPIRE_TAKER"
  recvWindow := 5000
  timestamp := timestamp
  metadata_hash := env.hexdigest (canonical_json env.floats (.dict (request_metadata intent)))

end Request

/-! ## The translation -/

section Translate

variable {K : Type} [Field K] [LinearOrder K] [FloorRing K]

/-- The tolerance of the reduce-only check, `1e-9`. -/
def reduce_only_tolerance : K := 1 / 10 ^ 9

/-- The price of the order: the requested one, 0 unless it is positive and finite, rounded
where there are rules. -/
def rounded_price (rules : Option (ExchangeSymbolRules K)) (price : PyFloat K) : K :=
  match positive_finite price with
  | none => 0
  | some price =>
      match rules with
      | none => price
      | some rules => round_down_to_increment price (rules.tick_size.getD 0)

/-- The quantity of the order, likewise. -/
def rounded_quantity (rules : Option (ExchangeSymbolRules K)) (quantity : PyFloat K) : K :=
  match positive_finite quantity with
  | none => 0
  | some quantity =>
      match rules with
      | none => quantity
      | some rules => round_down_to_increment quantity (rules.step_size.getD 0)

/-- The reasons that the rules of the symbol give. -/
def rules_reasons (leverage : ℤ) (rules : Option (ExchangeSymbolRules K)) (notional : K) :
    List String :=
  match rules with
  | none => ["missing_exchange_rules"]
  | some rules =>
      rule_rejections rules
        ++ reason_if (notional < rules.min_notional.getD 0) "min_notional_violation"
        ++ match max_leverage rules with
          | some max_leverage => reason_if (max_leverage < leverage) "leverage_exceeds_symbol_bracket"
          | none => []

/-- The reasons that a reduce-only intent gives. -/
def reduce_only_reasons (current_position_notional : Option K) (notional : K) : List String :=
  match current_position_notional with
  | none => ["reduce_only_without_position"]
  | some position =>
      if position ≤ 0 then ["reduce_only_without_position"]
      else reason_if (position + reduce_only_tolerance < notional) "reduce_only_exceeds_position"

/-- All reasons of `translate`. -/
def translate_reasons (translator : BinanceUsdMTranslator K) (intent : InternalOrderIntent K)
    (args : TranslateArgs K) : List String :=
  let rules := translator.rules_cache.symbols.lookup intent.symbol
  let notional := rounded_quantity rules args.quantity * rounded_price rules args.price
  validate_internal_order_intent intent
    ++ number_reasons "quantity" args.quantity
    ++ number_reasons "price" args.price
    ++ rules_reasons translator.leverage rules notional
    ++ reason_if (translator.margin_mode ∉ ["cross", "isolated"]) "invalid_margin_mode"
    ++ reason_if (translator.position_mode ∉ ["one_way", "hedge"]) "invalid_position_mode"
    ++ (if intent.reduce_only_required then
        reduce_only_reasons args.current_position_notional notional
      else [])
    ++ reason_if (args.close_position
        ∧ (¬ intent.reduce_only_required ∨ intent.intent_type ≠ "close"))
      "close_position_requires_close_reduce_only_intent"
    ++ reason_if (time_in_force intent args.passive = "GTX"
        ∧ ∃ rules' ∈ rules, "LIMIT" ∉ rules'.order_types)
      "limit_order_type_not_allowed"

/-- `BinanceUsdMTranslator.translate`. -/
def translate (env : OrderEnv K) (translator : BinanceUsdMTranslator K)
    (intent : InternalOrderIntent K) (args : TranslateArgs K) : TranslationReport K :=
  let rules := translator.rules_cache.symbols.lookup intent.symbol
  let reasons := translate_reasons translator intent args
  let request := build_venue_order_request env intent "binance_usdm"
    (max (rounded_quantity rules args.quantity) 0) "LIMIT"
    (some (time_in_force intent args.passive)) (some (rounded_price rules args.price))
    args.timestamp (position_side intent translator.position_mode)
  { passed := reasons.isEmpty
    raw_intent := intent
    rounded_order :=
      if args.close_position then { request with closePosition := true, reduceOnly := true }
      else request
    rule_snapshot_hash := translator.rules_cache.snapshot_hash
    rejection_reasons := sorted_set reasons
    warnings := if args.passive then ["post_only_mapped_to_gtx"] else [] }

end Translate

/-! ## A tenth of a dollar -/

/-- Hashes are left empty. -/
def hashless_env : OrderEnv ℚ where
  floats := JsonFloats.rat
  hexdigest := fun _ => ""

/-- The rules of BTCUSDT. -/
def btc_rules : ExchangeSymbolRules ℚ where
  symbol := "BTCUSDT"
  tick_size := some (1 / 10)
  step_size := some (1 / 1000)
  min_notional := some 5
  order_types := ["LIMIT", "MARKET"]
  leverage_brackets := [[("initialLeverage", .int 50)]]
  margin_asset := some "USDT"
  status := some "TRADING"
  contract_type := some "PERPETUAL"
  quote_asset := some "USDT"

/-- A translator that knows BTCUSDT. -/
def btc_translator : BinanceUsdMTranslator ℚ where
  rules_cache := ⟨(∅ : Dict String (ExchangeSymbolRules ℚ)).insert "BTCUSDT" btc_rules, "hash"⟩
  position_mode := "one_way"
  margin_mode := "cross"
  leverage := 10

/-- An intent to sell a position down. -/
def sell_down : InternalOrderIntent ℚ where
  intent_id := "intent-1"
  artifact_id := "artifact-btc"
  portfolio_plan_id := "portfolio-v1"
  symbol := "BTCUSDT"
  desired_position_delta := -100
  side := "SELL"
  intent_type := "reduction"
  urgency := "normal"
  reduce_only_required := true
  max_slippage_bps := 8
  max_spread_bps := 5
  max_participation_rate := 1 / 10
  funding_guard_policy := "block"
  liquidation_guard_policy := "block"
  created_at := "2026-05-07T00:00:00Z"
  expires_at := "2026-05-07T00:15:00Z"

/-- The arguments for a quantity, a limit and a position. -/
def sell_args (quantity price position : ℚ) : TranslateArgs ℚ where
  quantity := PyFloat.of quantity
  price := PyFloat.of price
  timestamp := 0
  passive := false
  close_position := false
  current_position_notional := some position

end ProofAlpha.Execution
