/-
Leverage tiers on their way from an exchange to the simulator: `_fetch_ccxt_leverage_tiers`,
`_build_ccxt_venue_profile_payload` and `_venue_profile_from_manifest` of `data/fetch.py`,
and the schedule checks of `simulate_strategy`.

A tier becomes an item of the maintenance margin schedule when it has a margin rate or a
leverage limit. The simulator asks every item for a rate, and for a leverage limit or a
notional limit beside it. A tier with the one and not the other is kept in the profile, and
every simulation that takes its schedule from the profile then fails
(`fetched_profile_passes_iff`).
-/
import ProofAlpha.Backtest.Simulator
import ProofAlpha.Data.Pagination
import ProofAlpha.Data.Snapshots

set_option autoImplicit false

namespace ProofAlpha.Data

open ProofAlpha.Lib
open ProofAlpha.Backtest (SimArguments check_maintenance_item check_fee_item
  resolve_liquidation_defaults positive_limit)

variable {K : Type} [Field K]

/-! ## The tiers -/

/-- A value that is a dict, else the empty one. -/
def dict_or_empty (value : JsonValue K) : JsonObject K :=
  match value with
  | .dict fields => fields
  | _ => []

/-- The keys of a tier: the exchange's and the profile's. -/
def tier_keys : List (String × String) :=
  [("minNotional", "min_notional"), ("maxNotional", "max_notional"),
    ("maxLeverage", "max_leverage"), ("maintenanceMarginRate", "maintenance_margin_ratio")]

/-- The tier of an item: those of the four values that it has. -/
def leverage_tier (texts : PyTexts K) (record : JsonObject K) : JsonObject K :=
  tier_keys.filterMap fun keys =>
    ((record_float texts.parse_float record [keys.1]).map JsonValue.float).map fun value => (keys.2, value)

/-- The items of what the exchange's method returned; `none` when it has no such method or
raised. -/
def raw_leverage_tiers (symbol : String) (payload : Option (JsonValue K)) : List (JsonValue K) :=
  let raw_tiers : JsonValue K :=
    match payload with
    | some (.dict fields) =>
        JsonObject.get_or fields symbol (JsonObject.get_or fields "tiers" (.list []))
    | some value => value
    | none => .null
  match raw_tiers with
  | .list items => items
  | _ => []

/-- `_fetch_ccxt_leverage_tiers`. -/
def fetch_ccxt_leverage_tiers (texts : PyTexts K) (symbol : String)
    (payload : Option (JsonValue K)) : List (JsonObject K) :=
  ((raw_leverage_tiers symbol payload).filterMap fun item =>
    match item with
    | .dict record => some (leverage_tier texts record)
    | _ => none).filter fun tier => ! tier.isEmpty

/-! ## The profile payload -/

section Profile

variable [LinearOrder K] [FloorRing K]

/-- `_market_max_leverage`. -/
def market_max_leverage (texts : PyTexts K) (market : JsonObject K) : Option K :=
  let leverage := dict_or_empty ((dict_or_empty (market.get "limits")).get "leverage")
  let leverage_filter := dict_or_empty ((dict_or_empty (market.get "info")).get "leverageFilter")
  [leverage.get "max", market.get "maxLeverage", leverage_filter.get "maxLeverage"].findSome?
    (float_or_none texts.parse_float)

/-- `_infer_symbol_quote`. -/
def infer_symbol_quote (symbol : String) : Option String :=
  let normalized := (pyUpper (pyStrip symbol)).toList
  if '/' ∈ normalized then
    some (String.ofList
      (((normalized.dropWhile fun c => c != '/').tail).takeWhile fun c => c != ':'))
  else ["USDT", "USDC", "USD"].find? fun suffix => suffix.toList.isSuffixOf normalized

/-- `_market_funding_interval_h`: an interval from 24 on is one in minutes. -/
def market_funding_interval_h (texts : PyTexts K) (market : JsonObject K)
    (venue : String) : Option ℤ :=
  match record_float texts.parse_float market ["fundingInterval", "funding_interval"] with
  | some numeric_value =>
      some (max 1 (roundHalfEven (if 24 ≤ numeric_value then numeric_value / 60 else numeric_value)))
  | none => if pyLower (pyStrip venue) ∈ ["binance", "bybit"] then some 8 else none

/-- `str(a or b or ... or "").upper() or None`. -/
def currency (texts : PyTexts K) (values : List (JsonValue K)) : Option String :=
  let text := pyUpper (py_str texts.composite_text ((values.find? truthy).getD (.str "")))
  if text = "" then none else some text

/-- A text, or `None`. -/
def optional_text (text : Option String) : JsonValue K :=
  match text with
  | some text => .str text
  | none => .null

/-- An integer, or `None`. -/
def optional_int (n : Option ℤ) : JsonValue K :=
  match n with
  | some n => .int n
  | none => .null

/-- `maintenance_schedule` of `_build_ccxt_venue_profile_payload`. -/
def maintenance_schedule (leverage_tiers : List (JsonObject K)) : List (JsonObject K) :=
  (leverage_tiers.filter fun item =>
      (List.lookup "maintenance_margin_ratio" item).isSome
        || (List.lookup "max_leverage" item).isSome).map fun item =>
    item.filter fun field => field.1 ∈ tier_keys.map Prod.snd

/-- `_build_ccxt_venue_profile_payload`. -/
def build_ccxt_venue_profile_payload (texts : PyTexts K)
    (venue exchange_id symbol : String) (market : JsonObject K)
    (leverage_tiers : List (JsonObject K)) : JsonObject K :=
  let quote_currency :=
    currency texts [market.get "quote", optional_text (infer_symbol_quote symbol)]
  let settlement_currency :=
    currency texts [market.get "settle", market.get "settlement", optional_text quote_currency]
  let profile_tiers :=
    match leverage_tiers, market_max_leverage texts market with
    | [], some max_leverage => [[("max_leverage", JsonValue.float max_leverage)]]
    | tiers, _ => tiers
  let schedule := maintenance_schedule leverage_tiers
  [("venue", .str venue),
    ("contract_type", .str
      (if truthy (market.get_or "swap" (.bool true)) then "perpetual"
        else py_str texts.composite_text (market.get_or "type" (.str "perpetual")))),
    ("quote_currency", optional_text quote_currency),
    ("settlement_currency", optional_text settlement_currency),
    ("funding_interval_h", optional_int (market_funding_interval_h texts market venue)),
    ("mark_price_source", .str "exchange_mark"),
    ("leverage_tiers", .list (profile_tiers.map .dict)),
    ("maintenance_margin_schedule", .list (schedule.map .dict)),
    ("liquidation_fee_schedule", .list []),
    ("liquidation_style", .str (if schedule.isEmpty then "full" else "partial")),
    ("partial_liquidation_ratio", .float (if schedule.isEmpty then 1 else 0.5)),
    ("liquidation_cooldown_bars", .int 0),
    ("liquidation_mark_price_weight", .float 0),
    ("liquidation_mark_premium_bps", .float 0),
    ("notes", .list
      [.str "phase1_ccxt_market_metadata",
        .str ("exchange_id=" ++ exchange_id),
        .str ("ccxt_symbol=" ++ symbol),
        .str (if venue = "bybit" then "bybit_v5_reference" else "ccxt_reference")])]

/-! ## The profile -/

/-- An item of `_float_list`: the fields with a number. -/
def float_item (texts : PyTexts K) (raw : JsonObject K) : JsonObject K :=
  raw.filterMap fun field =>
    (float_or_none texts.parse_float field.2).map fun value => (field.1, JsonValue.float value)

/-- `_float_list`. -/
def float_list (texts : PyTexts K) (payload : JsonObject K) (name : String) :
    List (JsonObject K) :=
  match payload.get name with
  | .list raw_items => (raw_items.filterMap fun raw =>
      match raw with
      | .dict fields => some (float_item texts fields)
      | _ => none).filter fun item => ! item.isEmpty
  | _ => []

/-- A currency of a manifest is a text or `None`. -/
def manifest_currency (value : JsonValue K) : Option String :=
  match value with
  | .str text => some text
  | _ => none

/-- `int(value) if value is not None else None`, `none` where `int` raises. -/
def manifest_interval (value : JsonValue K) : Option (Option ℤ) :=
  match value with
  | .null => some none
  | value => (int_or_none value).map some

/-- `_venue_profile_from_manifest`, `none` where a number cannot be read. -/
def venue_profile_from_manifest (texts : PyTexts K) (payload : JsonObject K) :
    Option (VenueProfile K) := do
  let str (key default : String) : String :=
    py_str texts.composite_text (payload.get_or key (.str default))
  let float (key : String) (default : K) : Option K :=
    float_or_none texts.parse_float (payload.get_or key (.float default))
  let funding_interval_h ← manifest_interval (payload.get "funding_interval_h")
  let partial_liquidation_ratio ← float "partial_liquidation_ratio" 1
  let liquidation_cooldown_bars ← int_or_none (payload.get_or "liquidation_cooldown_bars" (.int 0))
  let liquidation_mark_price_weight ← float "liquidation_mark_price_weight" 0
  let liquidation_mark_premium_bps ← float "liquidation_mark_premium_bps" 0
  return {
    venue := str "venue" ""
    contract_type := str "contract_type" "perpetual"
    quote_currency := manifest_currency (payload.get "quote_currency")
    settlement_currency := manifest_currency (payload.get "settlement_currency")
    funding_interval_h := funding_interval_h
    maker_fee_bps := none
    taker_fee_bps := none
    fee_schedule_source := none
    mark_price_source := str "mark_price_source" "exchange_mark"
    leverage_tiers := float_list texts payload "leverage_tiers"
    maintenance_margin_schedule := float_list texts payload "maintenance_margin_schedule"
    liquidation_fee_schedule := float_list texts payload "liquidation_fee_schedule"
    liquidation_style := str "liquidation_style" "full"
    partial_liquidation_ratio := partial_liquidation_ratio
    liquidation_cooldown_bars := liquidation_cooldown_bars
    liquidation_mark_price_weight := liquidation_mark_price_weight
    liquidation_mark_premium_bps := liquidation_mark_premium_bps
    notes :=
      match payload.get "notes" with
      | .list items => items.map (py_str texts.composite_text)
      | _ => [] }

/-! ## The profile in the simulator -/

/-- A number of a schedule item. -/
abbrev item_value (item : JsonObject K) (key : String) : Option K :=
  number_of (item.get key)

/-- The schedules that `simulate_strategy` resolves pass its checks. -/
def SchedulesPass (snapshot : Backtest.DataSnapshot K) (args : SimArguments K) : Prop :=
  (∃ tiers, (resolve_liquidation_defaults snapshot args).maintenance_margin_schedule.mapM
      check_maintenance_item = .ok tiers)
    ∧ ∃ tiers, (resolve_liquidation_defaults snapshot args).liquidation_fee_schedule.mapM
      check_fee_item = .ok tiers

end Profile

/-! ## What a tier holds -/

section Tiers

variable {texts : PyTexts K}

/-- A tier holds each of its four values under the profile's key. -/
theorem item_value_leverage_tier (record : JsonObject K) {keys : String × String}
    (hkeys : keys ∈ tier_keys) :
    item_value (leverage_tier texts record) keys.2
      = record_float texts.parse_float record [keys.1] := by
  have hlookup : List.lookup keys.2 (leverage_tier texts record)
      = (record_float texts.parse_float record [keys.1]).map JsonValue.float :=
    PyList.lookup_filterMap Prod.snd _ (by decide) hkeys
  unfold item_value JsonObject.get
  rw [hlookup]
  cases record_float texts.parse_float record [keys.1] with
  | none => rfl
  | some value => rfl

/-- A field of a tier has one of the four keys and a float. -/
theorem mem_leverage_tier {record : JsonObject K} {field : String × JsonValue K}
    (h : field ∈ leverage_tier texts record) :
    field.1 ∈ tier_keys.map Prod.snd ∧ ∃ value, field.2 = .float value := by
  obtain ⟨keys, hkeys, hfield⟩ := List.mem_filterMap.mp h
  obtain ⟨json, hjson, rfl⟩ := Option.map_eq_some_iff.mp hfield
  obtain ⟨value, -, rfl⟩ := Option.map_eq_some_iff.mp hjson
  exact ⟨List.mem_map_of_mem hkeys, value, rfl⟩

theorem mem_fetch_ccxt_leverage_tiers {symbol : String} {payload : Option (JsonValue K)}
    {tier : JsonObject K} :
    tier ∈ fetch_ccxt_leverage_tiers texts symbol payload
      ↔ tier ≠ [] ∧ ∃ record, .dict record ∈ raw_leverage_tiers symbol payload
        ∧ tier = leverage_tier texts record := by
  unfold fetch_ccxt_leverage_tiers
  rw [List.mem_filter, List.mem_filterMap]
  constructor
  · rintro ⟨⟨item, hitem, htier⟩, hne⟩
    cases item with
    | dict record => exact ⟨by simpa using hne, record, hitem, (Option.some.inj htier).symm⟩
    | _ => cases htier
  · rintro ⟨hne, record, hrecord, rfl⟩
    exact ⟨⟨_, hrecord, rfl⟩, by simpa using hne⟩

/-- Reading floats back changes nothing. -/
theorem float_item_of_floats {item : JsonObject K}
    (h : ∀ field ∈ item, ∃ value, field.2 = JsonValue.float value) : float_item texts item = item := by
  refine (List.filterMap_congr fun field hfield => ?_).trans List.filterMap_some
  obtain ⟨value, hvalue⟩ := h field hfield
  obtain ⟨key, json⟩ := field
  dsimp only at hvalue ⊢
  rw [hvalue]
  rfl

/-- The tiers of the schedule are read back as they are. -/
theorem float_list_of_floats {payload : JsonObject K} {name : String} {items : List (JsonObject K)}
    (hpayload : payload.get name = .list (items.map .dict)) (hne : ∀ item ∈ items, item ≠ [])
    (hfloats : ∀ item ∈ items, ∀ field ∈ item, ∃ value, field.2 = JsonValue.float value) :
    float_list texts payload name = items := by
  unfold float_list
  rw [hpayload]
  dsimp only
  rw [List.filterMap_map]
  have hread : items.filterMap ((fun raw : JsonValue K =>
      match raw with
      | .dict fields => some (float_item texts fields)
      | _ => none) ∘ .dict) = items := by
    refine (List.filterMap_congr fun item hitem => ?_).trans List.filterMap_some
    exact congrArg some (float_item_of_floats (hfloats item hitem))
  rw [hread, List.filter_eq_self]
  intro item hitem
  simpa using hne item hitem

/-- A tier that enters the schedule. -/
def Scheduled (item : JsonObject K) : Prop :=
  (item_value item "maintenance_margin_ratio").isSome = true
    ∨ (item_value item "max_leverage").isSome = true

/-- The schedule holds the tiers that have a margin rate or a leverage limit, whole. -/
theorem mem_maintenance_schedule {symbol : String} {payload : Option (JsonValue K)}
    {item : JsonObject K} :
    item ∈ maintenance_schedule (fetch_ccxt_leverage_tiers texts symbol payload)
      ↔ Scheduled item ∧ item ∈ fetch_ccxt_leverage_tiers texts symbol payload := by
  have hwhole : ∀ tier ∈ fetch_ccxt_leverage_tiers texts symbol payload,
      (tier.filter fun field => field.1 ∈ tier_keys.map Prod.snd) = tier := by
    intro tier htier
    obtain ⟨-, record, -, rfl⟩ := mem_fetch_ccxt_leverage_tiers.mp htier
    rw [List.filter_eq_self]
    exact fun field hfield => decide_eq_true (mem_leverage_tier hfield).1
  have hvalue : ∀ tier ∈ fetch_ccxt_leverage_tiers texts symbol payload, ∀ key,
      (List.lookup key tier).isSome = (item_value tier key).isSome := by
    intro tier htier key
    obtain ⟨-, record, -, rfl⟩ := mem_fetch_ccxt_leverage_tiers.mp htier
    unfold item_value JsonObject.get
    cases hlookup : List.lookup key (leverage_tier texts record) with
    | none => rfl
    | some json =>
        obtain ⟨-, value, hfloat⟩ := mem_leverage_tier (PyList.mem_of_lookup_eq_some hlookup)
        rw [show json = .float value from hfloat]
        rfl
  unfold maintenance_schedule Scheduled
  rw [List.mem_map]
  constructor
  · rintro ⟨tier, htier, rfl⟩
    obtain ⟨htier, hkeys⟩ := List.mem_filter.mp htier
    rw [hwhole tier htier]
    rw [hvalue tier htier, hvalue tier htier, Bool.or_eq_true] at hkeys
    exact ⟨hkeys, htier⟩
  · rintro ⟨hkeys, htier⟩
    refine ⟨item, List.mem_filter.mpr ⟨htier, ?_⟩, hwhole item htier⟩
    rw [hvalue item htier, hvalue item htier, Bool.or_eq_true]
    exact hkeys

end Tiers

/-! ## What the simulator checks -/

section Checks

variable [LinearOrder K]

/-- The limits of an item are positive and its rate is a fraction below one. -/
structure ItemLimits (item : JsonObject K) : Prop where
  max_leverage : ∀ value, item_value item "max_leverage" = some value → 0 < value
  max_notional : ∀ value, item_value item "max_notional" = some value → 0 < value
  maintenance_margin_ratio :
    ∀ value, item_value item "maintenance_margin_ratio" = some value → 0 ≤ value ∧ value < 1

/-- An item has a rate, and a limit up to which it holds. -/
def ItemComplete (item : JsonObject K) : Prop :=
  (item_value item "maintenance_margin_ratio").isSome = true
    ∧ ((item_value item "max_leverage").isSome = true
      ∨ (item_value item "max_notional").isSome = true)

theorem positive_limit_of_forall {limit : Option K} (h : ∀ value, limit = some value → 0 < value) :
    positive_limit limit = true := by
  cases limit with
  | none => rfl
  | some value => exact decide_eq_true (h value rfl)

/-- An item with proper values passes its checks when it is complete. -/
theorem check_maintenance_item_ok_iff {item : JsonObject K} (hlimits : ItemLimits item)
    (hsteps : item.get "liquidation_step_schedule" = .null)
    (hliquidation : item.get "partial_liquidation_ratio" = .null) :
    (∃ tier, check_maintenance_item (maintenance_item item) = .ok tier) ↔ ItemComplete item := by
  unfold check_maintenance_item ItemComplete
  have hratio : (maintenance_item item).maintenance_margin_ratio
    = item_value item "maintenance_margin_ratio" := rfl
  rw [hratio]
  cases hrate : item_value item "maintenance_margin_ratio" with
  | none => simp
  | some ratio =>
      dsimp only
      constructor
      · rintro ⟨tier, htier⟩
        obtain ⟨hlimit, -⟩ := require_bind_ok htier
        exact ⟨rfl, by simpa [maintenance_item] using hlimit⟩
      · rintro ⟨-, hlimit⟩
        have hsteps : (maintenance_item item).liquidation_step_schedule = [] :=
          congrArg numbers_of hsteps
        have hown : (maintenance_item item).partial_liquidation_ratio = none :=
          congrArg number_of hliquidation
        have hleverage : positive_limit (maintenance_item item).max_leverage = true :=
          positive_limit_of_forall hlimits.max_leverage
        have hnotional : positive_limit (maintenance_item item).max_notional = true :=
          positive_limit_of_forall hlimits.max_notional
        rw [hsteps, hown, require_ok (by simpa [maintenance_item] using hlimit),
          require_ok hleverage, require_ok hnotional,
          require_ok (decide_eq_true (hlimits.maintenance_margin_ratio ratio hrate))]
        exact ⟨_, rfl⟩

/-- Schedules that come from a profile pass when each of its items does. -/
theorem schedulesPass_iff {profile : VenueProfile K} (hfee : profile.liquidation_fee_schedule = [])
    {snapshot : Backtest.DataSnapshot K} (hprofile : snapshot.venue_profile = some profile.simulated)
    {args : SimArguments K} (hmargin : args.maintenance_margin_schedule = none)
    (hfees : args.liquidation_fee_schedule = none) :
    SchedulesPass snapshot args
      ↔ ∀ item ∈ profile.maintenance_margin_schedule,
        ∃ tier, check_maintenance_item (maintenance_item item) = .ok tier := by
  unfold SchedulesPass resolve_liquidation_defaults VenueProfile.simulated at *
  dsimp only
  rw [hprofile, hmargin, hfees]
  dsimp only [Backtest.unset_or, Option.map_some, Option.getD_none, Option.getD_some]
  rw [hfee, exists_mapM_ok_iff, List.forall_mem_map]
  exact and_iff_left ⟨[], rfl⟩

end Checks

/-! ## From the exchange to the simulator -/

section Fetched

variable [LinearOrder K] [FloorRing K] {texts : PyTexts K}

theorem manifest_interval_optional_int (n : Option ℤ) :
    manifest_interval (optional_int n : JsonValue K) = some n := by
  cases n with
  | none => rfl
  | some n => rfl

/-- A manifest that was written is read back, with the schedule of its tiers. -/
theorem venue_profile_from_manifest_build (texts : PyTexts K) (venue exchange_id symbol : String)
    (market : JsonObject K) {leverage_tiers : List (JsonObject K)}
    (hne : ∀ item ∈ maintenance_schedule leverage_tiers, item ≠ [])
    (hfloats : ∀ item ∈ maintenance_schedule leverage_tiers, ∀ field ∈ item,
      ∃ value, field.2 = JsonValue.float value) :
    ∃ profile, venue_profile_from_manifest texts
        (build_ccxt_venue_profile_payload texts venue exchange_id symbol market leverage_tiers)
          = some profile
      ∧ profile.maintenance_margin_schedule = maintenance_schedule leverage_tiers
      ∧ profile.liquidation_fee_schedule = [] := by
  let payload :=
    build_ccxt_venue_profile_payload texts venue exchange_id symbol market leverage_tiers
  have hschedule : float_list texts payload "maintenance_margin_schedule"
      = maintenance_schedule leverage_tiers := float_list_of_floats rfl hne hfloats
  have hinterval : manifest_interval (payload.get "funding_interval_h")
      = some (market_funding_interval_h texts market venue) := manifest_interval_optional_int _
  unfold venue_profile_from_manifest
  rw [← hschedule, hinterval]
  exact ⟨_, rfl, rfl, rfl⟩

/-- The values that an exchange may give: positive limits, and a rate below one. -/
structure RecordLimits (texts : PyTexts K) (record : JsonObject K) : Prop where
  max_leverage : ∀ value,
    record_float texts.parse_float record ["maxLeverage"] = some value → 0 < value
  max_notional : ∀ value,
    record_float texts.parse_float record ["maxNotional"] = some value → 0 < value
  maintenance_margin_rate : ∀ value,
    record_float texts.parse_float record ["maintenanceMarginRate"] = some value →
      0 ≤ value ∧ value < 1

/-- A record with a margin rate or a leverage limit. -/
def RecordScheduled (texts : PyTexts K) (record : JsonObject K) : Prop :=
  (record_float texts.parse_float record ["maintenanceMarginRate"]).isSome = true
    ∨ (record_float texts.parse_float record ["maxLeverage"]).isSome = true

/-- A record with a margin rate, and a limit of leverage or of notional. -/
def RecordComplete (texts : PyTexts K) (record : JsonObject K) : Prop :=
  (record_float texts.parse_float record ["maintenanceMarginRate"]).isSome = true
    ∧ ((record_float texts.parse_float record ["maxLeverage"]).isSome = true
      ∨ (record_float texts.parse_float record ["maxNotional"]).isSome = true)

section Records

variable (texts) (record : JsonObject K)

omit [LinearOrder K] [FloorRing K]

theorem item_value_max_leverage : item_value (leverage_tier texts record) "max_leverage"
    = record_float texts.parse_float record ["maxLeverage"] :=
  item_value_leverage_tier record
    (show ("maxLeverage", "max_leverage") ∈ tier_keys by decide)

theorem item_value_max_notional : item_value (leverage_tier texts record) "max_notional"
    = record_float texts.parse_float record ["maxNotional"] :=
  item_value_leverage_tier record
    (show ("maxNotional", "max_notional") ∈ tier_keys by decide)

theorem item_value_maintenance_margin_ratio :
    item_value (leverage_tier texts record) "maintenance_margin_ratio"
      = record_float texts.parse_float record ["maintenanceMarginRate"] :=
  item_value_leverage_tier record
    (show ("maintenanceMarginRate", "maintenance_margin_ratio") ∈ tier_keys by decide)

theorem leverage_tier_get_of_not_mem {key : String} (hkey : key ∉ tier_keys.map Prod.snd) :
    JsonObject.get (leverage_tier texts record) key = .null := by
  unfold JsonObject.get
  cases hlookup : List.lookup key (leverage_tier texts record) with
  | none => rfl
  | some json =>
      exact absurd (mem_leverage_tier (PyList.mem_of_lookup_eq_some hlookup)).1 hkey

/-- A tier is scheduled for what its record gives. -/
theorem scheduled_leverage_tier_iff :
    Scheduled (leverage_tier texts record) ↔ RecordScheduled texts record := by
  unfold Scheduled RecordScheduled
  rw [item_value_max_leverage, item_value_maintenance_margin_ratio]

end Records

omit [FloorRing K] in
/-- The simulator takes the tier of a record that is complete, and of no other. -/
theorem check_leverage_tier_ok_iff (texts : PyTexts K) {record : JsonObject K}
    (hlimits : RecordLimits texts record) :
    (∃ tier, check_maintenance_item (maintenance_item (leverage_tier texts record)) = .ok tier)
      ↔ RecordComplete texts record := by
  have hvalues : ItemLimits (leverage_tier texts record) := by
    constructor
    · rw [item_value_max_leverage]
      exact hlimits.max_leverage
    · rw [item_value_max_notional]
      exact hlimits.max_notional
    · rw [item_value_maintenance_margin_ratio]
      exact hlimits.maintenance_margin_rate
  rw [check_maintenance_item_ok_iff hvalues
    (leverage_tier_get_of_not_mem texts record (by decide))
    (leverage_tier_get_of_not_mem texts record (by decide))]
  unfold ItemComplete RecordComplete
  rw [item_value_max_leverage, item_value_max_notional, item_value_maintenance_margin_ratio]

omit [LinearOrder K] [FloorRing K] in
/-- A scheduled tier is not empty. -/
theorem Scheduled.ne_nil {item : JsonObject K} (h : Scheduled item) : item ≠ [] := by
  rintro rfl
  rcases h with h | h
  · cases h
  · cases h

/-- A fetched profile passes the schedule checks of every simulation that takes its
schedules from it if and only if each tier with a margin rate or a leverage limit has the
rate, and a limit of leverage or of notional. -/
theorem fetched_profile_passes_iff (texts : PyTexts K) (venue exchange_id symbol : String)
    (market : JsonObject K) (payload : Option (JsonValue K))
    (hlimits : ∀ record, JsonValue.dict record ∈ raw_leverage_tiers symbol payload →
      RecordLimits texts record) :
    ∃ profile, venue_profile_from_manifest texts
        (build_ccxt_venue_profile_payload texts venue exchange_id symbol market
          (fetch_ccxt_leverage_tiers texts symbol payload)) = some profile
      ∧ ∀ (snapshot : Backtest.DataSnapshot K) (args : SimArguments K),
        snapshot.venue_profile = some profile.simulated →
        args.maintenance_margin_schedule = none → args.liquidation_fee_schedule = none →
          (SchedulesPass snapshot args
            ↔ ∀ record, JsonValue.dict record ∈ raw_leverage_tiers symbol payload →
              RecordScheduled texts record → RecordComplete texts record) := by
  have hitems : ∀ item ∈ maintenance_schedule (fetch_ccxt_leverage_tiers texts symbol payload),
      Scheduled item ∧ ∃ record, JsonValue.dict record ∈ raw_leverage_tiers symbol payload
        ∧ item = leverage_tier texts record := by
    intro item hitem
    obtain ⟨hscheduled, hfetched⟩ := mem_maintenance_schedule.mp hitem
    exact ⟨hscheduled, (mem_fetch_ccxt_leverage_tiers.mp hfetched).2⟩
  obtain ⟨profile, hread, hmargin, hfee⟩ := venue_profile_from_manifest_build texts venue
    exchange_id symbol market (fun item hitem => (hitems item hitem).1.ne_nil) (by
      intro item hitem field hfield
      obtain ⟨-, record, -, rfl⟩ := hitems item hitem
      exact (mem_leverage_tier hfield).2)
  refine ⟨profile, hread, ?_⟩
  intro snapshot args hprofile hschedule hfees
  rw [schedulesPass_iff hfee hprofile hschedule hfees, hmargin]
  constructor
  · intro hpass record hrecord hkept
    have htier := (scheduled_leverage_tier_iff texts record).mpr hkept
    refine (check_leverage_tier_ok_iff texts (hlimits record hrecord)).mp
      (hpass _ (mem_maintenance_schedule.mpr ⟨htier, ?_⟩))
    exact mem_fetch_ccxt_leverage_tiers.mpr ⟨htier.ne_nil, record, hrecord, rfl⟩
  · intro hcomplete item hitem
    obtain ⟨htier, record, hrecord, rfl⟩ := hitems item hitem
    have hkept := (scheduled_leverage_tier_iff texts record).mp htier
    exact (check_leverage_tier_ok_iff texts (hlimits record hrecord)).mpr
      (hcomplete record hrecord hkept)

end Fetched

/-! ## A tier without a rate -/

/-- An empty snapshot of a venue with the given profile. -/
def profiled_snapshot (profile : VenueProfile ℚ) : Backtest.DataSnapshot ℚ where
  venue := "bybit"
  timeframe := "1h"
  candles := []
  funding_rates := []
  open_interest := []
  liquidation_notional := []
  taker_fee_bps := 5
  spread_bps := []
  depth_bid_1bp_usd := []
  depth_ask_1bp_usd := []
  latency_proxy_ms := []
  venue_profile := some profile.simulated
  provenance_microstructure := none

/-- The answer of an exchange with one tier. -/
def one_tier (tier : JsonObject ℚ) : Option (JsonValue ℚ) :=
  some (.dict [("BTC/USDT:USDT", .list [.dict tier])])

/-- A tier with all four values. -/
def full_tier : JsonObject ℚ :=
  [("minNotional", .int 0), ("maxNotional", .int 1000000), ("maxLeverage", .int 100),
    ("maintenanceMarginRate", .float 0.005)]

/-- A tier with all four values is complete. -/
theorem fetched_profile_passes_full :
    ∃ profile, venue_profile_from_manifest plain_texts
        (build_ccxt_venue_profile_payload plain_texts "bybit" "bybit" "BTC/USDT:USDT" []
          (fetch_ccxt_leverage_tiers plain_texts "BTC/USDT:USDT" (one_tier full_tier)))
            = some profile
      ∧ SchedulesPass (profiled_snapshot profile) (Backtest.plain_args [] [] 0 0 1 "flat") := by
  have honly : ∀ record, JsonValue.dict record ∈ raw_leverage_tiers "BTC/USDT:USDT"
      (one_tier full_tier) → record = full_tier := by
    intro record hrecord
    exact JsonValue.dict.inj (List.mem_singleton.mp hrecord)
  obtain ⟨profile, hread, hpass⟩ := fetched_profile_passes_iff plain_texts "bybit" "bybit"
    "BTC/USDT:USDT" [] (one_tier full_tier) (by
      intro record hrecord
      rw [honly record hrecord]
      constructor
      · rintro value ⟨⟩
        decide +kernel
      · rintro value ⟨⟩
        decide +kernel
      · rintro value ⟨⟩
        decide +kernel)
  refine ⟨profile, hread, (hpass (profiled_snapshot profile) _ rfl rfl rfl).mpr ?_⟩
  intro record hrecord _
  rw [honly record hrecord]
  exact ⟨rfl, Or.inl rfl⟩

/-- A tier with a leverage limit and nothing else makes every simulation of its profile raise. -/
theorem leverage_limit_without_rate_raises :
    ∃ profile, venue_profile_from_manifest plain_texts
        (build_ccxt_venue_profile_payload plain_texts "bybit" "bybit" "BTC/USDT:USDT" []
          (fetch_ccxt_leverage_tiers plain_texts "BTC/USDT:USDT"
            (one_tier [("maxLeverage", .int 100)]))) = some profile
      ∧ ¬ SchedulesPass (profiled_snapshot profile) (Backtest.plain_args [] [] 0 0 1 "flat")
      ∧ ∃ item ∈ profile.maintenance_margin_schedule,
        check_maintenance_item (maintenance_item item)
          = .error "maintenance_margin_schedule items must include maintenance_margin_ratio" := by
  refine ⟨_, rfl, ?_, [("max_leverage", .float 100)], List.mem_singleton.mpr rfl, rfl⟩
  rintro ⟨⟨tiers, htiers⟩, -⟩
  cases htiers

end ProofAlpha.Data
