/-
Stress scenarios and their presets: `validation/scenarios.py`.

`resolve_scenario_profile` fills the fields that a scenario leaves at their
default from the presets of its name, and then from those of its venue.
-/
import ProofAlpha.Lib.PyMath
import ProofAlpha.Lib.PyText

set_option autoImplicit false

namespace ProofAlpha.Validation

open ProofAlpha.Lib

/-- `StressScenario`. -/
structure StressScenario (K : Type) [Field K] where
  name : String
  severity : K
  description : String := ""
  funding_multiplier : K := 1
  liquidity_penalty_bps : K := 0
  spread_multiplier : K := 1
  depth_multiplier : K := 1
  latency_multiplier : K := 1
  latency_delta_bars : ℤ := 0
  drawdown_multiplier : K := 1
  mark_premium_bps : K := 0
  index_basis_bps : K := 0
  premium_spike_bars : ℤ := 0
  open_interest_multiplier : K := 1
  liquidation_multiplier : K := 1
  volatility_multiplier : K := 1
  target_regimes : List String := []
  calibration_mode : String := "static"
  hawkes_cascade_multiplier : K := 1
  jump_severity_factor : K := 1

/-- The fields with a number that a preset can fill. -/
inductive NumberField
  | funding_multiplier
  | liquidity_penalty_bps
  | spread_multiplier
  | depth_multiplier
  | latency_multiplier
  | drawdown_multiplier
  | mark_premium_bps
  | index_basis_bps
  | open_interest_multiplier
  | liquidation_multiplier
  | volatility_multiplier

/-- The fields with a number of bars that a preset can fill. -/
inductive BarsField
  | latency_delta_bars
  | premium_spike_bars

/-- An entry of a preset. -/
inductive PresetEntry (K : Type)
  | number (field : NumberField) (value : K)
  | bars (field : BarsField) (value : ℤ)

/-- `SCENARIO_ALIASES`. -/
def SCENARIO_ALIASES : List (String × String) :=
  [("attention-burst", "attention_burst"),
    ("joint-crypto-dislocation", "joint_crypto_dislocation"),
    ("liquidity-withdrawal", "liquidity_withdrawal"),
    ("mark-index-dislocation", "mark_index_dislocation"),
    ("outage-shock", "venue_outage"),
    ("short-squeeze", "short_squeeze")]

/-- `_canonical_scenario_name`. -/
def canonical_scenario_name (scenario_name : String) : String :=
  (SCENARIO_ALIASES.lookup scenario_name).getD scenario_name

section Presets

variable {K : Type} [Field K]

/-- `SCENARIO_PRESETS`. -/
def SCENARIO_PRESETS : List (String × List (PresetEntry K)) :=
  [("funding_basis_shock",
      [.number .funding_multiplier 2.1, .number .mark_premium_bps 160,
        .number .volatility_multiplier 1.15, .number .spread_multiplier 1.1,
        .number .depth_multiplier 0.95]),
    ("joint_crypto_dislocation",
      [.number .funding_multiplier 2, .number .liquidity_penalty_bps 42,
        .number .spread_multiplier 2, .number .depth_multiplier 0.4,
        .number .latency_multiplier 1.75, .number .drawdown_multiplier 1.7,
        .number .mark_premium_bps 210, .number .index_basis_bps 135,
        .bars .premium_spike_bars 4, .number .open_interest_multiplier 1.3,
        .number .liquidation_multiplier 2.7, .number .volatility_multiplier 1.35]),
    ("liquidation_cascade",
      [.number .liquidity_penalty_bps 52, .number .spread_multiplier 1.8,
        .number .depth_multiplier 0.55, .number .latency_multiplier 1.4,
        .number .drawdown_multiplier 1.6, .number .mark_premium_bps 220,
        .number .open_interest_multiplier 1.3, .number .liquidation_multiplier 2.6]),
    ("attention_burst",
      [.number .funding_multiplier 1.3, .number .liquidity_penalty_bps 12,
        .number .spread_multiplier 1.15, .number .depth_multiplier 0.9,
        .number .latency_multiplier 1.1, .number .drawdown_multiplier 1.1,
        .number .mark_premium_bps 40, .number .volatility_multiplier 1.35]),
    ("liquidity_withdrawal",
      [.number .liquidity_penalty_bps 35, .number .spread_multiplier 2,
        .number .depth_multiplier 0.4, .number .latency_multiplier 1.8,
        .bars .latency_delta_bars 1, .number .drawdown_multiplier 1.25,
        .number .mark_premium_bps 90, .number .open_interest_multiplier 1.1,
        .number .liquidation_multiplier 1.4]),
    ("mark_index_dislocation",
      [.number .liquidity_penalty_bps 18, .number .drawdown_multiplier 1.25,
        .number .mark_premium_bps 150, .number .index_basis_bps 90,
        .bars .premium_spike_bars 3, .number .volatility_multiplier 1.1]),
    ("venue_outage",
      [.number .liquidity_penalty_bps 55, .number .spread_multiplier 2.5,
        .number .depth_multiplier 0.3, .number .latency_multiplier 2.5,
        .bars .latency_delta_bars 2, .number .drawdown_multiplier 1.4,
        .number .mark_premium_bps 160]),
    ("short_squeeze",
      [.number .funding_multiplier 1.6, .number .liquidity_penalty_bps 28,
        .number .spread_multiplier 1.5, .number .depth_multiplier 0.6,
        .number .latency_multiplier 1.3, .number .drawdown_multiplier 1.3,
        .number .mark_premium_bps 220, .number .open_interest_multiplier 1.2,
        .number .liquidation_multiplier 2])]

/-- `SCENARIO_VENUE_PRESETS["binance"]`. -/
def BINANCE_SCENARIO_PRESETS : List (String × List (PresetEntry K)) :=
  [("funding_basis_shock",
      [.number .funding_multiplier 2.3, .number .mark_premium_bps 180,
        .number .spread_multiplier 1.15, .number .depth_multiplier 0.9]),
    ("joint_crypto_dislocation",
      [.number .funding_multiplier 2.3, .number .liquidity_penalty_bps 50,
        .number .spread_multiplier 2.4, .number .depth_multiplier 0.3,
        .number .latency_multiplier 2, .number .drawdown_multiplier 1.85,
        .number .mark_premium_bps 260, .number .index_basis_bps 180,
        .bars .premium_spike_bars 5, .number .open_interest_multiplier 1.4,
        .number .liquidation_multiplier 3.2, .number .volatility_multiplier 1.45]),
    ("liquidation_cascade",
      [.number .liquidity_penalty_bps 65, .number .spread_multiplier 2.1,
        .number .depth_multiplier 0.45, .number .latency_multiplier 1.6,
        .number .mark_premium_bps 260, .number .open_interest_multiplier 1.4,
        .number .liquidation_multiplier 3]),
    ("attention_burst",
      [.number .liquidity_penalty_bps 15, .number .spread_multiplier 1.2,
        .number .depth_multiplier 0.85, .number .latency_multiplier 1.15,
        .number .mark_premium_bps 55]),
    ("liquidity_withdrawal",
      [.number .liquidity_penalty_bps 42, .number .spread_multiplier 2.4,
        .number .depth_multiplier 0.25, .number .latency_multiplier 2.2,
        .bars .latency_delta_bars 2, .number .mark_premium_bps 110]),
    ("mark_index_dislocation",
      [.number .liquidity_penalty_bps 22, .number .drawdown_multiplier 1.3,
        .number .mark_premium_bps 180, .number .index_basis_bps 120,
        .bars .premium_spike_bars 4, .number .volatility_multiplier 1.15]),
    ("venue_outage",
      [.number .liquidity_penalty_bps 65, .number .spread_multiplier 3,
        .number .depth_multiplier 0.15, .number .latency_multiplier 3,
        .bars .latency_delta_bars 3, .number .drawdown_multiplier 1.5,
        .number .mark_premium_bps 210]),
    ("short_squeeze",
      [.number .funding_multiplier 1.8, .number .liquidity_penalty_bps 34,
        .number .spread_multiplier 1.7, .number .depth_multiplier 0.5,
        .number .latency_multiplier 1.5, .number .mark_premium_bps 260,
        .number .liquidation_multiplier 2.2])]

/-- `SCENARIO_VENUE_PRESETS.get((venue or "").lower(), {})`. -/
def scenario_venue_presets (venue : String) : List (String × List (PresetEntry K)) :=
  if pyLower venue = "binance" then BINANCE_SCENARIO_PRESETS else []

/-- `_scenario_presets_for`. -/
def scenario_presets_for (scenario_name venue : String) : List (List (PresetEntry K)) :=
  let canonical_name := canonical_scenario_name scenario_name
  (SCENARIO_PRESETS.lookup canonical_name).toList
    ++ ((scenario_venue_presets venue).lookup canonical_name).toList

/-- `_scenario_field_default` of a number. -/
def scenario_field_default : NumberField → K
  | .liquidity_penalty_bps | .mark_premium_bps | .index_basis_bps => 0
  | _ => 1

/-- `getattr(scenario, key)` of a number. -/
def StressScenario.number (scenario : StressScenario K) : NumberField → K
  | .funding_multiplier => scenario.funding_multiplier
  | .liquidity_penalty_bps => scenario.liquidity_penalty_bps
  | .spread_multiplier => scenario.spread_multiplier
  | .depth_multiplier => scenario.depth_multiplier
  | .latency_multiplier => scenario.latency_multiplier
  | .drawdown_multiplier => scenario.drawdown_multiplier
  | .mark_premium_bps => scenario.mark_premium_bps
  | .index_basis_bps => scenario.index_basis_bps
  | .open_interest_multiplier => scenario.open_interest_multiplier
  | .liquidation_multiplier => scenario.liquidation_multiplier
  | .volatility_multiplier => scenario.volatility_multiplier

/-- `replace(scenario, **{key: value})` of a number. -/
def StressScenario.set_number (scenario : StressScenario K) (field : NumberField) (value : K) :
    StressScenario K :=
  match field with
  | .funding_multiplier => { scenario with funding_multiplier := value }
  | .liquidity_penalty_bps => { scenario with liquidity_penalty_bps := value }
  | .spread_multiplier => { scenario with spread_multiplier := value }
  | .depth_multiplier => { scenario with depth_multiplier := value }
  | .latency_multiplier => { scenario with latency_multiplier := value }
  | .drawdown_multiplier => { scenario with drawdown_multiplier := value }
  | .mark_premium_bps => { scenario with mark_premium_bps := value }
  | .index_basis_bps => { scenario with index_basis_bps := value }
  | .open_interest_multiplier => { scenario with open_interest_multiplier := value }
  | .liquidation_multiplier => { scenario with liquidation_multiplier := value }
  | .volatility_multiplier => { scenario with volatility_multiplier := value }

/-- `getattr(scenario, key)` of a number of bars. -/
def StressScenario.bars (scenario : StressScenario K) : BarsField → ℤ
  | .latency_delta_bars => scenario.latency_delta_bars
  | .premium_spike_bars => scenario.premium_spike_bars

/-- `replace(scenario, **{key: value})` of a number of bars. -/
def StressScenario.set_bars (scenario : StressScenario K) (field : BarsField) (value : ℤ) :
    StressScenario K :=
  match field with
  | .latency_delta_bars => { scenario with latency_delta_bars := value }
  | .premium_spike_bars => { scenario with premium_spike_bars := value }

/-- A preset entry fills a field that has its default. -/
def fill_field [DecidableEq K] (scenario : StressScenario K) : PresetEntry K → StressScenario K
  | .number field value =>
      if scenario.number field = scenario_field_default field then scenario.set_number field value
      else scenario
  | .bars field value => if scenario.bars field = 0 then scenario.set_bars field value else scenario

/-- `resolve_scenario_profile`. -/
def resolve_scenario_profile [DecidableEq K] (scenario : StressScenario K) (venue : String) :
    StressScenario K :=
  (scenario_presets_for scenario.name venue).flatten.foldl fill_field
    { scenario with name := canonical_scenario_name scenario.name }

end Presets

end ProofAlpha.Validation
