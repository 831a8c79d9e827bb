/-
Which preset a field of a resolved scenario comes from.

The presets are filled in one after the other, the base preset of the scenario's name before that
of the venue, and a filled field no longer has its default. So where both presets have a
value the base preset's stays (`number_resolve`), while a venue preset is to override it:
`layered_profile` is what comes of that order. The two agree exactly when the scenario itself sets
every field on which the presets differ (`PresetsAgree`). As every field of a venue's preset is in
the base preset too, the venue makes no difference at all (`resolve_scenario_profile_venue`).
-/
import Mathlib.Algebra.Order.Ring.Rat
import ProofAlpha.Validation.ScenarioResolution

set_option autoImplicit false

namespace ProofAlpha.Validation

open ProofAlpha.Lib

deriving instance DecidableEq for NumberField, BarsField

variable {K : Type} [Field K]

/-! ## The layers -/

/-- The preset of a scenario's name. -/
def base_preset (scenario_name : String) : List (PresetEntry K) :=
  (SCENARIO_PRESETS.lookup (canonical_scenario_name scenario_name)).getD []

/-- The venue's preset of a scenario's name. -/
def venue_preset (scenario_name venue : String) : List (PresetEntry K) :=
  ((scenario_venue_presets venue).lookup (canonical_scenario_name scenario_name)).getD []

/-- The field of an entry. -/
def PresetEntry.field : PresetEntry K → NumberField ⊕ BarsField
  | .number own _ => .inl own
  | .bars own _ => .inr own

/-- The value that an entry has for a number. -/
def PresetEntry.number_value (field : NumberField) : PresetEntry K → Option K
  | .number own value => if own = field then some value else none
  | .bars _ _ => none

/-- The value that an entry has for a number of bars. -/
def PresetEntry.bars_value (field : BarsField) : PresetEntry K → Option ℤ
  | .number _ _ => none
  | .bars own value => if own = field then some value else none

/-- The value of a preset for a number. -/
def preset_number (preset : List (PresetEntry K)) (field : NumberField) : Option K :=
  preset.findSome? (PresetEntry.number_value field)

/-- The value of a preset for a number of bars. -/
def preset_bars (preset : List (PresetEntry K)) (field : BarsField) : Option ℤ :=
  preset.findSome? (PresetEntry.bars_value field)

/-- The scenario with other values for its name and for the fields that a preset can fill. -/
def StressScenario.with_fields (scenario : StressScenario K) (name : String)
    (number : NumberField → K) (bars : BarsField → ℤ) : StressScenario K :=
  { scenario with
    name := name
    funding_multiplier := number .funding_multiplier
    liquidity_penalty_bps := number .liquidity_penalty_bps
    spread_multiplier := number .spread_multiplier
    depth_multiplier := number .depth_multiplier
    latency_multiplier := number .latency_multiplier
    latency_delta_bars := bars .latency_delta_bars
    drawdown_multiplier := number .drawdown_multiplier
    mark_premium_bps := number .mark_premium_bps
    index_basis_bps := number .index_basis_bps
    premium_spike_bars := bars .premium_spike_bars
    open_interest_multiplier := number .open_interest_multiplier
    liquidation_multiplier := number .liquidation_multiplier
    volatility_multiplier := number .volatility_multiplier }

variable [DecidableEq K]

/-- The number that a scenario sets, else that of the venue's preset, else that of the base preset,
else the default. -/
def layered_number (scenario : StressScenario K) (venue : String) (field : NumberField) : K :=
  if scenario.number field = scenario_field_default field then
    ((preset_number (venue_preset scenario.name venue) field).or
      (preset_number (base_preset scenario.name) field)).getD (scenario_field_default field)
  else scenario.number field

/-- The same for a number of bars. -/
def layered_bars (scenario : StressScenario K) (venue : String) (field : BarsField) : ℤ :=
  if scenario.bars field = 0 then
    ((preset_bars (K := K) (venue_preset scenario.name venue) field).or
      (preset_bars (K := K) (base_preset scenario.name) field)).getD 0
  else scenario.bars field

/-- The scenario with the venue's preset over the base preset. -/
def layered_profile (scenario : StressScenario K) (venue : String) : StressScenario K :=
  scenario.with_fields (canonical_scenario_name scenario.name) (layered_number scenario venue)
    (layered_bars scenario venue)

/-- Where both presets have a value for a field that the scenario leaves at its default, it is one
value. -/
structure PresetsAgree (scenario : StressScenario K) (venue : String) : Prop where
  number : ∀ (field : NumberField) (base override : K),
    preset_number (base_preset scenario.name) field = some base →
    preset_number (venue_preset scenario.name venue) field = some override →
    scenario.number field = scenario_field_default field → override = base
  bars : ∀ (field : BarsField) (base override : ℤ),
    preset_bars (K := K) (base_preset scenario.name) field = some base →
    preset_bars (K := K) (venue_preset scenario.name venue) field = some override →
    scenario.bars field = 0 → override = base

/-! ## Fields -/

omit [DecidableEq K] in
@[simp] theorem number_with_fields (scenario : StressScenario K) (name : String)
    (number : NumberField → K) (bars : BarsField → ℤ) :
    (scenario.with_fields name number bars).number = number := by
  funext field
  cases field <;> rfl

omit [DecidableEq K] in
@[simp] theorem bars_with_fields (scenario : StressScenario K) (name : String)
    (number : NumberField → K) (bars : BarsField → ℤ) :
    (scenario.with_fields name number bars).bars = bars := by
  funext field
  cases field <;> rfl

omit [DecidableEq K] in
theorem with_fields_inj {scenario : StressScenario K} {name : String}
    {number number' : NumberField → K} {bars bars' : BarsField → ℤ} :
    scenario.with_fields name number bars = scenario.with_fields name number' bars'
      ↔ number = number' ∧ bars = bars' := by
  constructor
  · intro h
    have hnumber := congrArg StressScenario.number h
    have hbars := congrArg StressScenario.bars h
    rw [number_with_fields, number_with_fields] at hnumber
    rw [bars_with_fields, bars_with_fields] at hbars
    exact ⟨hnumber, hbars⟩
  · rintro ⟨rfl, rfl⟩
    rfl

/-- An entry changes nothing but a field that a preset can fill. -/
theorem fill_field_with_fields (scenario : StressScenario K) (entry : PresetEntry K)
    (name : String) (number : NumberField → K) (bars : BarsField → ℤ) :
    (fill_field scenario entry).with_fields name number bars
      = scenario.with_fields name number bars := by
  cases entry with
  | number field value =>
      rw [fill_field]
      split_ifs
      · cases field <;> rfl
      · rfl
  | bars field value =>
      rw [fill_field]
      split_ifs
      · cases field <;> rfl
      · rfl

theorem foldl_fill_field_eq_with_fields (entries : List (PresetEntry K))
    (scenario : StressScenario K) :
    entries.foldl fill_field scenario
      = scenario.with_fields scenario.name (entries.foldl fill_field scenario).number
          (entries.foldl fill_field scenario).bars := by
  induction entries generalizing scenario with
  | nil => rfl
  | cons entry entries ih =>
      rw [List.foldl_cons]
      refine (ih (fill_field scenario entry)).trans ?_
      rw [fill_field_with_fields, fill_field_name]

/-! ## The first value stays -/

/-- A field that is written only while it has its default keeps the first other value. -/
theorem get_foldl_of_first {σ ε V : Type} [DecidableEq V] (get : σ → V) {fill : σ → ε → σ}
    {value : ε → Option V} {default : V} {entries : List ε}
    (hvalue : ∀ e ∈ entries, ∀ v, value e = some v → v ≠ default)
    (hfill : ∀ s e, get (fill s e) = if get s = default then (value e).getD default else get s)
    (s : σ) :
    get (entries.foldl fill s)
      = if get s = default then (entries.findSome? value).getD default else get s := by
  induction entries generalizing s with
  | nil =>
      split_ifs with h
      · exact h
      · rfl
  | cons e entries ih =>
      rw [List.foldl_cons, ih fun e he => hvalue e (List.mem_cons_of_mem _ he), hfill,
        List.findSome?_cons]
      by_cases hget : get s = default
      · -- the value of the first entry that has one is no default, so it stays
        rw [if_pos hget]
        cases hv : value e with
        | none => simp [hget]
        | some v => simp [hget, hvalue e List.mem_cons_self v hv]
      · rw [if_neg hget, if_neg hget, if_neg hget]

omit [DecidableEq K] in
theorem PresetEntry.Moves.number_value_ne {entry : PresetEntry K} (h : entry.Moves)
    {field : NumberField} {v : K} (hv : entry.number_value field = some v) :
    v ≠ scenario_field_default field := by
  cases entry with
  | number own value =>
      rw [PresetEntry.number_value] at hv
      split_ifs at hv with hown
      obtain rfl := Option.some.inj hv
      exact hown ▸ h
  | bars own value => cases hv

omit [DecidableEq K] in
theorem PresetEntry.Moves.bars_value_ne {entry : PresetEntry K} (h : entry.Moves)
    {field : BarsField} {v : ℤ} (hv : entry.bars_value field = some v) : v ≠ 0 := by
  cases entry with
  | number own value => cases hv
  | bars own value =>
      rw [PresetEntry.bars_value] at hv
      split_ifs at hv
      obtain rfl := Option.some.inj hv
      exact h

theorem number_fill_field (field : NumberField) (scenario : StressScenario K)
    (entry : PresetEntry K) :
    (fill_field scenario entry).number field
      = if scenario.number field = scenario_field_default field then
          (entry.number_value field).getD (scenario_field_default field)
        else scenario.number field := by
  cases entry with
  | number own value =>
      rw [fill_field, PresetEntry.number_value]
      by_cases hown : own = field
      · subst hown
        by_cases hdefault : scenario.number own = scenario_field_default own
        · rw [if_pos hdefault, if_pos hdefault, if_pos rfl, number_set_number_self]
          rfl
        · rw [if_neg hdefault, if_neg hdefault]
      · have hkept : (if scenario.number own = scenario_field_default own then
            scenario.set_number own value else scenario).number field = scenario.number field := by
          split_ifs
          · exact number_set_number_of_ne scenario (Ne.symm hown) value
          · rfl
        rw [hkept, if_neg hown, Option.getD_none]
        exact (ite_eq_right_iff.mpr Eq.symm).symm
  | bars own value =>
      have hkept : (fill_field scenario (.bars own value)).number field
          = scenario.number field := by
        rw [fill_field]
        split_ifs
        · exact number_set_bars scenario own value field
        · rfl
      rw [hkept, PresetEntry.number_value, Option.getD_none]
      exact (ite_eq_right_iff.mpr Eq.symm).symm

theorem bars_fill_field (field : BarsField) (scenario : StressScenario K)
    (entry : PresetEntry K) :
    (fill_field scenario entry).bars field
      = if scenario.bars field = 0 then (entry.bars_value field).getD 0
        else scenario.bars field := by
  cases entry with
  | number own value =>
      have hkept : (fill_field scenario (.number own value)).bars field
          = scenario.bars field := by
        rw [fill_field]
        split_ifs
        · exact bars_set_number scenario own value field
        · rfl
      rw [hkept, PresetEntry.bars_value, Option.getD_none]
      exact (ite_eq_right_iff.mpr Eq.symm).symm
  | bars own value =>
      rw [fill_field, PresetEntry.bars_value]
      by_cases hown : own = field
      · subst hown
        by_cases hdefault : scenario.bars own = 0
        · rw [if_pos hdefault, if_pos hdefault, if_pos rfl, bars_set_bars_self]
          rfl
        · rw [if_neg hdefault, if_neg hdefault]
      · have hkept : (if scenario.bars own = 0 then scenario.set_bars own value
            else scenario).bars field = scenario.bars field := by
          split_ifs
          · exact bars_set_bars_of_ne scenario (Ne.symm hown) value
          · rfl
        rw [hkept, if_neg hown, Option.getD_none]
        exact (ite_eq_right_iff.mpr Eq.symm).symm

/-! ## The resolved scenario -/

section Resolved

variable {K : Type} [Field K] [LinearOrder K] [IsStrictOrderedRing K]

omit [LinearOrder K] [IsStrictOrderedRing K] in
theorem flatten_scenario_presets_for (scenario_name venue : String) :
    (scenario_presets_for (K := K) scenario_name venue).flatten
      = base_preset scenario_name ++ venue_preset scenario_name venue := by
  have hflatten : ∀ preset : Option (List (PresetEntry K)),
      preset.toList.flatten = preset.getD [] := by
    intro preset
    cases preset with
    | none => rfl
    | some entries => exact List.append_nil entries
  unfold scenario_presets_for
  rw [List.flatten_append, hflatten, hflatten]
  rfl

/-- A field left at its default takes the base preset's value, and the venue's only where the base
preset has none. -/
theorem get_resolve {V : Type} [DecidableEq V] (get : StressScenario K → V)
    {value : PresetEntry K → Option V} {default : V}
    (hname : ∀ (scenario : StressScenario K) (name : String),
      get { scenario with name := name } = get scenario)
    (hvalue : ∀ entry : PresetEntry K, entry.Moves → ∀ v, value entry = some v → v ≠ default)
    (hfill : ∀ scenario entry, get (fill_field scenario entry)
      = if get scenario = default then (value entry).getD default else get scenario)
    (scenario : StressScenario K) (venue : String) :
    get (resolve_scenario_profile scenario venue)
      = if get scenario = default then
          (((base_preset scenario.name).findSome? value).or
            ((venue_preset scenario.name venue).findSome? value)).getD default
        else get scenario := by
  have hmoves := scenario_presets_for_move (K := K) scenario.name venue
  rw [resolve_scenario_profile,
    get_foldl_of_first get (fun entry hentry => hvalue entry (hmoves entry hentry)) hfill,
    flatten_scenario_presets_for, List.findSome?_append, hname]

theorem number_resolve (scenario : StressScenario K) (venue : String) (field : NumberField) :
    (resolve_scenario_profile scenario venue).number field
      = if scenario.number field = scenario_field_default field then
          ((preset_number (base_preset scenario.name) field).or
            (preset_number (venue_preset scenario.name venue) field)).getD
              (scenario_field_default field)
        else scenario.number field :=
  get_resolve (fun s => s.number field) (fun _ _ => by cases field <;> rfl)
    (fun _ hmove _ => hmove.number_value_ne) (number_fill_field field) scenario venue

theorem bars_resolve (scenario : StressScenario K) (venue : String) (field : BarsField) :
    (resolve_scenario_profile scenario venue).bars field
      = if scenario.bars field = 0 then
          ((preset_bars (K := K) (base_preset scenario.name) field).or
            (preset_bars (K := K) (venue_preset scenario.name venue) field)).getD 0
        else scenario.bars field :=
  get_resolve (fun s => s.bars field) (fun _ _ => by cases field <;> rfl)
    (fun _ hmove _ => hmove.bars_value_ne) (bars_fill_field field) scenario venue

omit [IsStrictOrderedRing K] in
theorem resolve_eq_with_fields (scenario : StressScenario K) (venue : String) :
    resolve_scenario_profile scenario venue
      = scenario.with_fields (canonical_scenario_name scenario.name)
          (resolve_scenario_profile scenario venue).number
          (resolve_scenario_profile scenario venue).bars :=
  foldl_fill_field_eq_with_fields _ _

omit [Field K] [LinearOrder K] [IsStrictOrderedRing K] in
/-- Of two layers, which one is asked first matters only where both have a value. -/
theorem ite_or_comm_iff {V : Type} {p : Prop} [Decidable p] {base override : Option V}
    {default own : V} :
    ((if p then (base.or override).getD default else own)
        = if p then (override.or base).getD default else own)
      ↔ ∀ b o, base = some b → override = some o → p → o = b := by
  by_cases hp : p
  · rw [if_pos hp, if_pos hp]
    cases base <;> cases override <;> simp [hp, eq_comm]
  · simp [hp]

/-- The scenario is resolved with the venue's preset over the base preset, and a second time
changes nothing, exactly when the two presets agree on the fields that the scenario leaves at
their default. -/
theorem resolve_layers_iff (scenario : StressScenario K) (venue : String) :
    (resolve_scenario_profile scenario venue = layered_profile scenario venue
        ∧ resolve_scenario_profile (resolve_scenario_profile scenario venue) venue
          = resolve_scenario_profile scenario venue)
      ↔ PresetsAgree scenario venue := by
  have hidem := resolve_scenario_profile_idem scenario venue
  -- resolving again changes nothing in any case, and the fields are compared one by one
  have hlayers : resolve_scenario_profile scenario venue = layered_profile scenario venue
      ↔ (∀ field, (resolve_scenario_profile scenario venue).number field
            = layered_number scenario venue field)
          ∧ ∀ field, (resolve_scenario_profile scenario venue).bars field
            = layered_bars scenario venue field := by
    conv_lhs => rw [resolve_eq_with_fields, layered_profile, with_fields_inj]
    rw [funext_iff, funext_iff]
  rw [and_iff_left hidem, hlayers]
  simp only [number_resolve, bars_resolve, layered_number, layered_bars, ite_or_comm_iff]
  exact ⟨fun h => ⟨h.1, h.2⟩, fun h => ⟨h.number, h.bars⟩⟩

omit [LinearOrder K] [IsStrictOrderedRing K] in
/-- Where the venue has no presets, there is nothing to differ from the base preset. -/
theorem presetsAgree_of_venue {scenario : StressScenario K} {venue : String}
    (h : pyLower venue ≠ "binance") : PresetsAgree scenario venue := by
  have hvenue : venue_preset (K := K) scenario.name venue = [] := by
    rw [venue_preset, scenario_venue_presets, if_neg h]
    rfl
  constructor
  · intro field base override _ hoverride
    rw [hvenue] at hoverride
    cases hoverride
  · intro field base override _ hoverride
    rw [hvenue] at hoverride
    cases hoverride

/-! ## The venue's preset is never seen -/

omit [LinearOrder K] [IsStrictOrderedRing K] in
/-- Every field of a venue's preset is one of the base preset of the same name. -/
theorem venue_preset_fields (scenario_name venue : String) :
    ∀ entry ∈ venue_preset (K := K) scenario_name venue,
      ∃ other ∈ base_preset (K := K) scenario_name, other.field = entry.field := by
  have htable : (BINANCE_SCENARIO_PRESETS (K := K)).all (fun preset => preset.2.all fun entry =>
      (((SCENARIO_PRESETS (K := K)).lookup preset.1).getD []).any fun other =>
        other.field = entry.field) = true := rfl
  intro entry hentry
  rw [venue_preset, scenario_venue_presets] at hentry
  split_ifs at hentry
  · cases hlookup : (BINANCE_SCENARIO_PRESETS (K := K)).lookup
        (canonical_scenario_name scenario_name) with
    | none =>
        rw [hlookup, Option.getD_none] at hentry
        exact absurd hentry List.not_mem_nil
    | some entries =>
        rw [hlookup, Option.getD_some] at hentry
        have hmem := PyList.mem_of_lookup_eq_some hlookup
        have hall := List.all_eq_true.mp (List.all_eq_true.mp htable _ hmem) entry hentry
        obtain ⟨other, hother, hfield⟩ := List.any_eq_true.mp hall
        exact ⟨other, hother, of_decide_eq_true hfield⟩
  · exact absurd hentry List.not_mem_nil

omit [LinearOrder K] [IsStrictOrderedRing K] in
theorem PresetEntry.Settled.of_field_eq {scenario : StressScenario K}
    {entry other : PresetEntry K} (h : other.Settled scenario) (hfield : other.field = entry.field) :
    entry.Settled scenario := by
  cases entry <;> cases other <;> cases hfield <;> exact h

/-- A scenario is resolved at any venue as it is without one. -/
theorem resolve_scenario_profile_venue (scenario : StressScenario K) (venue : String) :
    resolve_scenario_profile scenario venue = resolve_scenario_profile scenario "" := by
  let named : StressScenario K :=
    { scenario with name := canonical_scenario_name scenario.name }
  let base : List (PresetEntry K) := base_preset scenario.name
  -- the base preset leaves no default in its fields, and the venue's are among them
  have hbase : ∀ entry ∈ base, entry.Settled (base.foldl fill_field named) :=
    settled_foldl base named fun entry hentry =>
      scenario_presets_for_move scenario.name venue entry (by
        rw [flatten_scenario_presets_for]
        exact List.mem_append_left _ hentry)
  have hresolve : ∀ v, resolve_scenario_profile scenario v = base.foldl fill_field named := by
    intro v
    rw [resolve_scenario_profile, flatten_scenario_presets_for, List.foldl_append]
    refine foldl_of_settled _ fun entry hentry => ?_
    obtain ⟨other, hother, hfield⟩ := venue_preset_fields scenario.name v entry hentry
    exact (hbase other hother).of_field_eq hfield
  rw [hresolve, hresolve]

end Resolved

/-! ## One scenario at two venues -/

/-- A venue outage of which only the severity is set. -/
def outage_shock : StressScenario ℚ where
  name := "outage-shock"
  severity := 0.9

theorem resolve_scenario_profile_venue_binance :
    resolve_scenario_profile outage_shock "binance" = resolve_scenario_profile outage_shock "" :=
  resolve_scenario_profile_venue outage_shock "binance"

theorem resolve_layers_iff_generic :
    resolve_scenario_profile outage_shock "generic" = layered_profile outage_shock "generic"
      ∧ resolve_scenario_profile (resolve_scenario_profile outage_shock "generic") "generic"
        = resolve_scenario_profile outage_shock "generic" :=
  (resolve_layers_iff outage_shock "generic").mpr (presetsAgree_of_venue (by decide))

/-- At Binance the scenario has the base preset's penalty of 55 bps, where Binance's preset has
65. -/
theorem base_preset_shadows_venue :
    (resolve_scenario_profile outage_shock "binance").liquidity_penalty_bps = 55
      ∧ (layered_profile outage_shock "binance").liquidity_penalty_bps = 65
      ∧ resolve_scenario_profile outage_shock "binance" ≠ layered_profile outage_shock "binance" := by
  have hresolved : (resolve_scenario_profile outage_shock "binance").liquidity_penalty_bps = 55 := by
    decide +kernel
  have hlayered : (layered_profile outage_shock "binance").liquidity_penalty_bps = 65 := by
    decide +kernel
  refine ⟨hresolved, hlayered, fun h => ?_⟩
  rw [h, hlayered] at hresolved
  exact absurd hresolved (by decide)

end ProofAlpha.Validation
