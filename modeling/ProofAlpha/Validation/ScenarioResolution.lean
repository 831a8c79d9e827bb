/-
Resolving a scenario twice.

A preset entry only fills a field that has its default, and no preset holds a
default, so a filled field stays as it is. A resolved scenario has a name without an
alias. Hence resolving it once more changes nothing, which every function that is
handed a resolved scenario does.
-/
import Mathlib.Algebra.Order.Field.Basic
import Mathlib.Tactic.NormNum
import ProofAlpha.Lib.PyList
import ProofAlpha.Validation.Scenarios

set_option autoImplicit false

namespace ProofAlpha.Validation

open ProofAlpha.Lib

/-! ## Names -/

theorem canonical_scenario_name_idem (scenario_name : String) :
    canonical_scenario_name (canonical_scenario_name scenario_name)
      = canonical_scenario_name scenario_name := by
  have hvalues : ∀ entry ∈ SCENARIO_ALIASES, SCENARIO_ALIASES.lookup entry.2 = none := by decide
  unfold canonical_scenario_name
  cases hlookup : SCENARIO_ALIASES.lookup scenario_name with
  | none => rw [Option.getD_none, hlookup, Option.getD_none]
  | some name =>
      have hmem : (scenario_name, name) ∈ SCENARIO_ALIASES := PyList.mem_of_lookup_eq_some hlookup
      rw [Option.getD_some, hvalues _ hmem, Option.getD_none]

variable {K : Type} [Field K]

/-! ## Fields -/

theorem number_set_number_self (scenario : StressScenario K) (field : NumberField) (value : K) :
    (scenario.set_number field value).number field = value := by
  cases field <;> rfl

theorem number_set_number_of_ne (scenario : StressScenario K) {field other : NumberField}
    (h : other ≠ field) (value : K) :
    (scenario.set_number field value).number other = scenario.number other := by
  cases field <;> cases other <;> first | rfl | exact absurd rfl h

theorem bars_set_bars_self (scenario : StressScenario K) (field : BarsField) (value : ℤ) :
    (scenario.set_bars field value).bars field = value := by
  cases field <;> rfl

theorem bars_set_bars_of_ne (scenario : StressScenario K) {field other : BarsField}
    (h : other ≠ field) (value : ℤ) :
    (scenario.set_bars field value).bars other = scenario.bars other := by
  cases field <;> cases other <;> first | rfl | exact absurd rfl h

theorem number_set_bars (scenario : StressScenario K) (field : BarsField) (value : ℤ)
    (other : NumberField) : (scenario.set_bars field value).number other = scenario.number other := by
  cases field <;> cases other <;> rfl

theorem bars_set_number (scenario : StressScenario K) (field : NumberField) (value : K)
    (other : BarsField) : (scenario.set_number field value).bars other = scenario.bars other := by
  cases field <;> cases other <;> rfl

/-! ## Entries -/

/-- The entry would change a field that has its default. -/
def PresetEntry.Moves : PresetEntry K → Prop
  | .number field value => value ≠ scenario_field_default field
  | .bars _ value => value ≠ 0

/-- The field of the entry no longer has its default. -/
def PresetEntry.Settled (scenario : StressScenario K) : PresetEntry K → Prop
  | .number field _ => scenario.number field ≠ scenario_field_default field
  | .bars field _ => scenario.bars field ≠ 0

variable [DecidableEq K]

theorem fill_field_of_settled {scenario : StressScenario K} {entry : PresetEntry K}
    (h : entry.Settled scenario) : fill_field scenario entry = scenario := by
  cases entry with
  | number field value => exact if_neg h
  | bars field value => exact if_neg h

theorem settled_fill_field (scenario : StressScenario K) {entry : PresetEntry K}
    (h : entry.Moves) : entry.Settled (fill_field scenario entry) := by
  cases entry with
  | number field value =>
      show (fill_field scenario (.number field value)).number field ≠ _
      rw [fill_field]
      split_ifs with hdefault
      · rw [number_set_number_self]
        exact h
      · exact hdefault
  | bars field value =>
      show (fill_field scenario (.bars field value)).bars field ≠ _
      rw [fill_field]
      split_ifs with hdefault
      · rw [bars_set_bars_self]
        exact h
      · exact hdefault

/-- A settled field stays settled. -/
theorem PresetEntry.Settled.fill_field {scenario : StressScenario K} {entry other : PresetEntry K}
    (h : entry.Settled scenario) (hother : other.Moves) :
    entry.Settled (fill_field scenario other) := by
  cases other with
  | number field value =>
      rw [Validation.fill_field]
      split_ifs with hdefault
      · cases entry with
        | number own _ =>
            have hne : own ≠ field := fun heq => h (heq ▸ hdefault)
            show (scenario.set_number field value).number own ≠ _
            rw [number_set_number_of_ne _ hne]
            exact h
        | bars own _ =>
            show (scenario.set_number field value).bars own ≠ _
            rw [bars_set_number]
            exact h
      · exact h
  | bars field value =>
      rw [Validation.fill_field]
      split_ifs with hdefault
      · cases entry with
        | number own _ =>
            show (scenario.set_bars field value).number own ≠ _
            rw [number_set_bars]
            exact h
        | bars own _ =>
            have hne : own ≠ field := fun heq => h (heq ▸ hdefault)
            show (scenario.set_bars field value).bars own ≠ _
            rw [bars_set_bars_of_ne _ hne]
            exact h
      · exact h

theorem PresetEntry.Settled.foldl {entry : PresetEntry K} (entries : List (PresetEntry K)) :
    ∀ {scenario : StressScenario K}, entry.Settled scenario → (∀ other ∈ entries, other.Moves) →
      entry.Settled (entries.foldl Validation.fill_field scenario) := by
  induction entries with
  | nil =>
      intro scenario h _
      exact h
  | cons other rest ih =>
      intro scenario h hmoves
      rw [List.foldl_cons]
      exact ih (h.fill_field (hmoves other List.mem_cons_self))
        fun entry hentry => hmoves entry (List.mem_cons_of_mem _ hentry)

/-- Once all entries are filled in, each of their fields is settled. -/
theorem settled_foldl (entries : List (PresetEntry K)) :
    ∀ scenario : StressScenario K, (∀ entry ∈ entries, entry.Moves) →
      ∀ entry ∈ entries, entry.Settled (entries.foldl fill_field scenario) := by
  induction entries with
  | nil =>
      intro scenario _ entry hentry
      exact absurd hentry List.not_mem_nil
  | cons first rest ih =>
      intro scenario hmoves entry hentry
      obtain ⟨hfirst, hrest⟩ := List.forall_mem_cons.mp hmoves
      rw [List.foldl_cons]
      rcases List.mem_cons.mp hentry with rfl | hentry
      · exact (settled_fill_field scenario hfirst).foldl rest hrest
      · exact ih _ hrest entry hentry

theorem foldl_of_settled (entries : List (PresetEntry K)) {scenario : StressScenario K}
    (h : ∀ entry ∈ entries, entry.Settled scenario) : entries.foldl fill_field scenario = scenario := by
  induction entries with
  | nil => rfl
  | cons first rest ih =>
      obtain ⟨hfirst, hrest⟩ := List.forall_mem_cons.mp h
      rw [List.foldl_cons, fill_field_of_settled hfirst]
      exact ih hrest

theorem fill_field_name (scenario : StressScenario K) (entry : PresetEntry K) :
    (fill_field scenario entry).name = scenario.name := by
  cases entry with
  | number field value =>
      rw [fill_field]
      split_ifs
      · cases field <;> rfl
      · rfl
  | bars field value =>
      rw [fill_field]
      split_ifs
      · cases field <;> rfl
      · rfl

theorem foldl_fill_field_name (entries : List (PresetEntry K)) : ∀ scenario : StressScenario K,
    (entries.foldl fill_field scenario).name = scenario.name := by
  induction entries with
  | nil =>
      intro scenario
      rfl
  | cons first rest ih =>
      intro scenario
      rw [List.foldl_cons, ih, fill_field_name]

/-! ## Presets -/

section Presets

variable {K : Type} [Field K] [LinearOrder K] [IsStrictOrderedRing K]

theorem SCENARIO_PRESETS_move :
    ∀ preset ∈ (SCENARIO_PRESETS : List (String × List (PresetEntry K))),
      ∀ entry ∈ preset.2, entry.Moves := by
  simp only [SCENARIO_PRESETS, List.forall_mem_cons, PresetEntry.Moves, scenario_field_default]
  norm_num

theorem BINANCE_SCENARIO_PRESETS_move :
    ∀ preset ∈ (BINANCE_SCENARIO_PRESETS : List (String × List (PresetEntry K))),
      ∀ entry ∈ preset.2, entry.Moves := by
  simp only [BINANCE_SCENARIO_PRESETS, List.forall_mem_cons, PresetEntry.Moves,
    scenario_field_default]
  norm_num

theorem scenario_presets_for_move (scenario_name venue : String) :
    ∀ entry ∈ (scenario_presets_for (K := K) scenario_name venue).flatten, entry.Moves := by
  intro entry hentry
  obtain ⟨preset, hpreset, hmem⟩ := List.mem_flatten.mp hentry
  rw [scenario_presets_for] at hpreset
  rcases List.mem_append.mp hpreset with hbase | hvenue
  · have htable := PyList.mem_of_lookup_eq_some (Option.mem_toList.mp hbase)
    exact SCENARIO_PRESETS_move _ htable entry hmem
  · have htable := PyList.mem_of_lookup_eq_some (Option.mem_toList.mp hvenue)
    unfold scenario_venue_presets at htable
    split_ifs at htable
    · exact BINANCE_SCENARIO_PRESETS_move _ htable entry hmem
    · exact absurd htable List.not_mem_nil

/-- Resolving a resolved scenario changes nothing. -/
theorem resolve_scenario_profile_idem (scenario : StressScenario K) (venue : String) :
    resolve_scenario_profile (resolve_scenario_profile scenario venue) venue
      = resolve_scenario_profile scenario venue := by
  let entries : List (PresetEntry K) := (scenario_presets_for scenario.name venue).flatten
  let resolved := resolve_scenario_profile scenario venue
  have hname : resolved.name = canonical_scenario_name scenario.name := foldl_fill_field_name _ _
  have hcanonical : canonical_scenario_name resolved.name = resolved.name := by
    rw [hname, canonical_scenario_name_idem]
  have hentries : (scenario_presets_for (K := K) resolved.name venue).flatten = entries := by
    show (scenario_presets_for _ _).flatten = (scenario_presets_for _ _).flatten
    unfold scenario_presets_for
    rw [hcanonical, hname]
  have hsettled : ∀ entry ∈ entries, entry.Settled resolved :=
    settled_foldl entries _ (scenario_presets_for_move _ _)
  show ((scenario_presets_for resolved.name venue).flatten).foldl fill_field
    { resolved with name := canonical_scenario_name resolved.name } = resolved
  rw [hentries, hcanonical]
  exact foldl_of_settled entries hsettled

end Presets

end ProofAlpha.Validation
