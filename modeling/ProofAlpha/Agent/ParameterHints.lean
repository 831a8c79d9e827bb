/-
Parameter hints: `agent/heuristics.py`, `refine_parameter_spec` and `refine_parameter_grids`.

A hint from earlier runs moves the bounds of a parameter range and excludes values of it.
Whether that only narrows the range is a matter of where the steps fall
(`hint_narrows_iff`): the bounds of a hint need not lie on the grid, nor inside it, a narrowed
hint has its blocked values dropped, and an end of the range that is blocked only goes when
the hint has a bound inside.
-/
import ProofAlpha.Config.Models
import ProofAlpha.Lib.PyJson

set_option autoImplicit false

namespace ProofAlpha.Agent

open ProofAlpha.Lib ProofAlpha.Config

variable {K : Type} [Field K] [LinearOrder K]

/-! ## The code -/

/-- `numeric_blocked_values`. -/
def numeric_blocked_values (hint : JsonObject K) : List K :=
  match hint.get_or "blocked_values" (.list []) with
  | .list items => items.filterMap number_value
  | _ => []

/-- The bounds of a hint, where both are numbers. -/
def hint_bounds (hint : JsonObject K) : Option (K × K) :=
  match number_value (hint.get "minimum"), number_value (hint.get "maximum") with
  | some hint_minimum, some hint_maximum => some (hint_minimum, hint_maximum)
  | _, _ => none

/-- `str(hint.get("confidence", "low")) in {"medium", "high"}`. -/
def confident (texts : PyTexts K) (hint : JsonObject K) : Bool :=
  let confidence := py_str texts.composite_text (hint.get_or "confidence" (.str "low"))
  confidence == "medium" || confidence == "high"

/-- A bound that is blocked gives way to that of a hint, if this is further inside. -/
def unblocked_bound (blocked_values : List K) (bound hint_bound : K) (inside : Bool) : K :=
  if (blocked_values.any fun value => value = bound) && inside then hint_bound else bound

/-- `refined["minimum"]`. -/
def refined_minimum (spec : ParameterRange K) (blocked_values : List K) (hint_minimum : K) : K :=
  unblocked_bound blocked_values spec.minimum hint_minimum (decide (spec.minimum < hint_minimum))

/-- `refined["maximum"]`. -/
def refined_maximum (spec : ParameterRange K) (blocked_values : List K) (hint_maximum : K) : K :=
  unblocked_bound blocked_values spec.maximum hint_maximum (decide (hint_maximum < spec.maximum))

/-- `interior_blocked_values`. -/
def interior_blocked_values (blocked_values : List K) (minimum maximum : K) : List K :=
  (blocked_values.filter fun value =>
    value ≠ minimum ∧ value ≠ maximum ∧ minimum < value ∧ value < maximum).insertionSort (· ≤ ·)

/-- The end of `refine_parameter_spec`, for a hint that is not narrowed. -/
def avoid_blocked_values (spec : ParameterRange K) (blocked_values : List K)
    (hint_minimum hint_maximum : K) : ParameterRange K :=
  let minimum := refined_minimum spec blocked_values hint_minimum
  let maximum := refined_maximum spec blocked_values hint_maximum
  let interior := interior_blocked_values blocked_values minimum maximum
  -- what the specification has excluded so far is lost with the first of these
  { spec with
    minimum := minimum
    maximum := maximum
    excluded_values := if interior.isEmpty then spec.excluded_values else interior }

/-- `refine_parameter_spec`, of a specification with numbers. -/
def refine_parameter_spec (texts : PyTexts K) (spec : ParameterRange K) :
    JsonValue K → ParameterRange K
  | .dict hint =>
      match hint_bounds hint with
      | none => spec
      | some (hint_minimum, hint_maximum) =>
          if truthy (JsonObject.get hint "narrowed") then
            { spec with minimum := hint_minimum, maximum := hint_maximum }
          else if ! confident texts hint then spec
          else avoid_blocked_values spec (numeric_blocked_values hint) hint_minimum hint_maximum
  | _ => spec

/-- The ranges of a layer, by parameter. -/
abbrev LayerGrid (K : Type) := List (String × ParameterRange K)

/-- `refine_parameter_grids`. -/
def refine_parameter_grids (texts : PyTexts K) (parameter_grids : List (String × LayerGrid K))
    (parameter_hints : JsonObject K) (fragile_layers approved_layers : List String) :
    List (String × LayerGrid K) :=
  (parameter_grids.filter fun item => item.1 ∈ approved_layers ∧ item.1 ∉ fragile_layers).map
    fun item =>
      (item.1, match parameter_hints.get_or item.1 (.dict []) with
        | .dict layer_hints => item.2.map fun entry =>
            (entry.1, refine_parameter_spec texts entry.2 (JsonObject.get layer_hints entry.1))
        | _ => item.2)

/-! ## The law -/

/-- The values that a hint of medium or high confidence blocks. -/
def blocked_by (texts : PyTexts K) : JsonValue K → List K
  | .dict hint => if confident texts hint then numeric_blocked_values hint else []
  | _ => []

variable [FloorRing K]

/-- A hint narrows a range: its values are values of the range, none of them blocked. -/
def HintNarrows (texts : PyTexts K) (spec : ParameterRange K) (hint : JsonValue K) : Prop :=
  ∀ values refined_values, spec.values = .ok values →
    (refine_parameter_spec texts spec hint).values = .ok refined_values →
      (∀ value ∈ refined_values, value ∈ values)
        ∧ ∀ value ∈ values, value.value ∈ blocked_by texts hint → value ∉ refined_values

/-! ## The condition -/

/-- A walk from one bound to another, with the step of a range, meets a number. -/
def Meets (spec : ParameterRange K) (minimum maximum value : K) : Prop :=
  ∃ k : ℕ, minimum + k * spec.step ≤ maximum + spec.step / 1000000
    ∧ value = pyRound (minimum + k * spec.step) 10

/-- The walk is one for which the guard has room. -/
def Walkable (spec : ParameterRange K) (minimum maximum : K) : Prop :=
  ({ spec with minimum := minimum, maximum := maximum } : ParameterRange K).Valid

/-- Every step between two bounds is a step of the range itself, unless it is excluded or
blocked. -/
def StepsOntoGrid (spec : ParameterRange K) (blocked_values : List K) (minimum maximum : K) :
    Prop :=
  ∀ value, Meets spec minimum maximum value → value ∉ spec.excluded_values →
    value ∉ blocked_values → Meets spec spec.minimum spec.maximum value

/-- No blocked value is met that is not excluded already. -/
def BlockedExcluded (spec : ParameterRange K) (blocked_values : List K) (minimum maximum : K) :
    Prop :=
  ∀ value ∈ blocked_values, Meets spec minimum maximum value → value ∈ spec.excluded_values

/-- The ends of a range that is not narrowed. -/
structure EndsOnGrid (spec : ParameterRange K) (blocked_values : List K) (minimum maximum : K) :
    Prop where
  on_grid : StepsOntoGrid spec blocked_values minimum maximum
  /-- With nothing blocked between the ends, nothing is excluded in addition. -/
  excluded : (∀ value ∈ blocked_values, ¬ (minimum < value ∧ value < maximum)) →
    BlockedExcluded spec blocked_values minimum maximum
  /-- With a blocked value between the ends, all of them are between, and the values that the
  range itself excludes are among them, since these are no longer excluded. -/
  between : (∃ value ∈ blocked_values, minimum < value ∧ value < maximum) →
    ∀ value, Meets spec minimum maximum value →
      (value ∈ blocked_values → minimum < value ∧ value < maximum)
        ∧ (value ∈ spec.excluded_values → value ∈ blocked_values)

/-- The condition under which a hint narrows a range that can be walked. -/
def HintOnGrid (texts : PyTexts K) (spec : ParameterRange K) (hint : JsonValue K) : Prop :=
  let blocked_values := blocked_by texts hint
  match hint with
  | .dict hint =>
      match hint_bounds hint with
      | none => BlockedExcluded spec blocked_values spec.minimum spec.maximum
      | some (hint_minimum, hint_maximum) =>
          if truthy (JsonObject.get hint "narrowed") then
            Walkable spec hint_minimum hint_maximum →
              StepsOntoGrid spec blocked_values hint_minimum hint_maximum
                ∧ BlockedExcluded spec blocked_values hint_minimum hint_maximum
          else if ! confident texts hint then True
          else
            EndsOnGrid spec blocked_values (refined_minimum spec blocked_values hint_minimum)
              (refined_maximum spec blocked_values hint_maximum)
  | _ => True

/-! ## The values of two ranges -/

section Law

variable [IsStrictOrderedRing K]

/-- The values of a range are the numbers its own walk meets, but for the excluded ones. -/
theorem mem_points_iff_meets {range : ParameterRange K} (hstep : 0 < range.step)
    {value : Number K} :
    value ∈ range.points ↔ ∃ x, Meets range range.minimum range.maximum x
      ∧ x ∉ range.excluded_values ∧ value = number_of x := by
  rw [mem_points]
  constructor
  · rintro ⟨k, hk, hkept, rfl⟩
    exact ⟨_, ⟨k, (point_le_iff hstep k).mpr hk, rfl⟩, hkept, rfl⟩
  · rintro ⟨x, ⟨k, hk, rfl⟩, hkept, rfl⟩
    exact ⟨k, (point_le_iff hstep k).mp hk, hkept, rfl⟩

/-- A range narrows another with the same step when the numbers it keeps are kept by the other
one and are not blocked. -/
theorem narrows_iff {spec refined : ParameterRange K} (hspec : spec.Valid)
    (hrefined : refined.Valid) (hstep : refined.step = spec.step) (blocked_values : List K) :
    ((∀ value ∈ refined.points, value ∈ spec.points)
        ∧ ∀ value ∈ spec.points, value.value ∈ blocked_values → value ∉ refined.points)
      ↔ ∀ x, Meets spec refined.minimum refined.maximum x → x ∉ refined.excluded_values →
        Meets spec spec.minimum spec.maximum x ∧ x ∉ spec.excluded_values
          ∧ x ∉ blocked_values := by
  have hmeets : ∀ x, Meets refined refined.minimum refined.maximum x
      ↔ Meets spec refined.minimum refined.maximum x := by
    intro x
    unfold Meets
    rw [hstep]
  simp only [mem_points_iff_meets hspec.1, mem_points_iff_meets hrefined.1, hmeets]
  constructor
  · rintro ⟨hsub, hblocked⟩ x hx hkept
    obtain ⟨y, hy, hy_kept, heq⟩ := hsub (number_of x) ⟨x, hx, hkept, rfl⟩
    obtain rfl := number_of_injective heq
    refine ⟨hy, hy_kept, fun hmem => ?_⟩
    refine hblocked (number_of x) ⟨x, hy, hy_kept, rfl⟩ ?_ ⟨x, hx, hkept, rfl⟩
    rw [value_number_of]
    exact hmem
  · intro h
    constructor
    · rintro value ⟨x, hx, hkept, rfl⟩
      obtain ⟨hmet, hoffered, -⟩ := h x hx hkept
      exact ⟨x, hmet, hoffered, rfl⟩
    · rintro value - hmem ⟨x, hx, hkept, rfl⟩
      rw [value_number_of] at hmem
      exact (h x hx hkept).2.2 hmem

/-- The values of a range that may be too long, against those of one that can be walked. -/
theorem hintNarrows_iff_of_valid (texts : PyTexts K) {spec : ParameterRange K}
    (hspec : spec.Valid) (hint : JsonValue K) :
    HintNarrows texts spec hint ↔ ((refine_parameter_spec texts spec hint).Valid →
      (∀ value ∈ (refine_parameter_spec texts spec hint).points, value ∈ spec.points)
        ∧ ∀ value ∈ spec.points, value.value ∈ blocked_by texts hint →
          value ∉ (refine_parameter_spec texts spec hint).points) := by
  unfold HintNarrows
  constructor
  · intro h hrefined
    exact h spec.points _ (values_eq hspec) (values_eq hrefined)
  · intro h values refined_values hvalues hrefined_values
    have hrefined : (refine_parameter_spec texts spec hint).Valid := by
      by_contra hlong
      obtain ⟨message, herror⟩ := values_error hlong
      rw [herror] at hrefined_values
      cases hrefined_values
    rw [values_eq hspec] at hvalues
    rw [values_eq hrefined] at hrefined_values
    cases hvalues
    cases hrefined_values
    exact h hrefined

/-! ## The branches -/

/-- Bounds on the grid keep to it: a minimum whole steps above that of the range and a maximum
that is not above its maximum. -/
theorem stepsOntoGrid_of_aligned {spec : ParameterRange K} {minimum maximum : K} (j : ℕ)
    (haligned : minimum = spec.point j) (hmaximum : maximum ≤ spec.maximum)
    (blocked_values : List K) : StepsOntoGrid spec blocked_values minimum maximum := by
  rintro x ⟨k, hk, rfl⟩ - -
  have hpoint : minimum + k * spec.step = spec.minimum + ((j + k : ℕ) : K) * spec.step := by
    rw [haligned, ParameterRange.point]
    push_cast
    ring
  rw [hpoint] at hk ⊢
  exact ⟨j + k, by linarith, rfl⟩

omit [IsStrictOrderedRing K] in
/-- What a walk between two bounds has to meet when the range keeps its exclusions. -/
theorem stepsOntoGrid_and_blockedExcluded {spec : ParameterRange K} {blocked_values : List K}
    {minimum maximum : K} :
    (∀ x, Meets spec minimum maximum x → x ∉ spec.excluded_values →
        Meets spec spec.minimum spec.maximum x ∧ x ∉ spec.excluded_values ∧ x ∉ blocked_values)
      ↔ StepsOntoGrid spec blocked_values minimum maximum
        ∧ BlockedExcluded spec blocked_values minimum maximum := by
  constructor
  · intro h
    constructor
    · intro x hmet hkept _
      exact (h x hmet hkept).1
    · intro x hblocked hmet
      by_contra hkept
      exact (h x hmet hkept).2.2 hblocked
  · rintro ⟨hgrid, hexcluded⟩ x hmet hkept
    have hfree : x ∉ blocked_values := fun hblocked => hkept (hexcluded x hblocked hmet)
    exact ⟨hgrid x hmet hkept hfree, hkept, hfree⟩

/-- A range that stays as it is has to exclude all that is blocked. -/
theorem unrefined_narrows_iff {spec : ParameterRange K} (hspec : spec.Valid)
    (blocked_values : List K) :
    (spec.Valid → (∀ value ∈ spec.points, value ∈ spec.points)
        ∧ ∀ value ∈ spec.points, value.value ∈ blocked_values → value ∉ spec.points)
      ↔ BlockedExcluded spec blocked_values spec.minimum spec.maximum := by
  rw [narrows_iff hspec hspec rfl, stepsOntoGrid_and_blockedExcluded]
  have hown := stepsOntoGrid_of_aligned 0 (point_zero spec).symm le_rfl blocked_values
  constructor
  · intro h
    exact (h hspec).2
  · intro h _
    exact ⟨hown, h⟩

omit [Field K] [IsStrictOrderedRing K] [FloorRing K] in
theorem mem_interior_blocked_values {blocked_values : List K} {minimum maximum value : K} :
    value ∈ interior_blocked_values blocked_values minimum maximum
      ↔ value ∈ blocked_values ∧ minimum < value ∧ value < maximum := by
  unfold interior_blocked_values
  rw [List.mem_insertionSort, List.mem_filter, decide_eq_true_iff]
  constructor
  · rintro ⟨hmem, -, -, hlower, hupper⟩
    exact ⟨hmem, hlower, hupper⟩
  · rintro ⟨hmem, hlower, hupper⟩
    exact ⟨hmem, hlower.ne', hupper.ne, hlower, hupper⟩

omit [IsStrictOrderedRing K] in
/-- With a blocked value between the bounds, the blocked values between them are excluded in
place of those of the range. -/
theorem endsOnGrid_iff_of_between {spec : ParameterRange K} {blocked_values : List K}
    {minimum maximum : K} (hinside : ∃ value ∈ blocked_values, minimum < value ∧ value < maximum) :
    (∀ x, Meets spec minimum maximum x →
        ¬ (x ∈ blocked_values ∧ minimum < x ∧ x < maximum) →
        Meets spec spec.minimum spec.maximum x ∧ x ∉ spec.excluded_values ∧ x ∉ blocked_values)
      ↔ EndsOnGrid spec blocked_values minimum maximum := by
  constructor
  · intro h
    have hmet : ∀ x, Meets spec minimum maximum x →
        (x ∈ blocked_values → minimum < x ∧ x < maximum)
          ∧ (x ∈ spec.excluded_values → x ∈ blocked_values) := by
      intro x hx
      constructor
      · intro hblocked
        by_contra hout
        exact (h x hx fun hin => hout hin.2).2.2 hblocked
      · intro hexcluded
        by_contra hfree
        exact (h x hx fun hin => hfree hin.1).2.1 hexcluded
    obtain ⟨inside, hmem, hbetween⟩ := hinside
    exact
      { on_grid := fun x hx _ hfree => (h x hx fun hin => hfree hin.1).1
        excluded := fun hnone => absurd hbetween (hnone inside hmem)
        between := fun _ => hmet }
  · intro h x hx hkept
    obtain ⟨hin, hown⟩ := h.between hinside x hx
    have hfree : x ∉ blocked_values := fun hblocked => hkept ⟨hblocked, hin hblocked⟩
    have hoffered : x ∉ spec.excluded_values := fun hexcluded => hfree (hown hexcluded)
    exact ⟨h.on_grid x hx hoffered hfree, hoffered, hfree⟩

omit [IsStrictOrderedRing K] in
/-- With no blocked value between the bounds, the range keeps its exclusions. -/
theorem endsOnGrid_iff_of_none {spec : ParameterRange K} {blocked_values : List K}
    {minimum maximum : K}
    (hinside : ¬ ∃ value ∈ blocked_values, minimum < value ∧ value < maximum) :
    StepsOntoGrid spec blocked_values minimum maximum
        ∧ BlockedExcluded spec blocked_values minimum maximum
      ↔ EndsOnGrid spec blocked_values minimum maximum := by
  constructor
  · rintro ⟨hgrid, hexcluded⟩
    exact
      { on_grid := hgrid
        excluded := fun _ => hexcluded
        between := fun hsome => absurd hsome hinside }
  · intro h
    exact ⟨h.on_grid, h.excluded fun value hmem hbetween => hinside ⟨value, hmem, hbetween⟩⟩

omit [IsStrictOrderedRing K] in
/-- What a walk has to meet when blocked values between the bounds are excluded instead. -/
theorem endsOnGrid_iff {spec : ParameterRange K} {blocked_values : List K} {minimum maximum : K} :
    (∀ x, Meets spec minimum maximum x →
        x ∉ (if (interior_blocked_values blocked_values minimum maximum).isEmpty then
          spec.excluded_values else interior_blocked_values blocked_values minimum maximum) →
        Meets spec spec.minimum spec.maximum x ∧ x ∉ spec.excluded_values ∧ x ∉ blocked_values)
      ↔ EndsOnGrid spec blocked_values minimum maximum := by
  by_cases hinside : ∃ value ∈ blocked_values, minimum < value ∧ value < maximum
  · have hsome : (interior_blocked_values blocked_values minimum maximum).isEmpty = false := by
      obtain ⟨inside, hmem, hbetween⟩ := hinside
      rw [List.isEmpty_eq_false_iff]
      exact List.ne_nil_of_mem (mem_interior_blocked_values.mpr ⟨hmem, hbetween⟩)
    rw [hsome, if_neg Bool.false_ne_true]
    simp only [mem_interior_blocked_values]
    exact endsOnGrid_iff_of_between hinside
  · have hempty : interior_blocked_values blocked_values minimum maximum = [] := by
      apply List.eq_nil_iff_forall_not_mem.mpr
      intro value hvalue
      exact hinside ⟨value, mem_interior_blocked_values.mp hvalue⟩
    rw [hempty, List.isEmpty_nil, if_pos rfl, stepsOntoGrid_and_blockedExcluded]
    exact endsOnGrid_iff_of_none hinside

/-! ## Bounds that only move inwards -/

omit [Field K] [IsStrictOrderedRing K] [FloorRing K] in
theorem le_refined_minimum (spec : ParameterRange K) (blocked_values : List K)
    (hint_minimum : K) : spec.minimum ≤ refined_minimum spec blocked_values hint_minimum := by
  unfold refined_minimum unblocked_bound
  split_ifs with hmoved
  · exact (of_decide_eq_true (Bool.and_eq_true_iff.mp hmoved).2).le
  · exact le_rfl

omit [Field K] [IsStrictOrderedRing K] [FloorRing K] in
theorem refined_maximum_le (spec : ParameterRange K) (blocked_values : List K)
    (hint_maximum : K) : refined_maximum spec blocked_values hint_maximum ≤ spec.maximum := by
  unfold refined_maximum unblocked_bound
  split_ifs with hmoved
  · exact (of_decide_eq_true (Bool.and_eq_true_iff.mp hmoved).2).le
  · exact le_rfl

/-- A walk between bounds inside those of a range is no longer than the range. -/
theorem valid_of_bounds_inside {spec refined : ParameterRange K} (hspec : spec.Valid)
    (hstep : refined.step = spec.step) (hminimum : spec.minimum ≤ refined.minimum)
    (hmaximum : refined.maximum ≤ spec.maximum) : refined.Valid := by
  obtain ⟨hpos, hcount⟩ := hspec
  have hfloor : ⌊(refined.maximum + spec.step / 1000000 - refined.minimum) / spec.step⌋
      ≤ ⌊(spec.maximum + spec.step / 1000000 - spec.minimum) / spec.step⌋ := by
    apply Int.floor_le_floor
    apply div_le_div_of_nonneg_right _ hpos.le
    linarith
  constructor
  · rw [hstep]
    exact hpos
  · unfold ParameterRange.point_count at hcount ⊢
    rw [hstep]
    omega

theorem valid_avoid_blocked_values {spec : ParameterRange K} (hspec : spec.Valid)
    (blocked_values : List K) (hint_minimum hint_maximum : K) :
    (avoid_blocked_values spec blocked_values hint_minimum hint_maximum).Valid :=
  valid_of_bounds_inside hspec rfl (le_refined_minimum spec blocked_values hint_minimum)
    (refined_maximum_le spec blocked_values hint_maximum)

/-! ## The law -/

/-- For every specification and hint: the hint narrows the range exactly when the range can be
walked only with steps that fall on its own grid. -/
theorem hint_narrows_iff (texts : PyTexts K) (spec : ParameterRange K) (hint : JsonValue K) :
    HintNarrows texts spec hint ↔ (spec.Valid → HintOnGrid texts spec hint) := by
  by_cases hspec : spec.Valid
  · rw [hintNarrows_iff_of_valid texts hspec]
    simp only [hspec, forall_true_left]
    have hfree : BlockedExcluded spec [] spec.minimum spec.maximum :=
      fun _ hblocked => absurd hblocked List.not_mem_nil
    cases hint with
    | dict hint =>
        cases hbounds : hint_bounds hint with
        | none =>
            simp only [refine_parameter_spec, HintOnGrid, hbounds]
            exact unrefined_narrows_iff hspec _
        | some bounds =>
            by_cases hnarrowed : truthy (JsonObject.get hint "narrowed") = true
            · simp only [refine_parameter_spec, HintOnGrid, hbounds, if_pos hnarrowed]
              exact forall_congr' fun hrefined =>
                (narrows_iff hspec hrefined rfl _).trans stepsOntoGrid_and_blockedExcluded
            · by_cases hconfident : confident texts hint = true
              · simp only [refine_parameter_spec, HintOnGrid, hbounds, if_neg hnarrowed, hconfident,
                  Bool.not_true, if_neg Bool.false_ne_true, blocked_by, if_true]
                have hinside := valid_avoid_blocked_values hspec (numeric_blocked_values hint)
                  bounds.1 bounds.2
                simp only [hinside, forall_true_left]
                exact (narrows_iff hspec hinside rfl _).trans endsOnGrid_iff
              · rw [Bool.not_eq_true] at hconfident
                simp only [refine_parameter_spec, HintOnGrid, hbounds, if_neg hnarrowed, hconfident,
                  Bool.not_false, if_true, blocked_by, if_neg Bool.false_ne_true, iff_true]
                exact (unrefined_narrows_iff hspec []).mpr hfree
    | _ => exact iff_of_true ((unrefined_narrows_iff hspec []).mpr hfree) trivial
  · -- a range that cannot be walked has no values to compare with
    constructor
    · intro _ hvalid
      exact absurd hvalid hspec
    · intro _ values refined_values hvalues
      obtain ⟨message, herror⟩ := values_error hspec
      rw [herror] at hvalues
      cases hvalues

end Law

/-! ## Grids -/

/-- The hint for a parameter of a layer. -/
def hint_of (parameter_hints : JsonObject K) (layer_name parameter_name : String) : JsonValue K :=
  match parameter_hints.get_or layer_name (.dict []) with
  | .dict layer_hints => JsonObject.get layer_hints parameter_name
  | _ => .null

omit [FloorRing K] in
/-- The refined grids are those of approved layers that are not fragile, each range refined by
the hint for it. -/
theorem mem_refine_parameter_grids {texts : PyTexts K}
    {parameter_grids : List (String × LayerGrid K)} {parameter_hints : JsonObject K}
    {fragile_layers approved_layers : List String} {item : String × LayerGrid K}
    (h : item ∈ refine_parameter_grids texts parameter_grids parameter_hints fragile_layers
      approved_layers) :
    item.1 ∈ approved_layers ∧ item.1 ∉ fragile_layers
      ∧ ∃ grid, (item.1, grid) ∈ parameter_grids
        ∧ item.2 = grid.map fun entry => (entry.1,
          refine_parameter_spec texts entry.2 (hint_of parameter_hints item.1 entry.1)) := by
  obtain ⟨⟨layer_name, grid⟩, hmem, rfl⟩ := List.mem_map.mp h
  obtain ⟨hgrid, hlayer⟩ := List.mem_filter.mp hmem
  obtain ⟨happroved, hfragile⟩ := of_decide_eq_true hlayer
  refine ⟨happroved, hfragile, grid, hgrid, ?_⟩
  unfold hint_of
  cases parameter_hints.get_or layer_name (.dict []) with
  | dict layer_hints => rfl
  | _ => exact (List.map_id grid).symm

/-! ## Two hints -/

section Examples

/-- Whole numbers from one on. -/
def unit_spec (maximum : ℚ) : ParameterRange ℚ where
  minimum := 1
  maximum := maximum
  step := 1

/-- The hint of two promoted runs with one value. -/
def consensus_hint (value : ℤ) : JsonValue ℚ :=
  .dict [("minimum", .int value), ("maximum", .int value), ("promoted_count", .int 2),
    ("blocked_values", .list []), ("confidence", .str "high"), ("narrowed", .bool true)]

/-- The hint of promoted runs from one to five, one of which was blocked as well. -/
def blocked_end_hint : JsonValue ℚ :=
  .dict [("minimum", .int 1), ("maximum", .int 5), ("promoted_count", .int 3),
    ("blocked_values", .list [.int 1]), ("confidence", .str "medium"), ("narrowed", .bool false)]

/-- The theorem at a hint for a value of the range. -/
theorem hint_narrows_iff_two :
    HintNarrows plain_texts (unit_spec 3) (consensus_hint 2)
      ↔ ((unit_spec 3).Valid → HintOnGrid plain_texts (unit_spec 3) (consensus_hint 2)) :=
  hint_narrows_iff plain_texts (unit_spec 3) (consensus_hint 2)

/-- A value of five for a range up to three is put in the grid, and the blocked lower end of a
range stays in it. -/
theorem hints_widen :
    ¬ HintNarrows plain_texts (unit_spec 3) (consensus_hint 5)
      ∧ ¬ HintNarrows plain_texts (unit_spec 5) blocked_end_hint := by
  constructor
  · intro h
    obtain ⟨hsub, -⟩ := h _ _ (values_eq (by decide +kernel)) (values_eq (by decide +kernel))
    have hfive : Number.int 5 ∈ (unit_spec 3).points := hsub (.int 5) (by decide +kernel)
    revert hfive
    decide +kernel
  · intro h
    obtain ⟨-, hblocked⟩ := h _ _ (values_eq (by decide +kernel)) (values_eq (by decide +kernel))
    exact hblocked (.int 1) (by decide +kernel) (by decide +kernel) (by decide +kernel)

end Examples

end ProofAlpha.Agent
