/-
Expansion of parameter ranges into a grid (`optimizer/grid.py`).

The cap is compared with the running product of the value counts, range by range.
That product is the size of the grid once every range is in it; before that it is
only a bound, and no bound at all when an empty range is still to come.
`grid_expansion_iff` says for which ranges and caps the difference can be seen.
-/
import ProofAlpha.Config.Models
import ProofAlpha.Lib.PyList
import ProofAlpha.Lib.Checks

set_option autoImplicit false

namespace ProofAlpha.Optimizer

open ProofAlpha.Lib ProofAlpha.Config

/-! ## The code -/

/-- The loop over the value counts, which raises `GridSearchLimitError`. -/
def count_permutations {α : Type} (max_permutations : ℤ) : ℕ → List (List α) → Except String ℕ
  | count, [] => .ok count
  | count, values :: ordered_values =>
      -- the message has the product so far, not that of all ranges
      if max_permutations < (count * values.length : ℕ) then
        .error ("grid expansion would create " ++ toString (count * values.length)
          ++ " permutations, exceeding " ++ toString max_permutations)
      else count_permutations max_permutations (count * values.length) ordered_values

section Grid

variable {K : Type} [Field K] [LinearOrder K] [FloorRing K]

/-- One set of parameters. -/
abbrev GridRow (K : Type) := List (String × Number K)

/-- `expand_parameter_grid`. -/
def expand_parameter_grid (parameter_ranges : List (String × ParameterRange K))
    (max_permutations : ℤ) : Except String (List (GridRow K) × ℕ) :=
  -- without ranges the cap is not looked at
  if parameter_ranges.isEmpty then .ok ([[]], 1)
  else do
    let ordered_keys := parameter_ranges.map Prod.fst
    let ordered_values ← parameter_ranges.mapM fun item => item.2.values
    let count ← count_permutations max_permutations 1 ordered_values
    .ok ((product ordered_values).map fun combination => ordered_keys.zip combination, count)

/-! ## What is expected of it -/

/-- The product of the value counts. -/
def grid_size (parameter_ranges : List (String × ParameterRange K)) : ℕ :=
  (parameter_ranges.map fun item => item.2.points.length).prod

/-- A row has one value of each range, under its name. -/
def IsRow (parameter_ranges : List (String × ParameterRange K)) (row : GridRow K) : Prop :=
  List.Forall₂ (fun entry item => entry.1 = item.1 ∧ entry.2 ∈ item.2.points) row parameter_ranges

/-- It raises for an invalid range and for a grid above the cap, and otherwise returns
the rows, each once, and their number. -/
structure GridExpanded (parameter_ranges : List (String × ParameterRange K))
    (max_permutations : ℤ) : Prop where
  raises : (∃ message, expand_parameter_grid parameter_ranges max_permutations = .error message) ↔
    (∃ item ∈ parameter_ranges, ¬ item.2.Valid) ∨ max_permutations < grid_size parameter_ranges
  returns : ∀ grid count, expand_parameter_grid parameter_ranges max_permutations
    = .ok (grid, count) → (∀ row, row ∈ grid ↔ IsRow parameter_ranges row) ∧ grid.Nodup ∧
      count = grid.length

/-- A range is walked to its end or given up, and its values are within its bounds, up
to a millionth of a step at the upper end and half a unit of the tenth digit. -/
structure RangeWalked (range : ParameterRange K) : Prop where
  ends : range.values = .ok range.points ∧ range.Valid ∨
    (∃ message, range.values = .error message) ∧ ¬ range.Valid
  within : range.Valid → ∀ value ∈ range.points,
    range.minimum - 1 / 2 / 10 ^ 10 ≤ value.value ∧
      value.value ≤ range.maximum + range.step / 1000000 + 1 / 2 / 10 ^ 10

/-- Where all ranges are valid: a grid of no ranges is within the cap; and for a grid
within the cap, so are the products on the way, and no range of a grid with rows gives a
value twice. -/
def GridSettled (parameter_ranges : List (String × ParameterRange K)) (max_permutations : ℤ) :
    Prop :=
  (∀ item ∈ parameter_ranges, item.2.Valid) →
    (parameter_ranges = [] → 1 ≤ max_permutations) ∧
    (grid_size parameter_ranges ≤ max_permutations →
      (∀ k < parameter_ranges.length,
        (grid_size (parameter_ranges.take (k + 1)) : ℤ) ≤ max_permutations) ∧
      (grid_size parameter_ranges = 0 ∨ ∀ item ∈ parameter_ranges, item.2.DistinctPoints))

/-! ## The count -/

theorem count_permutations_eq_ok {α : Type} {max_permutations : ℤ} {count n : ℕ}
    {ordered_values : List (List α)} :
    count_permutations max_permutations count ordered_values = .ok n ↔
      n = count * (ordered_values.map List.length).prod ∧
      ∀ k < ordered_values.length,
        ((count * ((ordered_values.take (k + 1)).map List.length).prod : ℕ) : ℤ)
          ≤ max_permutations := by
  induction ordered_values generalizing count with
  | nil =>
      simp only [count_permutations, Except.ok.injEq, List.map_nil, List.prod_nil, mul_one,
        List.length_nil, Nat.not_lt_zero, false_implies, implies_true, and_true]
      exact eq_comm
  | cons values rest ih =>
      rw [count_permutations]
      by_cases hover : max_permutations < (count * values.length : ℕ)
      · rw [if_pos hover]
        constructor
        · intro h
          cases h
        · rintro ⟨-, hsteps⟩
          have hfirst := hsteps 0 (Nat.succ_pos _)
          simp only [Nat.zero_add, List.take_succ_cons, List.take_zero, List.map_cons,
            List.map_nil, List.prod_cons, List.prod_nil, mul_one] at hfirst
          omega
      · rw [if_neg hover, ih, List.map_cons, List.prod_cons, mul_assoc]
        refine and_congr_right fun _ => ?_
        constructor
        · intro hsteps k hk
          cases k with
          | zero =>
              simp only [Nat.zero_add, List.take_succ_cons, List.take_zero, List.map_cons,
                List.map_nil, List.prod_cons, List.prod_nil, mul_one]
              omega
          | succ k =>
              have hstep := hsteps k (Nat.lt_of_succ_lt_succ hk)
              rwa [mul_assoc] at hstep
        · intro hsteps k hk
          rw [mul_assoc]
          exact hsteps (k + 1) (Nat.succ_lt_succ hk)

/-! ## The rows -/

/-- The rows of the grid, the last range fastest. -/
def grid_rows (parameter_ranges : List (String × ParameterRange K)) : List (GridRow K) :=
  (product (parameter_ranges.map fun item => item.2.points)).map fun combination =>
    (parameter_ranges.map Prod.fst).zip combination

theorem length_of_mem_product {parameter_ranges : List (String × ParameterRange K)}
    {combination : List (Number K)}
    (h : combination ∈ product (parameter_ranges.map fun item => item.2.points)) :
    combination.length = parameter_ranges.length := by
  rw [(mem_product.mp h).length_eq, List.length_map]

theorem mem_grid_rows {parameter_ranges : List (String × ParameterRange K)} {row : GridRow K} :
    row ∈ grid_rows parameter_ranges ↔ IsRow parameter_ranges row := by
  rw [grid_rows, List.mem_map]
  constructor
  · rintro ⟨combination, hcombination, rfl⟩
    rw [mem_product, List.forall₂_map_right_iff] at hcombination
    induction hcombination with
    | nil => exact List.Forall₂.nil
    | cons hvalue _ ih => exact List.Forall₂.cons ⟨rfl, hvalue⟩ ih
  · intro hrow
    refine ⟨row.map Prod.snd, ?_, ?_⟩
    · rw [mem_product, List.forall₂_map_left_iff, List.forall₂_map_right_iff]
      exact hrow.imp fun _ _ h => h.2
    · induction hrow with
      | nil => rfl
      | cons hentry _ ih =>
          rw [List.map_cons, List.map_cons, List.zip_cons_cons, ih]
          exact congrArg (· :: _) (Prod.ext hentry.1.symm rfl)

theorem length_grid_rows (parameter_ranges : List (String × ParameterRange K)) :
    (grid_rows parameter_ranges).length = grid_size parameter_ranges := by
  rw [grid_rows, List.length_map, length_product, List.map_map]
  rfl

/-- The rows are distinct where the values of each range are, or where there are none. -/
theorem nodup_grid_rows_iff {parameter_ranges : List (String × ParameterRange K)} :
    (grid_rows parameter_ranges).Nodup ↔
      grid_size parameter_ranges = 0 ∨ ∀ item ∈ parameter_ranges, item.2.DistinctPoints := by
  by_cases hempty : grid_size parameter_ranges = 0
  · rw [← length_grid_rows, List.length_eq_zero_iff] at hempty
    rw [← length_grid_rows, hempty]
    exact ⟨fun _ => Or.inl rfl, fun _ => List.nodup_nil⟩
  · -- every range has a value, and a row determines the combination it was made of
    have hpools : [] ∉ parameter_ranges.map fun item => item.2.points := by
      intro hnil
      refine hempty ?_
      rw [← length_grid_rows, grid_rows, product_eq_nil_iff.mpr hnil]
      rfl
    have hproduct : (grid_rows parameter_ranges).Nodup ↔
        (product (parameter_ranges.map fun item => item.2.points)).Nodup := by
      refine ⟨List.Nodup.of_map _, List.Nodup.map_on ?_⟩
      intro first hfirst second hsecond hsame
      have hsnd := congrArg (List.map Prod.snd) hsame
      rwa [List.map_snd_zip (by rw [length_of_mem_product hfirst, List.length_map]),
        List.map_snd_zip (by rw [length_of_mem_product hsecond, List.length_map])] at hsnd
    rw [hproduct, nodup_product_iff hpools, or_iff_right hempty, List.forall_mem_map]
    exact forall₂_congr fun item _ => nodup_points_iff

/-! ## The expansion -/

section Expansion

variable [IsStrictOrderedRing K] {parameter_ranges : List (String × ParameterRange K)}
  {max_permutations : ℤ}

/-- When the expansion of some ranges returns, and what. -/
theorem expand_eq_ok (hne : parameter_ranges ≠ []) {grid : List (GridRow K)} {count : ℕ} :
    expand_parameter_grid parameter_ranges max_permutations = .ok (grid, count) ↔
      (∀ item ∈ parameter_ranges, item.2.Valid) ∧
      (∀ k < parameter_ranges.length,
        (grid_size (parameter_ranges.take (k + 1)) : ℤ) ≤ max_permutations) ∧
      grid = grid_rows parameter_ranges ∧ count = grid_size parameter_ranges := by
  rw [expand_parameter_grid, if_neg (by rwa [List.isEmpty_iff])]
  by_cases hvalid : ∀ item ∈ parameter_ranges, item.2.Valid
  · have hvalues : parameter_ranges.mapM (fun item => item.2.values)
        = .ok (parameter_ranges.map fun item => item.2.points) :=
      mapM_eq_ok_map fun item hitem => values_eq (hvalid item hitem)
    have hsize : ∀ k, (((parameter_ranges.map fun item => item.2.points).take k).map
        List.length).prod = grid_size (parameter_ranges.take k) := by
      intro k
      rw [← List.map_take, List.map_map]
      rfl
    rw [hvalues, ok_bind]
    constructor
    · intro h
      obtain ⟨n, hcount, hresult⟩ := bind_ok h
      obtain ⟨rfl, hsteps⟩ := count_permutations_eq_ok.mp hcount
      cases hresult
      refine ⟨hvalid, fun k hk => ?_, rfl, ?_⟩
      · have hstep := hsteps k (by rwa [List.length_map])
        rwa [one_mul, hsize] at hstep
      · rw [one_mul, List.map_map]
        rfl
    · rintro ⟨-, hsteps, rfl, rfl⟩
      have hcount : count_permutations max_permutations 1
          (parameter_ranges.map fun item => item.2.points) = .ok (grid_size parameter_ranges) := by
        refine count_permutations_eq_ok.mpr ⟨?_, fun k hk => ?_⟩
        · rw [one_mul, List.map_map]
          rfl
        · rw [one_mul, hsize]
          exact hsteps k (by rwa [List.length_map] at hk)
      rw [hcount, ok_bind]
      rfl
  · refine iff_of_false ?_ fun h => hvalid h.1
    intro h
    obtain ⟨ordered_values, hvalues, -⟩ := bind_ok h
    refine hvalid fun item hitem => ?_
    by_contra hinvalid
    obtain ⟨message, herror⟩ := values_error hinvalid
    obtain ⟨values, hok⟩ := ok_of_mapM_ok hvalues item hitem
    rw [herror] at hok
    cases hok

theorem raises_iff {α : Type} (result : Except String α) :
    (∃ message, result = .error message) ↔ ¬ ∃ value, result = .ok value := by
  cases result with
  | error message => simp
  | ok value => simp

theorem rangeWalked (range : ParameterRange K) : RangeWalked range := by
  refine ⟨?_, fun hvalid value hvalue => value_within hvalid.1 hvalue⟩
  by_cases hvalid : range.Valid
  · exact Or.inl ⟨values_eq hvalid, hvalid⟩
  · exact Or.inr ⟨values_error hvalid, hvalid⟩

omit [IsStrictOrderedRing K] in
/-- A grid of no ranges is expanded whatever the cap. -/
theorem expanded_nil_iff :
    GridExpanded ([] : List (String × ParameterRange K)) max_permutations ↔
      1 ≤ max_permutations := by
  have hresult : expand_parameter_grid ([] : List (String × ParameterRange K)) max_permutations
      = .ok ([[]], 1) := rfl
  have hsize : grid_size ([] : List (String × ParameterRange K)) = 1 := rfl
  constructor
  · intro h
    by_contra hcap
    obtain ⟨message, hmessage⟩ := h.raises.mpr (Or.inr (by rw [hsize]; omega))
    rw [hresult] at hmessage
    cases hmessage
  · intro hcap
    refine ⟨?_, ?_⟩
    · rw [raises_iff, hresult, hsize]
      refine iff_of_false (fun h => h ⟨_, rfl⟩) ?_
      rintro (⟨item, hitem, -⟩ | hover)
      · exact absurd hitem List.not_mem_nil
      · omega
    · intro grid count h
      rw [hresult] at h
      cases h
      refine ⟨fun row => ?_, List.nodup_singleton _, rfl⟩
      rw [List.mem_singleton, IsRow, List.forall₂_nil_right_iff]

omit [IsStrictOrderedRing K] in
/-- The last of the running products is the size of the grid. -/
theorem grid_size_le_of_steps (hne : parameter_ranges ≠ [])
    (hsteps : ∀ k < parameter_ranges.length,
      (grid_size (parameter_ranges.take (k + 1)) : ℤ) ≤ max_permutations) :
    (grid_size parameter_ranges : ℤ) ≤ max_permutations := by
  have hpos : 0 < parameter_ranges.length := List.length_pos_iff.mpr hne
  have hlast := hsteps (parameter_ranges.length - 1) (by omega)
  rwa [Nat.sub_add_cancel hpos, List.take_length] at hlast

theorem expanded_iff (hne : parameter_ranges ≠ []) :
    GridExpanded parameter_ranges max_permutations ↔
      GridSettled parameter_ranges max_permutations := by
  constructor
  · intro h hvalid
    refine ⟨fun hnil => absurd hnil hne, fun hcap => ?_⟩
    have hreturns : ∃ value, expand_parameter_grid parameter_ranges max_permutations
        = .ok value := by
      rw [← not_not (a := ∃ value, _), ← raises_iff, h.raises]
      rintro (⟨item, hitem, hinvalid⟩ | hover)
      · exact hinvalid (hvalid item hitem)
      · omega
    obtain ⟨⟨grid, count⟩, hresult⟩ := hreturns
    obtain ⟨-, hsteps, rfl, -⟩ := (expand_eq_ok hne).mp hresult
    exact ⟨hsteps, nodup_grid_rows_iff.mp (h.returns _ _ hresult).2.1⟩
  · intro h
    refine ⟨?_, ?_⟩
    · rw [raises_iff, not_iff_comm, not_or, not_exists, not_lt]
      constructor
      · rintro ⟨hvalid, hcap⟩
        have hvalid' : ∀ item ∈ parameter_ranges, item.2.Valid := fun item hitem => by
          by_contra hinvalid
          exact hvalid item ⟨hitem, hinvalid⟩
        exact ⟨_, (expand_eq_ok hne).mpr ⟨hvalid', ((h hvalid').2 hcap).1, rfl, rfl⟩⟩
      · rintro ⟨⟨grid, count⟩, hresult⟩
        obtain ⟨hvalid, hsteps, -⟩ := (expand_eq_ok hne).mp hresult
        exact ⟨fun item hitem => hitem.2 (hvalid item hitem.1), grid_size_le_of_steps hne hsteps⟩
    · intro grid count hresult
      obtain ⟨hvalid, hsteps, rfl, rfl⟩ := (expand_eq_ok hne).mp hresult
      have hdistinct := ((h hvalid).2 (grid_size_le_of_steps hne hsteps)).2
      exact ⟨fun _ => mem_grid_rows, nodup_grid_rows_iff.mpr hdistinct,
        (length_grid_rows parameter_ranges).symm⟩

/-- **Grid expansion does what is expected of it exactly for the settled ranges and
caps, and every range is walked within its bounds.** -/
theorem grid_expansion_iff (parameter_ranges : List (String × ParameterRange K))
    (max_permutations : ℤ) :
    (GridExpanded parameter_ranges max_permutations ∧
      ∀ item ∈ parameter_ranges, RangeWalked item.2) ↔
    GridSettled parameter_ranges max_permutations := by
  rw [and_iff_left fun (item : String × ParameterRange K) (_ : item ∈ parameter_ranges) =>
    rangeWalked item.2]
  by_cases hne : parameter_ranges = []
  · rw [hne, expanded_nil_iff]
    constructor
    · intro hcap _
      refine ⟨fun _ => hcap, fun _ => ⟨fun k hk => absurd hk (Nat.not_lt_zero k), Or.inr ?_⟩⟩
      exact fun item hitem => absurd hitem List.not_mem_nil
    · exact fun h => (h fun item hitem => absurd hitem List.not_mem_nil).1 rfl
  · exact expanded_iff hne

end Expansion

end Grid

/-! ## A range without values -/

/-- Three lengths, and thresholds from one down to zero: none. -/
def lengths_and_thresholds : List (String × ParameterRange ℚ) :=
  [("length", ⟨1, 3, 1, []⟩), ("threshold", ⟨1, 0, 1, []⟩)]

theorem grid_expansion_iff_thresholds :
    GridExpanded lengths_and_thresholds 3 ∧ ∀ item ∈ lengths_and_thresholds, RangeWalked item.2 := by
  refine (grid_expansion_iff lengths_and_thresholds 3).mpr fun _ => ⟨?_, fun _ => ⟨?_, Or.inl ?_⟩⟩
  · exact fun hnil => absurd hnil (List.cons_ne_nil _ _)
  · decide +kernel
  · decide +kernel

/-- The cap is exceeded on the way to a grid that is empty. -/
theorem expansion_raises_for_empty_grid :
    ¬ (GridExpanded lengths_and_thresholds 2 ∧
      ∀ item ∈ lengths_and_thresholds, RangeWalked item.2) := by
  have hvalid : ∀ item ∈ lengths_and_thresholds, item.2.Valid := by decide +kernel
  have hempty : grid_size lengths_and_thresholds = 0 := by decide +kernel
  have hfirst : grid_size (lengths_and_thresholds.take 1) = 3 := by decide +kernel
  have hne : lengths_and_thresholds ≠ [] := List.cons_ne_nil _ _
  rintro ⟨hexpanded, -⟩
  have hsettled := (expanded_iff hne).mp hexpanded
  have hsteps := ((hsettled hvalid).2 (by rw [hempty]; decide)).1 0 (by decide)
  rw [Nat.zero_add, hfirst] at hsteps
  exact absurd hsteps (by decide)

end ProofAlpha.Optimizer
