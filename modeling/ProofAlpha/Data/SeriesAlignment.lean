/-
Sidecar series forward-filled onto the candles (src/engine/data/fetch.py,
`_align_series_to_timestamps`).

The rows are sorted by time and a cursor walks through them along with the candles.
`datetime.fromisoformat` is a parameter that gives the time a text stands for; a mix of
naive and aware times, which Python does not compare, is left out. Every candle gets the
value that holds at it (`HoldsAt`): the cursor has passed just the rows up to the candle
(`advance_series_eq`), and what it carries is the value of the last of them.
-/
import Mathlib.Algebra.Order.Ring.Rat
import ProofAlpha.Lib.AsOf
import ProofAlpha.Lib.Checks

set_option autoImplicit false

namespace ProofAlpha.Data

open ProofAlpha.Lib

variable {K : Type}

/-! ## The join -/

/-- The inner loop: the rows up to a candle are passed, and the value of the last is carried. -/
def advance_series (candle_dt : ℤ) : K → List (ℤ × K) → K × List (ℤ × K)
  | current_value, [] => (current_value, [])
  | current_value, row :: rest =>
      if row.1 ≤ candle_dt then advance_series candle_dt row.2 rest
      else (current_value, row :: rest)

/-- The loop over the candles, with the value carried so far and the rows left. -/
def align_candles (fromisoformat : String → Except String ℤ) :
    K → List (ℤ × K) → List String → Except String (List (String × K))
  | _, _, [] => .ok []
  | current_value, ordered_series, candle_timestamp :: candle_timestamps => do
      let candle_dt ← fromisoformat candle_timestamp
      let (value, rest) := advance_series candle_dt current_value ordered_series
      let aligned ← align_candles fromisoformat value rest candle_timestamps
      .ok ((candle_timestamp, value) :: aligned)

variable [Zero K]

/-- `_align_series_to_timestamps`. -/
def align_series_to_timestamps (fromisoformat : String → Except String ℤ)
    (candle_timestamps : List String) (series_rows : List (String × K)) :
    Except String (List (String × K)) :=
  if candle_timestamps.isEmpty then .ok []
  else do
    let series ← series_rows.mapM fun row => do
      let timestamp ← fromisoformat row.1
      .ok (timestamp, row.2)
    align_candles fromisoformat 0 (time_sort series) candle_timestamps

/-! ## What the cursor has passed -/

omit [Zero K] in
theorem advance_series_eq (candle_dt : ℤ) (current_value : K) {series : List (ℤ × K)}
    (hsorted : series.Pairwise fun a b => a.1 ≤ b.1) :
    advance_series candle_dt current_value series
      = (carried current_value (series.filter fun row => row.1 ≤ candle_dt),
        series.filter fun row => candle_dt < row.1) := by
  induction series generalizing current_value with
  | nil => rfl
  | cons row rest ih =>
      obtain ⟨hrow, hrest⟩ := List.pairwise_cons.mp hsorted
      rw [advance_series]
      split_ifs with hle
      · rw [ih row.2 hrest, List.filter_cons_of_pos (by simpa using hle),
          List.filter_cons_of_neg (by simpa using hle)]
        rw [← List.singleton_append, carried_append]
        rfl
      · -- the other rows are later still
        have hlater : ∀ e ∈ row :: rest, candle_dt < e.1 := by
          intro e he
          rcases List.mem_cons.mp he with rfl | he
          · exact not_le.mp hle
          · exact (not_le.mp hle).trans_le (hrow e he)
        rw [List.filter_eq_nil_iff.mpr fun e he => by simpa using hlater e he,
          List.filter_eq_self.mpr fun e he => decide_eq_true (hlater e he), carried_nil]

omit [Zero K] in
/-- Along candles in order each gets the last value up to it. -/
theorem align_candles_eq {fromisoformat : String → Except String ℤ}
    {candle_timestamps : List String} {candle_dts : List ℤ}
    (hcandles : candle_timestamps.mapM fromisoformat = .ok candle_dts)
    (hordered : candle_dts.Pairwise (· ≤ ·)) (current_value : K) {series : List (ℤ × K)}
    (hsorted : series.Pairwise fun a b => a.1 ≤ b.1) :
    align_candles fromisoformat current_value series candle_timestamps
      = .ok (candle_timestamps.zip (candle_dts.map fun t =>
          carried current_value (series.filter fun row => row.1 ≤ t))) := by
  induction candle_timestamps generalizing candle_dts current_value series with
  | nil => rfl
  | cons candle_timestamp candle_timestamps ih =>
      rw [List.mapM_cons] at hcandles
      obtain ⟨candle_dt, hdt, hcandles⟩ := bind_ok hcandles
      obtain ⟨later, hlater, hcandles⟩ := bind_ok hcandles
      obtain rfl := Except.ok.inj hcandles
      obtain ⟨hfirst, hordered⟩ := List.pairwise_cons.mp hordered
      have hrest := ih hlater hordered
        (carried current_value (series.filter fun row => row.1 ≤ candle_dt))
        (hsorted.filter fun row => candle_dt < row.1)
      -- what is carried from one candle to a later one
      have hcarried : ∀ t ∈ later,
          carried (carried current_value (series.filter fun row => row.1 ≤ candle_dt))
            ((series.filter fun row => candle_dt < row.1).filter fun row => row.1 ≤ t)
          = carried current_value (series.filter fun row => row.1 ≤ t) := by
        intro t ht
        rw [← carried_append, ← filter_le_eq_append hsorted (hfirst t ht)]
      rw [List.map_congr_left hcarried] at hrest
      rw [align_candles, hdt]
      change (do
        let aligned ← align_candles fromisoformat (advance_series candle_dt current_value series).1
          (advance_series candle_dt current_value series).2 candle_timestamps
        .ok ((candle_timestamp, (advance_series candle_dt current_value series).1) :: aligned)) = _
      rw [advance_series_eq candle_dt current_value hsorted, hrest]
      rfl

/-! ## What a candle gets -/

/-- The rows of a series with the times that their texts stand for. -/
def read_series (fromisoformat : String → Except String ℤ) (series_rows : List (String × K)) :
    Except String (List (ℤ × K)) :=
  series_rows.mapM fun row => do
    let timestamp ← fromisoformat row.1
    .ok (timestamp, row.2)

theorem align_series_to_timestamps_eq {fromisoformat : String → Except String ℤ}
    {candle_timestamps : List String} {candle_dts : List ℤ}
    (hcandles : candle_timestamps.mapM fromisoformat = .ok candle_dts)
    (hordered : candle_dts.Pairwise (· ≤ ·)) {series_rows : List (String × K)}
    {series : List (ℤ × K)} (hseries : read_series fromisoformat series_rows = .ok series) :
    align_series_to_timestamps fromisoformat candle_timestamps series_rows
      = .ok (candle_timestamps.zip (candle_dts.map fun t =>
          carried 0 ((time_sort series).filter fun row => row.1 ≤ t))) := by
  unfold align_series_to_timestamps
  split_ifs with hempty
  · rw [List.isEmpty_iff.mp hempty]
    rfl
  · unfold read_series at hseries
    rw [hseries]
    exact align_candles_eq hcandles hordered 0 (pairwise_time_sort series)

omit [Zero K] in
/-- Series with the same rows up to a time have the same value at any time before. -/
theorem carried_congr {series other : List (ℤ × K)} {t t' : ℤ} (value : K) (hle : t' ≤ t)
    (h : (other.filter fun row => row.1 ≤ t) = series.filter fun row => row.1 ≤ t) :
    carried value ((time_sort other).filter fun row => row.1 ≤ t')
      = carried value ((time_sort series).filter fun row => row.1 ≤ t') := by
  have hfilter : (other.filter fun row => row.1 ≤ t') = series.filter fun row => row.1 ≤ t' := by
    have hboth : ∀ rows : List (ℤ × K), (rows.filter fun row => row.1 ≤ t')
        = (rows.filter fun row => row.1 ≤ t).filter fun row => row.1 ≤ t' := by
      intro rows
      rw [List.filter_filter]
      refine List.filter_congr fun row _ => ?_
      rw [← Bool.decide_and]
      exact decide_eq_decide.mpr ⟨fun hrow => ⟨hrow, hrow.trans hle⟩, And.left⟩
    rw [hboth, hboth series, h]
  have hother := holdsAt_filter.mpr (holdsAt_carried other value t')
  rw [hfilter] at hother
  exact (holdsAt_filter.mp hother).unique (holdsAt_carried series value t')

/-- Every candle gets the value that holds at it, and rows after a time have no say in the candles up
to it. -/
theorem align_series_as_of {fromisoformat : String → Except String ℤ}
    {candle_timestamps : List String} {candle_dts : List ℤ}
    (hcandles : candle_timestamps.mapM fromisoformat = .ok candle_dts)
    (hordered : candle_dts.Pairwise (· ≤ ·)) {series_rows : List (String × K)}
    {series : List (ℤ × K)} (hseries : read_series fromisoformat series_rows = .ok series) :
    ∃ values : List K,
      align_series_to_timestamps fromisoformat candle_timestamps series_rows
          = .ok (candle_timestamps.zip values)
        ∧ List.Forall₂ (HoldsAt series 0) candle_dts values
        ∧ ∀ (other_rows : List (String × K)) (other : List (ℤ × K)),
          read_series fromisoformat other_rows = .ok other →
          ∃ other_values : List K,
            align_series_to_timestamps fromisoformat candle_timestamps other_rows
                = .ok (candle_timestamps.zip other_values)
              ∧ ∀ t, (other.filter fun row => row.1 ≤ t) = (series.filter fun row => row.1 ≤ t) →
                ∀ (i : ℕ) (candle_dt : ℤ), candle_dts[i]? = some candle_dt → candle_dt ≤ t →
                  other_values[i]? = values[i]? := by
  refine ⟨_, align_series_to_timestamps_eq hcandles hordered hseries, ?_, fun other_rows other
    hother => ⟨_, align_series_to_timestamps_eq hcandles hordered hother, ?_⟩⟩
  · rw [List.forall₂_map_right_iff, List.forall₂_same]
    exact fun t _ => holdsAt_carried series 0 t
  · intro t hsame i candle_dt hcandle hle
    rw [List.getElem?_map, List.getElem?_map, hcandle, Option.map_some, Option.map_some,
      carried_congr 0 hle hsame]

/-- Two o'clock and three o'clock on the first day of 2024, in microseconds since 1970. -/
def two_hours (text : String) : Except String ℤ :=
  if text = "2024-01-01T02:00:00+00:00" then .ok 1704074400000000
  else if text = "2024-01-01T03:00:00+00:00" then .ok 1704078000000000
  else .error "Invalid isoformat string"

theorem align_series_as_of_two_hours :
    ∃ values : List ℚ,
      align_series_to_timestamps two_hours
          ["2024-01-01T02:00:00+00:00", "2024-01-01T03:00:00+00:00"]
          [("2024-01-01T03:00:00+00:00", 2), ("2024-01-01T02:00:00+00:00", 1)]
        = .ok (["2024-01-01T02:00:00+00:00", "2024-01-01T03:00:00+00:00"].zip values)
      ∧ List.Forall₂ (HoldsAt [((1704078000000000 : ℤ), 2), (1704074400000000, 1)] 0)
          [1704074400000000, 1704078000000000] values :=
  have hcandles : ["2024-01-01T02:00:00+00:00", "2024-01-01T03:00:00+00:00"].mapM two_hours
      = .ok [1704074400000000, 1704078000000000] := rfl
  have hseries : read_series two_hours
      [("2024-01-01T03:00:00+00:00", (2 : ℚ)), ("2024-01-01T02:00:00+00:00", 1)]
      = .ok [(1704078000000000, 2), (1704074400000000, 1)] := rfl
  (align_series_as_of hcandles (by decide) hseries).imp fun _ h => ⟨h.1, h.2.1⟩

end ProofAlpha.Data
