/-
The permuted price path of the permutation test (`validation/permutation.py`,
`permute_snapshot_path`).

The bars' close returns are shuffled after the first bar and the path is rebuilt
from them: bar `k` moves as source bar `permutation[k]` did and has its volume,
while its timestamp stays that of bar `k`.
-/
import ProofAlpha.Lib.PyMath
import ProofAlpha.Validation.Bootstrap

set_option autoImplicit false

namespace ProofAlpha.Validation

open ProofAlpha.Lib ProofAlpha.Lib.IndexMap ProofAlpha.Data

variable {K : Type} [Field K] [LinearOrder K]

/-- The candle read past the end of a path. -/
def missing_candle : Candle K := ⟨0, 0, 0, 0, 0, 0, 0⟩

/-- The close return of a source bar; a prior close of zero has none. -/
def close_return (original_candles : List (Candle K)) (source_index : ℕ) : K :=
  let source_candle := original_candles.getD source_index missing_candle
  let prior_close := (original_candles.getD (source_index - 1) missing_candle).close
  if prior_close = 0 then 0 else source_candle.close / prior_close - 1

/-- The candle at `output_index`, moved from `previous_close` as the source bar
moved. -/
def permuted_candle (original_candles : List (Candle K)) (output_index : ℕ)
    (previous_close : K) (source_index : ℕ) : Candle K :=
  let source_candle := original_candles.getD source_index missing_candle
  let next_close := previous_close * (1 + close_return original_candles source_index)
  let candle_range :=
    max (max |source_candle.high - source_candle.low| |next_close - previous_close|) (1 / 10 ^ 6)
  { timestamp := (original_candles.getD output_index missing_candle).timestamp
    open_ := previous_close
    high := max previous_close next_close + 1 / 4 * candle_range
    low := max (1 / 10 ^ 9) (min previous_close next_close - 1 / 4 * candle_range)
    close := next_close
    volume := source_candle.volume
    trade_count := 0 }

/-- The loop over the permutation, from `output_index` on. -/
def permuted_path (original_candles : List (Candle K)) :
    (output_index : ℕ) → (previous_close : K) → (permutation : List ℕ) → List (Candle K)
  | _, _, [] => []
  | output_index, previous_close, source_index :: rest =>
      let candle := permuted_candle original_candles output_index previous_close source_index
      candle :: permuted_path original_candles (output_index + 1) candle.close rest

/-- `permutation`: the bars after the first, shuffled. -/
def path_permutation (rng : PyRandom K) (candle_count : ℕ) (seed : ℤ) : List ℕ :=
  (rng.shuffle (rng.seeded seed) (List.range' 1 (candle_count - 1))).1

/-- `permute_snapshot_path`. -/
def permute_snapshot_path (rng : PyRandom K) (snapshot : DataSnapshot K) (seed : ℤ) :
    Except ResampleError (DataSnapshot K) :=
  match snapshot.candles with
  | [] => .ok snapshot
  | [_] => .ok snapshot
  | first :: _ => do
      let permutation := path_permutation rng snapshot.candles.length seed
      let permuted_candles :=
        first :: permuted_path snapshot.candles 1 first.close permutation
      let funding_rates ← pick (0 :: permutation) snapshot.funding_rates
      let open_interest ← pick (0 :: permutation) snapshot.open_interest
      let liquidation_notional ← pick (0 :: permutation) snapshot.liquidation_notional
      return clone_snapshot snapshot (snapshot.snapshot_id ++ ":permuted:" ++ toString seed)
        { candles := some permuted_candles
          funding_rates := some funding_rates
          open_interest := some open_interest
          liquidation_notional := some liquidation_notional
          provenance_updates := [("transformation", .str "permutation"), ("seed", .int seed)] }

/-- What a permuted snapshot of two bars or more is made of. -/
theorem permute_snapshot_path_ok {rng : PyRandom K} {snapshot out : DataSnapshot K} {seed : ℤ}
    (hcount : 1 < snapshot.candles.length)
    (h : permute_snapshot_path rng snapshot seed = .ok out) :
    ∃ first later, snapshot.candles = first :: later ∧
      let indices := 0 :: path_permutation rng snapshot.candles.length seed
      ∃ funding_rates open_interest liquidation_notional,
        pick indices snapshot.funding_rates = .ok funding_rates ∧
        pick indices snapshot.open_interest = .ok open_interest ∧
        pick indices snapshot.liquidation_notional = .ok liquidation_notional ∧
        out = clone_snapshot snapshot (snapshot.snapshot_id ++ ":permuted:" ++ toString seed)
          { candles := some (first :: permuted_path snapshot.candles 1 first.close
              (path_permutation rng snapshot.candles.length seed))
            funding_rates := some funding_rates
            open_interest := some open_interest
            liquidation_notional := some liquidation_notional
            provenance_updates := [("transformation", .str "permutation"), ("seed", .int seed)] }
    := by
  obtain ⟨first, second, rest, hcandles⟩ :
      ∃ first second rest, snapshot.candles = first :: second :: rest := by
    match hlist : snapshot.candles with
    | [] => simp [hlist] at hcount
    | [_] => simp [hlist] at hcount
    | first :: second :: rest => exact ⟨first, second, rest, rfl⟩
  unfold permute_snapshot_path at h
  rw [hcandles] at h
  simp only [] at h
  rw [← hcandles] at h
  obtain ⟨funding_rates, hfunding, h⟩ := bind_ok h
  obtain ⟨open_interest, hopen, h⟩ := bind_ok h
  obtain ⟨liquidation_notional, hliquidation, h⟩ := bind_ok h
  exact ⟨first, second :: rest, hcandles, funding_rates, open_interest, liquidation_notional,
    hfunding, hopen, hliquidation, (Except.ok.inj h).symm⟩

/-! ## The rebuilt path -/

variable (original_candles : List (Candle K))

theorem length_permuted_path (output_index : ℕ) (previous_close : K) (permutation : List ℕ) :
    (permuted_path original_candles output_index previous_close permutation).length
      = permutation.length := by
  induction permutation generalizing output_index previous_close with
  | nil => rfl
  | cons source_index rest ih =>
      rw [permuted_path, List.length_cons, List.length_cons, ih]

/-- The bars of a rebuilt path follow the source bars: bar `k + 1` closes where the
return of its source bar takes the close before it, on that bar's volume. -/
theorem permuted_path_follows (before : Candle K) (output_index : ℕ) (permutation : List ℕ) :
    ∀ k i : ℕ, permutation[k]? = some i →
      let path := before :: permuted_path original_candles output_index before.close permutation
      (path.getD (k + 1) missing_candle).close
          = (path.getD k missing_candle).close * (1 + close_return original_candles i) ∧
        (path.getD (k + 1) missing_candle).volume
          = (original_candles.getD i missing_candle).volume := by
  induction permutation generalizing before output_index with
  | nil =>
      intro k i hk
      simp at hk
  | cons source_index rest ih =>
      intro k i hk
      cases k with
      | zero =>
          obtain rfl : source_index = i := by simpa using hk
          exact ⟨rfl, rfl⟩
      | succ k =>
          have hrest : rest[k]? = some i := by simpa using hk
          exact ih (permuted_candle original_candles output_index before.close source_index)
            (output_index + 1) k i hrest

end ProofAlpha.Validation
