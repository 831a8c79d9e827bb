/-
What a permuted price path keeps of its source (`permute_snapshot_path`).

The rebuilt closes are running products of the source's close ratios in permuted
order, so the moves of the path are those of the source and it ends where the source
does. A rebuilt candle contains its open and close unless one of them is below the
floor `1e-9` of its low.
-/
import Mathlib.Algebra.BigOperators.Group.List.Basic
import Mathlib.Algebra.Order.Field.Basic
import Mathlib.Data.List.GetD
import Mathlib.Tactic.FieldSimp
import Mathlib.Tactic.Linarith
import Mathlib.Tactic.Positivity
import Mathlib.Tactic.Ring
import ProofAlpha.Validation.RowAlignment

set_option autoImplicit false

namespace ProofAlpha.Validation

open ProofAlpha.Lib ProofAlpha.Data

variable {K : Type} [Field K] [LinearOrder K]

/-! ## What is to be kept -/

/-- The range of a candle contains its open and its close. -/
structure HoldsItsPrices (candle : Candle K) : Prop where
  low_le_open : candle.low ≤ candle.open_
  low_le_close : candle.low ≤ candle.close
  open_le_high : candle.open_ ≤ candle.high
  close_le_high : candle.close ≤ candle.high

/-- Every price of every candle is positive. -/
def PositivePrices (candles : List (Candle K)) : Prop :=
  ∀ candle ∈ candles, 0 < candle.open_ ∧ 0 < candle.high ∧ 0 < candle.low ∧ 0 < candle.close

instance (candles : List (Candle K)) : Decidable (PositivePrices candles) :=
  inferInstanceAs (Decidable (∀ candle ∈ candles,
    0 < candle.open_ ∧ 0 < candle.high ∧ 0 < candle.low ∧ 0 < candle.close))

/-- The close-to-close returns of a path. -/
def close_returns (candles : List (Candle K)) : List K :=
  List.zipWith (fun previous current => current.close / previous.close - 1) candles candles.tail

/-- The path keeps the bars of its source, its returns up to their order, and its end. -/
structure KeepsPath (source out : List (Candle K)) : Prop where
  length_eq : out.length = source.length
  timestamps_eq : out.map Candle.timestamp = source.map Candle.timestamp
  returns_perm : (close_returns out).Perm (close_returns source)
  final_close : out.getLast?.map Candle.close = source.getLast?.map Candle.close

/-- It does so in candles that hold their prices. -/
structure KeepsReturns (source out : List (Candle K)) : Prop extends KeepsPath source out where
  holds : ∀ candle ∈ out, HoldsItsPrices candle

/-! ## The moves of the source -/

variable (original_candles : List (Candle K))

/-- The move of a source bar as a factor. -/
def close_ratio (source_index : ℕ) : K :=
  (original_candles.getD source_index missing_candle).close
    / (original_candles.getD (source_index - 1) missing_candle).close

variable {original_candles}

theorem one_add_close_return {source_index : ℕ}
    (hprior : (original_candles.getD (source_index - 1) missing_candle).close ≠ 0) :
    1 + close_return original_candles source_index = close_ratio original_candles source_index := by
  rw [close_return, if_neg hprior, close_ratio]
  ring

omit [LinearOrder K] in
/-- The closes up to a bar telescope. -/
theorem close_telescope (m : ℕ)
    (hcloses : ∀ i ≤ m, (original_candles.getD i missing_candle).close ≠ 0) :
    (original_candles.getD 0 missing_candle).close
        * ((List.range' 1 m).map (close_ratio original_candles)).prod
      = (original_candles.getD m missing_candle).close := by
  induction m with
  | zero => simp
  | succ m ih =>
      have hprior := hcloses m (Nat.le_succ m)
      have hbefore := ih fun i hi => hcloses i (Nat.le_succ_of_le hi)
      have hindex : 1 + 1 * m - 1 = m := by omega
      rw [List.range'_concat, List.map_append, List.prod_append, List.map_singleton,
        List.prod_singleton, ← mul_assoc, hbefore, close_ratio, hindex, one_mul, add_comm 1 m,
        mul_div_cancel₀ _ hprior]

omit [LinearOrder K] in
/-- The timestamps of the source, the first one apart. -/
theorem timestamps_eq_cons (hpos : 0 < original_candles.length) :
    original_candles.map Candle.timestamp
      = (original_candles.getD 0 missing_candle).timestamp ::
          (List.range' 1 (original_candles.length - 1)).map fun i =>
            (original_candles.getD i missing_candle).timestamp := by
  apply List.ext_getElem
  · rw [List.length_cons, List.length_map, List.length_map, List.length_range']
    omega
  · intro k hk _
    rw [List.length_map] at hk
    cases k with
    | zero => simp [hpos]
    | succ k => simp [add_comm 1 k, hk]

/-- The returns of the source, bar by bar. -/
theorem close_returns_eq_map
    (hcloses : ∀ i < original_candles.length, (original_candles.getD i missing_candle).close ≠ 0) :
    close_returns original_candles
      = (List.range' 1 (original_candles.length - 1)).map (close_return original_candles) := by
  apply List.ext_getElem
  · rw [close_returns, List.length_zipWith, List.length_tail, List.length_map,
      List.length_range', min_eq_right (Nat.sub_le _ _)]
  · intro k hk _
    rw [close_returns, List.length_zipWith, List.length_tail] at hk
    have hprior := hcloses k (by omega)
    have hindex : 1 + 1 * k - 1 = k := by omega
    simp only [close_returns, List.getElem_zipWith, List.getElem_tail, List.getElem_map,
      List.getElem_range', close_return, hindex, if_neg hprior]
    rw [List.getD_eq_getElem _ _ (by omega : 1 + 1 * k < original_candles.length),
      List.getD_eq_getElem _ _ (by omega : k < original_candles.length)]
    simp only [one_mul, add_comm 1 k]

/-! ## The rebuilt bars -/

/-- The source closes that a permutation refers to are not zero. -/
def MovesBetween (original_candles : List (Candle K)) (permutation : List ℕ) : Prop :=
  ∀ i ∈ permutation, (original_candles.getD i missing_candle).close ≠ 0 ∧
    (original_candles.getD (i - 1) missing_candle).close ≠ 0

theorem close_permuted_candle (output_index : ℕ) (previous_close : K) {source_index : ℕ}
    (hprior : (original_candles.getD (source_index - 1) missing_candle).close ≠ 0) :
    (permuted_candle original_candles output_index previous_close source_index).close
      = previous_close * close_ratio original_candles source_index := by
  rw [← one_add_close_return hprior]
  rfl

section Floor

variable [IsStrictOrderedRing K]

/-- A rebuilt candle holds its prices when neither of its closes is below the floor. -/
theorem holdsItsPrices_permuted_candle_iff (output_index : ℕ) (previous_close : K)
    (source_index : ℕ) :
    HoldsItsPrices (permuted_candle original_candles output_index previous_close source_index)
      ↔ 1 / 10 ^ 9 ≤ previous_close ∧ 1 / 10 ^ 9
          ≤ (permuted_candle original_candles output_index previous_close source_index).close := by
  set candle := permuted_candle original_candles output_index previous_close source_index
    with hcandle
  obtain ⟨candle_range, hrange, hhigh, hlow⟩ : ∃ candle_range : K, 0 < candle_range ∧
      candle.high = max previous_close candle.close + 1 / 4 * candle_range ∧
      candle.low
        = max (1 / 10 ^ 9) (min previous_close candle.close - 1 / 4 * candle_range) :=
    ⟨_, lt_max_of_lt_right (by positivity), rfl, rfl⟩
  have hopen : candle.open_ = previous_close := rfl
  have hmin_open : min previous_close candle.close ≤ previous_close := min_le_left _ _
  have hmin_close : min previous_close candle.close ≤ candle.close := min_le_right _ _
  have hmax_open : previous_close ≤ max previous_close candle.close := le_max_left _ _
  have hmax_close : candle.close ≤ max previous_close candle.close := le_max_right _ _
  constructor
  · rintro ⟨hlow_open, hlow_close, -, -⟩
    rw [hlow] at hlow_open hlow_close
    rw [hopen] at hlow_open
    exact ⟨(le_max_left _ _).trans hlow_open, (le_max_left _ _).trans hlow_close⟩
  · rintro ⟨hprevious, hclose⟩
    refine ⟨?_, ?_, ?_, ?_⟩
    · rw [hlow, hopen]
      exact max_le hprevious (by linarith)
    · rw [hlow]
      exact max_le hclose (by linarith)
    · rw [hhigh, hopen]
      linarith
    · rw [hhigh]
      linarith

/-- The candles of a path hold their prices when no running product of the moves falls
below the floor. -/
theorem holdsItsPrices_permuted_path_iff (output_index : ℕ) (previous_close : K)
    (permutation : List ℕ) (hmoves : MovesBetween original_candles permutation) :
    (∀ candle ∈ permuted_path original_candles output_index previous_close permutation,
        HoldsItsPrices candle) ↔
      (permutation ≠ [] → ∀ k ≤ permutation.length, 1 / 10 ^ 9
        ≤ previous_close * ((permutation.take k).map (close_ratio original_candles)).prod) := by
  induction permutation generalizing output_index previous_close with
  | nil => simp [permuted_path]
  | cons source_index rest ih =>
      obtain ⟨hhere, hrest⟩ := List.forall_mem_cons.mp hmoves
      have hclose := close_permuted_candle output_index previous_close hhere.2
      have htake : ∀ k : ℕ,
          previous_close * (((source_index :: rest).take (k + 1)).map
              (close_ratio original_candles)).prod
            = previous_close * close_ratio original_candles source_index
              * ((rest.take k).map (close_ratio original_candles)).prod := by
        intro k
        rw [List.take_succ_cons, List.map_cons, List.prod_cons, mul_assoc]
      rw [permuted_path, List.forall_mem_cons, holdsItsPrices_permuted_candle_iff,
        ih _ _ hrest, hclose]
      constructor
      · rintro ⟨⟨hprevious, hnext⟩, hlater⟩ - k hk
        cases k with
        | zero => simpa using hprevious
        | succ k =>
            rw [htake]
            by_cases hnil : rest = []
            · subst hnil
              simpa using hnext
            · exact hlater hnil k (by simpa using hk)
      · intro h
        have h := h (List.cons_ne_nil _ _)
        refine ⟨⟨?_, ?_⟩, ?_⟩
        · simpa using h 0 (Nat.zero_le _)
        · have hnext := h 1 (by simp)
          rw [htake] at hnext
          simpa using hnext
        · intro _ k hk
          rw [← htake]
          exact h (k + 1) (by simpa using hk)

end Floor

/-- The returns of a path are the permuted returns of its source. -/
theorem close_returns_permuted_path (before : Candle K) (output_index : ℕ)
    (permutation : List ℕ) (hbefore : before.close ≠ 0)
    (hmoves : MovesBetween original_candles permutation) :
    close_returns (before :: permuted_path original_candles output_index before.close permutation)
      = permutation.map (close_return original_candles) := by
  induction permutation generalizing before output_index with
  | nil => rfl
  | cons source_index rest ih =>
      obtain ⟨hhere, hrest⟩ := List.forall_mem_cons.mp hmoves
      set candle := permuted_candle original_candles output_index before.close source_index
        with hcandle
      have hclose : candle.close = before.close * close_ratio original_candles source_index :=
        close_permuted_candle output_index before.close hhere.2
      have hratio : close_ratio original_candles source_index ≠ 0 := div_ne_zero hhere.1 hhere.2
      have hne : candle.close ≠ 0 := by
        rw [hclose]
        exact mul_ne_zero hbefore hratio
      have hreturn : candle.close / before.close - 1
          = close_return original_candles source_index := by
        rw [hclose, mul_div_cancel_left₀ _ hbefore, ← one_add_close_return hhere.2]
        ring
      have hlater := ih candle (output_index + 1) hne hrest
      rw [permuted_path, List.map_cons, ← hlater, ← hreturn]
      rfl

/-- A path ends where the product of its moves takes its first close. -/
theorem final_close_permuted_path (before : Candle K) (output_index : ℕ)
    (permutation : List ℕ) (hmoves : MovesBetween original_candles permutation) :
    (before :: permuted_path original_candles output_index before.close
        permutation).getLast?.map Candle.close
      = some (before.close * (permutation.map (close_ratio original_candles)).prod) := by
  induction permutation generalizing before output_index with
  | nil => simp [permuted_path]
  | cons source_index rest ih =>
      obtain ⟨hhere, hrest⟩ := List.forall_mem_cons.mp hmoves
      have hclose := close_permuted_candle output_index before.close hhere.2
      rw [permuted_path, List.getLast?_cons_cons, ih _ _ hrest, hclose, List.map_cons,
        List.prod_cons, mul_assoc]

theorem timestamps_permuted_path (output_index : ℕ) (previous_close : K) (permutation : List ℕ) :
    (permuted_path original_candles output_index previous_close permutation).map Candle.timestamp
      = (List.range' output_index permutation.length).map fun i =>
          (original_candles.getD i missing_candle).timestamp := by
  induction permutation generalizing output_index previous_close with
  | nil => rfl
  | cons source_index rest ih =>
      rw [permuted_path, List.map_cons, ih, List.length_cons, List.range'_succ, List.map_cons]
      rfl

/-! ## The permuted snapshot -/

variable (rng : PyRandom K)

omit [Field K] [LinearOrder K] in
theorem path_permutation_perm (candle_count : ℕ) (seed : ℤ) :
    (path_permutation rng candle_count seed).Perm (List.range' 1 (candle_count - 1)) :=
  rng.shuffle_perm _ _

omit [Field K] [LinearOrder K] in
theorem length_path_permutation (candle_count : ℕ) (seed : ℤ) :
    (path_permutation rng candle_count seed).length = candle_count - 1 := by
  rw [(path_permutation_perm rng candle_count seed).length_eq, List.length_range']

omit [LinearOrder K] in
/-- A permutation refers to bars of the source and to the bars before them. -/
theorem movesBetween_path_permutation {source : List (Candle K)}
    (hcloses : ∀ i < source.length, (source.getD i missing_candle).close ≠ 0) (seed : ℤ) :
    MovesBetween source (path_permutation rng source.length seed) := by
  intro i hi
  have hrange := (path_permutation_perm rng source.length seed).mem_iff.mp hi
  rw [List.mem_range'_1] at hrange
  exact ⟨hcloses i (by omega), hcloses (i - 1) (by omega)⟩

theorem PositivePrices.close_ne_zero {source : List (Candle K)} (h : PositivePrices source) :
    ∀ i < source.length, (source.getD i missing_candle).close ≠ 0 := by
  intro i hi
  rw [List.getD_eq_getElem _ _ hi]
  exact (h _ (List.getElem_mem hi)).2.2.2.ne'

/-- The path rebuilt behind the first candle of a source. -/
def rebuilt_path (source : List (Candle K)) (first : Candle K) (seed : ℤ) : List (Candle K) :=
  first :: permuted_path source 1 first.close (path_permutation rng source.length seed)

theorem rebuilt_path_keeps {source later : List (Candle K)} {first : Candle K}
    (hprices : PositivePrices source) (hsource : source = first :: later) (seed : ℤ) :
    KeepsPath source (rebuilt_path rng source first seed) := by
  have hcloses := hprices.close_ne_zero
  have hmoves := movesBetween_path_permutation rng hcloses seed
  have hperm := path_permutation_perm rng source.length seed
  have hpos : 0 < source.length := by
    rw [hsource]
    exact Nat.succ_pos _
  have hfirst : source.getD 0 missing_candle = first := by
    rw [hsource]
    rfl
  have hfirst_close : first.close ≠ 0 := by
    rw [← hfirst]
    exact hcloses 0 hpos
  refine ⟨?_, ?_, ?_, ?_⟩
  · rw [rebuilt_path, List.length_cons, length_permuted_path, length_path_permutation]
    omega
  · rw [rebuilt_path, List.map_cons, timestamps_permuted_path, length_path_permutation,
      timestamps_eq_cons hpos, hfirst]
  · -- the returns of the path are those of the source in the order of the shuffle
    rw [rebuilt_path, close_returns_permuted_path first 1 _ hfirst_close hmoves,
      close_returns_eq_map hcloses]
    exact hperm.map _
  · have hlast : source.getLast?.map Candle.close
        = some (source.getD (source.length - 1) missing_candle).close := by
      rw [List.getLast?_eq_getElem?, List.getElem?_eq_getElem (by omega),
        List.getD_eq_getElem _ _ (by omega), Option.map_some]
    -- a product does not depend on the order of its factors
    rw [rebuilt_path, final_close_permuted_path first 1 _ hmoves, hlast,
      (hperm.map (close_ratio source)).prod_eq, ← hfirst,
      close_telescope _ fun i hi => hcloses i (by omega)]

/-- The first candle, which is the source's, holds its prices, and where bars are
rebuilt no running product of the permuted close ratios takes the first close below the
floor of the lows. -/
structure AboveFloor (source : List (Candle K)) (permutation : List ℕ) : Prop where
  first : ∀ candle ∈ source.head?, HoldsItsPrices candle
  products : 1 < source.length → ∀ k ≤ permutation.length, 1 / 10 ^ 9
    ≤ (source.getD 0 missing_candle).close
      * ((permutation.take k).map (close_ratio source)).prod

variable [IsStrictOrderedRing K]

theorem rebuilt_path_holds_iff {source later : List (Candle K)} {first : Candle K}
    (hprices : PositivePrices source) (hsource : source = first :: later)
    (hcount : 1 < source.length) (seed : ℤ) :
    (∀ candle ∈ rebuilt_path rng source first seed, HoldsItsPrices candle)
      ↔ AboveFloor source (path_permutation rng source.length seed) := by
  have hmoves := movesBetween_path_permutation rng hprices.close_ne_zero seed
  have hne : path_permutation rng source.length seed ≠ [] := by
    intro hnil
    have hlength := length_path_permutation rng source.length seed
    rw [hnil, List.length_nil] at hlength
    omega
  have hfirst : source.getD 0 missing_candle = first := by
    rw [hsource]
    rfl
  have hhead : source.head? = some first := by
    rw [hsource]
    rfl
  rw [rebuilt_path, List.forall_mem_cons, holdsItsPrices_permuted_path_iff 1 first.close _ hmoves]
  constructor
  · rintro ⟨hholds, hproducts⟩
    refine ⟨?_, ?_⟩
    · intro candle hcandle
      rw [hhead, Option.mem_some_iff] at hcandle
      rw [← hcandle]
      exact hholds
    · intro _
      rw [hfirst]
      exact hproducts hne
  · rintro ⟨hholds, hproducts⟩
    refine ⟨hholds first hhead, ?_⟩
    intro _
    rw [← hfirst]
    exact hproducts hcount

theorem permuted_path_keeps {snapshot out : DataSnapshot K} {seed : ℤ}
    (hprices : PositivePrices snapshot.candles) (hcount : 1 < snapshot.candles.length)
    (h : permute_snapshot_path rng snapshot seed = .ok out) :
    KeepsPath snapshot.candles out.candles ∧
      ((∀ candle ∈ out.candles, HoldsItsPrices candle) ↔
        AboveFloor snapshot.candles (path_permutation rng snapshot.candles.length seed)) := by
  obtain ⟨first, later, hcandles, _, _, _, -, -, -, rfl⟩ := permute_snapshot_path_ok hcount h
  exact ⟨rebuilt_path_keeps rng hprices hcandles seed,
    rebuilt_path_holds_iff rng hprices hcandles hcount seed⟩

/-- A permutation of a snapshot with positive prices keeps its bars, the returns of its
closes up to their order and its final close; its candles hold their prices exactly where
the path stays above the floor. -/
theorem permutation_null_iff (snapshot out : DataSnapshot K) (seed : ℤ)
    (hprices : PositivePrices snapshot.candles)
    (h : permute_snapshot_path rng snapshot seed = .ok out) :
    KeepsPath snapshot.candles out.candles ∧
      (KeepsReturns snapshot.candles out.candles ↔
        AboveFloor snapshot.candles (path_permutation rng snapshot.candles.length seed)) := by
  by_cases hcount : 1 < snapshot.candles.length
  · obtain ⟨hkeeps, hholds⟩ := permuted_path_keeps rng hprices hcount h
    refine ⟨hkeeps, ?_⟩
    rw [← hholds]
    exact ⟨fun hreturns => hreturns.holds, fun hcandles => ⟨hkeeps, hcandles⟩⟩
  · -- one bar at most: the snapshot itself comes back
    rw [permute_snapshot_path_short rng (not_lt.mp hcount)] at h
    obtain rfl := Except.ok.inj h
    have hkeeps : KeepsPath snapshot.candles snapshot.candles :=
      ⟨rfl, rfl, List.Perm.refl _, rfl⟩
    refine ⟨hkeeps, ?_⟩
    constructor
    · intro hreturns
      refine ⟨?_, fun hlong => absurd hlong hcount⟩
      intro candle hcandle
      exact hreturns.holds candle (List.mem_of_mem_head? hcandle)
    · intro habove
      refine ⟨hkeeps, ?_⟩
      intro candle hcandle
      apply habove.first
      match hlist : snapshot.candles with
      | [] => simp [hlist] at hcandle
      | [only] =>
          rw [hlist, List.mem_singleton] at hcandle
          rw [hcandle]
          rfl
      | _ :: _ :: _ => simp [hlist] at hcount

/-! ## A token of nine decimals -/

/-- Three hourly bars of a token priced in billionths: it doubles and falls back. -/
def nine_decimal_snapshot : DataSnapshot ℚ where
  snapshot_id := "nine-decimals"
  symbol := "BABYUSDT"
  venue := "binance"
  timeframe := "1h"
  candles :=
    [⟨0, 12 / 10 ^ 10, 13 / 10 ^ 10, 11 / 10 ^ 10, 12 / 10 ^ 10, 1000, 0⟩,
      ⟨3600000000, 12 / 10 ^ 10, 25 / 10 ^ 10, 11 / 10 ^ 10, 24 / 10 ^ 10, 1001, 0⟩,
      ⟨7200000000, 24 / 10 ^ 10, 25 / 10 ^ 10, 11 / 10 ^ 10, 12 / 10 ^ 10, 1002, 0⟩]
  funding_rates := [0, 0, 0]
  open_interest := [100, 101, 102]
  liquidation_notional := [0, 0, 0]
  maker_fee_bps := 2
  taker_fee_bps := 5

theorem nine_decimal_prices : PositivePrices nine_decimal_snapshot.candles := by
  decide +kernel

theorem exists_permuted_nine_decimals :
    ∃ out, permute_snapshot_path swapping_random nine_decimal_snapshot 1 = .ok out :=
  permute_snapshot_path_returns swapping_random nine_decimal_snapshot 1 (by decide) (by decide)
    (by decide)

/-- The fall drawn first takes the rebuilt close to `6e-10`, below the low of its candle. -/
theorem permuted_low_above_close :
    ¬ ∀ (rng : PyRandom ℚ) (snapshot out : DataSnapshot ℚ) (seed : ℤ),
      PositivePrices snapshot.candles → permute_snapshot_path rng snapshot seed = .ok out →
      KeepsReturns snapshot.candles out.candles := by
  intro hclaim
  obtain ⟨out, hout⟩ := exists_permuted_nine_decimals
  have hholds := (hclaim swapping_random _ out 1 nine_decimal_prices hout).holds
  have habove := (permuted_path_keeps swapping_random nine_decimal_prices (by decide)
    hout).2.mp hholds
  have hproduct := habove.products (by decide) 1 (by decide)
  revert hproduct
  decide +kernel

/-- The equivalence on that snapshot. -/
theorem permutation_null_iff_nine_decimals : ∃ out,
    permute_snapshot_path swapping_random nine_decimal_snapshot 1 = .ok out ∧
      KeepsPath nine_decimal_snapshot.candles out.candles ∧
      (KeepsReturns nine_decimal_snapshot.candles out.candles ↔
        AboveFloor nine_decimal_snapshot.candles (path_permutation swapping_random 3 1)) := by
  obtain ⟨out, hout⟩ := exists_permuted_nine_decimals
  exact ⟨out, hout,
    permutation_null_iff swapping_random nine_decimal_snapshot out 1 nine_decimal_prices hout⟩

end ProofAlpha.Validation
