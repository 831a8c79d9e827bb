/-
Whether the rows of a resampled snapshot stay together.

A resampler draws one index map and moves the candles along it: a bootstrap takes
the candles at the map's indices, the permutation test rebuilds the path from the
close returns and volumes there. Each resampler lists by hand the other series it
re-indexes and `clone_snapshot` copies the rest in their original order. So the
rows stay together exactly when the listed series fit and the map moves none of
the others (`rows_aligned_iff`).
-/
import ProofAlpha.Validation.Permutation

set_option autoImplicit false

namespace ProofAlpha.Validation

open ProofAlpha.Lib ProofAlpha.Lib.IndexMap ProofAlpha.Data

variable {K : Type} [Field K] [LinearOrder K]

/-! ## The resamplers -/

/-- One call of a resampler. -/
inductive Resampling where
  | bootstrap (method : String) (block_size seed : ℤ)
  | multivariate_block (block_size seed : ℤ)
  | permutation (seed : ℤ)

variable (rng : PyRandom K) (tsbootstrap : Option BlockBootstrap)

/-- The snapshot the call returns. -/
def resample (snapshot : DataSnapshot K) : Resampling → Except ResampleError (DataSnapshot K)
  | .bootstrap method block_size seed =>
      bootstrap_snapshot rng tsbootstrap snapshot method block_size seed
  | .multivariate_block block_size seed =>
      multivariate_block_bootstrap rng snapshot block_size seed
  | .permutation seed => permute_snapshot_path rng snapshot seed

/-- The index map the call draws; a path of at most one bar stays where it is. -/
def index_map (candle_count : ℕ) : Resampling → List ℕ
  | .bootstrap method block_size seed =>
      (bootstrap_indices_for_method rng tsbootstrap method candle_count block_size seed).toOption.getD
        []
  | .multivariate_block block_size seed =>
      (multivariate_block_bootstrap_indices rng candle_count block_size seed).toOption.getD []
  | .permutation seed =>
      if candle_count ≤ 1 then List.range candle_count
      else 0 :: path_permutation rng candle_count seed

/-- The series `clone_snapshot_with_bootstrap_indices` re-indexes. -/
def bootstrap_reindexes : NumberSeries → Bool
  | .funding_rates | .open_interest | .liquidation_notional | .spread_bps
  | .depth_bid_1bp_usd | .depth_ask_1bp_usd | .latency_proxy_ms => true
  | _ => false

/-- The series `permute_snapshot_path` re-indexes. -/
def permutation_reindexes : NumberSeries → Bool
  | .funding_rates | .open_interest | .liquidation_notional => true
  | _ => false

/-- The series the call re-indexes. -/
def reindexes (candle_count : ℕ) : Resampling → NumberSeries → Bool
  | .permutation _, series => decide (1 < candle_count) && permutation_reindexes series
  | _, series => bootstrap_reindexes series

/-! ## Aligned rows -/

/-- The rebuilt path moves, bar by bar, as the source bars of the map moved. -/
structure PathFollows (indices : List ℕ) (source out : List (Candle K)) : Prop where
  length_eq : out.length = indices.length
  first : out.head? = source.head?
  close : ∀ k i : ℕ, indices[k + 1]? = some i → (out.getD (k + 1) missing_candle).close
    = (out.getD k missing_candle).close * (1 + close_return source i)
  volume : ∀ k i : ℕ, indices[k]? = some i →
    (out.getD k missing_candle).volume = (source.getD i missing_candle).volume

/-- The candles of the result are the source's along the map. -/
def CandlesAlong (indices : List ℕ) (source out : List (Candle K)) : Resampling → Prop
  | .permutation _ => PathFollows indices source out
  | _ => take_along indices source = some out

/-- Every per-bar series beside the candles is the source's along the map. -/
structure RowsAligned (indices : List ℕ) (source out : DataSnapshot K) : Prop where
  number : ∀ series, Along indices (source.number series) (out.number series)
  text : ∀ series, Along indices (source.text series) (out.text series)
  regime_probabilities : Along indices source.regime_probabilities out.regime_probabilities

/-- A bootstrap re-indexes a series that has one entry per candle; a permutation
that returns has re-indexed its series. -/
def Fits (candle_count : ℕ) (values : List K) : Resampling → Prop
  | .permutation _ => True
  | _ => values = [] ∨ values.length = candle_count

/-- Every series the call re-indexes fits, and the map moves none of the others. -/
structure RowsFollow (resampling : Resampling) (indices : List ℕ) (source : DataSnapshot K) :
    Prop where
  reindexed : ∀ series, reindexes source.candles.length resampling series = true →
    Fits source.candles.length (source.number series) resampling
  kept : ∀ series, reindexes source.candles.length resampling series = false →
    Unmoved indices (source.number series)
  text : ∀ series, Unmoved indices (source.text series)
  regime_probabilities : Unmoved indices source.regime_probabilities

/-! ## What a resampler does to each series -/

/-- The listed series are moved, everything else is copied. -/
structure Reindexed (listed : NumberSeries → Bool) (move : List K → List K → Prop)
    (source out : DataSnapshot K) : Prop where
  moved : ∀ series, listed series = true → move (source.number series) (out.number series)
  kept : ∀ series, listed series = false → out.number series = source.number series
  text : ∀ series, out.text series = source.text series
  regime_probabilities : out.regime_probabilities = source.regime_probabilities

omit [Field K] [LinearOrder K] in
/-- The rows are aligned when each moved series is and the map leaves the others
in place. -/
theorem Reindexed.rowsAligned_iff {listed : NumberSeries → Bool}
    {move : List K → List K → Prop} {source out : DataSnapshot K}
    (h : Reindexed listed move source out) {resampling : Resampling} {indices : List ℕ}
    (hlisted : reindexes source.candles.length resampling = listed)
    (hmove : ∀ xs ys, move xs ys →
      (Along indices xs ys ↔ Fits source.candles.length xs resampling)) :
    RowsAligned indices source out ↔ RowsFollow resampling indices source := by
  constructor
  · intro hrows
    refine ⟨?_, ?_, ?_, ?_⟩
    · intro series hseries
      rw [hlisted] at hseries
      exact (hmove _ _ (h.moved series hseries)).mp (hrows.number series)
    · intro series hseries
      rw [hlisted] at hseries
      have halong := hrows.number series
      rw [h.kept series hseries] at halong
      exact along_self_iff.mp halong
    · intro series
      have halong := hrows.text series
      rw [h.text series] at halong
      exact along_self_iff.mp halong
    · have halong := hrows.regime_probabilities
      rw [h.regime_probabilities] at halong
      exact along_self_iff.mp halong
  · intro hfollow
    refine ⟨?_, ?_, ?_⟩
    · intro series
      have hfits := hfollow.reindexed series
      have hkept := hfollow.kept series
      rw [hlisted] at hfits hkept
      by_cases hseries : listed series = true
      · exact (hmove _ _ (h.moved series hseries)).mpr (hfits hseries)
      · rw [Bool.not_eq_true] at hseries
        rw [h.kept series hseries]
        exact along_self_iff.mpr (hkept hseries)
    · intro series
      rw [h.text series]
      exact along_self_iff.mpr (hfollow.text series)
    · rw [h.regime_probabilities]
      exact along_self_iff.mpr hfollow.regime_probabilities

omit [Field K] [LinearOrder K] in
theorem pick_eq_ok {α : Type} {indices : List ℕ} {values picked : List α} :
    pick indices values = .ok picked ↔ take_along indices values = some picked := by
  unfold pick
  cases take_along indices values with
  | none => simp
  | some found => simp

omit [Field K] [LinearOrder K] in
/-- A series `_resample_series` returns is along the indices when it was absent or
complete: a series of any other length is copied. -/
theorem along_resample_series_iff {candle_count : ℕ} {indices : List ℕ} {values out : List K}
    (hlength : indices.length = candle_count)
    (h : resample_series values indices candle_count = .ok out) :
    Along indices values out ↔ values = [] ∨ values.length = candle_count := by
  unfold resample_series at h
  by_cases hcomplete : values.length = candle_count
  · rw [if_pos hcomplete] at h
    exact iff_of_true (along_of_take_along (pick_eq_ok.mp h)) (Or.inr hcomplete)
  · rw [if_neg hcomplete] at h
    rw [← Except.ok.inj h, along_self_iff]
    unfold Unmoved
    rw [hlength]
    exact or_congr_right (iff_of_false (fun hkept => hcomplete hkept.1) hcomplete)

omit [Field K] [LinearOrder K] in
/-- What the bootstrap's clone does to each series. -/
theorem clone_with_indices_spec {snapshot out : DataSnapshot K} {indices : List ℕ}
    {snapshot_id : String} {provenance_updates : JsonObject K}
    (h : clone_snapshot_with_bootstrap_indices snapshot indices snapshot_id provenance_updates
      = .ok out) :
    take_along indices snapshot.candles = some out.candles ∧
      Reindexed bootstrap_reindexes
        (fun xs ys => resample_series xs indices snapshot.candles.length = .ok ys) snapshot out := by
  obtain ⟨candles, hcandles, h⟩ := bind_ok h
  obtain ⟨funding_rates, hfunding, h⟩ := bind_ok h
  obtain ⟨open_interest, hopen, h⟩ := bind_ok h
  obtain ⟨liquidation_notional, hliquidation, h⟩ := bind_ok h
  obtain ⟨spread_bps, hspread, h⟩ := bind_ok h
  obtain ⟨depth_bid_1bp_usd, hbid, h⟩ := bind_ok h
  obtain ⟨depth_ask_1bp_usd, hask, h⟩ := bind_ok h
  obtain ⟨latency_proxy_ms, hlatency, h⟩ := bind_ok h
  obtain rfl := Except.ok.inj h
  refine ⟨pick_eq_ok.mp hcandles, ?_, ?_, ?_, rfl⟩
  · intro series hlisted
    cases series <;> first | assumption | exact absurd hlisted (by decide)
  · intro series hkept
    cases series <;> first | rfl | exact absurd hkept (by decide)
  · intro series
    cases series <;> rfl

/-- The permutation test's clone re-indexes three series; its path follows the
source bars. -/
theorem permute_snapshot_path_spec {snapshot out : DataSnapshot K} {seed : ℤ}
    (hcount : 1 < snapshot.candles.length)
    (h : permute_snapshot_path rng snapshot seed = .ok out) :
    PathFollows (0 :: path_permutation rng snapshot.candles.length seed) snapshot.candles
        out.candles ∧
      Reindexed permutation_reindexes
        (fun xs ys =>
          pick (0 :: path_permutation rng snapshot.candles.length seed) xs = .ok ys)
        snapshot out := by
  obtain ⟨first, later, hcandles, funding_rates, open_interest, liquidation_notional, hfunding,
    hopen, hliquidation, rfl⟩ := permute_snapshot_path_ok hcount h
  have hfollows := permuted_path_follows snapshot.candles first 1
    (path_permutation rng snapshot.candles.length seed)
  refine ⟨⟨?_, ?_, ?_, ?_⟩, ?_, ?_, ?_, rfl⟩
  · exact congrArg (· + 1) (length_permuted_path _ _ _ _)
  · rw [hcandles]
    rfl
  · intro k i hk
    exact (hfollows k i (by simpa using hk)).1
  · intro k i hk
    cases k with
    | zero =>
        obtain rfl : 0 = i := by simpa using hk
        rw [hcandles]
        rfl
    | succ k => exact (hfollows k i (by simpa using hk)).2
  · intro series hlisted
    cases series <;> first | assumption | exact absurd hlisted (by decide)
  · intro series hkept
    cases series <;> first | rfl | exact absurd hkept (by decide)
  · intro series
    cases series <;> rfl

omit [Field K] [LinearOrder K] in
/-- A snapshot returned as it is. -/
theorem reindexed_self (snapshot : DataSnapshot K) :
    Reindexed (fun _ => false) (fun _ _ => False) snapshot snapshot := by
  refine ⟨?_, fun _ _ => rfl, fun _ => rfl, rfl⟩
  intro series hlisted
  exact absurd hlisted Bool.false_ne_true

/-- A path of at most one bar is returned as it is. -/
theorem permute_snapshot_path_short {snapshot : DataSnapshot K} {seed : ℤ}
    (hcount : snapshot.candles.length ≤ 1) :
    permute_snapshot_path rng snapshot seed = .ok snapshot := by
  unfold permute_snapshot_path
  match hlist : snapshot.candles with
  | [] => rfl
  | [_] => rfl
  | _ :: _ :: _ => simp [hlist] at hcount

/-- A path of at most one bar follows itself. -/
theorem pathFollows_short {path : List (Candle K)} (hcount : path.length ≤ 1) :
    PathFollows (List.range path.length) path path := by
  refine ⟨by rw [List.length_range], rfl, ?_, ?_⟩
  · intro k i hk
    obtain ⟨hlt, -⟩ := List.getElem?_eq_some_iff.mp hk
    rw [List.length_range] at hlt
    omega
  · intro k i hk
    obtain ⟨-, rfl⟩ := List.getElem?_eq_some_iff.mp hk
    rw [List.getElem_range]

/-! ## The rows of a resampled snapshot -/

omit [Field K] [LinearOrder K] in
/-- The bootstrap's clone along one index per bar. -/
theorem clone_rows_iff {snapshot out : DataSnapshot K} {indices : List ℕ} {snapshot_id : String}
    {provenance_updates : JsonObject K} {resampling : Resampling}
    (hlisted : reindexes snapshot.candles.length resampling = bootstrap_reindexes)
    (hfits : ∀ values : List K, Fits snapshot.candles.length values resampling ↔
      values = [] ∨ values.length = snapshot.candles.length)
    (hbars : BarIndices snapshot.candles.length indices)
    (h : clone_snapshot_with_bootstrap_indices snapshot indices snapshot_id provenance_updates
      = .ok out) :
    RowsAligned indices snapshot out ↔ RowsFollow resampling indices snapshot := by
  apply (clone_with_indices_spec h).2.rowsAligned_iff hlisted
  intro xs ys hmove
  rw [hfits]
  exact along_resample_series_iff hbars.length_eq hmove

/-- The snapshot a resampler returns has its candles along the drawn map, and every
other per-bar series with them, exactly when each series the resampler re-indexes
is absent or complete and the map moves none of the series it copies. -/
theorem rows_aligned_iff (snapshot out : DataSnapshot K) (resampling : Resampling)
    (h : resample rng tsbootstrap snapshot resampling = .ok out) :
    (CandlesAlong (index_map rng tsbootstrap snapshot.candles.length resampling)
        snapshot.candles out.candles resampling ∧
      RowsAligned (index_map rng tsbootstrap snapshot.candles.length resampling) snapshot out) ↔
    RowsFollow resampling (index_map rng tsbootstrap snapshot.candles.length resampling)
      snapshot := by
  cases resampling with
  | bootstrap method block_size seed =>
      obtain ⟨indices, hindices, h⟩ := bind_ok h
      have hmap : index_map rng tsbootstrap snapshot.candles.length
          (.bootstrap method block_size seed) = indices := by
        rw [index_map, hindices]
        rfl
      rw [hmap]
      apply (and_iff_right (clone_with_indices_spec h).1).trans
      exact clone_rows_iff rfl (fun _ => Iff.rfl) (bootstrap_indices_spec rng _ hindices) h
  | multivariate_block block_size seed =>
      obtain ⟨indices, hindices, h⟩ := bind_ok h
      have hmap : index_map rng tsbootstrap snapshot.candles.length
          (.multivariate_block block_size seed) = indices := by
        rw [index_map, hindices]
        rfl
      rw [hmap]
      apply (and_iff_right (clone_with_indices_spec h).1).trans
      exact clone_rows_iff rfl (fun _ => Iff.rfl) (barIndices_moving_block rng hindices) h
  | permutation seed =>
      by_cases hcount : snapshot.candles.length ≤ 1
      · have hsame := (permute_snapshot_path_short rng hcount).symm.trans h
        obtain rfl := Except.ok.inj hsame
        rw [index_map, if_pos hcount]
        apply (and_iff_right (pathFollows_short hcount)).trans
        apply (reindexed_self snapshot).rowsAligned_iff
        · funext series
          simp [reindexes, hcount]
        · exact fun _ _ hmove => hmove.elim
      · have hlong : 1 < snapshot.candles.length := by omega
        obtain ⟨hpath, hreindexed⟩ := permute_snapshot_path_spec rng hlong h
        rw [index_map, if_neg hcount]
        apply (and_iff_right hpath).trans
        apply hreindexed.rowsAligned_iff
        · funext series
          simp [reindexes, hlong]
        · intro xs ys hmove
          exact iff_of_true (along_of_take_along (pick_eq_ok.mp hmove)) trivial

omit [Field K] [LinearOrder K] in
theorem pick_returns {α : Type} {indices : List ℕ} {values : List α}
    (h : ∀ i ∈ indices, i < values.length) : ∃ picked, pick indices values = .ok picked := by
  obtain ⟨picked, hpicked⟩ := exists_take_along h
  exact ⟨picked, pick_eq_ok.mpr hpicked⟩

/-- A permutation returns when the three series it re-indexes reach every bar. -/
theorem permute_snapshot_path_returns (snapshot : DataSnapshot K) (seed : ℤ)
    (hfunding : snapshot.candles.length ≤ snapshot.funding_rates.length)
    (hopen : snapshot.candles.length ≤ snapshot.open_interest.length)
    (hliquidation : snapshot.candles.length ≤ snapshot.liquidation_notional.length) :
    ∃ out, permute_snapshot_path rng snapshot seed = .ok out := by
  by_cases hcount : snapshot.candles.length ≤ 1
  · exact ⟨snapshot, permute_snapshot_path_short rng hcount⟩
  · have hseries : ∀ values : List K, snapshot.candles.length ≤ values.length →
        ∃ picked, pick (0 :: path_permutation rng snapshot.candles.length seed) values
          = .ok picked := by
      intro values hlength
      apply pick_returns
      intro i hi
      have hlt := rng.lt_of_mem_shuffle_tail (rng.seeded seed) hi (by omega)
      omega
    obtain ⟨_, hfunding⟩ := hseries _ hfunding
    obtain ⟨_, hopen⟩ := hseries _ hopen
    obtain ⟨_, hliquidation⟩ := hseries _ hliquidation
    unfold permute_snapshot_path
    split
    · exact ⟨snapshot, rfl⟩
    · exact ⟨snapshot, rfl⟩
    · simp only [hfunding, hopen, hliquidation, ok_bind]
      exact ⟨_, rfl⟩

/-! ## A permuted order book -/

/-- The generator on the seed and the two bars of the example, which
`random.Random(1)` swaps. -/
def swapping_random : PyRandom ℚ where
  State := ℤ
  seeded seed := seed
  randint state low _ := (low, state)
  randrange state _ := (0, state)
  random state := (0, state)
  shuffle state items := (if state = 1 then items.reverse else items, state)
  randint_mem _ _ _ hle := ⟨le_rfl, hle⟩
  randrange_lt _ _ hpos := hpos
  shuffle_perm state items := by
    by_cases hseed : state = 1
    · simp only [if_pos hseed]
      exact items.reverse_perm
    · simp only [if_neg hseed]
      exact List.Perm.refl items

/-- Three hourly bars, the last of them with a thin book. -/
def thin_book_snapshot : DataSnapshot ℚ where
  snapshot_id := "thin-book"
  symbol := "SOLUSDT"
  venue := "binance"
  timeframe := "1h"
  candles :=
    [⟨0, 100, 101, 99, 100, 1000, 0⟩, ⟨3600000000, 100, 103, 99, 102, 1001, 0⟩,
      ⟨7200000000, 102, 103, 50, 51, 1002, 0⟩]
  funding_rates := [1 / 1000, 2 / 1000, -3 / 1000]
  open_interest := [100, 101, 102]
  liquidation_notional := [0, 5, 500]
  maker_fee_bps := 2
  taker_fee_bps := 5
  spread_bps := [1, 1, 40]
  depth_bid_1bp_usd := [90000, 90000, 1000]
  depth_ask_1bp_usd := [90000, 90000, 1000]
  latency_proxy_ms := [20, 20, 800]

/-- The permutation returns on this snapshot. -/
theorem exists_permuted_thin_book :
    ∃ out, resample swapping_random none thin_book_snapshot (.permutation 1) = .ok out :=
  permute_snapshot_path_returns swapping_random thin_book_snapshot 1 (by decide) (by decide)
    (by decide)

/-- The permuted path closes on the crash at its second bar, where the book of the
source is still deep: the depths stay in their original order. -/
theorem permuted_book_stays :
    ¬ ∀ (rng : PyRandom ℚ) (tsbootstrap : Option BlockBootstrap)
      (snapshot out : DataSnapshot ℚ) (resampling : Resampling),
      resample rng tsbootstrap snapshot resampling = .ok out →
      CandlesAlong (index_map rng tsbootstrap snapshot.candles.length resampling)
          snapshot.candles out.candles resampling ∧
        RowsAligned (index_map rng tsbootstrap snapshot.candles.length resampling) snapshot
          out := by
  intro hclaim
  obtain ⟨out, hout⟩ := exists_permuted_thin_book
  have hrows := (hclaim swapping_random none thin_book_snapshot out (.permutation 1) hout).2
  have hpath : permute_snapshot_path swapping_random thin_book_snapshot 1 = .ok out := hout
  have hkept := (permute_snapshot_path_spec swapping_random (by decide) hpath).2.kept
    .depth_bid_1bp_usd rfl
  have hbook := hrows.number .depth_bid_1bp_usd
  rw [hkept] at hbook
  rcases hbook with ⟨hnil, -⟩ | halong
  · cases hnil
  · have hswapped : take_along [0, 2, 1] ([90000, 90000, 1000] : List ℚ)
        = some [90000, 1000, 90000] := rfl
    have hsame := hswapped.symm.trans halong
    revert hsame
    decide +kernel

/-- The equivalence on that permutation. -/
theorem rows_aligned_iff_thin_book : ∃ out,
    resample swapping_random none thin_book_snapshot (.permutation 1) = .ok out ∧
    ((CandlesAlong (index_map swapping_random none 3 (.permutation 1))
        thin_book_snapshot.candles out.candles (.permutation 1) ∧
      RowsAligned (index_map swapping_random none 3 (.permutation 1)) thin_book_snapshot out) ↔
    RowsFollow (.permutation 1) (index_map swapping_random none 3 (.permutation 1))
      thin_book_snapshot) := by
  obtain ⟨out, hout⟩ := exists_permuted_thin_book
  exact ⟨out, hout, rows_aligned_iff swapping_random none thin_book_snapshot out _ hout⟩

end ProofAlpha.Validation
