/-
Funding settlements on a bootstrap path (`validation/bootstrap.py`,
`backtest/simulator.py`, `_compute_funding_event_counts`).

A resampled bar keeps the timestamp of the source bar it was taken from, and the
simulator charges it the settlements since the bar before it on the path. Where the
drawn indices jump forward over source bars it is charged the settlements of all of
them at once. `JumpsStayWithin` says when that is no more than the source itself
charges on some bar.
-/
import ProofAlpha.Backtest.FundingEvents
import ProofAlpha.Data.Snapshots
import ProofAlpha.Validation.RowAlignment

set_option autoImplicit false

namespace ProofAlpha.Validation

open ProofAlpha.Lib ProofAlpha.Lib.IndexMap ProofAlpha.Data
open ProofAlpha.Backtest (funding_settlement_hours compute_funding_event_counts
  funding_event_count_at settlement_period bar_timestamp)

variable {K : Type} [Field K] [LinearOrder K]

/-! ## The property and its condition -/

/-- The settlements the simulator charges on each bar of a snapshot. -/
def funding_charges (snapshot : DataSnapshot K) : List ℤ :=
  compute_funding_event_counts snapshot.simulated.candles snapshot.simulated.venue

/-- No bar of the path is charged more than the most that a source bar is. -/
def FundingPlausible (source out : DataSnapshot K) : Prop :=
  ∀ charged ∈ funding_charges out, ∃ most ∈ (funding_charges source).max?, charged ≤ most

/-- The timestamp of a candle. -/
def candle_time (candles : List (Candle K)) (index : ℕ) : ℤ :=
  (candles.getD index missing_candle).timestamp

/-- Each candle follows the one before it by the same positive step. -/
def UniformlySpaced (candles : List (Candle K)) : Prop :=
  ∃ step : ℤ, 0 < step ∧ ∀ k, k + 1 < candles.length →
    candle_time candles (k + 1) = candle_time candles k + step

/-- Wherever two drawn indices in a row jump forward over a candle, they pass no more
eight-hour marks than two source candles in a row do. -/
def JumpsStayWithin (candles : List (Candle K)) (indices : List ℕ) : Prop :=
  ∀ k i j : ℕ, indices[k]? = some i → indices[k + 1]? = some j → i + 1 < j →
    ∃ m, m + 1 < candles.length ∧
      settlement_period (candle_time candles j) - settlement_period (candle_time candles i)
        ≤ settlement_period (candle_time candles (m + 1))
          - settlement_period (candle_time candles m)

/-! ## The charge of a bar -/

omit [LinearOrder K] in
theorem UniformlySpaced.mono {candles : List (Candle K)} (h : UniformlySpaced candles) {i j : ℕ}
    (hij : i ≤ j) (hj : j < candles.length) : candle_time candles i ≤ candle_time candles j := by
  obtain ⟨step, hstep, hnext⟩ := h
  induction j with
  | zero => rw [Nat.le_zero.mp hij]
  | succ j ih =>
      rcases Nat.eq_or_lt_of_le hij with rfl | hlt
      · exact le_rfl
      · have hprev := ih (Nat.lt_succ_iff.mp hlt) (Nat.lt_of_succ_lt hj)
        have := hnext j hj
        omega

omit [LinearOrder K] in
theorem settlement_period_mono_step {candles : List (Candle K)} (h : UniformlySpaced candles)
    {k : ℕ} (hk : k + 1 < candles.length) :
    settlement_period (candle_time candles k) ≤ settlement_period (candle_time candles (k + 1)) :=
  Backtest.settlement_period_mono (h.mono (Nat.le_succ k) hk)

omit [LinearOrder K] in
theorem bar_timestamp_simulated (candles : List (Candle K)) (index : ℕ) :
    bar_timestamp (candles.map Candle.simulated) index = candle_time candles index := by
  unfold bar_timestamp candle_time
  exact congrArg Backtest.Candle.timestamp
    (List.getD_map (d := missing_candle) (f := Candle.simulated) (l := candles))

omit [LinearOrder K] in
/-- The charges at a venue with settlement hours: nothing on the first bar, and on
every other the eight-hour marks since the bar before it. -/
theorem mem_funding_charges {snapshot : DataSnapshot K} {settlement_hours : List ℤ}
    (hvenue : funding_settlement_hours snapshot.venue = some settlement_hours) {charged : ℤ} :
    charged ∈ funding_charges snapshot ↔
      (0 < snapshot.candles.length ∧ charged = 0) ∨
      ∃ k, k + 1 < snapshot.candles.length ∧
        charged = ((settlement_period (candle_time snapshot.candles (k + 1))
          - settlement_period (candle_time snapshot.candles k)).toNat : ℤ) := by
  have hfirst : funding_event_count_at snapshot.simulated.candles snapshot.venue 0 = 0 :=
    Backtest.funding_event_count_at_zero hvenue
  have hnext : ∀ k, funding_event_count_at snapshot.simulated.candles snapshot.venue (k + 1)
      = (settlement_period (candle_time snapshot.candles (k + 1))
          - settlement_period (candle_time snapshot.candles k)).toNat := by
    intro k
    rw [Backtest.funding_event_count_at_succ hvenue, Backtest.spanCount_settlements hvenue]
    simp only [DataSnapshot.simulated, bar_timestamp_simulated]
  have hlength : snapshot.simulated.candles.length = snapshot.candles.length := by
    simp [DataSnapshot.simulated]
  unfold funding_charges compute_funding_event_counts
  simp only [List.mem_map, List.mem_range, hlength]
  constructor
  · rintro ⟨index, hindex, rfl⟩
    cases index with
    | zero => exact Or.inl ⟨hindex, congrArg Nat.cast hfirst⟩
    | succ k => exact Or.inr ⟨k, hindex, congrArg Nat.cast (hnext k)⟩
  · rintro (⟨hpos, rfl⟩ | ⟨k, hk, rfl⟩)
    · exact ⟨0, hpos, congrArg Nat.cast hfirst⟩
    · exact ⟨k + 1, hk, congrArg Nat.cast (hnext k)⟩

omit [LinearOrder K] in
/-- Without settlement hours every bar is charged once. -/
theorem funding_charges_unscheduled {snapshot : DataSnapshot K}
    (hvenue : funding_settlement_hours snapshot.venue = none) :
    funding_charges snapshot = List.replicate snapshot.candles.length 1 := by
  unfold funding_charges compute_funding_event_counts
  rw [List.eq_replicate_iff]
  simp [funding_event_count_at, DataSnapshot.simulated, hvenue]

omit [LinearOrder K] in
theorem fundingPlausible_iff_forall_exists (source out : DataSnapshot K) :
    FundingPlausible source out ↔
      ∀ charged ∈ funding_charges out, ∃ other ∈ funding_charges source, charged ≤ other := by
  unfold FundingPlausible
  refine forall₂_congr fun charged _ => ?_
  constructor
  · rintro ⟨most, hmost, hle⟩
    exact ⟨most, (List.max?_eq_some_iff.mp hmost).1, hle⟩
  · rintro ⟨other, hother, hle⟩
    cases hmax : (funding_charges source).max? with
    | none =>
        rw [List.max?_eq_none_iff.mp hmax] at hother
        exact absurd hother List.not_mem_nil
    | some most =>
        exact ⟨most, rfl, hle.trans ((List.max?_eq_some_iff.mp hmax).2 other hother)⟩

/-! ## The resampled path -/

variable (rng : PyRandom K) (tsbootstrap : Option BlockBootstrap)

omit [Field K] [LinearOrder K] in
theorem venue_of_clone_with_indices {snapshot out : DataSnapshot K} {indices : List ℕ}
    {snapshot_id : String} {provenance_updates : JsonObject K}
    (h : clone_snapshot_with_bootstrap_indices snapshot indices snapshot_id provenance_updates
      = .ok out) : out.venue = snapshot.venue := by
  -- the candles and seven series are resampled, each of which may fail
  obtain ⟨_, -, h⟩ := bind_ok h
  obtain ⟨_, -, h⟩ := bind_ok h
  obtain ⟨_, -, h⟩ := bind_ok h
  obtain ⟨_, -, h⟩ := bind_ok h
  obtain ⟨_, -, h⟩ := bind_ok h
  obtain ⟨_, -, h⟩ := bind_ok h
  obtain ⟨_, -, h⟩ := bind_ok h
  obtain ⟨_, -, h⟩ := bind_ok h
  obtain rfl := Except.ok.inj h
  rfl

omit [LinearOrder K] in
/-- A resampled bar has the timestamp of the source bar it was taken from. -/
theorem candle_time_along {indices : List ℕ} {source out : List (Candle K)}
    (h : take_along indices source = some out) {k i : ℕ} (hk : indices[k]? = some i) :
    candle_time out k = candle_time source i := by
  have hget := getElem?_of_take_along h k
  rw [hk, Option.bind_some] at hget
  unfold candle_time
  rw [List.getD_eq_getElem?_getD, List.getD_eq_getElem?_getD, hget]

/-- Every bar of a bootstrap path is charged at most what some source bar is exactly
when the venue has no settlement hours or the drawn indices never jump over more
settlements than lie between two source bars in a row. -/
theorem bootstrap_funding_plausible_iff {snapshot out : DataSnapshot K} {method : String}
    {block_size seed : ℤ} {indices : List ℕ} {snapshot_id : String}
    {provenance_updates : JsonObject K} (hspaced : UniformlySpaced snapshot.candles)
    (hdraw : bootstrap_indices_for_method rng tsbootstrap method snapshot.candles.length
      block_size seed = .ok indices)
    (hclone : clone_snapshot_with_bootstrap_indices snapshot indices snapshot_id
      provenance_updates = .ok out) :
    FundingPlausible snapshot out ↔
      funding_settlement_hours snapshot.venue = none ∨
        JumpsStayWithin snapshot.candles indices := by
  have hbars := bootstrap_indices_spec rng tsbootstrap hdraw
  have halong := (clone_with_indices_spec hclone).1
  have hvenue_out := venue_of_clone_with_indices hclone
  have hlength : out.candles.length = snapshot.candles.length := by
    rw [length_of_take_along halong, hbars.length_eq]
  rw [fundingPlausible_iff_forall_exists]
  cases hvenue : funding_settlement_hours snapshot.venue with
  | none =>
      refine iff_of_true ?_ (Or.inl rfl)
      rw [funding_charges_unscheduled hvenue, funding_charges_unscheduled (hvenue_out ▸ hvenue),
        hlength]
      intro charged hcharged
      exact ⟨charged, hcharged, le_rfl⟩
  | some settlement_hours =>
      have hvenue' : funding_settlement_hours out.venue = some settlement_hours :=
        hvenue_out ▸ hvenue
      simp only [mem_funding_charges hvenue, mem_funding_charges hvenue', reduceCtorEq, false_or]
      have htime : ∀ {k i : ℕ}, indices[k]? = some i →
          candle_time out.candles k = candle_time snapshot.candles i := candle_time_along halong
      constructor
      · intro hplausible k i j hi hj hjump
        have hk : k + 1 < out.candles.length := by
          rw [hlength, ← hbars.length_eq]
          exact (List.getElem?_eq_some_iff.mp hj).1
        have hjlt := hbars.lt j (List.mem_of_getElem? hj)
        obtain ⟨other, hother, hle⟩ := hplausible _ (Or.inr ⟨k, hk, rfl⟩)
        rw [htime hj, htime hi] at hle
        rcases hother with ⟨-, rfl⟩ | ⟨m, hm, rfl⟩
        · -- no settlement is passed, so the first pair of bars will do
          have hpair := settlement_period_mono_step hspaced (by omega : 0 + 1 < _)
          exact ⟨0, by omega, by omega⟩
        · have hpair := settlement_period_mono_step hspaced hm
          exact ⟨m, hm, by omega⟩
      · rintro hjumps charged (⟨hpos, rfl⟩ | ⟨k, hk, rfl⟩)
        · exact ⟨0, Or.inl ⟨by omega, rfl⟩, le_rfl⟩
        · rw [hlength, ← hbars.length_eq] at hk
          obtain ⟨i, hi⟩ : ∃ i, indices[k]? = some i := ⟨_, List.getElem?_eq_getElem (by omega)⟩
          obtain ⟨j, hj⟩ : ∃ j, indices[k + 1]? = some j := ⟨_, List.getElem?_eq_getElem hk⟩
          have hilt := hbars.lt i (List.mem_of_getElem? hi)
          have hjlt := hbars.lt j (List.mem_of_getElem? hj)
          rw [htime hj, htime hi]
          rcases Nat.lt_trichotomy (i + 1) j with hjump | rfl | hback
          · obtain ⟨m, hm, hle⟩ := hjumps k i j hi hj hjump
            exact ⟨_, Or.inr ⟨m, hm, rfl⟩, by omega⟩
          · exact ⟨_, Or.inr ⟨i, hjlt, rfl⟩, le_rfl⟩
          · -- a jump back, or the same bar again, passes nothing
            have hperiod := Backtest.settlement_period_mono
              (hspaced.mono (by omega : j ≤ i) hilt)
            exact ⟨0, Or.inl ⟨by omega, rfl⟩, by omega⟩

/-! ## A jump over a day -/

/-- The draws of `random.Random(6)` for four blocks of one of four bars. -/
def seed_six_random : PyRandom ℚ where
  State := ℕ
  seeded _ := 0
  randint state low high := (max low (min high ([0, 3, 2, 0].getD state 0)), state + 1)
  randrange state _ := (0, state)
  random state := (0, state)
  shuffle state items := (items, state)
  randint_mem _ _ _ hle := ⟨le_max_left _ _, max_le hle (min_le_left _ _)⟩
  randrange_lt _ _ hpos := hpos
  shuffle_perm _ items := List.Perm.refl items

/-- Four bars of eight hours, from midnight to midnight. -/
def eight_hour_snapshot : DataSnapshot ℚ where
  snapshot_id := "eight-hours"
  symbol := "SOLUSDT"
  venue := "binance"
  timeframe := "8h"
  candles :=
    [⟨0, 100, 101, 99, 100, 1000, 0⟩, ⟨28800000000, 100, 101, 99, 100, 1000, 0⟩,
      ⟨57600000000, 100, 101, 99, 100, 1000, 0⟩, ⟨86400000000, 100, 101, 99, 100, 1000, 0⟩]
  funding_rates := [1 / 1000, 1 / 1000, 1 / 1000, 1 / 1000]
  open_interest := [100, 100, 100, 100]
  liquidation_notional := [0, 0, 0, 0]
  maker_fee_bps := 2
  taker_fee_bps := 5

theorem uniformlySpaced_eight_hour : UniformlySpaced eight_hour_snapshot.candles := by
  refine ⟨28800000000, by decide, ?_⟩
  intro k hk
  have hk' : k + 1 < 4 := hk
  have hcases : k = 0 ∨ k = 1 ∨ k = 2 := by omega
  rcases hcases with rfl | rfl | rfl <;> rfl

theorem drawn_eight_hour :
    bootstrap_indices_for_method seed_six_random none "moving_block" 4 1 6 = .ok [0, 3, 2, 0] := by
  decide +kernel

theorem exists_resampled_eight_hour :
    ∃ out, clone_snapshot_with_bootstrap_indices eight_hour_snapshot [0, 3, 2, 0] "resampled" []
      = .ok out :=
  ⟨_, rfl⟩

/-- The second bar of the path lies a day behind the first and is charged three
settlements, a source bar at most one. -/
theorem bootstrap_charges_three_settlements :
    ¬ ∀ (rng : PyRandom ℚ) (tsbootstrap : Option BlockBootstrap) (snapshot out : DataSnapshot ℚ)
      (method : String) (block_size seed : ℤ) (indices : List ℕ) (snapshot_id : String)
      (provenance_updates : JsonObject ℚ), UniformlySpaced snapshot.candles →
      bootstrap_indices_for_method rng tsbootstrap method snapshot.candles.length block_size seed
        = .ok indices →
      clone_snapshot_with_bootstrap_indices snapshot indices snapshot_id provenance_updates
        = .ok out →
      FundingPlausible snapshot out := by
  intro hclaim
  obtain ⟨out, hout⟩ := exists_resampled_eight_hour
  have hplausible := hclaim seed_six_random none eight_hour_snapshot out "moving_block" 1 6
    [0, 3, 2, 0] "resampled" [] uniformlySpaced_eight_hour drawn_eight_hour hout
  have hcharges : funding_charges out = [0, 3, 0, 0] := by
    obtain rfl := Except.ok.inj hout
    decide +kernel
  have hsource : (funding_charges eight_hour_snapshot).max? = some 1 := by
    decide +kernel
  obtain ⟨most, hmost, hle⟩ := hplausible 3 (by rw [hcharges]; decide)
  rw [hsource] at hmost
  obtain rfl := Option.some.inj hmost
  omega

/-- The equivalence on that path. -/
theorem bootstrap_funding_plausible_iff_eight_hour : ∃ out,
    clone_snapshot_with_bootstrap_indices eight_hour_snapshot [0, 3, 2, 0] "resampled" []
      = .ok out ∧
    (FundingPlausible eight_hour_snapshot out ↔
      funding_settlement_hours eight_hour_snapshot.venue = none ∨
        JumpsStayWithin eight_hour_snapshot.candles [0, 3, 2, 0]) := by
  obtain ⟨out, hout⟩ := exists_resampled_eight_hour
  exact ⟨out, hout, bootstrap_funding_plausible_iff seed_six_random none
    uniformlySpaced_eight_hour drawn_eight_hour hout⟩

end ProofAlpha.Validation
