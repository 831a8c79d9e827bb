/-
Whether a stored snapshot still simulates as it did.

Everything the simulator reads comes back from the store but the four
microstructure series: an absent one comes back as zeros. `StoredAlike` says that
the simulator loads the same microstructure from the zero-filled series as from
the snapshot. It is enough for every run to be the same, and where the snapshot
has no microstructure at all it is needed: one order under the realistic model
tells the two apart (`stored_snapshot_simulates`).
-/
import ProofAlpha.Backtest.FillProbe
import ProofAlpha.Data.Snapshots
import ProofAlpha.Data.StorageRoundTrip

set_option autoImplicit false

namespace ProofAlpha.Data

open ProofAlpha.Lib ProofAlpha.Backtest

variable {K : Type} [Field K] [LinearOrder K]

/-! ## What the simulator reads -/

/-- The four typed series, an absent one as zeros. -/
def zero_filled_microstructure (snapshot : DataSnapshot K) : Microstructure K :=
  let zeros := snapshot.candles.map fun _ => (0 : K)
  { spread_bps := filled snapshot.spread_bps zeros
    depth_bid_1bp_usd := filled snapshot.depth_bid_1bp_usd zeros
    depth_ask_1bp_usd := filled snapshot.depth_ask_1bp_usd zeros
    latency_proxy_ms := filled snapshot.latency_proxy_ms zeros }

/-- The simulator loads from the snapshot what it loads from its zero-filled
series. -/
def StoredAlike (snapshot : DataSnapshot K) : Prop :=
  snapshot.candles = [] ∨
    load_microstructure_series snapshot.simulated snapshot.candles.length
      = some (zero_filled_microstructure snapshot)

/-- Every run is the same on both snapshots. -/
def SimulatesAlike [FloorRing K] (m : PyMath K) (stored snapshot : DataSnapshot K) : Prop :=
  ∀ args : SimArguments K,
    simulate_strategy m stored.simulated args = simulate_strategy m snapshot.simulated args

/-- The snapshot the simulator reads, with another microstructure in its typed
series. -/
def with_microstructure (snapshot : Backtest.DataSnapshot K) (micro : Microstructure K) :
    Backtest.DataSnapshot K :=
  { snapshot with
    spread_bps := micro.spread_bps
    depth_bid_1bp_usd := micro.depth_bid_1bp_usd
    depth_ask_1bp_usd := micro.depth_ask_1bp_usd
    latency_proxy_ms := micro.latency_proxy_ms }

omit [LinearOrder K] in
/-- The stored form differs from the snapshot in its typed microstructure alone. -/
theorem simulated_stored_form (isoformat : ℤ → String) (snapshot : DataSnapshot K) :
    (stored_form isoformat snapshot).simulated
      = with_microstructure snapshot.simulated (zero_filled_microstructure snapshot) := by
  have hprofile : (snapshot.venue_profile.map stored_profile).map VenueProfile.simulated
      = snapshot.venue_profile.map VenueProfile.simulated := by
    rw [Option.map_map]
    rfl
  unfold DataSnapshot.simulated stored_form with_microstructure zero_filled_microstructure
  dsimp only
  rw [hprofile]

omit [LinearOrder K] in
theorem length_filled {candles : List (Candle K)} {values : List K}
    (h : Filled candles.length values) :
    (filled values (candles.map fun _ => (0 : K))).length = candles.length := by
  unfold filled
  rcases h with hnil | hlength
  · rw [hnil]
    exact List.length_map _
  · by_cases hempty : values.isEmpty = true
    · rw [if_pos hempty, List.length_map]
    · rw [if_neg hempty, hlength]

omit [LinearOrder K] in
/-- Four series of the right length are loaded as they are. -/
theorem normalize_microstructure_of_length {micro : Microstructure K} {length : ℕ}
    (hpos : 0 < length) (hspread : micro.spread_bps.length = length)
    (hbid : micro.depth_bid_1bp_usd.length = length)
    (hask : micro.depth_ask_1bp_usd.length = length)
    (hlatency : micro.latency_proxy_ms.length = length) :
    normalize_microstructure micro length = some micro := by
  have hpresent : ∀ values : List K, values.length = length → values.isEmpty = false := by
    intro values hvalues
    rw [List.isEmpty_eq_false_iff, ← List.length_pos_iff]
    omega
  unfold normalize_microstructure
  rw [hpresent _ hspread, hpresent _ hbid, hpresent _ hask, hpresent _ hlatency,
    PyList.normalize_series_of_length hspread, PyList.normalize_series_of_length hbid,
    PyList.normalize_series_of_length hask, PyList.normalize_series_of_length hlatency]
  rfl

/-- The simulator loads the zero-filled series from the stored form. -/
theorem load_microstructure_series_stored {snapshot : DataSnapshot K} (h : Valid snapshot)
    (hcandles : snapshot.candles ≠ []) :
    load_microstructure_series
        (with_microstructure snapshot.simulated (zero_filled_microstructure snapshot))
        snapshot.candles.length
      = some (zero_filled_microstructure snapshot) := by
  have hnormal : normalize_microstructure (zero_filled_microstructure snapshot)
      snapshot.candles.length = some (zero_filled_microstructure snapshot) := by
    apply normalize_microstructure_of_length (List.length_pos_iff.mpr hcandles)
    · exact length_filled (h.number .spread_bps)
    · exact length_filled (h.number .depth_bid_1bp_usd)
    · exact length_filled (h.number .depth_ask_1bp_usd)
    · exact length_filled (h.number .latency_proxy_ms)
  unfold load_microstructure_series
  show (normalize_microstructure (zero_filled_microstructure snapshot) _).or _ = _
  rw [hnormal]
  rfl

/-! ## Equal runs -/

variable [FloorRing K]

/-- A run reads the typed microstructure only through the loaded series. -/
theorem simulate_strategy_with_microstructure (m : PyMath K) (snapshot : Backtest.DataSnapshot K)
    (micro : Microstructure K)
    (hload : load_microstructure_series (with_microstructure snapshot micro)
        snapshot.candles.length
      = load_microstructure_series snapshot snapshot.candles.length)
    (args : SimArguments K) :
    simulate_strategy m (with_microstructure snapshot micro) args
      = simulate_strategy m snapshot args := by
  have hcheck : check_arguments (with_microstructure snapshot micro) args
      = check_arguments snapshot args := rfl
  have hcontext : ∀ use_dynamic use_realistic,
      prepare_sim_context m (with_microstructure snapshot micro) use_dynamic use_realistic
        = prepare_sim_context m snapshot use_dynamic use_realistic := by
    intro use_dynamic use_realistic
    have hload' : load_microstructure_series (with_microstructure snapshot micro)
        (with_microstructure snapshot micro).candles.length
      = load_microstructure_series snapshot snapshot.candles.length := hload
    unfold prepare_sim_context
    dsimp only
    rw [hload']
    rfl
  have hconfig : ∀ side settings, sim_config m (with_microstructure snapshot micro) args side settings
      = sim_config m snapshot args side settings := by
    intro side settings
    unfold sim_config
    dsimp only
    rw [hcontext]
    rfl
  unfold simulate_strategy
  rw [hcheck]
  simp only [hconfig]
  rfl

/-- Runs on the stored form of a snapshot the condition holds of. -/
theorem simulatesAlike_of_storedAlike (m : PyMath K) (isoformat : ℤ → String)
    {snapshot : DataSnapshot K} (h : Valid snapshot) (halike : StoredAlike snapshot) :
    SimulatesAlike m (stored_form isoformat snapshot) snapshot := by
  intro args
  rw [simulated_stored_form]
  have hlength : snapshot.simulated.candles.length = snapshot.candles.length :=
    List.length_map _
  apply simulate_strategy_with_microstructure
  rw [hlength]
  by_cases hcandles : snapshot.candles = []
  · -- without candles every series is absent, and the zeros are none
    have hnone : ∀ values : List K, Filled snapshot.candles.length values →
        filled values (snapshot.candles.map fun _ => (0 : K)) = values := by
      intro values hfilled
      have hnil : values = [] := by
        rcases hfilled with hnil | hvalues
        · exact hnil
        · rw [hcandles] at hvalues
          exact List.length_eq_zero_iff.mp hvalues
      rw [hnil, hcandles]
      rfl
    have hsame : with_microstructure snapshot.simulated (zero_filled_microstructure snapshot)
        = snapshot.simulated := by
      unfold with_microstructure zero_filled_microstructure
      dsimp only
      rw [hnone snapshot.spread_bps (h.number .spread_bps),
        hnone snapshot.depth_bid_1bp_usd (h.number .depth_bid_1bp_usd),
        hnone snapshot.depth_ask_1bp_usd (h.number .depth_ask_1bp_usd),
        hnone snapshot.latency_proxy_ms (h.number .latency_proxy_ms)]
      rfl
    rw [hsame]
  · rw [load_microstructure_series_stored h hcandles]
    rcases halike with hnil | hload
    · exact absurd hnil hcandles
    · exact hload.symm

variable [IsStrictOrderedRing K]

/-- One order tells a snapshot without microstructure from its stored form. -/
theorem exists_run_differs (m : PyMath K) (isoformat : ℤ → String) {snapshot : DataSnapshot K}
    (h : Valid snapshot) (hcandles : snapshot.candles ≠ [])
    (hmicro : load_microstructure_series snapshot.simulated snapshot.candles.length = none) :
    ∃ args : SimArguments K, simulate_strategy m (stored_form isoformat snapshot).simulated args
      ≠ simulate_strategy m snapshot.simulated args := by
  have hlength : snapshot.simulated.candles.length = snapshot.candles.length :=
    List.length_map _
  have hcandles' : snapshot.simulated.candles ≠ [] := by
    intro hnil
    apply hcandles
    rw [← List.length_eq_zero_iff, ← hlength, hnil]
    rfl
  have hclose : 0 < (snapshot.simulated.candles.getD 0 Backtest.Candle.missing).close := by
    cases hlist : snapshot.candles with
    | nil => exact absurd hlist hcandles
    | cons candle rest =>
        have hfirst : snapshot.simulated.candles = candle.simulated :: rest.map Candle.simulated := by
          show snapshot.candles.map Candle.simulated = _
          rw [hlist, List.map_cons]
        rw [hfirst]
        exact h.positive candle (by rw [hlist]; exact List.mem_cons_self)
  have hbook := load_microstructure_series_stored h hcandles
  rw [← hlength] at hmicro hbook
  -- an order worth at least twice the depth at the first bar
  generalize hdepth :
    min ((zero_filled_microstructure snapshot).depth_bid_1bp_usd.getD 0 0)
      ((zero_filled_microstructure snapshot).depth_ask_1bp_usd.getD 0 0) = depth
  generalize hfirst :
    (snapshot.simulated.candles.getD 0 Backtest.Candle.missing).close = close at hclose
  have hleverage : 1 ≤ max 1 (2 * depth / close) := le_max_left _ _
  have hnotional : 2 * depth ≤ close * max 1 (2 * depth / close) := by
    have hle : 2 * depth / close ≤ max 1 (2 * depth / close) := le_max_right _ _
    rw [div_le_iff₀ hclose] at hle
    linarith
  obtain ⟨kept, hkept, hkept_fills⟩ := probe_run_without_book m hcandles' hleverage hmicro
  have hkept_candles :
      (with_microstructure snapshot.simulated (zero_filled_microstructure snapshot)).candles
        = snapshot.simulated.candles := rfl
  have hstored_run := probe_run_with_book m (hkept_candles.symm ▸ hcandles') hleverage hbook
  rw [hkept_candles, hfirst, hdepth] at hstored_run
  obtain ⟨stored, hstored, hstored_fills⟩ := hstored_run hclose hnotional
  refine ⟨probe_args snapshot.simulated.candles.length (max 1 (2 * depth / close)), ?_⟩
  rw [simulated_stored_form]
  intro hsame
  have hresult : stored = kept := Except.ok.inj (hstored.symm.trans (hsame.trans hkept))
  rw [hresult] at hstored_fills
  exact hstored_fills hkept_fills

/-- Every valid snapshot comes back from the store, and if the simulator loads the
same microstructure from its zero-filled series, every run on what comes back is
the run on the snapshot. For a snapshot without microstructure the condition is
also necessary. -/
theorem stored_snapshot_simulates (m : PyMath K) (isoformat : ℤ → String) (root : String)
    (store : SnapshotStore K) (snapshot : DataSnapshot K) (h : Valid snapshot) :
    ∃ loaded,
      (store_snapshot isoformat root snapshot store >>= load_snapshot root snapshot.snapshot_id)
        = .ok loaded ∧
      (StoredAlike snapshot → SimulatesAlike m loaded snapshot) ∧
      (load_microstructure_series snapshot.simulated snapshot.candles.length = none →
        SimulatesAlike m loaded snapshot → StoredAlike snapshot) := by
  refine ⟨stored_form isoformat snapshot, load_store_snapshot isoformat root store h,
    simulatesAlike_of_storedAlike m isoformat h, ?_⟩
  intro hmicro hsame
  by_contra hdiffers
  have hcandles : snapshot.candles ≠ [] := fun hnil => hdiffers (Or.inl hnil)
  obtain ⟨args, hne⟩ := exists_run_differs m isoformat h hcandles hmicro
  exact hne (hsame args)

/-! ## A snapshot without microstructure -/

/-- Two hourly bars and nothing else per bar but what is required. -/
def bare_snapshot : DataSnapshot ℚ where
  snapshot_id := "bare"
  symbol := "BTCUSDT"
  venue := "binance"
  timeframe := "1h"
  candles := [⟨0, 100, 101, 99, 100, 10, 9⟩, ⟨3600000000, 100, 103, 100, 102, 11, 11⟩]
  funding_rates := [0, 0]
  open_interest := [2000, 2100]
  liquidation_notional := [0, 0]
  maker_fee_bps := 2
  taker_fee_bps := 5

/-- The ISO texts of its two timestamps. -/
def first_hours_isoformat (timestamp : ℤ) : String :=
  if timestamp = 0 then "1970-01-01T00:00:00+00:00" else "1970-01-01T01:00:00+00:00"

theorem bare_snapshot_valid : Valid bare_snapshot where
  increasing := by decide
  positive := by decide +kernel
  funding_rates := rfl
  open_interest := rfl
  liquidation_notional := rfl
  number := by
    intro series
    cases series <;> first | exact Or.inl rfl | exact Or.inr rfl
  text := by
    intro series
    cases series <;> exact Or.inl rfl
  regime_probabilities := Or.inl rfl

/-- Its stored form has a book of depth zero, which fills no order. -/
theorem bare_snapshot_stored_differs :
    ¬ ∀ (m : PyMath ℚ) (isoformat : ℤ → String) (root : String) (store : SnapshotStore ℚ)
      (snapshot : DataSnapshot ℚ), Valid snapshot → ∃ loaded,
        (store_snapshot isoformat root snapshot store >>= load_snapshot root snapshot.snapshot_id)
          = .ok loaded ∧ SimulatesAlike m loaded snapshot := by
  intro hclaim
  obtain ⟨loaded, hloaded, hsame⟩ := hclaim PyMath.rat first_hours_isoformat "store" ⟨none, ∅⟩
    bare_snapshot bare_snapshot_valid
  rw [load_store_snapshot _ _ _ bare_snapshot_valid] at hloaded
  cases hloaded
  obtain ⟨args, hne⟩ := exists_run_differs PyMath.rat first_hours_isoformat bare_snapshot_valid
    (List.cons_ne_nil _ _) rfl
  exact hne (hsame args)

/-- The theorem on this snapshot. -/
theorem stored_snapshot_simulates_bare : ∃ loaded,
    (store_snapshot first_hours_isoformat "store" bare_snapshot ⟨none, ∅⟩
        >>= load_snapshot "store" "bare") = .ok loaded ∧
      (StoredAlike bare_snapshot → SimulatesAlike PyMath.rat loaded bare_snapshot) ∧
      (load_microstructure_series bare_snapshot.simulated bare_snapshot.candles.length = none →
        SimulatesAlike PyMath.rat loaded bare_snapshot → StoredAlike bare_snapshot) :=
  stored_snapshot_simulates PyMath.rat first_hours_isoformat "store" ⟨none, ∅⟩ bare_snapshot
    bare_snapshot_valid

end ProofAlpha.Data
