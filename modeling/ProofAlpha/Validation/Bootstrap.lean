/-
Bootstrap resampling of a snapshot (`validation/bootstrap.py`): the index
sequences of the block methods and the snapshot taken along one.

The optional package `tsbootstrap` is a `BlockBootstrap`, absent where it is not
installed. `bootstrap_indices_spec` is all a caller needs of any method: one
index per candle, each of them a candle's.
-/
import Mathlib.Algebra.Field.Defs
import Mathlib.Algebra.Order.Ring.Defs
import ProofAlpha.Data.Snapshots
import ProofAlpha.Lib.Checks
import ProofAlpha.Lib.IndexedLoop
import ProofAlpha.Lib.PyRandom

set_option autoImplicit false

namespace ProofAlpha.Validation

open ProofAlpha.Lib ProofAlpha.Lib.IndexMap ProofAlpha.Data

/-- The exceptions a resampler raises. -/
inductive ResampleError where
  | value_error (text : String)
  | import_error (text : String)
  | index_error
deriving DecidableEq

/-- `tsbootstrap.BlockBootstrap(…).bootstrap(arange(n))`, its one sample read back
as integers. -/
structure BlockBootstrap where
  sample : (block_bootstrap_type : String) → (block_length : ℤ) → (rng : ℤ) → ℕ → List ℕ
  sample_lt : ∀ kind block_length rng n, ∀ i ∈ sample kind block_length rng n, i < n
  sample_ne_nil : ∀ kind block_length rng n, 0 < n → sample kind block_length rng n ≠ []

variable {K : Type} [Field K] [LinearOrder K]
variable (rng : PyRandom K) (tsbootstrap : Option BlockBootstrap)

/-! ## Index sequences -/

/-- `_validate_bootstrap_request`. -/
def validate_bootstrap_request (sample_count : ℕ) (block_size : ℤ) :
    Except ResampleError Unit :=
  if block_size ≤ 0 then .error (.value_error "block_size must be positive")
  else if (sample_count : ℤ) < block_size then
    .error (.value_error "block_size cannot exceed candle count")
  else .ok ()

/-- One pass of the block loop: a start is drawn and its block appended. -/
def block_pass (max_start block_size : ℕ) (state : rng.State) (indices : List ℕ) :
    List ℕ × rng.State :=
  let start := rng.randint state 0 max_start
  (indices ++ List.range' start.1 block_size, start.2)

/-- `moving_block_bootstrap_indices`. -/
def moving_block_bootstrap_indices (sample_count : ℕ) (block_size seed : ℤ) :
    Except ResampleError (List ℕ) :=
  if sample_count = 0 then .ok []
  else do
    validate_bootstrap_request sample_count block_size
    let indices := fill_until sample_count
      (block_pass rng (sample_count - block_size.toNat) block_size.toNat) sample_count
      (rng.seeded seed) []
    return indices.take sample_count

/-- One pass of the stationary loop: the next bar, or with probability
`1 / block_size` a bar drawn anew. -/
def stationary_pass (sample_count : ℕ) (block_size : ℤ) (state : rng.State)
    (indices : List ℕ) : List ℕ × rng.State :=
  let previous := indices.getLastD 0
  let draw := rng.random state
  if draw.1 < 1 / (block_size : K) then
    let restart := rng.randrange draw.2 sample_count
    (indices ++ [restart.1], restart.2)
  else (indices ++ [(previous + 1) % sample_count], draw.2)

/-- `stationary_block_bootstrap_indices`. -/
def stationary_block_bootstrap_indices (sample_count : ℕ) (block_size seed : ℤ) :
    Except ResampleError (List ℕ) :=
  if sample_count = 0 then .ok []
  else do
    validate_bootstrap_request sample_count block_size
    let first := rng.randrange (rng.seeded seed) sample_count
    return fill_until sample_count (stationary_pass rng sample_count block_size) sample_count
      first.2 [first.1]

/-- `multivariate_block_bootstrap_indices`, which draws as the moving block does. -/
def multivariate_block_bootstrap_indices (sample_count : ℕ) (block_size seed : ℤ) :
    Except ResampleError (List ℕ) :=
  if sample_count = 0 then .ok []
  else do
    validate_bootstrap_request sample_count block_size
    let indices := fill_until sample_count
      (block_pass rng (sample_count - block_size.toNat) block_size.toNat) sample_count
      (rng.seeded seed) []
    return indices.take sample_count

/-- The `block_bootstrap_type` of a `tsbootstrap` method. A method name is quoted as
Python quotes a name without quotes or escapes. -/
def block_bootstrap_type_of (method : String) : Except ResampleError String :=
  if method = "tsbootstrap_moving_block" then .ok "moving"
  else if method = "tsbootstrap_stationary" then .ok "stationary"
  else if method = "tsbootstrap_stationary_block" then .ok "stationary"
  else .error (.value_error ("unrecognised tsbootstrap method: '" ++ method ++ "'"))

/-- `_tsbootstrap_indices`. -/
def tsbootstrap_indices (method : String) (sample_count : ℕ) (block_size seed : ℤ) :
    Except ResampleError (List ℕ) :=
  match tsbootstrap with
  | none =>
      .error (.import_error ("bootstrap method '" ++ method ++ "' requires the 'tsbootstrap' "
        ++ "package, which is not installed.  Install it with: pip install tsbootstrap"))
  | some bootstrapper => do
      validate_bootstrap_request sample_count block_size
      let block_bootstrap_type ← block_bootstrap_type_of method
      let raw_indices := bootstrapper.sample block_bootstrap_type block_size seed sample_count
      if sample_count ≤ raw_indices.length then return raw_indices.take sample_count
      else
        return fill_until sample_count
          (fun (_ : Unit) extended =>
            (extended ++ raw_indices.take (sample_count - extended.length), ()))
          sample_count () raw_indices

/-- `bootstrap_indices_for_method`. -/
def bootstrap_indices_for_method (method : String) (sample_count : ℕ) (block_size seed : ℤ) :
    Except ResampleError (List ℕ) :=
  if method = "moving_block" then
    moving_block_bootstrap_indices rng sample_count block_size seed
  else if method = "stationary_block" then
    stationary_block_bootstrap_indices rng sample_count block_size seed
  else if method = "dependent_wild" then do
    validate_bootstrap_request sample_count block_size
    return List.range sample_count
  else if method = "multivariate_block" then
    multivariate_block_bootstrap_indices rng sample_count block_size seed
  else if method = "tsbootstrap_moving_block" ∨ method = "tsbootstrap_stationary_block" then
    tsbootstrap_indices tsbootstrap method sample_count block_size seed
  else .error (.value_error ("unsupported bootstrap method: '" ++ method ++ "'"))

/-! ## The snapshot along an index sequence -/

/-- `[values[index] for index in indices]`. -/
def pick {α : Type} (indices : List ℕ) (values : List α) : Except ResampleError (List α) :=
  match take_along indices values with
  | some picked => .ok picked
  | none => .error .index_error

/-- `_resample_series`. -/
def resample_series (values : List K) (indices : List ℕ) (sample_count : ℕ) :
    Except ResampleError (List K) :=
  if values.length = sample_count then pick indices values else .ok values

/-- `clone_snapshot_with_bootstrap_indices`. -/
def clone_snapshot_with_bootstrap_indices (snapshot : DataSnapshot K) (indices : List ℕ)
    (snapshot_id : String) (provenance_updates : JsonObject K) :
    Except ResampleError (DataSnapshot K) := do
  let sample_count := snapshot.candles.length
  let candles ← pick indices snapshot.candles
  let funding_rates ← resample_series snapshot.funding_rates indices sample_count
  let open_interest ← resample_series snapshot.open_interest indices sample_count
  let liquidation_notional ← resample_series snapshot.liquidation_notional indices sample_count
  let spread_bps ← resample_series snapshot.spread_bps indices sample_count
  let depth_bid_1bp_usd ← resample_series snapshot.depth_bid_1bp_usd indices sample_count
  let depth_ask_1bp_usd ← resample_series snapshot.depth_ask_1bp_usd indices sample_count
  let latency_proxy_ms ← resample_series snapshot.latency_proxy_ms indices sample_count
  return clone_snapshot snapshot snapshot_id
    { candles := some candles
      funding_rates := some funding_rates
      open_interest := some open_interest
      liquidation_notional := some liquidation_notional
      spread_bps := some spread_bps
      depth_bid_1bp_usd := some depth_bid_1bp_usd
      depth_ask_1bp_usd := some depth_ask_1bp_usd
      latency_proxy_ms := some latency_proxy_ms
      provenance_updates := provenance_updates }

/-- The resampled snapshot of one seed of `_bootstrap_strategy_with_settings`. -/
def bootstrap_snapshot (snapshot : DataSnapshot K) (method : String) (block_size seed : ℤ) :
    Except ResampleError (DataSnapshot K) := do
  let indices ← bootstrap_indices_for_method rng tsbootstrap method snapshot.candles.length
    block_size seed
  clone_snapshot_with_bootstrap_indices snapshot indices
    (snapshot.snapshot_id ++ ":bootstrap:" ++ toString seed)
    [("transformation", .str "bootstrap"), ("seed", .int seed),
      ("bootstrap_method", .str method), ("block_size", .int block_size)]

/-- `multivariate_block_bootstrap`. -/
def multivariate_block_bootstrap (snapshot : DataSnapshot K) (block_size seed : ℤ) :
    Except ResampleError (DataSnapshot K) := do
  let indices ← multivariate_block_bootstrap_indices rng snapshot.candles.length block_size seed
  clone_snapshot_with_bootstrap_indices snapshot indices
    (snapshot.snapshot_id ++ ":mv_bootstrap:" ++ toString seed)
    [("transformation", .str "multivariate_block_bootstrap"), ("seed", .int seed),
      ("block_size", .int block_size)]

/-! ## What is drawn -/

/-- One index per bar, each of them a bar's. -/
structure BarIndices (sample_count : ℕ) (indices : List ℕ) : Prop where
  length_eq : indices.length = sample_count
  lt : ∀ i ∈ indices, i < sample_count

theorem barIndices_range (sample_count : ℕ) : BarIndices sample_count (List.range sample_count) :=
  ⟨List.length_range, fun _ hi => List.mem_range.mp hi⟩

theorem barIndices_take {sample_count : ℕ} {indices : List ℕ}
    (hlength : sample_count ≤ indices.length) (hlt : ∀ i ∈ indices, i < sample_count) :
    BarIndices sample_count (indices.take sample_count) := by
  refine ⟨?_, ?_⟩
  · rw [List.length_take]
    omega
  · intro i hi
    exact hlt i (List.mem_of_mem_take hi)

/-- A request that passes the check has a block of at least one bar and at most
all of them. -/
theorem of_validate_bootstrap_request {sample_count : ℕ} {block_size : ℤ}
    (h : validate_bootstrap_request sample_count block_size = .ok ()) :
    0 < block_size ∧ block_size ≤ sample_count := by
  unfold validate_bootstrap_request at h
  split_ifs at h
  omega

omit [Field K] [LinearOrder K] in
/-- The block loop fills the sequence, and its blocks end where the bars do. -/
theorem barIndices_block_loop {sample_count block_size : ℕ} (hpos : 0 < block_size)
    (hle : block_size ≤ sample_count) (state : rng.State) :
    BarIndices sample_count
      ((fill_until sample_count (block_pass rng (sample_count - block_size) block_size)
        sample_count state []).take sample_count) := by
  apply barIndices_take
  · apply le_length_fill_until
    · intro s acc _
      simp only [block_pass, List.length_append, List.length_range']
      omega
    · simp
  · apply fill_until_invariant fun indices => ∀ i ∈ indices, i < sample_count
    · intro s acc _ hacc i hi
      rcases List.mem_append.mp hi with hold | hnew
      · exact hacc i hold
      · have hstart := (rng.randint_mem s 0 (sample_count - block_size) (Nat.zero_le _)).2
        rw [List.mem_range'_1] at hnew
        omega
    · simp

/-- A loop whose passes add bars without overshooting draws one index per bar. -/
theorem barIndices_fill_until {σ : Type} {sample_count : ℕ}
    {body : σ → List ℕ → List ℕ × σ} {start : List ℕ}
    (hpass : ∀ s acc, acc.length < sample_count → (∀ i ∈ acc, i < sample_count) →
      (body s acc).1.length ≤ sample_count ∧ ∀ i ∈ (body s acc).1, i < sample_count)
    (hgrow : ∀ s acc, acc.length < sample_count → acc.length < (body s acc).1.length)
    (hlength : start.length ≤ sample_count) (hlt : ∀ i ∈ start, i < sample_count) (s : σ) :
    BarIndices sample_count (fill_until sample_count body sample_count s start) := by
  obtain ⟨hle, hin⟩ : (fill_until sample_count body sample_count s start).length ≤ sample_count
      ∧ ∀ i ∈ fill_until sample_count body sample_count s start, i < sample_count :=
    fill_until_invariant
      (fun indices => indices.length ≤ sample_count ∧ ∀ i ∈ indices, i < sample_count)
      (fun s acc hshort hacc => hpass s acc hshort hacc.2) sample_count s start ⟨hlength, hlt⟩
  refine ⟨Nat.le_antisymm hle ?_, hin⟩
  apply le_length_fill_until hgrow
  omega

/-- The stationary loop adds one bar a pass and stops when there is one per candle. -/
theorem barIndices_stationary_loop {sample_count : ℕ} (hcount : 0 < sample_count)
    (block_size : ℤ) (state : rng.State) :
    BarIndices sample_count
      (fill_until sample_count (stationary_pass rng sample_count block_size) sample_count
        (rng.randrange state sample_count).2 [(rng.randrange state sample_count).1]) := by
  have hpass : ∀ (s : rng.State) (acc : List ℕ), ∃ i, i < sample_count ∧
      (stationary_pass rng sample_count block_size s acc).1 = acc ++ [i] := by
    intro s acc
    simp only [stationary_pass]
    split_ifs
    · exact ⟨_, rng.randrange_lt _ _ hcount, rfl⟩
    · exact ⟨_, Nat.mod_lt _ hcount, rfl⟩
  apply barIndices_fill_until
  · intro s acc hshort hacc
    obtain ⟨i, hi, heq⟩ := hpass s acc
    rw [heq, List.length_append, List.length_singleton]
    refine ⟨by omega, ?_⟩
    intro j hj
    rcases List.mem_append.mp hj with hold | hnew
    · exact hacc j hold
    · rw [List.mem_singleton.mp hnew]
      exact hi
  · intro s acc _
    obtain ⟨i, -, heq⟩ := hpass s acc
    rw [heq, List.length_append, List.length_singleton]
    omega
  · rw [List.length_singleton]
    omega
  · intro i hi
    rw [List.mem_singleton.mp hi]
    exact rng.randrange_lt state sample_count hcount

/-- A short `tsbootstrap` sample is repeated up to one index per bar. -/
theorem barIndices_extended {sample_count : ℕ} {raw_indices : List ℕ} (hne : raw_indices ≠ [])
    (hlt : ∀ i ∈ raw_indices, i < sample_count) (hshort : raw_indices.length < sample_count) :
    BarIndices sample_count
      (fill_until sample_count
        (fun (_ : Unit) extended =>
          (extended ++ raw_indices.take (sample_count - extended.length), ()))
        sample_count () raw_indices) := by
  have hpos : 0 < raw_indices.length := List.length_pos_iff.mpr hne
  apply barIndices_fill_until
  · intro _ acc hacc_short hacc
    rw [List.length_append, List.length_take]
    refine ⟨by omega, ?_⟩
    intro i hi
    rcases List.mem_append.mp hi with hold | hnew
    · exact hacc i hold
    · exact hlt i (List.mem_of_mem_take hnew)
  · intro _ acc hacc_short
    rw [List.length_append, List.length_take]
    omega
  · omega
  · exact hlt

omit [Field K] [LinearOrder K] in
/-- A block method draws one index per bar. -/
theorem barIndices_moving_block {sample_count : ℕ} {block_size seed : ℤ} {indices : List ℕ}
    (h : moving_block_bootstrap_indices rng sample_count block_size seed = .ok indices) :
    BarIndices sample_count indices := by
  unfold moving_block_bootstrap_indices at h
  by_cases hcount : sample_count = 0
  · rw [if_pos hcount] at h
    rw [← Except.ok.inj h, hcount]
    exact barIndices_range 0
  · rw [if_neg hcount] at h
    obtain ⟨_, hrequest, h⟩ := bind_ok h
    obtain ⟨hpos, hle⟩ := of_validate_bootstrap_request hrequest
    rw [← Except.ok.inj h]
    exact barIndices_block_loop rng (by omega) (by omega) (rng.seeded seed)

theorem barIndices_stationary_block {sample_count : ℕ} {block_size seed : ℤ}
    {indices : List ℕ}
    (h : stationary_block_bootstrap_indices rng sample_count block_size seed = .ok indices) :
    BarIndices sample_count indices := by
  unfold stationary_block_bootstrap_indices at h
  by_cases hcount : sample_count = 0
  · rw [if_pos hcount] at h
    rw [← Except.ok.inj h, hcount]
    exact barIndices_range 0
  · rw [if_neg hcount] at h
    obtain ⟨_, -, h⟩ := bind_ok h
    rw [← Except.ok.inj h]
    exact barIndices_stationary_loop rng (by omega) block_size (rng.seeded seed)

theorem barIndices_tsbootstrap {method : String} {sample_count : ℕ} {block_size seed : ℤ}
    {indices : List ℕ}
    (h : tsbootstrap_indices tsbootstrap method sample_count block_size seed = .ok indices) :
    BarIndices sample_count indices := by
  cases tsbootstrap with
  | none => cases h
  | some bootstrapper =>
      obtain ⟨_, hrequest, h⟩ := bind_ok h
      obtain ⟨kind, -, h⟩ := bind_ok h
      obtain ⟨hpos, hle⟩ := of_validate_bootstrap_request hrequest
      have hlt := bootstrapper.sample_lt kind block_size seed sample_count
      by_cases hlength :
          sample_count ≤ (bootstrapper.sample kind block_size seed sample_count).length
      · rw [if_pos hlength] at h
        rw [← Except.ok.inj h]
        exact barIndices_take hlength hlt
      · rw [if_neg hlength] at h
        rw [← Except.ok.inj h]
        have hne := bootstrapper.sample_ne_nil kind block_size seed sample_count (by omega)
        exact barIndices_extended hne hlt (by omega)

/-- Every bootstrap method that returns draws one index per bar. -/
theorem bootstrap_indices_spec {method : String} {sample_count : ℕ} {block_size seed : ℤ}
    {indices : List ℕ}
    (h : bootstrap_indices_for_method rng tsbootstrap method sample_count block_size seed
      = .ok indices) :
    BarIndices sample_count indices := by
  unfold bootstrap_indices_for_method at h
  split_ifs at h with hmoving hstationary hwild hmultivariate hts
  · exact barIndices_moving_block rng h
  · exact barIndices_stationary_block rng h
  · obtain ⟨_, -, h⟩ := bind_ok h
    rw [← Except.ok.inj h]
    exact barIndices_range sample_count
  · exact barIndices_moving_block rng h
  · exact barIndices_tsbootstrap tsbootstrap h

end ProofAlpha.Validation
