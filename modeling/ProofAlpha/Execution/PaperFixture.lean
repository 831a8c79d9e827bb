/-
A run of the paper executor with its fills: `run_paper_executor_fixture` of
`execution/paper.py`.

Every intent is simulated on the snapshot of its symbol as it stands; no fill takes
anything off the snapshot, so a row says what its intent would fill alone
(`row_qty_filled`). Left to themselves the rows are those of the executor without
fills (`fixture_rows_base`).
-/
import ProofAlpha.Execution.PaperFillBounds
import ProofAlpha.Execution.PaperRiskLimits

set_option autoImplicit false

namespace ProofAlpha.Execution

open ProofAlpha.Lib
open ProofAlpha.Lib.PriceLevel (depth)
open ProofAlpha.Strategy (ArtifactEnv paper_authority_decision)

/-! ## The cost model -/

/-- `PaperExecutionCostModel`. -/
structure PaperExecutionCostModel (K : Type) where
  cost_model : String
  source : String
  venue_source : String
  maker_fee_rate : K
  taker_fee_rate : K
  maker_fee_bps : K
  taker_fee_bps : K
  slippage_model : String
  slippage_bps : Option K

section CostModel

variable {K : Type} [Field K] [LinearOrder K] [FloorRing K] (texts : PyTexts K)

/-- `PAPER_FIXTURE_MAKER_FEE_RATE`. -/
def paper_fixture_maker_fee_rate : K := 2 / 10000

/-- `PAPER_FIXTURE_TAKER_FEE_RATE`. -/
def paper_fixture_taker_fee_rate : K := 5 / 10000

/-- `float(config[key])`. -/
def config_float (config : JsonObject K) (key : String) : Except String K :=
  match float_or_none texts.parse_float (config.get key) with
  | some x => .ok x
  | none => .error key

/-- `key in config`. -/
def has_key (config : JsonObject K) (key : String) : Bool := config.any fun item => item.1 = key

/-- `_fee_rate_from_config`. -/
def fee_rate_from_config (config : JsonObject K) (rate_key bps_key : String) (default : K) :
    Except String K :=
  if has_key config rate_key then config_float texts config rate_key
  else if has_key config bps_key then
    (config_float texts config bps_key).map fun bps => bps / 10000
  else .ok default

/-- `resolve_paper_execution_cost_model`. -/
def resolve_paper_execution_cost_model (artifact : JsonObject K)
    (maker_fee_rate taker_fee_rate : Option K) : Except String (PaperExecutionCostModel K) := do
  let config : JsonObject K := match artifact.get "cost_model_config" with
    | .dict fields => fields
    | _ => []
  let configured := ! config.isEmpty
  let resolved_maker ← fee_rate_from_config texts config "maker_fee_rate" "maker_fee_bps"
    paper_fixture_maker_fee_rate
  let resolved_taker ← fee_rate_from_config texts config "taker_fee_rate" "taker_fee_bps"
    paper_fixture_taker_fee_rate
  let slippage_bps ← if has_key config "slippage_bps" then
      (config_float texts config "slippage_bps").map some
    else .ok none
  let explicit := maker_fee_rate.isSome || taker_fee_rate.isSome
  let maker := maker_fee_rate.getD resolved_maker
  let taker := taker_fee_rate.getD resolved_taker
  return {
    cost_model := py_str texts.composite_text (artifact.get_or "cost_model" (.str ""))
    source :=
      if explicit then "explicit"
      else if configured then "artifact_cost_model_config"
      else "fixture_default"
    venue_source :=
      if explicit then "executor_arguments"
      else if configured then
        py_str texts.composite_text (config.get_or "source" (.str "artifact_cost_model_config"))
      else "paper_fixture_default"
    maker_fee_rate := pyRound maker 12
    taker_fee_rate := pyRound taker 12
    maker_fee_bps := pyRound (maker * 10000) 12
    taker_fee_bps := pyRound (taker * 10000) 12
    slippage_model :=
      py_str texts.composite_text (config.get_or "slippage_model" (.str "not_configured"))
    slippage_bps := slippage_bps }

end CostModel

/-! ## The run -/

/-- A row of `order_telemetry` with its fill. -/
structure PaperFillTelemetry (K : Type) extends PaperTelemetry K where
  qty_filled : K
  qty_canceled : K
  live_vwap_price : K
  limit_price : Option K
  fee_quote : K
  fee_rate : K
  maker_ratio : K
  slip_px : K
  slip_bps : K
  reject_reason : Option String
  fill_model_v2 : Option (PaperFill K)

/-- A row of `funding_events`. -/
structure FundingEvent (K : Type) where
  symbol : String
  position_notional : K
  funding_rate : K
  funding_fee : K

/-- What `run_paper_executor_fixture` returns. -/
structure PaperExecutionResult (K : Type) where
  status : String
  artifact_id : String
  order_count : ℕ
  filled_order_count : ℕ
  effective_cost_model : PaperExecutionCostModel K
  order_telemetry : List (PaperFillTelemetry K)
  funding_events : List (FundingEvent K)
  average_slip_bps : K
  max_abs_slip_bps : K
  sample_count : ℕ

section Run

variable {K T : Type} [Field K] [LinearOrder K] [FloorRing K] [LinearOrder T]
  (env : ArtifactEnv K T) (texts : PyTexts K)

/-- `{snapshot.symbol: snapshot for snapshot in market_snapshots}`. -/
def fill_snapshots_by_symbol (market_snapshots : List (PaperFillSnapshot K)) :
    Dict String (PaperFillSnapshot K) :=
  market_snapshots.foldl (fun snapshots snapshot => snapshots.insert snapshot.symbol snapshot) ∅

/-- `_simulate_order`. -/
def simulate_order (artifact_id : String) (intent : PaperFillIntent K)
    (snapshot : PaperFillSnapshot K) (ordinal : ℕ) (latency_ms maker_fee_rate taker_fee_rate : K) :
    PaperFillTelemetry K :=
  let fill := simulate_fill_model_v2 texts intent snapshot latency_ms maker_fee_rate taker_fee_rate
  { telemetry_row artifact_id intent.toPaperOrderIntent (some snapshot.toPaperMarketSnapshot)
      ordinal with
    qty_filled := fill.qty_filled
    qty_canceled := fill.qty_canceled
    live_vwap_price := fill.live_vwap_price
    limit_price := intent.limit_price
    fee_quote := fill.fee_quote
    fee_rate := fill.fee_rate
    maker_ratio := fill.maker_ratio
    slip_px := fill.slip_px
    slip_bps := fill.slip_bps
    reject_reason := none
    fill_model_v2 := some fill }

/-- `_rejected_telemetry`. -/
def rejected_telemetry (artifact_id : String) (intent : PaperFillIntent K) (ordinal : ℕ)
    (reason : String) : PaperFillTelemetry K :=
  { telemetry_row artifact_id intent.toPaperOrderIntent none ordinal with
    qty_filled := 0
    qty_canceled := intent.qty
    live_vwap_price := 0
    limit_price := none
    fee_quote := 0
    fee_rate := 0
    maker_ratio := 0
    slip_px := 0
    slip_bps := 0
    reject_reason := some reason
    fill_model_v2 := none }

/-- The row of an intent. -/
def fixture_row (artifact_id : String) (snapshots : Dict String (PaperFillSnapshot K))
    (latency_ms : K) (cost_model : PaperExecutionCostModel K) (intent : PaperFillIntent K)
    (ordinal : ℕ) : PaperFillTelemetry K :=
  match snapshots.lookup intent.symbol with
  | none => rejected_telemetry artifact_id intent ordinal "missing_market_snapshot"
  | some snapshot =>
      simulate_order texts artifact_id intent snapshot ordinal latency_ms
        cost_model.maker_fee_rate cost_model.taker_fee_rate

/-- The funding of a row, where its snapshot has a rate. -/
def funding_event (snapshots : Dict String (PaperFillSnapshot K)) (row : PaperFillTelemetry K) :
    Option (FundingEvent K) :=
  match snapshots.lookup row.symbol with
  | none => none
  | some snapshot =>
      let notional := row.live_vwap_price * row.qty_filled
      if snapshot.funding_rate = 0 then none
      else some
        { symbol := row.symbol
          position_notional := pyRound notional 12
          funding_rate := snapshot.funding_rate
          funding_fee := pyRound (notional * snapshot.funding_rate) 12 }

/-- `order_telemetry`. -/
def fixture_rows (artifact_id : String) (order_intents : List (PaperFillIntent K))
    (market_snapshots : List (PaperFillSnapshot K)) (latency_ms : K)
    (cost_model : PaperExecutionCostModel K) : List (PaperFillTelemetry K) :=
  (order_intents.zipIdx 1).map fun numbered =>
    fixture_row texts artifact_id (fill_snapshots_by_symbol market_snapshots) latency_ms cost_model
      numbered.1 numbered.2

/-- `run_paper_executor_fixture` with its fills. -/
def run_paper_fill_fixture (loaded : LoadedArtifact K T) (order_intents : List (PaperFillIntent K))
    (market_snapshots : List (PaperFillSnapshot K)) (latency_ms : K)
    (maker_fee_rate taker_fee_rate : Option K) : Except String (PaperExecutionResult K) := do
  -- the authority check is that of the executor without fills
  let _ ← run_paper_executor_fixture env loaded
    (order_intents.map PaperFillIntent.toPaperOrderIntent)
    (market_snapshots.map PaperFillSnapshot.toPaperMarketSnapshot)
  let cost_model ← resolve_paper_execution_cost_model texts loaded.artifact maker_fee_rate
    taker_fee_rate
  let rows := fixture_rows texts (artifact_id env loaded) order_intents market_snapshots latency_ms
    cost_model
  let slip_values := (rows.filter fun row => ! row.was_rejected).map PaperFillTelemetry.slip_bps
  return {
    status := "completed"
    artifact_id := artifact_id env loaded
    order_count := order_intents.length
    filled_order_count := (rows.filter fun row => 0 < row.qty_filled).length
    effective_cost_model := cost_model
    order_telemetry := rows
    funding_events := rows.filterMap (funding_event (fill_snapshots_by_symbol market_snapshots))
    average_slip_bps := pyRound (slip_values.sum / slip_values.length) 12
    max_abs_slip_bps := pyRound ((slip_values.map abs).foldl max 0) 12
    sample_count := slip_values.length }

/-! ## Rows -/

/-- What an intent fills on its own: nothing without a snapshot of its symbol. -/
def lone_fill (snapshots : Dict String (PaperFillSnapshot K)) (latency_ms : K)
    (cost_model : PaperExecutionCostModel K) (intent : PaperFillIntent K) : K :=
  ((snapshots.lookup intent.symbol).map fun snapshot =>
    (simulate_fill_model_v2 texts intent snapshot latency_ms cost_model.maker_fee_rate
      cost_model.taker_fee_rate).qty_filled).getD 0

/-- What is there for an intent: nothing without a snapshot of its symbol. -/
def available_to (snapshots : Dict String (PaperFillSnapshot K)) (intent : PaperFillIntent K) : K :=
  ((snapshots.lookup intent.symbol).map fun snapshot =>
    max 0 (available_qty texts intent snapshot)).getD 0

/-- An intent for a symbol and a side. -/
def is_on (symbol side : String) (intent : PaperFillIntent K) : Bool :=
  intent.symbol = symbol ∧ pyUpper intent.side = side

/-- All that a run fills on a symbol and a side. -/
def filled_on (result : PaperExecutionResult K) (symbol side : String) : K :=
  ((result.order_telemetry.filter fun row => row.symbol = symbol ∧ row.side = side).map
    PaperFillTelemetry.qty_filled).sum

/-- The columns of a row without its fill. -/
theorem fixture_row_base (artifact_id : String) (snapshots : Dict String (PaperFillSnapshot K))
    (latency_ms : K) (cost_model : PaperExecutionCostModel K) (intent : PaperFillIntent K)
    (ordinal : ℕ) :
    (fixture_row texts artifact_id snapshots latency_ms cost_model intent ordinal).toPaperTelemetry
      = telemetry_row artifact_id intent.toPaperOrderIntent
          ((snapshots.lookup intent.symbol).map PaperFillSnapshot.toPaperMarketSnapshot)
          ordinal := by
  unfold fixture_row
  cases snapshots.lookup intent.symbol with
  | none => rfl
  | some snapshot => rfl

/-- The quantity of a row is what its intent fills on its own. -/
theorem row_qty_filled (artifact_id : String) (snapshots : Dict String (PaperFillSnapshot K))
    (latency_ms : K) (cost_model : PaperExecutionCostModel K) (intent : PaperFillIntent K)
    (ordinal : ℕ) :
    (fixture_row texts artifact_id snapshots latency_ms cost_model intent ordinal).qty_filled
      = lone_fill texts snapshots latency_ms cost_model intent := by
  unfold fixture_row lone_fill
  cases snapshots.lookup intent.symbol with
  | none => rfl
  | some snapshot => rfl

omit [FloorRing K] [Field K] [LinearOrder K] in
theorem lookup_fill_snapshots (market_snapshots : List (PaperFillSnapshot K)) (symbol : String) :
    (snapshots_by_symbol (market_snapshots.map PaperFillSnapshot.toPaperMarketSnapshot)).lookup
        symbol
      = ((fill_snapshots_by_symbol market_snapshots).lookup symbol).map
          PaperFillSnapshot.toPaperMarketSnapshot := by
  induction market_snapshots using List.reverseRecOn with
  | nil => rfl
  | append_singleton market_snapshots snapshot ih =>
      rw [snapshots_by_symbol, fill_snapshots_by_symbol, List.map_append, List.map_singleton,
        List.foldl_append, List.foldl_append, List.foldl_cons, List.foldl_nil, List.foldl_cons,
        List.foldl_nil, ← snapshots_by_symbol, ← fill_snapshots_by_symbol]
      by_cases hsymbol : symbol = snapshot.symbol
      · rw [hsymbol, AList.lookup_insert, AList.lookup_insert, Option.map_some]
      · rw [AList.lookup_insert_ne hsymbol, AList.lookup_insert_ne hsymbol, ih]

/-- Without their fills the rows are those of the executor. -/
theorem fixture_rows_base (artifact_id : String) (order_intents : List (PaperFillIntent K))
    (market_snapshots : List (PaperFillSnapshot K)) (latency_ms : K)
    (cost_model : PaperExecutionCostModel K) :
    (fixture_rows texts artifact_id order_intents market_snapshots latency_ms cost_model).map
        PaperFillTelemetry.toPaperTelemetry
      = executor_rows artifact_id (order_intents.map PaperFillIntent.toPaperOrderIntent)
          (market_snapshots.map PaperFillSnapshot.toPaperMarketSnapshot) := by
  rw [fixture_rows, executor_rows, List.map_map, List.zipIdx_map, List.map_map]
  refine List.map_congr_left fun numbered _ => ?_
  rw [Function.comp_apply, fixture_row_base, Function.comp_apply, Prod.map_fst, Prod.map_snd,
    lookup_fill_snapshots]
  rfl

/-- The rows of a symbol and a side add up what their intents fill alone. -/
theorem sum_fixture_rows (artifact_id : String) (order_intents : List (PaperFillIntent K))
    (market_snapshots : List (PaperFillSnapshot K)) (latency_ms : K)
    (cost_model : PaperExecutionCostModel K) (symbol side : String) :
    (((fixture_rows texts artifact_id order_intents market_snapshots latency_ms
        cost_model).filter fun row => row.symbol = symbol ∧ row.side = side).map
          PaperFillTelemetry.qty_filled).sum
      = ((order_intents.filter (is_on symbol side)).map
          (lone_fill texts (fill_snapshots_by_symbol market_snapshots) latency_ms
            cost_model)).sum := by
  unfold fixture_rows
  -- the ordinal of a row has no part in its sums
  generalize 1 = first
  induction order_intents generalizing first with
  | nil => rfl
  | cons intent rest ih =>
      have hbase := fixture_row_base texts artifact_id (fill_snapshots_by_symbol market_snapshots)
        latency_ms cost_model intent first
      have hon : (fixture_row texts artifact_id (fill_snapshots_by_symbol market_snapshots)
            latency_ms cost_model intent first).symbol = symbol
          ∧ (fixture_row texts artifact_id (fill_snapshots_by_symbol market_snapshots)
            latency_ms cost_model intent first).side = side
          ↔ is_on symbol side intent = true := by
        rw [hbase, is_on, decide_eq_true_iff]
        rfl
      rw [List.zipIdx_cons, List.map_cons, List.filter_cons, List.filter_cons]
      by_cases h : is_on symbol side intent = true
      · rw [if_pos (decide_eq_true (hon.mpr h)), if_pos h, List.map_cons,
          List.map_cons, List.sum_cons, List.sum_cons, ih, row_qty_filled]
      · rw [if_neg (by simpa using fun hs => fun hd => h (hon.mp ⟨hs, hd⟩)),
          if_neg h, ih]

variable [IsStrictOrderedRing K]

/-- An intent alone fills at most what is there. -/
theorem lone_fill_le (snapshots : Dict String (PaperFillSnapshot K)) (latency_ms : K)
    (cost_model : PaperExecutionCostModel K) (intent : PaperFillIntent K) :
    lone_fill texts snapshots latency_ms cost_model intent
      ≤ pyRound (available_to texts snapshots intent) 12 := by
  unfold lone_fill available_to
  cases snapshots.lookup intent.symbol with
  | none => exact pyRound_nonneg le_rfl 12
  | some snapshot =>
      rw [Option.map_some, Option.map_some, Option.getD_some, Option.getD_some, available_qty]
      cases hpassive : is_passive intent with
      | true =>
          -- from the queue
          simp only [simulate_fill_model_v2, hpassive, if_true, passive_path,
            approximate_queue_fill]
          rw [pyRound_pyRound]
          exact pyRound_mono ((min_le_right _ _).trans (le_max_right _ _)) 12
      | false =>
          -- from the opposite side
          rw [qty_filled_market texts snapshot _ _ _ hpassive, if_neg Bool.false_ne_true]
          exact pyRound_mono (max_le_max_left 0 (min_le_right _ _)) 12

omit [IsStrictOrderedRing K] in
/-- A run that goes through returns the rows. -/
theorem order_telemetry_run {loaded : LoadedArtifact K T} {order_intents : List (PaperFillIntent K)}
    {market_snapshots : List (PaperFillSnapshot K)} {latency_ms : K}
    {maker_fee_rate taker_fee_rate : Option K} {result : PaperExecutionResult K}
    (hrun : run_paper_fill_fixture env texts loaded order_intents market_snapshots latency_ms
      maker_fee_rate taker_fee_rate = .ok result) :
    result.order_telemetry = fixture_rows texts (artifact_id env loaded) order_intents
      market_snapshots latency_ms result.effective_cost_model := by
  unfold run_paper_fill_fixture at hrun
  obtain ⟨base, -, hrun⟩ := bind_ok hrun
  obtain ⟨cost_model, -, hrun⟩ := bind_ok hrun
  cases hrun
  rfl

/-- A run fills every intent on the whole snapshot of its symbol: on a symbol and a
side it fills what the intents would fill alone, each at most what is there for it. -/
theorem run_fills_add_up {loaded : LoadedArtifact K T} {order_intents : List (PaperFillIntent K)}
    {market_snapshots : List (PaperFillSnapshot K)} {latency_ms : K}
    {maker_fee_rate taker_fee_rate : Option K} {result : PaperExecutionResult K}
    (hrun : run_paper_fill_fixture env texts loaded order_intents market_snapshots latency_ms
      maker_fee_rate taker_fee_rate = .ok result) (symbol side : String) :
    let snapshots := fill_snapshots_by_symbol market_snapshots
    let intents := order_intents.filter (is_on symbol side)
    let alone := lone_fill texts snapshots latency_ms result.effective_cost_model
    filled_on result symbol side = (intents.map alone).sum
      ∧ (∀ intent ∈ intents, alone intent ≤ pyRound (available_to texts snapshots intent) 12)
      ∧ filled_on result symbol side
        ≤ (intents.map fun intent => pyRound (available_to texts snapshots intent) 12).sum := by
  intro snapshots intents alone
  have hsum : filled_on result symbol side = (intents.map alone).sum := by
    rw [filled_on, order_telemetry_run env texts hrun]
    exact sum_fixture_rows texts _ order_intents market_snapshots latency_ms _ symbol side
  have hle : ∀ intent ∈ intents, alone intent ≤ pyRound (available_to texts snapshots intent) 12 :=
    fun intent _ => lone_fill_le texts snapshots latency_ms _ intent
  refine ⟨hsum, hle, ?_⟩
  rw [hsum]
  exact List.sum_le_sum hle

end Run

/-! ## Two buys on one ask -/

/-- The approved artifact. -/
def approved : LoadedArtifact ℚ ℕ :=
  ⟨Strategy.plain_artifact, Strategy.plain_clock, Strategy.plain_clock⟩

/-- The approved artifact is executed on every snapshot of its day. -/
theorem approved_executed (order_intents : List (PaperFillIntent ℚ))
    (market_snapshots : List (PaperFillSnapshot ℚ))
    (hreduce : (order_intents.map PaperFillIntent.toPaperOrderIntent).all
      PaperOrderIntent.reduce_only = false)
    (hnow : (market_snapshots.map PaperFillSnapshot.toPaperMarketSnapshot).head?.map
      PaperMarketSnapshot.ts = some "2026-05-07T00:00:00Z") :
    ∃ result, run_paper_fill_fixture Strategy.plain_env plain_texts approved order_intents
        market_snapshots 0 (some 0) (some 0) = .ok result := by
  have hresolved : (resolve_paper_execution_cost_model plain_texts approved.artifact (some 0)
      (some 0)).toOption.isSome = true := by
    decide +kernel
  cases hcost : resolve_paper_execution_cost_model plain_texts approved.artifact (some 0)
      (some 0) with
  | error message =>
      rw [hcost] at hresolved
      cases hresolved
  | ok cost_model =>
      have hauthority := executed_of_accepted Strategy.accepted_plain_artifact
        (by decide +kernel) hreduce hnow
      unfold run_paper_fill_fixture
      rw [approved, hauthority, ok_bind]
      rw [approved] at hcost
      rw [hcost, ok_bind]
      exact ⟨_, rfl⟩

/-- One buy alone fills at most the one unit that is there. -/
theorem run_fills_add_up_one_buy :
    ∃ result, run_paper_fill_fixture Strategy.plain_env plain_texts approved [limit_buy 1 102]
        [one_ask 101 1] 0 (some 0) (some 0) = .ok result
      ∧ filled_on result "BTCUSDT" "BUY" ≤ 1 := by
  obtain ⟨result, hrun⟩ := approved_executed [limit_buy 1 102] [one_ask 101 1] rfl rfl
  refine ⟨result, hrun, ?_⟩
  have hle := (run_fills_add_up Strategy.plain_env plain_texts hrun "BTCUSDT" "BUY").2.2
  exact hle.trans (by decide +kernel)

/-- Two buys fill two units of the one that is there. -/
theorem two_buys_fill_one_ask_twice :
    depth (normalize_depth_levels plain_texts (one_ask 101 1).ask_depth_levels) = 1
      ∧ ∃ result, run_paper_fill_fixture Strategy.plain_env plain_texts approved
          [limit_buy 1 102, limit_buy 1 102] [one_ask 101 1] 0 (some 0) (some 0) = .ok result
        ∧ filled_on result "BTCUSDT" "BUY" = 2 := by
  refine ⟨by decide +kernel, ?_⟩
  obtain ⟨result, hrun⟩ :=
    approved_executed [limit_buy 1 102, limit_buy 1 102] [one_ask 101 1] rfl rfl
  refine ⟨result, hrun, ?_⟩
  have hlone : lone_fill plain_texts (fill_snapshots_by_symbol [one_ask 101 1]) 0
      result.effective_cost_model (limit_buy 1 102) = 1 := by
    have hsnapshot : (fill_snapshots_by_symbol [one_ask 101 1]).lookup (limit_buy 1 102).symbol
        = some (one_ask 101 1) := rfl
    rw [lone_fill, hsnapshot, Option.map_some, Option.getD_some,
      qty_filled_market plain_texts (one_ask 101 1) _ _ _ rfl]
    decide +kernel
  have hon : [limit_buy 1 102, limit_buy 1 102].filter (is_on "BTCUSDT" "BUY")
      = [limit_buy 1 102, limit_buy 1 102] := rfl
  rw [filled_on, order_telemetry_run Strategy.plain_env plain_texts hrun, sum_fixture_rows, hon]
  simp only [List.map_cons, List.map_nil, hlone]
  norm_num

end ProofAlpha.Execution
