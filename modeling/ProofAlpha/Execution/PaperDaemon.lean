/-
The dry run of the paper daemon: `run_paper_daemon_dry_run` of
`execution/paper_daemon.py` with `run_paper_executor_fixture` and
`record_paper_execution_result` of `execution/paper.py`.

The risk limits filter the order intents once, before any order is sent; the intents that
pass are then executed once for every artifact, and each execution records its rows under
the artifact's id. An intent, a snapshot and a telemetry row carry the columns that the
filter, the authority check and the sums read; the simulated fill is none of them.
-/
import ProofAlpha.Lib.PyDict
import ProofAlpha.Lib.PyMath
import ProofAlpha.Strategy.Artifacts

set_option autoImplicit false

namespace ProofAlpha.Execution

open ProofAlpha.Lib
open ProofAlpha.Strategy (ArtifactEnv PaperAuthorityDecision paper_authority_decision)

/-! ## Intents, snapshots and limits -/

/-- `PaperOrderIntent`. -/
structure PaperOrderIntent (K : Type) where
  symbol : String
  side : String
  qty : K
  expected_price : K
  reduce_only : Bool
  deriving DecidableEq

/-- `PaperMarketSnapshot`. -/
structure PaperMarketSnapshot (K : Type) where
  ts : String
  symbol : String
  bid : K
  ask : K
  visible_depth_qty : K
  topn_depth_qty : K

/-- `PaperRiskLimits`. -/
structure PaperRiskLimits (K : Type) where
  max_per_symbol_notional : K
  max_aggregate_notional : K
  max_spread_bps : K
  min_visible_depth_qty : K

/-- `{snapshot.symbol: snapshot for snapshot in market_snapshots}`. -/
def snapshots_by_symbol {K : Type} (market_snapshots : List (PaperMarketSnapshot K)) :
    Dict String (PaperMarketSnapshot K) :=
  market_snapshots.foldl (fun snapshots snapshot => snapshots.insert snapshot.symbol snapshot) ∅

section Filter

variable {K : Type} [Field K] [LinearOrder K]

/-! ## The risk filter -/

/-- `intent_key`. -/
abbrev IntentKey (K : Type) := String × String × K × K

def intent_key (intent : PaperOrderIntent K) : IntentKey K :=
  (intent.symbol, pyUpper intent.side, intent.qty, intent.expected_price)

/-- The notional of an intent, with its sign. -/
def PaperOrderIntent.signed_notional (intent : PaperOrderIntent K) : K := intent.qty * intent.expected_price

/-- What the loop over the intents carries. -/
structure RiskFilter (K : Type) where
  exposure_by_symbol : Dict String K
  aggregate_notional : K
  seen_intents : List (IntentKey K)
  allowed_intents : List (PaperOrderIntent K)
  risk_blocks : List (String × String)

def RiskFilter.initial : RiskFilter K := ⟨∅, 0, [], [], []⟩

/-- `_risk_block_reasons`. -/
def risk_block_reasons (intent : PaperOrderIntent K) (snapshot : Option (PaperMarketSnapshot K))
    (limits : PaperRiskLimits K) (filter : RiskFilter K) : List String :=
  let notional := |intent.signed_notional|
  reason_if (intent_key intent ∈ filter.seen_intents) "duplicate_intent"
    ++ reason_if (limits.max_per_symbol_notional
      < (filter.exposure_by_symbol.lookup intent.symbol).getD 0 + notional)
      "max_per_symbol_exposure"
    ++ reason_if (limits.max_aggregate_notional < filter.aggregate_notional + notional)
      "max_aggregate_notional"
    ++ match snapshot with
      | none => ["missing_book_trade_stream"]
      | some snapshot =>
          let mid := (snapshot.bid + snapshot.ask) / 2
          let spread_bps :=
            if mid = 0 then 0 else (snapshot.ask - snapshot.bid) / mid * 10000
          reason_if (limits.max_spread_bps < spread_bps) "spread_too_wide"
            ++ reason_if (snapshot.visible_depth_qty < limits.min_visible_depth_qty)
              "depth_too_thin"
            ++ reason_if (snapshot.topn_depth_qty ≠ 0 ∧ snapshot.topn_depth_qty < intent.qty)
              "depth_too_thin"

/-- One iteration over the intents. -/
def filter_intent (limits : PaperRiskLimits K) (snapshots : Dict String (PaperMarketSnapshot K))
    (filter : RiskFilter K) (intent : PaperOrderIntent K) : RiskFilter K :=
  let reasons := risk_block_reasons intent (snapshots.lookup intent.symbol) limits filter
  let seen_intents := filter.seen_intents ++ [intent_key intent]
  if reasons ≠ [] then
    { filter with
      seen_intents := seen_intents
      risk_blocks := filter.risk_blocks ++ reasons.map fun reason => (reason, intent.symbol) }
  else
    let notional := |intent.signed_notional|
    { filter with
      seen_intents := seen_intents
      exposure_by_symbol := filter.exposure_by_symbol.insert intent.symbol
        ((filter.exposure_by_symbol.lookup intent.symbol).getD 0 + notional)
      aggregate_notional := filter.aggregate_notional + notional
      allowed_intents := filter.allowed_intents ++ [intent] }

/-- `allowed_intents` after the loop. -/
def allowed_intents (limits : PaperRiskLimits K) (order_intents : List (PaperOrderIntent K))
    (market_snapshots : List (PaperMarketSnapshot K)) : List (PaperOrderIntent K) :=
  (order_intents.foldl (filter_intent limits (snapshots_by_symbol market_snapshots))
    RiskFilter.initial).allowed_intents

end Filter

/-! ## The executor -/

/-- A row of `order_telemetry`. -/
structure PaperTelemetry (K : Type) where
  telemetry_id : String
  symbol : String
  side : String
  qty_submitted : K
  expected_price : K
  was_rejected : Bool
  deriving DecidableEq

/-- An artifact, and the two times at which its authority is checked. -/
structure LoadedArtifact (K T : Type) where
  artifact : JsonObject K
  clock : T
  later : T

section Executor

variable {K T : Type} [Field K] [LinearOrder K] [LinearOrder T] (env : ArtifactEnv K T)

/-- The text of `artifact["artifact_id"]`. -/
def artifact_id (loaded : LoadedArtifact K T) : String :=
  py_str env.composite_text (loaded.artifact.get "artifact_id")

/-- What `_simulate_order`, and `_rejected_telemetry` without a snapshot, say of an
intent. -/
def telemetry_row (artifact_id : String) (intent : PaperOrderIntent K)
    (snapshot : Option (PaperMarketSnapshot K)) (ordinal : ℕ) : PaperTelemetry K where
  telemetry_id := artifact_id ++ ":paper:" ++ toString ordinal
  symbol := intent.symbol
  side := pyUpper intent.side
  qty_submitted := intent.qty
  expected_price := intent.expected_price
  was_rejected := snapshot.isNone

/-- The telemetry of `run_paper_executor_fixture` once the authority is granted. -/
def executor_rows (artifact_id : String) (order_intents : List (PaperOrderIntent K))
    (market_snapshots : List (PaperMarketSnapshot K)) : List (PaperTelemetry K) :=
  (order_intents.zipIdx 1).map fun numbered =>
    telemetry_row artifact_id numbered.1
      ((snapshots_by_symbol market_snapshots).lookup numbered.1.symbol) numbered.2

/-- `run_paper_executor_fixture`. -/
def run_paper_executor_fixture (loaded : LoadedArtifact K T)
    (order_intents : List (PaperOrderIntent K)) (market_snapshots : List (PaperMarketSnapshot K)) :
    Except String (List (PaperTelemetry K)) :=
  let now_utc := market_snapshots.head?.map PaperMarketSnapshot.ts
  let all_reduce_only := order_intents.all PaperOrderIntent.reduce_only
  match paper_authority_decision env loaded.clock loaded.later loaded.artifact now_utc
    all_reduce_only with
  | some (.ok authority) =>
      if authority.allowed then
        .ok (executor_rows (artifact_id env loaded) order_intents market_snapshots)
      else .error (",".intercalate authority.reasons)
  | some (.error reason) => .error reason
  -- a payload on which a check of the authority raises
  | none => .error "invalid_artifact"

/-! ## The session -/

/-- `record_paper_execution_result`: `INSERT OR REPLACE` by the id of the row. -/
def record_paper_execution_result (table : Dict String (PaperTelemetry K))
    (order_telemetry : List (PaperTelemetry K)) : Dict String (PaperTelemetry K) :=
  order_telemetry.foldl (fun table row => table.insert row.telemetry_id row) table

/-- A row of the session: its id begins with that of the session. -/
def session_row (session_id : String) (row : PaperTelemetry K) : PaperTelemetry K :=
  { row with telemetry_id := session_id ++ ":" ++ row.telemetry_id }

/-- The telemetry that `run_paper_daemon_dry_run` records, in a table without rows of the
session: the intents are filtered once and executed for each artifact. -/
def run_paper_daemon_dry_run (session_id : String) (limits : PaperRiskLimits K)
    (artifacts : List (LoadedArtifact K T)) (order_intents : List (PaperOrderIntent K))
    (market_snapshots : List (PaperMarketSnapshot K)) :
    Except String (Dict String (PaperTelemetry K)) :=
  let allowed := allowed_intents limits order_intents market_snapshots
  artifacts.foldlM
    (fun table loaded => do
      let rows ← run_paper_executor_fixture env loaded allowed market_snapshots
      return record_paper_execution_result table (rows.map (session_row session_id)))
    ∅

end Executor

end ProofAlpha.Execution
