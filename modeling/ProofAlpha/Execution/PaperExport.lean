/-
Exporting a paper session and restoring the bundle
(src/engine/execution/paper_export.py).

`export_paper_session` backs the live database up and then reads it again, one
statement after another. A writer's commits may fall between any two of its
statements: `ExportRun.step` makes either a commit or the next statement of the
export, in the order of the source. What `load_paper_status` reads beyond the
session row, the record of the export in `backup_manifests` and the paths of the
bundle are left out, and so are the digests of the files that are never checked.

`Quiet` says of one step that it commits no session row to a table that the
export has yet to read, once the backup is made. Along a run the live rows of
such a table are those of the backup and what has been added since
(`ReadsBeyond`), and nothing of the session has been added exactly as long as
every step was quiet. So the table files are those of the bundled database if and
only if the whole run is quiet; the restore checks neither.
-/
import Mathlib.Data.List.Induction
import ProofAlpha.Lib.Checks
import ProofAlpha.Lib.PyJson

set_option autoImplicit false

namespace ProofAlpha.Execution

open ProofAlpha.Lib

variable {K : Type}

/-! ## The database -/

/-- The tables with rows of a session. -/
inductive SessionTable where
  | paper_sessions
  | paper_session_artifacts
  | paper_stream_events
  | paper_session_summaries
  | order_telemetry
  | funding_events
  | live_metrics
  | risk_events
  | execution_events
  | market_snapshots
  | executor_health
deriving DecidableEq

/-- `SESSION_TABLES`. -/
def SESSION_TABLES : List SessionTable :=
  [.paper_sessions, .paper_session_artifacts, .paper_stream_events, .paper_session_summaries,
    .order_telemetry, .funding_events, .live_metrics, .risk_events, .execution_events,
    .market_snapshots, .executor_health]

/-- The rows of every table, in the order they were inserted; a row is `dict(row)`. -/
abbrev SessionDatabase (K : Type) := SessionTable → List (JsonObject K)

/-- What SQLite and the hash do. -/
structure SqliteRuntime (K : Type) where
  /-- `json_extract(text, path)`. -/
  json_extract : JsonValue K → String → JsonValue K
  /-- `ORDER BY` on the first column. -/
  order_by_first : List (JsonObject K) → List (JsonObject K)
  order_by_first_perm : ∀ rows, (order_by_first rows).Perm rows
  /-- `_sha256_file` of a database file. -/
  sha256_file : SessionDatabase K → String

namespace SqliteRuntime

variable (rt : SqliteRuntime K)

/-- `json_extract(column, '$.session_id') = session_id`. -/
def names_session (row : JsonObject K) (column session_id : String) : Bool :=
  is_text (rt.json_extract (row.get column) "$.session_id") session_id

/-- The `WHERE` clause of `_session_rows`. -/
def of_session (session_id : String) (table : SessionTable) (row : JsonObject K) : Bool :=
  match table with
  | .paper_sessions | .paper_session_artifacts | .paper_stream_events
  | .paper_session_summaries => is_text (row.get "session_id") session_id
  | .live_metrics => rt.names_session row "payload_json" session_id
  | .executor_health =>
      is_text (row.get "executor_id") session_id
        || rt.names_session row "metadata_json" session_id
  | .order_telemetry | .funding_events | .risk_events | .execution_events | .market_snapshots =>
      rt.names_session row "metadata_json" session_id

/-- `_session_rows`. -/
def session_rows (db : SessionDatabase K) (session_id : String) (table : SessionTable) :
    List (JsonObject K) :=
  rt.order_by_first ((db table).filter (rt.of_session session_id table))

end SqliteRuntime

/-- Whether `load_paper_status` finds a session: the one asked for, or any for an empty id. -/
def has_session (db : SessionDatabase K) (session_id : String) : Bool :=
  if session_id = "" then ! (db .paper_sessions).isEmpty
  else (db .paper_sessions).any fun row => is_text (row.get "session_id") session_id

/-! ## The export -/

/-- The bundle: the manifest's counts and digest of the snapshot, the table files, the copy of
the stream events and the snapshot itself. -/
structure ExportBundle (K : Type) where
  session_id : String
  table_counts : List (SessionTable × ℕ)
  tables : List (SessionTable × List (JsonObject K))
  streams : List (JsonObject K)
  sqlite_hash : String
  sqlite : SessionDatabase K

/-- Where `export_paper_session` is: before the backup, before the status query, in the loop
over the tables with the table files written so far, done, or stopped by its `ValueError`. -/
inductive ExportPhase (K : Type) where
  | starting
  | backed_up (snapshot : SessionDatabase K)
  | exporting (snapshot : SessionDatabase K) (written : List (SessionTable × List (JsonObject K)))
      (remaining : List SessionTable)
  | exported (bundle : ExportBundle K)
  | failed (error : String)

/-- A row that the writer inserts. -/
abbrev Insertion (K : Type) := SessionTable × JsonObject K

/-- One thing that happens: the writer commits some rows, or the export runs its next
statement. -/
inductive ExportAction (K : Type) where
  | commit (inserted : List (Insertion K))
  | statement

/-- The rows that a commit adds to a table. -/
def rows_into (table : SessionTable) (inserted : List (Insertion K)) : List (JsonObject K) :=
  inserted.filterMap fun item => if item.1 = table then some item.2 else none

/-- The database after a commit. -/
def commit_rows (db : SessionDatabase K) (inserted : List (Insertion K)) : SessionDatabase K :=
  fun table => db table ++ rows_into table inserted

/-- The live database and the export. -/
structure ExportRun (K : Type) where
  live : SessionDatabase K
  phase : ExportPhase K

/-- The bundle once every table is written. -/
def SqliteRuntime.bundle_of (rt : SqliteRuntime K) (session_id : String)
    (snapshot : SessionDatabase K) (written : List (SessionTable × List (JsonObject K))) :
    ExportBundle K where
  session_id := session_id
  table_counts := written.map fun item => (item.1, item.2.length)
  tables := written
  streams := (written.lookup .paper_stream_events).getD []
  sqlite_hash := rt.sha256_file snapshot
  sqlite := snapshot

/-- The next statement of `export_paper_session` on the live database. -/
def SqliteRuntime.next_phase (rt : SqliteRuntime K) (session_id : String)
    (live : SessionDatabase K) : ExportPhase K → ExportPhase K
  | .starting => .backed_up live
  | .backed_up snapshot =>
      if has_session live session_id then .exporting snapshot [] SESSION_TABLES
      else .failed ("paper session not found: " ++ session_id)
  | .exporting snapshot written [] => .exported (rt.bundle_of session_id snapshot written)
  | .exporting snapshot written (table :: remaining) =>
      .exporting snapshot (written ++ [(table, rt.session_rows live session_id table)]) remaining
  | phase => phase

/-- What happens next. -/
def ExportRun.step (rt : SqliteRuntime K) (session_id : String) (run : ExportRun K) :
    ExportAction K → ExportRun K
  | .commit inserted => { run with live := commit_rows run.live inserted }
  | .statement => { run with phase := rt.next_phase session_id run.live run.phase }

/-- `export_paper_session`, interleaved with a writer. -/
def export_paper_session (rt : SqliteRuntime K) (session_id : String) (db : SessionDatabase K)
    (actions : List (ExportAction K)) : ExportRun K :=
  actions.foldl (ExportRun.step rt session_id) ⟨db, .starting⟩

/-! ## The restore -/

/-- The report of a restore and the restored database. -/
structure RestoreReport (K : Type) where
  restore_status : String
  session_id : String
  /-- The counts of `_verification_payload`. -/
  verification_counts : List (SessionTable × ℕ)
  restored : SessionDatabase K

/-- The tables that `_verification_payload` counts. -/
def VERIFIED_TABLES : List SessionTable :=
  [.paper_sessions, .paper_session_artifacts, .paper_stream_events, .paper_session_summaries]

/-- `restore_paper_export_smoke`. -/
def restore_paper_export_smoke (rt : SqliteRuntime K) (bundle : ExportBundle K) :
    Except String (RestoreReport K) := do
  let actual_hash := rt.sha256_file bundle.sqlite
  require (bundle.sqlite_hash = "" || actual_hash = bundle.sqlite_hash)
    "paper export SQLite checksum mismatch"
  let restored := bundle.sqlite
  .ok
    { restore_status := if has_session restored bundle.session_id then "verified" else "failed"
      session_id := bundle.session_id
      verification_counts := VERIFIED_TABLES.map fun table =>
        (table, ((restored table).filter (rt.of_session bundle.session_id table)).length)
      restored := restored }

end ProofAlpha.Execution

/-! ## When an exported session is a snapshot -/

namespace ProofAlpha.Execution

open ProofAlpha.Lib

variable {K : Type} (rt : SqliteRuntime K) (session_id : String)

/-! ## Session rows -/

theorem length_session_rows (db : SessionDatabase K) (table : SessionTable) :
    (rt.session_rows db session_id table).length
      = ((db table).filter (rt.of_session session_id table)).length :=
  (rt.order_by_first_perm _).length_eq

/-- Rows added to a table change what its query returns exactly when one is of the session. -/
theorem session_rows_append_eq_iff {db db' : SessionDatabase K} {table : SessionTable}
    {added : List (JsonObject K)} (h : db' table = db table ++ added) :
    rt.session_rows db' session_id table = rt.session_rows db session_id table
      ↔ ∀ row ∈ added, rt.of_session session_id table row = false := by
  constructor
  · intro heq row hrow
    have hlength := congrArg List.length heq
    rw [length_session_rows, length_session_rows, h, List.filter_append, List.length_append] at hlength
    have hnil : added.filter (rt.of_session session_id table) = [] :=
      List.eq_nil_of_length_eq_zero (by omega)
    exact Bool.eq_false_iff.mpr (List.filter_eq_nil_iff.mp hnil row hrow)
  · intro hadded
    have hnil : added.filter (rt.of_session session_id table) = [] :=
      List.filter_eq_nil_iff.mpr fun row hrow => Bool.eq_false_iff.mp (hadded row hrow)
    rw [SqliteRuntime.session_rows, SqliteRuntime.session_rows, h, List.filter_append, hnil,
      List.append_nil]

theorem mem_rows_into {table : SessionTable} {inserted : List (Insertion K)} {row : JsonObject K} :
    row ∈ rows_into table inserted ↔ (table, row) ∈ inserted := by
  rw [rows_into, List.mem_filterMap]
  constructor
  · rintro ⟨⟨table', row'⟩, hmem, hrow⟩
    split_ifs at hrow with htable
    obtain rfl := Option.some.inj hrow
    obtain rfl : table' = table := htable
    exact hmem
  · intro hmem
    exact ⟨(table, row), hmem, if_pos rfl⟩

/-! ## Quiet steps -/

/-- The tables whose rows are backed up and still to be read. -/
def ExportPhase.unread : ExportPhase K → List SessionTable
  | .backed_up _ => SESSION_TABLES
  | .exporting _ _ remaining => remaining
  | _ => []

/-- The step commits no row of the session to a table that is backed up and still to be read. -/
def Quiet (phase : ExportPhase K) : ExportAction K → Prop
  | .commit inserted => ∀ item ∈ inserted, item.1 ∈ phase.unread →
      rt.of_session session_id item.1 item.2 = false
  | .statement => True

/-- Every step from here on is quiet. -/
def QuietRun : ExportRun K → List (ExportAction K) → Prop
  | _, [] => True
  | run, action :: actions =>
      Quiet rt session_id run.phase action ∧ QuietRun (run.step rt session_id action) actions

theorem quietRun_concat (run : ExportRun K) (actions : List (ExportAction K))
    (action : ExportAction K) :
    QuietRun rt session_id run (actions ++ [action])
      ↔ QuietRun rt session_id run actions
        ∧ Quiet rt session_id (actions.foldl (ExportRun.step rt session_id) run).phase action := by
  induction actions generalizing run with
  | nil => simp [QuietRun]
  | cons first actions ih =>
      rw [List.cons_append, QuietRun, QuietRun, ih, List.foldl_cons, and_assoc]

/-! ## What the export has read -/

/-- The tables read so far and those to read, in the order of `SESSION_TABLES`: what the former
held when they were read, and what the latter hold now, is the snapshot and what was added to
it. Nothing of the session was added exactly when the run was quiet. -/
def ReadsBeyond (snapshot live : SessionDatabase K)
    (written : List (SessionTable × List (JsonObject K))) (remaining : List SessionTable)
    (quiet : Prop) : Prop :=
  ∃ (read : List SessionTable) (added : SessionDatabase K), SESSION_TABLES = read ++ remaining
    ∧ (∀ table ∈ remaining, live table = snapshot table ++ added table)
    ∧ written = read.map (fun table =>
        (table, rt.session_rows (fun table => snapshot table ++ added table) session_id table))
    ∧ (quiet ↔ ∀ table, ∀ row ∈ added table, rt.of_session session_id table row = false)

variable {rt session_id}

theorem session_rows_congr {db db' : SessionDatabase K} {table : SessionTable}
    (h : db table = db' table) : rt.session_rows db session_id table = rt.session_rows db' session_id table := by
  rw [SqliteRuntime.session_rows, SqliteRuntime.session_rows, h]

theorem readsBeyond_start (live : SessionDatabase K) {quiet : Prop} (hquiet : quiet) :
    ReadsBeyond rt session_id live live [] SESSION_TABLES quiet :=
  ⟨[], fun _ => [], rfl, fun _ _ => (List.append_nil _).symm, rfl,
    iff_of_true hquiet fun _ row hrow => absurd hrow (by simp)⟩

theorem readsBeyond_commit {snapshot live : SessionDatabase K}
    {written : List (SessionTable × List (JsonObject K))} {remaining : List SessionTable}
    {quiet : Prop} (h : ReadsBeyond rt session_id snapshot live written remaining quiet)
    (inserted : List (Insertion K)) :
    ReadsBeyond rt session_id snapshot (commit_rows live inserted) written remaining
      (quiet ∧ ∀ item ∈ inserted, item.1 ∈ remaining →
        rt.of_session session_id item.1 item.2 = false) := by
  obtain ⟨read, added, htables, hlive, rfl, hquiet⟩ := h
  have hnodup : (read ++ remaining).Nodup := htables ▸ (by decide : SESSION_TABLES.Nodup)
  refine ⟨read, fun table => if table ∈ remaining then added table ++ rows_into table inserted
    else added table, htables, fun table htable => ?_, ?_, ?_⟩
  · dsimp only
    rw [if_pos htable, commit_rows, hlive table htable, List.append_assoc]
  · refine List.map_congr_left fun table htable => ?_
    have hnot : table ∉ remaining := fun hmem =>
      (List.nodup_append.mp hnodup).2.2 table htable table hmem rfl
    rw [Prod.mk.injEq]
    refine ⟨rfl, session_rows_congr ?_⟩
    dsimp only
    rw [if_neg hnot]
  · rw [hquiet]
    constructor
    · rintro ⟨hadded, hinserted⟩ table row hrow
      dsimp only at hrow
      split_ifs at hrow with htable
      · rcases List.mem_append.mp hrow with hrow | hrow
        · exact hadded table row hrow
        · exact hinserted (table, row) (mem_rows_into.mp hrow) htable
      · exact hadded table row hrow
    · intro h
      dsimp only at h
      refine ⟨fun table row hrow => h table row ?_, fun item hitem htable => h item.1 item.2 ?_⟩
      · split_ifs
        · exact List.mem_append_left _ hrow
        · exact hrow
      · rw [if_pos htable]
        exact List.mem_append_right _ (mem_rows_into.mpr hitem)

theorem readsBeyond_read {snapshot live : SessionDatabase K}
    {written : List (SessionTable × List (JsonObject K))} {table : SessionTable}
    {remaining : List SessionTable} {quiet : Prop}
    (h : ReadsBeyond rt session_id snapshot live written (table :: remaining) quiet) :
    ReadsBeyond rt session_id snapshot live
      (written ++ [(table, rt.session_rows live session_id table)]) remaining quiet := by
  obtain ⟨read, added, htables, hlive, rfl, hquiet⟩ := h
  refine ⟨read ++ [table], added, ?_, fun other hother => hlive other (List.mem_cons_of_mem _ hother),
    ?_, hquiet⟩
  · rw [htables, List.append_assoc]
    rfl
  · rw [List.map_append, List.map_singleton]
    congr 3
    exact session_rows_congr (hlive table (List.mem_cons_self ..))

/-- What holds in a run whose steps were quiet or not. -/
def ExportInvariant (rt : SqliteRuntime K) (session_id : String) (run : ExportRun K)
    (quiet : Prop) : Prop :=
  match run.phase with
  | .starting => quiet
  | .backed_up snapshot => ReadsBeyond rt session_id snapshot run.live [] SESSION_TABLES quiet
  | .exporting snapshot written remaining =>
      ReadsBeyond rt session_id snapshot run.live written remaining quiet
  | .exported bundle => ∃ snapshot written, bundle = rt.bundle_of session_id snapshot written
      ∧ ReadsBeyond rt session_id snapshot snapshot written [] quiet
  | .failed _ => True

theorem exportInvariant_step {run : ExportRun K} {quiet : Prop}
    (h : ExportInvariant rt session_id run quiet) (action : ExportAction K) :
    ExportInvariant rt session_id (run.step rt session_id action)
      (quiet ∧ Quiet rt session_id run.phase action) := by
  obtain ⟨live, phase⟩ := run
  cases action with
  | commit inserted =>
      cases phase with
      | starting => exact ⟨h, fun item _ hitem => absurd hitem (by simp [ExportPhase.unread])⟩
      | backed_up snapshot => exact readsBeyond_commit h inserted
      | exporting snapshot written remaining => exact readsBeyond_commit h inserted
      | exported bundle =>
          obtain ⟨snapshot, written, hbundle, hreads⟩ := h
          refine ⟨snapshot, written, hbundle, ?_⟩
          have hquiet : Quiet rt session_id (.exported bundle) (.commit inserted) :=
            fun item _ hitem => absurd hitem (by simp [ExportPhase.unread])
          rwa [and_iff_left hquiet]
      | failed error => exact trivial
  | statement =>
      have hquiet : (quiet ∧ Quiet rt session_id phase .statement) = quiet :=
        propext (and_iff_left trivial)
      rw [hquiet]
      cases phase with
      | starting => exact readsBeyond_start live h
      | backed_up snapshot =>
          rw [ExportRun.step, SqliteRuntime.next_phase]
          split_ifs with hsession
          · exact h
          · exact trivial
      | exporting snapshot written remaining =>
          cases remaining with
          | nil =>
              obtain ⟨read, added, htables, -, hwritten, hquiet⟩ := h
              exact ⟨snapshot, written, rfl, read, added, htables, fun _ h => absurd h (by simp),
                hwritten, hquiet⟩
          | cons table remaining => exact readsBeyond_read h
      | exported bundle => exact h
      | failed error => exact trivial

/-- The invariant along a run. -/
theorem export_invariant (db : SessionDatabase K) (actions : List (ExportAction K)) :
    ExportInvariant rt session_id (export_paper_session rt session_id db actions)
      (QuietRun rt session_id ⟨db, .starting⟩ actions) := by
  induction actions using List.reverseRecOn with
  | nil => exact trivial
  | append_singleton actions action ih =>
      rw [export_paper_session, List.foldl_concat, propext (quietRun_concat ..)]
      exact exportInvariant_step ih action

/-! ## The bundle -/

theorem mem_SESSION_TABLES (table : SessionTable) : table ∈ SESSION_TABLES := by
  cases table <;> decide

/-- The session's rows of a database, table by table. -/
def all_session_rows (rt : SqliteRuntime K) (db : SessionDatabase K) (session_id : String) :
    List (SessionTable × List (JsonObject K)) :=
  SESSION_TABLES.map fun table => (table, rt.session_rows db session_id table)

/-- What a bundle is made of, and that its table files are the rows of its database exactly when
the run was quiet. -/
theorem tables_eq_iff_quiet {db : SessionDatabase K} {actions : List (ExportAction K)}
    {bundle : ExportBundle K}
    (hexport : (export_paper_session rt session_id db actions).phase = .exported bundle) :
    bundle = rt.bundle_of session_id bundle.sqlite bundle.tables
      ∧ (bundle.tables = all_session_rows rt bundle.sqlite session_id
          ↔ QuietRun rt session_id ⟨db, .starting⟩ actions) := by
  have hinvariant : ExportInvariant rt session_id (export_paper_session rt session_id db actions)
      (QuietRun rt session_id ⟨db, .starting⟩ actions) := export_invariant db actions
  rw [ExportInvariant, hexport] at hinvariant
  obtain ⟨snapshot, written, rfl, read, added, htables, -, rfl, hquiet⟩ := hinvariant
  refine ⟨rfl, ?_⟩
  rw [List.append_nil] at htables
  subst htables
  have hrows : ∀ table, rt.session_rows (fun table => snapshot table ++ added table) session_id table
      = rt.session_rows snapshot session_id table
        ↔ ∀ row ∈ added table, rt.of_session session_id table row = false :=
    fun table => session_rows_append_eq_iff rt session_id rfl
  rw [hquiet, all_session_rows, SqliteRuntime.bundle_of, List.map_inj_left]
  constructor
  · intro h table
    exact (hrows table).mp (Prod.mk.inj (h table (mem_SESSION_TABLES table))).2
  · intro h table _
    rw [(hrows table).mpr (h table)]

/-- A bundle is a snapshot: its counts, its table files and its copy of the stream events are
those of the bundled database, and what a verified restore restores is what it describes. -/
structure SnapshotConsistent (rt : SqliteRuntime K) (bundle : ExportBundle K) : Prop where
  tables : bundle.tables = all_session_rows rt bundle.sqlite bundle.session_id
  counts : bundle.table_counts
    = (all_session_rows rt bundle.sqlite bundle.session_id).map fun item => (item.1, item.2.length)
  streams : bundle.streams
    = rt.session_rows bundle.sqlite bundle.session_id .paper_stream_events
  restored : ∀ report, restore_paper_export_smoke rt bundle = .ok report →
    report.restore_status = "verified" →
      bundle.tables = all_session_rows rt report.restored report.session_id

/-- A restore restores the bundled database. -/
theorem restored_eq {bundle : ExportBundle K} {report : RestoreReport K}
    (h : restore_paper_export_smoke rt bundle = .ok report) :
    report.restored = bundle.sqlite ∧ report.session_id = bundle.session_id := by
  obtain ⟨-, h⟩ := require_bind_ok h
  rw [← Except.ok.inj h]
  exact ⟨rfl, rfl⟩

/-- Whatever a writer commits while a session is exported, the bundle is a consistent snapshot
if and only if no commit after the backup adds a row of the session to a table that the export
has yet to read. -/
theorem export_snapshot_iff (rt : SqliteRuntime K) (session_id : String) (db : SessionDatabase K)
    (actions : List (ExportAction K)) (bundle : ExportBundle K)
    (hexport : (export_paper_session rt session_id db actions).phase = .exported bundle) :
    SnapshotConsistent rt bundle ↔ QuietRun rt session_id ⟨db, .starting⟩ actions := by
  obtain ⟨hbundle, hquiet⟩ := tables_eq_iff_quiet hexport
  have hid : bundle.session_id = session_id := by rw [hbundle]; rfl
  rw [← hquiet]
  constructor
  · intro h
    rw [← hid]
    exact h.tables
  · intro htables
    rw [← hid] at htables
    refine ⟨htables, ?_, ?_, fun report hreport _ => ?_⟩
    · rw [← htables, hbundle]
      rfl
    · have hstreams : bundle.streams = (bundle.tables.lookup .paper_stream_events).getD [] := by
        rw [hbundle]
        rfl
      rw [hstreams, htables]
      rfl
    · obtain ⟨hdb, hreport_id⟩ := restored_eq hreport
      rw [hdb, hreport_id, htables]

/-! A session with one stream event that arrives while the session is exported. -/

/-- Rows without metadata, kept in the order they were inserted. -/
def plain_sqlite : SqliteRuntime ℤ where
  json_extract _ _ := .null
  order_by_first rows := rows
  order_by_first_perm _ := List.Perm.refl _
  sha256_file _ := "digest"

/-- A row of the session. -/
def session_row_of_s1 : JsonObject ℤ := [("session_id", .str "s1")]

/-- A database with the session row only. -/
def session_database : SessionDatabase ℤ
  | .paper_sessions => [session_row_of_s1]
  | _ => []

/-- The statements of an export, with a commit of one stream event in front of the status
query. -/
def interrupted_export (inserted : List (Insertion ℤ)) : List (ExportAction ℤ) :=
  [.statement, .commit inserted] ++ List.replicate 13 .statement

/-- Without rows of the session committed in between the bundle is a snapshot. -/
theorem export_snapshot_undisturbed :
    ∃ bundle, (export_paper_session plain_sqlite "s1" session_database (interrupted_export [])).phase
        = .exported bundle
      ∧ SnapshotConsistent plain_sqlite bundle := by
  refine ⟨_, rfl, (export_snapshot_iff plain_sqlite "s1" session_database (interrupted_export []) _
    rfl).mpr ?_⟩
  refine ⟨trivial, fun item hitem => absurd hitem (by simp), ?_⟩
  repeat' constructor

/-- The event is in the table file and counted, but it is not in the bundled database; the
restore is verified nevertheless. -/
theorem export_misses_concurrent_event :
    ∃ bundle report, (export_paper_session plain_sqlite "s1" session_database
          (interrupted_export [(.paper_stream_events, session_row_of_s1)])).phase
        = .exported bundle
      ∧ restore_paper_export_smoke plain_sqlite bundle = .ok report
      ∧ report.restore_status = "verified"
      ∧ ¬ SnapshotConsistent plain_sqlite bundle := by
  refine ⟨_, _, rfl, rfl, rfl, fun h => ?_⟩
  have hcounts := congrArg (fun counts => counts.lookup SessionTable.paper_stream_events) h.counts
  exact absurd hcounts (by decide +kernel)

end ProofAlpha.Execution
