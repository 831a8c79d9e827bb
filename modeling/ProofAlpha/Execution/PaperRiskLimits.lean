/-
The risk limits of a dry-run session of the paper daemon.

The filter lets through intents whose notionals stay within both limits
(`filter_intents_within`). Every artifact then executes all of them, and its rows are kept
apart from those of the others by its id, so a session records the admitted notional once
for each different artifact (`session_notional`). The limits therefore hold of what is
recorded for one artifact, and for several only if the admitted notional leaves room for
them all (`paper_limits_hold_iff`).
-/
import Mathlib.Algebra.Order.BigOperators.Group.List
import ProofAlpha.Execution.PaperDaemon
import ProofAlpha.Lib.CanonicalJson
import ProofAlpha.Strategy.PaperAuthority

set_option autoImplicit false

namespace ProofAlpha.Execution

open ProofAlpha.Lib
open ProofAlpha.Strategy (ArtifactEnv)

section Notional

variable {K : Type} [Field K] [LinearOrder K]

/-! ## Notionals -/

/-- The notional of some intents. -/
def admitted_notional (intents : List (PaperOrderIntent K)) : K :=
  (intents.map PaperOrderIntent.signed_notional).sum

/-- The intents for a symbol. -/
def intents_of (symbol : String) (intents : List (PaperOrderIntent K)) :
    List (PaperOrderIntent K) :=
  intents.filter fun intent => intent.symbol = symbol

/-- The notional of some intents without their signs. -/
def gross_notional (intents : List (PaperOrderIntent K)) : K :=
  (intents.map fun intent => |intent.signed_notional|).sum

section Sums

variable [IsStrictOrderedRing K]

theorem admitted_le_gross (intents : List (PaperOrderIntent K)) :
    admitted_notional intents ≤ gross_notional intents :=
  List.sum_le_sum fun intent _ => le_abs_self intent.signed_notional

theorem gross_notional_nonneg (intents : List (PaperOrderIntent K)) : 0 ≤ gross_notional intents := by
  refine List.sum_nonneg ?_
  intro notional hnotional
  obtain ⟨intent, -, rfl⟩ := List.mem_map.mp hnotional
  exact abs_nonneg _

omit [IsStrictOrderedRing K] in
theorem gross_notional_append (intents : List (PaperOrderIntent K)) (intent : PaperOrderIntent K) :
    gross_notional (intents ++ [intent]) = gross_notional intents + |intent.signed_notional| := by
  unfold gross_notional
  rw [List.map_append, List.sum_append, List.map_singleton, List.sum_singleton]

omit [Field K] [LinearOrder K] [IsStrictOrderedRing K] in
theorem intents_of_append (symbol : String) (intents : List (PaperOrderIntent K))
    (intent : PaperOrderIntent K) :
    intents_of symbol (intents ++ [intent])
      = intents_of symbol intents ++ if intent.symbol = symbol then [intent] else [] := by
  unfold intents_of
  rw [List.filter_append]
  by_cases hsymbol : intent.symbol = symbol
  · simp [hsymbol]
  · simp [hsymbol]

/-! ## The filter -/

/-- The filter's sums are those of what it has let through, and within limits that are
not negative; behind a negative limit nothing gets through. -/
structure FilterWithin (limits : PaperRiskLimits K) (filter : RiskFilter K) : Prop where
  aggregate : filter.aggregate_notional = gross_notional filter.allowed_intents
  exposure : ∀ symbol, (filter.exposure_by_symbol.lookup symbol).getD 0
    = gross_notional (intents_of symbol filter.allowed_intents)
  aggregate_le : 0 ≤ limits.max_aggregate_notional →
    filter.aggregate_notional ≤ limits.max_aggregate_notional
  exposure_le : 0 ≤ limits.max_per_symbol_notional → ∀ symbol,
    (filter.exposure_by_symbol.lookup symbol).getD 0 ≤ limits.max_per_symbol_notional
  nonneg : filter.allowed_intents ≠ [] →
    0 ≤ limits.max_aggregate_notional ∧ 0 ≤ limits.max_per_symbol_notional

omit [IsStrictOrderedRing K] in
theorem filterWithin_initial (limits : PaperRiskLimits K) :
    FilterWithin limits RiskFilter.initial where
  aggregate := rfl
  exposure := by
    intro symbol
    show ((∅ : Dict String K).lookup symbol).getD 0 = _
    rw [AList.lookup_empty]
    rfl
  aggregate_le := id
  exposure_le := by
    intro hlimit symbol
    show ((∅ : Dict String K).lookup symbol).getD 0 ≤ _
    rw [AList.lookup_empty]
    exact hlimit
  nonneg := fun hne => absurd rfl hne

omit [IsStrictOrderedRing K] in
/-- An intent without a reason against it fits under both limits. -/
theorem fits_of_no_reason {intent : PaperOrderIntent K} {snapshot : Option (PaperMarketSnapshot K)}
    {limits : PaperRiskLimits K} {filter : RiskFilter K}
    (h : risk_block_reasons intent snapshot limits filter = []) :
    (filter.exposure_by_symbol.lookup intent.symbol).getD 0 + |intent.signed_notional|
        ≤ limits.max_per_symbol_notional
      ∧ filter.aggregate_notional + |intent.signed_notional| ≤ limits.max_aggregate_notional := by
  unfold risk_block_reasons at h
  simp only [List.append_eq_nil_iff, reason_if_eq_nil, decide_eq_false_iff_not, not_lt] at h
  exact ⟨h.1.1.2, h.1.2⟩

theorem filter_intent_within {limits : PaperRiskLimits K} {filter : RiskFilter K}
    (h : FilterWithin limits filter) (snapshots : Dict String (PaperMarketSnapshot K))
    (intent : PaperOrderIntent K) :
    FilterWithin limits (filter_intent limits snapshots filter intent) := by
  unfold filter_intent
  dsimp only
  by_cases hreasons :
      risk_block_reasons intent (snapshots.lookup intent.symbol) limits filter = []
  · rw [if_neg (not_not.mpr hreasons)]
    obtain ⟨hsymbol, haggregate⟩ := fits_of_no_reason hreasons
    have hexposure : ∀ symbol, ((filter.exposure_by_symbol.insert intent.symbol
        ((filter.exposure_by_symbol.lookup intent.symbol).getD 0 + |intent.signed_notional|)).lookup
          symbol).getD 0 = gross_notional (intents_of symbol (filter.allowed_intents ++ [intent])) := by
      intro symbol
      rw [intents_of_append]
      by_cases hsame : intent.symbol = symbol
      · subst hsame
        rw [AList.lookup_insert, Option.getD_some, if_pos rfl, gross_notional_append, h.exposure]
      · rw [AList.lookup_insert_ne (Ne.symm hsame), if_neg hsame, List.append_nil, h.exposure]
    constructor
    · dsimp only
      rw [gross_notional_append, h.aggregate]
    · exact hexposure
    · exact fun _ => haggregate
    · intro hlimit symbol
      dsimp only
      by_cases hsame : intent.symbol = symbol
      · subst hsame
        rw [AList.lookup_insert]
        exact hsymbol
      · rw [AList.lookup_insert_ne (Ne.symm hsame)]
        exact h.exposure_le hlimit symbol
    · intro _
      rw [h.exposure] at hsymbol
      rw [h.aggregate] at haggregate
      have hnotional := abs_nonneg intent.signed_notional
      exact ⟨le_trans (add_nonneg (gross_notional_nonneg _) hnotional) haggregate,
        le_trans (add_nonneg (gross_notional_nonneg _) hnotional) hsymbol⟩
  · rw [if_pos hreasons]
    exact ⟨h.aggregate, h.exposure, h.aggregate_le, h.exposure_le, h.nonneg⟩

/-- The filter stays within the limits over every list of intents. -/
theorem filter_intents_within (limits : PaperRiskLimits K)
    (snapshots : Dict String (PaperMarketSnapshot K)) (intents : List (PaperOrderIntent K)) :
    FilterWithin limits (intents.foldl (filter_intent limits snapshots) RiskFilter.initial) := by
  induction intents using List.reverseRecOn with
  | nil => exact filterWithin_initial limits
  | append_singleton intents intent ih =>
      rw [List.foldl_append, List.foldl_cons, List.foldl_nil]
      exact filter_intent_within ih snapshots intent

end Sums

end Notional

/-! ## The rows of a session -/

/-- The text behind the last colon of a telemetry id is the ordinal. -/
theorem telemetry_id_inj {session_id id id' : String} {ordinal ordinal' : ℕ}
    (h : session_id ++ ":" ++ (id ++ ":paper:" ++ toString ordinal)
      = session_id ++ ":" ++ (id' ++ ":paper:" ++ toString ordinal')) :
    id = id' ∧ ordinal = ordinal' := by
  have htail := String.append_right_inj _ |>.mp h
  have hdigits : ∀ n : ℕ, ∀ c ∈ (toString n).toList.reverse, (c != ':') = true := by
    intro n c hc
    have hdigit : c.isDigit = true := by
      rw [List.mem_reverse, show (toString n).toList = Nat.toDigits 10 n from Nat.toList_repr] at hc
      exact Nat.isDigit_of_mem_toDigits (by decide) (by decide) hc
    rw [bne_iff_ne]
    rintro rfl
    exact absurd hdigit (by decide)
  have hchars := congrArg (fun text : String => text.toList.reverse) htail
  simp only [String.toList_append, List.reverse_append] at hchars
  obtain ⟨hordinal, hid⟩ := run_inj (hdigits ordinal) (hdigits ordinal')
    (by simp [show ":paper:".toList = [':', 'p', 'a', 'p', 'e', 'r', ':'] from rfl])
    (by simp [show ":paper:".toList = [':', 'p', 'a', 'p', 'e', 'r', ':'] from rfl]) hchars
  refine ⟨String.toList_inj.mp (List.reverse_injective (List.append_cancel_left hid)), ?_⟩
  have hint : (toString (ordinal : ℤ)).toList = (toString (ordinal' : ℤ)).toList :=
    List.reverse_injective hordinal
  exact Int.ofNat.inj (int_text_injective hint)

section Rows

variable {K T : Type} [Field K] [LinearOrder K] [LinearOrder T] (env : ArtifactEnv K T)

/-- The rows that a session records for one artifact. -/
def artifact_session_rows (session_id : String) (intents : List (PaperOrderIntent K))
    (market_snapshots : List (PaperMarketSnapshot K)) (artifact_id : String) :
    List (PaperTelemetry K) :=
  (executor_rows artifact_id intents market_snapshots).map (session_row session_id)

omit [Field K] [LinearOrder K] in
theorem mem_artifact_session_rows {session_id artifact_id : String} {intents : List (PaperOrderIntent K)}
    {market_snapshots : List (PaperMarketSnapshot K)} {row : PaperTelemetry K} :
    row ∈ artifact_session_rows session_id intents market_snapshots artifact_id
      ↔ ∃ intent ordinal, (intent, ordinal) ∈ intents.zipIdx 1
        ∧ row = session_row session_id (telemetry_row artifact_id intent
          ((snapshots_by_symbol market_snapshots).lookup intent.symbol) ordinal) := by
  unfold artifact_session_rows executor_rows
  rw [List.map_map, List.mem_map]
  constructor
  · rintro ⟨⟨intent, ordinal⟩, hmem, rfl⟩
    exact ⟨intent, ordinal, hmem, rfl⟩
  · rintro ⟨intent, ordinal, hmem, rfl⟩
    exact ⟨(intent, ordinal), hmem, rfl⟩

omit [Field K] [LinearOrder K] in
/-- The id of a row tells its artifact and the row. -/
theorem session_rows_id {session_id id id' : String} {intents : List (PaperOrderIntent K)}
    {market_snapshots : List (PaperMarketSnapshot K)} {row row' : PaperTelemetry K}
    (hrow : row ∈ artifact_session_rows session_id intents market_snapshots id)
    (hrow' : row' ∈ artifact_session_rows session_id intents market_snapshots id')
    (h : row.telemetry_id = row'.telemetry_id) : id = id' ∧ row = row' := by
  obtain ⟨intent, ordinal, hmem, rfl⟩ := mem_artifact_session_rows.mp hrow
  obtain ⟨intent', ordinal', hmem', rfl⟩ := mem_artifact_session_rows.mp hrow'
  obtain ⟨rfl, rfl⟩ := telemetry_id_inj h
  have hintent := (List.mk_mem_zipIdx_iff_le_and_getElem?_sub.mp hmem).2
  have hintent' := (List.mk_mem_zipIdx_iff_le_and_getElem?_sub.mp hmem').2
  rw [hintent] at hintent'
  cases hintent'
  exact ⟨rfl, rfl⟩

omit [Field K] [LinearOrder K] in
theorem session_rows_nodup (session_id id : String) (intents : List (PaperOrderIntent K))
    (market_snapshots : List (PaperMarketSnapshot K)) :
    (artifact_session_rows session_id intents market_snapshots id).Nodup := by
  unfold artifact_session_rows executor_rows
  rw [List.map_map]
  refine List.Nodup.map_on ?_ ?_
  · rintro ⟨intent, ordinal⟩ hmem ⟨intent', ordinal'⟩ hmem' h
    have hordinal := (telemetry_id_inj (congrArg PaperTelemetry.telemetry_id h)).2
    dsimp only at hordinal
    subst hordinal
    have hintent := (List.mk_mem_zipIdx_iff_le_and_getElem?_sub.mp hmem).2
    have hintent' := (List.mk_mem_zipIdx_iff_le_and_getElem?_sub.mp hmem').2
    rw [hintent] at hintent'
    cases hintent'
    rfl
  · exact List.Nodup.of_map Prod.snd (by rw [List.zipIdx_map_snd]; exact List.nodup_range')

/-- An execution that goes through gives the rows of its artifact. -/
theorem run_paper_executor_fixture_ok {loaded : LoadedArtifact K T}
    {order_intents : List (PaperOrderIntent K)} {market_snapshots : List (PaperMarketSnapshot K)}
    {rows : List (PaperTelemetry K)}
    (h : run_paper_executor_fixture env loaded order_intents market_snapshots = .ok rows) :
    rows = executor_rows (artifact_id env loaded) order_intents market_snapshots := by
  unfold run_paper_executor_fixture at h
  dsimp only at h
  split at h
  · split_ifs at h
    exact (Except.ok.inj h).symm
  · cases h
  · cases h

/-- A session that goes through has recorded the rows of every artifact. -/
theorem session_table {session_id : String} {limits : PaperRiskLimits K}
    {order_intents : List (PaperOrderIntent K)} {market_snapshots : List (PaperMarketSnapshot K)}
    {artifacts : List (LoadedArtifact K T)} {table : Dict String (PaperTelemetry K)}
    (h : run_paper_daemon_dry_run env session_id limits artifacts order_intents market_snapshots
      = .ok table) :
    table = record_paper_execution_result ∅ ((artifacts.map (artifact_id env)).flatMap
      (artifact_session_rows session_id (allowed_intents limits order_intents market_snapshots)
        market_snapshots)) := by
  unfold run_paper_daemon_dry_run at h
  dsimp only at h
  generalize allowed_intents limits order_intents market_snapshots = allowed at h ⊢
  generalize (∅ : Dict String (PaperTelemetry K)) = before at h ⊢
  induction artifacts generalizing before with
  | nil => exact (Except.ok.inj h).symm
  | cons loaded artifacts ih =>
      rw [List.foldlM_cons] at h
      obtain ⟨after, hafter, h⟩ := bind_ok h
      obtain ⟨rows, hrows, hafter⟩ := bind_ok hafter
      have hrows := run_paper_executor_fixture_ok env hrows
      subst hrows
      have hafter : record_paper_execution_result before
          (artifact_session_rows session_id allowed market_snapshots (artifact_id env loaded)) = after :=
        Except.ok.inj hafter
      rw [ih after h, ← hafter, List.map_cons, List.flatMap_cons]
      unfold record_paper_execution_result
      rw [List.foldl_append]

/-! ## What is recorded -/

/-- The submitted quantity times the expected price, summed over some rows. -/
def rows_notional (rows : List (PaperTelemetry K)) : K :=
  (rows.map fun row => row.qty_submitted * row.expected_price).sum

/-- The rows of a table for a symbol. -/
def rows_of (symbol : String) (rows : List (PaperTelemetry K)) : List (PaperTelemetry K) :=
  rows.filter fun row => row.symbol = symbol

/-- The recorded notional is within both limits. -/
def LimitsHold (limits : PaperRiskLimits K) (table : Dict String (PaperTelemetry K)) : Prop :=
  rows_notional (Dict.values table) ≤ limits.max_aggregate_notional
    ∧ ∀ symbol, rows_notional (rows_of symbol (Dict.values table)) ≤ limits.max_per_symbol_notional

/-- The number of different artifact ids. -/
def distinct_artifacts (artifacts : List (LoadedArtifact K T)) : ℕ :=
  (artifacts.map (artifact_id env)).dedup.length

omit [LinearOrder K] in
/-- One artifact's rows carry the notional of the intents. -/
theorem session_rows_notional (session_id id : String) (intents : List (PaperOrderIntent K))
    (market_snapshots : List (PaperMarketSnapshot K)) :
    rows_notional (artifact_session_rows session_id intents market_snapshots id)
      = admitted_notional intents := by
  have hnumbered : intents = (intents.zipIdx 1).map Prod.fst := (List.zipIdx_map_fst 1 intents).symm
  unfold rows_notional artifact_session_rows executor_rows admitted_notional
  conv_rhs => rw [hnumbered]
  rw [List.map_map, List.map_map, List.map_map]
  rfl

omit [LinearOrder K] in
theorem session_rows_symbol_notional (session_id id symbol : String)
    (intents : List (PaperOrderIntent K)) (market_snapshots : List (PaperMarketSnapshot K)) :
    rows_notional (rows_of symbol (artifact_session_rows session_id intents market_snapshots id))
      = admitted_notional (intents_of symbol intents) := by
  have hnumbered : intents = (intents.zipIdx 1).map Prod.fst := (List.zipIdx_map_fst 1 intents).symm
  unfold rows_notional rows_of artifact_session_rows executor_rows admitted_notional intents_of
  conv_rhs => rw [hnumbered]
  rw [List.map_map, List.filter_map, List.filter_map, List.map_map, List.map_map]
  rfl

/-- A table of a session holds the rows of each different artifact once. -/
theorem session_values_perm {session_id : String} {limits : PaperRiskLimits K}
    {order_intents : List (PaperOrderIntent K)} {market_snapshots : List (PaperMarketSnapshot K)}
    {artifacts : List (LoadedArtifact K T)} {table : Dict String (PaperTelemetry K)}
    (h : run_paper_daemon_dry_run env session_id limits artifacts order_intents market_snapshots
      = .ok table) :
    (Dict.values table).Perm ((artifacts.map (artifact_id env)).dedup.flatMap
      (artifact_session_rows session_id (allowed_intents limits order_intents market_snapshots)
        market_snapshots)) := by
  rw [session_table env h]
  unfold record_paper_execution_result
  refine Dict.values_foldl_insert_perm ?_ ?_ ?_
  · intro row hrow row' hrow' hid
    obtain ⟨id, -, hrow⟩ := List.mem_flatMap.mp hrow
    obtain ⟨id', -, hrow'⟩ := List.mem_flatMap.mp hrow'
    exact (session_rows_id hrow hrow' hid).2
  · refine List.nodup_flatMap.mpr ⟨fun id _ => session_rows_nodup _ id _ _, ?_⟩
    refine (List.nodup_dedup _).imp ?_
    intro id id' hne row hrow hrow'
    exact hne (session_rows_id hrow hrow' rfl).1
  · intro row
    simp only [List.mem_flatMap, List.mem_dedup]

omit [LinearOrder K] in
/-- Rows of some artifacts that each carry one notional. -/
theorem rows_notional_flatMap {rows : String → List (PaperTelemetry K)} {notional : K}
    (h : ∀ id, rows_notional (rows id) = notional) (ids : List String) :
    rows_notional (ids.flatMap rows) = ids.length * notional := by
  induction ids with
  | nil => simp [rows_notional]
  | cons id ids ih =>
      have hsplit : rows_notional ((id :: ids).flatMap rows)
          = rows_notional (rows id) + rows_notional (ids.flatMap rows) := by
        unfold rows_notional
        rw [List.flatMap_cons, List.map_append, List.sum_append]
      rw [hsplit, h id, ih, List.length_cons, Nat.cast_succ, add_mul, one_mul, add_comm]

/-- A session records the admitted notional once for each different artifact. -/
theorem session_notional {session_id : String} {limits : PaperRiskLimits K}
    {order_intents : List (PaperOrderIntent K)} {market_snapshots : List (PaperMarketSnapshot K)}
    {artifacts : List (LoadedArtifact K T)} {table : Dict String (PaperTelemetry K)}
    (h : run_paper_daemon_dry_run env session_id limits artifacts order_intents market_snapshots
      = .ok table) :
    rows_notional (Dict.values table) = distinct_artifacts env artifacts
        * admitted_notional (allowed_intents limits order_intents market_snapshots)
      ∧ ∀ symbol, rows_notional (rows_of symbol (Dict.values table))
        = distinct_artifacts env artifacts * admitted_notional (intents_of symbol
          (allowed_intents limits order_intents market_snapshots)) := by
  have hperm := session_values_perm env h
  constructor
  · have hsum := (hperm.map fun row => row.qty_submitted * row.expected_price).sum_eq
    refine hsum.trans ?_
    exact rows_notional_flatMap (fun id => session_rows_notional session_id id _ _) _
  · intro symbol
    have hfilter := hperm.filter fun row => decide (row.symbol = symbol)
    have hsum := (hfilter.map fun row => row.qty_submitted * row.expected_price).sum_eq
    refine hsum.trans ?_
    rw [List.filter_flatMap]
    exact rows_notional_flatMap (fun id => session_rows_symbol_notional session_id id symbol _ _) _

/-! ## The limits -/

variable [IsStrictOrderedRing K]

/-- What the filter admits is within limits that are not negative. -/
theorem admitted_within (limits : PaperRiskLimits K) (order_intents : List (PaperOrderIntent K))
    (market_snapshots : List (PaperMarketSnapshot K))
    (haggregate : 0 ≤ limits.max_aggregate_notional)
    (hsymbol : 0 ≤ limits.max_per_symbol_notional) :
    admitted_notional (allowed_intents limits order_intents market_snapshots)
        ≤ limits.max_aggregate_notional
      ∧ ∀ symbol, admitted_notional (intents_of symbol
          (allowed_intents limits order_intents market_snapshots)) ≤ limits.max_per_symbol_notional := by
  have hwithin := filter_intents_within limits (snapshots_by_symbol market_snapshots) order_intents
  constructor
  · refine le_trans (admitted_le_gross _) ?_
    exact hwithin.aggregate.symm.trans_le (hwithin.aggregate_le haggregate)
  · intro symbol
    refine le_trans (admitted_le_gross _) ?_
    exact (hwithin.exposure symbol).symm.trans_le (hwithin.exposure_le hsymbol symbol)

/-- What a session records is within the limits if and only if these are not negative,
and there is one artifact id at most or the admitted notional fits once for each of them. -/
theorem paper_limits_hold_iff {session_id : String} {limits : PaperRiskLimits K}
    {order_intents : List (PaperOrderIntent K)} {market_snapshots : List (PaperMarketSnapshot K)}
    {artifacts : List (LoadedArtifact K T)} {table : Dict String (PaperTelemetry K)}
    (h : run_paper_daemon_dry_run env session_id limits artifacts order_intents market_snapshots
      = .ok table) :
    LimitsHold limits table
      ↔ 0 ≤ limits.max_aggregate_notional ∧ 0 ≤ limits.max_per_symbol_notional
        ∧ (distinct_artifacts env artifacts ≤ 1
          ∨ (distinct_artifacts env artifacts
                * admitted_notional (allowed_intents limits order_intents market_snapshots)
              ≤ limits.max_aggregate_notional
            ∧ ∀ symbol, distinct_artifacts env artifacts * admitted_notional (intents_of symbol
                (allowed_intents limits order_intents market_snapshots))
              ≤ limits.max_per_symbol_notional)) := by
  obtain ⟨htotal, hsymbols⟩ := session_notional env h
  unfold LimitsHold
  rw [htotal]
  simp only [hsymbols]
  have hwithin := filter_intents_within limits (snapshots_by_symbol market_snapshots) order_intents
  constructor
  · rintro ⟨haggregate, hsymbol⟩
    -- behind a negative limit nothing is admitted, and the sums are zero
    by_cases hnone : allowed_intents limits order_intents market_snapshots = []
    · have hzero := haggregate
      have hzero_symbol := hsymbol ""
      rw [hnone] at hzero hzero_symbol
      simp only [admitted_notional, intents_of, List.filter_nil, List.map_nil, List.sum_nil,
        mul_zero] at hzero hzero_symbol
      exact ⟨hzero, hzero_symbol, Or.inr ⟨haggregate, hsymbol⟩⟩
    · obtain ⟨hlimit, hlimit_symbol⟩ := hwithin.nonneg hnone
      exact ⟨hlimit, hlimit_symbol, Or.inr ⟨haggregate, hsymbol⟩⟩
  · rintro ⟨hlimit, hlimit_symbol, hone | hfits⟩
    · obtain ⟨haggregate, hsymbol⟩ :=
        admitted_within limits order_intents market_snapshots hlimit hlimit_symbol
      -- no artifact records nothing, one records what is admitted
      obtain hzero | hsame : distinct_artifacts env artifacts = 0
          ∨ distinct_artifacts env artifacts = 1 := by omega
      · simp only [hzero, Nat.cast_zero, zero_mul]
        exact ⟨hlimit, fun _ => hlimit_symbol⟩
      · simp only [hsame, Nat.cast_one, one_mul]
        exact ⟨haggregate, hsymbol⟩
    · exact hfits

end Rows

/-! ## Two artifacts under one budget -/

open ProofAlpha.Strategy

/-- The approved artifact under another id. -/
def twin_artifact : JsonObject ℚ :=
  (build_strategy_artifact Strategy.plain_env
    (set_field (Strategy.plain_payload true) "artifact_id" (.str "artifact-b"))).getD []

theorem accepted_twin_artifact : Strategy.Accepted Strategy.plain_env Strategy.plain_clock twin_artifact := by
  have hbuilt : (build_strategy_artifact Strategy.plain_env
      (set_field (Strategy.plain_payload true) "artifact_id" (.str "artifact-b"))).isSome = true := by
    decide +kernel
  obtain ⟨artifact, hartifact⟩ := Option.isSome_iff_exists.mp hbuilt
  have htwin : twin_artifact = artifact := by rw [twin_artifact, hartifact, Option.getD_some]
  refine (accepted_iff _ _ _).mpr ⟨⟨is_text_iff.mp (by decide +kernel), by decide +kernel⟩, Or.inr ?_⟩
  rw [htwin]
  exact hash_text_of_str Strategy.plain_env (artifact_sha256_build_strategy_artifact Strategy.plain_env hartifact)

/-- One and a half bitcoin at 100. -/
def one_intent : List (PaperOrderIntent ℚ) := [⟨"BTCUSDT", "BUY", 3 / 2, 100, false⟩]

/-- A narrow book. -/
def one_snapshot : List (PaperMarketSnapshot ℚ) :=
  [⟨"2026-05-07T00:00:00Z", "BTCUSDT", 999 / 10, 1001 / 10, 5, 10⟩]

/-- Up to 250 in total. -/
def small_limits : PaperRiskLimits ℚ := ⟨250, 250, 25, 0⟩

/-- An accepted artifact that has not expired is executed. -/
theorem executed_of_accepted {artifact : JsonObject ℚ}
    (haccepted : Strategy.Accepted Strategy.plain_env Strategy.plain_clock artifact)
    (hfresh : (match from_dict Strategy.plain_env (JsonObject.get artifact "promotion_manifest") with
      | .ok manifest => is_expired Strategy.plain_env Strategy.plain_clock manifest.expiry_time_utc
          (some "2026-05-07T00:00:00Z")
      | .error _ => true) = false)
    {order_intents : List (PaperOrderIntent ℚ)} {market_snapshots : List (PaperMarketSnapshot ℚ)}
    (hreduce : order_intents.all PaperOrderIntent.reduce_only = false)
    (hnow : market_snapshots.head?.map PaperMarketSnapshot.ts = some "2026-05-07T00:00:00Z") :
    run_paper_executor_fixture Strategy.plain_env ⟨artifact, Strategy.plain_clock, Strategy.plain_clock⟩
        order_intents market_snapshots
      = .ok (executor_rows (artifact_id Strategy.plain_env ⟨artifact, Strategy.plain_clock, Strategy.plain_clock⟩)
        order_intents market_snapshots) := by
  obtain ⟨manifest, expected, hmanifest⟩ :=
    manifest_accepted Strategy.plain_env ((accepted_iff _ _ _).mp haccepted).1
  rw [hmanifest.read] at hfresh
  obtain ⟨decision, hdecision, hallowed⟩ := paper_authority_decision_accepted Strategy.plain_env
    Strategy.plain_clock (some "2026-05-07T00:00:00Z") false haccepted hmanifest.read
  unfold run_paper_executor_fixture
  dsimp only
  rw [hreduce, hnow, hdecision]
  dsimp only
  rw [if_pos (hallowed.mpr (Or.inl hfresh))]

/-- The sessions of the approved artifact, alone or with its twin. -/
def alone : List (LoadedArtifact ℚ ℕ) := [⟨plain_artifact, Strategy.plain_clock, Strategy.plain_clock⟩]

def with_twin : List (LoadedArtifact ℚ ℕ) :=
  [⟨plain_artifact, Strategy.plain_clock, Strategy.plain_clock⟩, ⟨twin_artifact, Strategy.plain_clock, Strategy.plain_clock⟩]

theorem allowed_one_intent : allowed_intents small_limits one_intent one_snapshot = one_intent := by
  decide +kernel

theorem plain_artifact_executed :
    run_paper_executor_fixture Strategy.plain_env ⟨plain_artifact, Strategy.plain_clock, Strategy.plain_clock⟩ one_intent
      one_snapshot = .ok (executor_rows (artifact_id Strategy.plain_env
        ⟨plain_artifact, Strategy.plain_clock, Strategy.plain_clock⟩) one_intent one_snapshot) :=
  executed_of_accepted accepted_plain_artifact (by decide +kernel) rfl rfl

theorem twin_artifact_executed :
    run_paper_executor_fixture Strategy.plain_env ⟨twin_artifact, Strategy.plain_clock, Strategy.plain_clock⟩ one_intent
      one_snapshot = .ok (executor_rows (artifact_id Strategy.plain_env
        ⟨twin_artifact, Strategy.plain_clock, Strategy.plain_clock⟩) one_intent one_snapshot) :=
  executed_of_accepted accepted_twin_artifact (by decide +kernel) rfl rfl

/-- Alone, the artifact records 150, within the limits. -/
theorem paper_limits_hold_alone :
    ∃ table, run_paper_daemon_dry_run Strategy.plain_env "session-1" small_limits alone one_intent
        one_snapshot = .ok table ∧ LimitsHold small_limits table := by
  have hrun : ∃ table, run_paper_daemon_dry_run Strategy.plain_env "session-1" small_limits alone one_intent
      one_snapshot = .ok table := by
    unfold run_paper_daemon_dry_run alone
    simp only [allowed_one_intent, List.foldlM_cons, List.foldlM_nil, plain_artifact_executed]
    exact ⟨_, rfl⟩
  obtain ⟨table, htable⟩ := hrun
  exact ⟨table, htable, (paper_limits_hold_iff Strategy.plain_env htable).mpr
    ⟨by decide +kernel, by decide +kernel, Or.inl (by decide +kernel)⟩⟩

/-- With its twin, the session records 300 under limits of 250. -/
theorem paper_limits_exceeded_by_twin :
    ∃ table, run_paper_daemon_dry_run Strategy.plain_env "session-1" small_limits with_twin one_intent
        one_snapshot = .ok table
      ∧ rows_notional (Dict.values table) = 300 ∧ ¬ LimitsHold small_limits table := by
  have hrun : ∃ table, run_paper_daemon_dry_run Strategy.plain_env "session-1" small_limits with_twin
      one_intent one_snapshot = .ok table := by
    unfold run_paper_daemon_dry_run with_twin
    simp only [allowed_one_intent, List.foldlM_cons, List.foldlM_nil, plain_artifact_executed,
      twin_artifact_executed]
    exact ⟨_, rfl⟩
  obtain ⟨table, htable⟩ := hrun
  have hartifacts : distinct_artifacts Strategy.plain_env with_twin = 2 := by decide +kernel
  have htotal : rows_notional (Dict.values table) = 300 := by
    rw [(session_notional Strategy.plain_env htable).1, hartifacts, allowed_one_intent]
    decide +kernel
  refine ⟨table, htable, htotal, fun hlimits => ?_⟩
  have hle := hlimits.1
  rw [htotal] at hle
  exact absurd hle (by decide +kernel)

end ProofAlpha.Execution
