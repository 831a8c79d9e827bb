/-
Weights by expected return: `portfolio/strategy_allocator.py`.

Every candidate gets its share of the total expected return, up to a maximum. The capped
shares are then divided by their sum, so that the weights add up to one again. When a share
has been cut, the sum is below one and the division brings the weights back above the
maximum (`tilt_respected_iff`).
-/
import Mathlib.Algebra.Order.BigOperators.Group.List
import Mathlib.Data.Rat.Floor
import ProofAlpha.Lib.PyDict
import ProofAlpha.Lib.RoundingBounds
import ProofAlpha.Portfolio.Allocator

set_option autoImplicit false

namespace ProofAlpha.Portfolio

open ProofAlpha.Lib

variable {K : Type} [Field K] [LinearOrder K]

/-! ## The tilt -/

/-- `positive`. -/
def positive_candidates (candidates : List (PortfolioArtifactCandidate K)) :
    List (PortfolioArtifactCandidate K) :=
  candidates.filter fun candidate =>
    decide (0 < candidate.expected_return_bps) && candidate.approved

/-- `total_score`. -/
def total_score (candidates : List (PortfolioArtifactCandidate K)) : K :=
  ((positive_candidates candidates).map PortfolioArtifactCandidate.expected_return_bps).sum

/-- A candidate's part of the total. -/
def score_share (candidates : List (PortfolioArtifactCandidate K))
    (candidate : PortfolioArtifactCandidate K) : K :=
  candidate.expected_return_bps / total_score candidates

/-- The part that a candidate is given before the weights are normalised. -/
def capped_share (candidates : List (PortfolioArtifactCandidate K)) (max_weight : K)
    (candidate : PortfolioArtifactCandidate K) : K :=
  min max_weight (score_share candidates candidate)

/-- `weights`. -/
def capped_weights (candidates : List (PortfolioArtifactCandidate K)) (max_weight : K) :
    Dict String K :=
  (positive_candidates candidates).foldl (fun weights candidate =>
    weights.insert candidate.artifact_id (capped_share candidates max_weight candidate)) ∅

/-- `constrained_score_tilt`. -/
def constrained_score_tilt [FloorRing K] (candidates : List (PortfolioArtifactCandidate K))
    (max_weight : K) : List (String × K) :=
  if total_score candidates ≤ 0 then []
  else
    let weights := capped_weights candidates max_weight
    let normalizer := (Dict.values weights).sum
    if normalizer ≤ 0 then []
    else (Dict.sorted_items weights).map fun item => (item.1, pyRound (item.2 / normalizer) 12)

/-! ## What it promises -/

/-- No weight is above the maximum, the weights add up to at most one and half a unit of the
12th digit for each of them, and a higher return has no lower weight. -/
structure TiltRespected [FloorRing K] (candidates : List (PortfolioArtifactCandidate K))
    (max_weight : K) : Prop where
  cap : ∀ item ∈ constrained_score_tilt candidates max_weight, item.2 ≤ max_weight
  total : ((constrained_score_tilt candidates max_weight).map Prod.snd).sum
    ≤ 1 + (constrained_score_tilt candidates max_weight).length * (1 / 2 / 10 ^ 12)
  ordered : ∀ low ∈ candidates, ∀ high ∈ candidates,
    low.expected_return_bps ≤ high.expected_return_bps →
    ∀ low_weight high_weight,
      (low.artifact_id, low_weight) ∈ constrained_score_tilt candidates max_weight →
      (high.artifact_id, high_weight) ∈ constrained_score_tilt candidates max_weight →
        low_weight ≤ high_weight

/-- The sum of the capped shares. -/
def capped_total (candidates : List (PortfolioArtifactCandidate K)) (max_weight : K) : K :=
  ((positive_candidates candidates).map (capped_share candidates max_weight)).sum

/-- No share is above the maximum, and none is rounded up past it; or some share is, and the
maximum over the sum of the capped shares is rounded down to it. -/
def SharesWithinCap [FloorRing K] (candidates : List (PortfolioArtifactCandidate K))
    (max_weight : K) : Prop :=
  if ∀ candidate ∈ positive_candidates candidates, score_share candidates candidate ≤ max_weight then
    ∀ candidate ∈ positive_candidates candidates,
      RoundsDownTo ⌊max_weight * 10 ^ 12⌋ (score_share candidates candidate * 10 ^ 12)
  else
    RoundsDownTo ⌊max_weight * 10 ^ 12⌋
      (max_weight / capped_total candidates max_weight * 10 ^ 12)

/-! ## The shares -/

section Shares

variable [IsStrictOrderedRing K] {candidates : List (PortfolioArtifactCandidate K)} {max_weight : K}

omit [IsStrictOrderedRing K] in
theorem mem_positive_candidates {candidate : PortfolioArtifactCandidate K} :
    candidate ∈ positive_candidates candidates
      ↔ candidate ∈ candidates ∧ 0 < candidate.expected_return_bps ∧ candidate.approved = true := by
  unfold positive_candidates
  rw [List.mem_filter, Bool.and_eq_true, decide_eq_true_eq]

theorem total_score_pos (hne : positive_candidates candidates ≠ []) : 0 < total_score candidates := by
  unfold total_score
  refine List.sum_pos _ (fun score hscore => ?_) (by simpa using hne)
  obtain ⟨candidate, hcandidate, rfl⟩ := List.mem_map.mp hscore
  exact (mem_positive_candidates.mp hcandidate).2.1

theorem score_share_pos {candidate : PortfolioArtifactCandidate K}
    (h : candidate ∈ positive_candidates candidates) : 0 < score_share candidates candidate :=
  div_pos (mem_positive_candidates.mp h).2.1 (total_score_pos (List.ne_nil_of_mem h))

/-- The shares add up to one. -/
theorem sum_score_share (hne : positive_candidates candidates ≠ []) :
    ((positive_candidates candidates).map (score_share candidates)).sum = 1 := by
  have hshare : score_share candidates
      = fun candidate => candidate.expected_return_bps * (total_score candidates)⁻¹ := by
    funext candidate
    exact div_eq_mul_inv _ _
  rw [hshare, List.sum_map_mul_right]
  exact mul_inv_cancel₀ (total_score_pos hne).ne'

theorem capped_share_pos (hmax : 0 < max_weight) {candidate : PortfolioArtifactCandidate K}
    (h : candidate ∈ positive_candidates candidates) :
    0 < capped_share candidates max_weight candidate :=
  lt_min hmax (score_share_pos h)

theorem capped_total_pos (hmax : 0 < max_weight) (hne : positive_candidates candidates ≠ []) :
    0 < capped_total candidates max_weight := by
  unfold capped_total
  refine List.sum_pos _ (fun weight hweight => ?_) (by simpa using hne)
  obtain ⟨candidate, hcandidate, rfl⟩ := List.mem_map.mp hweight
  exact capped_share_pos hmax hcandidate

/-- Where no share is cut, nothing is left to normalise. -/
theorem capped_total_of_le (hne : positive_candidates candidates ≠ [])
    (h : ∀ candidate ∈ positive_candidates candidates,
      score_share candidates candidate ≤ max_weight) : capped_total candidates max_weight = 1 := by
  have huncut : (positive_candidates candidates).map (capped_share candidates max_weight)
      = (positive_candidates candidates).map (score_share candidates) :=
    List.map_congr_left fun candidate hcandidate => min_eq_right (h candidate hcandidate)
  rw [capped_total, huncut, sum_score_share hne]

end Shares

/-! ## The weights -/

section Weights

variable [IsStrictOrderedRing K] [FloorRing K]
  {candidates : List (PortfolioArtifactCandidate K)}
  (hids : (candidates.map PortfolioArtifactCandidate.artifact_id).Nodup)
  {max_weight : K} (hmax : 0 < max_weight)

/-- The weight of a candidate. -/
def tilt_weight (candidates : List (PortfolioArtifactCandidate K)) (max_weight : K)
    (candidate : PortfolioArtifactCandidate K) : K :=
  pyRound (capped_share candidates max_weight candidate / capped_total candidates max_weight) 12

include hids

omit [IsStrictOrderedRing K] [FloorRing K] in
theorem positive_ids_nodup :
    ((positive_candidates candidates).map PortfolioArtifactCandidate.artifact_id).Nodup :=
  hids.sublist (List.filter_sublist.map _)

omit [IsStrictOrderedRing K] [FloorRing K] in
theorem values_capped_weights :
    Dict.values (capped_weights candidates max_weight)
      = ((positive_candidates candidates).map (capped_share candidates max_weight)).reverse := by
  unfold capped_weights
  rw [Dict.values_foldl_insert _ _ _ ∅ (positive_ids_nodup hids)
    fun candidate _ => AList.notMem_empty _, Dict.values_empty, List.append_nil]

include hmax

/-- The weights of the tilt are those of the dict, rounded. -/
theorem constrained_score_tilt_eq :
    constrained_score_tilt candidates max_weight
      = (Dict.sorted_items (capped_weights candidates max_weight)).map fun item =>
          (item.1, pyRound (item.2 / capped_total candidates max_weight) 12) := by
  have hnormalizer : (Dict.values (capped_weights candidates max_weight)).sum
      = capped_total candidates max_weight := by
    rw [values_capped_weights hids, List.sum_reverse, capped_total]
  unfold constrained_score_tilt
  dsimp only
  rw [hnormalizer]
  by_cases hne : positive_candidates candidates = []
  · -- without a positive candidate both sides are empty
    have htotal : total_score candidates = 0 := by
      rw [total_score, hne]
      rfl
    have hweights : capped_weights candidates max_weight = ∅ := by
      rw [capped_weights, hne]
      rfl
    rw [if_pos htotal.le, hweights]
    rfl
  · rw [if_neg (total_score_pos hne).not_ge]
    exact if_neg (capped_total_pos hmax hne).not_ge

theorem mem_constrained_score_tilt {artifact_id : String} {weight : K} :
    (artifact_id, weight) ∈ constrained_score_tilt candidates max_weight
      ↔ ∃ candidate ∈ positive_candidates candidates, candidate.artifact_id = artifact_id
        ∧ tilt_weight candidates max_weight candidate = weight := by
  rw [constrained_score_tilt_eq hids hmax, List.mem_map]
  constructor
  · rintro ⟨⟨key, value⟩, hitem, heq⟩
    obtain ⟨candidate, hcandidate, hkey, hvalue⟩ :=
      (Dict.lookup_foldl_insert_of_nodup (positive_ids_nodup hids)).mp
        (Dict.mem_sorted_items.mp hitem)
    cases heq
    exact ⟨candidate, hcandidate, hkey, by rw [tilt_weight, hvalue]⟩
  · rintro ⟨candidate, hcandidate, rfl, rfl⟩
    refine ⟨(candidate.artifact_id, capped_share candidates max_weight candidate), ?_, rfl⟩
    exact Dict.mem_sorted_items.mpr ((Dict.lookup_foldl_insert_of_nodup
      (positive_ids_nodup hids)).mpr ⟨candidate, hcandidate, rfl, rfl⟩)

/-- The weights are those of the candidates, in another order. -/
theorem tilt_values_perm :
    ((constrained_score_tilt candidates max_weight).map Prod.snd).Perm
      ((positive_candidates candidates).map (tilt_weight candidates max_weight)) := by
  let normalised := fun value : K => pyRound (value / capped_total candidates max_weight) 12
  have hvalues : (positive_candidates candidates).map (tilt_weight candidates max_weight)
      = ((positive_candidates candidates).map (capped_share candidates max_weight)).map
        normalised := by
    rw [List.map_map]
    rfl
  have hitems : ((Dict.sorted_items (capped_weights candidates max_weight)).map Prod.snd).Perm
      (Dict.values (capped_weights candidates max_weight)) := by
    unfold Dict.sorted_items Dict.values
    refine ((List.perm_insertionSort _ _).map _).trans (List.Perm.of_eq ?_)
    rw [List.map_map]
    rfl
  rw [constrained_score_tilt_eq hids hmax, hvalues, List.map_map]
  have hperm := (hitems.trans (List.Perm.of_eq (values_capped_weights hids))).trans
    (List.reverse_perm _)
  have hmapped := hperm.map normalised
  rw [List.map_map] at hmapped
  exact hmapped

/-- A weight is within the maximum when its normalised share is rounded down to it. -/
theorem cap_iff :
    (∀ item ∈ constrained_score_tilt candidates max_weight, item.2 ≤ max_weight)
      ↔ ∀ candidate ∈ positive_candidates candidates,
        tilt_weight candidates max_weight candidate ≤ max_weight := by
  constructor
  · intro h candidate hcandidate
    exact h (candidate.artifact_id, _)
      ((mem_constrained_score_tilt hids hmax).mpr ⟨candidate, hcandidate, rfl, rfl⟩)
  · rintro h ⟨artifact_id, weight⟩ hitem
    obtain ⟨candidate, hcandidate, -, hweight⟩ := (mem_constrained_score_tilt hids hmax).mp hitem
    exact hweight ▸ h candidate hcandidate

omit hids in
/-- Every weight is within the maximum exactly when `SharesWithinCap` holds. -/
theorem tilt_weight_le_iff :
    (∀ candidate ∈ positive_candidates candidates,
        tilt_weight candidates max_weight candidate ≤ max_weight)
      ↔ SharesWithinCap candidates max_weight := by
  unfold SharesWithinCap
  split_ifs with hshares
  · refine forall₂_congr fun candidate hcandidate => ?_
    rw [tilt_weight, capped_share, min_eq_right (hshares candidate hcandidate),
      capped_total_of_le (List.ne_nil_of_mem hcandidate) hshares, div_one, pyRound_le_iff]
  · simp only [not_forall, not_le] at hshares
    obtain ⟨largest, hlargest, hcut⟩ := hshares
    have hpos := capped_total_pos hmax (List.ne_nil_of_mem hlargest)
    rw [← pyRound_le_iff]
    constructor
    · intro h
      have hweight := h largest hlargest
      rwa [tilt_weight, capped_share, min_eq_left hcut.le] at hweight
    · -- the weight of a cut share is the highest one
      intro h candidate _
      refine le_trans (pyRound_mono ?_ 12) h
      exact div_le_div_of_nonneg_right (min_le_left _ _) hpos.le

/-- The weights add up to at most one and their roundings. -/
theorem tilt_total_le :
    ((constrained_score_tilt candidates max_weight).map Prod.snd).sum
      ≤ 1 + (constrained_score_tilt candidates max_weight).length * (1 / 2 / 10 ^ 12) := by
  have hperm := tilt_values_perm hids hmax
  have hlength : (constrained_score_tilt candidates max_weight).length
      = (positive_candidates candidates).length := by
    have h := hperm.length_eq
    rwa [List.length_map, List.length_map] at h
  rw [hperm.sum_eq, hlength]
  by_cases hne : positive_candidates candidates = []
  · rw [hne]
    simp
  · have hpos := capped_total_pos hmax hne
    calc ((positive_candidates candidates).map (tilt_weight candidates max_weight)).sum
        ≤ ((positive_candidates candidates).map fun candidate =>
            capped_share candidates max_weight candidate * (capped_total candidates max_weight)⁻¹
              + 1 / 2 / 10 ^ 12).sum := by
          refine List.sum_le_sum fun candidate _ => ?_
          have hround := (abs_le.mp (abs_pyRound_sub_le
            (capped_share candidates max_weight candidate / capped_total candidates max_weight)
            12)).2
          rw [← div_eq_mul_inv, tilt_weight]
          linarith
      _ = 1 + (positive_candidates candidates).length * (1 / 2 / 10 ^ 12) := by
          rw [List.sum_map_add, List.sum_map_mul_right, ← capped_total, mul_inv_cancel₀ hpos.ne',
            List.map_const', List.sum_replicate, nsmul_eq_mul]

/-- A higher return has no lower weight. -/
theorem tilt_ordered {low high : PortfolioArtifactCandidate K} (hlow : low ∈ candidates)
    (hhigh : high ∈ candidates) (hreturn : low.expected_return_bps ≤ high.expected_return_bps)
    {low_weight high_weight : K}
    (hlow_weight : (low.artifact_id, low_weight) ∈ constrained_score_tilt candidates max_weight)
    (hhigh_weight : (high.artifact_id, high_weight) ∈ constrained_score_tilt candidates max_weight) :
    low_weight ≤ high_weight := by
  obtain ⟨first, hfirst, hfirst_id, rfl⟩ := (mem_constrained_score_tilt hids hmax).mp hlow_weight
  obtain ⟨second, hsecond, hsecond_id, rfl⟩ := (mem_constrained_score_tilt hids hmax).mp hhigh_weight
  -- the ids are distinct, so these are the two candidates themselves
  have hfirst_eq := List.inj_on_of_nodup_map hids (mem_positive_candidates.mp hfirst).1 hlow hfirst_id
  have hsecond_eq :=
    List.inj_on_of_nodup_map hids (mem_positive_candidates.mp hsecond).1 hhigh hsecond_id
  subst hfirst_eq hsecond_eq
  have hne := List.ne_nil_of_mem hfirst
  have hshares : score_share candidates first ≤ score_share candidates second :=
    div_le_div_of_nonneg_right hreturn (total_score_pos hne).le
  refine pyRound_mono (div_le_div_of_nonneg_right ?_ (capped_total_pos hmax hne).le) 12
  exact min_le_min_left max_weight hshares

/-- The tilt keeps what it promises if and only if no share of the total return is above the
maximum or rounded up past it, or the maximum over what is left of the cut shares is rounded
down to it. -/
theorem tilt_respected_iff :
    TiltRespected candidates max_weight ↔ SharesWithinCap candidates max_weight := by
  rw [← tilt_weight_le_iff hmax, ← cap_iff hids hmax]
  constructor
  · exact TiltRespected.cap
  · intro hcap
    exact ⟨hcap, tilt_total_le hids hmax, fun low hlow high hhigh hreturn _ _ hlow_weight
      hhigh_weight => tilt_ordered hids hmax hlow hhigh hreturn hlow_weight hhigh_weight⟩

end Weights

/-! ## A single strategy -/

/-- An approved candidate with the given return. -/
def scored_candidate (artifact_id : String) (expected_return_bps : ℚ) :
    PortfolioArtifactCandidate ℚ where
  artifact_id := artifact_id
  strategy_id := artifact_id
  symbol_scope := ["BTCUSDT"]
  regime_scope := []
  portfolio_role := "core"
  target_notional := 1000
  max_notional := 1000
  expected_return_bps := expected_return_bps
  max_drawdown := 0.1
  artifact_health := "healthy"
  approved := true
  paper_live_divergence_bps := 0
  stress_loss_by_scenario := none
  correlation_by_artifact := none
  artifact_payload := none

/-- Two equal candidates have a half each, which is the maximum. -/
theorem tilt_respected_pair :
    TiltRespected [scored_candidate "a" 10, scored_candidate "b" 10] 0.5 := by
  refine (tilt_respected_iff (by decide) (by norm_num)).mpr ?_
  unfold SharesWithinCap
  rw [if_pos (by decide +kernel)]
  decide +kernel

/-- A single candidate is to have a half at most, and is given all. -/
theorem tilt_single_candidate :
    constrained_score_tilt [scored_candidate "a" 10] 0.5 = [("a", 1)]
      ∧ ¬ TiltRespected [scored_candidate "a" 10] 0.5 := by
  have htilt : constrained_score_tilt [scored_candidate "a" 10] 0.5 = [("a", 1)] := by
    decide +kernel
  refine ⟨htilt, fun h => ?_⟩
  have hcap := h.cap ("a", 1) (by rw [htilt]; exact List.mem_singleton_self _)
  exact absurd hcap (by norm_num)

end ProofAlpha.Portfolio
