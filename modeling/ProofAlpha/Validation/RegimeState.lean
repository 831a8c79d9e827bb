/-
The regime state of a snapshot: `derive_regime_state` of `validation/regimes.py`.

The state joins the most frequent label of the bars with three buckets: of the mean
funding rate, of the deviation of the log returns, and of the change of the open interest.
The buckets of `agent/composer.py` are the same functions.
-/
import Mathlib.Algebra.BigOperators.Group.List.Basic
import Mathlib.Data.List.MinMax
import ProofAlpha.Backtest.Snapshot
import ProofAlpha.Lib.CanonicalJson

set_option autoImplicit false

namespace ProofAlpha.Validation

open ProofAlpha.Lib ProofAlpha.Lib.PyList
open ProofAlpha.Backtest (DataSnapshot RegimeLabel label_snapshot_regimes)

/-! ## Labels -/

/-- A label as a text. No bar is labelled `other`. -/
def label_text : RegimeLabel → String
  | .crash => "crash"
  | .short_squeeze => "short_squeeze"
  | .liquidity_stress => "liquidity_stress"
  | .bull => "bull"
  | .bear => "bear"
  | .sideways => "sideways"
  | .other => "other"

/-- `Counter(items).most_common(1)`: of the items with the highest count the one that is
met first. -/
def most_common {α : Type} [DecidableEq α] (items : List α) : Option α :=
  items.argmax fun item => items.count item

/-- The label that occurs most often, and before the others that occur as often. -/
structure MostCommon {α : Type} [DecidableEq α] (items : List α) (item : α) : Prop where
  mem : item ∈ items
  most : ∀ other ∈ items, items.count other ≤ items.count item
  first : ∀ other ∈ items, items.count item ≤ items.count other →
    items.idxOf item ≤ items.idxOf other

theorem most_common_eq_some_iff {α : Type} [DecidableEq α] {items : List α} {item : α} :
    most_common items = some item ↔ MostCommon items item := by
  rw [most_common, ← Option.mem_def, List.mem_argmax_iff]
  constructor
  · rintro ⟨hmem, hmost, hfirst⟩
    exact ⟨hmem, hmost, hfirst⟩
  · intro h
    exact ⟨h.mem, h.most, h.first⟩

theorem label_text_injective : Function.Injective label_text := by
  intro label label' h
  cases label <;> cases label' <;> first | rfl | exact absurd h (by decide)

/-! ## Buckets -/

section Buckets

variable {K : Type} [Field K] [LinearOrder K]

/-- `_bucket_funding`. -/
def bucket_funding (value : K) : String :=
  if 0.01 ≤ value then "positive_extreme"
  else if 0.001 ≤ value then "positive"
  else if value ≤ -0.01 then "negative_extreme"
  else if value ≤ -0.001 then "negative"
  else "flat"

/-- `_bucket_volatility`. -/
def bucket_volatility (value : K) : String :=
  if 0.04 ≤ value then "high"
  else if 0.015 ≤ value then "medium"
  else "low"

/-- `_bucket_open_interest`. -/
def bucket_open_interest (value : K) : String :=
  if 0.15 ≤ value then "rising_fast"
  else if 0.03 ≤ value then "rising"
  else if value ≤ -0.15 then "falling_fast"
  else if value ≤ -0.03 then "falling"
  else "flat"

/-- `sum(values) / len(values) if values else 0.0`. -/
def mean_or_zero (values : List K) : K :=
  if values.isEmpty then 0 else values.sum / values.length

/-- `_stddev`, with the root that its file takes. -/
def stddev (root : K → K) (values : List K) : K :=
  if values.length < 2 then 0
  else
    let mean_value := values.sum / values.length
    root ((values.map fun value => (value - mean_value) ^ 2).sum / ((values.length : K) - 1))

/-- The pairs of a close and the close before it. -/
def close_pairs (closes : List K) : List (K × K) := closes.zip closes.tail

/-- The log returns, over the pairs of positive closes. -/
def log_returns (log : K → K) (closes : List K) : List K :=
  ((close_pairs closes).filter fun pair => decide (0 < pair.1 ∧ 0 < pair.2)).map fun pair =>
    log (pair.2 / pair.1)

end Buckets

/-! ## The state -/

/-- The texts of a state, joined. -/
def state_key (dominant_regime funding_bucket volatility_bucket open_interest_bucket : String) :
    String :=
  dominant_regime ++ "|" ++ funding_bucket ++ "|" ++ volatility_bucket ++ "|"
    ++ open_interest_bucket

section State

variable {K : Type} [Field K] [LinearOrder K] [FloorRing K]

/-- The state of a regime with its three figures. -/
def regime_state (dominant_regime : String) (avg_funding realized_vol oi_change : K) :
    JsonObject K :=
  [("dominant_regime", .str dominant_regime),
    ("funding_bucket", .str (bucket_funding avg_funding)),
    ("volatility_bucket", .str (bucket_volatility realized_vol)),
    ("open_interest_bucket", .str (bucket_open_interest oi_change)),
    ("average_funding_rate", .float (pyRound avg_funding 10)),
    ("realized_volatility", .float (pyRound realized_vol 10)),
    ("open_interest_change", .float (pyRound oi_change 10)),
    ("regime_state_key", .str (state_key dominant_regime (bucket_funding avg_funding)
      (bucket_volatility realized_vol) (bucket_open_interest oi_change)))]

/-- The state of no data. -/
def unknown_state : JsonObject K :=
  [("dominant_regime", .str "unknown"), ("funding_bucket", .str "flat"),
    ("volatility_bucket", .str "low"), ("open_interest_bucket", .str "flat"),
    ("regime_state_key", .str "unknown|flat|low|flat")]

/-- `derive_regime_state`. -/
def derive_regime_state (m : PyMath K) (l : PyLog K) (snapshot : DataSnapshot K)
    (labels : Option (List RegimeLabel)) : JsonObject K :=
  if snapshot.candles.isEmpty then unknown_state
  else
    let labels := labels.getD (label_snapshot_regimes snapshot)
    let dominant_regime := ((most_common labels).map label_text).getD "unknown"
    let funding := normalize_series snapshot.funding_rates snapshot.candles.length 0
    let open_interest := normalize_series snapshot.open_interest snapshot.candles.length 0
    let oi_start := open_interest.headD 0
    let oi_end := open_interest.getLastD 0
    regime_state dominant_regime (mean_or_zero funding)
      (stddev m.sqrt (log_returns l.log snapshot.closes))
      (if oi_start = 0 then 0 else oi_end / oi_start - 1)

end State

/-! ## The key -/

/-- A regime ends at the first bar of its key. -/
theorem state_key_regime {regime regime' : String} (hregime : '|' ∉ regime.toList)
    (hregime' : '|' ∉ regime'.toList) {funding funding' volatility volatility' interest interest' :
      String}
    (h : state_key regime funding volatility interest
      = state_key regime' funding' volatility' interest') :
    regime = regime' ∧ funding.toList ++ '|' :: (volatility.toList ++ '|' :: interest.toList)
      = funding'.toList ++ '|' :: (volatility'.toList ++ '|' :: interest'.toList) := by
  have hbar : "|".toList = ['|'] := rfl
  have hlist := congrArg String.toList h
  simp only [state_key, String.toList_append, List.append_assoc, hbar, List.cons_append,
    List.nil_append] at hlist
  have hfree : ∀ text : String, '|' ∉ text.toList → ∀ c ∈ text.toList, (c != '|') = true := by
    intro text hnot c hc
    apply bne_iff_ne.mpr
    rintro rfl
    exact hnot hc
  obtain ⟨hsame, hrest⟩ := run_inj (hfree regime hregime) (hfree regime' hregime') (by simp)
    (by simp) hlist
  exact ⟨String.toList_inj.mp hsame, (List.cons.inj hrest).2⟩

/-- Keys with the same buckets of funding and open interest are equal exactly when they
have the same regime and volatility. -/
theorem state_key_eq_iff {regime regime' volatility volatility' : String}
    (hregime : '|' ∉ regime.toList) (hregime' : '|' ∉ regime'.toList) (funding interest : String) :
    state_key regime funding volatility interest = state_key regime' funding volatility' interest
      ↔ regime = regime' ∧ volatility = volatility' := by
  constructor
  · intro h
    obtain ⟨hsame, hrest⟩ := state_key_regime hregime hregime' h
    have hvolatility := (List.append_right_inj funding.toList).mp hrest
    exact ⟨hsame,
      String.toList_inj.mp (List.append_cancel_right (List.cons.inj hvolatility).2)⟩
  · rintro ⟨rfl, rfl⟩
    rfl

theorem label_text_free (label : RegimeLabel) : '|' ∉ (label_text label).toList := by
  cases label <;> decide

/-- Two values on the same side of both limits of volatility. -/
structure SameBand {K : Type} [Field K] [LinearOrder K] (x y : K) : Prop where
  medium : 0.015 ≤ x ↔ 0.015 ≤ y
  high : 0.04 ≤ x ↔ 0.04 ≤ y

section Volatility

variable {K : Type} [Field K] [LinearOrder K]

theorem bucket_volatility_high_iff {x : K} : bucket_volatility x = "high" ↔ 0.04 ≤ x := by
  unfold bucket_volatility
  split_ifs with hhigh hmedium
  · simp [hhigh]
  · simp [hhigh]
  · simp [hhigh]

theorem bucket_volatility_low_iff [IsStrictOrderedRing K] {x : K} :
    bucket_volatility x = "low" ↔ ¬ 0.015 ≤ x := by
  have hlimits : (0.015 : K) ≤ 0.04 := by norm_num
  unfold bucket_volatility
  split_ifs with hhigh hmedium
  · simp [hlimits.trans hhigh]
  · simp [hmedium]
  · simp [hmedium]

theorem bucket_volatility_eq_iff [IsStrictOrderedRing K] {x y : K} :
    bucket_volatility x = bucket_volatility y ↔ SameBand x y := by
  constructor
  · intro h
    constructor
    · rw [← not_iff_not, ← bucket_volatility_low_iff, ← bucket_volatility_low_iff, h]
    · rw [← bucket_volatility_high_iff, ← bucket_volatility_high_iff, h]
  · intro h
    unfold bucket_volatility
    simp only [h.medium, h.high]

end Volatility

end ProofAlpha.Validation
