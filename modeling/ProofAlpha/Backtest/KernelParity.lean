/-
The JIT kernel against its Python reference: where `_simulate_core`, run with the
arguments `simulate_strategy_batch` encodes, computes what
`_simulate_single_python` does.

The fill ratio, the adverse fill, the liquidation price and fee and the fill
index always agree. Two things do not: the slippage of a bar (`PricingAgrees`
says when it does) and the schedule a liquidation steps through
(`StepBehaviorAgrees`). `BarAgrees` asks for them only where a bar uses them, and
a run all of whose bars do is the same in both versions.
-/
import ProofAlpha.Backtest.NumbaKernel

set_option autoImplicit false

namespace ProofAlpha.Backtest

open ProofAlpha.Lib ProofAlpha.Lib.PyList ProofAlpha.Lib.IndexedLoop

variable {K : Type} [Field K] [LinearOrder K] [IsStrictOrderedRing K]

/-! ## The context is within its ranges -/

theorem prepare_roll_vol_nonneg (m : PyMath K) (inp : BatchInput K) (bar : ℤ) :
    0 ≤ item (prepare_slippage_context m inp).roll_vol bar 0 := by
  refine item_of_forall le_rfl ?_ bar
  intro x hx
  obtain ⟨index, -, rfl⟩ := List.mem_map.mp hx
  exact roll_vol_at_nonneg m inp.closes index

theorem one_le_prepare_regime_multiplier (m : PyMath K) (inp : BatchInput K) (bar : ℤ) :
    1 ≤ item (prepare_slippage_context m inp).regime_multiplier bar 1 := by
  refine item_of_forall le_rfl ?_ bar
  intro x hx
  obtain ⟨label, -, rfl⟩ := List.mem_map.mp hx
  exact one_le_stress_multiplier label

/-! ## Model names and their codes -/

theorem slippage_model_code_eq_two (model : String) :
    slippage_model_code model = 2 ↔ model = "realistic" := by
  unfold slippage_model_code
  by_cases hr : model = "realistic"
  · simp [hr]
  · by_cases hd : model = "dynamic" <;> simp [hr, hd]

theorem slippage_model_code_eq_zero (model : String) :
    slippage_model_code model = 0 ↔ model ≠ "realistic" ∧ model ≠ "dynamic" := by
  unfold slippage_model_code
  by_cases hr : model = "realistic"
  · simp [hr]
  · by_cases hd : model = "dynamic" <;> simp [hr, hd]

/-! ## Fill ratio and adverse fill -/

omit [IsStrictOrderedRing K] in
/-- The kernel takes the thinner side of the book by a comparison. -/
theorem thinner_side_eq (ctx : SlippageContext K) (bar : ℤ) :
    (if item ctx.depth_ask_1bp_usd bar 0 < item ctx.depth_bid_1bp_usd bar 0 then
      item ctx.depth_ask_1bp_usd bar 0 else item ctx.depth_bid_1bp_usd bar 0)
      = ctx.available_depth bar := by
  rw [SlippageContext.available_depth, min_comm, min_def_lt]

/-- The fill ratio of the kernel is the Python one, for every model name. -/
theorem resolve_execution_fill_ratio_numba_eq (ctx : SlippageContext K) (model : String)
    (trade_notional : K) (bar : ℤ) :
    resolve_execution_fill_ratio_numba ctx (slippage_model_code model) trade_notional bar
      = resolve_batch_execution_fill_ratio ctx model trade_notional bar := by
  unfold resolve_execution_fill_ratio_numba resolve_batch_execution_fill_ratio
  have hcode : slippage_model_code model ≠ 2 ↔ model ≠ "realistic" :=
    not_congr (slippage_model_code_eq_two model)
  simp only [hcode, thinner_side_eq]
  by_cases hguard : trade_notional ≤ 0 ∨ model ≠ "realistic"
  · rw [if_pos hguard, if_pos (by rcases hguard with h | h <;> simp [h])]
  · rw [if_neg hguard]
    by_cases hmicro : ctx.microstructure_available = false
    · rw [if_pos hmicro, if_pos (Or.inr (Or.inr hmicro))]
    · rw [if_neg hmicro, if_neg (by tauto), depth_fill_ratio]
      -- the closing clamp: the kernel tests the lower bound first
      have hclamp : ∀ x : K, (if x < 0.05 then (0.05 : K) else min 1 x) = max 0.05 (min 1 x) := by
        intro x
        split_ifs with hlow
        · have hx1 : x ≤ 1 := le_trans hlow.le (by norm_num)
          rw [min_eq_right hx1, max_eq_left hlow.le]
        · exact (max_eq_right (le_min (by norm_num) (not_lt.mp hlow))).symm
      simp only [← min_def_lt, hclamp]

/-- The fill ratio is a share: between zero and one. -/
theorem resolve_batch_execution_fill_ratio_mem (ctx : SlippageContext K) (model : String)
    (trade_notional : K) (bar : ℤ) :
    0 ≤ resolve_batch_execution_fill_ratio ctx model trade_notional bar
      ∧ resolve_batch_execution_fill_ratio ctx model trade_notional bar ≤ 1 := by
  unfold resolve_batch_execution_fill_ratio
  split_ifs
  · exact ⟨zero_le_one, le_rfl⟩
  · exact ⟨zero_le_one, le_rfl⟩
  · exact depth_fill_ratio_mem _ _ _ _

omit [IsStrictOrderedRing K] in
/-- The adverse basis points of the kernel are the Python ones. -/
theorem resolve_adverse_fill_bps_numba_eq (ctx : SlippageContext K) (model : String)
    (effective_slippage_bps fill_ratio : K) (bar : ℤ) :
    resolve_adverse_fill_bps_numba ctx (slippage_model_code model) effective_slippage_bps
        fill_ratio bar
      = resolve_execution_adverse_fill_bps effective_slippage_bps fill_ratio
          (model == "realistic") (item ctx.oi_stressed bar false) (item ctx.funding_z bar 0)
          (item ctx.liquidation_z bar 0) (item ctx.depth_depleted bar false) := by
  unfold resolve_adverse_fill_bps_numba resolve_execution_adverse_fill_bps
  have hcode : slippage_model_code model ≠ 2 ↔ (model == "realistic") = false := by
    rw [beq_eq_false_iff_ne]
    exact not_congr (slippage_model_code_eq_two model)
  have hshort : ∀ x : K, (if x < 0 then 0 else x) = max 0 x := by
    intro x
    rw [max_comm, max_def_lt]
  have hdepleted : ∀ x : K, (if item ctx.depth_depleted bar false = true ∧ x < 0.10 then 0.10
      else x) = if item ctx.depth_depleted bar false = true then max x 0.10 else x := by
    intro x
    by_cases hd : item ctx.depth_depleted bar false = true
    · simp only [hd, true_and, if_true, max_def_lt]
    · rw [if_neg hd, if_neg fun h => hd h.1]
  -- all the kernel's comparisons are now the clamps of the Python text
  simp only [hcode, hshort, hdepleted, ← min_def_lt]
  rfl

/-! ## Slippage -/

/-- A stressed bar leaves the flat fallback as it is. -/
def StressNeutral (inp : BatchInput K) (ctx : SlippageContext K) (bar : ℤ) : Prop :=
  item ctx.oi_stressed bar false = false
    ∨ (item ctx.regime_multiplier bar 1 = 1 ∧ inp.slippage_bps ≤ 500)

/-- The model name and the data of the bar take both versions through the same
pricing: a known model name, no negative spread or latency under the realistic
model, and no stressed bar whose price is the flat fallback for want of open
interest. -/
def PricingAgrees (inp : BatchInput K) (ctx : SlippageContext K) (bar : ℤ) : Prop :=
  inp.model = "flat"
    ∨ (inp.model = "realistic" ∧ ctx.microstructure_available = true
        ∧ 0 ≤ item ctx.spread_bps bar 0 ∧ 0 ≤ item ctx.latency_proxy_ms bar 0)
    ∨ ((inp.model = "dynamic" ∨ (inp.model = "realistic" ∧ ctx.microstructure_available = false))
        ∧ (0 < item ctx.open_interest bar 0 ∨ StressNeutral inp ctx bar))
    ∨ ((inp.model ≠ "flat" ∧ inp.model ≠ "dynamic" ∧ inp.model ≠ "realistic")
        ∧ item ctx.open_interest bar 0 ≤ 0 ∧ StressNeutral inp ctx bar)

/-- Without negative inputs, the realistic base price needs no lower clamp, which
the kernel does not have. -/
theorem realistic_base_eq (m : PyMath K) {q depth sigma spread latency : K} (hsigma : 0 ≤ sigma)
    (hspread : 0 ≤ spread) (hlatency : 0 ≤ latency) :
    impact_cost_bps m q depth sigma spread latency realistic_slippage_coeff
      = min 500 (spread / 2
          + 0.10 * sigma * m.pow (|q| / (if depth < 1e-9 then 1e-9 else depth)) 0.50 * 10000
          + 0.01 * latency * sigma) := by
  have hdepth : (if depth < 1e-9 then 1e-9 else depth) = max depth 1e-9 := (max_def_lt _ _).symm
  -- every summand is non-negative, so the lower clamp at zero does nothing
  have hpart : 0 ≤ |q| / max depth 1e-9 :=
    div_nonneg (abs_nonneg q) (le_trans (by norm_num) (le_max_right _ _))
  have hpow := m.pow_nonneg _ 0.50 hpart
  rw [impact_cost_bps, hdepth]
  simp only [realistic_slippage_coeff, max_eq_left hsigma, max_eq_left hspread,
    max_eq_left hlatency]
  refine max_eq_right (le_min (by norm_num) ?_)
  positivity

/-- With positive open interest the dynamic price of both versions is the same:
the multiplier is at least one, so clamping before or after it makes no
difference. -/
theorem dynamic_price_eq (m : PyMath K) {q vol oi mult : K} (stressed : Bool) (flat : K)
    (hvol : 0 ≤ vol) (hoi : 0 < oi) (hmult : 1 ≤ mult) :
    (if stressed = true then min 500 (compute_dynamic_slippage m q vol oi stressed .other flat * mult)
      else compute_dynamic_slippage m q vol oi stressed .other flat)
      = max (min (if stressed = true then
          0.1 * m.sqrt (max (|q| / oi) 0) * vol * 10000 * mult
        else 0.1 * m.sqrt (max (|q| / oi) 0) * vol * 10000) 500) 0 := by
  have hbase : 0 ≤ 0.1 * m.sqrt (max (|q| / oi) 0) * vol * 10000 := by
    have hsqrt := m.sqrt_nonneg (max (|q| / oi) 0)
    positivity
  have hdyn : compute_dynamic_slippage m q vol oi stressed .other flat
      = min 500 (0.1 * m.sqrt (max (|q| / oi) 0) * vol * 10000) := by
    rw [compute_dynamic_slippage, if_neg (not_le.mpr hoi)]
    simp only [stress_multiplier, ite_self, mul_one, max_eq_right hvol]
    exact max_eq_right (le_min (by norm_num) hbase)
  rw [hdyn]
  generalize 0.1 * m.sqrt (max (|q| / oi) 0) * vol * 10000 = base at hbase
  have h500 : (0 : K) ≤ 500 := by norm_num
  cases stressed with
  | false =>
      simp only [Bool.false_eq_true, if_false]
      rw [max_eq_left (le_min hbase h500), min_comm]
  | true =>
      simp only [if_true]
      have hscaled : 0 ≤ base * mult := mul_nonneg hbase (le_trans zero_le_one hmult)
      rw [max_eq_left (le_min hscaled h500)]
      rcases le_total base 500 with hle | hge
      · rw [min_eq_right hle, min_comm]
      · have hbig : 500 ≤ base * mult := le_trans hge (le_mul_of_one_le_right hbase hmult)
        rw [min_eq_left hge, min_eq_right hbig,
          min_eq_left (le_mul_of_one_le_right h500 hmult)]

omit [IsStrictOrderedRing K] in
/-- The flat fallback of the dynamic model, where the stress leaves it as it
is. -/
theorem flat_fallback_eq (m : PyMath K) {inp : BatchInput K} {ctx : SlippageContext K}
    (trade_notional : K) {bar : ℤ} (hoi : item ctx.open_interest bar 0 ≤ 0)
    (hneutral : StressNeutral inp ctx bar) :
    inp.slippage_bps = (if item ctx.oi_stressed bar false = true then
        min 500 (compute_dynamic_slippage m trade_notional (item ctx.roll_vol bar 0)
          (item ctx.open_interest bar 0) (item ctx.oi_stressed bar false) .other
          inp.slippage_bps * item ctx.regime_multiplier bar 1)
      else compute_dynamic_slippage m trade_notional (item ctx.roll_vol bar 0)
          (item ctx.open_interest bar 0) (item ctx.oi_stressed bar false) .other
          inp.slippage_bps) := by
  rw [compute_dynamic_slippage, if_pos hoi]
  rcases hneutral with hcalm | ⟨hone, hflat⟩
  · rw [hcalm]
    rfl
  · rw [hone, mul_one, min_eq_right hflat, ite_self]

/-- Where `PricingAgrees`, the kernel's slippage is the Python one. -/
theorem resolve_slippage_bps_numba_eq (m : PyMath K) (inp : BatchInput K) (trade_notional : K)
    {bar : ℤ} (h : PricingAgrees inp (prepare_slippage_context m inp) bar) :
    resolve_slippage_bps_numba m (prepare_slippage_context m inp) (slippage_model_code inp.model)
        inp.slippage_bps trade_notional bar
      = resolve_batch_slippage_bps m (prepare_slippage_context m inp) inp.model inp.slippage_bps
          trade_notional bar := by
  have hvol := prepare_roll_vol_nonneg m inp bar
  have hmult := one_le_prepare_regime_multiplier m inp bar
  unfold resolve_slippage_bps_numba resolve_batch_slippage_bps
  generalize prepare_slippage_context m inp = ctx at h hvol hmult
  rcases h with hflat | ⟨hreal, hmicro, hspread, hlatency⟩ | ⟨hmodel, hoi⟩ | ⟨hmodel, hoi, hneutral⟩
  · -- the flat model
    rw [hflat]
    rfl
  · -- the realistic model with microstructure
    have hnotflat : inp.model ≠ "flat" := by rw [hreal]; decide
    have hcode : slippage_model_code inp.model ≠ 0 := fun h0 =>
      ((slippage_model_code_eq_zero _).mp h0).1 hreal
    have hcode2 : slippage_model_code inp.model = 2 := (slippage_model_code_eq_two _).mpr hreal
    rw [if_neg hcode, if_pos (And.intro hcode2 hmicro), if_neg hnotflat,
      if_pos (And.intro hreal hmicro)]
    simp only [thinner_side_eq]
    rw [realistic_base_eq m hvol hspread hlatency]
    simp only [← min_def_lt]
  · -- the dynamic price, also of the realistic model without microstructure
    have hnotflat : inp.model ≠ "flat" := by
      rcases hmodel with hd | ⟨hr, -⟩
      · rw [hd]; decide
      · rw [hr]; decide
    have hcode : slippage_model_code inp.model ≠ 0 := by
      rw [Ne, slippage_model_code_eq_zero]
      rcases hmodel with hd | ⟨hr, -⟩
      · exact fun hne => hne.2 hd
      · exact fun hne => hne.1 hr
    have hnotreal : ¬(inp.model = "realistic" ∧ ctx.microstructure_available = true) := by
      rintro ⟨hr, hm⟩
      rcases hmodel with hd | ⟨-, hm'⟩
      · rw [hd] at hr
        exact absurd hr (by decide)
      · rw [hm] at hm'
        exact Bool.noConfusion hm'
    have hnotcode : ¬(slippage_model_code inp.model = 2 ∧ ctx.microstructure_available = true) := by
      rw [slippage_model_code_eq_two]
      exact hnotreal
    rw [if_neg hcode, if_neg hnotcode, if_neg hnotflat, if_neg hnotreal]
    rcases lt_or_ge 0 (item ctx.open_interest bar 0) with hpos | hnonpos
    · rw [if_neg (not_le.mpr hpos), dynamic_price_eq m _ _ hvol hpos hmult]
      simp only [← min_def_lt, ← max_def_lt, min_comm]
    · rw [if_pos hnonpos]
      exact flat_fallback_eq m trade_notional hnonpos (hoi.resolve_left (not_lt.mpr hnonpos))
  · -- an unknown name: flat to the kernel, dynamic to the Python loop
    have hcode : slippage_model_code inp.model = 0 :=
      (slippage_model_code_eq_zero _).mpr ⟨hmodel.2.2, hmodel.2.1⟩
    rw [hcode, if_pos rfl, if_neg hmodel.1, if_neg fun hr => hmodel.2.2 hr.1]
    exact flat_fallback_eq m trade_notional hoi hneutral

/-! ## Executions -/

omit [Field K] [LinearOrder K] [IsStrictOrderedRing K] in
/-- The two fill indices: a clamp by `min` and one by a comparison. -/
theorem core_fill_index_eq (inp : BatchInput K) (index : ℕ) :
    core_fill_index inp index = batch_fill_index inp index := by
  unfold core_fill_index batch_fill_index
  split_ifs <;> omega

omit [IsStrictOrderedRing K] in
/-- The adverse fill price, written out in the kernel. -/
theorem core_fill_price_eq (price bps : K) (side : PositionSide) (is_entry : Bool) :
    (if 0 < bps then
      match side, is_entry with
      | .short, true | .long, false => price * (1 - bps / 10000)
      | .long, true | .short, false => price * (1 + bps / 10000)
    else price) = apply_adverse_fill_price price side is_entry bps := by
  unfold apply_adverse_fill_price
  by_cases hbps : 0 < bps
  · rw [if_pos hbps, if_neg (not_le.mpr hbps)]
    cases side <;> cases is_entry <;> rfl
  · rw [if_neg hbps, if_pos (not_lt.mp hbps)]

/-- Both versions execute the same size. -/
theorem core_executed_size_eq (m : PyMath K) (inp : BatchInput K) (ctx : SlippageContext K)
    (bar : ℤ) (size : K) (is_entry : Bool) :
    (core_execution_quote m inp ctx bar size is_entry).executed_size
      = (batch_execution_quote m inp ctx bar size is_entry).executed_size := by
  simp only [core_execution_quote, batch_execution_quote, resolve_execution_fill_ratio_numba_eq]

/-- A fill above the closing tolerance is the same execution in both versions:
the requested size is then above the tolerance too, so the kernel's quotient is
the ratio it multiplied by. -/
theorem core_execution_quote_eq (m : PyMath K) (inp : BatchInput K) {bar : ℤ} {size : K}
    (is_entry : Bool) (h : PricingAgrees inp (prepare_slippage_context m inp) bar)
    (hfill : 1e-9 < (batch_execution_quote m inp (prepare_slippage_context m inp) bar size
      is_entry).executed_size) :
    core_execution_quote m inp (prepare_slippage_context m inp) bar size is_entry
      = batch_execution_quote m inp (prepare_slippage_context m inp) bar size is_entry := by
  have hprice := resolve_slippage_bps_numba_eq m inp
    (inp.close bar * (size * resolve_batch_execution_fill_ratio
      (prepare_slippage_context m inp) inp.model (inp.close bar * size) bar)) h
  obtain ⟨hr0, hr1⟩ := resolve_batch_execution_fill_ratio_mem (prepare_slippage_context m inp)
    inp.model (inp.close bar * size) bar
  simp only [core_execution_quote, batch_execution_quote, resolve_execution_fill_ratio_numba_eq]
    at hfill ⊢
  generalize resolve_batch_execution_fill_ratio (prepare_slippage_context m inp) inp.model
    (inp.close bar * size) bar = ratio at hfill hprice hr0 hr1 ⊢
  -- a fill above the tolerance is of a positive size, since its ratio is not negative
  have hsize0 : 0 ≤ size := by
    by_contra hneg
    have hle : size * ratio ≤ 0 := mul_nonpos_of_nonpos_of_nonneg (not_le.mp hneg).le hr0
    exact absurd (lt_of_lt_of_le hfill hle) (not_lt.mpr (by norm_num))
  have hsize : 1e-9 < size := lt_of_lt_of_le hfill (mul_le_of_le_one_right hsize0 hr1)
  have hne : size ≠ 0 := (lt_trans (by norm_num) hsize).ne'
  have hquot : (if 1e-9 < size then size * ratio / size else 0) = ratio := by
    rw [if_pos hsize, mul_div_cancel_left₀ _ hne]
  rw [hquot, hprice, resolve_adverse_fill_bps_numba_eq]
  exact congrArg (FillQuote.mk _ _ _ _) (core_fill_price_eq _ _ _ _)

/-- The entry branches agree. -/
theorem core_enter_eq (m : PyMath K) (inp : BatchInput K) (s : SimState K) {bar : ℤ} (mark : K)
    (h : PricingAgrees inp (prepare_slippage_context m inp) bar) :
    batch_enter inp s bar (core_execution_quote m inp (prepare_slippage_context m inp) bar
        inp.position_leverage true) mark
      = batch_enter inp s bar (batch_execution_quote m inp (prepare_slippage_context m inp) bar
        inp.position_leverage true) mark := by
  rcases le_or_gt (batch_execution_quote m inp (prepare_slippage_context m inp) bar
    inp.position_leverage true).executed_size 1e-9 with hnone | hfill
  · have hcore := core_executed_size_eq m inp (prepare_slippage_context m inp) bar
      inp.position_leverage true
    rw [batch_enter, batch_enter, if_pos hnone, if_pos (hcore.trans_le hnone)]
  · rw [core_execution_quote_eq m inp true h hfill]

/-- The exit branches agree. -/
theorem core_exit_eq (m : PyMath K) (inp : BatchInput K) (s : SimState K) {bar : ℤ} (mark : K)
    (h : PricingAgrees inp (prepare_slippage_context m inp) bar) :
    batch_exit inp s (core_execution_quote m inp (prepare_slippage_context m inp) bar
        s.position_size false) mark
      = batch_exit inp s (batch_execution_quote m inp (prepare_slippage_context m inp) bar
        s.position_size false) mark := by
  rcases le_or_gt (batch_execution_quote m inp (prepare_slippage_context m inp) bar
    s.position_size false).executed_size 1e-9 with hnone | hfill
  · have hcore := core_executed_size_eq m inp (prepare_slippage_context m inp) bar
      s.position_size false
    rw [batch_exit, batch_exit, if_pos hnone, if_pos (hcore.trans_le hnone)]
  · rw [core_execution_quote_eq m inp false h hfill]

/-! ## Tiers -/

omit [Field K] [IsStrictOrderedRing K] in
/-- The kernel's tier loop over the sorted arrays selects the index of the entry
`_resolve_tier_entry` returns. -/
theorem select_tier_cases {V : Type} (schedule : List (Tier K V)) (position_leverage
    position_notional : K) {selected : Option ℕ}
    (hselected : select_tier ((sort_tier_schedule schedule).map Tier.max_leverage)
      ((sort_tier_schedule schedule).map Tier.max_notional) (sort_tier_schedule schedule).length
      position_leverage position_notional = selected) :
    (resolve_tier_entry position_leverage position_notional schedule = none ∧ selected = none)
      ∨ ∃ index tier,
          resolve_tier_entry position_leverage position_notional schedule = some tier
            ∧ selected = some index ∧ (sort_tier_schedule schedule)[index]? = some tier := by
  subst hselected
  unfold resolve_tier_entry
  dsimp only
  generalize sort_tier_schedule schedule = tiers
  rcases tiers.eq_nil_or_concat with rfl | ⟨front, final, rfl⟩
  · exact Or.inl ⟨rfl, rfl⟩
  · rw [List.concat_eq_append]
    generalize hxs : front ++ [final] = xs
    have hlast : xs.getLast? = some final := by rw [← hxs, List.getLast?_append]; rfl
    have hlen : xs.length ≠ 0 := by rw [← hxs, List.length_append]; exact Nat.succ_ne_zero _
    -- a tier to read past the end with; its limits are the arrays' defaults
    let missing : Tier K V := ⟨none, none, final.rule⟩
    have hlimits : (fun index => limit_le (some position_leverage)
          ((xs.map Tier.max_leverage).getD index none)
        && limit_le (some position_notional) ((xs.map Tier.max_notional).getD index none))
        = fun index => tier_applies position_leverage position_notional (xs.getD index missing) := by
      funext index
      have hleverage : (xs.map Tier.max_leverage).getD index none
          = (xs.getD index missing).max_leverage := List.getD_map _ missing Tier.max_leverage
      have hnotional : (xs.map Tier.max_notional).getD index none
          = (xs.getD index missing).max_notional := List.getD_map _ missing Tier.max_notional
      rw [hleverage, hnotional, tier_applies]
    have hfind := find?_range_getD xs (tier_applies position_leverage position_notional) missing
    -- the search over indices is the search over the tiers
    unfold select_tier
    rw [if_neg hlen, hlimits]
    cases hsearch : (List.range xs.length).find? fun index =>
        tier_applies position_leverage position_notional (xs.getD index missing) with
    | none =>
        rw [hsearch, Option.map_none] at hfind
        refine Or.inr ⟨xs.length - 1, final, ?_, rfl, ?_⟩
        · rw [← hfind, Option.none_or, hlast]
        · rw [← hlast, List.getLast?_eq_getElem?]
    | some index =>
        rw [hsearch, Option.map_some] at hfind
        have hmem : index < xs.length := List.mem_range.mp (List.mem_of_find?_eq_some hsearch)
        refine Or.inr ⟨index, xs.getD index missing, ?_, rfl, ?_⟩
        · rw [← hfind, Option.some_or]
        · rw [List.getD_eq_getElem _ _ hmem, List.getElem?_eq_getElem hmem]

/-- Reading an array built from the tiers at the index of a tier. -/
theorem getD_map_of_getElem? {α β : Type} {xs : List α} {index : ℕ} {x : α}
    (h : xs[index]? = some x) (f : α → β) (d : β) : (xs.map f).getD index d = f x := by
  rw [List.getD_eq_getElem?_getD, List.getElem?_map, h]
  rfl

omit [IsStrictOrderedRing K] in
/-- The kernel's maintenance tier is the entry `_resolve_tier_entry` returns. -/
theorem core_maintenance_tier_cases (inp : BatchInput K) (s : SimState K) :
    (resolve_tier_entry inp.position_leverage (position_notional s)
          inp.settings.maintenance_margin_schedule = none
        ∧ core_maintenance_tier inp (encode_tiers inp.settings) s = none)
      ∨ ∃ index tier,
          resolve_tier_entry inp.position_leverage (position_notional s)
              inp.settings.maintenance_margin_schedule = some tier
            ∧ core_maintenance_tier inp (encode_tiers inp.settings) s = some index
            ∧ (sort_tier_schedule inp.settings.maintenance_margin_schedule)[index]? = some tier := by
  refine select_tier_cases _ _ _ ?_
  simp only [core_maintenance_tier, encode_tiers, List.length_map]

omit [IsStrictOrderedRing K] in
/-- Both versions look up the same maintenance margin. -/
theorem core_liquidation_price_eq (inp : BatchInput K) (s : SimState K) :
    core_liquidation_price inp (encode_tiers inp.settings) s = single_liquidation_price inp s := by
  unfold core_liquidation_price single_liquidation_price resolve_maintenance_margin_ratio
    resolve_tier_value
  rcases core_maintenance_tier_cases inp s with ⟨hentry, hnone⟩ | ⟨index, tier, hentry, hsome, hget⟩
  · rw [hentry, hnone]
  · rw [hentry, hsome]
    dsimp only [encode_tiers]
    rw [getD_map_of_getElem? hget]

omit [IsStrictOrderedRing K] in
/-- Both versions look up the same liquidation fee. -/
theorem core_liquidation_fee_bps_eq (inp : BatchInput K) (s : SimState K) :
    core_liquidation_fee_bps inp (encode_tiers inp.settings) s
      = single_liquidation_fee_bps inp s := by
  unfold core_liquidation_fee_bps single_liquidation_fee_bps resolve_tier_value
  simp only [encode_tiers, List.length_map]
  generalize hselected : select_tier _ _ _ inp.position_leverage (position_notional s) = selected
  rcases select_tier_cases _ _ _ hselected with ⟨hentry, hnone⟩ | ⟨index, tier, hentry, hsome, hget⟩
  · rw [hentry, hnone]
  · rw [hentry, hsome]
    dsimp only
    rw [getD_map_of_getElem? hget, id]

omit [IsStrictOrderedRing K] in
/-- Both versions liquidate on the same bars. -/
theorem core_liquidation_due_eq (inp : BatchInput K) (s : SimState K) (index : ℕ) :
    core_liquidation_due inp (encode_tiers inp.settings) s index
      = single_liquidation_due inp s index := by
  rw [core_liquidation_due, core_liquidation_price_eq, single_liquidation_due,
    single_triggered_at]

/-! ## Step behaviour -/

/-- The kernel looks at the tier's own schedule or ratio. -/
def KernelReadsTier (settings : LiquidationSettings K) : Prop :=
  settings.liquidation_step_schedule.getD [] = [] ∧ settings.partial_liquidation_ratio = 1
    ∧ settings.liquidation_cooldown_bars = 0

/-- Both versions, or neither, take the step behaviour of the tier the position
falls in, and when both do, a ratio that counts is positive; or the tier
prescribes nothing of its own. -/
def StepBehaviorAgrees (inp : BatchInput K) (s : SimState K) : Prop :=
  TierNeutral inp.position_leverage (position_notional s) inp.settings.partial_liquidation_ratio
      inp.settings.maintenance_margin_schedule
    ∨ (¬SingleReadsTier inp.settings ∧ ¬KernelReadsTier inp.settings)
    ∨ (SingleReadsTier inp.settings ∧ KernelReadsTier inp.settings
        ∧ ∀ tier, resolve_tier_entry inp.position_leverage (position_notional s)
            inp.settings.maintenance_margin_schedule = some tier →
          tier.rule.liquidation_step_schedule ≠ []
            ∨ ∀ ratio, tier.rule.partial_liquidation_ratio = some ratio → 0 < ratio)

omit [LinearOrder K] [IsStrictOrderedRing K] in
/-- The kernel's clamped read of a padded schedule is the Python step lookup. -/
theorem zero_padded_getD_clamp (values : List K) (width step_index : ℕ) (ratio : K)
    (hvalues : 0 < values.length) :
    (zero_padded values width).getD
        (if values.length ≤ step_index then values.length - 1 else step_index) 0
      = liquidation_ratio_for_event (some values) ratio step_index := by
  cases values with
  | nil => exact absurd hvalues (Nat.lt_irrefl 0)
  | cons step steps =>
      have hclamp : (if (step :: steps).length ≤ step_index then (step :: steps).length - 1
          else step_index) = min step_index steps.length := by
        rw [List.length_cons]
        split_ifs <;> omega
      rw [hclamp, zero_padded, List.getD_append _ _ _ _ (by rw [List.length_cons]; omega),
        liquidation_ratio_for_event]

omit [IsStrictOrderedRing K] in
/-- The kernel's share when the explicit options decide. -/
theorem core_liquidation_ratio_explicit (inp : BatchInput K) (s : SimState K)
    (h : ¬KernelReadsTier inp.settings) :
    core_liquidation_ratio inp (encode_tiers inp.settings) s
      = liquidation_ratio_for_event inp.settings.liquidation_step_schedule
          inp.settings.partial_liquidation_ratio s.liquidation_step_index := by
  have hlen : (encode_tiers inp.settings).explicit_liquidation_step_schedule_len
      = (inp.settings.liquidation_step_schedule.getD []).length := rfl
  unfold core_liquidation_ratio
  dsimp only
  by_cases hempty : inp.settings.liquidation_step_schedule.getD [] = []
  · have hcond : ¬(inp.settings.partial_liquidation_ratio = 1
        ∧ inp.settings.liquidation_cooldown_bars = 0) := fun hc => h ⟨hempty, hc⟩
    have hnone : ¬0 < (encode_tiers inp.settings).explicit_liquidation_step_schedule_len := by
      rw [hlen, hempty]
      exact Nat.lt_irrefl 0
    rw [if_neg hnone, if_neg hcond, liquidation_ratio_for_event_empty hempty]
  · have hpos : 0 < (inp.settings.liquidation_step_schedule.getD []).length :=
      List.length_pos_iff.mpr hempty
    obtain ⟨steps, hsteps⟩ : ∃ steps, inp.settings.liquidation_step_schedule = some steps := by
      cases hs : inp.settings.liquidation_step_schedule with
      | none => exact absurd (by rw [hs]; rfl) hempty
      | some steps => exact ⟨steps, rfl⟩
    rw [if_pos (hlen ▸ hpos)]
    -- the padded row is read at the clamped index
    have hread := zero_padded_getD_clamp _ (max_step_schedule_width
      (inp.settings.liquidation_step_schedule.getD [])
      (sort_tier_schedule inp.settings.maintenance_margin_schedule)) s.liquidation_step_index
      inp.settings.partial_liquidation_ratio hpos
    refine Eq.trans hread ?_
    rw [hsteps, Option.getD_some]

omit [IsStrictOrderedRing K] in
/-- The kernel's share when the tier decides: a ratio that is not positive is
passed over. -/
theorem core_liquidation_ratio_tier (inp : BatchInput K) (s : SimState K)
    (h : KernelReadsTier inp.settings) :
    core_liquidation_ratio inp (encode_tiers inp.settings) s
      = match resolve_tier_entry inp.position_leverage (position_notional s)
          inp.settings.maintenance_margin_schedule with
        | none => 1
        | some tier =>
            liquidation_ratio_for_event (some tier.rule.liquidation_step_schedule)
              (if 0 < tier.rule.partial_liquidation_ratio.getD 0 then
                tier.rule.partial_liquidation_ratio.getD 0 else 1) s.liquidation_step_index := by
  obtain ⟨hempty, hratio, hcooldown⟩ := h
  have hlen : ¬0 < (encode_tiers inp.settings).explicit_liquidation_step_schedule_len := by
    rw [← List.length_eq_zero_iff] at hempty
    exact Nat.not_lt.mpr hempty.le
  unfold core_liquidation_ratio
  dsimp only
  rw [if_neg hlen, if_pos ⟨hratio, hcooldown⟩, hratio]
  rcases core_maintenance_tier_cases inp s with ⟨hentry, hnone⟩ | ⟨index, tier, hentry, hsome, hget⟩
  · rw [hentry, hnone]
  · -- the tier's row, its length and its ratio, read back from the arrays
    have hrow : (encode_tiers inp.settings).maintenance_tier_step_schedule.getD index []
        = zero_padded tier.rule.liquidation_step_schedule (max_step_schedule_width
          (inp.settings.liquidation_step_schedule.getD [])
          (sort_tier_schedule inp.settings.maintenance_margin_schedule)) :=
      getD_map_of_getElem? hget _ _
    have hrow_len : (encode_tiers inp.settings).maintenance_tier_step_schedule_len.getD index 0
        = tier.rule.liquidation_step_schedule.length := getD_map_of_getElem? hget _ _
    have hown :
        (encode_tiers inp.settings).maintenance_tier_partial_liquidation_ratio.getD index 0
          = tier.rule.partial_liquidation_ratio.getD 0 := getD_map_of_getElem? hget _ _
    rw [hentry, hsome]
    simp only [hrow, hrow_len, hown]
    by_cases hsteps : 0 < tier.rule.liquidation_step_schedule.length
    · rw [if_pos hsteps, zero_padded_getD_clamp _ _ _ _ hsteps]
    · have hnil : tier.rule.liquidation_step_schedule = [] :=
        List.length_eq_zero_iff.mp (Nat.eq_zero_of_not_pos hsteps)
      rw [if_neg hsteps, hnil, liquidation_ratio_for_event_empty rfl]

omit [IsStrictOrderedRing K] in
/-- A positive ratio, or none, is read by the kernel as the Python loop reads it. -/
theorem core_tier_ratio_eq {tier : Tier K (MarginRule K)} (step_index : ℕ)
    (h : tier.rule.liquidation_step_schedule ≠ []
      ∨ ∀ ratio, tier.rule.partial_liquidation_ratio = some ratio → 0 < ratio) :
    liquidation_ratio_for_event (some tier.rule.liquidation_step_schedule)
        (if 0 < tier.rule.partial_liquidation_ratio.getD 0 then
          tier.rule.partial_liquidation_ratio.getD 0 else 1) step_index
      = liquidation_ratio_for_event (some tier.rule.liquidation_step_schedule)
          (tier.rule.partial_liquidation_ratio.getD 1) step_index := by
  cases hsteps : tier.rule.liquidation_step_schedule with
  | cons step steps => rfl
  | nil =>
      congr 1
      cases hown : tier.rule.partial_liquidation_ratio with
      | none => rw [Option.getD_none, Option.getD_none, if_neg (lt_irrefl 0)]
      | some ratio =>
          have hpos : 0 < ratio := (h.resolve_left fun hne => hne hsteps) ratio hown
          rw [Option.getD_some, Option.getD_some, if_pos hpos]

omit [IsStrictOrderedRing K] in
/-- The share the tier gives in the Python loop, in the kernel's terms. -/
theorem tier_step_behavior_ratio (position_leverage position_notional : K)
    (tiers : List (Tier K (MarginRule K))) (step_index : ℕ) :
    liquidation_ratio_for_event
        (tier_step_behavior position_leverage position_notional 1 none tiers).1
        (tier_step_behavior position_leverage position_notional 1 none tiers).2 step_index
      = match resolve_tier_entry position_leverage position_notional tiers with
        | none => 1
        | some tier =>
            liquidation_ratio_for_event (some tier.rule.liquidation_step_schedule)
              (tier.rule.partial_liquidation_ratio.getD 1) step_index := by
  unfold tier_step_behavior
  cases resolve_tier_entry position_leverage position_notional tiers with
  | none => rfl
  | some tier =>
      dsimp only
      cases hsteps : tier.rule.liquidation_step_schedule with
      | cons step steps => rfl
      | nil => cases tier.rule.partial_liquidation_ratio <;> rfl

omit [IsStrictOrderedRing K] in
/-- A neutral tier makes the kernel liquidate everything. -/
theorem core_liquidation_ratio_neutral (inp : BatchInput K) (s : SimState K)
    (hk : KernelReadsTier inp.settings)
    (h : TierNeutral inp.position_leverage (position_notional s)
      inp.settings.partial_liquidation_ratio inp.settings.maintenance_margin_schedule) :
    core_liquidation_ratio inp (encode_tiers inp.settings) s = 1 := by
  rw [core_liquidation_ratio_tier inp s hk]
  cases hentry : resolve_tier_entry inp.position_leverage (position_notional s)
      inp.settings.maintenance_margin_schedule with
  | none => rfl
  | some tier =>
      obtain ⟨hsteps, hone⟩ := h tier hentry
      rw [hk.2.1] at hone
      dsimp only
      rw [hsteps, liquidation_ratio_for_event_empty rfl]
      cases hown : tier.rule.partial_liquidation_ratio with
      | none => rw [Option.getD_none, if_neg (lt_irrefl 0)]
      | some ratio =>
          rw [hown, Option.getD_some] at hone
          rw [Option.getD_some, hone, ite_self]

omit [IsStrictOrderedRing K] in
/-- Where `StepBehaviorAgrees`, both versions liquidate the same share. -/
theorem core_liquidation_ratio_eq (inp : BatchInput K) (s : SimState K)
    (h : StepBehaviorAgrees inp s) :
    core_liquidation_ratio inp (encode_tiers inp.settings) s = single_liquidation_ratio inp s := by
  unfold single_liquidation_ratio
  by_cases hk : KernelReadsTier inp.settings
  · by_cases hr : SingleReadsTier inp.settings
    · -- both read the tier
      rw [single_step_behavior_tier inp s hr, hr.1, hr.2, tier_step_behavior_ratio]
      rcases h with hneutral | ⟨hnr, -⟩ | ⟨-, -, hpos⟩
      · rw [core_liquidation_ratio_neutral inp s hk hneutral, ← tier_step_behavior_ratio,
          tier_step_behavior_neutral none (hr.2 ▸ hneutral)]
        rfl
      · exact absurd hr hnr
      · rw [core_liquidation_ratio_tier inp s hk]
        cases hentry : resolve_tier_entry inp.position_leverage (position_notional s)
            inp.settings.maintenance_margin_schedule with
        | none => rfl
        | some tier => exact core_tier_ratio_eq _ (hpos tier hentry)
    · -- only the kernel reads it: the tier prescribes a full liquidation
      rw [single_step_behavior_explicit inp s hr, liquidation_ratio_for_event_empty hk.1, hk.2.1]
      rcases h with hneutral | ⟨-, hnk⟩ | ⟨hr', -⟩
      · exact core_liquidation_ratio_neutral inp s hk hneutral
      · exact absurd hk hnk
      · exact absurd hr' hr
  · rw [core_liquidation_ratio_explicit inp s hk]
    by_cases hr : SingleReadsTier inp.settings
    · -- only the Python loop reads it: the tier prescribes a full liquidation
      rw [single_step_behavior_tier inp s hr]
      rcases h with hneutral | ⟨hnr, -⟩ | ⟨-, hk', -⟩
      · rw [tier_step_behavior_neutral _ hneutral]
      · exact absurd hr hnr
      · exact absurd hk' hk
    · rw [single_step_behavior_explicit inp s hr]

/-! ## One bar -/

/-- An entry or exit order is sent on this bar, unless a liquidation takes it. -/
def OrderSent (inp : BatchInput K) (s : SimState K) (index : ℕ) : Prop :=
  (s.position_open = false ∧ inp.entry_signals.getD index false = true)
    ∨ (s.position_open = true ∧ inp.exit_signals.getD index false = true ∧ s.entry_index ≤ index)

/-- What the bar does in state `s` is priced and stepped alike by both versions:
a liquidation at its own bar, an order at the bar that fills it. -/
structure BarAgrees (inp : BatchInput K) (ctx : SlippageContext K) (s : SimState K)
    (index : ℕ) : Prop where
  liquidation : single_liquidation_due inp s index = true →
    PricingAgrees inp ctx index ∧ StepBehaviorAgrees inp s
  order : single_liquidation_due inp s index = false → OrderSent inp s index →
    PricingAgrees inp ctx (batch_fill_index inp index)

omit [IsStrictOrderedRing K] in
/-- The funding of a bar moves nothing but `funding_spend`. -/
theorem batch_accrue_funding_frame (inp : BatchInput K) (s : SimState K) (index : ℕ) :
    ∃ funding, batch_accrue_funding inp s index = { s with funding_spend := funding } := by
  unfold batch_accrue_funding
  split_ifs
  · exact ⟨_, rfl⟩
  · exact ⟨s.funding_spend, rfl⟩

/-- The step lemma: on a bar that agrees, both loops do the same. -/
theorem core_step_eq (m : PyMath K) (inp : BatchInput K) (s : SimState K) (index : ℕ)
    (h : BarAgrees inp (prepare_slippage_context m inp) s index) :
    core_step m inp (encode_tiers inp.settings) (prepare_slippage_context m inp) s index
      = single_step m inp (prepare_slippage_context m inp) s index := by
  obtain ⟨funding, hfunding⟩ := batch_accrue_funding_frame inp s index
  unfold core_step single_step
  simp only [hfunding, core_liquidation_due_eq, core_fill_index_eq]
  -- the conditions of a bar do not read `funding_spend`
  have hdue : single_liquidation_due inp { s with funding_spend := funding } index
      = single_liquidation_due inp s index := rfl
  cases hliq : single_liquidation_due inp s index with
  | true =>
      obtain ⟨hprice, hsteps⟩ := h.liquidation hliq
      rw [hdue, hliq, if_pos rfl, if_pos rfl]
      have hratio := core_liquidation_ratio_eq inp { s with funding_spend := funding } hsteps
      unfold core_liquidate single_liquidate
      simp only [core_liquidation_price_eq, hratio, core_liquidation_fee_bps_eq,
        resolve_slippage_bps_numba_eq m inp _ hprice]
  | false =>
      rw [hdue, hliq, if_neg Bool.false_ne_true, if_neg Bool.false_ne_true]
      by_cases hentry : s.position_open = false ∧ inp.entry_signals.getD index false = true
      · rw [if_pos hentry, if_pos hentry]
        exact core_enter_eq m inp _ _ (h.order hliq (Or.inl hentry))
      · rw [if_neg hentry, if_neg hentry]
        by_cases hexit : s.position_open = true ∧ inp.exit_signals.getD index false = true
            ∧ s.entry_index ≤ index
        · rw [if_pos hexit, if_pos hexit]
          exact core_exit_eq m inp { s with funding_spend := funding } _
            (h.order hliq (Or.inr hexit))
        · rw [if_neg hexit, if_neg hexit]

/-! ## The run -/

/-- The state of `_simulate_single_python` before bar `index`. -/
def single_state_at (m : PyMath K) (inp : BatchInput K) (index : ℕ) : SimState K :=
  stateAt (single_step m inp (prepare_slippage_context m inp)) SimState.initial index

/-- Every bar agrees, and so does the forced close if there is one. -/
structure RunAgrees (m : PyMath K) (inp : BatchInput K) : Prop where
  bar : ∀ index, index < inp.bars →
    BarAgrees inp (prepare_slippage_context m inp) (single_state_at m inp index) index
  close : (single_state_at m inp inp.bars).position_open = true →
    PricingAgrees inp (prepare_slippage_context m inp) ((inp.bars : ℤ) - 1)

/-- The run lemma, by the congruence rule of the bar loop. -/
theorem core_simulate_bars_eq (m : PyMath K) (inp : BatchInput K) (h : RunAgrees m inp) :
    core_simulate_bars m inp = single_simulate_bars m inp := by
  have hrun : run (single_step m inp (prepare_slippage_context m inp)) SimState.initial inp.bars
      = run (core_step m inp (encode_tiers inp.settings) (prepare_slippage_context m inp))
          SimState.initial inp.bars :=
    run_congr inp.bars fun index hindex => (core_step_eq m inp _ index (h.bar index hindex)).symm
  unfold core_simulate_bars single_simulate_bars
  simp only [← hrun]
  by_cases hopen : (single_state_at m inp inp.bars).position_open = true
  · rw [resolve_slippage_bps_numba_eq m inp _ (h.close hopen)]
  · -- nothing is left to close, so the closing slippage is not used
    have hclosed : (run (single_step m inp (prepare_slippage_context m inp)) SimState.initial
        inp.bars).1.position_open = false := Bool.eq_false_iff.mpr hopen
    simp only [batch_close_out, hclosed, Bool.false_eq_true, if_false]

variable [FloorRing K]

/-- A run whose bars all agree has the same result in both versions: the same
equity curve, trades, books and fill metrics. -/
theorem simulate_strategy_batch_eq_single_python (m : PyMath K) (inp : BatchInput K)
    (h : RunAgrees m inp) : simulate_strategy_batch m inp = simulate_single_python m inp := by
  unfold simulate_strategy_batch simulate_single_python simulate_core
  rw [core_simulate_bars_eq m inp h]
  dsimp only
  refine congrArg (BatchSimResult.mk _ _ _ _ _ _ _) ?_
  generalize (single_simulate_bars m inp).1 = s
  unfold execution_pressure_summary
  simp only [slippage_model_code_eq_two, beq_iff_eq]
  by_cases hcount : inp.model = "realistic" ∧ 0 < s.fill_event_count
  · obtain ⟨hmodel, hfills⟩ := hcount
    simp only [hmodel, hfills, true_and, if_true]
    by_cases hadverse : 0 < s.adverse_fill_event_count
    · rw [if_pos hadverse, if_pos hadverse, if_pos hadverse]
    · rw [if_neg hadverse, if_neg hadverse]
  · rw [if_neg hcount, if_neg hcount]

/-! ## A run that agrees and one that does not -/

/-- A long position at leverage 10 that is liquidated on the second of two bars,
under the flat model, with a cooldown of `cooldown` bars and the given tiers. -/
def liquidated_input (cooldown : ℤ) (tiers : List (Tier ℚ (MarginRule ℚ))) : BatchInput ℚ where
  closes := [100, 95]
  highs := [100, 100]
  lows := [100, 85]
  funding_rates := [0, 0]
  funding_event_counts := none
  entry_signals := [true, false]
  exit_signals := [false, false]
  taker_fee_bps := 5
  slippage_bps := 10
  position_side := .long
  position_leverage := 10
  latency_bars := 0
  open_interest := none
  liquidation_notional := none
  spread_bps := none
  depth_bid_1bp_usd := none
  depth_ask_1bp_usd := none
  latency_proxy_ms := none
  stress_regimes := none
  slippage_model := " Flat"
  settings :=
    { maintenance_margin_ratio := 0.01
      liquidation_fee_bps := 0
      liquidation_mark_price_weight := 0
      liquidation_mark_premium_bps := 0
      partial_liquidation_ratio := 1
      liquidation_cooldown_bars := cooldown
      liquidation_step_schedule := none
      maintenance_margin_schedule := tiers
      liquidation_fee_schedule := [] }

/-- Without tiers, the liquidated run agrees. -/
theorem simulate_strategy_batch_eq_single_python_liquidated :
    simulate_strategy_batch PyMath.rat (liquidated_input 1 [])
      = simulate_single_python PyMath.rat (liquidated_input 1 []) :=
  simulate_strategy_batch_eq_single_python PyMath.rat (liquidated_input 1 [])
    { bar := fun _ _ =>
        { liquidation := fun _ => ⟨Or.inl (by decide), Or.inl (by intro tier h; cases h)⟩
          order := fun _ _ => Or.inl (by decide) }
      close := fun _ => Or.inl (by decide) }

/-- With a cooldown and one tier that halves the position, the Python loop keeps
half of it open while the kernel liquidates all of it. -/
theorem simulate_strategy_batch_ne_single_python :
    simulate_strategy_batch PyMath.rat
        (liquidated_input 1 [⟨some 20, none, ⟨0.01, [0.5], none⟩⟩])
      ≠ simulate_single_python PyMath.rat
        (liquidated_input 1 [⟨some 20, none, ⟨0.01, [0.5], none⟩⟩]) := by
  intro h
  have hcurve := congrArg BatchSimResult.equity_curve h
  revert hcurve
  decide +kernel

end ProofAlpha.Backtest
