/-
When a stress never makes a result better.

Fees, funding and liquidation events only ever get worse. The other figures are
scaled: gross profit, win rate, Sharpe and Sortino ratio with a factor that falls
with the severity, the drawdown with one that grows. A falling factor shrinks a
loss and a negative ratio too, so these improve; and the factors of volatility and
open interest may turn negative, and their product grow past one.
`stress_never_improves_iff` says exactly when none of this shows.
-/
import ProofAlpha.App.ScenarioStress
import ProofAlpha.Lib.RoundingBounds

set_option autoImplicit false

namespace ProofAlpha.App

open ProofAlpha.Lib
open ProofAlpha.Validation
open ProofAlpha.Backtest (BacktestResult DataSnapshot)

section Factors

variable {K : Type} [Field K] [LinearOrder K]

/-! ## The severity factor as a clamped ramp -/

/-- What calibration divides the severity factor by. -/
def jump_divisor (scenario : StressScenario K) : K :=
  if scenario.calibration_mode = "calibrated" then max 1 scenario.jump_severity_factor else 1

/-- The severity factor at severity 0, but for its floor. -/
def severity_slope (scenario : StressScenario K) (position_side : String)
    (snapshot : DataSnapshot K) : K :=
  (if position_side = "short" then max 0 (squeeze_factor scenario snapshot) else 1)
    * max 0 (regime_factor scenario snapshot) / jump_divisor scenario

/-- The floor of the severity factor. -/
def severity_floor (scenario : StressScenario K) (position_side : String)
    (snapshot : DataSnapshot K) : K :=
  let floor :=
    if position_side = "short" then max 0.05 (0.05 * max 0 (regime_factor scenario snapshot))
    else 0.05
  if scenario.calibration_mode = "calibrated" then
    max 0.01 (floor / max 1 scenario.jump_severity_factor)
  else floor

variable [IsStrictOrderedRing K]

/-- A negative factor counts as zero next to a positive floor. -/
theorem max_mul_max_zero {floor u m : K} (hfloor : 0 ≤ floor) (hu : 0 ≤ u) :
    max floor (u * m) = max floor (u * max 0 m) := by
  rcases le_total 0 m with hm | hm
  · rw [max_eq_right hm]
  · rw [max_eq_left hm, mul_zero, max_eq_left hfloor,
      max_eq_left ((mul_nonpos_of_nonneg_of_nonpos hu hm).trans hfloor)]

/-- Clamping before a factor that is not negative clamps after it as well. -/
theorem max_max_mul {floor u m : K} (hm : 0 ≤ m) :
    max floor (max floor u * m) = max (max floor (floor * m)) (u * m) := by
  rw [max_mul_of_nonneg _ _ hm, max_assoc]

theorem jump_divisor_pos (scenario : StressScenario K) : 0 < jump_divisor scenario := by
  unfold jump_divisor
  split_ifs with hcalibrated
  · exact lt_of_lt_of_le one_pos (le_max_left _ _)
  · exact one_pos

theorem severity_slope_nonneg (scenario : StressScenario K) (position_side : String)
    (snapshot : DataSnapshot K) : 0 ≤ severity_slope scenario position_side snapshot := by
  unfold severity_slope
  refine div_nonneg (mul_nonneg ?_ (le_max_left _ _)) (jump_divisor_pos scenario).le
  split_ifs with hside
  · exact le_max_left _ _
  · exact zero_le_one

theorem severity_floor_pos (scenario : StressScenario K) (position_side : String)
    (snapshot : DataSnapshot K) : 0 < severity_floor scenario position_side snapshot := by
  have hfloor : (0 : K) < 0.05 := by norm_num
  have hcalibrated : (0 : K) < 0.01 := by norm_num
  unfold severity_floor
  dsimp only
  split_ifs with hmode hside hside
  · exact lt_max_of_lt_left hcalibrated
  · exact lt_max_of_lt_left hcalibrated
  · exact lt_max_of_lt_left hfloor
  · exact hfloor

/-- The severity factor falls along a line from its slope to its floor. -/
theorem severity_factor_eq (scenario : StressScenario K) (severity : K) (position_side : String)
    (snapshot : DataSnapshot K) : severity_factor scenario severity position_side snapshot
      = clamped_ramp (severity_floor scenario position_side snapshot)
        (severity_slope scenario position_side snapshot) 0.1 0.65 severity := by
  let base : K := max 0.1 (1 - severity * 0.65)
  let m := max 0 (regime_factor scenario snapshot)
  have hbase : 0 ≤ base := le_max_of_le_left (by norm_num)
  have hfloor : (0 : K) ≤ 0.05 := by norm_num
  have hm : 0 ≤ m := le_max_left _ _
  -- the factor before the calibration, as a floor and a multiple of the base
  have hstressed : max 0.05 ((if position_side = "short" then
        max 0.05 (base * squeeze_factor scenario snapshot) else base)
          * regime_factor scenario snapshot)
      = max (if position_side = "short" then max 0.05 (0.05 * m) else 0.05)
        ((if position_side = "short" then max 0 (squeeze_factor scenario snapshot) else 1)
          * m * base) := by
    split_ifs with hside
    · rw [max_mul_max_zero hfloor hbase,
        max_mul_max_zero hfloor (hfloor.trans (le_max_left _ _)), max_max_mul hm]
      congr 1
      ring
    · rw [max_mul_max_zero hfloor hbase, one_mul, mul_comm]
  unfold severity_factor clamped_ramp severity_floor severity_slope jump_divisor
  dsimp only
  rw [hstressed]
  by_cases hmode : scenario.calibration_mode = "calibrated"
  · have hjump : (0 : K) ≤ max 1 scenario.jump_severity_factor := zero_le_one.trans (le_max_left _ _)
    rw [if_pos hmode, if_pos hmode, if_pos hmode, ← max_div_div_right hjump, ← max_assoc,
      div_mul_eq_mul_div]
  · rw [if_neg hmode, if_neg hmode, if_neg hmode, div_one]

/-! ## Funding -/

theorem funding_pressure_nonneg (snapshot : DataSnapshot K) : 0 ≤ funding_pressure snapshot := by
  have hpressure : (0 : K) ≤ 0.20 := by norm_num
  have hfunding : (0 : K) ≤ max 0 (average snapshot.funding_rates) * 20 :=
    mul_nonneg (le_max_left _ _) (by norm_num)
  exact le_min hpressure hfunding

/-- What the short side adds to the funding multiplier. -/
theorem squeeze_funding_nonneg (position_side : String) (snapshot : DataSnapshot K) :
    0 ≤ if position_side = "short" then funding_pressure snapshot * 3 else 0 := by
  split_ifs with hside
  · exact mul_nonneg (funding_pressure_nonneg snapshot) (by norm_num)
  · exact le_rfl

theorem one_le_funding_multiplier {scenario : StressScenario K}
    (hneutral : 1 ≤ scenario.funding_multiplier) {severity : K} (hseverity : 0 ≤ severity)
    (position_side : String) (snapshot : DataSnapshot K) :
    1 ≤ funding_multiplier scenario severity position_side snapshot := by
  have hclamped : 1 ≤ max 0.1 scenario.funding_multiplier := hneutral.trans (le_max_right _ _)
  have hscaled : 1 ≤ (1 + severity) * max 0.1 scenario.funding_multiplier :=
    one_le_mul_of_one_le_of_one_le (le_add_of_nonneg_right hseverity) hclamped
  have hsqueeze := squeeze_funding_nonneg position_side snapshot
  unfold funding_multiplier
  linarith

/-- A multiplier of one or more adds its excess times the absolute spend. -/
theorem stress_funding_spend_eq {spend multiplier : K} (h : 1 ≤ multiplier) :
    stress_funding_spend spend multiplier = spend + |spend| * (multiplier - 1) := by
  unfold stress_funding_spend
  split_ifs with hspend
  · rw [abs_of_nonneg hspend]
    ring
  · rw [max_eq_right (sub_nonneg.mpr h)]

/-- Funding grows with the severity, at the rate of the funding multiplier. -/
theorem stress_funding_spend_sub {scenario : StressScenario K}
    (hneutral : 1 ≤ scenario.funding_multiplier) (spend : K) {severity severity' : K}
    (hseverity : 0 ≤ severity) (hle : severity ≤ severity') (position_side : String)
    (snapshot : DataSnapshot K) :
    stress_funding_spend spend (funding_multiplier scenario severity' position_side snapshot)
      - stress_funding_spend spend (funding_multiplier scenario severity position_side snapshot)
      = |spend| * scenario.funding_multiplier * (severity' - severity) := by
  have htenth : (0.1 : K) ≤ 1 := by norm_num
  rw [stress_funding_spend_eq
      (one_le_funding_multiplier hneutral (hseverity.trans hle) position_side snapshot),
    stress_funding_spend_eq (one_le_funding_multiplier hneutral hseverity position_side snapshot)]
  unfold funding_multiplier
  rw [max_eq_right (htenth.trans hneutral)]
  ring

end Factors

section Results

variable {K : Type} [Field K] [LinearOrder K] [FloorRing K]

/-! ## Statements -/

/-- No figure of the second result is better than that of the first. -/
structure NotBetter (before after : StressedResult K) : Prop where
  net_pnl : after.net_pnl ≤ before.net_pnl
  sharpe : after.sharpe ≤ before.sharpe
  sortino : after.sortino ≤ before.sortino
  win_rate : after.win_rate ≤ before.win_rate
  max_drawdown : after.max_drawdown ≤ before.max_drawdown
  funding_spend : before.funding_spend ≤ after.funding_spend
  fee_spend : before.fee_spend ≤ after.fee_spend
  liquidation_events : before.liquidation_events.Sublist after.liquidation_events

/-- No stress improves the baseline, and no more severe one a milder one. -/
structure StressNeverImproves (baseline : BacktestResult K) (scenario : StressScenario K)
    (position_side : String) (snapshot : DataSnapshot K) : Prop where
  from_baseline : ∀ severity, 0 ≤ severity → NotBetter (unstressed baseline)
    (apply_scenario_stress baseline scenario severity position_side snapshot)
  from_milder : ∀ severity severity', 0 ≤ severity → severity ≤ severity' →
    NotBetter (apply_scenario_stress baseline scenario severity position_side snapshot)
      (apply_scenario_stress baseline scenario severity' position_side snapshot)

/-- The multipliers of a scenario are neutral or above. -/
structure AtLeastNeutral (scenario : StressScenario K) : Prop where
  funding : 1 ≤ scenario.funding_multiplier
  drawdown : 1 ≤ scenario.drawdown_multiplier
  open_interest : 1 ≤ scenario.open_interest_multiplier
  liquidation : 1 ≤ scenario.liquidation_multiplier
  volatility : 1 ≤ scenario.volatility_multiplier
  hawkes_cascade : 1 ≤ scenario.hawkes_cascade_multiplier
  jump_severity : 1 ≤ scenario.jump_severity_factor

/-- The severity factor of severity 0. -/
def rest_factor (scenario : StressScenario K) (position_side : String) (snapshot : DataSnapshot K) :
    K :=
  max (severity_floor scenario position_side snapshot)
    (severity_slope scenario position_side snapshot)

/-- The funding multiplier of severity 0. -/
def rest_funding_multiplier (scenario : StressScenario K) (position_side : String)
    (snapshot : DataSnapshot K) : K :=
  scenario.funding_multiplier
    + (if position_side = "short" then funding_pressure snapshot * 3 else 0)

/-- What open interest scales the drawdown multiplier with. -/
def open_interest_factor (scenario : StressScenario K) (snapshot : DataSnapshot K) : K :=
  1 + max 0 (scenario.open_interest_multiplier - 1) * leverage_pressure snapshot

/-- What else scales it, whatever the severity. -/
def drawdown_scale (scenario : StressScenario K) : K :=
  (1 + max 0 (scenario.volatility_multiplier - 1) * 0.5)
    * (if scenario.calibration_mode = "calibrated" then max 1 scenario.hawkes_cascade_multiplier
      else 1)

/-- The drawdown multiplier of severity 0. -/
def rest_drawdown_multiplier (scenario : StressScenario K) (position_side : String)
    (snapshot : DataSnapshot K) : K :=
  (max 0.1 scenario.drawdown_multiplier * premium_factor scenario
      + squeeze_drawdown scenario position_side snapshot)
    * open_interest_factor scenario snapshot * drawdown_scale scenario

/-- The baseline has no loss or negative ratio that a factor could shrink, or its
funding grows faster; and at severity 0 the factors leave it no better. -/
structure NothingToShrink (baseline : BacktestResult K) (scenario : StressScenario K)
    (position_side : String) (snapshot : DataSnapshot K) : Prop where
  sharpe : 0 ≤ baseline.sharpe
  sortino : 0 ≤ baseline.sortino
  win_rate : 0 ≤ baseline.win_rate
    ∧ baseline.win_rate * rest_factor scenario position_side snapshot ≤ baseline.win_rate
  net_pnl : baseline.gross_pnl * rest_factor scenario position_side snapshot
    - (baseline.fee_spend + extra_liquidity_cost scenario baseline.gross_pnl)
    - stress_funding_spend baseline.funding_spend
      (rest_funding_multiplier scenario position_side snapshot) ≤ baseline.net_pnl
  losses : 0 ≤ baseline.gross_pnl
    ∨ severity_slope scenario position_side snapshot ≤ severity_floor scenario position_side snapshot
    ∨ |baseline.gross_pnl| * (severity_slope scenario position_side snapshot * 0.65)
      ≤ |baseline.funding_spend| * scenario.funding_multiplier
  drawdown : baseline.max_drawdown = 0
    ∨ 0 ≤ open_interest_factor scenario snapshot
      ∧ -|baseline.max_drawdown| * rest_drawdown_multiplier scenario position_side snapshot
        ≤ baseline.max_drawdown

/-! ## Figure by figure -/

section Figures

variable [IsStrictOrderedRing K]

omit [FloorRing K] in
/-- A ratio scaled with a falling factor improves exactly when it is negative. -/
theorem ratio_never_improves_iff (ratio : K) {low rate : K} (hlow : low < 1) (hrate : 0 < rate) :
    ((∀ s, 0 ≤ s → ratio * max low (1 - s * rate) ≤ ratio)
      ∧ ∀ s s', 0 ≤ s → s ≤ s' → ratio * max low (1 - s' * rate) ≤ ratio * max low (1 - s * rate))
      ↔ 0 ≤ ratio := by
  constructor
  · rintro ⟨hbaseline, -⟩
    have hend := hbaseline ((1 - low) / rate) (div_nonneg (by linarith) hrate.le)
    rw [div_mul_cancel₀ _ hrate.ne', sub_sub_cancel, max_self] at hend
    by_contra hneg
    have hshrunk : ratio * 1 < ratio * low := mul_lt_mul_of_neg_left hlow (not_le.mp hneg)
    linarith
  · intro hratio
    refine ⟨fun s hs => ?_, fun s s' hs hle => ?_⟩
    · have hfactor : max low (1 - s * rate) ≤ 1 := by
        have := mul_nonneg hs hrate.le
        exact max_le hlow.le (by linarith)
      exact mul_le_of_le_one_right hratio hfactor
    · have hline : 1 - s' * rate ≤ 1 - s * rate := by
        have := mul_le_mul_of_nonneg_right hle hrate.le
        linarith
      exact mul_le_mul_of_nonneg_left (max_le_max le_rfl hline) hratio

variable {scenario : StressScenario K} {position_side : String} {snapshot : DataSnapshot K}

omit [FloorRing K] in
theorem severity_factor_zero :
    severity_factor scenario 0 position_side snapshot = rest_factor scenario position_side snapshot := by
  have htenth : (0.1 : K) ≤ 1 := by norm_num
  rw [severity_factor_eq, clamped_ramp_zero htenth, rest_factor]

variable (scenario position_side snapshot) in
omit [FloorRing K] in
theorem severity_factor_antitone {severity severity' : K} (h : severity ≤ severity') :
    severity_factor scenario severity' position_side snapshot
      ≤ severity_factor scenario severity position_side snapshot := by
  rw [severity_factor_eq, severity_factor_eq]
  exact clamped_ramp_antitone (severity_slope_nonneg scenario position_side snapshot)
    (by norm_num) h

variable (scenario position_side snapshot) in
omit [FloorRing K] in
/-- The win rate improves when it is negative or the factor is above one. -/
theorem win_rate_never_improves_iff (win_rate : K) :
    ((∀ s, 0 ≤ s → max 0 (win_rate * severity_factor scenario s position_side snapshot) ≤ win_rate)
      ∧ ∀ s s', 0 ≤ s → s ≤ s' →
        max 0 (win_rate * severity_factor scenario s' position_side snapshot)
          ≤ max 0 (win_rate * severity_factor scenario s position_side snapshot))
      ↔ 0 ≤ win_rate ∧ win_rate * rest_factor scenario position_side snapshot ≤ win_rate := by
  constructor
  · rintro ⟨hbaseline, -⟩
    have hrest := hbaseline 0 le_rfl
    rw [severity_factor_zero] at hrest
    exact ⟨(le_max_left _ _).trans hrest, (le_max_right _ _).trans hrest⟩
  · rintro ⟨hnonneg, hrest⟩
    have hfalls : ∀ s s', s ≤ s' → win_rate * severity_factor scenario s' position_side snapshot
        ≤ win_rate * severity_factor scenario s position_side snapshot := fun s s' hle =>
      mul_le_mul_of_nonneg_left (severity_factor_antitone scenario position_side snapshot hle) hnonneg
    refine ⟨fun s hs => max_le hnonneg ((hfalls 0 s hs).trans ?_),
      fun s s' _ hle => max_le_max le_rfl (hfalls s s' hle)⟩
    rw [severity_factor_zero]
    exact hrest

omit [FloorRing K] in
theorem funding_multiplier_zero (hneutral : 1 ≤ scenario.funding_multiplier) :
    funding_multiplier scenario 0 position_side snapshot
      = rest_funding_multiplier scenario position_side snapshot := by
  have htenth : (0.1 : K) ≤ 1 := by norm_num
  rw [funding_multiplier, rest_funding_multiplier, add_zero, one_mul,
    max_eq_right (htenth.trans hneutral)]

variable (scenario position_side snapshot) in
omit [FloorRing K] in
/-- A loss that the factor shrinks is covered by the funding that grows, or the
factor does not fall. -/
theorem loss_covered_iff (hneutral : 1 ≤ scenario.funding_multiplier) (gross_pnl spend : K) :
    (∀ s s', 0 ≤ s → s ≤ s' →
      gross_pnl * severity_factor scenario s' position_side snapshot
          - stress_funding_spend spend (funding_multiplier scenario s' position_side snapshot)
        ≤ gross_pnl * severity_factor scenario s position_side snapshot
          - stress_funding_spend spend (funding_multiplier scenario s position_side snapshot))
      ↔ 0 ≤ gross_pnl
        ∨ severity_slope scenario position_side snapshot
            ≤ severity_floor scenario position_side snapshot
        ∨ |gross_pnl| * (severity_slope scenario position_side snapshot * 0.65)
            ≤ |spend| * scenario.funding_multiplier := by
  have hrate : 0 ≤ |spend| * scenario.funding_multiplier :=
    mul_nonneg (abs_nonneg _) (zero_le_one.trans hneutral)
  rcases le_or_gt 0 gross_pnl with hgain | hloss
  · refine ⟨fun _ => Or.inl hgain, fun _ s s' hs hle => ?_⟩
    have hfactor := mul_le_mul_of_nonneg_left
      (severity_factor_antitone scenario position_side snapshot hle) hgain
    have hspend := stress_funding_spend_sub hneutral spend hs hle position_side snapshot
    have hgrown : 0 ≤ |spend| * scenario.funding_multiplier * (s' - s) :=
      mul_nonneg hrate (sub_nonneg.mpr hle)
    linarith
  · rw [or_iff_right hloss.not_ge, ← fall_le_iff (abs_nonneg gross_pnl) hrate
      (severity_floor_pos scenario position_side snapshot).le
      (severity_slope_nonneg scenario position_side snapshot) (by norm_num : (0 : K) < 0.65)
      (by norm_num : (0.1 : K) < 1)]
    refine forall_congr' fun s => forall_congr' fun s' => forall_congr' fun hs =>
      forall_congr' fun hle => ?_
    have hspend := stress_funding_spend_sub hneutral spend hs hle position_side snapshot
    rw [← severity_factor_eq, ← severity_factor_eq, abs_of_neg hloss, ← hspend]
    constructor <;> intro h <;> linarith

theorem premium_factor_pos (scenario : StressScenario K) : 0 < premium_factor scenario := by
  unfold premium_factor
  split_ifs with hpremium
  · have : 0 < scenario_dislocation_premium_bps scenario / 10000 := div_pos hpremium (by norm_num)
    linarith
  · exact one_pos

omit [FloorRing K] in
theorem drawdown_scale_pos (scenario : StressScenario K) : 0 < drawdown_scale scenario := by
  have hvolatility : 0 ≤ max 0 (scenario.volatility_multiplier - 1) * 0.5 :=
    mul_nonneg (le_max_left _ _) (by norm_num)
  unfold drawdown_scale
  refine mul_pos (by linarith) ?_
  split_ifs with hmode
  · exact lt_of_lt_of_le one_pos (le_max_left _ _)
  · exact one_pos

omit [IsStrictOrderedRing K] in
/-- The drawdown multiplier is a line in the severity. -/
theorem drawdown_multiplier_eq (scenario : StressScenario K) (severity : K) (position_side : String)
    (snapshot : DataSnapshot K) : drawdown_multiplier scenario severity position_side snapshot
      = rest_drawdown_multiplier scenario position_side snapshot
        + severity * (1.7 * (max 0.1 scenario.drawdown_multiplier * premium_factor scenario)
          * drawdown_scale scenario * open_interest_factor scenario snapshot) := by
  unfold drawdown_multiplier rest_drawdown_multiplier drawdown_scale open_interest_factor
  split_ifs with hmode
  · ring
  · ring

/-- The drawdown gets shallower exactly when the line starts below one or falls. -/
theorem drawdown_never_improves_iff (scenario : StressScenario K) (position_side : String)
    (snapshot : DataSnapshot K) (max_drawdown : K) :
    ((∀ s, 0 ≤ s →
        -|max_drawdown| * drawdown_multiplier scenario s position_side snapshot ≤ max_drawdown)
      ∧ ∀ s s', 0 ≤ s → s ≤ s' →
        -|max_drawdown| * drawdown_multiplier scenario s' position_side snapshot
          ≤ -|max_drawdown| * drawdown_multiplier scenario s position_side snapshot)
      ↔ max_drawdown = 0
        ∨ 0 ≤ open_interest_factor scenario snapshot
          ∧ -|max_drawdown| * rest_drawdown_multiplier scenario position_side snapshot
            ≤ max_drawdown := by
  have hbase : (0 : K) < max 0.1 scenario.drawdown_multiplier :=
    lt_max_of_lt_left (by norm_num)
  have hweight : 0 < 1.7 * (max 0.1 scenario.drawdown_multiplier * premium_factor scenario)
      * drawdown_scale scenario :=
    mul_pos (mul_pos (by norm_num) (mul_pos hbase (premium_factor_pos scenario)))
      (drawdown_scale_pos scenario)
  simp only [drawdown_multiplier_eq]
  rcases eq_or_ne max_drawdown 0 with hzero | hne
  · simp [hzero]
  · have habs : 0 < |max_drawdown| := abs_pos.mpr hne
    rw [or_iff_right hne]
    constructor
    · rintro ⟨hbaseline, hmilder⟩
      have hstart := hbaseline 0 le_rfl
      have hgrows := hmilder 0 1 le_rfl zero_le_one
      rw [zero_mul, add_zero] at hstart hgrows
      refine ⟨?_, hstart⟩
      have hline : 0 ≤ 1.7 * (max 0.1 scenario.drawdown_multiplier * premium_factor scenario)
          * drawdown_scale scenario * open_interest_factor scenario snapshot := by
        have hscaled : 0 ≤ |max_drawdown|
            * (1.7 * (max 0.1 scenario.drawdown_multiplier * premium_factor scenario)
              * drawdown_scale scenario * open_interest_factor scenario snapshot) := by linarith
        exact nonneg_of_mul_nonneg_right hscaled habs
      exact nonneg_of_mul_nonneg_right hline hweight
    · rintro ⟨hfactor, hstart⟩
      have hline := mul_nonneg hweight.le hfactor
      have hgrows : ∀ s s', s ≤ s' → -|max_drawdown| * (s' * _) ≤ -|max_drawdown| * (s * _) :=
        fun s s' hle => mul_le_mul_of_nonpos_left (mul_le_mul_of_nonneg_right hle hline)
          (neg_nonpos.mpr habs.le)
      refine ⟨fun s hs => ?_, fun s s' _ hle => ?_⟩
      · have := hgrows 0 s hs
        rw [zero_mul, mul_zero] at this
        rw [mul_add]
        linarith
      · have := hgrows s s' hle
        rw [mul_add, mul_add]
        linarith

/-! ## All figures -/

theorem scenario_dislocation_liquidity_penalty_nonneg (scenario : StressScenario K) :
    0 ≤ scenario_dislocation_liquidity_penalty_bps scenario := by
  unfold scenario_dislocation_liquidity_penalty_bps scenario_dislocation_summary
  dsimp only
  split_ifs with hempty
  · exact le_rfl
  · have hbasis : (0 : K) ≤ pyRound (max 0 scenario.index_basis_bps) 6 * 0.1 :=
      mul_nonneg (pyRound_nonneg (le_max_left _ _) 6) (by norm_num)
    have hspike : (0 : K) ≤ (min (max 0 scenario.premium_spike_bars) 6 : ℤ) * 2 :=
      mul_nonneg (Int.cast_nonneg (le_min (le_max_left _ _) (by norm_num))) (by norm_num)
    exact le_min (by norm_num) (add_nonneg hbasis hspike)

theorem extra_liquidity_cost_nonneg (scenario : StressScenario K) (gross_pnl : K) :
    0 ≤ extra_liquidity_cost scenario gross_pnl :=
  div_nonneg (mul_nonneg (abs_nonneg _) (add_nonneg (le_max_left _ _)
    (scenario_dislocation_liquidity_penalty_nonneg scenario))) (by norm_num)

/-- The events of a milder stress are among those of a more severe one. -/
theorem synthetic_events_sublist {severity severity' : K}
    (hle : severity ≤ severity') :
    (synthetic_events scenario severity position_side snapshot).Sublist
      (synthetic_events scenario severity' position_side snapshot) := by
  have hguarded : ∀ (p q : Prop) [Decidable p] [Decidable q] (events : List (RiskEvent K)),
      (p → q) → (if p then events else []).Sublist (if q then events else []) := by
    intro p q _ _ events hpq
    by_cases hp : p
    · rw [if_pos hp, if_pos (hpq hp)]
    · rw [if_neg hp]
      exact List.nil_sublist _
  refine List.Sublist.append (hguarded _ _ _ fun h => ⟨h.1, h.2.trans hle⟩) ?_
  by_cases hside : position_side = "short"
  · rw [if_pos hside, if_pos hside]
    exact hguarded _ _ _ fun h => h.trans (add_le_add_left hle _)
  · rw [if_neg hside, if_neg hside]
    exact hguarded _ _ _ fun h => h.trans hle

section Main

variable {baseline : BacktestResult K}

/-- What the stresses leave to shrink, read off them figure by figure. -/
theorem StressNeverImproves.nothing_to_shrink
    (hneutral : AtLeastNeutral (resolve_scenario_profile scenario snapshot.venue))
    (h : StressNeverImproves baseline scenario position_side snapshot) :
    NothingToShrink baseline (resolve_scenario_profile scenario snapshot.venue) position_side
      snapshot where
  sharpe := (ratio_never_improves_iff baseline.sharpe (by norm_num : (0.15 : K) < 1)
    (by norm_num : (0 : K) < 0.8)).mp
    ⟨fun s hs => (h.from_baseline s hs).sharpe,
      fun s s' hs hle => (h.from_milder s s' hs hle).sharpe⟩
  sortino := (ratio_never_improves_iff baseline.sortino (by norm_num : (0.15 : K) < 1)
    (by norm_num : (0 : K) < 0.75)).mp
    ⟨fun s hs => (h.from_baseline s hs).sortino,
      fun s s' hs hle => (h.from_milder s s' hs hle).sortino⟩
  win_rate := (win_rate_never_improves_iff (resolve_scenario_profile scenario snapshot.venue)
    position_side snapshot baseline.win_rate).mp
    ⟨fun s hs => (h.from_baseline s hs).win_rate,
      fun s s' hs hle => (h.from_milder s s' hs hle).win_rate⟩
  net_pnl := by
    have hrest := (h.from_baseline 0 le_rfl).net_pnl
    rw [← severity_factor_zero, ← funding_multiplier_zero hneutral.funding]
    exact hrest
  losses := by
    apply (loss_covered_iff (resolve_scenario_profile scenario snapshot.venue) position_side
      snapshot hneutral.funding baseline.gross_pnl baseline.funding_spend).mp
    intro s s' hs hle
    have hnet := (h.from_milder s s' hs hle).net_pnl
    dsimp only [apply_scenario_stress, apply_resolved_stress] at hnet
    linarith
  drawdown := (drawdown_never_improves_iff (resolve_scenario_profile scenario snapshot.venue)
    position_side snapshot baseline.max_drawdown).mp
    ⟨fun s hs => (h.from_baseline s hs).max_drawdown,
      fun s s' hs hle => (h.from_milder s s' hs hle).max_drawdown⟩

/-- With nothing to shrink, no stress improves the baseline. -/
theorem NothingToShrink.from_baseline
    (hneutral : AtLeastNeutral (resolve_scenario_profile scenario snapshot.venue))
    (h : NothingToShrink baseline (resolve_scenario_profile scenario snapshot.venue) position_side
      snapshot) {severity : K} (hs : 0 ≤ severity) :
    NotBetter (unstressed baseline)
      (apply_scenario_stress baseline scenario severity position_side snapshot) where
  sharpe := ((ratio_never_improves_iff baseline.sharpe (by norm_num : (0.15 : K) < 1)
    (by norm_num : (0 : K) < 0.8)).mpr h.sharpe).1 severity hs
  sortino := ((ratio_never_improves_iff baseline.sortino (by norm_num : (0.15 : K) < 1)
    (by norm_num : (0 : K) < 0.75)).mpr h.sortino).1 severity hs
  win_rate := ((win_rate_never_improves_iff (resolve_scenario_profile scenario snapshot.venue)
    position_side snapshot baseline.win_rate).mpr h.win_rate).1 severity hs
  max_drawdown := ((drawdown_never_improves_iff (resolve_scenario_profile scenario snapshot.venue)
    position_side snapshot baseline.max_drawdown).mpr h.drawdown).1 severity hs
  fee_spend := le_add_of_nonneg_right (extra_liquidity_cost_nonneg _ _)
  liquidation_events := List.sublist_append_left _ _
  net_pnl := by
    have hrest := h.net_pnl
    rw [← severity_factor_zero, ← funding_multiplier_zero hneutral.funding] at hrest
    have hfalls := (loss_covered_iff (resolve_scenario_profile scenario snapshot.venue)
      position_side snapshot hneutral.funding baseline.gross_pnl baseline.funding_spend).mpr
      h.losses 0 severity le_rfl hs
    dsimp only [apply_scenario_stress, apply_resolved_stress, unstressed]
    linarith
  funding_spend := by
    have hmultiplier := one_le_funding_multiplier hneutral.funding hs position_side snapshot
    dsimp only [apply_scenario_stress, apply_resolved_stress, unstressed]
    rw [stress_funding_spend_eq hmultiplier]
    exact le_add_of_nonneg_right (mul_nonneg (abs_nonneg _) (sub_nonneg.mpr hmultiplier))

/-- With nothing to shrink, no stress improves on a milder one. -/
theorem NothingToShrink.from_milder
    (hneutral : AtLeastNeutral (resolve_scenario_profile scenario snapshot.venue))
    (h : NothingToShrink baseline (resolve_scenario_profile scenario snapshot.venue) position_side
      snapshot) {severity severity' : K} (hs : 0 ≤ severity) (hle : severity ≤ severity') :
    NotBetter (apply_scenario_stress baseline scenario severity position_side snapshot)
      (apply_scenario_stress baseline scenario severity' position_side snapshot) where
  sharpe := ((ratio_never_improves_iff baseline.sharpe (by norm_num : (0.15 : K) < 1)
    (by norm_num : (0 : K) < 0.8)).mpr h.sharpe).2 severity severity' hs hle
  sortino := ((ratio_never_improves_iff baseline.sortino (by norm_num : (0.15 : K) < 1)
    (by norm_num : (0 : K) < 0.75)).mpr h.sortino).2 severity severity' hs hle
  win_rate := ((win_rate_never_improves_iff (resolve_scenario_profile scenario snapshot.venue)
    position_side snapshot baseline.win_rate).mpr h.win_rate).2 severity severity' hs hle
  max_drawdown := ((drawdown_never_improves_iff (resolve_scenario_profile scenario snapshot.venue)
    position_side snapshot baseline.max_drawdown).mpr h.drawdown).2 severity severity' hs hle
  fee_spend := le_rfl
  liquidation_events := List.Sublist.append (List.Sublist.refl _) (synthetic_events_sublist hle)
  net_pnl := by
    have hfalls := (loss_covered_iff (resolve_scenario_profile scenario snapshot.venue)
      position_side snapshot hneutral.funding baseline.gross_pnl baseline.funding_spend).mpr
      h.losses severity severity' hs hle
    dsimp only [apply_scenario_stress, apply_resolved_stress]
    linarith
  funding_spend := by
    have hgrowth := stress_funding_spend_sub hneutral.funding baseline.funding_spend hs hle
      position_side snapshot
    have hnonneg := mul_nonneg (mul_nonneg (abs_nonneg baseline.funding_spend)
      (zero_le_one.trans hneutral.funding)) (sub_nonneg.mpr hle)
    dsimp only [apply_scenario_stress, apply_resolved_stress]
    linarith

end Main

/-- A stress never improves a result, and a more severe one never a milder one's,
if and only if there is nothing that the factors shrink or turn around. -/
theorem stress_never_improves_iff (baseline : BacktestResult K) (scenario : StressScenario K)
    (position_side : String) (snapshot : DataSnapshot K)
    (hneutral : AtLeastNeutral (resolve_scenario_profile scenario snapshot.venue)) :
    StressNeverImproves baseline scenario position_side snapshot
      ↔ NothingToShrink baseline (resolve_scenario_profile scenario snapshot.venue) position_side
        snapshot := by
  constructor
  · intro h
    exact h.nothing_to_shrink hneutral
  · intro h
    refine ⟨?_, ?_⟩
    · intro s hs
      exact h.from_baseline hneutral hs
    · intro s s' hs hle
      exact h.from_milder hneutral hs hle

end Figures

end Results

/-! ## A profit and a loss -/

section Examples

/-- A snapshot without candles, open interest and liquidations. -/
def quiet_snapshot : DataSnapshot ℚ where
  venue := "binance"
  timeframe := "1h"
  candles := []
  funding_rates := []
  open_interest := []
  liquidation_notional := []
  taker_fee_bps := 5
  spread_bps := []
  depth_bid_1bp_usd := []
  depth_ask_1bp_usd := []
  latency_proxy_ms := []
  venue_profile := none
  provenance_microstructure := none

/-- A result of one trade. -/
def one_trade (pnl ratio : ℚ) : BacktestResult ℚ where
  trade_count := 1
  win_rate := if 0 < pnl then 1 else 0
  gross_pnl := pnl
  net_pnl := pnl
  fee_spend := 0
  funding_spend := 0
  sharpe := ratio
  sortino := ratio
  max_drawdown := -1 / 10
  equity_curve := [0, pnl]
  liquidation_events := []
  execution_pressure_summary := none

/-- A scenario that has no preset. -/
def plain_scenario : StressScenario ℚ := { name := "plain", severity := 1 / 2 }

theorem plain_scenario_neutral :
    AtLeastNeutral (resolve_scenario_profile plain_scenario quiet_snapshot.venue) := by
  constructor <;> decide +kernel

/-- Stress never improves a profit. -/
theorem stress_never_improves_profit :
    StressNeverImproves (one_trade 1 1) plain_scenario "long" quiet_snapshot := by
  refine (stress_never_improves_iff (one_trade 1 1) plain_scenario "long" quiet_snapshot
    plain_scenario_neutral).mpr ?_
  exact
    { sharpe := by decide +kernel
      sortino := by decide +kernel
      win_rate := by decide +kernel
      net_pnl := by decide +kernel
      losses := by decide +kernel
      drawdown := by decide +kernel }

/-- It improves a loss: of 1, half of it is left at severity 10 / 13, and the Sharpe
ratio grows from -1 to -5 / 13. -/
theorem stress_improves_loss :
    AtLeastNeutral (resolve_scenario_profile plain_scenario quiet_snapshot.venue)
      ∧ (apply_scenario_stress (one_trade (-1) (-1)) plain_scenario (10 / 13) "long"
          quiet_snapshot).net_pnl = -1 / 2
      ∧ (apply_scenario_stress (one_trade (-1) (-1)) plain_scenario (10 / 13) "long"
          quiet_snapshot).sharpe = -5 / 13
      ∧ ¬ StressNeverImproves (one_trade (-1) (-1)) plain_scenario "long" quiet_snapshot := by
  refine ⟨plain_scenario_neutral, by decide +kernel, by decide +kernel, fun h => ?_⟩
  have hnet := (h.from_baseline (10 / 13) (by norm_num)).net_pnl
  revert hnet
  decide +kernel

end Examples

end ProofAlpha.App
