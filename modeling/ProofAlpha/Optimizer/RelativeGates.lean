/-
What the decision on a candidate makes of better figures (`evaluate_candidate`).

Each gate and each gain moves one way with the figure it reads, so a candidate that is
at least as good everywhere is decided at least as high. Against the incumbent itself
the gates are not so neutral: the floor of the Sharpe ratio is 95 percent of the
incumbent's, which lies above it where that ratio is negative.
-/
import Mathlib.Algebra.Order.Field.Basic
import Mathlib.Tactic.Linarith
import Mathlib.Tactic.NormNum
import ProofAlpha.Optimizer.Phases

set_option autoImplicit false

namespace ProofAlpha.Optimizer

open ProofAlpha.Lib
open ProofAlpha.Backtest (BacktestResult)
open ProofAlpha.Validation (PromotionDecision)

variable {K : Type} [Field K] [LinearOrder K]

/-! ## The gates -/

/-- The evaluation of a candidate: its two backtests and the bootstrap of the strategy. -/
structure CandidateFigures (K : Type) where
  train : BacktestResult K
  oos : BacktestResult K
  bootstrap_report : BootstrapReport K

/-- The incumbent's backtests and the settings, the same for all candidates. -/
structure PromotionContext (K : Type) where
  incumbent_train : BacktestResult K
  incumbent_oos : BacktestResult K
  min_oos_trades : ℤ
  position_leverage : K

/-- The reasons against a candidate. -/
def PromotionContext.reasons (context : PromotionContext K) (candidate : CandidateFigures K) :
    List String :=
  rejection_reasons context.incumbent_train context.incumbent_oos candidate.train candidate.oos
    candidate.bootstrap_report context.min_oos_trades context.position_leverage

/-- The decision on a candidate. -/
def PromotionContext.decision (context : PromotionContext K) (candidate : CandidateFigures K) :
    PromotionDecision :=
  evaluate_candidate context.incumbent_train context.incumbent_oos candidate.train candidate.oos
    candidate.bootstrap_report context.min_oos_trades context.position_leverage

/-- A candidate passes every gate. -/
structure PassesGates (context : PromotionContext K) (candidate : CandidateFigures K) :
    Prop where
  trades : context.min_oos_trades ≤ candidate.oos.trade_count
  train_drawdown :
    |candidate.train.max_drawdown| ≤ |context.incumbent_train.max_drawdown| * 1.05
  oos_sharpe : context.incumbent_oos.sharpe * 0.95 ≤ candidate.oos.sharpe
  kill_switch :
    -0.25 * max 1 context.position_leverage < candidate.bootstrap_report.worst_case_drawdown
  train_liquidations : candidate.train.liquidation_events = []
  oos_liquidations : candidate.oos.liquidation_events = []

theorem reasons_eq_nil_iff {context : PromotionContext K} {candidate : CandidateFigures K} :
    context.reasons candidate = [] ↔ PassesGates context candidate := by
  unfold PromotionContext.reasons rejection_reasons
  simp only [List.append_eq_nil_iff, reason_if_eq_nil, decide_eq_false_iff_not, not_lt, not_le,
    Bool.or_eq_false_iff, Bool.not_eq_false', List.isEmpty_iff]
  constructor
  · rintro ⟨⟨⟨⟨htrades, htrain⟩, hsharpe⟩, hkill⟩, hliquidated, hoos⟩
    exact ⟨htrades, htrain, hsharpe, hkill, hliquidated, hoos⟩
  · rintro ⟨htrades, htrain, hsharpe, hkill, hliquidated, hoos⟩
    exact ⟨⟨⟨⟨htrades, htrain⟩, hsharpe⟩, hkill⟩, hliquidated, hoos⟩

/-! ## The gains -/

/-- The three gains of a candidate that passes the gates are all too small. -/
def InsufficientImprovement (context : PromotionContext K) (candidate : CandidateFigures K) :
    Prop :=
  (candidate.oos.sharpe - context.incumbent_oos.sharpe)
      / max |context.incumbent_oos.sharpe| 1e-9 < 0.02 ∧
    (max |context.incumbent_oos.max_drawdown| 1e-9
        - |candidate.bootstrap_report.worst_case_drawdown|)
      / max |context.incumbent_oos.max_drawdown| 1e-9 < 0.10 ∧
    (candidate.bootstrap_report.median_net_profit - context.incumbent_oos.net_pnl)
      / max |context.incumbent_oos.net_pnl| 1e-9 < 0.05

instance (context : PromotionContext K) (candidate : CandidateFigures K) :
    Decidable (InsufficientImprovement context candidate) :=
  inferInstanceAs (Decidable (_ ∧ _ ∧ _))

/-- The decision by its gates and gains. -/
theorem decision_eq (context : PromotionContext K) (candidate : CandidateFigures K) :
    context.decision candidate
      = if ! (context.reasons candidate).isEmpty then .reject (context.reasons candidate)
        else if InsufficientImprovement context candidate then
          ⟨"wash", ["insufficient_improvement"]⟩
        else .accept := rfl

theorem decision_reject_iff {context : PromotionContext K} {candidate : CandidateFigures K} :
    (context.decision candidate).decision = "reject" ↔ ¬ PassesGates context candidate := by
  rw [← reasons_eq_nil_iff, decision_eq]
  by_cases hreasons : context.reasons candidate = []
  · simp only [hreasons, List.isEmpty_nil, Bool.not_true, Bool.false_eq_true, if_false, not_true,
      iff_false]
    split_ifs <;> simp [PromotionDecision.accept]
  · simp [hreasons]

/-- A gate's reason is among those of the decision when it is against the candidate. -/
theorem mem_decision_reasons_iff {context : PromotionContext K}
    {candidate : CandidateFigures K} {reason : String}
    (hreason : reason ≠ "insufficient_improvement") :
    reason ∈ (context.decision candidate).reasons ↔ reason ∈ context.reasons candidate := by
  rw [decision_eq]
  by_cases hreasons : context.reasons candidate = []
  · simp only [hreasons, List.isEmpty_nil, Bool.not_true, Bool.false_eq_true, if_false,
      List.not_mem_nil, iff_false]
    split_ifs <;> simp [PromotionDecision.accept, hreason]
  · simp [hreasons, PromotionDecision.reject]

theorem mem_reasons_train_iff {context : PromotionContext K}
    {candidate : CandidateFigures K} :
    "train_drawdown_cap" ∈ context.reasons candidate ↔
      |context.incumbent_train.max_drawdown| * 1.05 < |candidate.train.max_drawdown| := by
  simp [PromotionContext.reasons, rejection_reasons]

theorem mem_reasons_sharpe_iff {context : PromotionContext K}
    {candidate : CandidateFigures K} :
    "oos_sharpe_floor" ∈ context.reasons candidate ↔
      candidate.oos.sharpe < context.incumbent_oos.sharpe * 0.95 := by
  simp [PromotionContext.reasons, rejection_reasons]

/-! ## Better figures -/

/-- The order `reject < wash < accept` of the decisions. -/
def decision_rank (decision : PromotionDecision) : ℕ :=
  if decision.decision = "accept" then 2 else if decision.decision = "wash" then 1 else 0

/-- The second candidate is at least as good in everything the decision reads. -/
structure AtLeastAsGood (first second : CandidateFigures K) : Prop where
  trade_count : first.oos.trade_count ≤ second.oos.trade_count
  train_drawdown : |second.train.max_drawdown| ≤ |first.train.max_drawdown|
  sharpe : first.oos.sharpe ≤ second.oos.sharpe
  worst_drawdown :
    first.bootstrap_report.worst_case_drawdown ≤ second.bootstrap_report.worst_case_drawdown
  median_profit :
    first.bootstrap_report.median_net_profit ≤ second.bootstrap_report.median_net_profit
  train_liquidations : second.train.liquidation_events ⊆ first.train.liquidation_events
  oos_liquidations : second.oos.liquidation_events ⊆ first.oos.liquidation_events

/-- The worst drawdown of a report is a drawdown. -/
def IsDrawdown (drawdown : K) : Prop := -1 ≤ drawdown ∧ drawdown ≤ 0

/-- What passes the gates passes them with better figures. -/
theorem PassesGates.mono {context : PromotionContext K} {first second : CandidateFigures K}
    (hbetter : AtLeastAsGood first second) (h : PassesGates context first) :
    PassesGates context second where
  trades := h.trades.trans (by exact_mod_cast hbetter.trade_count)
  train_drawdown := hbetter.train_drawdown.trans h.train_drawdown
  oos_sharpe := h.oos_sharpe.trans hbetter.sharpe
  kill_switch := h.kill_switch.trans_le hbetter.worst_drawdown
  train_liquidations := by
    have hsubset := hbetter.train_liquidations
    rw [h.train_liquidations] at hsubset
    exact List.subset_nil.mp hsubset
  oos_liquidations := by
    have hsubset := hbetter.oos_liquidations
    rw [h.oos_liquidations] at hsubset
    exact List.subset_nil.mp hsubset

variable [IsStrictOrderedRing K]

/-- A candidate that is at least as good as the incumbent in train drawdown and Sharpe
ratio passes the two relative gates exactly where the incumbent's Sharpe ratio is not
negative or the candidate's reaches 95 percent of it. -/
theorem relative_gates_iff (context : PromotionContext K) (candidate : CandidateFigures K)
    (htrain : |candidate.train.max_drawdown| ≤ |context.incumbent_train.max_drawdown|)
    (hsharpe : context.incumbent_oos.sharpe ≤ candidate.oos.sharpe) :
    ("train_drawdown_cap" ∉ (context.decision candidate).reasons ∧
        "oos_sharpe_floor" ∉ (context.decision candidate).reasons) ↔
      (0 ≤ context.incumbent_oos.sharpe ∨
        context.incumbent_oos.sharpe * 0.95 ≤ candidate.oos.sharpe) := by
  rw [mem_decision_reasons_iff (by decide), mem_decision_reasons_iff (by decide),
    mem_reasons_train_iff, mem_reasons_sharpe_iff, not_lt, not_lt]
  have hcap : |candidate.train.max_drawdown| ≤ |context.incumbent_train.max_drawdown| * 1.05 := by
    have hnonneg := abs_nonneg context.incumbent_train.max_drawdown
    linarith
  constructor
  · rintro ⟨-, hfloor⟩
    exact Or.inr hfloor
  · rintro (hincumbent | hfloor)
    · exact ⟨hcap, by linarith⟩
    · exact ⟨hcap, hfloor⟩

/-- No gain gets smaller with better figures. -/
theorem InsufficientImprovement.anti {context : PromotionContext K}
    {first second : CandidateFigures K} (hbetter : AtLeastAsGood first second)
    (hfirst : IsDrawdown first.bootstrap_report.worst_case_drawdown)
    (hsecond : IsDrawdown second.bootstrap_report.worst_case_drawdown)
    (h : InsufficientImprovement context second) : InsufficientImprovement context first := by
  have hscale : ∀ x : K, 0 ≤ max |x| 1e-9 := fun x => le_max_of_le_left (abs_nonneg x)
  obtain ⟨hsharpe, hdrawdown, hprofit⟩ := h
  refine ⟨lt_of_le_of_lt ?_ hsharpe, lt_of_le_of_lt ?_ hdrawdown, lt_of_le_of_lt ?_ hprofit⟩
  · exact div_le_div_of_nonneg_right (sub_le_sub_right hbetter.sharpe _) (hscale _)
  · -- a drawdown is not positive, so the greater of two is the smaller in size
    refine div_le_div_of_nonneg_right (sub_le_sub_left ?_ _) (hscale _)
    rw [abs_of_nonpos hfirst.2, abs_of_nonpos hsecond.2]
    exact neg_le_neg hbetter.worst_drawdown
  · exact div_le_div_of_nonneg_right (sub_le_sub_right hbetter.median_profit _) (hscale _)

/-- A candidate that is at least as good in every input as another one is decided at
least as high. -/
theorem evaluate_candidate_mono (context : PromotionContext K)
    (first second : CandidateFigures K) (hbetter : AtLeastAsGood first second)
    (hfirst : IsDrawdown first.bootstrap_report.worst_case_drawdown)
    (hsecond : IsDrawdown second.bootstrap_report.worst_case_drawdown) :
    decision_rank (context.decision first) ≤ decision_rank (context.decision second) := by
  by_cases hpass : context.reasons first = []
  · have hpass' : context.reasons second = [] :=
      reasons_eq_nil_iff.mpr ((reasons_eq_nil_iff.mp hpass).mono hbetter)
    rw [decision_eq, decision_eq, hpass, hpass']
    by_cases hwash : InsufficientImprovement context second
    · have hwash' := hwash.anti hbetter hfirst hsecond
      simp [hwash, hwash']
    · by_cases hwash' : InsufficientImprovement context first
      · simp [hwash, hwash', decision_rank, PromotionDecision.accept]
      · simp [hwash, hwash']
  · have hreject : decision_rank (context.decision first) = 0 := by
      rw [decision_eq]
      simp [hpass, decision_rank]
    rw [hreject]
    exact Nat.zero_le _

/-! ## An incumbent that loses -/

/-- A backtest of 150 trades with the given Sharpe ratio and drawdown. -/
def plain_result (sharpe max_drawdown : ℚ) : BacktestResult ℚ where
  trade_count := 150
  win_rate := 1 / 2
  gross_pnl := 2
  net_pnl := 1
  fee_spend := 1
  funding_spend := 0
  sharpe := sharpe
  sortino := sharpe
  max_drawdown := max_drawdown
  equity_curve := []
  liquidation_events := []
  execution_pressure_summary := none

/-- An incumbent with the given Sharpe ratio and a drawdown of a tenth. -/
def plain_context (sharpe : ℚ) : PromotionContext ℚ where
  incumbent_train := plain_result sharpe (-0.1)
  incumbent_oos := plain_result sharpe (-0.1)
  min_oos_trades := 100
  position_leverage := 1

/-- A candidate with the given Sharpe ratio and worst bootstrap drawdown. -/
def plain_candidate (sharpe worst_case_drawdown : ℚ) : CandidateFigures ℚ where
  train := plain_result sharpe (-0.1)
  oos := plain_result sharpe (-0.1)
  bootstrap_report := ⟨1, worst_case_drawdown⟩

/-- A candidate with the figures of an incumbent of Sharpe ratio `-1` is rejected for its
Sharpe ratio. -/
theorem equal_candidate_rejected :
    ¬ ∀ (context : PromotionContext ℚ) (candidate : CandidateFigures ℚ),
      |candidate.train.max_drawdown| ≤ |context.incumbent_train.max_drawdown| →
      context.incumbent_oos.sharpe ≤ candidate.oos.sharpe →
      "train_drawdown_cap" ∉ (context.decision candidate).reasons ∧
        "oos_sharpe_floor" ∉ (context.decision candidate).reasons := by
  intro hclaim
  have hgates := hclaim (plain_context (-1)) (plain_candidate (-1) (-0.1)) le_rfl le_rfl
  revert hgates
  decide +kernel

/-- The equivalence for an incumbent of Sharpe ratio one. -/
theorem relative_gates_iff_one :
    ("train_drawdown_cap" ∉ ((plain_context 1).decision (plain_candidate 1 (-0.1))).reasons ∧
        "oos_sharpe_floor" ∉ ((plain_context 1).decision (plain_candidate 1 (-0.1))).reasons) ↔
      (0 ≤ (plain_context 1).incumbent_oos.sharpe ∨
        (plain_context 1).incumbent_oos.sharpe * 0.95 ≤ (plain_candidate 1 (-0.1)).oos.sharpe) :=
  relative_gates_iff (plain_context 1) (plain_candidate 1 (-0.1)) le_rfl le_rfl

/-- A better worst drawdown makes a candidate accepted that was a wash. -/
theorem evaluate_candidate_mono_drawdown :
    decision_rank ((plain_context 1).decision (plain_candidate 1 (-0.1))) = 1 ∧
      decision_rank ((plain_context 1).decision (plain_candidate 1 (-0.05))) = 2 ∧
      decision_rank ((plain_context 1).decision (plain_candidate 1 (-0.1)))
        ≤ decision_rank ((plain_context 1).decision (plain_candidate 1 (-0.05))) := by
  refine ⟨by decide +kernel, by decide +kernel, ?_⟩
  have hbetter : AtLeastAsGood (plain_candidate 1 (-0.1)) (plain_candidate 1 (-0.05)) :=
    ⟨le_rfl, le_rfl, le_rfl, by decide +kernel, le_rfl, List.Subset.refl _, List.Subset.refl _⟩
  exact evaluate_candidate_mono (plain_context 1) _ _ hbetter
    ⟨by decide +kernel, by decide +kernel⟩ ⟨by decide +kernel, by decide +kernel⟩

end ProofAlpha.Optimizer
