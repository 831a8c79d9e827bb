/-
Runs without a liquidation.

How much of a position a liquidation takes, and how long the next one waits, is read
by the liquidation branch alone. As long as no bar reaches it (`NeverLiquidated`),
the run is the same whatever these options are (`simulate_bars_with_steps`), and its
list of liquidation events is empty then, and only then.
-/
import ProofAlpha.Backtest.Simulator

set_option autoImplicit false

namespace ProofAlpha.Backtest

open ProofAlpha.Lib ProofAlpha.Lib.IndexedLoop

variable {K : Type} [Field K] [LinearOrder K]

/-- No bar of the run is due for a liquidation. -/
def NeverLiquidated (m : PyMath K) (cfg : SimConfig K) : Prop :=
  ∀ index < cfg.bars,
    let s := stateAt (bar_step m cfg) SimState.initial index
    liquidation_due cfg (accrue_funding cfg s index) index = false

instance (m : PyMath K) (cfg : SimConfig K) : Decidable (NeverLiquidated m cfg) :=
  inferInstanceAs (Decidable (∀ index < cfg.bars, _ = false))

theorem enter_liquidation (m : PyMath K) (cfg : SimConfig K) (s : SimState K) (index : ℕ)
    (mark : K) : (enter m cfg s index mark).2.liquidation = none := by
  unfold enter
  dsimp only
  split_ifs <;> rfl

theorem exit_liquidation (m : PyMath K) (cfg : SimConfig K) (s : SimState K) (index : ℕ)
    (mark : K) : (exit m cfg s index mark).2.liquidation = none := by
  unfold exit
  dsimp only
  split_ifs <;> rfl

/-- Only the liquidation branch reports a liquidation. -/
theorem bar_step_liquidation (m : PyMath K) (cfg : SimConfig K) (s : SimState K) (index : ℕ) :
    (bar_step m cfg s index).2.liquidation = none
      ↔ liquidation_due cfg (accrue_funding cfg s index) index = false := by
  unfold bar_step
  dsimp only
  by_cases hdue : liquidation_due cfg (accrue_funding cfg s index) index = true
  · rw [if_pos hdue, hdue]
    simp [liquidate]
  · rw [if_neg hdue]
    simp only [Bool.eq_false_iff.mpr hdue, iff_true]
    split_ifs
    · exact enter_liquidation m cfg _ index _
    · exact exit_liquidation m cfg _ index _
    · rfl

/-- A run reports no liquidation exactly when no bar is due for one. -/
theorem liquidation_events_eq_nil_iff (m : PyMath K) (cfg : SimConfig K) :
    (run (bar_step m cfg) SimState.initial cfg.bars).2.filterMap BarOutput.liquidation = []
      ↔ NeverLiquidated m cfg := by
  rw [List.filterMap_eq_nil_iff, run_snd]
  constructor
  · intro h index hindex
    apply (bar_step_liquidation m cfg _ index).mp
    exact h _ (List.mem_map_of_mem (List.mem_range.mpr hindex))
  · intro h output houtput
    obtain ⟨index, hindex, rfl⟩ := List.mem_map.mp houtput
    exact (bar_step_liquidation m cfg _ index).mpr (h index (List.mem_range.mp hindex))

/-! ## The options of the liquidation branch -/

/-- How much a liquidation takes and how long the next one waits. -/
structure LiquidationSteps (K : Type) where
  partial_liquidation_ratio : K
  liquidation_cooldown_bars : ℤ
  liquidation_step_schedule : Option (List K)
  profile_forces_full_liquidation : Bool
  explicit_partial_liquidation_ratio : Bool
  explicit_liquidation_step_schedule : Bool

/-- The configuration with other options of the liquidation branch. -/
def SimConfig.with_steps (cfg : SimConfig K) (steps : LiquidationSteps K) : SimConfig K :=
  { cfg with
    settings :=
      { cfg.settings with
        partial_liquidation_ratio := steps.partial_liquidation_ratio
        liquidation_cooldown_bars := steps.liquidation_cooldown_bars
        liquidation_step_schedule := steps.liquidation_step_schedule }
    profile_forces_full_liquidation := steps.profile_forces_full_liquidation
    explicit_partial_liquidation_ratio := steps.explicit_partial_liquidation_ratio
    explicit_liquidation_step_schedule := steps.explicit_liquidation_step_schedule }

/-- Its own options of the liquidation branch. -/
def SimConfig.steps (cfg : SimConfig K) : LiquidationSteps K where
  partial_liquidation_ratio := cfg.settings.partial_liquidation_ratio
  liquidation_cooldown_bars := cfg.settings.liquidation_cooldown_bars
  liquidation_step_schedule := cfg.settings.liquidation_step_schedule
  profile_forces_full_liquidation := cfg.profile_forces_full_liquidation
  explicit_partial_liquidation_ratio := cfg.explicit_partial_liquidation_ratio
  explicit_liquidation_step_schedule := cfg.explicit_liquidation_step_schedule

/-- Outside the liquidation branch a bar does not read them. -/
theorem bar_step_with_steps (m : PyMath K) (cfg : SimConfig K) (steps : LiquidationSteps K)
    {s : SimState K} {index : ℕ}
    (h : liquidation_due cfg (accrue_funding cfg s index) index = false) :
    bar_step m (cfg.with_steps steps) s index = bar_step m cfg s index := by
  have hdue : ¬ liquidation_due cfg (accrue_funding cfg s index) index = true := by
    rw [h]
    exact Bool.false_ne_true
  have hdue' : ¬ liquidation_due (cfg.with_steps steps)
      (accrue_funding (cfg.with_steps steps) s index) index = true := hdue
  unfold bar_step
  dsimp only
  rw [if_neg hdue, if_neg hdue']
  rfl

/-- A run without a liquidation does not depend on them. -/
theorem run_with_steps {m : PyMath K} {cfg : SimConfig K} (steps : LiquidationSteps K)
    (h : NeverLiquidated m cfg) :
    run (bar_step m (cfg.with_steps steps)) SimState.initial cfg.bars
      = run (bar_step m cfg) SimState.initial cfg.bars := by
  symm
  apply run_congr
  intro index hindex
  exact (bar_step_with_steps m cfg steps (h index hindex)).symm

/-- Neither do its books and its equity curve. -/
theorem simulate_bars_with_steps {m : PyMath K} {cfg : SimConfig K} (steps : LiquidationSteps K)
    (h : NeverLiquidated m cfg) :
    simulate_bars m (cfg.with_steps steps) = simulate_bars m cfg := by
  have hrun := run_with_steps steps h
  unfold simulate_bars
  dsimp only
  change run (bar_step m (cfg.with_steps steps)) SimState.initial (cfg.with_steps steps).bars
    = _ at hrun
  rw [hrun]
  rfl

/-! ## The batch simulator's defaults -/

/-- The arguments with the defaults of `simulate_strategy_batch` for these options. -/
def SimArguments.unstepped (args : SimArguments K) : SimArguments K :=
  { args with
    partial_liquidation_ratio := some 1
    liquidation_cooldown_bars := some 0
    liquidation_step_schedule := some none }

/-- The settings they resolve to. -/
def LiquidationSettings.unstepped (settings : LiquidationSettings K) : LiquidationSettings K :=
  { settings with
    partial_liquidation_ratio := 1
    liquidation_cooldown_bars := 0
    liquidation_step_schedule := none }

theorem resolve_liquidation_defaults_unstepped (snapshot : DataSnapshot K)
    (args : SimArguments K) :
    resolve_liquidation_defaults snapshot args.unstepped
      = { resolve_liquidation_defaults snapshot args with
          partial_liquidation_ratio := 1
          liquidation_cooldown_bars := 0
          liquidation_step_schedule := none } := by
  unfold resolve_liquidation_defaults SimArguments.unstepped
  dsimp only
  congr 1
  · split_ifs <;> rfl
  · split_ifs <;> rfl

/-- With these defaults a run has the same configuration but for the options of the
liquidation branch. -/
theorem sim_config_unstepped (m : PyMath K) (snapshot : DataSnapshot K) (args : SimArguments K)
    (side : PositionSide) (settings : LiquidationSettings K) :
    sim_config m snapshot args.unstepped side settings.unstepped
      = (sim_config m snapshot args side settings).with_steps
          (sim_config m snapshot args.unstepped side settings.unstepped).steps := rfl

variable [IsStrictOrderedRing K]

/-- Arguments that pass the checks pass them with these defaults. -/
theorem check_arguments_unstepped {snapshot : DataSnapshot K} {args : SimArguments K}
    {side : PositionSide} {settings : LiquidationSettings K}
    (h : check_arguments snapshot args = .ok (side, settings)) :
    check_arguments snapshot args.unstepped = .ok (side, settings.unstepped) := by
  unfold check_arguments at h ⊢
  obtain ⟨hlength, h⟩ := require_bind_ok h
  unfold check_options at h
  obtain ⟨hlatency, h⟩ := require_bind_ok h
  obtain ⟨checked_side, hside, h⟩ := bind_ok h
  obtain ⟨hleverage, h⟩ := require_bind_ok h
  obtain ⟨hmargin, h⟩ := require_bind_ok h
  obtain ⟨hfee, h⟩ := require_bind_ok h
  obtain ⟨hweight, h⟩ := require_bind_ok h
  obtain ⟨-, h⟩ := require_bind_ok h
  obtain ⟨-, h⟩ := require_bind_ok h
  obtain ⟨-, h⟩ := require_bind_ok h
  obtain ⟨hpremium, h⟩ := require_bind_ok h
  obtain ⟨tiers, htiers, h⟩ := bind_ok h
  obtain ⟨fee_tiers, hfee_tiers, h⟩ := bind_ok h
  cases h
  have hratio : decide ((0 : K) < 1 ∧ (1 : K) ≤ 1) = true :=
    decide_eq_true ⟨zero_lt_one, le_rfl⟩
  refine (require_ok hlength _).trans ?_
  unfold check_options
  rw [resolve_liquidation_defaults_unstepped]
  refine (require_ok hlatency _).trans ?_
  have hside' : check_position_side args.unstepped.position_side = .ok side := hside
  rw [hside', ok_bind]
  refine (require_ok hleverage _).trans ?_
  refine (require_ok hmargin _).trans ?_
  refine (require_ok hfee _).trans ?_
  refine (require_ok hweight _).trans ?_
  refine (require_ok hratio _).trans ?_
  refine (require_ok rfl _).trans ?_
  refine (require_ok rfl _).trans ?_
  refine (require_ok hpremium _).trans ?_
  dsimp only
  rw [htiers, ok_bind, hfee_tiers, ok_bind]
  rfl

end ProofAlpha.Backtest
