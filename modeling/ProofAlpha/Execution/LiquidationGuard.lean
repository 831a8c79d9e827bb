/-
The liquidation guard: `execution/liquidation_guard.py`.

The guard measures how far the mark is from the liquidation price, not on which side of it. A
position that is past its liquidation price by more than the limits passes like one that is
short of it (`guard_sound_iff`).
-/
import ProofAlpha.Lib.Checks
import ProofAlpha.Lib.PyMath

set_option autoImplicit false

namespace ProofAlpha.Execution

open ProofAlpha.Lib

variable {K : Type}

/-- `LiquidationGuardConfig`. -/
structure LiquidationGuardConfig (K : Type) where
  min_distance_bps : K
  stress_move_bps : K

/-- `LiquidationGuardResult`. -/
structure LiquidationGuardResult (K : Type) where
  passed : Bool
  rejections : List String
  distance_bps : K
  stress_distance_bps : K

variable [Field K] [LinearOrder K] [FloorRing K]

omit [FloorRing K] in
/-- `distance`, in basis points of the mark. -/
def liquidation_distance (mark_price liquidation_price : K) : K :=
  |mark_price - liquidation_price| / max |mark_price| (1 / 10 ^ 9) * 10000

/-- `LiquidationGuard.evaluate`. Neither the side nor the entry price is read. -/
def LiquidationGuardConfig.evaluate (config : LiquidationGuardConfig K) (_side : String)
    (_entry_price mark_price liquidation_price : K) : LiquidationGuardResult K :=
  let distance := liquidation_distance mark_price liquidation_price
  let stress_distance := distance - config.stress_move_bps
  let rejections :=
    reason_if (distance < config.min_distance_bps) "liquidation_distance_breach"
      ++ reason_if (stress_distance < config.min_distance_bps) "stress_liquidation_distance_breach"
  { passed := rejections.isEmpty
    rejections := rejections
    distance_bps := pyRound distance 12
    stress_distance_bps := pyRound stress_distance 12 }

/-! ## What the guard is for -/

/-- The side of a position. -/
inductive GuardedSide
  | long
  | short
  deriving DecidableEq

/-- The side as the guard gets it. -/
def GuardedSide.text : GuardedSide → String
  | .long => "long"
  | .short => "short"

omit [Field K] [FloorRing K] in
/-- The position has not reached its liquidation price. -/
def BeforeLiquidation : GuardedSide → K → K → Prop
  | .long, mark_price, liquidation_price => liquidation_price < mark_price
  | .short, mark_price, liquidation_price => mark_price < liquidation_price

instance (side : GuardedSide) (mark_price liquidation_price : K) :
    Decidable (BeforeLiquidation side mark_price liquidation_price) :=
  match side with
  | .long => inferInstanceAs (Decidable (liquidation_price < mark_price))
  | .short => inferInstanceAs (Decidable (mark_price < liquidation_price))

omit [LinearOrder K] [FloorRing K] in
/-- The mark after a move against the position. -/
def stressed_mark : GuardedSide → K → K → K
  | .long, mark_price, stress_move_bps => mark_price * (1 - stress_move_bps / 10000)
  | .short, mark_price, stress_move_bps => mark_price * (1 + stress_move_bps / 10000)

omit [FloorRing K] in
/-- The position has not reached its liquidation price and does not reach it by the move. -/
structure SurvivesStress (side : GuardedSide) (mark_price liquidation_price stress_move_bps : K) :
    Prop where
  now : BeforeLiquidation side mark_price liquidation_price
  stressed : BeforeLiquidation side (stressed_mark side mark_price stress_move_bps)
    liquidation_price

section Law

variable {config : LiquidationGuardConfig K} {mark_price liquidation_price : K}

/-- The guard passes when the distance covers both limits. -/
theorem evaluate_passed_iff [IsStrictOrderedRing K] (hstress : 0 ≤ config.stress_move_bps)
    (side : String) (entry_price : K) :
    (config.evaluate side entry_price mark_price liquidation_price).passed = true
      ↔ config.min_distance_bps + config.stress_move_bps
        ≤ liquidation_distance mark_price liquidation_price := by
  unfold LiquidationGuardConfig.evaluate
  dsimp only
  rw [List.isEmpty_iff, List.append_eq_nil_iff, reason_if_eq_nil, reason_if_eq_nil,
    decide_eq_false_iff_not, decide_eq_false_iff_not, not_lt, not_lt]
  constructor
  · rintro ⟨-, hstressed⟩
    linarith
  · intro hle
    constructor
    · linarith
    · linarith

omit [FloorRing K] in
/-- A distance in basis points is one in the price, as a part of the mark at least. -/
theorem mul_lt_of_lt_distance [IsStrictOrderedRing K] {bps : K} (hmark : 0 < mark_price)
    (hbps : 0 ≤ bps) (hlt : bps < liquidation_distance mark_price liquidation_price) :
    mark_price * (bps / 10000) < |mark_price - liquidation_price| := by
  unfold liquidation_distance at hlt
  have hunit : (0 : K) < max |mark_price| (1 / 10 ^ 9) :=
    lt_max_of_lt_left (abs_pos.mpr hmark.ne')
  have hle : mark_price ≤ max |mark_price| (1 / 10 ^ 9) := le_max_of_le_left (le_abs_self _)
  have hpart : bps / 10000 < |mark_price - liquidation_price| / max |mark_price| (1 / 10 ^ 9) :=
    (div_lt_iff₀ (by norm_num)).mpr hlt
  calc mark_price * (bps / 10000)
      ≤ max |mark_price| (1 / 10 ^ 9) * (bps / 10000) := by gcongr
    _ = bps / 10000 * max |mark_price| (1 / 10 ^ 9) := mul_comm _ _
    _ < |mark_price - liquidation_price| := (lt_div_iff₀ hunit).mp hpart

omit [FloorRing K] in
/-- Short of the liquidation price, a distance of more than the move leaves room for it. -/
theorem survivesStress_of_distance [IsStrictOrderedRing K] {side : GuardedSide} {bps : K}
    (hmark : 0 < mark_price) (hbps : 0 ≤ bps)
    (hlt : bps < liquidation_distance mark_price liquidation_price)
    (hbefore : BeforeLiquidation side mark_price liquidation_price) :
    SurvivesStress side mark_price liquidation_price bps := by
  have hroom := mul_lt_of_lt_distance hmark hbps hlt
  refine ⟨hbefore, ?_⟩
  cases side with
  | long =>
      rw [abs_of_pos (sub_pos.mpr hbefore)] at hroom
      unfold BeforeLiquidation stressed_mark
      linarith
  | short =>
      rw [abs_of_neg (sub_neg.mpr hbefore)] at hroom
      unfold BeforeLiquidation stressed_mark
      linarith

omit [FloorRing K] in
/-- The distance is below a number of basis points if the prices are closer than that part of
the mark. -/
theorem liquidation_distance_lt_iff [IsStrictOrderedRing K] {bps : K} (hmark : 0 < mark_price) :
    liquidation_distance mark_price liquidation_price < bps
      ↔ |mark_price - liquidation_price| * 10000 < bps * max mark_price (1 / 10 ^ 9) := by
  have hunit : (0 : K) < max mark_price (1 / 10 ^ 9) := lt_max_of_lt_left hmark
  unfold liquidation_distance
  rw [abs_of_pos hmark, div_mul_eq_mul_div, div_lt_iff₀ hunit]

/-- A pass of the guard says that the position survives the stress if and only if the position has
not reached its liquidation price, or the prices are within the limits of each other. -/
theorem guard_sound_iff [IsStrictOrderedRing K] (config : LiquidationGuardConfig K)
    (hstress : 0 ≤ config.stress_move_bps) (hdistance : 0 < config.min_distance_bps)
    (side : GuardedSide) (entry_price : K) (hmark : 0 < mark_price) :
    ((config.evaluate side.text entry_price mark_price liquidation_price).passed = true →
        SurvivesStress side mark_price liquidation_price config.stress_move_bps)
      ↔ BeforeLiquidation side mark_price liquidation_price
        ∨ |mark_price - liquidation_price| * 10000
          < (config.min_distance_bps + config.stress_move_bps)
            * max mark_price (1 / 10 ^ 9) := by
  rw [evaluate_passed_iff hstress, ← liquidation_distance_lt_iff hmark]
  constructor
  · intro hsound
    by_cases hle : config.min_distance_bps + config.stress_move_bps
        ≤ liquidation_distance mark_price liquidation_price
    · exact Or.inl (hsound hle).now
    · exact Or.inr (not_le.mp hle)
  · rintro (hbefore | hlt) hle
    · exact survivesStress_of_distance hmark hstress (by linarith) hbefore
    · exact absurd hle (not_le.mpr hlt)

end Law

/-! ## A long position that is past its liquidation price -/

/-- A distance of five percent, and a stress of three. -/
def five_percent_guard : LiquidationGuardConfig ℚ := ⟨500, 300⟩

/-- Ten percent above its liquidation price a long position passes and survives. -/
theorem guard_sound_healthy : SurvivesStress .long (100 : ℚ) 90 300 :=
  (guard_sound_iff five_percent_guard (by decide) (by decide) .long 100 (by decide)).mpr
    (Or.inl (by decide)) (by decide +kernel)

/-- Ten percent below its liquidation price it passes as well. -/
theorem guard_passes_past_liquidation :
    (five_percent_guard.evaluate "long" 120 100 110).passed = true
      ∧ ¬ SurvivesStress .long (100 : ℚ) 110 300 := by
  constructor
  · decide +kernel
  · intro h
    exact absurd h.now (by decide)

end ProofAlpha.Execution
