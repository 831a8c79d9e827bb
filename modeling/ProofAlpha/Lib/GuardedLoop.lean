/-
A `while` loop that asks at its head whether to stop and otherwise runs its
body, which may raise.

`Loop.run` is the loop with fuel and keeps every completed pass: the state it
started in, what it reported and the state it left. A loop whose body lowers a measure ends,
and with one result for every fuel above the measure (`run_total`). What holds
along a run is shown once, for an invariant that may look at the passes made so
far (`run_history`); `run_consecutive` says that the passes follow each other.
-/
import Mathlib.Data.List.Basic

set_option autoImplicit false

namespace ProofAlpha.Lib

variable {σ ω ρ ε : Type}

/-- A loop over states `σ`: `guard` is the reason to stop at the head, `body` one pass. -/
structure Loop (σ ω ρ ε : Type) where
  guard : σ → Option ρ
  body : σ → Except ε (σ × ω)

/-- A completed pass. -/
structure Pass (σ ω : Type) where
  before : σ
  report : ω
  after : σ

/-- Why a loop ended. -/
inductive Ending (ρ ε : Type) where
  | stopped (reason : ρ)
  | raised (error : ε)

/-- A run that ended: its completed passes, the last state, and why it ended there. -/
structure LoopRun (σ ω ρ ε : Type) where
  passes : List (Pass σ ω)
  last : σ
  ending : Ending ρ ε

/-- The states a pass was started in, the last one included when its pass raised. -/
def LoopRun.starts (run : LoopRun σ ω ρ ε) : List σ :=
  run.passes.map Pass.before ++
    match run.ending with
    | .stopped _ => []
    | .raised _ => [run.last]

namespace Loop

variable {loop : Loop σ ω ρ ε}

/-- The loop, `none` when the fuel does not suffice. -/
def run (loop : Loop σ ω ρ ε) : ℕ → σ → Option (LoopRun σ ω ρ ε)
  | 0, _ => none
  | fuel + 1, s =>
      match loop.guard s with
      | some reason => some ⟨[], s, .stopped reason⟩
      | none =>
          match loop.body s with
          | .error error => some ⟨[], s, .raised error⟩
          | .ok (s', report) =>
              (run loop fuel s').map fun rest => { rest with passes := ⟨s, report, s'⟩ :: rest.passes }

/-- What a completed pass is. -/
def IsPass (loop : Loop σ ω ρ ε) (pass : Pass σ ω) : Prop :=
  loop.guard pass.before = none ∧ loop.body pass.before = .ok (pass.after, pass.report)

/-- What the last state of a run is. -/
def EndsWith (loop : Loop σ ω ρ ε) (s : σ) : Ending ρ ε → Prop
  | .stopped reason => loop.guard s = some reason
  | .raised error => loop.guard s = none ∧ loop.body s = .error error

/-- A run either ends where it is or makes a pass and runs on from there. -/
theorem run_cases {fuel : ℕ} {s : σ} {result : LoopRun σ ω ρ ε}
    (hrun : loop.run fuel s = some result) :
    (result.passes = [] ∧ result.last = s ∧ loop.EndsWith s result.ending)
      ∨ ∃ n pass rest, fuel = n + 1 ∧ loop.IsPass pass ∧ pass.before = s
          ∧ loop.run n pass.after = some rest
          ∧ result = { rest with passes := pass :: rest.passes } := by
  cases fuel with
  | zero =>
      rw [run] at hrun
      exact absurd hrun (by simp)
  | succ n =>
      rw [run] at hrun
      cases hguard : loop.guard s with
      | some reason =>
          rw [hguard] at hrun
          obtain rfl := Option.some.inj hrun
          exact .inl ⟨rfl, rfl, hguard⟩
      | none =>
          rw [hguard] at hrun
          cases hbody : loop.body s with
          | error error =>
              rw [hbody] at hrun
              obtain rfl := Option.some.inj hrun
              exact .inl ⟨rfl, rfl, hguard, hbody⟩
          | ok next =>
              rw [hbody] at hrun
              obtain ⟨rest, hrest, rfl⟩ := Option.map_eq_some_iff.mp hrun
              exact .inr ⟨n, ⟨s, next.2, next.1⟩, rest, rfl, ⟨hguard, hbody⟩, rfl, hrest, rfl⟩

/-- A body that keeps an invariant and lowers a measure makes the loop end. -/
theorem run_total (Inv : σ → Prop) (measure : σ → ℕ)
    (hstep : ∀ pass, loop.IsPass pass → Inv pass.before →
      Inv pass.after ∧ measure pass.after < measure pass.before) :
    ∀ (n : ℕ) (s : σ), measure s < n → Inv s →
      ∃ result, ∀ fuel, measure s < fuel → loop.run fuel s = some result := by
  intro n
  -- the fuel left over after one pass is one less, and so is the bound on the measure
  induction n with
  | zero =>
      intro s hn
      omega
  | succ n ih =>
      intro s hn hs
      cases hguard : loop.guard s with
      | some reason =>
          refine ⟨⟨[], s, .stopped reason⟩, fun fuel hfuel => ?_⟩
          obtain ⟨fuel, rfl⟩ := Nat.exists_eq_succ_of_ne_zero (by omega : fuel ≠ 0)
          rw [Nat.succ_eq_add_one, run, hguard]
      | none =>
          cases hbody : loop.body s with
          | error error =>
              refine ⟨⟨[], s, .raised error⟩, fun fuel hfuel => ?_⟩
              obtain ⟨fuel, rfl⟩ := Nat.exists_eq_succ_of_ne_zero (by omega : fuel ≠ 0)
              simp only [run, hguard, hbody]
          | ok next =>
              obtain ⟨s', report⟩ := next
              have hpass := hstep ⟨s, report, s'⟩ ⟨hguard, hbody⟩ hs
              have hs' : Inv s' := hpass.1
              have hlt : measure s' < measure s := hpass.2
              obtain ⟨rest, hrest⟩ := ih s' (by omega) hs'
              refine ⟨{ rest with passes := ⟨s, report, s'⟩ :: rest.passes }, fun fuel hfuel => ?_⟩
              obtain ⟨fuel, rfl⟩ := Nat.exists_eq_succ_of_ne_zero (by omega : fuel ≠ 0)
              have hrun : loop.run fuel s' = some rest := hrest fuel (by omega)
              simp only [run, hguard, hbody, hrun, Option.map_some]

/-- The rule for a run: an invariant over the passes made so far and the state they lead to
holds in front of every pass and at the end. -/
theorem run_history (Inv : List (Pass σ ω) → σ → Prop)
    (hstep : ∀ past pass, loop.IsPass pass → Inv past pass.before →
      Inv (past ++ [pass]) pass.after) :
    ∀ {fuel : ℕ} {s : σ} {result : LoopRun σ ω ρ ε} (past : List (Pass σ ω)),
      loop.run fuel s = some result → Inv past s →
      Inv (past ++ result.passes) result.last ∧ loop.EndsWith result.last result.ending
        ∧ ∀ before pass after, result.passes = before ++ pass :: after →
            loop.IsPass pass ∧ Inv (past ++ before) pass.before := by
  intro fuel
  induction fuel with
  | zero =>
      intro s result past hrun
      exact absurd hrun (by simp [run])
  | succ fuel ih =>
      intro s result past hrun hs
      obtain ⟨hnil, rfl, hends⟩ | ⟨n, pass, rest, hn, hpass, rfl, hrest, rfl⟩ := run_cases hrun
      · refine ⟨by rwa [hnil, List.append_nil], hends, fun before pass after hsplit => ?_⟩
        rw [hnil] at hsplit
        exact absurd hsplit.symm (by simp)
      · obtain rfl : fuel = n := by omega
        obtain ⟨hlast, hends, hpasses⟩ := ih (past ++ [pass]) hrest (hstep past pass hpass hs)
        refine ⟨by rwa [List.append_assoc] at hlast, hends, fun before other after hsplit => ?_⟩
        cases before with
        | nil =>
            obtain ⟨rfl, -⟩ := List.cons.inj hsplit
            exact ⟨hpass, by rwa [List.append_nil]⟩
        | cons first before =>
            obtain ⟨rfl, htail⟩ := List.cons.inj hsplit
            have h := hpasses before other after htail
            rwa [List.append_assoc] at h

/-- The rule for an invariant of the states alone: it holds at the end and in every state a
pass is started in, where the guard lets the loop go on. -/
theorem run_invariant (Inv : σ → Prop)
    (hstep : ∀ pass, loop.IsPass pass → Inv pass.before → Inv pass.after) {fuel : ℕ} {s : σ}
    {result : LoopRun σ ω ρ ε} (hrun : loop.run fuel s = some result) (hs : Inv s) :
    Inv result.last ∧ ∀ st ∈ result.starts, loop.guard st = none ∧ Inv st := by
  obtain ⟨hlast, hends, hpasses⟩ :=
    run_history (fun _ => Inv) (fun _ => hstep) [] hrun hs
  refine ⟨hlast, fun st hst => ?_⟩
  rcases List.mem_append.mp hst with hst | hst
  · obtain ⟨pass, hpass, rfl⟩ := List.mem_map.mp hst
    obtain ⟨before, after, hsplit⟩ := List.append_of_mem hpass
    obtain ⟨⟨hguard, -⟩, hinv⟩ := hpasses before pass after hsplit
    exact ⟨hguard, hinv⟩
  · cases hending : result.ending with
    | stopped reason =>
        rw [hending] at hst
        exact absurd hst (by simp)
    | raised error =>
        rw [hending] at hst hends
        obtain rfl := List.mem_singleton.mp hst
        exact ⟨hends.1, hlast⟩

/-- Each pass starts in the state that the one before it left, and the run ends in the state
that its last pass left. -/
theorem run_consecutive :
    ∀ {fuel : ℕ} {s : σ} {result : LoopRun σ ω ρ ε}, loop.run fuel s = some result →
      ∀ before pass after, result.passes = before ++ pass :: after →
        (after.map Pass.before ++ [result.last]).head? = some pass.after := by
  intro fuel
  induction fuel with
  | zero =>
      intro s result hrun
      exact absurd hrun (by simp [run])
  | succ fuel ih =>
      intro s result hrun before pass after hsplit
      obtain ⟨hnil, -, -⟩ | ⟨n, first, rest, hn, -, -, hrest, rfl⟩ := run_cases hrun
      · rw [hnil] at hsplit
        exact absurd hsplit.symm (by simp)
      · obtain rfl : fuel = n := by omega
        cases before with
        | nil =>
            obtain ⟨rfl, rfl⟩ := List.cons.inj hsplit
            obtain ⟨hnil, hlast, -⟩ | ⟨m, second, later, -, -, hsecond, -, rfl⟩ := run_cases hrest
            · rw [hnil, hlast]
              rfl
            · rw [← hsecond]
              rfl
        | cons first' before =>
            obtain ⟨-, hsplit⟩ := List.cons.inj hsplit
            exact ih hrest before pass after hsplit

end Loop

end ProofAlpha.Lib
