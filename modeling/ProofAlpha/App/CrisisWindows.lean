/-
The crisis windows of a regime analysis (`validation/regimes.py`,
`build_crisis_windows` and `_build_regime_analysis`).

The scan keeps at most one open window. What it holds before position `i` is said
once in `ScanInvariant`: the windows built are the runs of crisis labels that end
before `i`, and the open window is the run of crisis labels that reaches `i`.
-/
import ProofAlpha.App.Splits
import ProofAlpha.Lib.PyDict
import ProofAlpha.Lib.Runs

set_option autoImplicit false

namespace ProofAlpha.App

open ProofAlpha.Lib
open ProofAlpha.Data (DataSnapshot)

variable {K : Type}

/-! ## The code -/

/-- `CRISIS_REGIMES`. -/
def CRISIS_REGIMES : List String := ["crash", "liquidity_stress", "short_squeeze"]

/-- `CrisisWindow`, with the fields of its `SnapshotWindow`. -/
structure CrisisWindow (K : Type) where
  name : String
  snapshot : DataSnapshot K
  start_index : ℕ
  end_index : ℕ
  regime_label : String

/-- `_build_crisis_window`: the window and the counters after it. -/
def build_crisis_window (snapshot : DataSnapshot K) (regime_label : String)
    (start_index end_index : ℕ) (counters : Dict String ℕ) : CrisisWindow K × Dict String ℕ :=
  let counters := Dict.add counters regime_label 1
  let window_name := (regime_label.map fun c => if c = '_' then '-' else c) ++ "-"
    ++ toString ((counters.lookup regime_label).getD 0)
  ({ name := window_name
     snapshot := slice_snapshot snapshot start_index end_index window_name
     start_index := start_index
     end_index := end_index
     regime_label := regime_label }, counters)

/-- The variables of the scan. -/
structure WindowScan (K : Type) where
  crisis_windows : List (CrisisWindow K)
  counters : Dict String ℕ
  start_index : Option ℕ
  active_label : Option String

def WindowScan.initial : WindowScan K := ⟨[], ∅, none, none⟩

/-- Builds the open window, if there is one. -/
def WindowScan.close (snapshot : DataSnapshot K) (s : WindowScan K) (index : ℕ) : WindowScan K :=
  match s.active_label, s.start_index with
  | some active_label, some start_index =>
      let built := build_crisis_window snapshot active_label start_index index s.counters
      { s with crisis_windows := s.crisis_windows ++ [built.1], counters := built.2 }
  | _, _ => s

/-- One pass of the scan. -/
def window_step (snapshot : DataSnapshot K) (s : WindowScan K) (item : String × ℕ) :
    WindowScan K :=
  let label := item.1
  let index := item.2
  if label ∈ CRISIS_REGIMES then
    if s.active_label = some label then s
    else
      { s.close snapshot index with active_label := some label, start_index := some index }
  else if s.active_label.isSome && s.start_index.isSome then
    { s.close snapshot index with active_label := none, start_index := none }
  else s

/-- `build_crisis_windows`. -/
def build_crisis_windows (snapshot : DataSnapshot K) (regime_labels : List String) :
    List (CrisisWindow K) :=
  ((regime_labels.zipIdx.foldl (window_step snapshot) WindowScan.initial).close snapshot
    regime_labels.length).crisis_windows

/-- The part of `RegimeAnalysis` computed here; the coverages are dicts in sorted
order. -/
structure RegimeAnalysis (K : Type) where
  regime_labels : List String
  regime_coverage : List (String × K)
  crisis_window_coverage : List (String × K)
  crisis_windows : List (CrisisWindow K)
  model_name : String

/-- `crisis_lengths`: the lengths of the windows, added up under their labels. -/
def crisis_lengths (crisis_windows : List (CrisisWindow K)) : Dict String ℕ :=
  Dict.tally (fun window => some window.regime_label)
    (fun window => window.end_index - window.start_index) crisis_windows

/-- `_build_regime_analysis`. -/
def build_regime_analysis [Field K] (snapshot : DataSnapshot K) (labels : List String)
    (model_name : String) : RegimeAnalysis K :=
  let crisis_windows := build_crisis_windows snapshot labels
  let total := max 1 labels.length
  let label_counts := Dict.tally (fun label => some label) (fun _ => 1) labels
  { regime_labels := labels
    regime_coverage := (Dict.sorted_items label_counts).map fun item : String × ℕ =>
      (item.1, (item.2 : K) / total)
    crisis_window_coverage :=
      (Dict.sorted_items (crisis_lengths crisis_windows)).map fun item : String × ℕ =>
        (item.1, (item.2 : K) / total)
    crisis_windows := crisis_windows
    model_name := model_name }

/-! ## The windows and the runs -/

/-- The stretch of labels of a window. -/
def CrisisWindow.run (window : CrisisWindow K) : Run String :=
  ⟨window.start_index, window.end_index, window.regime_label⟩

/-- The windows are the runs of crisis labels, in order and disjoint; they hold the
crisis bars and no others, each with its slice of the snapshot. -/
structure WindowsExact (snapshot : DataSnapshot K) (labels : List String)
    (windows : List (CrisisWindow K)) : Prop where
  exact : ∀ r : Run String, (∃ window ∈ windows, window.run = r) ↔
    r.label ∈ CRISIS_REGIMES ∧ IsRun labels r
  ordered : windows.Pairwise fun a b => a.end_index ≤ b.start_index
  covers : ∀ i : ℕ, (∃ window ∈ windows, window.run.Holds i) ↔
    ∃ label ∈ CRISIS_REGIMES, labels[i]? = some label
  sliced : ∀ window ∈ windows, window.snapshot
    = slice_snapshot snapshot window.start_index window.end_index window.name

/-- The sum of the lengths of the windows of a label. -/
def window_length_sum (windows : List (CrisisWindow K)) (label : String) : ℕ :=
  ((windows.filter fun window => window.regime_label = label).map fun window =>
    window.end_index - window.start_index).sum

/-- The summary has an entry for the labels of the windows: the sum of the lengths of
the windows of the label, as a share of the bars. -/
def CoverageSums [Field K] (labels : List String) (windows : List (CrisisWindow K))
    (coverage : List (String × K)) : Prop :=
  ∀ label, ((∃ window ∈ windows, window.regime_label = label) →
      List.lookup label coverage
        = some ((window_length_sum windows label : K) / ((max 1 labels.length : ℕ) : K))) ∧
    ((¬ ∃ window ∈ windows, window.regime_label = label) → List.lookup label coverage = none)

/-- The windows built are the runs of crisis labels that end before `i`. -/
structure WindowsBefore (snapshot : DataSnapshot K) (labels : List String) (i : ℕ)
    (windows : List (CrisisWindow K)) : Prop where
  exact : ∀ r : Run String, (∃ window ∈ windows, window.run = r) ↔
    r.label ∈ CRISIS_REGIMES ∧ IsRun labels r ∧ r.stop < i
  ordered : windows.Pairwise fun a b => a.end_index ≤ b.start_index
  sliced : ∀ window ∈ windows, window.snapshot
    = slice_snapshot snapshot window.start_index window.end_index window.name

/-- The open window is the run of a crisis label that reaches `i`, and there is none
where the label before `i` is no crisis. -/
inductive OpenWindow (labels : List String) (i : ℕ) : Option String → Option ℕ → Prop
  | none : (∀ k, k + 1 = i → ∀ label ∈ CRISIS_REGIMES, labels[k]? ≠ some label) →
      OpenWindow labels i none none
  | some {label : String} {start : ℕ} : label ∈ CRISIS_REGIMES → OpenRun labels start i label →
      OpenWindow labels i (some label) (some start)

/-- What the scan holds before position `i`. -/
structure ScanInvariant (snapshot : DataSnapshot K) (labels : List String) (i : ℕ)
    (s : WindowScan K) : Prop where
  windows : WindowsBefore snapshot labels i s.crisis_windows
  opened : OpenWindow labels i s.active_label s.start_index

/-! ## One pass -/

section Step

variable {snapshot : DataSnapshot K} {labels : List String} {i : ℕ}

/-- A run that ends at `i` and holds the label before `i` is the open one. -/
theorem eq_of_stop_eq {start : ℕ} {label : String} (hopen : OpenRun labels start i label)
    (hafter : labels[i]? ≠ some label) {r : Run String} (hr : IsRun labels r) (hstop : r.stop = i) :
    r = ⟨start, i, label⟩ := by
  have hlt := hopen.lt
  have hrlt := hr.lt
  exact hr.unique (hopen.close hafter) (i := i - 1) ⟨by omega, by omega⟩
    ⟨by simp only; omega, by simp only; omega⟩

/-- Where no run of a crisis label ends at `i`, the windows built stay those of the runs. -/
theorem WindowsBefore.of_none_ends {windows : List (CrisisWindow K)}
    (h : WindowsBefore snapshot labels i windows)
    (hnone : ∀ r : Run String, r.label ∈ CRISIS_REGIMES → IsRun labels r → r.stop ≠ i) :
    WindowsBefore snapshot labels (i + 1) windows := by
  refine ⟨?_, h.ordered, h.sliced⟩
  intro r
  refine (h.exact r).trans ?_
  constructor
  · rintro ⟨hlabel, hr, hstop⟩
    exact ⟨hlabel, hr, Nat.lt_succ_of_lt hstop⟩
  · rintro ⟨hlabel, hr, hstop⟩
    have hne := hnone r hlabel hr
    exact ⟨hlabel, hr, by omega⟩

/-- Where the label at `i` does not continue the open window, closing it leaves the
runs that end up to `i`. -/
theorem ScanInvariant.close {s : WindowScan K} (h : ScanInvariant snapshot labels i s)
    (hbreak : ∀ label, s.active_label = some label → labels[i]? ≠ some label) :
    WindowsBefore snapshot labels (i + 1) (s.close snapshot i).crisis_windows := by
  obtain ⟨hwindows, hopened⟩ := h
  obtain ⟨windows, counters, start_index, active_label⟩ := s
  cases hopened with
  | none hquiet =>
      apply hwindows.of_none_ends
      intro r hlabel hr hstop
      have hlt := hr.lt
      -- a run that ends here would hold a crisis label before it
      exact hquiet (i - 1) (by omega) r.label hlabel (hr.getElem? ⟨by omega, by omega⟩)
  | @some label start hcrisis hopen =>
      have hafter := hbreak label rfl
      have hrun := hopen.close hafter
      refine ⟨?_, ?_, ?_⟩
      · intro r
        simp only [WindowScan.close, List.mem_append, List.mem_singleton, or_and_right,
          exists_or, exists_eq_left]
        rw [hwindows.exact r]
        constructor
        · rintro (⟨hlabel, hr, hstop⟩ | rfl)
          · exact ⟨hlabel, hr, by omega⟩
          · exact ⟨hcrisis, hrun, Nat.lt_succ_self i⟩
        · rintro ⟨hlabel, hr, hstop⟩
          rcases Nat.lt_succ_iff_lt_or_eq.mp hstop with hlt | heq
          · exact Or.inl ⟨hlabel, hr, hlt⟩
          · exact Or.inr (eq_of_stop_eq hopen hafter hr heq).symm
      · refine List.pairwise_append.mpr ⟨hwindows.ordered, List.pairwise_singleton _ _, ?_⟩
        intro window hwindow built hbuilt
        rw [List.mem_singleton.mp hbuilt]
        obtain ⟨-, hold, hstop⟩ := (hwindows.exact window.run).mp ⟨window, hwindow, rfl⟩
        have hlt := hold.lt
        have hne : window.run ≠ ⟨start, i, label⟩ := by
          intro heq
          rw [heq] at hstop
          exact lt_irrefl i hstop
        rcases hold.le_or_le hrun hne with hle | hle
        · exact hle
        · simp only at hle
          omega
      · intro window hwindow
        rcases List.mem_append.mp hwindow with hold | hnew
        · exact hwindows.sliced window hold
        · rw [List.mem_singleton.mp hnew]
          rfl

/-- While the open window goes on no run ends. -/
theorem WindowsBefore.of_grow {windows : List (CrisisWindow K)}
    (h : WindowsBefore snapshot labels i windows) {start : ℕ} {label : String}
    (hopen : OpenRun labels start i label) (hi : labels[i]? = some label) :
    WindowsBefore snapshot labels (i + 1) windows := by
  apply h.of_none_ends
  intro r hlabel hr hstop
  have hlt := hr.lt
  have hopen_lt := hopen.lt
  have hsame : r.label = label := by
    have hlast := hr.getElem? (i := i - 1) ⟨by omega, by omega⟩
    rw [hopen.const (i - 1) (by omega) (by omega)] at hlast
    exact (Option.some.inj hlast).symm
  have hafter := hr.after
  rw [hstop, hsame] at hafter
  exact hafter hi

/-- One pass of the scan keeps the invariant. -/
theorem ScanInvariant.step {s : WindowScan K} (h : ScanInvariant snapshot labels i s)
    {label : String} (hi : labels[i]? = some label) :
    ScanInvariant snapshot labels (i + 1) (window_step snapshot s (label, i)) := by
  have hprev : ∀ k, k + 1 = i + 1 → labels[k]? = some label := by
    intro k hk
    obtain rfl : k = i := by omega
    exact hi
  unfold window_step
  dsimp only
  by_cases hcrisis : label ∈ CRISIS_REGIMES
  · rw [if_pos hcrisis]
    by_cases hsame : s.active_label = some label
    · -- the open window goes on
      rw [if_pos hsame]
      obtain ⟨hwindows, hopened⟩ := h
      obtain ⟨windows, counters, start_index, active_label⟩ := s
      cases hopened with
      | none => cases hsame
      | some _ hopen =>
          obtain rfl := Option.some.inj hsame
          exact ⟨hwindows.of_grow hopen hi, .some hcrisis (hopen.grow hi)⟩
    · -- a window of another label, or none, ends here
      rw [if_neg hsame]
      refine ⟨h.close ?_, .some hcrisis (OpenRun.fresh hi ?_)⟩
      · intro active hactive hlabel
        rw [hi] at hlabel
        exact hsame (hactive.trans hlabel.symm)
      · intro k hk hlabel
        have hopened := h.opened
        revert hopened hsame
        generalize s.active_label = active_label
        generalize s.start_index = start_index
        intro hsame hopened
        cases hopened with
        | none hquiet => exact hquiet k hk label hcrisis hlabel
        | some _ hopen =>
            rw [hopen.const k (by have := hopen.lt; omega) (by omega)] at hlabel
            exact hsame hlabel
  · rw [if_neg hcrisis]
    have hbreak : ∀ active ∈ CRISIS_REGIMES, labels[i]? ≠ some active := by
      intro active hactive hlabel
      rw [hi] at hlabel
      exact hcrisis (Option.some.inj hlabel ▸ hactive)
    have hquiet : ∀ k, k + 1 = i + 1 → ∀ active ∈ CRISIS_REGIMES, labels[k]? ≠ some active := by
      intro k hk active hactive
      rw [hprev k hk, ← hi]
      exact hbreak active hactive
    have hclosed := h.close fun active hactive => by
      have hopened := h.opened
      rw [hactive] at hopened
      generalize s.start_index = start_index at hopened
      cases hopened with
      | some hmem _ => exact hbreak active hmem
    obtain ⟨windows, counters, start_index, active_label⟩ := s
    have hopened := h.opened
    cases hopened with
    | none => exact ⟨hclosed, .none hquiet⟩
    | some => exact ⟨hclosed, .none hquiet⟩

/-- The scan keeps the invariant over any part of the labels. -/
theorem ScanInvariant.foldl {rest : List String} : ∀ {i : ℕ} {s : WindowScan K},
    labels.drop i = rest → ScanInvariant snapshot labels i s →
    ScanInvariant snapshot labels (i + rest.length)
      ((rest.zipIdx i).foldl (window_step snapshot) s) := by
  induction rest with
  | nil => exact fun _ h => h
  | cons label rest ih =>
      intro i s hrest h
      have hi : labels[i]? = some label := by
        rw [← Nat.add_zero i, ← List.getElem?_drop, hrest]
        rfl
      have hrest' : labels.drop (i + 1) = rest := by
        rw [← List.drop_drop, hrest]
        rfl
      have hrun := ih hrest' (h.step hi)
      rw [List.length_cons, ← Nat.add_assoc, Nat.add_right_comm]
      exact hrun

theorem scanInvariant_initial (snapshot : DataSnapshot K) (labels : List String) :
    ScanInvariant snapshot labels 0 (WindowScan.initial : WindowScan K) := by
  refine ⟨⟨?_, List.Pairwise.nil, ?_⟩, .none ?_⟩
  · intro r
    simp [WindowScan.initial]
  · intro window hwindow
    exact absurd hwindow List.not_mem_nil
  · intro k hk
    omega

end Step

/-! ## The windows of a whole analysis -/

/-- A window holds a bar exactly when its run does, so the windows hold the crisis
bars. -/
theorem covers_of_exact {labels : List String} {windows : List (CrisisWindow K)}
    (h : ∀ r : Run String, (∃ window ∈ windows, window.run = r) ↔
      r.label ∈ CRISIS_REGIMES ∧ IsRun labels r) (i : ℕ) :
    (∃ window ∈ windows, window.run.Holds i) ↔
      ∃ label ∈ CRISIS_REGIMES, labels[i]? = some label := by
  constructor
  · rintro ⟨window, hwindow, hholds⟩
    obtain ⟨hlabel, hr⟩ := (h window.run).mp ⟨window, hwindow, rfl⟩
    exact ⟨window.run.label, hlabel, hr.getElem? hholds⟩
  · rintro ⟨label, hlabel, hi⟩
    obtain ⟨r, hr, hholds, rfl⟩ := exists_run hi
    obtain ⟨window, hwindow, rfl⟩ := (h r).mpr ⟨hlabel, hr⟩
    exact ⟨window, hwindow, hholds⟩

theorem build_crisis_windows_exact (snapshot : DataSnapshot K) (labels : List String) :
    WindowsExact snapshot labels (build_crisis_windows snapshot labels) := by
  have hscan : ScanInvariant snapshot labels labels.length
      (labels.zipIdx.foldl (window_step snapshot) WindowScan.initial) := by
    have hrun := (scanInvariant_initial snapshot labels).foldl rfl
    rwa [List.drop_zero, Nat.zero_add] at hrun
  have hclosed := hscan.close fun label _ => by
    rw [List.getElem?_eq_none (le_refl _)]
    exact Option.some_ne_none label ∘ Eq.symm
  have hexact : ∀ r : Run String,
      (∃ window ∈ build_crisis_windows snapshot labels, window.run = r) ↔
        r.label ∈ CRISIS_REGIMES ∧ IsRun labels r := by
    intro r
    refine (hclosed.exact r).trans ?_
    constructor
    · rintro ⟨hlabel, hr, -⟩
      exact ⟨hlabel, hr⟩
    · rintro ⟨hlabel, hr⟩
      exact ⟨hlabel, hr, Nat.lt_succ_of_le hr.le_length⟩
  exact ⟨hexact, hclosed.ordered, covers_of_exact hexact, hclosed.sliced⟩

theorem lookup_map_snd {β γ : Type} (f : β → γ) (items : List (String × β)) (key : String) :
    List.lookup key (items.map fun item => (item.1, f item.2))
      = (List.lookup key items).map f := by
  induction items with
  | nil => rfl
  | cons item items ih =>
      rw [List.map_cons, List.lookup_cons, List.lookup_cons, ih]
      cases key == item.1 <;> rfl

theorem coverage_sums [Field K] (snapshot : DataSnapshot K) (labels : List String)
    (model_name : String) :
    CoverageSums labels (build_crisis_windows snapshot labels)
      (build_regime_analysis snapshot labels model_name).crisis_window_coverage := by
  intro label
  have hlookup : List.lookup label
        (build_regime_analysis snapshot labels model_name).crisis_window_coverage
      = ((crisis_lengths (build_crisis_windows snapshot labels)).lookup label).map
          fun length : ℕ => (length : K) / ((max 1 labels.length : ℕ) : K) := by
    rw [← Dict.lookup_sorted_items]
    exact lookup_map_snd (fun length : ℕ => (length : K) / ((max 1 labels.length : ℕ) : K)) _ label
  rw [hlookup]
  constructor
  · rintro ⟨window, hwindow, hlabel⟩
    have hitem : ∃ x ∈ build_crisis_windows snapshot labels, some x.regime_label = some label :=
      ⟨window, hwindow, congrArg some hlabel⟩
    rw [crisis_lengths, Dict.lookup_tally _ _ _ _ hitem, Option.map_some, window_length_sum]
    simp only [Option.some_inj]
  · intro hnone
    rw [AList.lookup_eq_none.mpr, Option.map_none]
    rw [crisis_lengths, Dict.mem_tally]
    rintro ⟨window, hwindow, hlabel⟩
    exact hnone ⟨window, hwindow, Option.some.inj hlabel⟩

/-- **Crisis windows are exact**, and the coverage of a label is the sum of the lengths
of its windows as a share of the bars. -/
theorem crisis_windows_exact [Field K] (snapshot : DataSnapshot K) (labels : List String)
    (model_name : String) :
    (build_regime_analysis snapshot labels model_name).crisis_windows
        = build_crisis_windows snapshot labels ∧
    WindowsExact snapshot labels (build_crisis_windows snapshot labels) ∧
    CoverageSums labels (build_crisis_windows snapshot labels)
      (build_regime_analysis snapshot labels model_name).crisis_window_coverage :=
  ⟨rfl, build_crisis_windows_exact snapshot labels, coverage_sums snapshot labels model_name⟩

end ProofAlpha.App
