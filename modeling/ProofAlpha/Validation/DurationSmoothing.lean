/-
The minimum duration of regime labels (`validation/regimes.py`,
`_smooth_labels_by_duration`).

One pass gives every short segment the original label of a neighbour. A segment is
long in the result where that neighbour is long itself; where two short segments
meet, the second takes a label the first has just lost. `ShortRunsAbsorbed` says of
the labels when every short run ends up beside a long one of its new label.
-/
import Mathlib.Algebra.Order.Ring.Int
import ProofAlpha.Lib.Runs

set_option autoImplicit false

namespace ProofAlpha.Validation

open ProofAlpha.Lib

/-! ## The code -/

/-- One pass of the loop that cuts the labels into segments: the segments so far and
the start of the open one. -/
def segment_step (labels : List String) (s : List (Run String) × ℕ) (index : ℕ) :
    List (Run String) × ℕ :=
  if index = labels.length ∨ labels.getD index "" ≠ labels.getD s.2 "" then
    (s.1 ++ [⟨s.2, index, labels.getD s.2 ""⟩], index)
  else s

/-- The segments of the labels, of which there is at least one. -/
def label_segments (labels : List String) : List (Run String) :=
  ((List.range' 1 labels.length).foldl (segment_step labels) ([], 0)).1

/-- A text that counts as true: not `None` and not empty. -/
def truthy_label (text : Option String) : Option String := text.filter (· ≠ "")

/-- The label a short segment is given. -/
def replacement_label (segments : List (Run String)) (segment_index : ℕ) (label : String) :
    String :=
  let left_label :=
    if 0 < segment_index then (segments[segment_index - 1]?).map Run.label else none
  let right_label := (segments[segment_index + 1]?).map Run.label
  let replacement := ((truthy_label left_label).or (truthy_label right_label)).getD label
  match left_label with
  | some left => if left_label = right_label then left else replacement
  | none => replacement

/-- `for index in range(start, end): smoothed[index] = replacement`. -/
def paint (smoothed : List String) (start stop : ℕ) (replacement : String) : List String :=
  (List.range' start (stop - start)).foldl (fun acc index => acc.set index replacement) smoothed

/-- One pass of the loop over the segments. -/
def smooth_step (segments : List (Run String)) (min_duration : ℤ) (smoothed : List String)
    (item : Run String × ℕ) : List String :=
  if min_duration ≤ (item.1.stop : ℤ) - item.1.start then smoothed
  else paint smoothed item.1.start item.1.stop (replacement_label segments item.2 item.1.label)

/-- `_smooth_labels_by_duration`. -/
def smooth_labels_by_duration (labels : List String) (min_duration : ℤ) : List String :=
  if labels.isEmpty ∨ min_duration ≤ 1 then labels
  else
    (label_segments labels).zipIdx.foldl (smooth_step (label_segments labels) min_duration) labels

/-! ## The property and its condition -/

/-- Every maximal run of equal labels lasts at least `min_duration`. -/
def MinimumDuration (labels : List String) (min_duration : ℤ) : Prop :=
  ∀ r, IsRun labels r → min_duration ≤ r.size

/-- A run follows a long one, or is the first and a long one follows it, or stands
between a run and a long one of the same label. -/
def Absorbed (labels : List String) (min_duration : ℤ) (r : Run String) : Prop :=
  (∃ left, IsRun labels left ∧ left.stop = r.start ∧ min_duration ≤ left.size) ∨
  (r.start = 0 ∧
    ∃ right, IsRun labels right ∧ right.start = r.stop ∧ min_duration ≤ right.size) ∨
  (∃ left right, IsRun labels left ∧ left.stop = r.start ∧ IsRun labels right ∧
    right.start = r.stop ∧ right.label = left.label ∧ min_duration ≤ right.size)

/-- Every short run is absorbed by a long one. -/
def ShortRunsAbsorbed (labels : List String) (min_duration : ℤ) : Prop :=
  ∀ r, IsRun labels r → (r.size : ℤ) < min_duration → Absorbed labels min_duration r

/-! ## The segments are the runs -/

/-- The segments before `index`, and the open one that starts at `start`. -/
structure SegmentScan (labels : List String) (index : ℕ) (s : List (Run String) × ℕ) : Prop where
  tiles : TilesUpTo labels s.1 s.2
  opened : OpenRun labels s.2 index (labels.getD s.2 "")

theorem getD_eq_iff {labels : List String} {i : ℕ} (hi : i < labels.length) (label : String) :
    labels.getD i "" = label ↔ labels[i]? = some label := by
  rw [List.getD_eq_getElem?_getD, List.getElem?_eq_getElem hi, Option.getD_some, Option.some_inj]

theorem SegmentScan.step {labels : List String} {index : ℕ} {s : List (Run String) × ℕ}
    (h : SegmentScan labels index s) (hindex : index < labels.length) :
    SegmentScan labels (index + 1) (segment_step labels s index) := by
  obtain ⟨htiles, hopen⟩ := h
  have hne : index ≠ labels.length := Nat.ne_of_lt hindex
  unfold segment_step
  by_cases hbreak : labels.getD index "" ≠ labels.getD s.2 ""
  · rw [if_pos (Or.inr hbreak)]
    have hafter : labels[index]? ≠ some (labels.getD s.2 "") := fun hsame =>
      hbreak ((getD_eq_iff hindex _).mpr hsame)
    have hrun := hopen.close hafter
    refine ⟨htiles.push hrun, OpenRun.fresh ((getD_eq_iff hindex _).mp rfl) ?_⟩
    intro k hk hsame
    have hlast := hopen.const k (by have := hopen.lt; omega) (by omega)
    rw [hlast] at hsame
    exact hbreak (Option.some.inj hsame).symm
  · rw [if_neg (not_or.mpr ⟨hne, hbreak⟩)]
    exact ⟨htiles, hopen.grow ((getD_eq_iff hindex _).mp (not_not.mp hbreak))⟩

/-- The segments of labels that are there at all tile them. -/
theorem tilesUpTo_label_segments {labels : List String} (hne : labels ≠ []) :
    TilesUpTo labels (label_segments labels) labels.length := by
  have hpos : 0 < labels.length := List.length_pos_iff.mpr hne
  have hscan : ∀ n, n < labels.length → SegmentScan labels (n + 1)
      ((List.range' 1 n).foldl (segment_step labels) ([], 0)) := by
    intro n
    induction n with
    | zero =>
        intro _
        refine ⟨tilesUpTo_nil labels, OpenRun.fresh ((getD_eq_iff hpos _).mp rfl) ?_⟩
        intro k hk
        exact absurd hk (Nat.succ_ne_zero k)
    | succ n ih =>
        intro hn
        rw [List.range'_1_concat, List.foldl_append, Nat.add_comm 1 n]
        exact (ih (Nat.lt_of_succ_lt hn)).step hn
  obtain ⟨n, hn⟩ : ∃ n, labels.length = n + 1 := ⟨labels.length - 1, by omega⟩
  obtain ⟨htiles, hopen⟩ := hscan n (by omega)
  -- the last pass closes the open segment
  have hafter : labels[n + 1]? ≠ some (labels.getD
      ((List.range' 1 n).foldl (segment_step labels) ([], 0)).2 "") := by
    rw [List.getElem?_eq_none (by omega)]
    simp
  have hlast : label_segments labels
      = ((List.range' 1 n).foldl (segment_step labels) ([], 0)).1
        ++ [⟨((List.range' 1 n).foldl (segment_step labels) ([], 0)).2, n + 1,
          labels.getD ((List.range' 1 n).foldl (segment_step labels) ([], 0)).2 ""⟩] := by
    rw [label_segments, hn, List.range'_1_concat, List.foldl_append, Nat.add_comm 1 n]
    simp only [List.foldl_cons, List.foldl_nil]
    rw [segment_step, if_pos (Or.inl hn.symm)]
  rw [hlast, hn]
  exact htiles.push (hopen.close hafter)

/-! ## The result, segment by segment -/

theorem length_paint (smoothed : List String) (start stop : ℕ) (replacement : String) :
    (paint smoothed start stop replacement).length = smoothed.length := by
  unfold paint
  generalize List.range' start (stop - start) = indices
  induction indices generalizing smoothed with
  | nil => rfl
  | cons index indices ih => rw [List.foldl_cons, ih, List.length_set]

/-- Painting changes the positions of its stretch and no others. -/
theorem paint_getElem? (smoothed : List String) (r : Run String) (replacement : String) {i : ℕ}
    (hi : i < smoothed.length) :
    (r.Holds i → (paint smoothed r.start r.stop replacement)[i]? = some replacement) ∧
    (¬ r.Holds i → (paint smoothed r.start r.stop replacement)[i]? = smoothed[i]?) := by
  have hfold : ∀ (indices : List ℕ) (acc : List String), i < acc.length →
      (indices.foldl (fun acc index => acc.set index replacement) acc)[i]?
        = if i ∈ indices then some replacement else acc[i]? := by
    intro indices
    induction indices with
    | nil => intro acc _; simp
    | cons index indices ih =>
        intro acc hacc
        rw [List.foldl_cons, ih _ (by rwa [List.length_set])]
        by_cases hmem : i ∈ indices
        · rw [if_pos hmem, if_pos (List.mem_cons_of_mem index hmem)]
        · rw [if_neg hmem]
          by_cases hsame : index = i
          · rw [hsame, if_pos List.mem_cons_self, List.getElem?_set_self hacc]
          · rw [List.getElem?_set_ne hsame, if_neg]
            simp only [List.mem_cons, not_or]
            exact ⟨fun h => hsame h.symm, hmem⟩
  have hstretch : i ∈ List.range' r.start (r.stop - r.start) ↔ r.Holds i := by
    rw [List.mem_range'_1, Run.Holds]
    omega
  unfold paint
  rw [hfold _ _ hi]
  constructor
  · intro hholds
    rw [if_pos (hstretch.mpr hholds)]
  · intro hholds
    rw [if_neg (fun hmem => hholds (hstretch.mp hmem))]

/-- The label a segment has in the result. -/
def smoothed_label (segments : List (Run String)) (min_duration : ℤ) (j : ℕ) (r : Run String) :
    String :=
  if min_duration ≤ (r.stop : ℤ) - r.start then r.label
  else replacement_label segments j r.label

theorem length_smooth_fold (segments : List (Run String)) (min_duration : ℤ)
    (items : List (Run String × ℕ)) (smoothed : List String) :
    (items.foldl (smooth_step segments min_duration) smoothed).length = smoothed.length := by
  induction items generalizing smoothed with
  | nil => rfl
  | cons item items ih =>
      rw [List.foldl_cons, ih, smooth_step]
      split_ifs
      · rfl
      · exact length_paint _ _ _ _

/-- A position in none of the segments passed keeps its label. -/
theorem smooth_fold_of_not_holds (segments : List (Run String)) (min_duration : ℤ) {i : ℕ}
    (items : List (Run String × ℕ)) (smoothed : List String) (hi : i < smoothed.length)
    (h : ∀ item ∈ items, ¬ item.1.Holds i) :
    (items.foldl (smooth_step segments min_duration) smoothed)[i]? = smoothed[i]? := by
  induction items generalizing smoothed with
  | nil => rfl
  | cons item items ih =>
      rw [List.foldl_cons]
      have hrest : ∀ item' ∈ items, ¬ item'.1.Holds i := fun item' hitem' =>
        h item' (List.mem_cons_of_mem _ hitem')
      rw [smooth_step]
      split_ifs
      · exact ih smoothed hi hrest
      · rw [ih _ (by rwa [length_paint]) hrest]
        exact (paint_getElem? smoothed item.1 _ hi).2 (h item List.mem_cons_self)

/-- The label of a position in the result is that of its segment. -/
theorem smooth_getElem? {labels : List String} {min_duration : ℤ}
    {segments : List (Run String)} (htiles : TilesUpTo labels segments labels.length) {i j : ℕ}
    {r : Run String} (hr : segments[j]? = some r) (hi : r.Holds i) :
    (segments.zipIdx.foldl (smooth_step segments min_duration) labels)[i]?
      = some (smoothed_label segments min_duration j r) := by
  have hrun := htiles.runs r (List.mem_of_getElem? hr)
  have hlength : i < labels.length := lt_of_lt_of_le hi.2 hrun.le_length
  have hitem : segments.zipIdx[j]? = some (r, j) := by
    rw [List.getElem?_zipIdx, hr, Nat.zero_add]
    rfl
  obtain ⟨hj, hget⟩ := List.getElem?_eq_some_iff.mp hitem
  have hsplit : segments.zipIdx
      = segments.zipIdx.take j ++ (r, j) :: segments.zipIdx.drop (j + 1) := by
    rw [← hget, List.getElem_cons_drop, List.take_append_drop]
  -- the position lies in no other segment
  have hother : ∀ item ∈ segments.zipIdx, item.2 ≠ j → ¬ item.1.Holds i := by
    rintro ⟨r', k⟩ hmem hk hholds
    exact hk (htiles.index_unique (List.mk_mem_zipIdx_iff_getElem?.mp hmem) hr hholds hi)
  have hbefore : ∀ item ∈ segments.zipIdx.take j, ¬ item.1.Holds i := by
    intro item hmem
    obtain ⟨k, hk, rfl⟩ := List.mem_take_iff_getElem.mp hmem
    refine hother _ (List.getElem_mem _) ?_
    rw [List.getElem_zipIdx]
    dsimp only
    omega
  have hafter : ∀ item ∈ segments.zipIdx.drop (j + 1), ¬ item.1.Holds i := by
    intro item hmem
    obtain ⟨k, hk, rfl⟩ := List.mem_drop_iff_getElem.mp hmem
    refine hother _ (List.getElem_mem _) ?_
    rw [List.getElem_zipIdx]
    dsimp only
    omega
  rw [hsplit, List.foldl_append, List.foldl_cons]
  have hkept := smooth_fold_of_not_holds segments min_duration _ labels hlength hbefore
  have hlong := length_smooth_fold segments min_duration (segments.zipIdx.take j) labels
  generalize (segments.zipIdx.take j).foldl (smooth_step segments min_duration) labels = before
    at hkept hlong ⊢
  rw [smooth_step, smoothed_label]
  split_ifs
  · rw [smooth_fold_of_not_holds _ _ _ _ (by omega) hafter, hkept, hrun.getElem? hi]
  · rw [smooth_fold_of_not_holds _ _ _ _ (by rw [length_paint]; omega) hafter]
    exact (paint_getElem? before r _ (by omega)).1 hi

/-! ## The new label of a short segment -/

theorem truthy_label_some {text : String} (hne : text ≠ "") : truthy_label (some text) = some text := by
  simp [truthy_label, hne]

theorem replacement_label_of_left {segments : List (Run String)} {k : ℕ} {left : Run String}
    (hleft : segments[k]? = some left) (hne : left.label ≠ "") (label : String) :
    replacement_label segments (k + 1) label = left.label := by
  rw [replacement_label, if_pos (Nat.succ_pos k), Nat.add_sub_cancel, hleft, Option.map_some]
  dsimp only
  rw [truthy_label_some hne, Option.some_or, Option.getD_some, ite_self]

theorem replacement_label_of_right {segments : List (Run String)} {right : Run String}
    (hright : segments[1]? = some right) (hne : right.label ≠ "") (label : String) :
    replacement_label segments 0 label = right.label := by
  rw [replacement_label, if_neg (Nat.lt_irrefl 0), Nat.zero_add, hright, Option.map_some]
  dsimp only
  rw [truthy_label_some hne]
  rfl

section Tiling

variable {labels : List String} {min_duration : ℤ} {segments : List (Run String)}

theorem smoothed_label_of_long (segments : List (Run String)) (j : ℕ) {r : Run String}
    (hlong : min_duration ≤ r.size)
    (hlt : r.start < r.stop) : smoothed_label segments min_duration j r = r.label := by
  rw [smoothed_label, if_pos]
  rw [Run.size] at hlong
  omega

theorem smoothed_label_of_short (segments : List (Run String)) (j : ℕ) {r : Run String}
    (hshort : (r.size : ℤ) < min_duration) (hlt : r.start < r.stop) :
    smoothed_label segments min_duration j r = replacement_label segments j r.label := by
  rw [smoothed_label, if_neg]
  rw [Run.size] at hshort
  omega

/-- The names of the segments are names of positions. -/
theorem label_ne_empty (htiles : TilesUpTo labels segments labels.length)
    (hnamed : ∀ label ∈ labels, label ≠ "") {j : ℕ} {r : Run String} (hr : segments[j]? = some r) :
    r.label ≠ "" := by
  have hrun := htiles.runs r (List.mem_of_getElem? hr)
  exact hnamed _ (List.mem_of_getElem? (hrun.getElem? ⟨Nat.le_refl _, hrun.lt⟩))

/-- A short segment that has a neighbour loses its label. -/
theorem smoothed_label_ne (htiles : TilesUpTo labels segments labels.length)
    (hnamed : ∀ label ∈ labels, label ≠ "") {j : ℕ} {r : Run String} (hr : segments[j]? = some r)
    (hshort : (r.size : ℤ) < min_duration) (hneighbour : 0 < j ∨ (segments[j + 1]?).isSome) :
    smoothed_label segments min_duration j r ≠ r.label := by
  rw [smoothed_label_of_short segments j hshort (htiles.runs r (List.mem_of_getElem? hr)).lt]
  cases j with
  | zero =>
      obtain ⟨right, hright⟩ := Option.isSome_iff_exists.mp
        (hneighbour.resolve_left (Nat.lt_irrefl 0))
      rw [replacement_label_of_right hright (label_ne_empty htiles hnamed hright)]
      exact (htiles.label_ne hr hright).symm
  | succ k =>
      have hk : k < segments.length := by
        have := (List.getElem?_eq_some_iff.mp hr).1
        omega
      have hleft := List.getElem?_eq_getElem hk
      rw [replacement_label_of_left hleft (label_ne_empty htiles hnamed hleft)]
      exact htiles.label_ne hleft hr

/-- A short segment that is absorbed takes the label of a long one beside it. -/
theorem Absorbed.neighbour (htiles : TilesUpTo labels segments labels.length)
    (hnamed : ∀ label ∈ labels, label ≠ "") {j : ℕ} {r : Run String} (hr : segments[j]? = some r)
    (hshort : (r.size : ℤ) < min_duration) (h : Absorbed labels min_duration r) :
    ∃ n, IsRun labels n ∧ min_duration ≤ n.size ∧ (n.stop = r.start ∨ n.start = r.stop) ∧
      n.label = smoothed_label segments min_duration j r := by
  have hrun := htiles.runs r (List.mem_of_getElem? hr)
  rw [smoothed_label_of_short segments j hshort hrun.lt]
  -- a run that stops where the segment starts is the segment before
  have hbefore : ∀ left, IsRun labels left → left.stop = r.start →
      replacement_label segments j r.label = left.label := by
    intro left hleft hmeet
    obtain ⟨k, hk⟩ := htiles.exists_index hleft
    rw [htiles.index_succ hk hr hmeet]
    exact replacement_label_of_left hk (label_ne_empty htiles hnamed hk) _
  rcases h with ⟨left, hleft, hmeet, hlong⟩ | ⟨hfirst, right, hright, hmeet, hlong⟩ |
    ⟨left, right, hleft, hmeet, hright, hmeet', hsame, hlong⟩
  · exact ⟨left, hleft, hlong, Or.inl hmeet, (hbefore left hleft hmeet).symm⟩
  · obtain ⟨k, hk⟩ := htiles.exists_index hright
    obtain rfl : k = j + 1 := htiles.index_succ hr hk hmeet.symm
    obtain rfl : j = 0 := by
      by_contra hj
      have hzero : 0 < segments.length := by
        have := (List.getElem?_eq_some_iff.mp hr).1
        omega
      have hle := htiles.stop_le_start (List.getElem?_eq_getElem hzero) (Nat.pos_of_ne_zero hj) hr
      have := (htiles.runs segments[0] (List.getElem_mem hzero)).lt
      omega
    refine ⟨right, hright, hlong, Or.inr hmeet, ?_⟩
    exact (replacement_label_of_right hk (label_ne_empty htiles hnamed hk) _).symm
  · exact ⟨right, hright, hlong, Or.inr hmeet', by rw [hsame, hbefore left hleft hmeet]⟩

/-! ## The runs of the result -/

/-- One pass over tiled labels. -/
def smooth_pass (labels : List String) (min_duration : ℤ) (segments : List (Run String)) :
    List String :=
  segments.zipIdx.foldl (smooth_step segments min_duration) labels

theorem length_smooth_pass : (smooth_pass labels min_duration segments).length = labels.length :=
  length_smooth_fold segments min_duration segments.zipIdx labels

/-- Where every short run is absorbed, a run of the result has room for a long one. -/
theorem smooth_pass_minimum (htiles : TilesUpTo labels segments labels.length)
    (hnamed : ∀ label ∈ labels, label ≠ "") (habsorbed : ShortRunsAbsorbed labels min_duration) :
    MinimumDuration (smooth_pass labels min_duration segments) min_duration := by
  intro q hq
  have hstart : q.start < labels.length := by
    have := hq.le_length
    rw [length_smooth_pass] at this
    exact Nat.lt_of_lt_of_le hq.lt this
  obtain ⟨j, r, hr, hholds⟩ := htiles.exists_holds hstart
  have hrun := htiles.runs r (List.mem_of_getElem? hr)
  have hconst : ∀ k, r.start ≤ k → k < r.stop →
      (smooth_pass labels min_duration segments)[k]?
        = some (smoothed_label segments min_duration j r) :=
    fun k hk hk' => smooth_getElem? htiles hr ⟨hk, hk'⟩
  have hlabel : q.label = smoothed_label segments min_duration j r := Option.some.inj
    ((hq.getElem? ⟨Nat.le_refl _, hq.lt⟩).symm.trans (hconst _ hholds.1 hholds.2))
  have hcovers := hq.covers (by rwa [hlabel]) ⟨Nat.le_refl _, hq.lt⟩ hholds.1 hholds.2
  by_cases hlong : min_duration ≤ r.size
  · rw [Run.size] at hlong ⊢
    omega
  · -- the run goes on over the long segment that absorbs the short one
    have hshort : (r.size : ℤ) < min_duration := not_le.mp hlong
    obtain ⟨n, hn, hlength, hmeet, hsame⟩ :=
      (habsorbed r hrun hshort).neighbour htiles hnamed hr hshort
    obtain ⟨k, hk⟩ := htiles.exists_index hn
    have hkept := smoothed_label_of_long segments k hlength hn.lt
    have hnext : ∀ i, n.start ≤ i → i < n.stop →
        (smooth_pass labels min_duration segments)[i]? = some q.label := by
      intro i hi hi'
      rw [hlabel, ← hsame, ← hkept]
      exact smooth_getElem? htiles hk ⟨hi, hi'⟩
    have hboth : ∀ i, min r.start n.start ≤ i → i < max r.stop n.stop →
        (smooth_pass labels min_duration segments)[i]? = some q.label := by
      intro i hi hi'
      by_cases hin : r.start ≤ i ∧ i < r.stop
      · rw [hlabel]
        exact hconst i hin.1 hin.2
      · have := hn.lt
        have := hrun.lt
        exact hnext i (by omega) (by omega)
    have := hq.covers hboth ⟨Nat.le_refl _, hq.lt⟩ (le_trans (min_le_left _ _) hholds.1)
      (lt_of_lt_of_le hholds.2 (le_max_left _ _))
    rw [Run.size] at hlength ⊢
    omega

/-- A position of a segment has no label but the one that the pass gives the segment. -/
theorem smooth_getElem?_ne (htiles : TilesUpTo labels segments labels.length) {k : ℕ}
    {r : Run String} (hr : segments[k]? = some r) {i : ℕ} (hi : r.Holds i) {label : String}
    (hne : smoothed_label segments min_duration k r ≠ label) :
    (smooth_pass labels min_duration segments)[i]? ≠ some label := by
  intro hsame
  exact hne (Option.some.inj ((smooth_getElem? htiles hr hi).symm.trans hsame))

/-- After a segment stands the next one, or nothing. -/
theorem smooth_getElem?_stop_ne (htiles : TilesUpTo labels segments labels.length) {j : ℕ}
    {r : Run String} (hr : segments[j]? = some r) {label : String}
    (hdiffers : ∀ right, segments[j + 1]? = some right → IsRun labels right →
      right.start = r.stop → smoothed_label segments min_duration (j + 1) right ≠ label) :
    (smooth_pass labels min_duration segments)[r.stop]? ≠ some label := by
  cases hnext : segments[j + 1]? with
  | none =>
      rw [htiles.last j r hr hnext, List.getElem?_eq_none (by rw [length_smooth_pass])]
      simp
  | some right =>
      have hright := htiles.runs right (List.mem_of_getElem? hnext)
      have hmeet := htiles.next j r right hr hnext
      refine smooth_getElem?_ne htiles hnext ⟨Nat.le_of_eq hmeet.symm, ?_⟩
        (hdiffers right hnext hright hmeet.symm)
      rw [hmeet]
      exact hright.lt

/-- A short run that is not absorbed is a short run of the result, under a new label. -/
theorem smooth_pass_short (htiles : TilesUpTo labels segments labels.length)
    (hnamed : ∀ label ∈ labels, label ≠ "") {j : ℕ} {r : Run String}
    (hr : segments[j]? = some r) (hshort : (r.size : ℤ) < min_duration)
    (hnot : ¬ Absorbed labels min_duration r) :
    IsRun (smooth_pass labels min_duration segments)
      ⟨r.start, r.stop, smoothed_label segments min_duration j r⟩ := by
  have hrun := htiles.runs r (List.mem_of_getElem? hr)
  rw [Absorbed, not_or, not_or] at hnot
  obtain ⟨hleft, hfirst, hbetween⟩ := hnot
  have hnew := smoothed_label_of_short segments j hshort hrun.lt
  cases j with
  | zero =>
      have hzero := htiles.first r hr
      refine ⟨⟨hrun.lt, fun k hk hk' => smooth_getElem? htiles hr ⟨hk, hk'⟩, ?_⟩, ?_⟩
      · intro k hk
        dsimp only at hk
        omega
      · refine smooth_getElem?_stop_ne htiles hr fun right hnext hright hmeet => ?_
        rw [hnew, replacement_label_of_right hnext (label_ne_empty htiles hnamed hnext)]
        refine smoothed_label_ne htiles hnamed hnext ?_ (Or.inl Nat.one_pos)
        by_contra hlong
        exact hfirst ⟨hzero, right, hright, hmeet, not_lt.mp hlong⟩
  | succ k =>
      have hk : k < segments.length := by
        have := (List.getElem?_eq_some_iff.mp hr).1
        omega
      obtain ⟨left, hget⟩ : ∃ left, segments[k]? = some left := ⟨_, List.getElem?_eq_getElem hk⟩
      have hrunleft := htiles.runs left (List.mem_of_getElem? hget)
      have hmeetleft := htiles.next k left r hget hr
      have hadopts : smoothed_label segments min_duration (k + 1) r = left.label := by
        rw [hnew, replacement_label_of_left hget (label_ne_empty htiles hnamed hget)]
      have hshortleft : (left.size : ℤ) < min_duration := by
        by_contra hlong
        exact hleft ⟨left, hrunleft, hmeetleft, not_lt.mp hlong⟩
      refine ⟨⟨hrun.lt, fun i hi hi' => smooth_getElem? htiles hr ⟨hi, hi'⟩, ?_⟩, ?_⟩
      · intro i hi
        dsimp only at hi
        refine smooth_getElem?_ne htiles hget ⟨by have := hrunleft.lt; omega, by omega⟩ ?_
        rw [hadopts]
        exact smoothed_label_ne htiles hnamed hget hshortleft (Or.inr (by rw [hr]; rfl))
      · refine smooth_getElem?_stop_ne htiles hr fun right hnext hright hmeet => ?_
        rw [hadopts]
        by_cases hlong : min_duration ≤ right.size
        · rw [smoothed_label_of_long _ _ hlong hright.lt]
          intro hsame
          exact hbetween ⟨left, right, hrunleft, hmeetleft, hright, hmeet, hsame, hlong⟩
        · -- the next segment adopts the label this one had
          rw [smoothed_label_of_short _ _ (not_le.mp hlong) hright.lt,
            replacement_label_of_left hr (label_ne_empty htiles hnamed hr)]
          exact (htiles.label_ne hget hr).symm

end Tiling

/-- Labels all of whose runs are long are left as they are. -/
theorem smooth_of_minimumDuration {labels : List String} {min_duration : ℤ}
    (h : MinimumDuration labels min_duration) :
    smooth_labels_by_duration labels min_duration = labels := by
  unfold smooth_labels_by_duration
  split_ifs with hidle
  · rfl
  · have hne : labels ≠ [] := fun hnil => hidle (Or.inl (by rw [hnil]; rfl))
    have htiles := tilesUpTo_label_segments hne
    have hfold : ∀ items : List (Run String × ℕ),
        (∀ item ∈ items, item.1 ∈ label_segments labels) →
        items.foldl (smooth_step (label_segments labels) min_duration) labels = labels := by
      intro items hitems
      induction items with
      | nil => rfl
      | cons item items ih =>
          have hrun := htiles.runs item.1 (hitems item List.mem_cons_self)
          have hlong := h item.1 hrun
          have hlt := hrun.lt
          rw [Run.size] at hlong
          rw [List.foldl_cons, smooth_step, if_pos (by omega)]
          exact ih fun item' hitem' => hitems item' (List.mem_cons_of_mem _ hitem')
    exact hfold _ fun item hitem => List.fst_mem_of_mem_zipIdx hitem

/-- Labels without a minimum duration to reach. -/
theorem minimumDuration_of_le_one (labels : List String) {min_duration : ℤ}
    (h : min_duration ≤ 1) : MinimumDuration labels min_duration := by
  intro r hr
  have := hr.lt
  rw [Run.size]
  omega

/-- **Smoothing reaches the minimum duration, and is then done, exactly where every short
run is absorbed by a long one.** -/
theorem smoothing_reaches_minimum_iff (labels : List String) (min_duration : ℤ)
    (hnamed : ∀ label ∈ labels, label ≠ "") :
    (MinimumDuration (smooth_labels_by_duration labels min_duration) min_duration ∧
      smooth_labels_by_duration (smooth_labels_by_duration labels min_duration) min_duration
        = smooth_labels_by_duration labels min_duration) ↔
    ShortRunsAbsorbed labels min_duration := by
  by_cases hidle : labels.isEmpty ∨ min_duration ≤ 1
  · -- nothing is smoothed, and no run is short
    have hsame : smooth_labels_by_duration labels min_duration = labels := by
      rw [smooth_labels_by_duration, if_pos hidle]
    have hminimum : MinimumDuration labels min_duration := by
      rcases hidle with hnil | hone
      · intro r hr
        have := hr.lt
        have := hr.le_length
        rw [List.isEmpty_iff.mp hnil, List.length_nil] at this
        omega
      · exact minimumDuration_of_le_one labels hone
    rw [hsame, hsame]
    constructor
    · intro _ r hr hshort
      have := hminimum r hr
      omega
    · exact fun _ => ⟨hminimum, rfl⟩
  · have hne : labels ≠ [] := fun hnil => hidle (Or.inl (by rw [hnil]; rfl))
    have htiles := tilesUpTo_label_segments hne
    have hpass : smooth_labels_by_duration labels min_duration
        = smooth_pass labels min_duration (label_segments labels) := by
      rw [smooth_labels_by_duration, if_neg hidle]
      rfl
    constructor
    · rintro ⟨hminimum, -⟩ r hr hshort
      by_contra hnot
      obtain ⟨j, hj⟩ := htiles.exists_index hr
      have := hminimum _ (hpass ▸ smooth_pass_short htiles hnamed hj hshort hnot)
      rw [Run.size] at this hshort
      dsimp only at this
      omega
    · intro habsorbed
      have hminimum : MinimumDuration (smooth_labels_by_duration labels min_duration)
          min_duration := by
        rw [hpass]
        exact smooth_pass_minimum htiles hnamed habsorbed
      exact ⟨hminimum, smooth_of_minimumDuration hminimum⟩

theorem smoothing_reaches_minimum_iff_three :
    MinimumDuration (smooth_labels_by_duration ["crash", "sideways", "sideways"] 2) 2 ∧
      smooth_labels_by_duration
          (smooth_labels_by_duration ["crash", "sideways", "sideways"] 2) 2
        = smooth_labels_by_duration ["crash", "sideways", "sideways"] 2 := by
  refine (smoothing_reaches_minimum_iff ["crash", "sideways", "sideways"] 2 (by decide)).mpr ?_
  have htiles := tilesUpTo_label_segments (by decide : ["crash", "sideways", "sideways"] ≠ [])
  have hsegments : label_segments ["crash", "sideways", "sideways"]
      = [⟨0, 1, "crash"⟩, ⟨1, 3, "sideways"⟩] := by decide
  rw [hsegments] at htiles
  intro r hr hshort
  obtain ⟨j, hj⟩ := htiles.exists_index hr
  rcases List.mem_cons.mp (List.mem_of_getElem? hj) with rfl | hlast
  · -- the long run that follows absorbs the first one
    exact Or.inr (Or.inl ⟨rfl, ⟨1, 3, "sideways"⟩, htiles.runs _ (by decide), rfl, by decide⟩)
  · rw [List.mem_singleton.mp hlast] at hshort
    exact absurd hshort (by decide)

/-- Two short runs that meet: the second takes the label of the first, which is gone. -/
theorem smoothing_keeps_a_short_run :
    ¬ (MinimumDuration (smooth_labels_by_duration
          ["bull", "bull", "crash", "sideways", "bull", "bull"] 2) 2 ∧
      smooth_labels_by_duration (smooth_labels_by_duration
          ["bull", "bull", "crash", "sideways", "bull", "bull"] 2) 2
        = smooth_labels_by_duration ["bull", "bull", "crash", "sideways", "bull", "bull"] 2) := by
  have hpass : smooth_labels_by_duration ["bull", "bull", "crash", "sideways", "bull", "bull"] 2
      = ["bull", "bull", "bull", "crash", "bull", "bull"] := by decide
  rintro ⟨hminimum, -⟩
  rw [hpass] at hminimum
  -- the fourth label stands alone
  have hrun : IsRun ["bull", "bull", "bull", "crash", "bull", "bull"] ⟨3, 4, "crash"⟩ := by
    refine ⟨OpenRun.fresh rfl ?_, by decide⟩
    intro k hk
    obtain rfl : k = 2 := Nat.succ.inj hk
    decide
  exact absurd (hminimum _ hrun) (by decide)

end ProofAlpha.Validation
