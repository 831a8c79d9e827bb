/-
Fetching a history page after page.

A `Pager` asks at a cursor for a page of records, reads off it where the next request
begins, and goes on until the cursor reaches the end of the range, a page is empty or
there is no next request. An honest pager gets the first records from its cursor on, and moves
the cursor past them (`Pager.Honest`). The pages are then complete exactly when
none of them leaves out a record before the next one begins (`complete_iff_of_next`),
and the last one leaves out none at all (`fetch_of_last`).
-/
import Mathlib.Data.Int.Notation
import Mathlib.Data.List.Sort
import Mathlib.Order.Defs.LinearOrder
import ProofAlpha.Lib.PyList

set_option autoImplicit false

namespace ProofAlpha.Lib

variable {α : Type}

/-! ## Records between two times -/

/-- The records from one time on and before another. -/
def between (time : α → ℤ) (records : List α) (start stop : ℤ) : List α :=
  records.filter fun r => start ≤ time r ∧ time r < stop

/-- The records are in the order of their times. -/
def InOrder (time : α → ℤ) (records : List α) : Prop :=
  records.Pairwise fun a b => time a ≤ time b

variable {time : α → ℤ} {records : List α}

instance : Decidable (InOrder time records) :=
  inferInstanceAs (Decidable (List.Pairwise _ records))

theorem mem_between {start stop : ℤ} {r : α} :
    r ∈ between time records start stop ↔ r ∈ records ∧ start ≤ time r ∧ time r < stop := by
  rw [between, List.mem_filter, decide_eq_true_eq]

theorem InOrder.between (h : InOrder time records) (start stop : ℤ) :
    InOrder time (between time records start stop) := h.filter _

/-- The last one has the latest time. -/
theorem InOrder.le_getLast (h : InOrder time records) {last r : α}
    (hlast : records.getLast? = some last) (hr : r ∈ records) : time r ≤ time last := by
  obtain ⟨init, rfl⟩ := List.getLast?_eq_some_iff.mp hlast
  rcases List.mem_append.mp hr with hr | hr
  · exact (List.pairwise_append.mp h).2.2 r hr last (List.mem_singleton_self _)
  · rw [List.mem_singleton.mp hr]

theorem between_eq_nil {start stop : ℤ} (h : stop ≤ start) :
    between time records start stop = [] := by
  refine List.filter_eq_nil_iff.mpr fun r _ => ?_
  rw [decide_eq_true_eq]
  omega

theorem between_filter_lt (start stop bound : ℤ) :
    (between time records start stop).filter (fun r => time r < bound)
      = between time records start (min stop bound) := by
  rw [between, between, List.filter_filter]
  refine List.filter_congr fun r _ => ?_
  rw [← Bool.decide_and]
  exact decide_eq_decide.mpr (by omega)

/-- What is before a time comes before what is not. -/
theorem filter_lt_append_filter_le (h : InOrder time records) (bound : ℤ) :
    records.filter (fun r => time r < bound) ++ records.filter (fun r => bound ≤ time r)
      = records := by
  have hsplit := PyList.filter_append_filter_not (p := fun r => decide (time r < bound))
    (h.imp fun hle hlt => decide_eq_true (hle.trans_lt (of_decide_eq_true hlt)))
  simp only [← decide_not, not_lt] at hsplit
  exact hsplit

theorem between_append (h : InOrder time records) {a b c : ℤ} (hab : a ≤ b) (hbc : b ≤ c) :
    between time records a b ++ between time records b c = between time records a c := by
  have hsplit := filter_lt_append_filter_le (h.between a c) b
  have hbefore : (between time records a c).filter (fun r => time r < b)
      = between time records a (min c b) := between_filter_lt a c b
  have hafter : (between time records a c).filter (fun r => b ≤ time r)
      = between time records b c := by
    rw [between, between, List.filter_filter]
    refine List.filter_congr fun r _ => ?_
    rw [← Bool.decide_and]
    exact decide_eq_decide.mpr (by omega)
  rw [hbefore, hafter, min_eq_right hbc] at hsplit
  exact hsplit

/-- Of the first records, those before a time are the first ones before it. -/
theorem filter_take_of_inOrder (h : InOrder time records) (n : ℕ) (bound : ℤ) :
    (records.take n).filter (fun r => time r < bound)
      = (records.filter fun r => time r < bound).take n := by
  have hparts := filter_lt_append_filter_le h bound
  set before := records.filter fun r => time r < bound
  set after := records.filter fun r => bound ≤ time r
  have hbefore : ∀ r ∈ before, time r < bound := fun r hr => by simpa using List.of_mem_filter hr
  have hafter : ∀ r ∈ after, bound ≤ time r := fun r hr => by simpa using List.of_mem_filter hr
  have hnil : (after.take (n - before.length)).filter (fun r => time r < bound) = [] := by
    refine List.filter_eq_nil_iff.mpr fun r hr => ?_
    have hle := hafter r (List.mem_of_mem_take hr)
    rw [decide_eq_true_eq]
    omega
  have hself : (before.take n).filter (fun r => time r < bound) = before.take n :=
    List.filter_eq_self.mpr fun r hr => decide_eq_true (hbefore r (List.mem_of_mem_take hr))
  rw [← hparts, List.take_append, List.filter_append, hself, hnil, List.append_nil]

/-! ## Pages of the earliest records -/

/-- A page of the first records ends at `last`: it is all that is up to `last`, exactly when
nothing is left of the time of `last`. -/
theorem take_between_eq_iff (h : InOrder time records) {start stop : ℤ} {n : ℕ} {last : α}
    (hlast : ((between time records start stop).take n).getLast? = some last) :
    (between time records start stop).take n = between time records start (time last + 1)
      ↔ ∀ r ∈ (between time records start stop).drop n, time last < time r := by
  have hsorted := h.between start stop
  have hmem : last ∈ between time records start stop :=
    List.mem_of_mem_take (List.mem_of_getLast? hlast)
  obtain ⟨-, -, hlt⟩ := mem_between.mp hmem
  have hfilter : (between time records start stop).filter (fun r => time r < time last + 1)
      = between time records start (min stop (time last + 1)) := between_filter_lt ..
  rw [min_eq_right (by omega)] at hfilter
  unfold InOrder at hsorted
  rw [← List.take_append_drop n (between time records start stop)] at hfilter hsorted
  obtain ⟨htake, -, -⟩ := List.pairwise_append.mp hsorted
  -- the page itself is up to `last`
  have hself : ((between time records start stop).take n).filter
      (fun r => time r < time last + 1) = (between time records start stop).take n := by
    refine List.filter_eq_self.mpr fun r hr => decide_eq_true ?_
    have hle := InOrder.le_getLast htake hlast hr
    omega
  rw [List.filter_append, hself] at hfilter
  rw [← hfilter, List.self_eq_append_right, List.filter_eq_nil_iff]
  refine forall₂_congr fun r _ => ?_
  rw [decide_eq_true_eq]
  omega

/-- The records have times of their own. -/
def Strict (time : α → ℤ) (records : List α) : Prop :=
  records.Pairwise fun a b => time a < time b

theorem Strict.inOrder (h : Strict time records) : InOrder time records := h.imp fun hlt => hlt.le

/-- Then a page of the first records is all that is up to its last one. -/
theorem Strict.take_between_eq (h : Strict time records) {start stop : ℤ} {n : ℕ} {last : α}
    (hlast : ((between time records start stop).take n).getLast? = some last) :
    (between time records start stop).take n = between time records start (time last + 1) := by
  refine (take_between_eq_iff h.inOrder hlast).mpr fun r hr => ?_
  have hsorted : (between time records start stop).Pairwise fun a b => time a < time b := h.filter _
  rw [← List.take_append_drop n (between time records start stop)] at hsorted
  exact (List.pairwise_append.mp hsorted).2.2 last (List.mem_of_getLast? hlast) r hr

/-- A page of two records or more ends after its start. -/
theorem Strict.lt_getLast (h : Strict time records) {start : ℤ} {page : List α}
    (hpage : page.Sublist records) (hstart : ∀ r ∈ page, start ≤ time r) (htwo : 2 ≤ page.length)
    {last : α} (hlast : page.getLast? = some last) : start < time last := by
  obtain ⟨init, hinit⟩ := List.getLast?_eq_some_iff.mp hlast
  have hsorted : page.Pairwise fun a b => time a < time b := h.sublist hpage
  subst hinit
  rw [List.length_append, List.length_singleton] at htwo
  obtain ⟨first, hfirst⟩ := List.exists_mem_of_length_pos (show 0 < init.length by omega)
  have hlt := (List.pairwise_append.mp hsorted).2.2 first hfirst last (List.mem_singleton_self _)
  exact (hstart first (List.mem_append_left _ hfirst)).trans_lt hlt

/-- The records are two units of time apart, or more. -/
def Spaced (time : α → ℤ) (records : List α) : Prop :=
  records.Pairwise fun a b => time a + 2 ≤ time b

instance : Decidable (Spaced time records) :=
  inferInstanceAs (Decidable (List.Pairwise _ records))

theorem Spaced.strict (h : Spaced time records) : Strict time records :=
  h.imp fun hle => by omega

/-- Right after a record there is none. -/
theorem Spaced.between_after (h : Spaced time records) {r : α} (hr : r ∈ records) {stop : ℤ}
    (hstop : stop ≤ time r + 2) : between time records (time r + 1) stop = [] := by
  obtain ⟨before, after, rfl⟩ := List.append_of_mem hr
  obtain ⟨-, hafter, hbefore⟩ := List.pairwise_append.mp h
  refine List.filter_eq_nil_iff.mpr fun x hx => ?_
  rw [decide_eq_true_eq]
  rcases List.mem_append.mp hx with hx | hx
  · have hle := hbefore x hx r List.mem_cons_self
    omega
  · rcases List.mem_cons.mp hx with rfl | hx
    · omega
    · have hle := (List.pairwise_cons.mp hafter).1 x hx
      omega

/-! ## The loop over the pages -/

/-- What to ask for at a cursor, up to where, and where the next request begins. -/
structure Pager (α : Type) where
  stop : ℤ
  request : ℤ → List α
  advance : ℤ → List α → Option ℤ
  lt_advance : ∀ {cursor next : ℤ} {page : List α}, cursor < stop →
    advance cursor page = some next → cursor < next

namespace Pager

/-- The records of all pages from a cursor on. -/
def fetch (pager : Pager α) (cursor : ℤ) : List α :=
  if hcursor : cursor < pager.stop then
    let page := pager.request cursor
    if page.isEmpty then []
    else
      match hnext : pager.advance cursor page with
      | none => page
      | some next =>
          have := pager.lt_advance hcursor hnext
          page ++ pager.fetch next
  else []
termination_by (pager.stop - cursor).toNat
decreasing_by omega

variable {pager : Pager α} {cursor next : ℤ}

theorem fetch_of_stop (h : pager.stop ≤ cursor) : pager.fetch cursor = [] := by
  rw [fetch, dif_neg (not_lt.mpr h)]

/-- Without a next request the first page is the last one. -/
theorem fetch_of_last (h : cursor < pager.stop)
    (hlast : pager.request cursor = [] ∨ pager.advance cursor (pager.request cursor) = none) :
    pager.fetch cursor = pager.request cursor := by
  rw [fetch, dif_pos h]
  dsimp only
  split
  · next hempty => exact (List.isEmpty_iff.mp hempty).symm
  · next hempty =>
      have hnone := hlast.resolve_left fun hnil => hempty (List.isEmpty_iff.mpr hnil)
      split
      · rfl
      · next next hnext =>
          rw [hnone] at hnext
          cases hnext

theorem fetch_of_next (h : cursor < pager.stop) (hne : pager.request cursor ≠ [])
    (hnext : pager.advance cursor (pager.request cursor) = some next) :
    pager.fetch cursor = pager.request cursor ++ pager.fetch next := by
  rw [fetch, dif_pos h]
  dsimp only
  rw [if_neg (by rwa [List.isEmpty_iff])]
  split
  · next hnone =>
      rw [hnone] at hnext
      cases hnext
  · next after hafter =>
      rw [hafter] at hnext
      obtain rfl := Option.some.inj hnext
      rfl

/-- The records up to the end of the range. -/
def kept (pager : Pager α) (time : α → ℤ) (page : List α) : List α :=
  page.filter fun r => time r < pager.stop + 1

theorem kept_append (page rest : List α) :
    pager.kept time (page ++ rest) = pager.kept time page ++ pager.kept time rest :=
  List.filter_append ..

/-- Along the pages: past the end of the range, on the last page, and from the pages of the next
request to those of a request. -/
theorem fetch_induction {motive : ℤ → List α → Prop}
    (hstop : ∀ cursor, pager.stop ≤ cursor → motive cursor [])
    (hlast : ∀ cursor, cursor < pager.stop →
      pager.request cursor = [] ∨ pager.advance cursor (pager.request cursor) = none →
      motive cursor (pager.request cursor))
    (hnext : ∀ cursor next, cursor < pager.stop → pager.request cursor ≠ [] →
      pager.advance cursor (pager.request cursor) = some next → motive next (pager.fetch next) →
      motive cursor (pager.request cursor ++ pager.fetch next))
    (cursor : ℤ) : motive cursor (pager.fetch cursor) := by
  -- by induction on the time left
  induction hn : (pager.stop - cursor).toNat using Nat.strong_induction_on generalizing cursor with
  | _ n ih =>
  rcases lt_or_ge cursor pager.stop with hcursor | hge
  · by_cases hend : pager.request cursor = []
        ∨ pager.advance cursor (pager.request cursor) = none
    · rw [fetch_of_last hcursor hend]
      exact hlast cursor hcursor hend
    · obtain ⟨hne, hsome⟩ := not_or.mp hend
      obtain ⟨next, hadvance⟩ := Option.ne_none_iff_exists'.mp hsome
      have hlt := pager.lt_advance hcursor hadvance
      rw [fetch_of_next hcursor hne hadvance]
      exact hnext cursor next hcursor hne hadvance (ih _ (by omega) next rfl)
  · rw [fetch_of_stop hge]
    exact hstop cursor hge

/-- What every page has, all the pages have. -/
theorem forall_mem_fetch {p : α → Prop} (h : ∀ cursor, ∀ r ∈ pager.request cursor, p r)
    (cursor : ℤ) : ∀ r ∈ pager.fetch cursor, p r := by
  refine fetch_induction (motive := fun _ pages => ∀ r ∈ pages, p r) ?_ ?_ ?_ cursor
  · exact fun _ _ r hr => absurd hr List.not_mem_nil
  · exact fun cursor _ _ => h cursor
  · intro cursor next _ _ _ ih r hr
    exact (List.mem_append.mp hr).elim (h cursor r) (ih r)

/-- A pager of a history: a page has the first records from the cursor on, as far as they are in
the range, and the next request begins after them. -/
structure Honest (pager : Pager α) (time : α → ℤ) (records : List α) : Prop where
  inOrder : InOrder time records
  first : ∀ cursor, pager.kept time (pager.request cursor)
    <+: between time records cursor (pager.stop + 1)
  past : ∀ cursor next, pager.advance cursor (pager.request cursor) = some next →
    ∀ r ∈ pager.kept time (pager.request cursor), time r < next

theorem Honest.kept_request_sublist (h : pager.Honest time records)
    (hnext : pager.advance cursor (pager.request cursor) = some next) :
    (pager.kept time (pager.request cursor)).Sublist
      (between time records cursor (min (pager.stop + 1) next)) := by
  have hself : (pager.kept time (pager.request cursor)).filter (fun r => time r < next)
      = pager.kept time (pager.request cursor) :=
    List.filter_eq_self.mpr fun r hr => decide_eq_true (h.past cursor next hnext r hr)
  rw [← hself, ← between_filter_lt]
  exact (h.first cursor).sublist.filter _

/-- From a cursor past the end on there is nothing left. -/
theorem between_next (h : InOrder time records) (hlt : cursor < next) :
    between time records cursor (min (pager.stop + 1) next)
        ++ between time records next (pager.stop + 1)
      = between time records cursor (pager.stop + 1) := by
  rcases le_or_gt next (pager.stop + 1) with hle | hgt
  · rw [min_eq_right hle, between_append h hlt.le hle]
  · rw [min_eq_left hgt.le, between_eq_nil (by omega : pager.stop + 1 ≤ next), List.append_nil]

/-- No record is fetched that is not there, and none twice. -/
theorem Honest.kept_fetch_sublist (h : pager.Honest time records) (cursor : ℤ) :
    (pager.kept time (pager.fetch cursor)).Sublist
      (between time records cursor (pager.stop + 1)) := by
  refine fetch_induction (motive := fun cursor pages => (pager.kept time pages).Sublist
    (between time records cursor (pager.stop + 1))) ?_ ?_ ?_ cursor
  · exact fun _ _ => List.nil_sublist _
  · exact fun cursor _ _ => (h.first cursor).sublist
  · intro cursor next hcursor _ hnext ih
    rw [kept_append, ← between_next h.inOrder (pager.lt_advance hcursor hnext)]
    exact (h.kept_request_sublist hnext).append ih

/-- Sublists that add up to the whole are the parts. -/
theorem append_eq_append_iff_of_sublist {a b c d : List α} (hab : a.Sublist b)
    (hcd : c.Sublist d) : a ++ c = b ++ d ↔ a = b ∧ c = d := by
  constructor
  · intro heq
    have hlength := congrArg List.length heq
    rw [List.length_append, List.length_append] at hlength
    have hle := hab.length_le
    have hle' := hcd.length_le
    exact ⟨hab.eq_of_length (by omega), hcd.eq_of_length (by omega)⟩
  · rintro ⟨rfl, rfl⟩
    rfl

/-- With a next request the pages are complete exactly when the page has all that is before the
next one, and the rest is complete. -/
theorem Honest.complete_iff_of_next (h : pager.Honest time records) (hcursor : cursor < pager.stop)
    (hne : pager.request cursor ≠ [])
    (hnext : pager.advance cursor (pager.request cursor) = some next) :
    pager.kept time (pager.fetch cursor) = between time records cursor (pager.stop + 1)
      ↔ pager.kept time (pager.request cursor)
          = between time records cursor (min (pager.stop + 1) next)
        ∧ pager.kept time (pager.fetch next) = between time records next (pager.stop + 1) := by
  have hlt := pager.lt_advance hcursor hnext
  rw [fetch_of_next hcursor hne hnext, kept_append, ← between_next h.inOrder hlt]
  exact append_eq_append_iff_of_sublist (h.kept_request_sublist hnext) (h.kept_fetch_sublist next)

/-! ## Full pages -/

/-- A pager whose pages have up to `size` records, the first ones from the cursor on, and whose
next request begins right after one of them, past those that are in the range. The last page is
short or does not get past the cursor. -/
structure FullPages (pager : Pager α) (time : α → ℤ) (records : List α) (size : ℕ) : Prop where
  length_le : ∀ cursor, (pager.request cursor).length ≤ size
  first : ∀ cursor, pager.kept time (pager.request cursor)
    = (between time records cursor (pager.stop + 1)).take size
  last : ∀ cursor, pager.advance cursor (pager.request cursor) = none →
    (pager.request cursor).length < size
      ∨ ∀ r ∈ pager.kept time (pager.request cursor), time r ≤ cursor
  next : ∀ cursor next, pager.advance cursor (pager.request cursor) = some next →
    (∃ r ∈ pager.request cursor, next = time r + 1)
      ∧ ∀ r ∈ pager.kept time (pager.request cursor), time r < next

variable {size : ℕ}

theorem FullPages.kept_sublist (h : pager.FullPages time records size) :
    (pager.kept time (pager.request cursor)).Sublist
      (between time records cursor (pager.stop + 1)) := by
  rw [h.first cursor]
  exact List.take_sublist _ _

/-- A page with fewer records of the range has all that are left. -/
theorem FullPages.whole_of_lt (h : pager.FullPages time records size)
    (hlt : (pager.kept time (pager.request cursor)).length < size) :
    pager.kept time (pager.request cursor) = between time records cursor (pager.stop + 1) := by
  rw [h.first cursor, List.length_take] at hlt
  rw [h.first cursor]
  exact List.take_of_length_le (by omega)

/-- Otherwise it lies in the range as a whole. -/
theorem FullPages.kept_eq_of_le (h : pager.FullPages time records size)
    (hle : size ≤ (pager.kept time (pager.request cursor)).length) :
    pager.kept time (pager.request cursor) = pager.request cursor :=
  List.filter_sublist.eq_of_length_le ((h.length_le cursor).trans hle)

/-- The last page has all that is left. -/
theorem FullPages.last_complete (h : pager.FullPages time records size)
    (hrecords : Strict time records) (hsize : 2 ≤ size)
    (hlast : pager.request cursor = [] ∨ pager.advance cursor (pager.request cursor) = none) :
    pager.kept time (pager.request cursor) = between time records cursor (pager.stop + 1) := by
  refine h.whole_of_lt (not_le.mp fun hle => ?_)
  have hkept := h.kept_eq_of_le hle
  rcases hlast with hnil | hnone
  · rw [hkept, hnil, List.length_nil] at hle
    omega
  · rcases h.last cursor hnone with hshort | hall
    · rw [← hkept] at hshort
      omega
    · -- a full page gets past the cursor
      have hne : pager.kept time (pager.request cursor) ≠ [] :=
        List.ne_nil_of_length_pos (by omega)
      have hlt := hrecords.lt_getLast (h.kept_sublist.trans List.filter_sublist)
        (fun r hr => (mem_between.mp (h.kept_sublist.subset hr)).2.1) (by omega)
        (List.getLast?_eq_some_getLast hne)
      have hge := hall _ (List.getLast_mem hne)
      omega

/-- Any other page has all that is before the next request, and where that would be at the end of
the range nothing is left. -/
theorem FullPages.next_complete (h : pager.FullPages time records size)
    (hrecords : Spaced time records) (hcursor : cursor < pager.stop)
    (hnext : pager.advance cursor (pager.request cursor) = some next) :
    pager.kept time (pager.request cursor)
        = between time records cursor (min (pager.stop + 1) next)
      ∧ (pager.stop ≤ next → between time records next (pager.stop + 1) = []) := by
  obtain ⟨⟨r, hr, rfl⟩, hall⟩ := h.next cursor next hnext
  have hlt := pager.lt_advance hcursor hnext
  -- the page itself is before the next request
  have hself : (pager.kept time (pager.request cursor)).filter (fun x => time x < time r + 1)
      = pager.kept time (pager.request cursor) :=
    List.filter_eq_self.mpr fun x hx => decide_eq_true (hall x hx)
  rcases lt_or_ge (pager.kept time (pager.request cursor)).length size with hshort | hfull
  · -- a page that is not full has all that is left
    have hwhole := h.whole_of_lt hshort
    constructor
    · rw [← between_filter_lt, ← hwhole, hself]
    · intro _
      refine List.eq_nil_iff_forall_not_mem.mpr fun x hx => ?_
      obtain ⟨hrecord, hle, hstop⟩ := mem_between.mp hx
      have hlt' := hall x (hwhole ▸ mem_between.mpr ⟨hrecord, by omega, hstop⟩)
      omega
  · -- the next request begins after the last record of the page
    have hkept := h.kept_eq_of_le hfull
    obtain ⟨-, hge, hstop⟩ := mem_between.mp (h.kept_sublist.subset (hkept ▸ hr))
    have hsorted : (between time records cursor (pager.stop + 1)).Pairwise
        fun a b => time a < time b := hrecords.strict.filter _
    rw [← List.take_append_drop size (between _ _ _ _), ← h.first cursor, hkept] at hsorted
    have hnil : ((between time records cursor (pager.stop + 1)).drop size).filter
        (fun x => time x < time r + 1) = [] := by
      refine List.filter_eq_nil_iff.mpr fun x hx => ?_
      have hafter := (List.pairwise_append.mp hsorted).2.2 r hr x hx
      rw [decide_eq_true_eq]
      omega
    constructor
    · rw [← between_filter_lt, ← List.take_append_drop size (between _ _ _ _), ← h.first cursor,
        List.filter_append, hself, hnil, List.append_nil]
    · intro _
      have hrecord := (mem_between.mp (h.kept_sublist.subset (hkept ▸ hr))).1
      exact hrecords.between_after hrecord (by omega)

/-- With records two units apart the pages have every record of the range. -/
theorem FullPages.complete (h : pager.FullPages time records size)
    (hrecords : Spaced time records) (hsize : 2 ≤ size) (hcursor : cursor < pager.stop) :
    pager.kept time (pager.fetch cursor) = between time records cursor (pager.stop + 1) := by
  -- at the end of the range the pages before have left nothing
  refine fetch_induction (motive := fun cursor pages =>
    (pager.stop ≤ cursor → between time records cursor (pager.stop + 1) = []) →
      pager.kept time pages = between time records cursor (pager.stop + 1)) ?_ ?_ ?_ cursor
    fun hstop => absurd hcursor (not_lt.mpr hstop)
  · intro cursor hstop hnil
    rw [hnil hstop]
    rfl
  · intro cursor _ hlast _
    exact h.last_complete hrecords.strict hsize hlast
  · intro cursor next hcursor _ hnext ih _
    obtain ⟨hpage, hend⟩ := h.next_complete hrecords hcursor hnext
    rw [kept_append, hpage, ih hend,
      between_next hrecords.strict.inOrder (pager.lt_advance hcursor hnext)]

end Pager

end ProofAlpha.Lib
