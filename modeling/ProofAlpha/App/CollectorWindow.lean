/-
A ready capture has no hole: what `first_window_ready` of `app/data_collector.py` says about
the events of the session.

The gaps of a stream are those between neighbours in one series of points: the first event of
the session, the events of the stream in order, and the latest activity. Each is below the
setting and one second, so no longer stretch of the session is without an event of the stream
(`ready_window_has_no_hole`).
-/
import Mathlib.Data.List.ReduceOption
import Mathlib.Data.Rat.Floor
import Mathlib.Data.Real.Basic
import ProofAlpha.App.DataCollector
import ProofAlpha.Lib.Checks
import ProofAlpha.Lib.Windows

set_option autoImplicit false

namespace ProofAlpha.App

open ProofAlpha.Lib
open ProofAlpha.Execution (NormalizedPaperStreamEvent PaperStreamEvents)

variable {K : Type} {texts : CollectorTexts K}

/-! ## Times -/

/-- A difference of two times in whole seconds, or what stands for an unreadable one. -/
theorem seconds_between_cases {start stop : String} {invalid_value seconds : ℤ}
    (h : seconds_between texts (some start) (some stop) invalid_value = .ok seconds) :
    seconds = invalid_value
      ∨ seconds = max 0 ((timestamp_sort_key texts stop - timestamp_sort_key texts start).tdiv
        SECOND_US) := by
  unfold seconds_between at h
  unfold timestamp_sort_key
  by_cases hstart : start = ""
  · simp [hstart] at h
    exact Or.inl h.symm
  by_cases hstop : stop = ""
  · simp [hstop] at h
    exact Or.inl h.symm
  simp only [Option.filter_some, ne_eq, hstart, hstop, not_false_eq_true, decide_true, if_true] at h
  cases hread : read_time texts start with
  | none =>
      rw [hread] at h
      cases h
      exact Or.inl rfl
  | some start_dt =>
      cases hread' : read_time texts stop with
      | none =>
          rw [hread, hread'] at h
          cases h
          exact Or.inl rfl
      | some stop_dt =>
          rw [hread, hread'] at h
          dsimp only at h ⊢
          split_ifs at h
          · cases h
            exact Or.inr rfl

/-- A gap that is not too large in whole seconds is below the limit and one second. -/
theorem sort_key_lt_of_seconds_between {start stop : String} {limit seconds : ℤ}
    (h : seconds_between texts (some start) (some stop) (limit + 1) = .ok seconds)
    (hle : seconds ≤ limit) :
    timestamp_sort_key texts stop
      < timestamp_sort_key texts start + (limit + 1) * (SECOND_US : ℤ) := by
  rcases seconds_between_cases h with rfl | hseconds
  · omega
  · have hlimit : 0 ≤ limit := by omega
    have hsecond : (SECOND_US : ℤ) = 1000000 := rfl
    rw [hsecond] at hseconds ⊢
    by_cases hpast : timestamp_sort_key texts stop < timestamp_sort_key texts start
    · omega
    · rw [Int.tdiv_eq_ediv_of_nonneg (by omega)] at hseconds
      omega

/-- A number of whole seconds has passed in full. -/
theorem le_of_seconds_between {start stop : String} {seconds limit : ℤ}
    (h : seconds_between texts (some start) (some stop) 0 = .ok seconds) (hle : limit ≤ seconds)
    (horder : timestamp_sort_key texts start ≤ timestamp_sort_key texts stop) :
    limit * (SECOND_US : ℤ)
      ≤ timestamp_sort_key texts stop - timestamp_sort_key texts start := by
  have hsecond : (SECOND_US : ℤ) = 1000000 := rfl
  rw [hsecond]
  rcases seconds_between_cases h with rfl | hseconds
  · omega
  · rw [hsecond] at hseconds
    rw [Int.tdiv_eq_ediv_of_nonneg (by omega)] at hseconds
    omega

/-- The latest of some times is at least as late as each of them that can be read. -/
theorem exists_latest_timestamp {values : List (Option String)} {value : String}
    (hvalue : some value ∈ values) (hne : value ≠ "")
    (hvalid : timestamp_sort_key texts value ≠ DATETIME_MIN) :
    ∃ latest, latest_timestamp texts values = some latest ∧ latest ≠ ""
      ∧ timestamp_sort_key texts value ≤ timestamp_sort_key texts latest := by
  unfold latest_timestamp
  dsimp only
  rw [first_max_eq_argmax fun x kept => decide_eq_true_iff]
  let valid := (values.reduceOption.filter (· ≠ "")).filter fun value =>
    timestamp_sort_key texts value ≠ DATETIME_MIN
  have hmem : value ∈ valid := by
    simp only [valid, List.mem_filter, List.reduceOption_mem_iff, decide_eq_true_eq]
    exact ⟨⟨hvalue, hne⟩, hvalid⟩
  obtain ⟨latest, hlatest⟩ : ∃ latest, valid.argmax (timestamp_sort_key texts) = some latest := by
    apply Option.ne_none_iff_exists'.mp
    intro hnone
    rw [List.argmax_eq_none.mp hnone] at hmem
    cases hmem
  refine ⟨latest, hlatest, ?_, List.le_of_mem_argmax hmem hlatest⟩
  have hin : latest ∈ valid := List.argmax_mem hlatest
  exact of_decide_eq_true (List.mem_filter.mp (List.mem_filter.mp hin).1).2

/-! ## The gaps of a stream -/

/-- When the gaps of all streams are there, each stream has its own among them. -/
theorem gaps_of_required {gaps_of : String → Except String (Option (List ℤ))}
    {streams : List String} {gaps : List ℤ} (h : required_gaps gaps_of streams = .ok (some gaps)) :
    ∀ stream ∈ streams, ∃ own, gaps_of stream = .ok (some own) ∧ ∀ gap ∈ own, gap ∈ gaps := by
  induction streams generalizing gaps with
  | nil => exact fun _ hstream => absurd hstream List.not_mem_nil
  | cons first rest ih =>
      rw [required_gaps] at h
      obtain ⟨own, hown, h⟩ := bind_ok h
      cases own with
      | none => cases h
      | some own =>
          obtain ⟨others, hothers, h⟩ := bind_ok h
          cases others with
          | none => cases h
          | some others =>
              cases h
              intro stream hstream
              rcases List.mem_cons.mp hstream with rfl | hrest
              · exact ⟨own, hown, fun gap hgap => List.mem_append_left _ hgap⟩
              · obtain ⟨rest_own, hrest_own, hsub⟩ := ih hothers stream hrest
                exact ⟨rest_own, hrest_own, fun gap hgap => List.mem_append_right _ (hsub gap hgap)⟩

/-- The times of one stream in order. -/
def stream_timestamps (texts : CollectorTexts K) (stream_times : List (String × String))
    (stream : String) : List String :=
  ((stream_times.filter fun row => row.1 = stream).map Prod.snd).insertionSort
    fun a b => timestamp_sort_key texts a ≤ timestamp_sort_key texts b

theorem mem_stream_timestamps {stream_times : List (String × String)} {stream time : String} :
    time ∈ stream_timestamps texts stream_times stream ↔ (stream, time) ∈ stream_times := by
  unfold stream_timestamps
  rw [List.mem_insertionSort, List.mem_map]
  constructor
  · rintro ⟨row, hrow, rfl⟩
    obtain ⟨hmem, hstream⟩ := List.mem_filter.mp hrow
    rw [← of_decide_eq_true hstream]
    exact hmem
  · intro hmem
    exact ⟨_, List.mem_filter.mpr ⟨hmem, decide_eq_true rfl⟩, rfl⟩

/-- What the gaps of a stream that has some are about. -/
structure StreamSteps (texts : CollectorTexts K) (stream_times : List (String × String))
    (window_start window_end : Option String) (limit : ℤ) (stream : String) : Prop where
  two_events : 2 ≤ (stream_timestamps texts stream_times stream).length
  nonneg : 0 ≤ limit
  steps : StepsBelow (timestamp_sort_key texts) ((limit + 1) * (SECOND_US : ℤ))
    (window_start.toList ++ (stream_timestamps texts stream_times stream ++ window_end.toList))

section Gaps

variable {timestamps : List String} {inner : List ℤ} {limit : ℤ}

/-- Each pair of neighbours has its gap among the gaps between the events of a stream. -/
theorem exists_gap_of_neighbours
    (hinner : ((timestamps.zip timestamps.tail).mapM fun pair =>
      seconds_between texts (some pair.1) (some pair.2) (limit + 1)) = .ok inner) :
    ∀ pair ∈ timestamps.zip timestamps.tail, ∃ gap ∈ inner,
      seconds_between texts (some pair.1) (some pair.2) (limit + 1) = .ok gap := by
  intro pair hpair
  obtain ⟨gap, hgap⟩ := ok_of_mapM_ok hinner pair hpair
  exact ⟨gap, (mem_mapM_ok hinner gap).mpr ⟨pair, hpair, hgap⟩, hgap⟩

/-- A gap is never negative, so that neither is a limit on the gaps of two events or more. -/
theorem limit_nonneg_of_gaps
    (hinner : ((timestamps.zip timestamps.tail).mapM fun pair =>
      seconds_between texts (some pair.1) (some pair.2) (limit + 1)) = .ok inner)
    (hle : ∀ gap ∈ inner, gap ≤ limit) (htwo : 2 ≤ timestamps.length) : 0 ≤ limit := by
  obtain ⟨pair, hpair⟩ : ∃ pair, pair ∈ timestamps.zip timestamps.tail := by
    apply List.exists_mem_of_length_pos
    rw [List.length_zip, List.length_tail]
    omega
  obtain ⟨gap, hmem, hgap⟩ := exists_gap_of_neighbours hinner pair hpair
  have hgap_le := hle gap hmem
  rcases seconds_between_cases hgap with heq | heq
  · omega
  · omega

theorem stepsBelow_of_gaps
    (hinner : ((timestamps.zip timestamps.tail).mapM fun pair =>
      seconds_between texts (some pair.1) (some pair.2) (limit + 1)) = .ok inner)
    (hle : ∀ gap ∈ inner, gap ≤ limit) :
    StepsBelow (timestamp_sort_key texts) ((limit + 1) * (SECOND_US : ℤ)) timestamps := by
  apply isChain_of_neighbours
  intro pair hpair
  obtain ⟨gap, hmem, hgap⟩ := exists_gap_of_neighbours hinner pair hpair
  exact sort_key_lt_of_seconds_between hgap (hle gap hmem)

/-- The end of the window, if there is one, is a further point after the last event. -/
theorem stepsBelow_append_window_end {window_end : Option String} {trailing : List ℤ}
    (h : StepsBelow (timestamp_sort_key texts) ((limit + 1) * (SECOND_US : ℤ)) timestamps)
    (htrailing : (window_end.toList.mapM fun stop =>
      seconds_between texts timestamps.getLast? (some stop) (limit + 1)) = .ok trailing)
    (hle : ∀ gap ∈ trailing, gap ≤ limit) :
    StepsBelow (timestamp_sort_key texts) ((limit + 1) * (SECOND_US : ℤ))
      (timestamps ++ window_end.toList) := by
  cases window_end with
  | none =>
      rw [Option.toList_none, List.append_nil]
      exact h
  | some stop =>
      apply List.isChain_append.mpr
      refine ⟨h, List.IsChain.singleton stop, ?_⟩
      intro last hlast final hfinal
      obtain rfl : stop = final := Option.some.inj hfinal
      obtain ⟨gap, hgap⟩ := ok_of_mapM_ok htrailing stop List.mem_cons_self
      have hmem := (mem_mapM_ok htrailing gap).mpr ⟨stop, List.mem_cons_self, hgap⟩
      rw [Option.mem_def.mp hlast] at hgap
      exact sort_key_lt_of_seconds_between hgap (hle gap hmem)

/-- The start of the window, if there is one, is a further point before the first event. -/
theorem stepsBelow_window_start_append {window_start : Option String} {points : List String}
    {leading : List ℤ}
    (h : StepsBelow (timestamp_sort_key texts) ((limit + 1) * (SECOND_US : ℤ)) points)
    (hleading : (window_start.toList.mapM fun start =>
      seconds_between texts (some start) points.head? (limit + 1)) = .ok leading)
    (hle : ∀ gap ∈ leading, gap ≤ limit) :
    StepsBelow (timestamp_sort_key texts) ((limit + 1) * (SECOND_US : ℤ))
      (window_start.toList ++ points) := by
  cases window_start with
  | none => exact h
  | some start =>
      apply List.isChain_cons.mpr
      refine ⟨?_, h⟩
      intro first hfirst
      have hhead : points.head? = some first := hfirst
      obtain ⟨gap, hgap⟩ := ok_of_mapM_ok hleading start List.mem_cons_self
      have hmem := (mem_mapM_ok hleading gap).mpr ⟨start, List.mem_cons_self, hgap⟩
      rw [hhead] at hgap
      exact sort_key_lt_of_seconds_between hgap (hle gap hmem)

end Gaps

theorem streamSteps_of_gaps {stream_times : List (String × String)}
    {window_start window_end : Option String} {limit : ℤ} {stream : String} {gaps : List ℤ}
    (h : stream_gaps texts (limit + 1) stream_times window_start window_end stream
      = .ok (some gaps)) (hle : ∀ gap ∈ gaps, gap ≤ limit) :
    StreamSteps texts stream_times window_start window_end limit stream := by
  unfold stream_gaps at h
  have hsort : ((stream_times.filter fun row => row.1 = stream).map Prod.snd).insertionSort
      (fun a b => timestamp_sort_key texts a ≤ timestamp_sort_key texts b)
        = stream_timestamps texts stream_times stream := rfl
  rw [hsort] at h
  dsimp only at h
  generalize htimes : stream_timestamps texts stream_times stream = timestamps at h
  by_cases hlength : timestamps.length < 2
  · rw [if_pos hlength] at h
    cases h
  rw [if_neg hlength] at h
  obtain ⟨leading, hleading, h⟩ := bind_ok h
  obtain ⟨inner, hinner, h⟩ := bind_ok h
  obtain ⟨trailing, htrailing, h⟩ := bind_ok h
  cases h
  simp only [List.mem_append, or_imp, forall_and] at hle
  obtain ⟨⟨hleading_le, hinner_le⟩, htrailing_le⟩ := hle
  have htwo : 2 ≤ timestamps.length := by omega
  -- the first of the points after the start of the window is the first event
  have hhead : (timestamps ++ window_end.toList).head? = timestamps.head? := by
    apply List.head?_append_of_ne_nil
    rintro rfl
    exact absurd htwo (by decide)
  rw [← hhead] at hleading
  have hinner_steps := stepsBelow_of_gaps hinner hinner_le
  have htrailing_steps := stepsBelow_append_window_end hinner_steps htrailing htrailing_le
  constructor
  · rw [htimes]
    exact htwo
  · exact limit_nonneg_of_gaps hinner hinner_le htwo
  · rw [htimes]
    exact stepsBelow_window_start_append htrailing_steps hleading hleading_le

/-! ## The events of a session -/

/-- When an event was received. -/
def event_time (texts : CollectorTexts K) (event : NormalizedPaperStreamEvent K) : ℤ :=
  timestamp_sort_key texts event.received_at_utc

/-- Timestamps of one format: texts of UTC times, in the order of the times. -/
structure UniformTimes (texts : CollectorTexts K) (events : List (NormalizedPaperStreamEvent K)) :
    Prop where
  written : ∀ event ∈ events, event.received_at_utc ≠ ""
  utc : ∀ event ∈ events, ∃ parsed, read_time texts event.received_at_utc = some parsed
    ∧ parsed.utcoffset = some 0
  ordered : ∀ event ∈ events, ∀ other ∈ events,
    event.received_at_utc ≤ other.received_at_utc → event_time texts event ≤ event_time texts other

section Events

variable {events : List (NormalizedPaperStreamEvent K)}

theorem UniformTimes.min_le (h : UniformTimes texts events)
    {event : NormalizedPaperStreamEvent K} (hevent : event ∈ events) :
    DATETIME_MIN ≤ event_time texts event := by
  obtain ⟨parsed, hread, hutc⟩ := h.utc event hevent
  have hmin := parsed.min
  unfold event_time timestamp_sort_key
  rw [hread]
  dsimp only
  rw [PyDatetime.instant, hutc, Option.getD_some]
  unfold DATETIME_MIN EPOCH_ORDINAL DAY_US at *
  omega

/-- It is enough to look at the texts of the times. -/
theorem uniformTimes_of_times {times : List String}
    (hmem : ∀ event ∈ events, event.received_at_utc ∈ times) (hwritten : ∀ text ∈ times, text ≠ "")
    (hutc : ∀ text ∈ times, (read_time texts text).map PyDatetime.utcoffset = some (some 0))
    (hordered : ∀ text ∈ times, ∀ other ∈ times, text ≤ other →
      timestamp_sort_key texts text ≤ timestamp_sort_key texts other) :
    UniformTimes texts events where
  written := fun event hevent => hwritten _ (hmem event hevent)
  utc := fun event hevent => Option.map_eq_some_iff.mp (hutc _ (hmem event hevent))
  ordered := fun event hevent other hother => hordered _ (hmem event hevent) _ (hmem other hother)

/-- The first text is that of a first event. -/
theorem exists_first_event (h : UniformTimes texts events) (hne : events ≠ []) :
    ∃ first ∈ events, first_event events = some first.received_at_utc
      ∧ ∀ event ∈ events, event_time texts first ≤ event_time texts event := by
  obtain ⟨text, htext⟩ : ∃ text,
      (events.map NormalizedPaperStreamEvent.received_at_utc).argmin id = some text := by
    apply Option.ne_none_iff_exists'.mp
    intro hnone
    exact hne (List.map_eq_nil_iff.mp (List.argmin_eq_none.mp hnone))
  obtain ⟨first, hfirst, rfl⟩ := List.mem_map.mp (List.argmin_mem htext)
  refine ⟨first, hfirst, ?_, fun event hevent => h.ordered first hfirst event hevent ?_⟩
  · rw [first_event, htext]
    exact if_pos (decide_eq_true (h.written first hfirst))
  · exact List.le_of_mem_argmin (f := id) (List.mem_map_of_mem hevent) htext

/-- The last text is that of a latest event. -/
theorem exists_latest_event (h : UniformTimes texts events) (hne : events ≠ []) :
    ∃ latest ∈ events, latest_event events = some latest.received_at_utc
      ∧ ∀ event ∈ events, event_time texts event ≤ event_time texts latest := by
  obtain ⟨text, htext⟩ : ∃ text,
      (events.map NormalizedPaperStreamEvent.received_at_utc).argmax id = some text := by
    apply Option.ne_none_iff_exists'.mp
    intro hnone
    exact hne (List.map_eq_nil_iff.mp (List.argmax_eq_none.mp hnone))
  obtain ⟨latest, hlatest, rfl⟩ := List.mem_map.mp (List.argmax_mem htext)
  refine ⟨latest, hlatest, ?_, fun event hevent => h.ordered event hevent latest hlatest ?_⟩
  · rw [latest_event, htext]
    exact if_pos (decide_eq_true (h.written latest hlatest))
  · exact List.le_of_mem_argmax (f := id) (List.mem_map_of_mem hevent) htext

theorem mem_stream_time_rows {stream time : String} :
    (stream, time) ∈ stream_time_rows events
      ↔ ∃ event ∈ events, event.stream_name = stream ∧ event.received_at_utc = time := by
  unfold stream_time_rows
  rw [List.mem_map]
  simp only [List.mem_insertionSort, Prod.mk.injEq]

end Events

/-! ## A ready session -/

/-- What a ready session has passed. -/
theorem checks_of_ready {settings : StrictDataCollectorSettings} {session : PaperSession}
    {events : List (NormalizedPaperStreamEvent K)} {now_utc : String} {capture : ForwardCapture}
    (h : session_capture texts settings session events now_utc = .ok capture)
    (hready : capture.first_window_ready = true) :
    capture.session_id = some session.session_id
      ∧ (∃ observed_seconds, seconds_between texts (first_event events) (latest_event events) 0
          = .ok observed_seconds ∧ settings.min_forward_seconds ≤ observed_seconds)
      ∧ ∃ gap, max_required_stream_gap_seconds texts settings (stream_time_rows events)
          (some ((first_event events).getD session.started_at_utc))
            (latest_activity texts session events) = .ok (some gap)
        ∧ gap ≤ settings.max_observed_gap_seconds := by
  unfold session_capture at h
  obtain ⟨observed_seconds, hobserved, h⟩ := bind_ok h
  obtain ⟨stale_seconds, -, h⟩ := bind_ok h
  obtain ⟨max_gap, hgap, h⟩ := bind_ok h
  cases h
  dsimp only at hready
  rw [Bool.and_eq_true, Bool.and_eq_true, decide_eq_true_eq] at hready
  obtain ⟨⟨hseconds, -⟩, hgaps⟩ := hready
  cases max_gap with
  | none => cases hgaps
  | some gap =>
      exact ⟨rfl, ⟨observed_seconds, hobserved, hseconds⟩, gap, hgap, of_decide_eq_true hgaps⟩

/-- Every required stream has its own gaps, none of them above the largest. -/
theorem steps_of_max_gap {settings : StrictDataCollectorSettings}
    {stream_times : List (String × String)} {window_start window_end : Option String} {gap : ℤ}
    (h : max_required_stream_gap_seconds texts settings stream_times window_start window_end
      = .ok (some gap)) (hle : gap ≤ settings.max_observed_gap_seconds) :
    required_streams settings ≠ [] ∧ ∀ stream ∈ required_streams settings,
      StreamSteps texts stream_times (window_start.filter (· ≠ "")) (window_end.filter (· ≠ ""))
        settings.max_observed_gap_seconds stream := by
  unfold max_required_stream_gap_seconds at h
  obtain ⟨gaps, hgaps, h⟩ := bind_ok h
  cases gaps with
  | none => cases h
  | some gaps =>
      have hmax : gaps.max? = some gap := Except.ok.inj h
      constructor
      · intro hnone
        rw [hnone] at hgaps
        cases hgaps
        cases hmax
      · intro stream hstream
        obtain ⟨own, hown, hsub⟩ := gaps_of_required hgaps stream hstream
        refine streamSteps_of_gaps hown fun own_gap hmem => ?_
        exact ((List.max?_eq_some_iff.mp hmax).2 own_gap (hsub own_gap hmem)).trans hle

/-- A stretch of time from the first event of a session on, up to the latest event or
heartbeat. -/
structure InsideSession (texts : CollectorTexts K) (session : PaperSession)
    (events : List (NormalizedPaperStreamEvent K)) (a b : ℝ) : Prop where
  start : ∃ event ∈ events, (event_time texts event : ℝ) ≤ a
  stop : (∃ event ∈ events, b ≤ event_time texts event)
    ∨ ∃ heartbeat, session.heartbeat_at_utc = some heartbeat ∧ heartbeat ≠ ""
      ∧ b ≤ timestamp_sort_key texts heartbeat

section Session

variable {session : PaperSession} {events : List (NormalizedPaperStreamEvent K)} {a b : ℝ}

/-- The latest activity is not before the end of a stretch of the session. -/
theorem le_latest_activity (h : UniformTimes texts events)
    (hinside : InsideSession texts session events a b) (hlong : a < b) :
    ∃ window_end, latest_activity texts session events = some window_end ∧ window_end ≠ ""
      ∧ b ≤ timestamp_sort_key texts window_end := by
  obtain ⟨start, hstart, hstart_le⟩ := hinside.start
  have hmin : (DATETIME_MIN : ℝ) ≤ event_time texts start := by exact_mod_cast h.min_le hstart
  -- a text that stands for the end of the stretch can be read
  have hread : ∀ text, b ≤ timestamp_sort_key texts text →
      timestamp_sort_key texts text ≠ DATETIME_MIN := by
    intro text htext heq
    rw [heq] at htext
    linarith
  have hlatest : ∀ text, some text ∈ [latest_event events,
        session.heartbeat_at_utc.filter (· ≠ "")] → text ≠ "" → b ≤ timestamp_sort_key texts text →
      ∃ window_end, latest_activity texts session events = some window_end ∧ window_end ≠ ""
        ∧ b ≤ timestamp_sort_key texts window_end := by
    intro text hmem hne htext
    obtain ⟨window_end, hend, hend_ne, hle⟩ := exists_latest_timestamp hmem hne (hread text htext)
    exact ⟨window_end, hend, hend_ne, htext.trans (by exact_mod_cast hle)⟩
  rcases hinside.stop with ⟨event, hevent, hle⟩ | ⟨heartbeat, hsome, hne, hle⟩
  · obtain ⟨latest, hmem, htext, hlast⟩ := exists_latest_event h (List.ne_nil_of_mem hevent)
    refine hlatest latest.received_at_utc ?_ (h.written latest hmem) ?_
    · rw [htext]
      exact List.mem_cons_self
    · exact hle.trans (by exact_mod_cast hlast event hevent)
  · refine hlatest heartbeat ?_ hne hle
    rw [hsome, Option.filter_some, if_pos (decide_eq_true hne)]
    exact List.mem_cons_of_mem _ List.mem_cons_self

/-- A stream without a large gap has an event in every longer stretch of the session. -/
theorem exists_event_between (h : UniformTimes texts events) {limit : ℤ} {stream : String}
    (hsteps : StreamSteps texts (stream_time_rows events)
      ((some ((first_event events).getD session.started_at_utc)).filter (· ≠ ""))
      ((latest_activity texts session events).filter (· ≠ "")) limit stream)
    (hinside : InsideSession texts session events a b)
    (hlong : a + (limit + 1) * SECOND_US < b) :
    ∃ event ∈ events, event.stream_name = stream ∧ a < event_time texts event
      ∧ event_time texts event < b := by
  have hlimit : (0 : ℝ) ≤ limit := by exact_mod_cast hsteps.nonneg
  have hgap : (0 : ℝ) ≤ (limit + 1) * SECOND_US := by positivity
  obtain ⟨start, hstart, hstart_le⟩ := hinside.start
  obtain ⟨first, hmem, hfirst, hearliest⟩ := exists_first_event h (List.ne_nil_of_mem hstart)
  obtain ⟨window_end, hend, hend_ne, hle⟩ := le_latest_activity h hinside (by linarith)
  -- the points of the stream begin with the first event and end with the latest activity
  have hchain := hsteps.steps
  rw [hfirst, hend, Option.getD_some, Option.filter_some,
    if_pos (decide_eq_true (h.written first hmem)), Option.filter_some,
    if_pos (decide_eq_true hend_ne)] at hchain
  have hreal : StepsBelow (fun text => (timestamp_sort_key texts text : ℝ))
      ((limit + 1) * (SECOND_US : ℤ) : ℤ) (first.received_at_utc
        :: (stream_timestamps texts (stream_time_rows events) stream ++ [window_end])) := by
    apply List.IsChain.imp _ hchain
    intro x y hstep
    dsimp only
    exact_mod_cast hstep
  have hstart_time : (event_time texts first : ℝ) ≤ a := by
    have hearliest' : (event_time texts first : ℝ) ≤ event_time texts start := by
      exact_mod_cast hearliest start hstart
    exact hearliest'.trans hstart_le
  obtain ⟨time, htime, hafter, hbefore⟩ :=
    exists_between_of_steps hreal hstart_time hle (by push_cast; exact hlong.le)
  obtain ⟨event, hevent, hname, rfl⟩ := mem_stream_time_rows.mp (mem_stream_timestamps.mp htime)
  exact ⟨event, hevent, hname, hafter, hbefore⟩

end Session

/-- In a session that is reported ready every required stream of every symbol has an event in
each stretch longer than the largest allowed gap and a second, and the events span the first
window. -/
theorem ready_window_has_no_hole {settings : StrictDataCollectorSettings} {db : PublicWsDb K}
    {now_utc : String} {capture : ForwardCapture}
    (h : build_forward_capture_inventory texts settings (some db) now_utc = .ok capture)
    (hready : capture.first_window_ready = true)
    (huniform : ∀ session_id, UniformTimes texts
      (parsed_events db.paper_stream_events session_id)) :
    ∃ session ∈ db.paper_sessions, capture.session_id = some session.session_id
      ∧ (∀ symbol ∈ settings.symbols, ∀ stream_kind ∈ STREAM_KINDS, ∀ a b : ℝ,
        InsideSession texts session (parsed_events db.paper_stream_events session.session_id) a b →
        a + (settings.max_observed_gap_seconds + 1) * SECOND_US < b →
          ∃ event ∈ parsed_events db.paper_stream_events session.session_id,
            event.stream_name = stream_name symbol stream_kind
            ∧ a < event_time texts event ∧ event_time texts event < b)
      ∧ ∃ first ∈ parsed_events db.paper_stream_events session.session_id,
        ∃ latest ∈ parsed_events db.paper_stream_events session.session_id,
          settings.min_forward_seconds * (SECOND_US : ℤ)
            ≤ event_time texts latest - event_time texts first := by
  -- the session whose rows are read
  unfold build_forward_capture_inventory at h
  dsimp only at h
  split at h
  · cases h
    cases hready
  next session_id _ =>
  split at h
  · cases h
    cases hready
  next session hsession =>
  have hfound := List.find?_some hsession
  obtain rfl : session.session_id = session_id := of_decide_eq_true hfound
  obtain ⟨hid, ⟨observed_seconds, hobserved, hspan⟩, gap, hgap, hle⟩ := checks_of_ready h hready
  obtain ⟨hsome, hsteps⟩ := steps_of_max_gap hgap hle
  have htimes := huniform session.session_id
  refine ⟨session, List.mem_of_find?_eq_some hsession, hid, ?_, ?_⟩
  · -- each stream of each symbol is a required one
    intro symbol hsymbol stream_kind hkind a b hinside hlong
    refine exists_event_between htimes (hsteps _ ?_) hinside hlong
    apply List.mem_dedup.mpr
    exact List.mem_flatMap.mpr ⟨symbol, hsymbol, List.mem_map_of_mem hkind⟩
  · -- a stream with two events makes the session one with events
    obtain ⟨stream, hstream⟩ := List.exists_mem_of_ne_nil _ hsome
    have htwo := (hsteps stream hstream).two_events
    have hne : parsed_events db.paper_stream_events session.session_id ≠ [] := by
      intro hnone
      have hlength : (stream_timestamps texts (stream_time_rows (K := K) []) stream).length = 0 :=
        rfl
      rw [hnone, hlength] at htwo
      omega
    obtain ⟨first, hfirst, hfirst_text, hearliest⟩ := exists_first_event htimes hne
    obtain ⟨latest, hlatest, hlatest_text, -⟩ := exists_latest_event htimes hne
    rw [hfirst_text, hlatest_text] at hobserved
    exact ⟨first, hfirst, latest, hlatest,
      le_of_seconds_between hobserved hspan (hearliest latest hlatest)⟩

/-- A second of the first minute of the epoch, in UTC. -/
def epoch_second (second : Fin 61) : PyDatetime where
  wall := second.val * 1000000
  utcoffset := some 0
  min := by
    have := second.isLt
    unfold EPOCH_ORDINAL DAY_US
    omega
  max := by
    have := second.isLt
    unfold EPOCH_ORDINAL DAY_US DATE_MAX
    omega
  offset_lt := utc_offset_lt

/-- Three times as the capture writes them. -/
def half_minute_times : List String :=
  ["1970-01-01T00:00:00Z", "1970-01-01T00:00:30Z", "1970-01-01T00:01:00Z"]

/-- How those times and the recorded streams are read. -/
def half_minute_texts : CollectorTexts ℚ where
  fromisoformat := fun text =>
    if text = "1970-01-01T00:00:00+00:00" then some (epoch_second 0)
    else if text = "1970-01-01T00:00:30+00:00" then some (epoch_second 30)
    else if text = "1970-01-01T00:01:00+00:00" then some (epoch_second 60)
    else none
  loads := fun text => if text = "[\"forceOrder\"]" then some (.list [.str "forceOrder"]) else none
  composite_text := fun _ => ""

/-- An event of a stream. -/
def half_minute_event (stream_event_id stream_name received_at_utc : String) :
    NormalizedPaperStreamEvent ℚ :=
  ⟨stream_event_id, "minute", received_at_utc, none, stream_name, some "BTCUSDT", none, "", [],
    .parsed, none, none⟩

/-- A session of one minute. -/
def half_minute_session : PaperSession :=
  ⟨"minute", "running", "1970-01-01T00:00:00Z", some "1970-01-01T00:01:00Z", "[\"forceOrder\"]"⟩

/-- Its record, an event of both streams every half a minute. -/
def half_minute_db : PublicWsDb ℚ where
  paper_sessions := [half_minute_session]
  paper_stream_events :=
    (["btcusdt@bookTicker", "btcusdt@markPrice@1s"].flatMap fun stream_name =>
      half_minute_times.map fun text =>
        half_minute_event (stream_name ++ text) stream_name text).foldl
      Execution.record_paper_stream_event ∅

/-- The status of that session. -/
def half_minute_capture : Except String ForwardCapture :=
  build_forward_capture_inventory half_minute_texts
    { symbols := ["BTCUSDT"], min_forward_seconds := 60, max_observed_gap_seconds := 30 }
    (some half_minute_db) "1970-01-01T00:01:00Z"

theorem half_minute_uniform (session_id : String) :
    UniformTimes half_minute_texts
      (parsed_events half_minute_db.paper_stream_events session_id) := by
  have htimes : ∀ event ∈ half_minute_db.paper_stream_events.values,
      event.received_at_utc ∈ half_minute_times := by
    decide +kernel
  refine uniformTimes_of_times (fun event hevent => htimes event (List.mem_of_mem_filter hevent))
    ?_ ?_ ?_
  · decide
  · decide +kernel
  · decide +kernel

/-- A book ticker is received after the first second and before the minute is over. -/
theorem ready_window_has_no_hole_minute :
    ∃ event ∈ parsed_events half_minute_db.paper_stream_events "minute",
      event.stream_name = "btcusdt@bookTicker"
        ∧ (1000000 : ℝ) < event_time half_minute_texts event
        ∧ (event_time half_minute_texts event : ℝ) < 60000000 := by
  have hready : half_minute_capture.toOption.any ForwardCapture.first_window_ready = true := by
    decide +kernel
  cases hcapture : half_minute_capture with
  | error message =>
      rw [hcapture] at hready
      cases hready
  | ok capture =>
      rw [hcapture] at hready
      obtain ⟨session, hsession, -, hwindow, -⟩ :=
        ready_window_has_no_hole hcapture hready half_minute_uniform
      obtain rfl := List.mem_singleton.mp hsession
      have hstream : stream_name "BTCUSDT" "bookTicker" = "btcusdt@bookTicker" := by decide +kernel
      have hinside : InsideSession half_minute_texts half_minute_session
          (parsed_events half_minute_db.paper_stream_events "minute") 1000000 60000000 := by
        constructor
        · have hfirst : ∃ event ∈ parsed_events half_minute_db.paper_stream_events "minute",
              event_time half_minute_texts event ≤ 1000000 := by
            decide +kernel
          obtain ⟨event, hevent, htime⟩ := hfirst
          exact ⟨event, hevent, by exact_mod_cast htime⟩
        · have hheartbeat : 60000000
              ≤ timestamp_sort_key half_minute_texts "1970-01-01T00:01:00Z" := by
            decide +kernel
          exact Or.inr ⟨_, rfl, by decide, by exact_mod_cast hheartbeat⟩
      rw [← hstream]
      refine hwindow "BTCUSDT" List.mem_cons_self "bookTicker" List.mem_cons_self 1000000 60000000
        hinside ?_
      norm_num [SECOND_US]

end ProofAlpha.App
