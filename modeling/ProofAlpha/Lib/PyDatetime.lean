/-
Python's `datetime.datetime` with a UTC offset, and its `isoformat()`.

A value is a wall-clock time and the offset of that clock, both in microseconds; the instant is
the one less the other. `isoformat` writes both. All fields but the microseconds and the seconds
of an offset have fixed widths and are always there, and what follows a field that may be left
out begins with a sign, so the text gives back the value (`isoformat_injective`). Two values of
one instant therefore have one text only if they have one offset.
-/
import ProofAlpha.Lib.Calendar

set_option autoImplicit false

namespace ProofAlpha.Lib

/-! ## Values -/

/-- The microseconds of a second, a minute, an hour and a day. -/
def SECOND_US : ℕ := 1000000

def MINUTE_US : ℕ := 60000000

def HOUR_US : ℕ := 3600000000

def DAY_US : ℕ := 86400000000

/-- `datetime.datetime`: the wall-clock time in microseconds since 1970, and its UTC offset; a
naive value has none. -/
@[ext]
structure PyDatetime where
  wall : ℤ
  utcoffset : Option ℤ
  min : 1 ≤ EPOCH_ORDINAL + wall / DAY_US
  max : EPOCH_ORDINAL + wall / DAY_US ≤ DATE_MAX
  offset_lt : ∀ offset ∈ utcoffset, offset.natAbs < DAY_US

/-- The offset of UTC is less than a day. -/
theorem utc_offset_lt : ∀ offset ∈ some (0 : ℤ), offset.natAbs < DAY_US := by
  intro offset hoffset
  obtain rfl := Option.mem_some_iff.mp hoffset
  decide

namespace PyDatetime

/-- The instant in microseconds since 1970; naive times are taken as UTC. -/
def instant (d : PyDatetime) : ℤ := d.wall - d.utcoffset.getD 0

/-- `d.replace(tzinfo=timezone.utc)` of a naive value. -/
def as_utc (d : PyDatetime) : PyDatetime where
  wall := d.wall
  utcoffset := some (d.utcoffset.getD 0)
  min := d.min
  max := d.max
  offset_lt := by
    intro offset hoffset
    obtain rfl := Option.mem_some_iff.mp hoffset
    cases hd : d.utcoffset with
    | none => decide
    | some offset => exact d.offset_lt offset hd

/-! ## Texts -/

/-- The microseconds of a second, left out when there are none. -/
def microsecond_text (micros : ℕ) (rest : List Char) : List Char :=
  if micros = 0 then rest else '.' :: (pad 6 micros ++ rest)

/-- The size of an offset, its seconds and microseconds left out when there are none. -/
def offset_size_text (size : ℕ) : List Char :=
  pad 2 (size / HOUR_US) ++ ':' :: (pad 2 (size / MINUTE_US % 60)
    ++ if size % MINUTE_US = 0 then []
      else ':' :: (pad 2 (size / SECOND_US % 60) ++ microsecond_text (size % SECOND_US) []))

/-- The offset at the end of an `isoformat()`. -/
def offset_text : Option ℤ → List Char
  | none => []
  | some offset => (if offset < 0 then '-' else '+') :: offset_size_text offset.natAbs

/-- The time of day and what follows it. -/
def clock_text (micros : ℕ) (rest : List Char) : List Char :=
  pad 2 (micros / HOUR_US) ++ ':' :: (pad 2 (micros / MINUTE_US % 60) ++ ':' ::
    (pad 2 (micros / SECOND_US % 60) ++ microsecond_text (micros % SECOND_US) rest))

/-- `d.isoformat()`. -/
def isoformat (d : PyDatetime) : String :=
  String.ofList (date_text (EPOCH_ORDINAL + d.wall / DAY_US).toNat
    ('T' :: clock_text (d.wall % DAY_US).toNat (offset_text d.utcoffset)))

/-! ## What a text gives back -/

/-- A field of a fixed width gives back its number. -/
theorem pad_append_inj {width n m : ℕ} (hn : n < 10 ^ width) (hm : m < 10 ^ width)
    {s t : List Char} (h : pad width n ++ s = pad width m ++ t) : n = m ∧ s = t := by
  obtain ⟨hpad, hrest⟩ := List.append_inj h (by rw [length_pad, length_pad])
  refine ⟨?_, hrest⟩
  rcases lt_trichotomy n m with hlt | heq | hlt
  · exact absurd hpad (pad_lt_pad hm hlt).ne
  · exact heq
  · exact absurd hpad (pad_lt_pad hn hlt).ne'

/-- A field of a fixed width and the sign after it. -/
theorem pad_cons_inj {width n m : ℕ} (hn : n < 10 ^ width) (hm : m < 10 ^ width) {c : Char}
    {s t : List Char} (h : pad width n ++ c :: s = pad width m ++ c :: t) : n = m ∧ s = t := by
  obtain ⟨heq, hrest⟩ := pad_append_inj hn hm h
  exact ⟨heq, (List.cons.inj hrest).2⟩

theorem date_text_inj {ordinal ordinal' : ℕ} (hmin : 1 ≤ ordinal) (hmin' : 1 ≤ ordinal')
    (hmax : ordinal ≤ DATE_MAX) (hmax' : ordinal' ≤ DATE_MAX) {rest rest' : List Char}
    (h : date_text ordinal rest = date_text ordinal' rest') :
    ordinal = ordinal' ∧ rest = rest' := by
  rcases lt_trichotomy ordinal ordinal' with hlt | heq | hlt
  · exact absurd h (date_text_lt hmin hmax' hlt rest rest').ne
  · subst heq
    refine ⟨rfl, ?_⟩
    unfold date_text at h
    simpa using h
  · exact absurd h (date_text_lt hmin' hmax hlt rest' rest).ne'

theorem microsecond_text_inj {micros micros' : ℕ} (hlt : micros < 10 ^ 6) (hlt' : micros' < 10 ^ 6)
    {rest rest' : List Char} (hrest : rest.head? ≠ some '.') (hrest' : rest'.head? ≠ some '.')
    (h : microsecond_text micros rest = microsecond_text micros' rest') :
    micros = micros' ∧ rest = rest' := by
  unfold microsecond_text at h
  split_ifs at h with hzero hzero' hzero'
  · exact ⟨hzero.trans hzero'.symm, h⟩
  · rw [h] at hrest
    exact absurd rfl hrest
  · rw [← h] at hrest'
    exact absurd rfl hrest'
  · exact pad_append_inj hlt hlt' (List.cons.inj h).2

theorem offset_size_text_inj {size size' : ℕ} (hlt : size < DAY_US) (hlt' : size' < DAY_US)
    (h : offset_size_text size = offset_size_text size') : size = size' := by
  unfold DAY_US at hlt hlt'
  unfold offset_size_text HOUR_US MINUTE_US SECOND_US at h
  obtain ⟨hhour, h⟩ := pad_cons_inj (by omega) (by omega) h
  obtain ⟨hminute, h⟩ := pad_append_inj (by omega) (by omega) h
  split_ifs at h
  · omega
  · obtain ⟨hsecond, h⟩ := pad_append_inj (by omega) (by omega) (List.cons.inj h).2
    obtain ⟨hmicros, -⟩ := microsecond_text_inj (by omega) (by omega) (by simp) (by simp) h
    omega

theorem offset_text_inj {offset offset' : Option ℤ}
    (hlt : ∀ o ∈ offset, o.natAbs < DAY_US) (hlt' : ∀ o ∈ offset', o.natAbs < DAY_US)
    (h : offset_text offset = offset_text offset') : offset = offset' := by
  cases offset with
  | none =>
      cases offset' with
      | none => rfl
      | some offset' => cases h
  | some offset =>
      cases offset' with
      | none => cases h
      | some offset' =>
          obtain ⟨hsign, hsize⟩ := List.cons.inj h
          have habs := offset_size_text_inj (hlt offset rfl) (hlt' offset' rfl) hsize
          split_ifs at hsign
          · congr 1
            omega
          · exact absurd hsign (by decide)
          · exact absurd hsign (by decide)
          · congr 1
            omega

/-- An offset begins with a sign. -/
theorem head_offset_text (offset : Option ℤ) : (offset_text offset).head? ≠ some '.' := by
  cases offset with
  | none => simp [offset_text]
  | some offset =>
      rw [offset_text, List.head?_cons]
      split_ifs <;> decide

theorem clock_text_inj {micros micros' : ℕ} (hlt : micros < DAY_US) (hlt' : micros' < DAY_US)
    {offset offset' : Option ℤ}
    (h : clock_text micros (offset_text offset) = clock_text micros' (offset_text offset')) :
    micros = micros' ∧ offset_text offset = offset_text offset' := by
  unfold DAY_US at hlt hlt'
  unfold clock_text HOUR_US MINUTE_US SECOND_US at h
  obtain ⟨hhour, h⟩ := pad_cons_inj (by omega) (by omega) h
  obtain ⟨hminute, h⟩ := pad_cons_inj (by omega) (by omega) h
  obtain ⟨hsecond, h⟩ := pad_append_inj (by omega) (by omega) h
  obtain ⟨hmicros, h⟩ := microsecond_text_inj (by omega) (by omega) (head_offset_text offset)
    (head_offset_text offset') h
  exact ⟨by omega, h⟩

/-- A text is that of one value. -/
theorem isoformat_injective : Function.Injective isoformat := by
  intro d d' h
  have hd := d.min
  have hd' := d'.min
  have hmax := d.max
  have hmax' := d'.max
  unfold isoformat at h
  obtain ⟨hordinal, h⟩ := date_text_inj (by omega) (by omega) (by omega) (by omega)
    (String.ofList_injective h)
  have hday : (0 : ℤ) < DAY_US := by decide
  have hmod := Int.emod_lt_of_pos d.wall hday
  have hmod' := Int.emod_lt_of_pos d'.wall hday
  obtain ⟨hclock, hoffset⟩ := clock_text_inj (by omega) (by omega) (List.cons.inj h).2
  unfold DAY_US at *
  exact PyDatetime.ext (by omega) (offset_text_inj d.offset_lt d'.offset_lt hoffset)

end PyDatetime

end ProofAlpha.Lib
