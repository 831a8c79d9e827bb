/-
The canonical text of a decoded JSON value.

`canonical_json` is `json.dumps(value, sort_keys=True, separators=(",", ":"))`
with `ensure_ascii` on: objects sorted by key at every level, no white space, and
only ASCII characters in the text. Such a text can be read in one way only, so it
determines the value up to the order of the fields of its objects.

The text of a float is a parameter; `JsonFloats` says what `float.__repr__`
promises about it.
-/
import Mathlib.Data.List.Sort
import Mathlib.Data.String.Basic
import ProofAlpha.Lib.PyJson
import ProofAlpha.Lib.PyList

set_option autoImplicit false

namespace ProofAlpha.Lib

/-! ## Text literals -/

/-- `ESCAPE_DCT`, the characters with a short escape. -/
def ESCAPE_DCT : List (Char × Char) :=
  [('\\', '\\'), ('"', '"'), ('\n', 'n'), ('\r', 'r'), ('\t', 't'), ('\x08', 'b'), ('\x0c', 'f')]

/-- `'\\u{0:04x}'.format(n)`. -/
def unicode_escape (n : ℕ) : List Char :=
  ['\\', 'u', Nat.digitChar (n / 4096), Nat.digitChar (n / 256 % 16), Nat.digitChar (n / 16 % 16),
    Nat.digitChar (n % 16)]

/-- One character of a text literal. -/
def escape_char (c : Char) : List Char :=
  match List.lookup c ESCAPE_DCT with
  | some short => ['\\', short]
  | none =>
      if 32 ≤ c.toNat ∧ c.toNat ≤ 126 then [c]
      else if c.toNat < 65536 then unicode_escape c.toNat
      else
        -- a surrogate pair
        unicode_escape (55296 + (c.toNat - 65536) / 1024)
          ++ unicode_escape (56320 + (c.toNat - 65536) % 1024)

/-- `py_encode_basestring_ascii`, the text of a string. -/
def dump_text (text : String) : List Char :=
  '"' :: (text.toList.flatMap escape_char ++ ['"'])

/-- The number that a hexadecimal digit stands for. -/
def hex_value (c : Char) : ℕ := if c.isDigit then c.toNat - 48 else c.toNat - 87

/-- The number that four hexadecimal digits stand for. -/
def hex_unit (a b c d : Char) : ℕ :=
  hex_value a * 4096 + hex_value b * 256 + hex_value c * 16 + hex_value d

/-- Reads one character of a text literal back, none at its end. -/
def read_char : List Char → Option (Char × List Char)
  | '\\' :: 'u' :: a :: b :: c :: d :: rest =>
      let high := hex_unit a b c d
      if 55296 ≤ high ∧ high < 57344 then
        match rest with
        | '\\' :: 'u' :: a' :: b' :: c' :: d' :: rest =>
            some (Char.ofNat ((high - 55296) * 1024 + (hex_unit a' b' c' d' - 56320) + 65536), rest)
        | _ => none
      else some (Char.ofNat high, rest)
  | '\\' :: short :: rest => (ESCAPE_DCT.find? (·.2 == short)).map fun entry => (entry.1, rest)
  | '"' :: _ => none
  | c :: rest => some (c, rest)
  | [] => none

theorem hex_value_digitChar {n : ℕ} (h : n < 16) : hex_value (Nat.digitChar n) = n := by
  have hall : ∀ n < 16, hex_value (Nat.digitChar n) = n := by decide
  exact hall n h

theorem hex_unit_digits {n : ℕ} (h : n < 65536) :
    hex_unit (Nat.digitChar (n / 4096)) (Nat.digitChar (n / 256 % 16))
      (Nat.digitChar (n / 16 % 16)) (Nat.digitChar (n % 16)) = n := by
  have hfirst : n / 4096 < 16 := Nat.div_lt_of_lt_mul h
  rw [hex_unit, hex_value_digitChar hfirst, hex_value_digitChar (Nat.mod_lt _ (by decide)),
    hex_value_digitChar (Nat.mod_lt _ (by decide)), hex_value_digitChar (Nat.mod_lt _ (by decide))]
  omega

/-- A character without a surrogate pair is read back from its escape. -/
theorem read_char_unicode_escape {n : ℕ} (h : n < 65536) (hplain : ¬ (55296 ≤ n ∧ n < 57344))
    (rest : List Char) : read_char (unicode_escape n ++ rest) = some (Char.ofNat n, rest) := by
  have hread : ∀ a b c d, ¬ (55296 ≤ hex_unit a b c d ∧ hex_unit a b c d < 57344) →
      read_char ('\\' :: 'u' :: a :: b :: c :: d :: rest)
        = some (Char.ofNat (hex_unit a b c d), rest) := fun a b c d hne => if_neg hne
  have hdigits := hex_unit_digits h
  rw [← hdigits] at hplain
  simp only [unicode_escape, List.cons_append, List.nil_append]
  rw [hread _ _ _ _ hplain, hdigits]

/-- A character above the basic plane is read back from its surrogate pair. -/
theorem read_char_surrogates {high low : ℕ} (hhigh : 55296 ≤ high ∧ high < 57344)
    (hlow : low < 65536) (rest : List Char) :
    read_char (unicode_escape high ++ unicode_escape low ++ rest)
      = some (Char.ofNat ((high - 55296) * 1024 + (low - 56320) + 65536), rest) := by
  have hread : ∀ a b c d a' b' c' d', 55296 ≤ hex_unit a b c d ∧ hex_unit a b c d < 57344 →
      read_char ('\\' :: 'u' :: a :: b :: c :: d :: '\\' :: 'u' :: a' :: b' :: c' :: d' :: rest)
        = some (Char.ofNat ((hex_unit a b c d - 55296) * 1024 + (hex_unit a' b' c' d' - 56320)
            + 65536), rest) := fun a b c d a' b' c' d' hpair => if_pos hpair
  have hdigits := hex_unit_digits (n := high) (by omega)
  rw [← hdigits] at hhigh
  simp only [unicode_escape, List.cons_append, List.nil_append]
  rw [hread _ _ _ _ _ _ _ _ hhigh, hdigits, hex_unit_digits hlow]

/-- A character that stands for itself is read as it is. -/
theorem read_char_plain {c : Char} (hslash : c ≠ '\\') (hquote : c ≠ '"') (rest : List Char) :
    read_char (c :: rest) = some (c, rest) := by
  unfold read_char
  split
  · next heq => exact absurd (List.cons.inj heq).1 hslash
  · next heq => exact absurd (List.cons.inj heq).1 hslash
  · next heq => exact absurd (List.cons.inj heq).1 hquote
  · next heq =>
      cases heq
      rfl
  · next heq => cases heq

/-- Every character is read back from its escape. -/
theorem read_char_escape_char (c : Char) (rest : List Char) :
    read_char (escape_char c ++ rest) = some (c, rest) := by
  unfold escape_char
  cases hlookup : List.lookup c ESCAPE_DCT with
  | some short =>
      have hshort : ∀ entry ∈ ESCAPE_DCT, ∀ rest,
          read_char ('\\' :: entry.2 :: rest) = some (entry.1, rest) := by
        intro entry hentry rest
        simp only [ESCAPE_DCT, List.mem_cons, List.not_mem_nil, or_false] at hentry
        rcases hentry with rfl | rfl | rfl | rfl | rfl | rfl | rfl <;> rfl
      exact hshort (c, short) (PyList.mem_of_lookup_eq_some hlookup) rest
  | none =>
      have hback : Char.ofNat c.toNat = c := Char.ofNat_toNat c
      have hvalid : c.toNat < 55296 ∨ 57343 < c.toNat ∧ c.toNat < 1114112 := c.valid
      dsimp only
      split_ifs with hascii hplane
      · -- neither a backslash nor a quote, both of which have a short escape
        have hslash : c ≠ '\\' := by
          rintro rfl
          cases hlookup
        have hquote : c ≠ '"' := by
          rintro rfl
          cases hlookup
        rw [List.singleton_append, read_char_plain hslash hquote]
      · rw [read_char_unicode_escape hplane (by omega), hback]
      · have hsum : (55296 + (c.toNat - 65536) / 1024 - 55296) * 1024
            + (56320 + (c.toNat - 65536) % 1024 - 56320) + 65536 = c.toNat := by omega
        rw [read_char_surrogates (by omega) (by omega), hsum, hback]

/-- The characters of a literal can be read in one way only. -/
theorem escape_chars_inj {cs ds s t : List Char}
    (h : cs.flatMap escape_char ++ '"' :: s = ds.flatMap escape_char ++ '"' :: t) :
    cs = ds ∧ s = t := by
  have hend : ∀ rest, read_char ('"' :: rest) = none := fun _ => rfl
  induction cs generalizing ds with
  | nil =>
      cases ds with
      | nil => exact ⟨rfl, (List.cons.inj h).2⟩
      | cons d ds =>
          have hread := congrArg read_char h
          rw [List.flatMap_cons, List.append_assoc, read_char_escape_char, List.flatMap_nil,
            List.nil_append, hend] at hread
          cases hread
  | cons c cs ih =>
      rw [List.flatMap_cons, List.append_assoc] at h
      have hread := congrArg read_char h
      rw [read_char_escape_char] at hread
      cases ds with
      | nil =>
          rw [List.flatMap_nil, List.nil_append, hend] at hread
          cases hread
      | cons d ds =>
          rw [List.flatMap_cons, List.append_assoc, read_char_escape_char] at hread
          obtain ⟨hc, hrest⟩ := Prod.mk.inj (Option.some.inj hread)
          obtain ⟨hcs, hst⟩ := ih hrest
          exact ⟨by rw [hc, hcs], hst⟩

/-- A text literal can be read in one way only. -/
theorem dump_text_inj {text text' : String} {s t : List Char}
    (h : dump_text text ++ s = dump_text text' ++ t) : text = text' ∧ s = t := by
  unfold dump_text at h
  rw [List.cons_append, List.cons_append, List.append_assoc, List.append_assoc] at h
  obtain ⟨htext, hst⟩ := escape_chars_inj (List.cons.inj h).2
  exact ⟨String.toList_inj.mp htext, hst⟩

/-! ## Values -/

/-- The characters of a number. -/
def is_number_char (c : Char) : Bool := c.isDigit || "+-.e".toList.contains c

/-- The texts of floats: `float.__repr__` writes different floats differently,
with digits, signs, a point or an exponent, and never without one of the last
two. -/
structure JsonFloats (K : Type) where
  text : K → List Char
  injective : Function.Injective text
  number_chars : ∀ x, ∀ c ∈ text x, is_number_char c = true
  marked : ∀ x, '.' ∈ text x ∨ 'e' ∈ text x

section Dump

variable {K : Type} (floats : JsonFloats K)

mutual

/-- `json.dumps(value, separators=(",", ":"))`. -/
def dump : JsonValue K → List Char
  | .null => "null".toList
  | .bool true => "true".toList
  | .bool false => "false".toList
  | .int n => (toString n).toList
  | .float x => floats.text x
  | .str s => dump_text s
  | .list [] => "[]".toList
  | .list (value :: items) => '[' :: (dump value ++ dump_items items)
  | .dict [] => "{}".toList
  | .dict ((key, value) :: fields) =>
      '{' :: (dump_text key ++ ':' :: (dump value ++ dump_fields fields))

/-- The items after the first, and the closing bracket. -/
def dump_items : List (JsonValue K) → List Char
  | [] => [']']
  | value :: items => ',' :: (dump value ++ dump_items items)

/-- The fields after the first, and the closing brace. -/
def dump_fields : List (String × JsonValue K) → List Char
  | [] => ['}']
  | (key, value) :: fields => ',' :: (dump_text key ++ ':' :: (dump value ++ dump_fields fields))

end

/-! ### The first character -/

/-- What the first character of a text says about its value. -/
inductive Opening where
  | null
  | bool (b : Bool)
  | number
  | text
  | list
  | dict

/-- The opening of the text of a value. -/
def opening : JsonValue K → Opening
  | .null => .null
  | .bool b => .bool b
  | .int _ => .number
  | .float _ => .number
  | .str _ => .text
  | .list _ => .list
  | .dict _ => .dict

/-- The opening that a character is, none of a bracket, a comma or a colon. -/
def opening_of (c : Char) : Option Opening :=
  if c = 'n' then some .null
  else if c = 't' then some (.bool true)
  else if c = 'f' then some (.bool false)
  else if c = '"' then some .text
  else if c = '[' then some .list
  else if c = '{' then some .dict
  else if is_number_char c then some .number
  else none

theorem opening_of_number {c : Char} (h : is_number_char c = true) :
    opening_of c = some .number := by
  have hne : ∀ d, is_number_char d = false → c ≠ d := by
    rintro d hd rfl
    rw [hd] at h
    cases h
  rw [opening_of, if_neg (hne 'n' (by decide)), if_neg (hne 't' (by decide)),
    if_neg (hne 'f' (by decide)), if_neg (hne '"' (by decide)), if_neg (hne '[' (by decide)),
    if_neg (hne '{' (by decide)), if_pos h]

/-- The text of an integer is made of digits and a sign. -/
theorem int_text_chars (n : ℤ) : ∀ c ∈ (toString n).toList, c.isDigit = true ∨ c = '-' := by
  have hdigits : ∀ (k : ℕ) (c : Char), c ∈ Nat.toDigits 10 k → c.isDigit = true :=
    fun k c hc => Nat.isDigit_of_mem_toDigits (by decide) (by decide) hc
  intro c hc
  cases n with
  | ofNat k =>
      have hlist : (toString (Int.ofNat k)).toList = Nat.toDigits 10 k := Nat.toList_repr
      exact Or.inl (hdigits k c (hlist ▸ hc))
  | negSucc k =>
      change c ∈ ("-" ++ Nat.repr (k + 1)).toList at hc
      rw [String.toList_append, Nat.toList_repr] at hc
      rcases List.mem_append.mp hc with hsign | hdigit
      · exact Or.inr (List.mem_singleton.mp hsign)
      · exact Or.inl (hdigits (k + 1) c hdigit)

theorem int_number_chars (n : ℤ) : ∀ c ∈ (toString n).toList, is_number_char c = true := by
  intro c hc
  rcases int_text_chars n c hc with hdigit | rfl
  · rw [is_number_char, hdigit, Bool.true_or]
  · decide

theorem int_text_injective {m n : ℤ} (h : (toString m).toList = (toString n).toList) : m = n := by
  have hread := congrArg int_of_text (String.toList_inj.mp h)
  rw [int_of_text_toString, int_of_text_toString] at hread
  exact Option.some.inj hread

/-- No integer is written as a float is. -/
theorem int_text_ne_float (n : ℤ) (x : K) : (toString n).toList ≠ floats.text x := by
  intro h
  have hplain := int_text_chars n
  rw [h] at hplain
  rcases floats.marked x with hpoint | hexponent
  · exact absurd (hplain '.' hpoint) (by decide)
  · exact absurd (hplain 'e' hexponent) (by decide)

/-- The first character of a text is the opening of its value. -/
theorem dump_opening (value : JsonValue K) :
    ∃ c rest, dump floats value = c :: rest ∧ opening_of c = some (opening value) := by
  have hnumber : ∀ text : List Char, text ≠ [] → (∀ c ∈ text, is_number_char c = true) →
      ∃ c rest, text = c :: rest ∧ opening_of c = some .number := by
    intro text hne hchars
    cases text with
    | nil => exact absurd rfl hne
    | cons c rest => exact ⟨c, rest, rfl, opening_of_number (hchars c (List.mem_cons_self ..))⟩
  cases value with
  | null => exact ⟨'n', _, by rw [dump]; rfl, rfl⟩
  | bool b =>
      cases b with
      | true => exact ⟨'t', _, by rw [dump]; rfl, rfl⟩
      | false => exact ⟨'f', _, by rw [dump]; rfl, rfl⟩
  | int n =>
      rw [dump]
      refine hnumber _ (fun hempty => ?_) (int_number_chars n)
      have hread := int_of_text_toString n
      rw [String.toList_eq_nil_iff.mp hempty] at hread
      cases hread
  | float x =>
      rw [dump]
      refine hnumber _ (fun hempty => ?_) (floats.number_chars x)
      rcases floats.marked x with hpoint | hexponent
      · exact absurd (hempty ▸ hpoint) List.not_mem_nil
      · exact absurd (hempty ▸ hexponent) List.not_mem_nil
  | str text => exact ⟨'"', _, by rw [dump]; rfl, rfl⟩
  | list items =>
      cases items with
      | nil => exact ⟨'[', _, by rw [dump]; rfl, rfl⟩
      | cons item items => exact ⟨'[', _, by rw [dump], rfl⟩
  | dict fields =>
      cases fields with
      | nil => exact ⟨'{', _, by rw [dump]; rfl, rfl⟩
      | cons field fields => exact ⟨'{', _, by rw [dump], rfl⟩

/-- Equal texts open equally. -/
theorem opening_eq {v w : JsonValue K} {s t : List Char}
    (h : dump floats v ++ s = dump floats w ++ t) : opening v = opening w := by
  obtain ⟨c, rest, hv, hc⟩ := dump_opening floats v
  obtain ⟨d, rest', hw, hd⟩ := dump_opening floats w
  rw [hv, hw, List.cons_append, List.cons_append] at h
  rw [(List.cons.inj h).1] at hc
  exact Option.some.inj (hc.symm.trans hd)

/-- The text of no value opens with a bracket that closes. -/
theorem dump_ne_closing {c : Char} (hclosing : opening_of c = none) (value : JsonValue K)
    (s t : List Char) : dump floats value ++ s ≠ c :: t := by
  intro h
  obtain ⟨d, rest, hdump, hopening⟩ := dump_opening floats value
  rw [hdump, List.cons_append] at h
  rw [(List.cons.inj h).1, hclosing] at hopening
  cases hopening

/-! ### Reading in one way only -/

/-- What follows a value does not go on with a number. -/
def Delimited (s : List Char) : Prop := ∀ c ∈ s.head?, is_number_char c = false

theorem delimited_nil : Delimited [] := by
  intro c hc
  cases hc

theorem delimited_cons {c : Char} (h : is_number_char c = false) (s : List Char) :
    Delimited (c :: s) := by
  intro d hd
  cases hd
  exact h

/-- Two texts of characters that satisfy `p` end where the first other
character stands. -/
theorem run_inj {p : Char → Bool} {a b s t : List Char} (ha : ∀ c ∈ a, p c = true)
    (hb : ∀ c ∈ b, p c = true) (hs : ∀ c ∈ s.head?, p c = false) (ht : ∀ c ∈ t.head?, p c = false)
    (h : a ++ s = b ++ t) : a = b ∧ s = t := by
  have hnone : ∀ s : List Char, (∀ c ∈ s.head?, p c = false) → s.takeWhile p = [] := by
    intro s hs
    cases s with
    | nil => rfl
    | cons c s => exact List.takeWhile_cons_of_neg (by rw [hs c rfl]; decide)
  have htake := congrArg (List.takeWhile p) h
  rw [List.takeWhile_append_of_pos ha, List.takeWhile_append_of_pos hb, hnone s hs, hnone t ht,
    List.append_nil, List.append_nil] at htake
  subst htake
  exact ⟨rfl, List.append_cancel_left h⟩

theorem delimited_dump_items (items : List (JsonValue K)) (s : List Char) :
    Delimited (dump_items floats items ++ s) := by
  cases items with
  | nil =>
      rw [dump_items]
      exact delimited_cons (by decide) _
  | cons item items =>
      rw [dump_items]
      exact delimited_cons (by decide) _

theorem delimited_dump_fields (fields : List (String × JsonValue K)) (s : List Char) :
    Delimited (dump_fields floats fields ++ s) := by
  cases fields with
  | nil =>
      rw [dump_fields]
      exact delimited_cons (by decide) _
  | cons field fields =>
      rw [dump_fields]
      exact delimited_cons (by decide) _

mutual

/-- The text of a value can be read in one way only, by induction on the value
along its first character. -/
theorem dump_append_inj : ∀ (v w : JsonValue K) (s t : List Char), Delimited s → Delimited t →
    dump floats v ++ s = dump floats w ++ t → v = w ∧ s = t
  | .null, w, s, t, _, _, h => by
      have hopening := opening_eq floats h
      cases w <;> cases hopening
      exact ⟨rfl, List.append_cancel_left h⟩
  | .bool b, w, s, t, _, _, h => by
      have hopening := opening_eq floats h
      cases w <;> cases hopening
      exact ⟨rfl, List.append_cancel_left h⟩
  | .int n, w, s, t, hs, ht, h => by
      have hopening := opening_eq floats h
      cases w with
      | int m =>
          rw [dump, dump] at h
          obtain ⟨htext, hst⟩ :=
            run_inj (int_number_chars n) (int_number_chars m) hs ht h
          exact ⟨by rw [int_text_injective htext], hst⟩
      | float x =>
          rw [dump, dump] at h
          have htext := (run_inj (int_number_chars n) (floats.number_chars x) hs ht h).1
          exact absurd htext (int_text_ne_float floats n x)
      | _ => cases hopening
  | .float x, w, s, t, hs, ht, h => by
      have hopening := opening_eq floats h
      cases w with
      | int m =>
          rw [dump, dump] at h
          have htext := (run_inj (floats.number_chars x) (int_number_chars m) hs ht h).1
          exact absurd htext.symm (int_text_ne_float floats m x)
      | float y =>
          rw [dump, dump] at h
          obtain ⟨htext, hst⟩ :=
            run_inj (floats.number_chars x) (floats.number_chars y) hs ht h
          exact ⟨by rw [floats.injective htext], hst⟩
      | _ => cases hopening
  | .str text, w, s, t, _, _, h => by
      have hopening := opening_eq floats h
      cases w <;> cases hopening
      rw [dump, dump] at h
      obtain ⟨htext, hst⟩ := dump_text_inj h
      exact ⟨by rw [htext], hst⟩
  | .list [], w, s, t, _, _, h => by
      have hopening := opening_eq floats h
      cases w <;> cases hopening
      rename_i items
      cases items with
      | nil => exact ⟨rfl, List.append_cancel_left h⟩
      | cons item items =>
          rw [dump, dump, List.cons_append, List.append_assoc] at h
          exact absurd (List.cons.inj h).2.symm (dump_ne_closing floats (by decide) item _ _)
  | .list (item :: items), w, s, t, hs, ht, h => by
      have hopening := opening_eq floats h
      cases w <;> cases hopening
      rename_i items'
      cases items' with
      | nil =>
          rw [dump, dump, List.cons_append, List.append_assoc] at h
          exact absurd (List.cons.inj h).2 (dump_ne_closing floats (by decide) item _ _)
      | cons item' items' =>
          -- but for the bracket both texts are those of further items
          rw [dump, dump, List.cons_append, List.cons_append] at h
          have hitems : dump_items floats (item :: items) ++ s
              = dump_items floats (item' :: items') ++ t := by
            rw [dump_items, dump_items, List.cons_append, List.cons_append, (List.cons.inj h).2]
          obtain ⟨hlist, hst⟩ := dump_items_append_inj _ _ s t hitems
          exact ⟨by rw [hlist], hst⟩
  | .dict [], w, s, t, _, _, h => by
      have hopening := opening_eq floats h
      cases w <;> cases hopening
      rename_i fields
      cases fields with
      | nil => exact ⟨rfl, List.append_cancel_left h⟩
      | cons field fields =>
          rw [dump, dump] at h
          cases h
  | .dict ((key, value) :: fields), w, s, t, hs, ht, h => by
      have hopening := opening_eq floats h
      cases w <;> cases hopening
      rename_i fields'
      cases fields' with
      | nil =>
          rw [dump, dump] at h
          cases h
      | cons field' fields' =>
          rw [dump, dump, List.cons_append, List.cons_append] at h
          have hfields : dump_fields floats ((key, value) :: fields) ++ s
              = dump_fields floats (field' :: fields') ++ t := by
            rw [dump_fields, dump_fields, List.cons_append, List.cons_append, (List.cons.inj h).2]
          obtain ⟨hdict, hst⟩ := dump_fields_append_inj _ _ s t hfields
          exact ⟨by rw [hdict], hst⟩

/-- The rest of a list likewise. -/
theorem dump_items_append_inj : ∀ (items items' : List (JsonValue K)) (s t : List Char),
    dump_items floats items ++ s = dump_items floats items' ++ t → items = items' ∧ s = t
  | [], items', s, t, h => by
      cases items' with
      | nil => exact ⟨rfl, List.append_cancel_left h⟩
      | cons item' items' =>
          rw [dump_items, dump_items] at h
          cases h
  | item :: items, items', s, t, h => by
      cases items' with
      | nil =>
          rw [dump_items, dump_items] at h
          cases h
      | cons item' items' =>
          rw [dump_items, dump_items, List.cons_append, List.cons_append, List.append_assoc,
            List.append_assoc] at h
          obtain ⟨hitem, hrest⟩ := dump_append_inj item item' _ _ (delimited_dump_items floats _ _)
            (delimited_dump_items floats _ _) (List.cons.inj h).2
          obtain ⟨hitems, hst⟩ := dump_items_append_inj items items' s t hrest
          exact ⟨by rw [hitem, hitems], hst⟩

/-- The rest of an object likewise. -/
theorem dump_fields_append_inj :
    ∀ (fields fields' : List (String × JsonValue K)) (s t : List Char),
      dump_fields floats fields ++ s = dump_fields floats fields' ++ t →
        fields = fields' ∧ s = t
  | [], fields', s, t, h => by
      cases fields' with
      | nil => exact ⟨rfl, List.append_cancel_left h⟩
      | cons field' fields' =>
          rw [dump_fields, dump_fields] at h
          cases h
  | (key, value) :: fields, fields', s, t, h => by
      cases fields' with
      | nil =>
          rw [dump_fields, dump_fields] at h
          cases h
      | cons field' fields' =>
          obtain ⟨key', value'⟩ := field'
          rw [dump_fields, dump_fields, List.cons_append, List.cons_append, List.append_assoc,
            List.append_assoc, List.cons_append, List.cons_append, List.append_assoc,
            List.append_assoc] at h
          obtain ⟨hkey, hrest⟩ := dump_text_inj (List.cons.inj h).2
          obtain ⟨hvalue, hrest⟩ := dump_append_inj value value' _ _
            (delimited_dump_fields floats _ _) (delimited_dump_fields floats _ _)
            (List.cons.inj hrest).2
          obtain ⟨hfields, hst⟩ := dump_fields_append_inj fields fields' s t hrest
          exact ⟨by rw [hkey, hvalue, hfields], hst⟩

end

/-- Different values have different texts. -/
theorem dump_injective {v w : JsonValue K} (h : dump floats v = dump floats w) : v = w :=
  (dump_append_inj floats v w [] [] delimited_nil delimited_nil (by rw [h])).1

end Dump

/-! ## Sorted keys -/

section Sorted

variable {K : Type}

/-- Fields in the order of their keys. -/
def by_key (fields : List (String × JsonValue K)) : List (String × JsonValue K) :=
  fields.insertionSort fun a b => a.1 ≤ b.1

mutual

/-- What `sort_keys=True` makes of a value. -/
def sort_keys : JsonValue K → JsonValue K
  | .null => .null
  | .bool b => .bool b
  | .int n => .int n
  | .float x => .float x
  | .str text => .str text
  | .list items => .list (sort_keys_items items)
  | .dict fields => .dict (by_key (sort_keys_fields fields))

def sort_keys_items : List (JsonValue K) → List (JsonValue K)
  | [] => []
  | value :: items => sort_keys value :: sort_keys_items items

def sort_keys_fields : List (String × JsonValue K) → List (String × JsonValue K)
  | [] => []
  | (key, value) :: fields => (key, sort_keys value) :: sort_keys_fields fields

end

/-- `json.dumps(value, sort_keys=True, separators=(",", ":"))`. -/
def canonical_json (floats : JsonFloats K) (value : JsonValue K) : String :=
  String.ofList (dump floats (sort_keys value))

/-- A field of an object, none where it is missing; two values that differ in
the order of fields only are the same. -/
def canonical_field (payload : JsonObject K) (key : String) : Option (JsonValue K) :=
  (List.lookup key payload).map sort_keys

/-- Canonical texts agree on values that agree up to the order of fields. -/
theorem canonical_json_eq_iff (floats : JsonFloats K) {v w : JsonValue K} :
    canonical_json floats v = canonical_json floats w ↔ sort_keys v = sort_keys w := by
  constructor
  · intro h
    exact dump_injective floats (String.ofList_inj.mp h)
  · intro h
    rw [canonical_json, canonical_json, h]

/-- Sorting keeps the value under every key. -/
theorem lookup_by_key (key : String) (fields : List (String × JsonValue K)) :
    List.lookup key (by_key fields) = List.lookup key fields := by
  have hinsert : ∀ (field : String × JsonValue K) fields,
      List.lookup key (List.orderedInsert (fun a b => a.1 ≤ b.1) field fields)
        = List.lookup key (field :: fields) := by
    intro field fields
    induction fields with
    | nil => rfl
    | cons other fields ih =>
        rw [List.orderedInsert_cons]
        split_ifs with hle
        · rfl
        · -- the field moves behind one with a different key
          have hne : other.1 ≠ field.1 := fun heq => hle heq.ge
          rw [List.lookup_cons, ih, List.lookup_cons, List.lookup_cons, List.lookup_cons]
          by_cases hkey : key = other.1
          · subst hkey
            rw [beq_self_eq_true, beq_false_of_ne hne]
          · rw [beq_false_of_ne hkey]
  unfold by_key
  induction fields with
  | nil => rfl
  | cons field fields ih =>
      rw [List.insertionSort_cons, hinsert, List.lookup_cons, List.lookup_cons, ih]

theorem lookup_sort_keys_fields (key : String) (fields : List (String × JsonValue K)) :
    List.lookup key (sort_keys_fields fields) = (List.lookup key fields).map sort_keys := by
  induction fields with
  | nil => rfl
  | cons field fields ih =>
      obtain ⟨key', value⟩ := field
      rw [sort_keys_fields, List.lookup_cons, List.lookup_cons, ih]
      cases key == key' <;> rfl

/-- Objects with the same canonical text agree on every field. -/
theorem canonical_field_eq (floats : JsonFloats K) {p q : JsonObject K}
    (h : canonical_json floats (.dict p) = canonical_json floats (.dict q)) (key : String) :
    canonical_field p key = canonical_field q key := by
  have hsorted := (canonical_json_eq_iff floats).mp h
  rw [sort_keys, sort_keys, JsonValue.dict.injEq] at hsorted
  rw [canonical_field, canonical_field, ← lookup_sort_keys_fields, ← lookup_sort_keys_fields,
    ← lookup_by_key, hsorted, lookup_by_key]

/-! ### Sorting twice -/

/-- What is done to the values leaves the order of the keys. -/
theorem sort_keys_fields_by_key (fields : List (String × JsonValue K)) :
    sort_keys_fields (by_key fields) = by_key (sort_keys_fields fields) := by
  have hinsert : ∀ (field : String × JsonValue K) (rest : List (String × JsonValue K)),
      sort_keys_fields (List.orderedInsert (fun a b => a.1 ≤ b.1) field rest)
        = List.orderedInsert (fun a b => a.1 ≤ b.1) (field.1, sort_keys field.2)
            (sort_keys_fields rest) := by
    intro field rest
    induction rest with
    | nil => rfl
    | cons other rest ih =>
        rw [List.orderedInsert_cons]
        have hstep : List.orderedInsert (fun a b => a.1 ≤ b.1) (field.1, sort_keys field.2)
            (sort_keys_fields (other :: rest))
          = if field.1 ≤ other.1 then (field.1, sort_keys field.2)
                :: (other.1, sort_keys other.2) :: sort_keys_fields rest
            else (other.1, sort_keys other.2)
                :: List.orderedInsert (fun a b => a.1 ≤ b.1) (field.1, sort_keys field.2)
                  (sort_keys_fields rest) := List.orderedInsert_cons ..
        rw [hstep]
        split_ifs with hle
        · rfl
        · rw [sort_keys_fields, ih]
  induction fields with
  | nil => rfl
  | cons field fields ih =>
      have hcons : by_key (field :: fields)
          = List.orderedInsert (fun a b => a.1 ≤ b.1) field (by_key fields) := rfl
      rw [hcons, hinsert, ih]
      rfl

/-- Sorted fields stay as they are. -/
theorem by_key_by_key (fields : List (String × JsonValue K)) :
    by_key (by_key fields) = by_key fields := by
  have htotal : Std.Total fun a b : String × JsonValue K => a.1 ≤ b.1 :=
    ⟨fun a b => le_total a.1 b.1⟩
  have htrans : IsTrans (String × JsonValue K) fun a b => a.1 ≤ b.1 := ⟨fun _ _ _ => le_trans⟩
  have hsorted : (by_key fields).Pairwise fun a b => a.1 ≤ b.1 :=
    List.pairwise_insertionSort _ fields
  exact hsorted.insertionSort_eq

mutual

/-- Sorting twice is sorting once. -/
theorem sort_keys_sort_keys : ∀ value : JsonValue K, sort_keys (sort_keys value) = sort_keys value
  | .null => rfl
  | .bool _ => rfl
  | .int _ => rfl
  | .float _ => rfl
  | .str _ => rfl
  | .list items => by
      rw [sort_keys, sort_keys, sort_keys_items_sort_keys_items items]
  | .dict fields => by
      rw [sort_keys, sort_keys, sort_keys_fields_by_key,
        sort_keys_fields_sort_keys_fields fields, by_key_by_key]

theorem sort_keys_items_sort_keys_items :
    ∀ items : List (JsonValue K),
      sort_keys_items (sort_keys_items items) = sort_keys_items items
  | [] => rfl
  | value :: items => by
      rw [sort_keys_items, sort_keys_items, sort_keys_sort_keys value,
        sort_keys_items_sort_keys_items items]

theorem sort_keys_fields_sort_keys_fields :
    ∀ fields : List (String × JsonValue K),
      sort_keys_fields (sort_keys_fields fields) = sort_keys_fields fields
  | [] => rfl
  | (key, value) :: fields => by
      rw [sort_keys_fields, sort_keys_fields, sort_keys_sort_keys value,
        sort_keys_fields_sort_keys_fields fields]

end

end Sorted

/-- Texts of rationals: the numerator, a point and the denominator. -/
def JsonFloats.rat : JsonFloats ℚ where
  text := fun x => (toString x.num).toList ++ '.' :: (toString (x.den : ℤ)).toList
  injective := by
    intro x y h
    have hpoint : ∀ n : ℤ, ∀ c ∈ (toString n).toList, (c != '.') = true := by
      intro n c hc
      rcases int_text_chars n c hc with hdigit | rfl
      · rw [bne_iff_ne]
        rintro rfl
        exact absurd hdigit (by decide)
      · decide
    have hrest : ∀ (s : List Char), ∀ c ∈ ('.' :: s).head?, (c != '.') = false := by
      rintro s c ⟨⟩
      decide
    obtain ⟨hnum, hden⟩ := run_inj (hpoint x.num) (hpoint y.num) (hrest _) (hrest _) h
    have hden := int_text_injective (List.cons.inj hden).2
    exact Rat.ext (int_text_injective hnum) (Int.ofNat_inj.mp hden)
  number_chars := by
    intro x c hc
    rcases List.mem_append.mp hc with hnum | hrest
    · exact int_number_chars x.num c hnum
    · rcases List.mem_cons.mp hrest with rfl | hden
      · decide
      · exact int_number_chars x.den c hden
  marked := fun x => Or.inl (List.mem_append_right _ (List.mem_cons_self ..))

end ProofAlpha.Lib
