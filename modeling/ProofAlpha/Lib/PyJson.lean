/-
Decoded JSON values and Python's `int(x)` and `float(x)` on them.

A decoded value is `JsonValue K`, an object its list of fields; a missing field
reads as `null`, which is what `payload.get(key)` returns for it. A JSON number
with a fraction is an exact element of `K`, so there are no NaN and no
infinities. `float(text)` is the parameter `parse_float`; `int(text)` is
`int_of_text`, and `int_of_text_toString` says that it reads back what `str`
writes of an integer.
-/
import Mathlib.Algebra.Order.Floor.Ring
import ProofAlpha.Lib.PyText

set_option autoImplicit false

namespace ProofAlpha.Lib

/-! ## Values -/

/-- A decoded JSON value. -/
inductive JsonValue (K : Type) where
  | null
  | bool (b : Bool)
  | int (n : ℤ)
  | float (x : K)
  | str (s : String)
  | list (items : List (JsonValue K))
  | dict (fields : List (String × JsonValue K))

/-- A decoded JSON object. -/
abbrev JsonObject (K : Type) := List (String × JsonValue K)

/-- `payload.get(key)`. -/
def JsonObject.get {K : Type} (payload : JsonObject K) (key : String) : JsonValue K :=
  (List.lookup key payload).getD .null

/-- `payload.get(key, default)`. -/
def JsonObject.get_or {K : Type} (payload : JsonObject K) (key : String) (default : JsonValue K) :
    JsonValue K :=
  (List.lookup key payload).getD default

/-- `payload[key] = value`: a key that is there keeps its place. -/
def JsonObject.set {K : Type} (payload : JsonObject K) (key : String) (value : JsonValue K) :
    JsonObject K :=
  if payload.any fun item => item.1 = key then
    payload.map fun item => if item.1 = key then (key, value) else item
  else payload ++ [(key, value)]

/-- A set field leaves the others. -/
theorem JsonObject.lookup_set_ne {K : Type} (payload : JsonObject K) {key other : String}
    (value : JsonValue K) (hne : other ≠ key) :
    List.lookup other (payload.set key value) = List.lookup other payload := by
  have hkey : (other == key) = false := beq_false_of_ne hne
  unfold JsonObject.set
  split_ifs with hany
  · clear hany
    induction payload with
    | nil => rfl
    | cons item payload ih =>
        rw [List.map_cons, List.lookup_cons, List.lookup_cons, ih]
        by_cases hitem : item.1 = key
        · rw [if_pos hitem, hitem, hkey]
        · rw [if_neg hitem]
  · rw [List.lookup_append, List.lookup_cons, hkey, List.lookup_nil, Option.or_none]

/-- `payload.setdefault(key, value)`. -/
def JsonObject.set_default {K : Type} (payload : JsonObject K) (key : String)
    (value : JsonValue K) : JsonObject K :=
  if payload.any fun item => item.1 = key then payload else payload ++ [(key, value)]

/-- `payload.update(updates)`. -/
def JsonObject.update {K : Type} (payload updates : JsonObject K) : JsonObject K :=
  updates.foldl (fun updated item => updated.set item.1 item.2) payload

/-- The truth value of a decoded JSON value. -/
def truthy {K : Type} [Zero K] [DecidableEq K] : JsonValue K → Bool
  | .null => false
  | .bool b => b
  | .int n => decide (n ≠ 0)
  | .float x => decide (x ≠ 0)
  | .str s => decide (s ≠ "")
  | .list items => ! items.isEmpty
  | .dict fields => ! fields.isEmpty

/-- What Python's conversions of values from and to text do beyond integers. -/
structure PyTexts (K : Type) where
  /-- `float(text)`. -/
  parse_float : String → Option K
  /-- `str(value)` of a float, a list or a dict. -/
  composite_text : JsonValue K → String

/-- `str(value)`; `composite_text` is the text of a float, a list or a dict. -/
def py_str {K : Type} (composite_text : JsonValue K → String) : JsonValue K → String
  | .null => "None"
  | .bool true => "True"
  | .bool false => "False"
  | .int n => toString n
  | .str s => s
  | value => composite_text value

/-- `str(value or default)`. -/
def text_or {K : Type} [Zero K] [DecidableEq K] (composite_text : JsonValue K → String)
    (value : JsonValue K) (default : String) : String :=
  if truthy value then py_str composite_text value else default

/-! ## Reading text as an integer -/

/-- Digits in groups separated by single underscores. -/
def grouped_digits : List Char → Bool
  | [] => false
  | [c] => c.isDigit
  | c :: '_' :: rest => c.isDigit && grouped_digits rest
  | c :: rest => c.isDigit && grouped_digits rest

/-- The number such digits write. -/
def nat_of_digits (digits : List Char) : Option ℕ :=
  if grouped_digits digits then some (Nat.ofDigitChars 10 (digits.filter (· != '_')) 0) else none

/-- `int(text)`, `none` where it raises `ValueError`. -/
def int_of_text (text : String) : Option ℤ :=
  match (pyStrip text).toList with
  | '-' :: digits => (nat_of_digits digits).map fun n : ℕ => -(n : ℤ)
  | '+' :: digits => (nat_of_digits digits).map fun n : ℕ => (n : ℤ)
  | digits => (nat_of_digits digits).map fun n : ℕ => (n : ℤ)

theorem grouped_digits_of_isDigit {digits : List Char} (hne : digits ≠ [])
    (h : ∀ c ∈ digits, c.isDigit = true) : grouped_digits digits = true := by
  induction digits with
  | nil => exact absurd rfl hne
  | cons c rest ih =>
      have hc : c.isDigit = true := h c (List.mem_cons_self ..)
      have hrest : ∀ d ∈ rest, d.isDigit = true := fun d hd => h d (List.mem_cons_of_mem c hd)
      cases rest with
      | nil => exact hc
      | cons d rest =>
          have hd : d ≠ '_' := by
            rintro rfl
            exact absurd (hrest '_' (List.mem_cons_self ..)) (by decide)
          rw [grouped_digits.eq_4 _ _ (by simp) (by rintro r ⟨rfl, -⟩; exact hd rfl), hc,
            ih (List.cons_ne_nil d rest) hrest]
          rfl

theorem nat_of_digits_toDigits (n : ℕ) : nat_of_digits (Nat.toDigits 10 n) = some n := by
  have hdigits : ∀ c ∈ Nat.toDigits 10 n, c.isDigit = true := fun c hc =>
    Nat.isDigit_of_mem_toDigits (by decide) (by decide) hc
  have hfilter : (Nat.toDigits 10 n).filter (· != '_') = Nat.toDigits 10 n := by
    rw [List.filter_eq_self]
    intro c hc
    have hne : c ≠ '_' := by
      rintro rfl
      exact Nat.underscore_not_in_toDigits hc
    exact bne_iff_ne.mpr hne
  rw [nat_of_digits, if_pos (grouped_digits_of_isDigit Nat.toDigits_ne_nil hdigits), hfilter,
    Nat.ofDigitChars_ten_toDigits]

/-- Stripping leaves text without white space as it is. -/
theorem pyStrip_eq_self {text : String} (h : ∀ c ∈ text.toList, c.isWhitespace = false) :
    pyStrip text = text := by
  have hdrop : ∀ cs : List Char, (∀ c ∈ cs, c.isWhitespace = false) →
      cs.dropWhile Char.isWhitespace = cs := by
    intro cs hcs
    cases cs with
    | nil => rfl
    | cons c cs =>
        have hc : ¬ c.isWhitespace = true := Bool.eq_false_iff.mp (hcs c (List.mem_cons_self ..))
        rw [List.dropWhile_cons, if_neg hc]
  rw [pyStrip, hdrop _ h, hdrop _ (fun c hc => h c (List.mem_reverse.mp hc)), List.reverse_reverse,
    String.ofList_toList]

theorem isWhitespace_of_isDigit {c : Char} (h : c.isDigit = true) : c.isWhitespace = false := by
  rw [Char.isDigit, Bool.and_eq_true, decide_eq_true_eq, decide_eq_true_eq] at h
  have hlow : 48 ≤ c.val.toNat := UInt32.le_iff_toNat_le.mp h.1
  have hne : ∀ d : Char, d.val.toNat < 48 → c ≠ d := by
    rintro d hd rfl
    omega
  rw [Char.isWhitespace]
  simp only [Bool.or_eq_false_iff, decide_eq_false_iff_not]
  exact ⟨⟨⟨hne _ (by decide), hne _ (by decide)⟩, hne _ (by decide)⟩, hne _ (by decide)⟩

/-- `int(str(n))` is `n`. -/
theorem int_of_text_toString (n : ℤ) : int_of_text (toString n) = some n := by
  have hdigits : ∀ (k : ℕ) (c : Char), c ∈ Nat.toDigits 10 k → c.isDigit = true :=
    fun k c hc => Nat.isDigit_of_mem_toDigits (by decide) (by decide) hc
  cases n with
  | ofNat k =>
      have hlist : (toString (Int.ofNat k)).toList = Nat.toDigits 10 k := Nat.toList_repr
      have hstrip : pyStrip (toString (Int.ofNat k)) = toString (Int.ofNat k) :=
        pyStrip_eq_self fun c hc => isWhitespace_of_isDigit (hdigits k c (hlist ▸ hc))
      rw [int_of_text, hstrip, hlist]
      split
      · next heq =>
          exact absurd (hdigits k '-' (heq ▸ List.mem_cons_self ..)) (by decide)
      · next heq =>
          exact absurd (hdigits k '+' (heq ▸ List.mem_cons_self ..)) (by decide)
      · rw [nat_of_digits_toDigits]
        rfl
  | negSucc k =>
      have hlist : (toString (Int.negSucc k)).toList = '-' :: Nat.toDigits 10 (k + 1) := by
        change ("-" ++ Nat.repr (k + 1)).toList = _
        rw [String.toList_append, Nat.toList_repr]
        rfl
      have hstrip : pyStrip (toString (Int.negSucc k)) = toString (Int.negSucc k) := by
        refine pyStrip_eq_self fun c hc => ?_
        rw [hlist] at hc
        rcases List.mem_cons.mp hc with rfl | hc
        · decide
        · exact isWhitespace_of_isDigit (hdigits (k + 1) c hc)
      rw [int_of_text, hstrip, hlist]
      change (nat_of_digits (Nat.toDigits 10 (k + 1))).map _ = _
      rw [nat_of_digits_toDigits]
      rfl

/-! ## `_int_or_none` and `_float_or_none` -/

section Conversions

variable {K : Type} [Field K] [LinearOrder K] [FloorRing K]

/-- `int(x)` of a float: the part before the point. -/
def truncate (x : K) : ℤ := if 0 ≤ x then ⌊x⌋ else ⌈x⌉

/-- `_int_or_none`. -/
def int_or_none : JsonValue K → Option ℤ
  | .bool b => some b.toNat
  | .int n => some n
  | .float x => some (truncate x)
  | .str s => int_of_text s
  | _ => none

omit [LinearOrder K] [FloorRing K] in
/-- `_float_or_none`. -/
def float_or_none (parse_float : String → Option K) : JsonValue K → Option K
  | .bool b => some (b.toNat : K)
  | .int n => some (n : K)
  | .float x => some x
  | .str s => parse_float s
  | _ => none

omit [FloorRing K] in
/-- `float(payload.get(key, default) or default)`; an error names the key whose value `float`
does not take. -/
def float_or (parse_float : String → Option K) (payload : JsonObject K) (key : String)
    (default : K) : Except String K :=
  let value := payload.get_or key (.float default)
  if truthy value then
    match float_or_none parse_float value with
    | some x => .ok x
    | none => .error key
  else .ok default

end Conversions

/-! ## Equality -/

section Equality

variable {K : Type} [Field K] [DecidableEq K]

/-- The number that a value is compared as. -/
def number_value : JsonValue K → Option K
  | .bool b => some (b.toNat : K)
  | .int n => some (n : K)
  | .float x => some x
  | _ => none

mutual

/-- `==` on decoded values: numbers by value, objects without regard to order. -/
def py_eq : JsonValue K → JsonValue K → Bool
  | .null, other => match other with
    | .null => true
    | _ => false
  | .bool b, other => decide (number_value other = some (b.toNat : K))
  | .int n, other => decide (number_value other = some (n : K))
  | .float x, other => decide (number_value other = some x)
  | .str text, other => match other with
    | .str text' => text == text'
    | _ => false
  | .list items, other => match other with
    | .list items' => items_eq items items'
    | _ => false
  | .dict fields, other => match other with
    | .dict fields' => fields.length == fields'.length && fields_in fields fields'
    | _ => false

/-- Two lists with equal items. -/
def items_eq : List (JsonValue K) → List (JsonValue K) → Bool
  | [], items' => items'.isEmpty
  | value :: items, items' => match items' with
    | value' :: items' => py_eq value value' && items_eq items items'
    | [] => false

/-- Every field has an equal one among the others. -/
def fields_in : List (String × JsonValue K) → List (String × JsonValue K) → Bool
  | [], _ => true
  | (key, value) :: fields, others =>
      (match List.lookup key others with
        | some value' => py_eq value value'
        | none => false) && fields_in fields others

end

theorem py_eq_dict (fields fields' : JsonObject K) :
    py_eq (.dict fields) (.dict fields')
      = (fields.length == fields'.length && fields_in fields fields') := rfl

theorem fields_in_nil (others : JsonObject K) : fields_in [] others = true := rfl

theorem fields_in_cons (key : String) (value : JsonValue K) (fields others : JsonObject K) :
    fields_in ((key, value) :: fields) others
      = ((match List.lookup key others with
        | some value' => py_eq value value'
        | none => false) && fields_in fields others) := rfl

end Equality

/-! ## Tests on decoded values -/

section Tests

variable {K : Type}

/-- `value is True`. -/
def is_true : JsonValue K → Bool
  | .bool b => b
  | _ => false

/-- `value == text`. -/
def is_text (value : JsonValue K) (text : String) : Bool :=
  match value with
  | .str text' => text' == text
  | _ => false

theorem is_text_iff {value : JsonValue K} {text : String} :
    is_text value text = true ↔ value = .str text := by
  cases value with
  | str text' => simp [is_text]
  | _ => simp [is_text]

end Tests

/-- Conversions over the rationals that read whole numbers only. -/
def plain_texts : PyTexts ℚ where
  parse_float := fun text => (int_of_text text).map fun n => (n : ℚ)
  composite_text := fun _ => "[]"

end ProofAlpha.Lib
