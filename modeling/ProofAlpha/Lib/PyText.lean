/-
Python string methods on ASCII text: `str.strip`, `str.lower` and `str.upper`,
defined on character lists so that they evaluate.
-/
import Mathlib.Data.List.Basic

set_option autoImplicit false

namespace ProofAlpha.Lib

/-- `s.strip()`: drops the white space at both ends. -/
def pyStrip (s : String) : String :=
  String.ofList ((s.toList.dropWhile Char.isWhitespace).reverse.dropWhile Char.isWhitespace).reverse

/-- `s.lower()`. -/
def pyLower (s : String) : String := String.ofList (s.toList.map Char.toLower)

/-- `s.upper()`. -/
def pyUpper (s : String) : String := String.ofList (s.toList.map Char.toUpper)

/-- A small letter is moved by 32 places. -/
theorem toUpper_val_toNat {c : Char} (hlower : 'a'.val ≤ c.val ∧ c.val ≤ 'z'.val) :
    c.toUpper.val.toNat + 32 = c.val.toNat := by
  have hfirst : 97 ≤ c.val.toNat := UInt32.le_iff_toNat_le.mp hlower.1
  have hlast : c.val.toNat ≤ 122 := UInt32.le_iff_toNat_le.mp hlower.2
  have hmove : ('A'.val - 'a'.val).toNat = 2 ^ 32 - 32 := by decide
  obtain ⟨_, hupper⟩ : ∃ hvalid, c.toUpper = ⟨c.val + ('A'.val - 'a'.val), hvalid⟩ :=
    ⟨_, dif_pos hlower⟩
  rw [hupper, UInt32.toNat_add, hmove]
  omega

/-- What is no small letter stays. -/
theorem toUpper_eq_self {c : Char} (hother : ¬('a'.val ≤ c.val ∧ c.val ≤ 'z'.val)) :
    c.toUpper = c := dif_neg hother

theorem toUpper_toUpper (c : Char) : c.toUpper.toUpper = c.toUpper := by
  by_cases hlower : 'a'.val ≤ c.val ∧ c.val ≤ 'z'.val
  · apply toUpper_eq_self
    rintro ⟨hfirst, -⟩
    have hge : 97 ≤ c.toUpper.val.toNat := UInt32.le_iff_toNat_le.mp hfirst
    have hle : c.val.toNat ≤ 122 := UInt32.le_iff_toNat_le.mp hlower.2
    have hmove := toUpper_val_toNat hlower
    omega
  · rw [toUpper_eq_self hlower, toUpper_eq_self hlower]

/-- Capitals stay as they are. -/
theorem pyUpper_pyUpper (s : String) : pyUpper (pyUpper s) = pyUpper s := by
  have hchars : Char.toUpper ∘ Char.toUpper = Char.toUpper := funext toUpper_toUpper
  rw [pyUpper, pyUpper, String.toList_ofList, List.map_map, hchars]

end ProofAlpha.Lib
