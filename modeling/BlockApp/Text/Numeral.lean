import BlockApp.Text.Ranges

/-!
# Numerals

Decimal numbers as the section format writes them: an optional minus sign and digits of any script.
Like every token of the format, a numeral may be followed by one line feed, which an escaped field can
carry; it does not belong to the number.

The value of a numeral is computed only up to `maxDigits` digits, leading zeros included.

The decimal digits of all scripts (general category Nd) come in runs of ten, zero first, so a digit's value
is its distance from the zero of its run.
-/

namespace BlockApp.Text

/-! ## Digits -/

/-- The zeros of the 66 runs of decimal digits. -/
def digitZeros : List Nat :=
  [0x30, 0x660, 0x6F0, 0x7C0, 0x966, 0x9E6, 0xA66, 0xAE6, 0xB66, 0xBE6,
   0xC66, 0xCE6, 0xD66, 0xDE6, 0xE50, 0xED0, 0xF20, 0x1040, 0x1090, 0x17E0,
   0x1810, 0x1946, 0x19D0, 0x1A80, 0x1A90, 0x1B50, 0x1BB0, 0x1C40, 0x1C50, 0xA620,
   0xA8D0, 0xA900, 0xA9D0, 0xA9F0, 0xAA50, 0xABF0, 0xFF10, 0x104A0, 0x10D30, 0x11066,
   0x110F0, 0x11136, 0x111D0, 0x112F0, 0x11450, 0x114D0, 0x11650, 0x116C0, 0x11730, 0x118E0,
   0x11950, 0x11C50, 0x11D50, 0x11DA0, 0x16A60, 0x16AC0, 0x16B50, 0x1D7CE, 0x1D7D8, 0x1D7E2,
   0x1D7EC, 0x1D7F6, 0x1E140, 0x1E2F0, 0x1E950, 0x1FBF0]

/-- The value of a decimal digit, `none` for any other character. -/
def digitValue? (c : Char) : Option Nat :=
  (digitZeros.find? fun z => z ≤ c.toNat && c.toNat < z + 10).map (c.toNat - ·)

/-- Whether a character is a decimal digit. -/
def isDigit (c : Char) : Bool := (digitValue? c).isSome

/-- A digit stands for a number below ten. -/
theorem digitValue?_lt {c : Char} {d : Nat} (h : digitValue? c = some d) : d < 10 := by
  simp only [digitValue?, Option.map_eq_some_iff] at h
  obtain ⟨z, hz, rfl⟩ := h
  have := List.find?_some hz
  simp only [Bool.and_eq_true, decide_eq_true_eq] at this
  omega

/-- The ASCII digits have their usual values. -/
theorem digitValue?_of_isDigit {c : Char} (h : c.isDigit = true) :
    digitValue? c = some (c.toNat - 48) := by
  simp only [Char.isDigit, Bool.and_eq_true, decide_eq_true_eq, UInt32.le_iff_toNat_le] at h
  have h₁ : (48 : Nat) ≤ c.toNat := h.1
  have h₂ : c.toNat ≤ 57 := h.2
  have h₃ : c.toNat < 58 := by omega
  simp [digitValue?, digitZeros, h₁, h₃]

/-! ## Numbers -/

/-- The text without one line feed at its end. -/
def withoutFinalNewline (s : List Char) : List Char :=
  if s.getLast? = some '\n' then s.dropLast else s

/-- The digits of a text that holds nothing but digits, and at least one. -/
def digits? (s : List Char) : Option (List Nat) :=
  if s = [] then none else s.mapM digitValue?

/-- A whole number as it is written. -/
structure Numeral where
  negative : Bool
  digits : List Nat
  deriving Repr, DecidableEq

/-- The longest numeral whose value is computed. -/
def maxDigits : Nat := 4300

/-- A numeral with more than `maxDigits` digits. -/
structure TooManyDigits where
  count : Nat
  deriving Repr, DecidableEq

/-- What is reported of a numeral that is too long. -/
def TooManyDigits.message (e : TooManyDigits) : String :=
  s!"Exceeds the limit ({maxDigits} digits) for integer string conversion: value has " ++
  s!"{e.count} digits; use sys.set_int_max_str_digits() to increase the limit"

namespace Numeral

/-- The number written by digits, most significant first. -/
def magnitude (digits : List Nat) : Nat := digits.foldl (fun n d => 10 * n + d) 0

/-- The number a numeral stands for. -/
def value (n : Numeral) : Except TooManyDigits Int :=
  if n.digits.length > maxDigits then .error ⟨n.digits.length⟩
  else .ok (if n.negative then - (magnitude n.digits : Int) else magnitude n.digits)

/-- Reads a whole number. -/
def read? (s : List Char) : Option Numeral :=
  match withoutFinalNewline s with
  | '-' :: rest => (digits? rest).map (⟨true, ·⟩)
  | s => (digits? s).map (⟨false, ·⟩)

/-- Reads a whole number without a sign. -/
def readUnsigned? (s : List Char) : Option Numeral :=
  (digits? (withoutFinalNewline s)).map (⟨false, ·⟩)

end Numeral

/-- Whether a text is a number: a sign or none, digits, and a point with digits or none. -/
def isNumber (s : List Char) : Bool :=
  let s := withoutFinalNewline s
  let s := if s.head? = some '-' then s.tail else s
  let whole := s.takeWhile isDigit
  !whole.isEmpty &&
    match s.dropWhile isDigit with
    | [] => true
    | '.' :: fraction => !fraction.isEmpty && fraction.all isDigit
    | _ => false

end BlockApp.Text
