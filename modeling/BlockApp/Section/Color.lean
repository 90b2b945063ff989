import BlockApp.Text.Hex
import BlockApp.Text.Numeral

/-!
# Colours

A colour is written as six or eight hexadecimal digits after `#`, or as a signed 32-bit number. Either
way it is kept as the digits of alpha, red, green and blue in upper case; six digits are opaque.
-/

namespace BlockApp.Color

/-- The hexadecimal digits of a colour written with `#`. A line feed at the end stays with them. -/
def hexDigits? (s : List Char) : Option (List Char) :=
  match s with
  | '#' :: digits =>
    let count := (Text.withoutFinalNewline digits).length
    if (count = 6 ∨ count = 8) ∧ (Text.withoutFinalNewline digits).all Text.isHexDigit then
      some (digits.map Char.toUpper)
    else none
  | _ => none

/-- Whether a number is a packed colour. -/
def isPacked (value : Int) : Bool := -2147483648 ≤ value && value < 2147483648

/-- The digits of a packed colour. -/
def packedDigits (value : Int) : List Char :=
  Text.fixedHex Text.hexUpper 8 (value % 4294967296).toNat

/-- The digits of a colour, `none` if the text is no colour. -/
def normalize (s : List Char) : Except Text.TooManyDigits (Option (List Char)) :=
  match hexDigits? s with
  | some digits => .ok (some (if digits.length = 8 then digits else 'F' :: 'F' :: digits))
  | none =>
    match Text.Numeral.read? s with
    | none => .ok none
    | some numeral => do
      let value ← numeral.value
      return if isPacked value then some (packedDigits value) else none

example : normalize "#ff0000".toList = .ok (some "FFFF0000".toList) := by rfl
example : normalize "-16777216".toList = .ok (some "FF000000".toList) := by rfl

end BlockApp.Color
