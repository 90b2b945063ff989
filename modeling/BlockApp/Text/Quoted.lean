import BlockApp.Text.Hex
import BlockApp.Text.Printable

/-!
# Quoted text

How messages show a text or a byte string: between quotes, with what cannot be seen written as an
escape. The quote is `'`, or `"` for a text that holds `'` and no `"`, so most texts need no escaped
quote.
-/

namespace BlockApp.Text

/-- The quote put around a text. -/
def quoteMark (s : List Char) : Char :=
  if '\'' ∈ s ∧ '"' ∉ s then '"' else '\''

/-- An unprintable character by its code, in the shortest of three widths. -/
def codeEscape (c : Char) : List Char :=
  if c.toNat < 0x100 then ['\\', 'x'] ++ fixedHex hexLower 2 c.toNat
  else if c.toNat < 0x10000 then ['\\', 'u'] ++ fixedHex hexLower 4 c.toNat
  else ['\\', 'U'] ++ fixedHex hexLower 8 c.toNat

/-- One character between quotes `mark`. `shown` tells which characters stand for themselves. -/
def quotedChar (shown : Char → Bool) (mark c : Char) : List Char :=
  if c = mark ∨ c = '\\' then ['\\', c]
  else if c = '\n' then ['\\', 'n']
  else if c = '\r' then ['\\', 'r']
  else if c = '\t' then ['\\', 't']
  else if shown c then [c]
  else codeEscape c

/-- A text between quotes: printable characters stand for themselves. -/
def quotedChars (s : List Char) : List Char :=
  let mark := quoteMark s
  [mark] ++ s.flatMap (quotedChar isPrintable mark) ++ [mark]

/-- A string between quotes. -/
def quoted (s : String) : String := String.ofList (quotedChars s.toList)

/-- A byte string between quotes, marked with a `b`. Only visible ASCII stands for itself. -/
def quotedBytes (bytes : List UInt8) : String :=
  let s := bytes.map fun b => Char.ofNat b.toNat
  let mark := quoteMark s
  let shown c := 0x20 ≤ c.toNat && c.toNat ≤ 0x7E
  String.ofList (['b', mark] ++ s.flatMap (quotedChar shown mark) ++ [mark])

example : quoted "it's" = "\"it's\"" := by decide +kernel
example : quoted "a\n" = "'a\\n'" := by decide +kernel
example : quotedBytes [0xFF, 0x61] = "b'\\xffa'" := by decide +kernel

end BlockApp.Text
