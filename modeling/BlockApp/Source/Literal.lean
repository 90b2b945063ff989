import BlockApp.Text.Hex

/-!
# String literals

A text as a string literal of a Java class: between double quotes, with quotes, backslashes and control
characters escaped, so that the literal ends where the text does and stays on its line.
-/

namespace BlockApp.Source

/-- A control character without an escape of its own, by its code. -/
def codeUnitEscape (c : Char) : List Char := ['\\', 'u'] ++ Text.fixedHex Text.hexLower 4 c.toNat

/-- A character of a literal. -/
def literalChar (c : Char) : List Char :=
  if c = '\\' then ['\\', '\\']
  else if c = '"' then ['\\', '"']
  else if c = '\n' then ['\\', 'n']
  else if c = '\t' then ['\\', 't']
  else if c = '\r' then ['\\', 'r']
  else if c = '\x08' then ['\\', 'b']
  else if c = '\x0c' then ['\\', 'f']
  else if c.toNat < 0x20 ∨ c.toNat = 0x7F then codeUnitEscape c
  else [c]

/-- The characters of a literal. -/
def literalChars (s : List Char) : List Char := ['"'] ++ s.flatMap literalChar ++ ['"']

/-- The literal of a text. -/
def literal (s : String) : String := String.ofList (literalChars s.toList)

example : literal "say \"hi\"\n" = "\"say \\\"hi\\\"\\n\"" := by decide +kernel
example : literal "\x00" = "\"\\u0000\"" := by decide +kernel

end BlockApp.Source
