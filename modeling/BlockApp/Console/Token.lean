import BlockApp.Text.Hex

/-!
# Tokens of literals

The arguments that a marked text gives to an action are a literal: numbers, texts, a few words, and
groups of them. This module takes a literal apart.

* A number may have single underscores between its digits; only zero starts with a zero.
* A text stands in one pair of marks or in three, after letters that say how to read it. `afterText?`
  recurses on what is left of it.
* `Token.readAll` recurses on a text that gets shorter with every token, which it looks at each time.
-/

namespace BlockApp.Console

/-- A token of a literal. -/
inductive Token where
  | real
  | imaginary
  | text (ofBytes : Bool)
  /-- A word that stands for a value. -/
  | word
  | emptySet
  | open
  | close
  | openBrace
  | closeBrace
  | comma
  | colon
  | sign
  | lineEnd
  deriving Repr, DecidableEq

namespace Token

/-- Blanks inside a line. -/
def isSpace (c : Char) : Bool := c == ' ' || c == '\t' || c == '\x0c'

/-- The characters that end a line. -/
def isLineEnd (c : Char) : Bool := c == '\n' || c == '\r'

/-! ## Numbers -/

/-- What follows digits, between which single underscores may stand. -/
def afterDigits (isDigit : Char → Bool) : List Char → List Char
  | '_' :: c :: rest => if isDigit c then afterDigits isDigit rest else '_' :: c :: rest
  | c :: rest => if isDigit c then afterDigits isDigit rest else c :: rest
  | [] => []

/-- What follows digits, of which there must be one. -/
def afterSomeDigits? (isDigit : Char → Bool) : List Char → Option (List Char)
  | c :: rest => if isDigit c then some (afterDigits isDigit rest) else none
  | [] => none

/-- What follows an exponent, which may be missing. -/
def afterExponent (s : List Char) : List Char :=
  match s with
  | 'e' :: rest | 'E' :: rest =>
    let digits := match rest with
      | '+' :: rest | '-' :: rest => rest
      | rest => rest
    (afterSomeDigits? Char.isDigit digits).getD s
  | _ => s

/-- The digits of another base than ten, by the letter that stands for the base. -/
def baseDigits? : Char → Option (Char → Bool)
  | 'x' | 'X' => some Text.isHexDigit
  | 'o' | 'O' => some fun c => '0' ≤ c && c ≤ '7'
  | 'b' | 'B' => some fun c => c == '0' || c == '1'
  | _ => none

/-- Reads a number of another base than ten, after its zero. -/
def readBased? : List Char → Option (List Char)
  | letter :: rest => do
    let isDigit ← baseDigits? letter
    afterSomeDigits? isDigit (match rest with | '_' :: rest => rest | rest => rest)
  | [] => none

/-- Reads a number to base ten. A whole number other than zero does not start with a zero. -/
def readDecimal? (s : List Char) : Option (Token × List Char) :=
  let whole := afterDigits Char.isDigit s
  let fraction := match whole with
    | '.' :: rest => (afterSomeDigits? Char.isDigit rest).getD rest
    | rest => rest
  let rest := afterExponent fraction
  let written := s.take (s.length - rest.length)
  match rest with
  | 'j' :: rest | 'J' :: rest => some (.imaginary, rest)
  | _ =>
    if rest = whole ∧ written.head? = some '0' ∧ written.any (fun c => c ≠ '0' ∧ c ≠ '_') then none
    else some (.real, rest)

/-- Reads a number. -/
def readNumber? (s : List Char) : Option (Token × List Char) :=
  match s with
  | '0' :: rest =>
    match readBased? rest with
    | some rest => some (.real, rest)
    | none => readDecimal? s
  | _ => readDecimal? s

/-! ## Texts -/

/-- How a text is written. -/
structure Quoting where
  mark : Char
  /-- There are three marks on either side, and the text may have several lines. -/
  long : Bool
  /-- A backslash stands for itself. -/
  raw : Bool
  ofBytes : Bool
  deriving Repr, DecidableEq

/-- Reads the letters before a text. -/
def quotingOf? (letters : List Char) (mark : Char) (long : Bool) : Option Quoting :=
  match letters.map Char.toLower with
  | [] | ['u'] => some ⟨mark, long, false, false⟩
  | ['r'] => some ⟨mark, long, true, false⟩
  | ['b'] => some ⟨mark, long, false, true⟩
  | ['b', 'r'] | ['r', 'b'] => some ⟨mark, long, true, true⟩
  | _ => none

/-- The number of hexadecimal digits after the letter of an escape. -/
def escapeDigits (quoting : Quoting) (letter : Char) : Nat :=
  match letter, quoting.ofBytes with
  | 'x', _ => 2
  | 'u', false => 4
  | 'U', false => 8
  | _, _ => 0

/-- Whether digits stand for a character: eight of them may not go beyond the last one. -/
def isCode (digits : List Char) : Bool :=
  digits.all Text.isHexDigit && (digits.length < 8 || "000".toList.isPrefixOf digits ||
    "0010".toList.isPrefixOf digits)

/-- Whether what follows a backslash may do so: the digits of a character must all be there, and its
name must stand in braces. -/
def isEscape (quoting : Quoting) : List Char → Bool
  | letter :: rest =>
    if quoting.raw then true
    else if letter = 'N' ∧ ¬ quoting.ofBytes then
      rest.head? = some '\x7b' ∧ rest.contains '\x7d' ∧ rest.tail.head? ≠ some '\x7d'
    else
      let count := escapeDigits quoting letter
      rest.length ≥ count && isCode (rest.take count)
  | [] => false

/-- What follows a text, after its first mark or marks. -/
def afterText? (quoting : Quoting) : List Char → Option (List Char)
  | '\\' :: c :: rest =>
    if isEscape quoting (c :: rest) ∧ (¬ quoting.ofBytes ∨ c.toNat < 128) then
      afterText? quoting rest
    else none
  | c :: rest =>
    if c = quoting.mark ∧ ¬ quoting.long then some rest
    else if c = quoting.mark ∧ rest.take 2 = [c, c] then some (rest.drop 2)
    else if isLineEnd c ∧ ¬ quoting.long ∨ quoting.ofBytes ∧ 128 ≤ c.toNat then none
    else afterText? quoting rest
  | [] => none

/-- Reads a text after its letters. -/
def readText? (letters : List Char) (mark : Char) (rest : List Char) : Option (Token × List Char) := do
  let long := rest.take 2 == [mark, mark]
  let quoting ← quotingOf? letters mark long
  return (.text quoting.ofBytes, ← afterText? quoting (if long then rest.drop 2 else rest))

/-! ## Words -/

/-- A text without the blanks at its start. -/
def dropSpace (s : List Char) : List Char := s.dropWhile fun c => isSpace c || isLineEnd c

/-- Reads a word. The word for a set must be followed by an empty pair of brackets. -/
def readWord? (word rest : List Char) : Option (Token × List Char) :=
  if ["True", "False", "None"].contains (String.ofList word) then some (.word, rest)
  else if word = "set".toList then
    match dropSpace rest with
    | '(' :: rest =>
      match dropSpace rest with
      | ')' :: rest => some (.emptySet, rest)
      | _ => none
    | _ => none
  else none

/-! ## Tokens -/

/-- A character of a word. -/
def isWordPart (c : Char) : Bool := c.isAlphanum || c == '_'

/-- The tokens of one character. -/
def ofChar? : Char → Option Token
  | '(' => some .open
  | ')' => some .close
  | '\x7b' => some .openBrace
  | '\x7d' => some .closeBrace
  | ',' => some .comma
  | ':' => some .colon
  | '+' | '-' => some .sign
  | '\n' | '\r' => some .lineEnd
  | _ => none

/-- Reads one token, which starts with the first character. -/
def read? (c : Char) (rest : List Char) : Option (Token × List Char) :=
  match ofChar? c, rest with
  | some token, rest => some (token, rest)
  | none, rest =>
    if c = '.' ∧ rest.take 2 = ['.', '.'] then some (.word, rest.drop 2)
    else if c.isDigit ∨ c = '.' ∧ rest.head?.any Char.isDigit then readNumber? (c :: rest)
    else
      let word := (c :: rest).takeWhile isWordPart
      match (c :: rest).dropWhile isWordPart with
      | '"' :: rest => readText? word '"' rest
      | '\'' :: rest => readText? word '\'' rest
      | rest => readWord? word rest

/-- Reads the tokens of a text. A note lasts to the end of its line, and a backslash at the end of a
line joins it to the next. -/
def readAll : List Char → Option (List Token)
  | [] => some []
  | '\\' :: '\n' :: c :: rest => readAll (c :: rest)
  | c :: rest =>
    if isSpace c then readAll rest
    else if c = '#' then
      have := (List.dropWhile_suffix (!isLineEnd ·) (l := rest)).length_le
      readAll (rest.dropWhile (!isLineEnd ·))
    else
      match read? c rest with
      | none => none
      | some (token, left) =>
        if left.length ≤ rest.length then (readAll left).map (token :: ·) else none
  termination_by s => s.length
  decreasing_by all_goals simp only [List.length_cons] at *; omega

end Token

end BlockApp.Console
