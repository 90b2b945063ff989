import BlockApp.Console.Token

/-!
# Literals

Whether a text is a literal: a number, a text, a word, or a group of literals in brackets or braces.

The tokens are read from left to right with the groups that are open, innermost first, so the reader is
a fold over the tokens. Of a value it keeps its `Kind`:

* a sign stands only before a number, and a sum only has a real number before an imaginary one;
* sets and maps can be changed, and so can groups that hold one: they are no members of a set and no
  keys of a map.
-/

namespace BlockApp.Console

namespace Literal

/-- What a value is, as far as it matters for what may stand around it. -/
inductive Kind where
  | real
  | signedReal
  | imaginary
  | fixed
  | changeable
  deriving Repr, DecidableEq

/-- What has been read of a member of a group. -/
inductive Item where
  | nothing
  | sign
  | value (kind : Kind)
  /-- A real number and a sign, after which an imaginary number must follow. -/
  | sum
  deriving Repr, DecidableEq

/-- What a group is. -/
inductive Group where
  /-- The whole text. -/
  | whole
  | brackets
  | braces
  | set
  /-- A map, at a key or at the value of one. -/
  | map (atValue : Bool)
  deriving Repr, DecidableEq

/-- A group that is not closed yet. -/
structure Open where
  group : Group
  /-- Whether a comma was read. -/
  several : Bool
  /-- Whether a member can be changed. -/
  changeable : Bool
  item : Item
  deriving Repr, DecidableEq

/-- A group of which nothing is read. -/
def Open.start (group : Group) : Open := ⟨group, false, false, .nothing⟩

/-- A group with one more value. -/
def Open.put (group : Open) (kind : Kind) : Option Open :=
  match group.item, kind with
  | .nothing, kind => some { group with item := .value kind }
  | .sign, .real => some { group with item := .value .signedReal }
  | .sign, .imaginary | .sum, .imaginary => some { group with item := .value .fixed }
  | _, _ => none

/-- A group with a sign. -/
def Open.sign (group : Open) : Option Open :=
  match group.item with
  | .nothing => some { group with item := .sign }
  | .value .real | .value .signedReal => some { group with item := .sum }
  | _ => none

/-- A group after a comma, which must follow a value. -/
def Open.comma (group : Open) : Option Open :=
  match group.item, group.group with
  | .value kind, .whole | .value kind, .brackets =>
    some ⟨group.group, true, group.changeable || kind = .changeable, .nothing⟩
  | .value kind, .braces | .value kind, .set =>
    if kind = .changeable then none else some ⟨.set, true, false, .nothing⟩
  | .value _, .map true => some ⟨.map false, true, false, .nothing⟩
  | _, _ => none

/-- A group after a colon, which must follow the key of a map. -/
def Open.colon (group : Open) : Option Open :=
  match group.item, group.group with
  | .value kind, .braces | .value kind, .map false =>
    if kind = .changeable then none else some ⟨.map true, group.several, false, .nothing⟩
  | _, _ => none

/-- The value of a group in brackets or of the whole text. One value without a comma is itself. -/
def Open.tuple (group : Open) : Option Kind :=
  match group.item, group.several with
  | .nothing, _ => some (if group.changeable then .changeable else .fixed)
  | .value kind, false => some kind
  | .value kind, true => some (if group.changeable || kind = .changeable then .changeable else .fixed)
  | _, _ => none

/-- The value of a group in braces. -/
def Open.collection (group : Open) : Option Kind :=
  match group.item, group.group with
  | .nothing, .braces | .nothing, .set | .nothing, .map false => some .changeable
  | .value kind, .braces | .value kind, .set => if kind = .changeable then none else some .changeable
  | .value _, .map true => some .changeable
  | _, _ => none

/-- The most groups inside each other. -/
def maxDepth : Nat := 200

/-- Opens a group inside others. -/
def push (group : Group) (stack : List Open) : Option (List Open) :=
  if stack.length ≤ maxDepth then some (.start group :: stack) else none

/-- Changes the innermost group. -/
def change (f : Open → Option Open) : List Open → Option (List Open)
  | group :: rest => (f group).map (· :: rest)
  | [] => none

/-- Reads one token. -/
def step (stack : List Open) : Token → Option (List Open)
  | .real => change (·.put .real) stack
  | .imaginary => change (·.put .imaginary) stack
  | .text _ | .word => change (·.put .fixed) stack
  | .emptySet => change (·.put .changeable) stack
  | .open => push .brackets stack
  | .openBrace => push .braces stack
  | .close =>
    match stack with
    | group :: rest =>
      if group.group = .brackets then group.tuple.bind fun kind => change (·.put kind) rest else none
    | [] => none
  | .closeBrace =>
    match stack with
    | group :: rest => group.collection.bind fun kind => change (·.put kind) rest
    | [] => none
  | .comma => change Open.comma stack
  | .colon => change Open.colon stack
  | .sign => change Open.sign stack
  | .lineEnd => none

/-- Texts that follow each other are one text. They must be of one kind. -/
def joinTexts : List Token → Option (List Token)
  | .text a :: .text b :: rest => if a = b then joinTexts (.text b :: rest) else none
  | token :: rest => (joinTexts rest).map (token :: ·)
  | [] => some []

/-- Tokens without the line ends inside groups, of which `depth` are open. -/
def joinLines (depth : Nat) : List Token → List Token
  | [] => []
  | token :: rest =>
    match token with
    | .open | .openBrace => token :: joinLines (depth + 1) rest
    | .close | .closeBrace => token :: joinLines (depth - 1) rest
    | .lineEnd => if depth = 0 then token :: joinLines depth rest else joinLines depth rest
    | _ => token :: joinLines depth rest

/-- Tokens without the line ends before and after them. -/
def trimLines (tokens : List Token) : List Token :=
  ((tokens.dropWhile (· = .lineEnd)).reverse.dropWhile (· = .lineEnd)).reverse

/-- The value of tokens. -/
def ofTokens? (tokens : List Token) : Option Kind := do
  match ← (← joinTexts (joinLines 0 (trimLines tokens))).foldlM step [.start .whole] with
  | [group] => if group.item = .nothing ∧ ¬ group.several then none else group.tuple
  | _ => none

end Literal

/-- Whether a text is a literal. -/
def isLiteral (text : List Char) : Bool :=
  ((Token.readAll text).bind Literal.ofTokens?).isSome

end BlockApp.Console
