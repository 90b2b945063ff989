import BlockApp.Console.Color
import BlockApp.Text.Blank

/-!
# Styles of a terminal

A style is written as words: effects, `not` before an effect, a colour, `on` before the colour of
the background, and `link` before an address.

* `Style.written` writes a style in one fixed order, so two ways to write a style can be compared.
* `Style.canonical` is that form for a text that is a style, and the text in lower case for one that is
  not: any name can be given to a tag.
-/

namespace BlockApp.Console

/-- What a style can switch on or off. -/
inductive Effect where
  | bold
  | dim
  | italic
  | underline
  | blink
  | blink2
  | reverse
  | conceal
  | strike
  | underline2
  | frame
  | encircle
  | overline
  deriving Repr, DecidableEq

namespace Effect

/-- The effects with their names, in the order in which they are written. -/
def named : List (Effect × String) :=
  [(bold, "bold"), (dim, "dim"), (italic, "italic"), (underline, "underline"), (blink, "blink"),
   (blink2, "blink2"), (reverse, "reverse"), (conceal, "conceal"), (strike, "strike"),
   (underline2, "underline2"), (frame, "frame"), (encircle, "encircle"), (overline, "overline")]

/-- The short names of effects. -/
def shortNames : List (String × Effect) :=
  [("d", dim), ("b", bold), ("i", italic), ("u", underline), ("r", reverse), ("c", conceal),
   ("s", strike), ("uu", underline2), ("o", overline)]

/-- The effect of a word. -/
def ofWord? (word : List Char) : Option Effect :=
  (shortNames ++ named.map Prod.swap).lookup (String.ofList word)

end Effect

/-- How a text is shown. The effect that was set last comes first. -/
structure Style where
  effects : List (Effect × Bool)
  color : Option (List Char)
  background : Option (List Char)
  link : Option (List Char)
  deriving Repr, DecidableEq

namespace Style

/-- The style that changes nothing. -/
def plain : Style := ⟨[], none, none, none⟩

/-- Adds the words of a style. -/
def readWords (style : Style) : List (List Char) → Except ColorFault Style
  | [] => .ok style
  | word :: rest =>
    match String.ofList (Text.lower word), rest with
    | "on", color :: rest => do
      let color ← Color.read color
      readWords { style with background := some color } rest
    | "not", word :: rest =>
      match Effect.ofWord? word with
      | some effect =>
        readWords { style with effects := (effect, false) :: style.effects } rest
      | none => .error .unknown
    | "link", address :: rest => readWords { style with link := some address } rest
    | "on", [] | "not", [] | "link", [] => .error .unknown
    | _, rest =>
      match Effect.ofWord? (Text.lower word) with
      | some effect =>
        readWords { style with effects := (effect, true) :: style.effects } rest
      | none => do
        let color ← Color.read word
        readWords { style with color := some color } rest

/-- Reads a style. -/
def read (text : List Char) : Except ColorFault Style := readWords plain (Text.words text)

/-- The words of a style in a fixed order. -/
def writtenWords (style : Style) : List (List Char) :=
  let effects := Effect.named.flatMap fun (effect, name) =>
    match style.effects.lookup effect with
    | some true => [name.toList]
    | some false => ["not".toList, name.toList]
    | none => []
  let after (word : String) (value : Option (List Char)) : List (List Char) :=
    match value with
    | some value => [word.toList, value]
    | none => []
  effects ++ style.color.toList ++ after "on" style.background ++ after "link" style.link

/-- A style as it is written. -/
def written (style : Style) : List Char :=
  match style.writtenWords with
  | [] => "none".toList
  | words => Text.joinWith ' ' words

/-- The one form of a style or of any other name. -/
def canonical (text : List Char) : Except ColorFault (List Char) :=
  match read text with
  | .ok style => .ok style.written
  | .error .unknown => .ok (Text.lower (Text.trim text))
  | .error .emptyComponent => .error .emptyComponent

/-- Whether text can be shown in a style, which one with an unknown name leaves as it is. -/
def isShown (text : List Char) : Bool :=
  match read text with
  | .ok _ | .error .unknown => true
  | .error .emptyComponent => false

end Style

example :
    (Style.plain.readWords ["Red".toList, "b".toList]).toOption.map Style.written =
      some "bold red".toList := by
  decide +kernel

example : (Style.plain.readWords ["not".toList, "B".toList]).toOption = none := by decide +kernel

end BlockApp.Console
