/-!
# Lines of code

A class is a list of lines, each with its depth and the imports that it needs. The indentation is put
in when the lines are written.
-/

namespace BlockApp.Source

/-- A line of code. -/
structure Line where
  level : Nat
  text : String
  imports : List String
  deriving Repr, DecidableEq

namespace Line

/-- A line that needs no import. -/
def plain (level : Nat) (text : String) : Line := ⟨level, text, []⟩

/-- An empty line. -/
def blank : Line := ⟨0, "", []⟩

/-- A line whose text may start with TABs: each of them is one level more. -/
def ofTabbed (level : Nat) (text : String) (imports : List String) : Line :=
  let s := text.toList
  ⟨level + (s.takeWhile (· == '\t')).length, String.ofList (s.dropWhile (· == '\t')), imports⟩

/-- The line between braces that closes the block around it. -/
def closing (level : Nat) : Line := plain level "\x7d"

/-- A line as it is written. An empty line is not indented. -/
def shown (indent : String) (line : Line) : String :=
  if line.text = "" then "" else String.join (List.replicate line.level indent) ++ line.text

end Line

/-- Lines between a line that opens a block and the one that closes it. -/
def bracedBy (opening : Line) (lines : List Line) : List Line :=
  opening :: lines ++ [Line.closing opening.level]

/-- Texts as lines, each with its line feed. -/
def joinLines (lines : List String) : String := String.join (lines.map (· ++ "\n"))

end BlockApp.Source
