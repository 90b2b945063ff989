import BlockApp.Text.Split

/-!
# Paths

A path is where it starts and the names on the way from there. Empty names and `.` lead nowhere and are
left out; `..` is kept, as the folder above depends on what is there.

* `Path.resolve` takes `..` as the name before it undone, whatever is there.
-/

namespace BlockApp

/-- A place in the file system: the names from the root on. -/
abbrev Location := List String

/-- Where a path starts. -/
inductive PathStart where
  /-- At the folder that is worked in. -/
  | here
  /-- At the root. -/
  | root
  /-- At the root, written with two slashes. -/
  | doubleRoot
  deriving Repr, DecidableEq

/-- The text of a path's start. -/
def PathStart.text : PathStart → String
  | .here => ""
  | .root => "/"
  | .doubleRoot => "//"

/-- A path. -/
structure Path where
  start : PathStart
  names : List String
  deriving Repr, DecidableEq

namespace Path

/-- The start of a path that begins with a number of slashes. -/
def startOf (slashes : Nat) : PathStart :=
  if slashes = 0 then .here else if slashes = 2 then .doubleRoot else .root

/-- The names between slashes that lead somewhere. -/
def namesOf (text : List Char) : List String :=
  ((Text.splitAt '/' text).map String.ofList).filter fun name => name ≠ "" ∧ name ≠ "."

/-- The path that a text writes. -/
def ofString (text : String) : Path :=
  ⟨startOf (text.toList.takeWhile (· == '/')).length, namesOf text.toList⟩

/-- The text of a path. -/
def shown (path : Path) : String :=
  let text := path.start.text ++ "/".intercalate path.names
  if text = "" then "." else text

/-- The path of a location. -/
def ofLocation (location : Location) : Path := ⟨.root, location⟩

/-- The path of a name in the folder at a path. -/
def child (path : Path) (name : String) : Path := ⟨path.start, path.names ++ [name]⟩

/-- The path without its last name. -/
def parent (path : Path) : Path := ⟨path.start, path.names.dropLast⟩

/-- Whether a path holds a NUL, which no name can. -/
def hasNul (path : Path) : Bool := path.names.any (·.toList.contains '\x00')

/-- The location that names lead to from a folder, each `..` undoing the name before it. -/
def resolveNames : (folder : Location) → List String → Location
  | folder, [] => folder
  | folder, name :: names =>
    resolveNames (if name = ".." then folder.dropLast else folder ++ [name]) names

/-- The location of a path, given the folder that is worked in. -/
def resolve (here : Location) (path : Path) : Location :=
  resolveNames (if path.start = .here then here else []) path.names

example : (ofString "a//b/./c/").shown = "a/b/c" := by decide +kernel
example : (ofString "").shown = "." := by decide +kernel
example : (ofString "//a").shown = "//a" := by decide +kernel
example : (ofString "///a").shown = "/a" := by decide +kernel
example : (ofString "a/../b").resolve ["x"] = ["x", "b"] := by decide +kernel

end Path

end BlockApp
