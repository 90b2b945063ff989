import BlockApp.Section.Framing
import BlockApp.Section.Name

/-!
# The library section

The libraries that a project may use, each switched on or off.
-/

namespace BlockApp

/-- A library and whether it is on. -/
structure Library where
  name : String
  enabled : Bool
  deriving Repr, DecidableEq

/-- The libraries of a project. -/
structure LibrarySection where
  records : List Library
  deriving Repr, DecidableEq

namespace LibrarySection

/-- Whether a library is on. -/
def enabled (libraries : LibrarySection) (name : String) : Bool :=
  libraries.records.any fun r => r.name == name && r.enabled

/-- The name of the section in messages. -/
def sectionName : String := SectionName.library.name

/-- Reads a library. The flag is checked first and is not escaped. -/
def readLibrary (record : Record) : Except Failure Library :=
  match record.fields with
  | [nameField, flag] =>
    if flag = "Y" ∨ flag = "N" then do
      let name ← Section.identifierField sectionName "library name" record.line nameField
      return ⟨name, flag == "Y"⟩
    else Section.failAt sectionName record.line (.invalid "library flag" flag)
  | _ => Section.wrongCount sectionName "library" record 2

/-- Reads a group. -/
def readGroup (group : Group) : Except Failure (List Library) :=
  if group.header = "library" then group.records.mapM readLibrary
  else Section.failAt sectionName group.line (.unknown "library group" group.header)

/-- Reads the library section. -/
def ofText (text : String) : Except Failure LibrarySection := do
  let groups ← Section.splitGroups sectionName text
  return ⟨(← groups.mapM readGroup).flatten⟩

end LibrarySection

end BlockApp
