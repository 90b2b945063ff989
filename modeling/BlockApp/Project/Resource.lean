import BlockApp.Section.Framing
import BlockApp.Section.Name

/-!
# The resource section

The images, sounds and fonts of a project, each with the file it comes from.
-/

namespace BlockApp

/-- A kind of resource. -/
inductive ResourceKind where
  | image
  | sound
  | font
  deriving Repr, DecidableEq

namespace ResourceKind

/-- The kinds of resources. -/
def all : List ResourceKind := [.image, .sound, .font]

/-- The header of a kind's group. -/
def header : ResourceKind → String
  | .image => "images"
  | .sound => "sounds"
  | .font => "fonts"

/-- The kind of a header. -/
def ofHeader? (header : String) : Option ResourceKind := all.find? (·.header == header)

end ResourceKind

/-- A resource. -/
structure Resource where
  kind : ResourceKind
  name : String
  filename : String
  deriving Repr, DecidableEq

/-- The resources of a project. -/
structure ResourceSection where
  records : List Resource
  deriving Repr, DecidableEq

namespace ResourceSection

/-- The names of the resources of a kind. -/
def names (resources : ResourceSection) (kind : ResourceKind) : List String :=
  (resources.records.filter (·.kind == kind)).map (·.name)

/-- Whether there is a resource of a kind and a name. -/
def has (resources : ResourceSection) (kind : ResourceKind) (name : String) : Bool :=
  resources.records.any fun r => r.kind == kind && r.name == name

theorem has_iff (resources : ResourceSection) (kind : ResourceKind) (name : String) :
    resources.has kind name = true ↔ name ∈ resources.names kind := by
  simp [has, names, and_assoc]

/-- The name of the section in messages. -/
def sectionName : String := SectionName.resource.name

/-- Reads a resource of a kind. -/
def readResource (kind : ResourceKind) (record : Record) : Except Failure Resource :=
  match record.fields with
  | [nameField, filename] => do
    let name ← Section.identifierField sectionName "resource name" record.line nameField
    return ⟨kind, name, Text.unescape filename⟩
  | _ => Section.wrongCount sectionName kind.header record 2

/-- Reads a group. -/
def readGroup (group : Group) : Except Failure (List Resource) :=
  match ResourceKind.ofHeader? group.header with
  | none => Section.failAt sectionName group.line (.unknown "resource group" group.header)
  | some kind => group.records.mapM (readResource kind)

/-- Reads the resource section. -/
def ofText (text : String) : Except Failure ResourceSection := do
  let groups ← Section.splitGroups sectionName text
  return ⟨(← groups.mapM readGroup).flatten⟩

end ResourceSection

end BlockApp
