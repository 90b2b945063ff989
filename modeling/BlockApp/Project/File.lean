import BlockApp.Section.Framing
import BlockApp.Section.Name

/-!
# The file section

The screens of a project that are activities, with the settings of their windows, and those that are
custom views, which other screens show inside of lists.
-/

namespace BlockApp

/-- How a window may be turned. -/
inductive Orientation where
  | portrait
  | landscape
  | both
  deriving Repr, DecidableEq

namespace Orientation

/-- The name of an orientation. -/
def name : Orientation → String
  | .portrait => "portrait"
  | .landscape => "landscape"
  | .both => "both"

/-- The orientation of a name. -/
def ofName? (name : String) : Option Orientation :=
  [.portrait, .landscape, .both].find? fun o : Orientation => o.name == name

end Orientation

/-- What the keyboard does when a window opens. -/
inductive Keyboard where
  | unspecified
  | visible
  | hidden
  deriving Repr, DecidableEq

namespace Keyboard

/-- The name of a keyboard setting. -/
def name : Keyboard → String
  | .unspecified => "unspecified"
  | .visible => "visible"
  | .hidden => "hidden"

/-- The keyboard setting of a name. -/
def ofName? (name : String) : Option Keyboard :=
  [.unspecified, .visible, .hidden].find? fun k : Keyboard => k.name == name

end Keyboard

/-- A screen that is an activity. -/
structure Activity where
  name : String
  orientation : Orientation
  keyboard : Keyboard
  deriving Repr, DecidableEq

/-- The activities and custom views of a project. -/
structure FileSection where
  activities : List Activity
  customViews : List String
  deriving Repr, DecidableEq

namespace FileSection

/-- The first activity of a name. -/
def activity? (files : FileSection) (name : String) : Option Activity :=
  files.activities.find? (·.name == name)

/-- Whether a screen is a custom view. -/
def isCustomView (files : FileSection) (name : String) : Bool := files.customViews.contains name

/-- The name of the section in messages. -/
def sectionName : String := SectionName.file.name

/-- Reads an activity. -/
def readActivity (record : Record) : Except Failure Activity :=
  match record.fields with
  | [nameField, orientationField, keyboardField] => do
    let name ← Section.identifierField sectionName "activity name" record.line nameField
    let orientation ←
      Section.choiceField Orientation.ofName? sectionName "orientation" record.line orientationField
    let keyboard ←
      Section.choiceField Keyboard.ofName? sectionName "keyboard setting" record.line keyboardField
    return ⟨name, orientation, keyboard⟩
  | _ => Section.wrongCount sectionName "activity" record 3

/-- Reads a custom view. -/
def readCustomView (record : Record) : Except Failure String :=
  match record.fields with
  | [nameField] => Section.identifierField sectionName "custom view name" record.line nameField
  | _ => Section.wrongCount sectionName "customview" record 1

/-- Reads a group. -/
def readGroup (group : Group) : Except Failure FileSection :=
  if group.header = "activity" then do return ⟨← group.records.mapM readActivity, []⟩
  else if group.header = "customview" then do return ⟨[], ← group.records.mapM readCustomView⟩
  else Section.failAt sectionName group.line (.unknown "file group" group.header)

/-- Reads the file section. -/
def ofText (text : String) : Except Failure FileSection := do
  let groups ← Section.splitGroups sectionName text
  let parts ← groups.mapM readGroup
  return ⟨parts.flatMap (·.activities), parts.flatMap (·.customViews)⟩

end FileSection

end BlockApp
