import BlockApp.Logic.Section
import BlockApp.Project.File
import BlockApp.Project.Library
import BlockApp.Project.Metadata
import BlockApp.Project.Resource
import BlockApp.Text.Upper
import BlockApp.View.Section

/-!
# Projects

A project is its six sections, read. The sections are read in a fixed order, so of two malformed
sections the earlier one is reported: project, logic, view, resource, file, library.

A screen is known by its name in the view section; the class that shows it is named after it.
-/

namespace BlockApp

/-- A project. -/
structure Project where
  metadata : Metadata
  logic : LogicSection
  view : ViewSection
  resources : ResourceSection
  files : FileSection
  libraries : LibrarySection
  deriving Repr, DecidableEq

/-- Reads the texts of the six sections. -/
def Project.ofTexts (texts : Sections String)
    (skipped : List String) : Except Failure Project := do
  let metadata ← Metadata.ofText texts.project
  let logic ← LogicSection.ofText texts.logic
  let view ← ViewSection.ofText texts.view skipped
  let resources ← ResourceSection.ofText texts.resource
  let files ← FileSection.ofText texts.file
  let libraries ← LibrarySection.ofText texts.library
  return ⟨metadata, logic, view, resources, files, libraries⟩

/-- The name of the class that shows a screen. -/
def activityClassName (screen : String) : String :=
  String.ofList (Text.capitalize screen.toList ++ "Activity".toList)

example : activityClassName "main" = "MainActivity" := by decide +kernel

end BlockApp
