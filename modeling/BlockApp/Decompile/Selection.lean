import BlockApp.Project.Basic

/-!
# Selections

Which layouts and which classes of a project are asked for. Names of layouts restrict layouts only, names
of activity classes restrict classes only, and no names mean all.

* `Selection.check` is about the selection alone; `Selection.checkNames` needs the project.
-/

namespace BlockApp

/-- The screens that a class shows: all but the custom views. -/
def Project.activityScreens (project : Project) : List String :=
  project.view.screenNames.filter (!project.files.isCustomView ·)

/-- The names of the classes of a project. -/
def Project.activityNames (project : Project) : List String :=
  project.activityScreens.map activityClassName

/-- What is asked for of a project. -/
structure Selection where
  activities : List String
  layouts : List String
  layoutsOnly : Bool
  sourcesOnly : Bool
  deriving Repr, DecidableEq

namespace Selection

/-- All there is. -/
def all : Selection := ⟨[], [], false, false⟩

/-- Checks that a selection does not contradict itself. -/
def check (selection : Selection) : Except Failure Unit :=
  if selection.layoutsOnly ∧ selection.sourcesOnly then .error (.argument .exclusiveModes)
  else if selection.sourcesOnly ∧ selection.layouts ≠ [] then
    .error (.argument .layoutsWithoutLayouts)
  else if selection.layoutsOnly ∧ selection.activities ≠ [] then
    .error (.argument .activitiesWithoutSources)
  else .ok ()

/-- Checks that a project has what a selection names. -/
def checkNames (selection : Selection) (project : Project) : Except Failure Unit := do
  match selection.activities.find? (!project.activityNames.contains ·) with
  | some name => throw (.argument (.noActivity name))
  | none =>
    match selection.layouts.find? (!project.view.screenNames.contains ·) with
    | some name => throw (.argument (.noLayout name))
    | none => return ()

/-- Whether the layout of a screen is asked for. -/
def wantsLayout (selection : Selection) (screen : String) : Bool :=
  !selection.sourcesOnly && (selection.layouts.isEmpty || selection.layouts.contains screen)

/-- Whether the class of a screen is asked for. A custom view has none. -/
def wantsSource (selection : Selection) (files : FileSection) (screen : String) : Bool :=
  !selection.layoutsOnly && !files.isCustomView screen &&
    (selection.activities.isEmpty || selection.activities.contains (activityClassName screen))

/-- Whether anything of a screen is asked for. -/
def wants (selection : Selection) (files : FileSection) (screen : String) : Bool :=
  selection.wantsLayout screen || selection.wantsSource files screen

end Selection

end BlockApp
