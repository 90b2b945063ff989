import BlockApp.Decompile.Selection
import BlockApp.Layout.Document
import BlockApp.Logic.Tree
import BlockApp.Settings.Basic
import BlockApp.Source.ActivityClass
import BlockApp.View.Index

/-!
# Artifacts

The layouts and the classes that a project makes, each with the key that it is stored under.

* `Artifacts.ofProject` checks the whole project before it looks at the selection: all trees are built, and
  all logic must belong to a class. Then come the layouts and then the classes, in the order of screens.
* Two screens can share the name of a class. The class of the later one then takes the place of the other.
-/

namespace BlockApp

/-- The texts made of a project, with their keys. -/
structure Artifacts where
  layouts : List (String × String)
  sources : List (String × String)
  deriving Repr, DecidableEq

namespace Artifacts

/-- Texts with one more: in the place of one of its key, or after all others. -/
def insert (entries : List (String × String)) (key text : String) : List (String × String) :=
  match entries with
  | [] => [(key, text)]
  | entry :: rest => if entry.1 = key then (key, text) :: rest else entry :: insert rest key text

/-- Texts one by one inserted. -/
def insertAll (entries : List (String × String)) : List (String × String) :=
  entries.foldl (fun made (key, text) => insert made key text) []

/-- All texts: the layouts and then the classes. -/
def entries (artifacts : Artifacts) : List (String × String) :=
  artifacts.layouts ++ artifacts.sources

/-! ## Keys -/

/-- The key of a screen's layout. -/
def layoutKey (settings : Settings) (screen : String) : String :=
  s!"{settings.layoutFolder}/{screen}.xml"

/-- The key of a class. -/
def sourceKey (settings : Settings) (metadata : Metadata) (activity : String) : String :=
  s!"{settings.sourceFolder}/{metadata.packagePath}/{activity}.{settings.sourceExtension}"

/-! ## Texts -/

/-- The layout of a screen with its key. -/
def layoutEntry (settings : Settings) (project : Project) (tree : ViewTree) :
    Except Failure (String × String) := do
  let text ← Layout.ofTree ⟨project.resources, project.files⟩ project.metadata settings.indent tree
  return (layoutKey settings tree.screen, text)

/-- The logic of a class, none if no logic belongs to it. -/
def logicOf (trees : List LogicTree) (activity : String) : LogicTree :=
  (trees.find? (·.screen == activity)).getD (.none activity)

/-- The class of a screen. -/
def classOf (project : Project) (logicTrees : List LogicTree) (tree : ViewTree) :
    Except Failure ActivityClass := do
  let activity := activityClassName tree.screen
  let views ← ViewIndex.ofTree tree project.logic.referencedViews
  return {
    name := activity
    layout := tree.screen
    logic := logicOf logicTrees activity
    views := views
    window := project.files.activity? tree.screen
    metadata := project.metadata
    libraries := project.libraries
    resources := project.resources
  }

/-- The text of a screen's class with its key. -/
def sourceEntry (settings : Settings) (project : Project) (logicTrees : List LogicTree)
    (tree : ViewTree) : Except Failure (String × String) := do
  let text ← (← classOf project logicTrees tree).source settings.indent
  return (sourceKey settings project.metadata (activityClassName tree.screen), text)

/-- Checks that all logic belongs to classes of the project. -/
def checkLogic (project : Project) (logicTrees : List LogicTree) : Except Failure Unit :=
  match logicTrees.find? (!project.activityNames.contains ·.screen) with
  | some tree => .error (.logicTree ⟨tree.screen, "", "", none⟩ .noActivity)
  | none => .ok ()

/-- What a selection of a project makes. -/
def ofProject (settings : Settings) (project : Project) (selection : Selection) :
    Except Failure Artifacts := do
  let logicTrees ← project.logic.trees
  let viewTrees ← project.view.trees
  checkLogic project logicTrees
  selection.checkNames project
  let layouts ← (viewTrees.filter (selection.wantsLayout ·.screen)).mapM
    (layoutEntry settings project)
  let sources ← (viewTrees.filter (selection.wantsSource project.files ·.screen)).mapM
    (sourceEntry settings project logicTrees)
  return ⟨insertAll layouts, insertAll sources⟩

end Artifacts

end BlockApp
