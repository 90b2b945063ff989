import BlockApp.Project.Basic
import BlockApp.Source.Listener
import BlockApp.Source.Method

/-!
# Activity classes

The class of a screen: fields for what the screen declares and for its views, the methods that set it
up, and one method for every handler.

* `ActivityClass.lines` makes the lines in order, so the first fault in the order of the class is
  reported: components, views, listeners, then the blocks of each method.
* The imports are those that the lines need, each once, in the order of their characters.
-/

namespace BlockApp

/-- What the class of a screen is made of. -/
structure ActivityClass where
  name : String
  layout : String
  logic : LogicTree
  views : ViewIndex
  window : Option Activity
  metadata : Metadata
  libraries : LibrarySection
  resources : ResourceSection
  deriving Repr

namespace ActivityClass

open Source

/-- The name of the library that brings its own base class. -/
def compatLibrary : String := "compat"

/-- What the code of the class may refer to. -/
def scene (c : ActivityClass) : Scene := ⟨c.layout, c.views, c.resources⟩

/-- The line that opens the class. -/
def openingLine (c : ActivityClass) : Line :=
  if c.libraries.enabled compatLibrary then
    ⟨0, s!"public class {c.name} extends AppCompatActivity \x7b",
      ["androidx.appcompat.app.AppCompatActivity"]⟩
  else ⟨0, s!"public class {c.name} extends Activity \x7b", ["android.app.Activity"]⟩

/-- The fields of the class, after an empty line if there are any. -/
def fieldLines (c : ActivityClass) : Except Failure (List Line) := do
  match ← fields c.logic.screen c.logic.declarations c.views with
  | [] => return []
  | lines => return Line.blank :: lines

/-- The method that is called when the screen is made. -/
def createLines (c : ActivityClass) : List Line :=
  [.blank, .plain 1 "@Override"] ++
    bracedBy ⟨1, "protected void onCreate(Bundle _savedInstanceState) \x7b", ["android.os.Bundle"]⟩
      [.plain 2 "super.onCreate(_savedInstanceState);",
       .plain 2 s!"setContentView(R.layout.{c.layout});",
       .plain 2 "initialize(_savedInstanceState);",
       .plain 2 "initializeLogic();"]

/-- The statement that keeps a window from turning. -/
def orientationLines : Orientation → List Line
  | .portrait =>
    [⟨2, "setRequestedOrientation(ActivityInfo.SCREEN_ORIENTATION_PORTRAIT);",
      ["android.content.pm.ActivityInfo"]⟩]
  | .landscape =>
    [⟨2, "setRequestedOrientation(ActivityInfo.SCREEN_ORIENTATION_LANDSCAPE);",
      ["android.content.pm.ActivityInfo"]⟩]
  | .both => []

/-- The statement that sets what the keyboard does. -/
def keyboardLines : Keyboard → List Line
  | .unspecified => []
  | .visible =>
    [⟨2, "getWindow().setSoftInputMode(WindowManager.LayoutParams.SOFT_INPUT_STATE_ALWAYS_VISIBLE);",
      ["android.view.WindowManager"]⟩]
  | .hidden =>
    [⟨2, "getWindow().setSoftInputMode(WindowManager.LayoutParams.SOFT_INPUT_STATE_ALWAYS_HIDDEN);",
      ["android.view.WindowManager"]⟩]

/-- The statements that set up the window. -/
def windowLines : Option Activity → List Line
  | none => []
  | some window => orientationLines window.orientation ++ keyboardLines window.keyboard

/-- The statement that finds a view. -/
def findViewLine (entry : ViewEntry) : Line :=
  .plain 2 s!"{entry.id} = findViewById(R.id.{entry.id});"

/-- The lines that set the listener of a handler, none if it is not of a view's event. -/
def listenerOf (c : ActivityClass) (h : Handler) : Except Failure (List Line) :=
  match h.binding with
  | .viewEvent view event =>
    let fault := CodeFault.failure c.logic.screen h.key ""
    match c.views.entry? view with
    | none => .error (fault (.malformed (.targetNotInLayout view c.layout)))
    | some entry =>
      if event.appliesTo entry.type then .ok (listenerLines 2 view h.binding.methodName event)
      else .error (fault (.malformed (.eventForOther event.name entry.type view)))
  | .startUp | .activityEvent _ | .moreBlock _ => .ok []

/-- The method that sets up what the screen declares. -/
def initializeLines (c : ActivityClass) : Except Failure (List Line) := do
  let listeners ← c.logic.handlers.mapM c.listenerOf
  return .blank ::
    bracedBy (.plain 1 "private void initialize(Bundle _savedInstanceState) \x7b")
      (windowLines c.window ++ c.views.referenced.map findViewLine ++
        c.logic.declarations.components.filterMap setupLine? ++ listeners.flatten)

/-- The handlers with an empty one for the start of the screen if it has none. -/
def allHandlers (c : ActivityClass) : List Handler :=
  if c.logic.handlers.any (·.binding == .startUp) then c.logic.handlers
  else c.logic.handlers ++ [⟨"", .startUp, [], []⟩]

/-- The handlers in the order of their methods: by the kind of their keys first. -/
def orderedHandlers (c : ActivityClass) : List Handler :=
  [0, 1, 2, 3].flatMap fun rank => c.allHandlers.filter (·.binding.rank == rank)

/-- Empty handlers of the more blocks that have none. -/
def missingHandlers (c : ActivityClass) : List Handler :=
  c.logic.declarations.moreBlocks.filterMap fun declared =>
    let key := Binding.moreBlockKey declared.name
    if c.logic.handlers.any (·.key == key) then none
    else some ⟨key, .moreBlock declared.name, declared.arguments, []⟩

/-- The method of a handler after an empty line. -/
def memberLines (c : ActivityClass) (h : Handler) : Except Failure (List Line) := do
  return .blank :: (← methodLines c.scene c.logic.screen h)

/-- The lines of the class. -/
def lines (c : ActivityClass) : Except Failure (List Line) := do
  let fieldPart ← c.fieldLines
  let initializePart ← c.initializeLines
  let methods ← (c.orderedHandlers ++ c.missingHandlers).mapM c.memberLines
  return bracedBy c.openingLine (fieldPart ++ c.createLines ++ initializePart ++ methods.flatten)

/-- The imports that lines need. -/
def importsOf (lines : List Line) : List String :=
  ((lines.flatMap (·.imports)).mergeSort fun a b => a ≤ b).eraseDups

/-- The text of the class. -/
def source (c : ActivityClass) (indent : String) : Except Failure String := do
  let lines ← c.lines
  return joinLines ([s!"package {c.metadata.packageName};", ""] ++
    (importsOf lines).map (fun name => s!"import {name};") ++ [""] ++ lines.map (·.shown indent))

end ActivityClass

end BlockApp
