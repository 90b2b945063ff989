import BlockApp.Report.Basic

/-!
# What can be wrong in a project's trees

The problems of block trees, view trees, layouts and activity classes, their wording, and the values
reported with them.
-/

namespace BlockApp

/-- A problem of a screen's blocks. -/
inductive LogicProblem where
  | undeclaredBody (name : String)
  | duplicateBlockId (id : String)
  | depth (depth opened : Nat)
  | branchWithoutIf (tag : String)
  | branchAfterElse (tag : String)
  | parameterCount (tag : String) (expected found : Nat)
  | localForm
  | localType (type : String)
  | localName (name : String)
  | assignmentForm (tag : String)
  | callForm
  | undeclaredCall (name : String)
  | argumentCount (name : String) (expected found : Nat)
  | unresolvedVariable (name : String)
  | unresolvedArgument (name : String)
  | unresolvedImage (name : String)
  | viewNotInLayout (view layout : String)
  | targetNotInLayout (view layout : String)
  | eventForOther (event type view : String)
  | noActivity
  deriving Repr, DecidableEq

/-- The wording of a problem of blocks. -/
def LogicProblem.message : LogicProblem → String
  | .undeclaredBody name => s!"body of undeclared more block '{name}'"
  | .duplicateBlockId id => s!"duplicate block id '{id}'"
  | .depth found opened => s!"record at depth {found} but only {opened} block(s) are open"
  | .branchWithoutIf tag => s!"'{tag}' does not follow an if block"
  | .branchAfterElse tag => s!"'{tag}' follows an else branch"
  | .parameterCount tag expected found => s!"'{tag}' takes {expected} parameter(s), got {found}"
  | .localForm => "localVar expects type and name enums and an optional value"
  | .localType type => s!"invalid local variable type '{type}'"
  | .localName name => s!"invalid local variable name '{name}'"
  | .assignmentForm tag => s!"'{tag}' expects a variable reference first"
  | .callForm => "definedFunc expects the function name first"
  | .undeclaredCall name => s!"call to undeclared more block '{name}'"
  | .argumentCount name expected found => s!"'{name}' takes {expected} argument(s), got {found}"
  | .unresolvedVariable name => s!"unresolved variable '{name}'"
  | .unresolvedArgument name => s!"unresolved handler argument '{name}'"
  | .unresolvedImage name => s!"unresolved image resource '{name}'"
  | .viewNotInLayout view layout => s!"view '{view}' is not in layout '{layout}'"
  | .targetNotInLayout view layout => s!"event target '{view}' is not in layout '{layout}'"
  | .eventForOther event type view => s!"{event} does not apply to {type} '{view}'"
  | .noActivity => "logic belongs to a screen without an activity layout"

/-- A problem of a screen's views. -/
inductive ViewProblem where
  | duplicateId (line : Nat)
  | rootCount (count : Nat)
  | noParent (parent : String) (line : Nat)
  | unreachable (ids : List String)
  | tooManyChildren (type : String) (count most : Nat)
  | unresolvedResource (what : String)
  deriving Repr, DecidableEq

/-- The wording of a problem of views. -/
def ViewProblem.message : ViewProblem → String
  | .duplicateId _ => "duplicate view id"
  | .rootCount count => s!"expected exactly one root view, found {count}"
  | .noParent parent _ => s!"parent '{parent}' does not exist in this screen"
  | .unreachable _ => "views are not reachable from the root (parent cycle)"
  | .tooManyChildren type count most => s!"{type} holds {count} children, at most {most} allowed"
  | .unresolvedResource what => s!"unresolved resource: {what}"

/-- The values reported with a problem of views. -/
def ViewProblem.context : ViewProblem → List (String × Value)
  | .duplicateId line => [("line", .int line)]
  | .noParent _ line => [("line", .int line)]
  | .unreachable ids => [("unreachable", .list (ids.map .text))]
  | .rootCount _ | .tooManyChildren .. | .unresolvedResource _ => []

/-- A component type or attribute that nothing is known about. -/
inductive ComponentProblem where
  | viewType (viewId : String)
  | attribute (viewId kind : String)
  | orientation (viewId : String)
  | declaration (name : String)
  | fieldType
  deriving Repr, DecidableEq

/-- The wording of an unknown component. -/
def ComponentProblem.message : ComponentProblem → String
  | .viewType _ | .fieldType => "no component mapping for view type"
  | .attribute .. => "no attribute mapping"
  | .orientation _ => "orientation applies to LinearLayout only"
  | .declaration _ => "no declaration mapping for component"

/-- The values reported with an unknown component. -/
def ComponentProblem.context : ComponentProblem → List (String × Value)
  | .viewType viewId | .orientation viewId => [("view_id", .text viewId)]
  | .attribute viewId kind => [("view_id", .text viewId), ("kind", .text kind)]
  | .declaration name => [("name", .text name)]
  | .fieldType => []

/-- A handler key or block tag that nothing is known about. -/
inductive BlockProblem where
  | handlerKey (key : String)
  | tag (blockId : String)
  deriving Repr, DecidableEq

/-- The wording of an unknown handler key or block tag. -/
def BlockProblem.message : BlockProblem → String
  | .handlerKey key => s!"no event binding for handler '{key}'"
  | .tag _ => "no template for block tag"

/-- The values reported with an unknown block tag. -/
def BlockProblem.context : BlockProblem → List (String × Value)
  | .handlerKey _ => []
  | .tag blockId => [("block_id", .text blockId)]

end BlockApp
