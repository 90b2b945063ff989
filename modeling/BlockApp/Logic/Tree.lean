import BlockApp.Failure.Basic
import BlockApp.Logic.Event
import BlockApp.Logic.Nest
import BlockApp.Logic.Section

/-!
# Block trees

The handlers of a screen with their blocks as trees. The depth of a record alone says where its block
belongs: records of one depth are siblings, and a lesser depth closes the blocks above it.

* `Building.read` takes one record. Its checks come in a fixed order: the identifier, the depth, the
  references, and then what the tag asks for.
* `Handler.ofRecords` folds it over the records of a handler, so the first bad record is reported.
* Variables are visible from their declaration to the end of its sequence; the sequences that are open
  hold them, so `Nest.locals` is all the scope there is.
-/

namespace BlockApp

/-- A handler: when its blocks run, what they are told, and the blocks. -/
structure Handler where
  key : String
  binding : Binding
  arguments : List Argument
  blocks : List Block
  deriving Repr

/-- The logic of a screen: its declarations and its handlers in order. -/
structure LogicTree where
  screen : String
  declarations : Declarations
  handlers : List Handler
  deriving Repr

/-! ## Tags -/

/-- What a block's tag says about the structure. -/
inductive BlockTag where
  | elseIf
  | elseDo
  | ifThen
  | times
  | forever
  | whileTrue
  | declare
  | set
  | increase
  | decrease
  | call
  | statement
  deriving Repr, DecidableEq

/-- What a tag says. A tag without a role of its own is a statement's. -/
def BlockTag.of (tag : String) : BlockTag :=
  if tag = "elseIf" then .elseIf
  else if tag = "else" then .elseDo
  else if tag = "if" then .ifThen
  else if tag = "repeat" then .times
  else if tag = "forever" then .forever
  else if tag = "while" then .whileTrue
  else if tag = Block.declareTag then .declare
  else if tag = "setVar" then .set
  else if tag = "increaseInt" then .increase
  else if tag = "decreaseInt" then .decrease
  else if tag = Block.callTag then .call
  else .statement

/-! ## Reading records -/

/-- What the blocks of a handler may refer to besides their local variables. -/
structure Surroundings where
  declarations : Declarations
  arguments : List String
  deriving Repr, DecidableEq

/-- The blocks of a handler read so far, and the identifiers used in the screen so far. -/
structure Building where
  used : List String
  nest : Nest
  deriving Repr

namespace Building

/-- The problem with a reference, given the variables and arguments that are visible. -/
def unresolved? (vars arguments : List String) : Reference → Option LogicProblem
  | (.variable, name) => if name ∈ vars then none else some (.unresolvedVariable name)
  | (.argument, name) => if name ∈ arguments then none else some (.unresolvedArgument name)
  | (.view, _) => none

/-- The problem with the first reference that points nowhere. -/
def unresolvedIn? (around : Surroundings) (nest : Nest) (params : List Expr) : Option LogicProblem :=
  (Expr.referencesOf params).findSome?
    (unresolved? (around.declarations.names ++ nest.locals) around.arguments)

/-- The only parameter of a tag that takes one. -/
def oneParam (tag : String) (params : List Expr) : Except LogicProblem Expr :=
  match params with
  | [param] => .ok param
  | _ => .error (.parameterCount tag 1 params.length)

/-- Checks that a tag that takes no parameter has none. -/
def noParam (tag : String) (params : List Expr) : Except LogicProblem Unit :=
  if params.length = 0 then .ok () else .error (.parameterCount tag 0 params.length)

/-- Opens a branch after the `if` block at the end of the innermost sequence. -/
def readBranch (nest : Nest) (tag : String) (head : Except LogicProblem BranchHead) :
    Except LogicProblem Nest :=
  match Nest.lastIf? nest.blocks with
  | none => .error (.branchWithoutIf tag)
  | some last =>
    if last.otherwise.isOpen then return nest.resume last (← head)
    else .error (.branchAfterElse tag)

/-- Reads the declaration of a local variable. -/
def readDeclare (id : String) (params : List Expr) : Except LogicProblem Block :=
  let make (typeName name : String) (value : Option Expr) : Except LogicProblem Block :=
    match ValueType.ofName? typeName with
    | none => .error (.localType typeName)
    | some type =>
      if Text.isIdentifier name.toList then .ok (.declare id type name value)
      else .error (.localName name)
  match params with
  | [.literal .enum type, .literal .enum name] => make type name none
  | [.literal .enum type, .literal .enum name, value] => make type name (some value)
  | _ => .error .localForm

/-- Reads an assignment of a value. -/
def readSet (id tag : String) (params : List Expr) : Except LogicProblem Block :=
  match params with
  | [.reference .variable target, value] => .ok (.assign id target (.set value))
  | _ => .error (.assignmentForm tag)

/-- Reads an assignment without a value. -/
def readStep (id tag : String) (change : Change) (params : List Expr) : Except LogicProblem Block :=
  match params with
  | [.reference .variable target] => .ok (.assign id target change)
  | _ => .error (.assignmentForm tag)

/-- Reads a call of a more block. -/
def readCall (declarations : Declarations) (id : String) (params : List Expr) :
    Except LogicProblem Block :=
  match params with
  | .literal .enum function :: args =>
    match declarations.moreBlock? function with
    | none => .error (.undeclaredCall function)
    | some declared =>
      if args.length = declared.parameters.length then .ok (.call id function args)
      else .error (.argumentCount function declared.parameters.length args.length)
  | _ => .error .callForm

/-- Puts the block of a record into the innermost sequence. -/
def place (declarations : Declarations) (nest : Nest) (id tag : String) (params : List Expr) :
    Except LogicProblem Nest :=
  match BlockTag.of tag with
  | .elseIf => readBranch nest tag (.elseIf <$> oneParam tag params)
  | .elseDo => readBranch nest tag (noParam tag params *> .ok .elseDo)
  | .ifThen => return nest.enter (.ifThen id (← oneParam tag params))
  | .times => return nest.enter (.loop id (.times (← oneParam tag params)))
  | .forever => do noParam tag params; return nest.enter (.loop id .forever)
  | .whileTrue => return nest.enter (.loop id (.whileTrue (← oneParam tag params)))
  | .declare => nest.add <$> readDeclare id params
  | .set => nest.add <$> readSet id tag params
  | .increase => nest.add <$> readStep id tag .increase params
  | .decrease => nest.add <$> readStep id tag .decrease params
  | .call => nest.add <$> readCall declarations id params
  | .statement => .ok (nest.add (.statement id tag params))

/-- Reads a record. -/
def read (around : Surroundings) (building : Building) (record : BlockRecord) :
    Except LogicProblem Building :=
  if record.blockId ∈ building.used then .error (.duplicateBlockId record.blockId)
  else if building.nest.depth < record.depth then
    .error (.depth record.depth building.nest.depth)
  else
    let nest := building.nest.closeTo record.depth
    match unresolvedIn? around nest record.params with
    | some problem => .error problem
    | none => do
      let nest ← place around.declarations nest record.blockId record.tag record.params
      return ⟨record.blockId :: building.used, nest⟩

end Building

/-! ## Handlers and screens -/

/-- What the blocks of a handler are told. The handler of a more block is told what the more block's
declaration says. -/
def Binding.argumentsIn? (declarations : Declarations) : Binding → Except LogicProblem (List Argument)
  | .startUp | .activityEvent _ => .ok []
  | .viewEvent _ event => .ok event.arguments
  | .moreBlock name =>
    match declarations.moreBlock? name with
    | some declared => .ok declared.arguments
    | none => .error (.undeclaredBody name)

/-- Reads a record of a handler. -/
def Handler.readRecord (screen key : String) (around : Surroundings) (building : Building)
    (record : BlockRecord) : Except Failure Building :=
  (building.read around record).mapError
    (.logicTree ⟨screen, key, record.blockId, some record.line⟩)

/-- The handler of a key. `used` are the identifiers in the handlers before it. -/
def Handler.ofRecords (screen : String) (declarations : Declarations) (used : List String)
    (key : String) (records : List BlockRecord) : Except Failure Handler :=
  match Binding.ofKey? key with
  | none => .error (.block (Binding.eventPart key) screen key (.handlerKey key))
  | some binding => do
    let arguments ← (binding.argumentsIn? declarations).mapError
      (.logicTree ⟨screen, key, "", none⟩)
    let around : Surroundings := ⟨declarations, arguments.map (·.name)⟩
    let building ← records.foldlM (readRecord screen key around) ⟨used, .empty⟩
    return ⟨key, binding, arguments, building.nest.finish⟩

namespace LogicTree

/-- The handlers of a screen. Block identifiers are distinct in all of them together. -/
def handlersOf (screen : String) (declarations : Declarations) :
    (used : List String) → List (String × List BlockRecord) → Except Failure (List Handler)
  | _, [] => .ok []
  | used, (key, records) :: rest => do
    let handler ← Handler.ofRecords screen declarations used key records
    let handlers ← handlersOf screen declarations (records.map (·.blockId) ++ used) rest
    return handler :: handlers

/-- The logic of a screen. -/
def ofScreen (logic : LogicSection) (screen : String) : Except Failure LogicTree := do
  let declarations := logic.declarations screen
  return ⟨screen, declarations, ← handlersOf screen declarations [] (logic.handlers screen)⟩

/-- A screen without any logic. -/
def none (screen : String) : LogicTree := ⟨screen, .none, []⟩

end LogicTree

/-- The logic of every screen, in the order of the section. -/
def LogicSection.trees (logic : LogicSection) : Except Failure (List LogicTree) :=
  logic.screens.mapM (LogicTree.ofScreen logic)

end BlockApp
