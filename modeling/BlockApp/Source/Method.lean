import BlockApp.Logic.Tree
import BlockApp.Source.Expression
import BlockApp.Source.Field

/-!
# Methods

The method of a handler: a line for every block and every branch, one level deeper inside of a block
than around it, and a closing brace after the last branch of a block.

* `blockLines` is one recursion over the blocks. The counter of a counted loop is its number among the
  counted loops of the method, so it is passed down as the number of those before, which `Block.counted`
  gives.
-/

namespace BlockApp

mutual

/-- The number of counted loops in a block. -/
def Block.counted : Block → Nat
  | .statement .. | .declare .. | .assign .. | .call .. => 0
  | .loop _ (.times _) body => countedIn body + 1
  | .loop _ .forever body | .loop _ (.whileTrue _) body => countedIn body
  | .ifThen _ _ body otherwise => countedIn body + otherwise.counted

/-- The number of counted loops in further branches. -/
def Otherwise.counted : Otherwise → Nat
  | .nothing => 0
  | .elseDo body => countedIn body
  | .elseIf _ body otherwise => countedIn body + otherwise.counted

/-- The number of counted loops in blocks. -/
def countedIn : List Block → Nat
  | [] => 0
  | block :: blocks => block.counted + countedIn blocks

end

namespace Source

/-- Where code is made: what it may refer to, and the screen and handler for messages. -/
structure MethodScene where
  scene : Scene
  screen : String
  handler : String
  deriving Repr, DecidableEq

/-- The text of a parameter of a block. -/
def paramText (place : MethodScene) (id : String) (e : Expr) : Except Failure String :=
  (textOf place.scene e).mapError (CodeFault.failure place.screen place.handler id)

/-- The texts of parameters of a block. -/
def paramTexts (place : MethodScene) (id : String) (es : List Expr) : Except Failure (List String) :=
  (textsOf place.scene es).mapError (CodeFault.failure place.screen place.handler id) |>.map (·.1)

/-- The line of a statement. -/
def statementLine (place : MethodScene) (level : Nat) (id tag : String) (params : List Expr) :
    Except Failure Line :=
  Except.mapError (CodeFault.failure place.screen place.handler id) <|
    match statements.lookup tag with
    | none => .error (.unknownTag tag)
    | some template =>
      if h : params.length = template.arity then do
        let ⟨texts, ht⟩ ← textsOf place.scene params
        return ⟨level, template.fill texts (Template.length_texts ht h), template.imports⟩
      else wrongArity tag template params

/-- The line of a local variable's declaration. -/
def declareLine (place : MethodScene) (level : Nat) (id : String) (type : ValueType) (name : String)
    (value : Option Expr) : Except Failure Line := do
  let text ← match value with
    | some e => paramText place id e
    | none => .ok type.initial
  return ⟨level, s!"{type.javaType} {name} = {text};", type.imports⟩

/-- The line of an assignment. -/
def assignLine (place : MethodScene) (level : Nat) (id target : String) (change : Change) :
    Except Failure Line := do
  let text ← match change with
    | .set value => do pure s!"{target} = {← paramText place id value};"
    | .increase => pure s!"{target}++;"
    | .decrease => pure s!"{target}--;"
  return .plain level text

/-- The line of a call of a more block. -/
def callLine (place : MethodScene) (level : Nat) (id function : String) (args : List Expr) :
    Except Failure Line := do
  let texts := ", ".intercalate (← paramTexts place id args)
  return .plain level s!"_{function}({texts});"

/-- The name of the counter of a loop. -/
def counterName (number : Nat) : String := s!"_repeat{number}"

/-- The line that opens a loop. -/
def loopLine (place : MethodScene) (level number : Nat) (id : String) (head : Loop) :
    Except Failure Line := do
  let text ← match head with
    | .times count => do
      let counter := counterName number
      let limit ← paramText place id count
      pure s!"for (int {counter} = 0; {counter} < (int) ({limit}); {counter}++) \x7b"
    | .forever => pure "while (true) \x7b"
    | .whileTrue condition => do pure s!"while ({← paramText place id condition}) \x7b"
  return .plain level text

/-- The counted loops up to and including a loop, `before` of them being before it. -/
def countedWith (before : Nat) : Loop → Nat
  | .times _ => before + 1
  | .forever | .whileTrue _ => before

mutual

/-- The lines of a block. `before` counted loops come before it in its method. -/
def blockLines (place : MethodScene) (level before : Nat) : Block → Except Failure (List Line)
  | .statement id tag params => do return [← statementLine place level id tag params]
  | .declare id type name value => do return [← declareLine place level id type name value]
  | .assign id target change => do return [← assignLine place level id target change]
  | .call id function args => do return [← callLine place level id function args]
  | .loop id head body => do
    let opening ← loopLine place level (before + 1) id head
    return bracedBy opening (← sequenceLines place (level + 1) (countedWith before head) body)
  | .ifThen id condition body otherwise => do
    let text ← paramText place id condition
    let inner ← sequenceLines place (level + 1) before body
    let others ← otherwiseLines place id level (before + countedIn body) otherwise
    return bracedBy (.plain level s!"if ({text}) \x7b") (inner ++ others)

/-- The lines of the branches after the first one of the block `id`. -/
def otherwiseLines (place : MethodScene) (id : String) (level before : Nat) :
    Otherwise → Except Failure (List Line)
  | .nothing => .ok []
  | .elseDo body => do
    let inner ← sequenceLines place (level + 1) before body
    return .plain level "\x7d else \x7b" :: inner
  | .elseIf condition body otherwise => do
    let text ← paramText place id condition
    let inner ← sequenceLines place (level + 1) before body
    let others ← otherwiseLines place id level (before + countedIn body) otherwise
    return .plain level s!"\x7d else if ({text}) \x7b" :: inner ++ others

/-- The lines of blocks one after the other. -/
def sequenceLines (place : MethodScene) (level before : Nat) : List Block → Except Failure (List Line)
  | [] => .ok []
  | block :: blocks => do
    let first ← blockLines place level before block
    return first ++ (← sequenceLines place level (before + block.counted) blocks)

end

/-! ## Methods of handlers -/

/-- The parameter of a method. -/
def parameterText (a : Argument) : String := s!"final {a.javaType} _{a.name}"

/-- The imports that the parameters of a method need. -/
def parameterImports (arguments : List Argument) : List String :=
  if arguments.any fun a => "HashMap".toList.isPrefixOf a.javaType.toList then ["java.util.HashMap"]
  else []

/-- The line that opens the method of a handler. -/
def signatureLine (h : Handler) : Line :=
  let text := match h.binding with
    | .startUp => s!"private void {h.binding.methodName}() \x7b"
    | .activityEvent _ => s!"public void {h.binding.methodName}() \x7b"
    | .viewEvent .. | .moreBlock _ =>
      let parameters := ", ".intercalate (h.arguments.map parameterText)
      s!"public void {h.binding.methodName}({parameters}) \x7b"
  ⟨1, text, parameterImports h.arguments⟩

/-- The lines before the signature of a method. -/
def annotationLines : Binding → List Line
  | .activityEvent _ => [.plain 1 "@Override"]
  | .startUp | .viewEvent .. | .moreBlock _ => []

/-- The lines of a method before those of its blocks. -/
def superLines : Binding → List Line
  | .activityEvent event => if event.callsSuper then [.plain 2 s!"super.{event.name}();"] else []
  | .startUp | .viewEvent .. | .moreBlock _ => []

/-- The method of a handler. -/
def methodLines (scene : Scene) (screen : String) (h : Handler) : Except Failure (List Line) := do
  let lines ← sequenceLines ⟨scene, screen, h.key⟩ 2 0 h.blocks
  return annotationLines h.binding ++ bracedBy (signatureLine h) (superLines h.binding ++ lines)

end Source

end BlockApp
