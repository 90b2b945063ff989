import BlockApp.Failure.Basic
import BlockApp.Logic.Expr
import BlockApp.Project.Resource
import BlockApp.Source.Literal
import BlockApp.Source.Table
import BlockApp.View.Index

/-!
# Expressions in code

The text of a parameter. A view must be in the layout of the screen, an image among the resources, and a
call must be known and have as many arguments as its template takes.

* `textOf` and `textsOf` are one recursion over the expression; the texts of a list are as many as
  its expressions, so the template of a call can be filled.
-/

namespace BlockApp.Source

/-- What the code of a screen may refer to. -/
structure Scene where
  layout : String
  views : ViewIndex
  resources : ResourceSection
  deriving Repr, DecidableEq

/-- Why a block has no code. -/
inductive CodeFault where
  | malformed (problem : LogicProblem)
  | unknownTag (tag : String)
  deriving Repr, DecidableEq

/-- The failure for a fault in a block. -/
def CodeFault.failure (screen handler blockId : String) : CodeFault → Failure
  | .malformed problem => .logicTree ⟨screen, handler, blockId, none⟩ problem
  | .unknownTag tag => .block tag screen handler (.tag blockId)

/-- The text of a literal. -/
def literalText (scene : Scene) (type : LiteralType) (value : String) : Except CodeFault String :=
  match type with
  | .string => .ok (literal value)
  | .color => .ok ("0x" ++ value)
  | .resource =>
    if scene.resources.has .image value then .ok ("R.drawable." ++ value)
    else .error (.malformed (.unresolvedImage value))
  | .number | .boolean | .enum => .ok value

/-- The text of a reference. -/
def referenceText (scene : Scene) (kind : ReferenceKind) (name : String) : Except CodeFault String :=
  match kind with
  | .variable => .ok name
  | .argument => .ok ("_" ++ name)
  | .view =>
    if scene.views.has name then .ok name
    else .error (.malformed (.viewNotInLayout name scene.layout))

/-- The fault of a wrong number of parameters. -/
def wrongArity {α : Type} (tag : String) (template : Template) (params : List Expr) :
    Except CodeFault α :=
  .error (.malformed (.parameterCount tag template.arity params.length))

mutual

/-- The text of an expression. -/
def textOf (scene : Scene) : Expr → Except CodeFault String
  | .literal type value => literalText scene type value
  | .reference kind name => referenceText scene kind name
  | .call tag args =>
    match calls.lookup tag with
    | none => .error (.unknownTag tag)
    | some template =>
      if h : args.length = template.arity then do
        let ⟨texts, ht⟩ ← textsOf scene args
        return template.fill texts (Template.length_texts ht h)
      else wrongArity tag template args

/-- The texts of expressions. -/
def textsOf (scene : Scene) :
    (es : List Expr) → Except CodeFault { texts : List String // texts.length = es.length }
  | [] => .ok ⟨[], rfl⟩
  | e :: es => do
    let text ← textOf scene e
    let ⟨texts, h⟩ ← textsOf scene es
    return ⟨text :: texts, by simp [h]⟩

end

end BlockApp.Source
