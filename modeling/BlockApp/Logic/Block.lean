import BlockApp.Logic.Declaration
import BlockApp.Logic.Expr

/-!
# Blocks

The blocks of a handler as a tree. A block stands for one statement, or holds sequences of blocks of its
own: a loop holds one, and an `if` block one for each of its branches. That only `if` blocks have
further branches, that at most one of them is an `else`, and that it comes last, is in the type.

* `Block.tag` and `Block.params` give a block as it is written in a record.
* `Otherwise.append` puts another branch at the end of an `if` block that has no `else` yet.
-/

namespace BlockApp

/-- What a loop repeats. -/
inductive Loop where
  | times (count : Expr)
  | forever
  | whileTrue (condition : Expr)
  deriving Repr, DecidableEq

/-- How an assignment changes its variable. -/
inductive Change where
  | set (value : Expr)
  | increase
  | decrease
  deriving Repr, DecidableEq

mutual

/-- A block. -/
inductive Block where
  | statement (id tag : String) (params : List Expr)
  | declare (id : String) (type : ValueType) (name : String) (value : Option Expr)
  | assign (id target : String) (change : Change)
  | call (id function : String) (args : List Expr)
  | loop (id : String) (head : Loop) (body : List Block)
  | ifThen (id : String) (condition : Expr) (body : List Block) (otherwise : Otherwise)
  deriving Repr

/-- What follows the first branch of an `if` block. -/
inductive Otherwise where
  | nothing
  | elseDo (body : List Block)
  | elseIf (condition : Expr) (body : List Block) (otherwise : Otherwise)
  deriving Repr

end

instance : Inhabited Block := ⟨.statement "" "" []⟩

/-- A branch as it is written: its tag and parameters, and the blocks in it. -/
structure Branch where
  tag : String
  params : List Expr
  blocks : List Block
  deriving Repr

namespace Loop

/-- The tag of a loop. -/
def tag : Loop → String
  | .times _ => "repeat"
  | .forever => "forever"
  | .whileTrue _ => "while"

/-- The parameters of a loop. -/
def params : Loop → List Expr
  | .times count => [count]
  | .forever => []
  | .whileTrue condition => [condition]

end Loop

namespace Change

/-- The tag of an assignment. -/
def tag : Change → String
  | .set _ => "setVar"
  | .increase => "increaseInt"
  | .decrease => "decreaseInt"

/-- The parameters of an assignment after its variable. -/
def params : Change → List Expr
  | .set value => [value]
  | .increase | .decrease => []

end Change

namespace Otherwise

/-- Whether another branch may follow. -/
def isOpen : Otherwise → Bool
  | .nothing => true
  | .elseDo _ => false
  | .elseIf _ _ otherwise => otherwise.isOpen

/-- The branches with more of them at the end. An `else` stays the last one. -/
def append : Otherwise → Otherwise → Otherwise
  | .nothing, more => more
  | .elseDo body, _ => .elseDo body
  | .elseIf condition body otherwise, more => .elseIf condition body (otherwise.append more)

/-- The branches as they are written. -/
def branches : Otherwise → List Branch
  | .nothing => []
  | .elseDo body => [⟨"else", [], body⟩]
  | .elseIf condition body otherwise => ⟨"elseIf", [condition], body⟩ :: otherwise.branches

/-- More branches come after those that are there. -/
theorem branches_append {otherwise : Otherwise} (h : otherwise.isOpen = true) (more : Otherwise) :
    (otherwise.append more).branches = otherwise.branches ++ more.branches := by
  cases otherwise with
  | nothing => rfl
  | elseDo body => simp [isOpen] at h
  | elseIf condition body otherwise =>
    simp only [append, branches, List.cons_append, List.cons.injEq, true_and]
    exact branches_append (by simpa [isOpen] using h) more
  termination_by structural otherwise

end Otherwise

namespace Block

/-- The tag of a local variable's declaration. -/
def declareTag : String := "localVar"

/-- The tag of a call of a more block. -/
def callTag : String := "definedFunc"

/-- The identifier of a block. -/
def id : Block → String
  | .statement id .. | .declare id .. | .assign id .. | .call id .. | .loop id .. | .ifThen id .. => id

/-- The tag of a block. -/
def tag : Block → String
  | .statement _ tag _ => tag
  | .declare .. => declareTag
  | .assign _ _ change => change.tag
  | .call .. => callTag
  | .loop _ head _ => head.tag
  | .ifThen .. => "if"

/-- The parameters of a block. -/
def params : Block → List Expr
  | .statement _ _ params => params
  | .declare _ type name value => .literal .enum type.name :: .literal .enum name :: value.toList
  | .assign _ target change => .reference .variable target :: change.params
  | .call _ function args => .literal .enum function :: args
  | .loop _ head _ => head.params
  | .ifThen _ condition _ _ => [condition]

/-- The branches of a block that holds other blocks. -/
def branches : Block → List Branch
  | .loop _ head body => [⟨head.tag, head.params, body⟩]
  | .ifThen _ condition body otherwise => ⟨"if", [condition], body⟩ :: otherwise.branches
  | .statement .. | .declare .. | .assign .. | .call .. => []

/-- The variable that a block declares for the blocks after it. -/
def declared? : Block → Option String
  | .declare _ _ name _ => some name
  | .statement .. | .assign .. | .call .. | .loop .. | .ifThen .. => none

end Block

end BlockApp
