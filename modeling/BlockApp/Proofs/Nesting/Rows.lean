import BlockApp.Logic.Tree

/-!
# Rows

The blocks of a handler written out again: a row for every block and for every further branch of an
`if` block, each with its depth, parents before what they hold.

* `Block.rows_branches` — the rows of a block that holds others are those of its branches, one after the
  other
* `BlockTag.eq_of_text?` — a role other than a statement's has one tag
-/

namespace BlockApp

/-- A line of a handler without its number. A further branch of an `if` block is no block of its own, so
its row names none. -/
structure Row where
  depth : Nat
  tag : String
  params : List Expr
  id : Option String
  deriving Repr, DecidableEq

/-! ## Roles of tags -/

namespace BlockTag

/-- Whether a tag is of a further branch. -/
def isBranch : BlockTag → Bool
  | .elseIf | .elseDo => true
  | .ifThen | .times | .forever | .whileTrue | .declare | .set | .increase | .decrease | .call
  | .statement => false

/-- Whether a tag is of a block that holds others. -/
def holdsBlocks : BlockTag → Bool
  | .ifThen | .times | .forever | .whileTrue => true
  | .elseIf | .elseDo | .declare | .set | .increase | .decrease | .call | .statement => false

/-- The tag of a role. Statements have all the others. -/
def text? : BlockTag → Option String
  | .elseIf => some "elseIf"
  | .elseDo => some "else"
  | .ifThen => some "if"
  | .times => some "repeat"
  | .forever => some "forever"
  | .whileTrue => some "while"
  | .declare => some Block.declareTag
  | .set => some "setVar"
  | .increase => some "increaseInt"
  | .decrease => some "decreaseInt"
  | .call => some Block.callTag
  | .statement => none

theorem text?_of (tag : String) : (of tag).text? = none ∨ (of tag).text? = some tag := by
  fun_cases of tag
  case case12 => exact .inl rfl
  all_goals exact .inr (congrArg some (Eq.symm ‹tag = _›))

/-- A role other than a statement's has one tag. -/
theorem eq_of_text? {t : BlockTag} {tag name : String} (h : of tag = t) (ht : t.text? = some name) :
    tag = name := by
  rcases text?_of tag with hn | hs
  · rw [h, ht] at hn
    exact absurd hn (by simp)
  · rw [h, ht] at hs
    exact (Option.some.inj hs).symm

end BlockTag

@[simp] theorem Loop.holdsBlocks_of_tag (head : Loop) : (BlockTag.of head.tag).holdsBlocks = true := by
  cases head <;> rfl

@[simp] theorem Loop.isBranch_of_tag (head : Loop) : (BlockTag.of head.tag).isBranch = false := by
  cases head <;> rfl

/-! ## Rows of records -/

/-- What a record says. The identifier of a branch's record is in no block. -/
def BlockRecord.row (record : BlockRecord) : Row :=
  ⟨record.depth, record.tag, record.params,
    if (BlockTag.of record.tag).isBranch then none else some record.blockId⟩

/-! ## Rows of blocks -/

/-- The row of a block without those of the blocks in it. -/
def Block.row (depth : Nat) (block : Block) : Row := ⟨depth, block.tag, block.params, some block.id⟩

/-- The row of a branch without those of its blocks. -/
def Branch.row (depth : Nat) (branch : Branch) : Row := ⟨depth, branch.tag, branch.params, none⟩

mutual

/-- The rows of a block. -/
def Block.rows (depth : Nat) : Block → List Row
  | .statement id tag params => [Block.row depth (.statement id tag params)]
  | .declare id type name value => [Block.row depth (.declare id type name value)]
  | .assign id target change => [Block.row depth (.assign id target change)]
  | .call id function args => [Block.row depth (.call id function args)]
  | .loop id head body => Block.row depth (.loop id head body) :: rowsOf (depth + 1) body
  | .ifThen id condition body otherwise =>
    Block.row depth (.ifThen id condition body otherwise) ::
      (rowsOf (depth + 1) body ++ otherwise.rows depth)

/-- The rows of further branches. -/
def Otherwise.rows (depth : Nat) : Otherwise → List Row
  | .nothing => []
  | .elseDo body => Branch.row depth ⟨"else", [], body⟩ :: rowsOf (depth + 1) body
  | .elseIf condition body otherwise =>
    Branch.row depth ⟨"elseIf", [condition], body⟩ ::
      (rowsOf (depth + 1) body ++ otherwise.rows depth)

/-- The rows of blocks one after the other. -/
def rowsOf (depth : Nat) : List Block → List Row
  | [] => []
  | block :: blocks => block.rows depth ++ rowsOf depth blocks

end

@[simp] theorem rowsOf_nil (depth : Nat) : rowsOf depth [] = [] := rfl

@[simp] theorem rowsOf_cons (depth : Nat) (block : Block) (blocks : List Block) :
    rowsOf depth (block :: blocks) = block.rows depth ++ rowsOf depth blocks := rfl

@[simp] theorem rowsOf_append (depth : Nat) (blocks more : List Block) :
    rowsOf depth (blocks ++ more) = rowsOf depth blocks ++ rowsOf depth more := by
  induction blocks with
  | nil => rfl
  | cons block blocks ih => rw [List.cons_append, rowsOf_cons, ih, rowsOf_cons, List.append_assoc]

/-- The rows of branches are those of each branch, one after the other. -/
theorem Otherwise.rows_eq_flatMap (depth : Nat) (otherwise : Otherwise) :
    otherwise.rows depth =
      otherwise.branches.flatMap fun branch => branch.row depth :: rowsOf (depth + 1) branch.blocks := by
  match otherwise with
  | .nothing => rfl
  | .elseDo body => simp [Otherwise.rows, branches]
  | .elseIf condition body otherwise =>
    rw [Otherwise.rows, branches, List.flatMap_cons, rows_eq_flatMap depth otherwise, List.cons_append]
  termination_by structural otherwise

/-- The rows of a block that holds others: each branch and what is in it. The first of them also names
the block. -/
theorem Block.rows_branches (depth : Nat) (block : Block) (h : block.branches ≠ []) :
    (block.rows depth).map (fun row => (row.depth, row.tag, row.params)) =
      (block.branches.flatMap fun branch => branch.row depth :: rowsOf (depth + 1) branch.blocks).map
        fun row => (row.depth, row.tag, row.params) := by
  cases block with
  | loop id head body => simp [rows, row, branches, Branch.row, tag, params]
  | ifThen id condition body otherwise =>
    simp [rows, row, branches, Branch.row, tag, params, Otherwise.rows_eq_flatMap]
  | statement | declare | assign | call => exact absurd rfl h

theorem Otherwise.rows_append {otherwise : Otherwise} (h : otherwise.isOpen = true) (depth : Nat)
    (more : Otherwise) :
    (otherwise.append more).rows depth = otherwise.rows depth ++ more.rows depth := by
  simp only [rows_eq_flatMap, branches_append h, List.flatMap_append]

end BlockApp
