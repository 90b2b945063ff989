import BlockApp.Logic.Block

/-!
# Blocks under construction

The blocks of a handler come as lines in the order of the program, each with its depth. `Nest` is the
point reached: the sequence that the next line at the greatest depth belongs to, and around it, from
the inside out, the blocks that are still open, each with the blocks before it.

* `closeTo` ends the sequences below a depth; `finish` ends them all.
* `add` and `enter` put the block of a line into the innermost sequence; `resume` opens the `if` block
  at the end of that sequence again for one more branch.

Termination: a sequence is closed by recursion on the list of open blocks.
-/

namespace BlockApp

/-- A branch that may follow an `if`. -/
inductive BranchHead where
  | elseIf (condition : Expr)
  | elseDo
  deriving Repr, DecidableEq

/-- A branch with its blocks. -/
def BranchHead.close : BranchHead → List Block → Otherwise
  | .elseIf condition, blocks => .elseIf condition blocks .nothing
  | .elseDo, blocks => .elseDo blocks

/-- A block without the blocks of the sequence that is still open. -/
inductive Opener where
  | loop (id : String) (head : Loop)
  | ifThen (id : String) (condition : Expr)
  | branch (id : String) (condition : Expr) (body : List Block) (before : Otherwise) (head : BranchHead)
  deriving Repr

/-- The block that an opener makes of its blocks. -/
def Opener.close : Opener → List Block → Block
  | .loop id head, blocks => .loop id head blocks
  | .ifThen id condition, blocks => .ifThen id condition blocks .nothing
  | .branch id condition body before head, blocks =>
    .ifThen id condition body (before.append (head.close blocks))

/-- An open block and the blocks before it in its own sequence. -/
structure OpenBlock where
  before : List Block
  opener : Opener
  deriving Repr

/-- The innermost open sequence and the open blocks around it, the innermost first. -/
structure Nest where
  outer : List OpenBlock
  blocks : List Block
  deriving Repr

namespace Nest

/-- Nothing read yet. -/
def empty : Nest := ⟨[], []⟩

/-- How many blocks are open. -/
def depth (nest : Nest) : Nat := nest.outer.length

/-- Closes the blocks around `blocks` until only `depth` are open. -/
def closeAround (depth : Nat) : List OpenBlock → List Block → Nest
  | [], blocks => ⟨[], blocks⟩
  | o :: outer, blocks =>
    if outer.length < depth then ⟨o :: outer, blocks⟩
    else closeAround depth outer (o.before ++ [o.opener.close blocks])

/-- Closes blocks until only `depth` are open. -/
def closeTo (nest : Nest) (depth : Nat) : Nest := closeAround depth nest.outer nest.blocks

/-- The blocks when all are closed. -/
def finish (nest : Nest) : List Block := (nest.closeTo 0).blocks

/-- Puts a block without blocks of its own at the end of the innermost sequence. -/
def add (nest : Nest) (block : Block) : Nest := ⟨nest.outer, nest.blocks ++ [block]⟩

/-- Opens a block at the end of the innermost sequence. -/
def enter (nest : Nest) (opener : Opener) : Nest := ⟨⟨nest.blocks, opener⟩ :: nest.outer, []⟩

/-- An `if` block at the end of a sequence: what is before it, and its parts. -/
structure LastIf where
  before : List Block
  id : String
  condition : Expr
  body : List Block
  otherwise : Otherwise
  deriving Repr

/-- The `if` block at the end of a sequence. -/
def lastIf? : List Block → Option LastIf
  | [] => none
  | [.ifThen id condition body otherwise] => some ⟨[], id, condition, body, otherwise⟩
  | block :: blocks => (lastIf? blocks).map fun last => { last with before := block :: last.before }

/-- Opens an `if` block at the end of the innermost sequence again, for one more branch. -/
def resume (nest : Nest) (last : LastIf) (head : BranchHead) : Nest :=
  ⟨⟨last.before, .branch last.id last.condition last.body last.otherwise head⟩ :: nest.outer, []⟩

/-- The names that blocks declare for the blocks after them. -/
def declaredBy (blocks : List Block) : List String := blocks.filterMap (·.declared?)

/-- The local variables that the next line at the greatest depth sees. -/
def locals (nest : Nest) : List String :=
  nest.outer.flatMap (declaredBy ·.before) ++ declaredBy nest.blocks

@[simp] theorem depth_empty : empty.depth = 0 := rfl

@[simp] theorem depth_add (nest : Nest) (block : Block) : (nest.add block).depth = nest.depth := rfl

@[simp] theorem depth_enter (nest : Nest) (opener : Opener) :
    (nest.enter opener).depth = nest.depth + 1 := rfl

theorem length_closeAround (depth : Nat) (outer : List OpenBlock) (blocks : List Block) :
    (closeAround depth outer blocks).outer.length = min depth outer.length := by
  induction outer generalizing blocks with
  | nil => simp [closeAround]
  | cons o outer ih =>
    simp only [closeAround]
    split
    · simp only [List.length_cons]
      omega
    · rw [ih, List.length_cons]
      omega

/-- Closing to a depth leaves that many blocks open, if there are as many. -/
theorem depth_closeTo {nest : Nest} {depth : Nat} (h : depth ≤ nest.depth) :
    (nest.closeTo depth).depth = depth := by
  have := length_closeAround depth nest.outer nest.blocks
  simp only [Nest.depth, closeTo] at *
  omega

/-- An `if` block found at the end of a sequence is there. -/
theorem eq_of_lastIf? {blocks : List Block} {last : LastIf} (h : lastIf? blocks = some last) :
    blocks = last.before ++ [.ifThen last.id last.condition last.body last.otherwise] := by
  induction blocks generalizing last with
  | nil => simp [lastIf?] at h
  | cons block blocks ih =>
    unfold lastIf? at h
    split at h
    · next heq => simp at heq
    · next heq =>
      simp only [List.cons.injEq] at heq
      obtain ⟨rfl, rfl⟩ := heq
      simp only [Option.some.injEq] at h
      subst h
      rfl
    · next heq =>
      simp only [List.cons.injEq] at heq
      obtain ⟨rfl, rfl⟩ := heq
      simp only [Option.map_eq_some_iff] at h
      obtain ⟨l, hl, rfl⟩ := h
      simp [← ih hl]

end Nest

end BlockApp
