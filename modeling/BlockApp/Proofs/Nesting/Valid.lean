import BlockApp.Proofs.Nesting.Rows

/-!
# Blocks that are allowed

What the blocks of a handler may be, said of the tree alone: the form that each kind of block asks for,
and that every reference points to something. A variable is seen from its declaration to the end of the
sequence, and in the blocks inside of those after it.

* `ValidAll` — a sequence of blocks is allowed, given the local variables seen where it begins
* `validAll_append` — what a sequence declares is seen by what follows it
* `Row.Allowed`, `allowed_of_mem_rowsOf` — what is so of every row
-/

namespace BlockApp

/-! ## References -/

/-- Whether a reference points to something, given the local variables that are seen. -/
def Surroundings.Points (around : Surroundings) (seen : String → Prop) : Reference → Prop
  | (.variable, name) => name ∈ around.declarations.names ∨ seen name
  | (.argument, name) => name ∈ around.arguments
  | (.view, _) => True

/-- Whether all references in parameters point to something. -/
def Surroundings.Resolved (around : Surroundings) (seen : String → Prop) (params : List Expr) : Prop :=
  ∀ reference ∈ Expr.referencesOf params, around.Points seen reference

@[simp] theorem Surroundings.resolved_nil (around : Surroundings) {seen : String → Prop} :
    around.Resolved seen [] :=
  fun _ h => absurd h List.not_mem_nil

/-! ## Forms -/

/-- Whether a block holds no others. -/
def Block.isLeaf : Block → Bool
  | .statement .. | .declare .. | .assign .. | .call .. => true
  | .loop .. | .ifThen .. => false

/-- Whether a block has the form that its tag asks for, references apart. -/
def Block.Formed (declarations : Declarations) : Block → Prop
  | .statement _ tag _ => BlockTag.of tag = .statement
  | .declare _ _ name _ => Text.isIdentifier name.toList = true
  | .call _ function args =>
    ∃ declared, declarations.moreBlock? function = some declared ∧
      args.length = declared.parameters.length
  | .assign .. | .loop .. | .ifThen .. => True

/-- The local variables seen after a block. -/
def seenAfter (seen : String → Prop) (block : Block) (name : String) : Prop :=
  seen name ∨ block.declared? = some name

mutual

/-- Whether a block is allowed where the variables `seen` are seen. -/
def Block.Valid (around : Surroundings) (seen : String → Prop) : Block → Prop
  | .statement id tag params =>
    Block.Formed around.declarations (.statement id tag params) ∧ around.Resolved seen params
  | .declare id type name value =>
    Block.Formed around.declarations (.declare id type name value) ∧ around.Resolved seen value.toList
  | .assign _ target change => around.Resolved seen (.reference .variable target :: change.params)
  | .call id function args =>
    Block.Formed around.declarations (.call id function args) ∧ around.Resolved seen args
  | .loop _ head body => around.Resolved seen head.params ∧ ValidAll around seen body
  | .ifThen _ condition body otherwise =>
    around.Resolved seen [condition] ∧ ValidAll around seen body ∧ otherwise.Valid around seen

/-- Whether further branches are allowed. None of them sees what another declares. -/
def Otherwise.Valid (around : Surroundings) (seen : String → Prop) : Otherwise → Prop
  | .nothing => True
  | .elseDo body => ValidAll around seen body
  | .elseIf condition body otherwise =>
    around.Resolved seen [condition] ∧ ValidAll around seen body ∧ otherwise.Valid around seen

/-- Whether blocks are allowed one after the other. -/
def ValidAll (around : Surroundings) (seen : String → Prop) : List Block → Prop
  | [] => True
  | block :: blocks => block.Valid around seen ∧ ValidAll around (seenAfter seen block) blocks

end

variable {around : Surroundings} {seen : String → Prop}

/-- A block without others in it is allowed if its form is right and its references point to
something. -/
theorem Block.valid_iff_of_isLeaf {block : Block} (h : block.isLeaf = true) :
    block.Valid around seen ↔
      block.Formed around.declarations ∧ around.Resolved seen block.params := by
  cases block with
  | statement => simp [Valid, params]
  | declare => simp [Valid, params, Surroundings.Resolved, Expr.referencesOf, Expr.references]
  | assign => simp [Valid, Formed, params]
  | call => simp [Valid, params, Surroundings.Resolved, Expr.referencesOf, Expr.references]
  | loop | ifThen => simp [isLeaf] at h

/-! ## Sequences -/

/-- The local variables seen after blocks. -/
def seenAfterAll (seen : String → Prop) (blocks : List Block) (name : String) : Prop :=
  seen name ∨ name ∈ Nest.declaredBy blocks

@[simp] theorem seenAfterAll_nil : seenAfterAll seen [] = seen := by
  funext name
  simp [seenAfterAll, Nest.declaredBy]

theorem seenAfterAll_cons (block : Block) (blocks : List Block) :
    seenAfterAll seen (block :: blocks) = seenAfterAll (seenAfter seen block) blocks := by
  funext name
  cases h : block.declared? <;>
    simp [seenAfterAll, seenAfter, Nest.declaredBy, h, or_assoc, eq_comm]

theorem seenAfterAll_append (blocks more : List Block) :
    seenAfterAll seen (blocks ++ more) = seenAfterAll (seenAfterAll seen blocks) more := by
  funext name
  simp [seenAfterAll, Nest.declaredBy, or_assoc]

/-- **What a sequence declares is seen by what follows it.** -/
theorem validAll_append (blocks more : List Block) :
    ValidAll around seen (blocks ++ more) ↔
      ValidAll around seen blocks ∧ ValidAll around (seenAfterAll seen blocks) more := by
  induction blocks generalizing seen with
  | nil => simp [ValidAll]
  | cons block blocks ih =>
    rw [List.cons_append, ValidAll, ValidAll, ih, seenAfterAll_cons, and_assoc]

@[simp] theorem validAll_singleton (block : Block) :
    ValidAll around seen [block] ↔ block.Valid around seen := by
  simp [ValidAll]

/-- Further branches are allowed together if each part is. -/
theorem Otherwise.valid_append {otherwise : Otherwise} (h : otherwise.isOpen = true)
    (more : Otherwise) :
    (otherwise.append more).Valid around seen ↔
      otherwise.Valid around seen ∧ more.Valid around seen := by
  match otherwise with
  | .nothing => simp [append, Valid]
  | .elseDo body => simp [isOpen] at h
  | .elseIf condition body otherwise =>
    have hopen : otherwise.isOpen = true := by simpa [isOpen] using h
    simp only [append, Valid, valid_append hopen more, and_assoc]
  termination_by structural otherwise

/-! ## Rows -/

/-- Whether a row is that of a block or of a further branch, allowed where `seen` are seen. What is in the
block or in the branch is not asked for. -/
inductive Row.Allowed (around : Surroundings) (seen : String → Prop) : Row → Prop where
  | block (depth : Nat) {block : Block} (hformed : block.Formed around.declarations)
      (hresolved : around.Resolved seen block.params) : Row.Allowed around seen (block.row depth)
  | branch (depth : Nat) {branch : Branch} (htag : branch.tag = "else" ∨ branch.tag = "elseIf")
      (hresolved : around.Resolved seen branch.params) : Row.Allowed around seen (branch.row depth)

section

variable {row : Row}

mutual

theorem Block.allowed_of_mem_rows (depth : Nat) (block : Block) {seen : String → Prop}
    (h : block.Valid around seen) (hrow : row ∈ block.rows depth) : ∃ seen, row.Allowed around seen := by
  match block with
  | .statement .. | .declare .. | .assign .. | .call .. =>
    obtain ⟨hformed, hresolved⟩ := (Block.valid_iff_of_isLeaf rfl).1 h
    obtain rfl := List.mem_singleton.1 hrow
    exact ⟨seen, .block depth hformed hresolved⟩
  | .loop id head body =>
    obtain ⟨hresolved, hbody⟩ := h
    rcases List.mem_cons.1 hrow with rfl | hrow
    · exact ⟨seen, .block depth trivial hresolved⟩
    · exact allowed_of_mem_rowsOf (depth + 1) body hbody hrow
  | .ifThen id condition body otherwise =>
    obtain ⟨hresolved, hbody, hotherwise⟩ := h
    rcases List.mem_cons.1 hrow with rfl | hrow
    · exact ⟨seen, .block depth trivial hresolved⟩
    rcases List.mem_append.1 hrow with hrow | hrow
    · exact allowed_of_mem_rowsOf (depth + 1) body hbody hrow
    · exact otherwise.allowed_of_mem_rows depth hotherwise hrow
  termination_by structural block

theorem Otherwise.allowed_of_mem_rows (depth : Nat) (otherwise : Otherwise) {seen : String → Prop}
    (h : otherwise.Valid around seen) (hrow : row ∈ otherwise.rows depth) :
    ∃ seen, row.Allowed around seen := by
  match otherwise with
  | .nothing => exact absurd hrow List.not_mem_nil
  | .elseDo body =>
    rcases List.mem_cons.1 hrow with rfl | hrow
    · exact ⟨seen, .branch depth (.inl rfl) around.resolved_nil⟩
    · exact allowed_of_mem_rowsOf (depth + 1) body h hrow
  | .elseIf condition body otherwise =>
    obtain ⟨hresolved, hbody, hotherwise⟩ := h
    rcases List.mem_cons.1 hrow with rfl | hrow
    · exact ⟨seen, .branch depth (.inr rfl) hresolved⟩
    rcases List.mem_append.1 hrow with hrow | hrow
    · exact allowed_of_mem_rowsOf (depth + 1) body hbody hrow
    · exact otherwise.allowed_of_mem_rows depth hotherwise hrow
  termination_by structural otherwise

/-- **The rows of blocks that are allowed are allowed where they stand.** -/
theorem allowed_of_mem_rowsOf (depth : Nat) (blocks : List Block) {seen : String → Prop}
    (h : ValidAll around seen blocks) (hrow : row ∈ rowsOf depth blocks) :
    ∃ seen, row.Allowed around seen := by
  match blocks with
  | [] => exact absurd hrow List.not_mem_nil
  | block :: blocks =>
    obtain ⟨hblock, hblocks⟩ := h
    rcases List.mem_append.1 hrow with hrow | hrow
    · exact block.allowed_of_mem_rows depth hblock hrow
    · exact allowed_of_mem_rowsOf depth blocks hblocks hrow
  termination_by structural blocks

end

theorem Row.Allowed.resolved (h : row.Allowed around seen) : around.Resolved seen row.params := by
  cases h with
  | block depth hformed hresolved => exact hresolved
  | branch depth htag hresolved => exact hresolved

end

end BlockApp
