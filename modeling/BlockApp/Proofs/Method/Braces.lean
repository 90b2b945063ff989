import BlockApp.Proofs.Method.Code

/-!
# Closing braces

The lines of a method written from its rows alone. The rows come one after the other, each with its line,
and what is kept is which depths have an open block: a row that is less deep, or as deep and no further
branch, closes a block first. The lines of a tree are those that its rows give this way.

* `withBraces` — lines with the braces that close their blocks
* `Block.writes`, `Otherwise.writes`, `writes_rowsOf` — the lines of a tree, by recursion
* `exists_coded_of_methodLines` — the lines of a method
-/

namespace BlockApp.Source

/-! ## Rows with their lines -/

/-- Whether a row ends the block that is open at a depth. -/
def endsBlock (row : Row) (depth : Nat) : Bool :=
  row.depth < depth || (row.depth == depth && !(BlockTag.of row.tag).isBranch)

/-- The depths of the blocks that are open after a row, the innermost first. -/
def openedAfter (opened : List Nat) (row : Row) : List Nat :=
  let kept := opened.dropWhile (endsBlock row)
  if (BlockTag.of row.tag).holdsBlocks then row.depth :: kept else kept

/-- The braces that close the blocks at some depths. -/
def closings (depths : List Nat) : List Line := depths.map fun depth => .closing (2 + depth)

/-- Lines with the braces that close their blocks. `opened` are the depths of the blocks that are open,
the innermost first. -/
def withBraces : (opened : List Nat) → List (Row × Line) → List Line
  | opened, [] => closings opened
  | opened, (row, line) :: rest =>
    closings (opened.takeWhile (endsBlock row)) ++ line :: withBraces (openedAfter opened row) rest

/-- How many rows are of counted loops. -/
def timesIn (rows : List Row) : Nat := rows.countP fun row => BlockTag.of row.tag == .times

/-- Whether each line is the code of its row, at the level of its depth. `before` counted loops come
before. -/
def Coded (scene : Scene) : (before : Nat) → List (Row × Line) → Prop
  | _, [] => True
  | before, (row, line) :: rest =>
    line.level = 2 + row.depth ∧
      codeOf scene (before + timesIn [row]) row.tag row.params = .ok line.text ∧
      Coded scene (before + timesIn [row]) rest

/-- Whether what comes next, if anything, ends the block that is open at a depth. -/
def EndedBy (depth : Nat) (rest : List (Row × Line)) : Prop :=
  ∀ next ∈ rest.head?, endsBlock next.1 depth = true

variable {scene : Scene} {opened : List Nat} {row : Row} {line : Line} {rest : List (Row × Line)}
  {depth before : Nat}

theorem endsBlock_eq_false_of_lt (h : depth < row.depth) : endsBlock row depth = false := by
  simp only [endsBlock, Bool.or_eq_false_iff, Bool.and_eq_false_iff, decide_eq_false_iff_not,
    beq_eq_false_iff_ne]
  exact ⟨by omega, .inl (by omega)⟩

theorem endsBlock_eq_false_of_isBranch (h : depth ≤ row.depth)
    (hbranch : (BlockTag.of row.tag).isBranch = true) : endsBlock row depth = false := by
  simp only [endsBlock, hbranch, Bool.not_true, Bool.and_false, Bool.or_false,
    decide_eq_false_iff_not]
  omega

/-- A row that ends none of the open blocks comes at once. -/
theorem withBraces_cons (h : ∀ depth ∈ opened, endsBlock row depth = false) :
    withBraces opened ((row, line) :: rest) =
      line :: withBraces (if (BlockTag.of row.tag).holdsBlocks then row.depth :: opened else opened)
        rest := by
  have htake : opened.takeWhile (endsBlock row) = [] := by
    cases opened with
    | nil => rfl
    | cons depth opened => simp [h depth List.mem_cons_self]
  have hdrop : opened.dropWhile (endsBlock row) = opened := by
    cases opened with
    | nil => rfl
    | cons depth opened => simp [h depth List.mem_cons_self]
  rw [withBraces, htake, openedAfter, hdrop]
  rfl

/-- The innermost block is closed first by what ends it. -/
theorem withBraces_of_endedBy (h : EndedBy depth rest) :
    withBraces (depth :: opened) rest = .closing (2 + depth) :: withBraces opened rest := by
  cases rest with
  | nil => rfl
  | cons next rest =>
    have hends : endsBlock next.1 depth = true := h next rfl
    simp [withBraces, openedAfter, closings, hends]

theorem timesIn_append (rows more : List Row) : timesIn (rows ++ more) = timesIn rows + timesIn more :=
  List.countP_append

theorem timesIn_cons (row : Row) (rows : List Row) :
    timesIn (row :: rows) = timesIn [row] + timesIn rows := timesIn_append [row] rows

theorem coded_append {coded more : List (Row × Line)} :
    Coded scene before (coded ++ more) ↔
      Coded scene before coded ∧ Coded scene (before + timesIn (coded.map Prod.fst)) more := by
  induction coded generalizing before with
  | nil => simp [Coded, timesIn]
  | cons entry coded ih =>
    obtain ⟨row, line⟩ := entry
    rw [List.cons_append, Coded, ih, Coded, List.map_cons, timesIn_cons row (coded.map Prod.fst),
      and_assoc, and_assoc, Nat.add_assoc]

theorem Coded.of_mem {coded : List (Row × Line)} (h : Coded scene before coded)
    (hmem : (row, line) ∈ coded) :
    line.level = 2 + row.depth ∧ ∃ number, codeOf scene number row.tag row.params = .ok line.text := by
  induction coded generalizing before with
  | nil => exact absurd hmem List.not_mem_nil
  | cons entry coded ih =>
    obtain ⟨first, firstLine⟩ := entry
    obtain ⟨hlevel, hcode, hrest⟩ := h
    rcases List.mem_cons.1 hmem with heq | hmem
    · cases heq
      exact ⟨hlevel, _, hcode⟩
    · exact ih hrest hmem

/-- Every line is that of a row or a closing brace. -/
theorem mem_withBraces {coded : List (Row × Line)} (h : (row, line) ∈ coded) :
    line ∈ withBraces opened coded := by
  induction coded generalizing opened with
  | nil => exact absurd h List.not_mem_nil
  | cons entry coded ih =>
    obtain ⟨first, firstLine⟩ := entry
    rw [withBraces, List.mem_append, List.mem_cons]
    rcases List.mem_cons.1 h with heq | h
    · cases heq
      exact .inr (.inl rfl)
    · exact .inr (.inr (ih h))

theorem closing_or_mem_of_mem_withBraces {coded : List (Row × Line)} (h : line ∈ withBraces opened coded) :
    (∃ level, line = .closing level) ∨ ∃ row, (row, line) ∈ coded := by
  have hclosings {depths : List Nat} (h : line ∈ closings depths) : ∃ level, line = .closing level := by
    obtain ⟨depth, -, rfl⟩ := List.mem_map.1 h
    exact ⟨_, rfl⟩
  induction coded generalizing opened with
  | nil => exact .inl (hclosings h)
  | cons entry coded ih =>
    obtain ⟨first, firstLine⟩ := entry
    rw [withBraces, List.mem_append, List.mem_cons] at h
    rcases h with h | rfl | h
    · exact .inl (hclosings h)
    · exact .inr ⟨first, List.mem_cons_self⟩
    · exact (ih h).imp_right fun ⟨row, hmem⟩ => ⟨row, List.mem_cons_of_mem _ hmem⟩

/-! ## Rows of a tree -/

theorem timesIn_of_isLeaf {declarations : Declarations} {block : Block} (hleaf : block.isLeaf = true)
    (hformed : block.Formed declarations) : timesIn (block.rows depth) = block.counted := by
  have hnone : BlockTag.of block.tag ≠ .times := by
    intro htimes
    have hholds := (Block.of_tag_of_isLeaf hleaf hformed).2
    rw [htimes] at hholds
    exact absurd hholds (by decide)
  rw [Block.rows_of_isLeaf hleaf, timesIn, List.countP_singleton]
  cases block with
  | statement | declare | assign | call => simp [Block.row, hnone, Block.counted]
  | loop | ifThen => simp [Block.isLeaf] at hleaf

theorem countedWith_eq (before : Nat) (head : Loop) (params : List Expr) (id : Option String) :
    countedWith before head = before + timesIn [⟨depth, head.tag, params, id⟩] := by
  cases head <;> rfl

/-! ## Lines of rows -/

/-- Whether lines are those of rows, closing braces included. It does not hang on what is around: the
blocks that are open are less deep than `depth`, and what comes next ends all that are as deep. -/
def Writes (scene : Scene) (depth before : Nat) (rows : List Row) (lines : List Line) : Prop :=
  ∃ coded, coded.map Prod.fst = rows ∧ Coded scene before coded ∧
    ∀ opened rest, (∀ other ∈ opened, other < depth) → EndedBy depth rest →
      withBraces opened (coded ++ rest) = lines ++ withBraces opened rest

variable {rows more : List Row} {lines moreLines : List Line}

theorem writes_nil : Writes scene depth before [] [] :=
  ⟨[], rfl, trivial, fun _ _ _ _ => rfl⟩

/-- What ends a block ends those in it. -/
theorem EndedBy.of_le (h : EndedBy depth rest) {deeper : Nat} (hle : depth ≤ deeper) :
    EndedBy deeper rest := by
  intro next hnext
  have hends := h next hnext
  simp only [endsBlock, Bool.or_eq_true, Bool.and_eq_true, decide_eq_true_eq, beq_iff_eq] at hends ⊢
  rcases Nat.lt_or_eq_of_le hle with hlt | rfl
  · refine .inl ?_
    rcases hends with hless | ⟨heq, -⟩ <;> omega
  · exact hends

theorem Writes.append (h : Writes scene depth before rows lines)
    (hmore : Writes scene depth (before + timesIn rows) more moreLines)
    (hhead : ∀ row ∈ more.head?, endsBlock row depth = true) :
    Writes scene depth before (rows ++ more) (lines ++ moreLines) := by
  obtain ⟨coded, rfl, hcoded, hlines⟩ := h
  obtain ⟨moreCoded, rfl, hmoreCoded, hmoreLines⟩ := hmore
  refine ⟨coded ++ moreCoded, List.map_append, coded_append.2 ⟨hcoded, hmoreCoded⟩, ?_⟩
  intro opened rest hopened hrest
  -- behind the first rows come the others, or the rest if there are none
  have hended : EndedBy depth (moreCoded ++ rest) := by
    cases moreCoded with
    | nil => exact hrest
    | cons next moreCoded =>
      intro other hother
      cases hother
      exact hhead next.1 rfl
  rw [List.append_assoc, hlines opened _ hopened hended, hmoreLines opened rest hopened hrest,
    List.append_assoc]

/-- The row of a block without others in it is one line. -/
theorem writes_leaf (hdepth : row.depth = depth) (hholds : (BlockTag.of row.tag).holdsBlocks = false)
    (hlevel : line.level = 2 + depth)
    (hcode : codeOf scene (before + timesIn [row]) row.tag row.params = .ok line.text) :
    Writes scene depth before [row] [line] := by
  subst hdepth
  refine ⟨[(row, line)], rfl, ⟨hlevel, hcode, trivial⟩, fun opened rest hopened _ => ?_⟩
  rw [List.singleton_append, withBraces_cons fun other hother =>
    endsBlock_eq_false_of_lt (hopened other hother)]
  simp [hholds]

/-- A block that holds others is its line, theirs, and a closing brace. -/
theorem Writes.block (hdepth : row.depth = depth) (hholds : (BlockTag.of row.tag).holdsBlocks = true)
    (hlevel : line.level = 2 + depth)
    (hcode : codeOf scene (before + timesIn [row]) row.tag row.params = .ok line.text)
    (h : Writes scene (depth + 1) (before + timesIn [row]) rows lines) :
    Writes scene depth before (row :: rows) (line :: lines ++ [Line.closing (2 + depth)]) := by
  subst hdepth
  obtain ⟨coded, rfl, hcoded, hlines⟩ := h
  refine ⟨(row, line) :: coded, rfl, ⟨hlevel, hcode, hcoded⟩, fun opened rest hopened hrest => ?_⟩
  rw [List.cons_append, withBraces_cons fun other hother =>
    endsBlock_eq_false_of_lt (hopened other hother), if_pos hholds]
  -- inside, the block itself is the innermost of those that are open
  have hinside : ∀ other ∈ row.depth :: opened, other < row.depth + 1 := by
    intro other hother
    rcases List.mem_cons.1 hother with rfl | hother
    · exact Nat.lt_succ_self _
    · exact Nat.lt_succ_of_lt (hopened other hother)
  rw [hlines _ rest hinside (hrest.of_le (Nat.le_succ _)), withBraces_of_endedBy hrest]
  simp

/-- A further branch is its line and those of its blocks. -/
theorem Writes.branch (hdepth : row.depth = depth) (hbranch : (BlockTag.of row.tag).isBranch = true)
    (hholds : (BlockTag.of row.tag).holdsBlocks = false) (hlevel : line.level = 2 + depth)
    (hcode : codeOf scene (before + timesIn [row]) row.tag row.params = .ok line.text)
    (h : Writes scene (depth + 1) (before + timesIn [row]) rows lines) :
    Writes scene (depth + 1) before (row :: rows) (line :: lines) := by
  subst hdepth
  obtain ⟨coded, rfl, hcoded, hlines⟩ := h
  refine ⟨(row, line) :: coded, rfl, ⟨hlevel, hcode, hcoded⟩, fun opened rest hopened hrest => ?_⟩
  rw [List.cons_append, withBraces_cons fun other hother =>
    endsBlock_eq_false_of_isBranch (Nat.le_of_lt_succ (hopened other hother)) hbranch]
  simp only [hholds, Bool.false_eq_true, if_false]
  rw [hlines opened rest hopened hrest, List.cons_append]

end BlockApp.Source

namespace BlockApp

open Source

variable {around : Surroundings} {depth : Nat}

mutual

/-- The counted loops of a block are its rows that say so. -/
theorem Block.timesIn_rows (depth : Nat) (block : Block) {seen : String → Prop}
    (h : block.Valid around seen) :
    timesIn (block.rows depth) = block.counted := by
  match block with
  | .statement .. | .declare .. | .assign .. | .call .. =>
    exact timesIn_of_isLeaf rfl ((Block.valid_iff_of_isLeaf rfl).1 h).1
  | .loop id head body =>
    obtain ⟨-, hbody⟩ := h
    rw [Block.rows, timesIn_cons, timesIn_rowsOf (depth + 1) body hbody]
    cases head <;>
      simp [timesIn, Block.row, Block.tag, Loop.tag, BlockTag.of, Block.counted, Nat.add_comm]
  | .ifThen id condition body otherwise =>
    obtain ⟨-, hbody, hotherwise⟩ := h
    rw [Block.rows, timesIn_cons, timesIn_append, timesIn_rowsOf (depth + 1) body hbody,
      otherwise.timesIn_rows depth hotherwise, Block.counted]
    simp [timesIn, Block.row, Block.tag, BlockTag.of]
  termination_by structural block

theorem Otherwise.timesIn_rows (depth : Nat) (otherwise : Otherwise) {seen : String → Prop}
    (h : otherwise.Valid around seen) :
    timesIn (otherwise.rows depth) = otherwise.counted := by
  match otherwise with
  | .nothing => rfl
  | .elseDo body =>
    rw [Otherwise.rows, timesIn_cons, timesIn_rowsOf (depth + 1) body h, Otherwise.counted]
    simp [timesIn, Branch.row, BlockTag.of]
  | .elseIf condition body otherwise =>
    obtain ⟨-, hbody, hotherwise⟩ := h
    rw [Otherwise.rows, timesIn_cons, timesIn_append, timesIn_rowsOf (depth + 1) body hbody,
      otherwise.timesIn_rows depth hotherwise, Otherwise.counted]
    simp [timesIn, Branch.row, BlockTag.of]
  termination_by structural otherwise

theorem timesIn_rowsOf (depth : Nat) (blocks : List Block) {seen : String → Prop}
    (h : ValidAll around seen blocks) : timesIn (rowsOf depth blocks) = countedIn blocks := by
  match blocks with
  | [] => rfl
  | block :: blocks =>
    obtain ⟨hblock, hblocks⟩ := h
    have hfirst := block.timesIn_rows depth hblock
    have hrest := timesIn_rowsOf depth blocks hblocks
    rw [rowsOf_cons, timesIn_append, hfirst, hrest, countedIn]
  termination_by structural blocks

end

/-- The rows of a block begin with its own. -/
theorem Block.rows_head (block : Block) (depth : Nat) :
    ∃ rest, block.rows depth = block.row depth :: rest := by
  cases block with
  | statement | declare | assign | call => exact ⟨[], rfl⟩
  | loop | ifThen => exact ⟨_, rfl⟩

theorem Block.isBranch_of_tag {block : Block} {seen : String → Prop} (h : block.Valid around seen) :
    (BlockTag.of block.tag).isBranch = false := by
  cases block with
  | statement | declare | assign | call =>
    exact (Block.of_tag_of_isLeaf rfl ((Block.valid_iff_of_isLeaf rfl).1 h).1).1
  | loop id head body => exact head.isBranch_of_tag
  | ifThen => rfl

/-- A block begins with a row that ends all that are as deep. -/
theorem endsBlock_of_head? {blocks : List Block} {seen : String → Prop}
    (h : ValidAll around seen blocks) :
    ∀ row ∈ (rowsOf depth blocks).head?, endsBlock row depth = true := by
  cases blocks with
  | nil => simp
  | cons block blocks =>
    obtain ⟨rest, hrows⟩ := block.rows_head depth
    intro row hrow
    rw [rowsOf_cons, hrows] at hrow
    cases hrow
    simp [endsBlock, Block.row, Block.isBranch_of_tag h.1]

/-- A further branch ends the blocks in the one before it. -/
theorem Otherwise.endsBlock_of_head? (otherwise : Otherwise) :
    ∀ row ∈ (otherwise.rows depth).head?, endsBlock row (depth + 1) = true := by
  cases otherwise with
  | nothing => simp [Otherwise.rows]
  | elseDo | elseIf =>
    intro row hrow
    cases hrow
    simp [endsBlock, Branch.row]

/-! ## Lines of a tree -/

section

variable {place : MethodScene}

mutual

/-- The lines of a block are those of its rows. -/
theorem Block.writes (depth before : Nat) (block : Block) {seen : String → Prop} {lines : List Line}
    (hvalid : block.Valid around seen) (h : blockLines place (2 + depth) before block = .ok lines) :
    Writes place.scene depth before (block.rows depth) lines := by
  match block with
  | .statement .. | .declare .. | .assign .. | .call .. =>
    have hformed := ((Block.valid_iff_of_isLeaf rfl).1 hvalid).1
    obtain ⟨line, rfl, hlevel, hcode⟩ := blockLines_of_isLeaf _ rfl hformed h
    rw [Block.rows_of_isLeaf rfl]
    exact writes_leaf rfl (Block.of_tag_of_isLeaf rfl hformed).2 hlevel hcode
  | .loop id head body =>
    obtain ⟨-, hbody⟩ := hvalid
    obtain ⟨line, inner, rfl, hlevel, hcode, hinner⟩ := blockLines_loop h
    rw [countedWith_eq before head head.params (some id)] at hcode hinner
    exact Writes.block rfl head.holdsBlocks_of_tag hlevel hcode
      (writes_rowsOf (depth + 1) _ body hbody hinner)
  | .ifThen id condition body otherwise =>
    obtain ⟨-, hbody, hotherwise⟩ := hvalid
    obtain ⟨line, inner, others, rfl, hlevel, hcode, hinner, hothers⟩ := blockLines_ifThen _ h
    have hfirst := writes_rowsOf (depth + 1) before body hbody hinner
    have hrest := otherwise.writes depth (before + countedIn body) hotherwise hothers
    -- the tree counts its loops, and the rows count theirs
    rw [← timesIn_rowsOf (depth + 1) body hbody] at hrest
    exact Writes.block rfl rfl hlevel hcode (hfirst.append hrest otherwise.endsBlock_of_head?)
  termination_by structural block

/-- The lines of further branches are those of their rows. -/
theorem Otherwise.writes (depth before : Nat) (otherwise : Otherwise) {seen : String → Prop}
    {id : String} {lines : List Line} (hvalid : otherwise.Valid around seen)
    (h : otherwiseLines place id (2 + depth) before otherwise = .ok lines) :
    Writes place.scene (depth + 1) before (otherwise.rows depth) lines := by
  match otherwise with
  | .nothing =>
    cases h
    exact writes_nil
  | .elseDo body =>
    obtain ⟨line, inner, rfl, hlevel, hcode, hinner⟩ := otherwiseLines_elseDo _ h
    exact Writes.branch rfl rfl rfl hlevel hcode (writes_rowsOf (depth + 1) before body hvalid hinner)
  | .elseIf condition body otherwise =>
    obtain ⟨-, hbody, hotherwise⟩ := hvalid
    obtain ⟨line, inner, others, rfl, hlevel, hcode, hinner, hothers⟩ := otherwiseLines_elseIf _ h
    have hfirst := writes_rowsOf (depth + 1) before body hbody hinner
    have hrest := otherwise.writes depth (before + countedIn body) hotherwise hothers
    rw [← timesIn_rowsOf (depth + 1) body hbody] at hrest
    exact Writes.branch rfl rfl rfl hlevel hcode (hfirst.append hrest otherwise.endsBlock_of_head?)
  termination_by structural otherwise

/-- The lines of blocks one after the other are those of their rows. -/
theorem writes_rowsOf (depth before : Nat) (blocks : List Block) {seen : String → Prop}
    {lines : List Line} (hvalid : ValidAll around seen blocks)
    (h : sequenceLines place (2 + depth) before blocks = .ok lines) :
    Writes place.scene depth before (rowsOf depth blocks) lines := by
  match blocks with
  | [] =>
    cases h
    exact writes_nil
  | block :: blocks =>
    obtain ⟨hblock, hblocks⟩ := hvalid
    obtain ⟨first, rest, rfl, hfirst, hrest⟩ := sequenceLines_cons h
    rw [← block.timesIn_rows depth hblock] at hrest
    exact (block.writes depth before hblock hfirst).append
      (writes_rowsOf depth _ blocks hblocks hrest) (endsBlock_of_head? hblocks)
  termination_by structural blocks

end

/-- The method of a handler is its rows, each with its line, with braces between them. -/
theorem exists_coded_of_methodLines {scene : Scene} {h : Handler} {screen : String} {lines : List Line}
    (hvalid : ValidAll around (fun _ => False) h.blocks)
    (hlines : methodLines scene screen h = .ok lines) :
    ∃ coded, coded.map Prod.fst = rowsOf 0 h.blocks ∧ Coded scene 0 coded ∧
      lines = annotationLines h.binding ++
        bracedBy (signatureLine h) (superLines h.binding ++ withBraces [] coded) := by
  simp only [methodLines, Except.bind_eq_ok_iff, Except.pure_eq_ok_iff] at hlines
  obtain ⟨body, hbody, rfl⟩ := hlines
  obtain ⟨coded, hrows, hcoded, hbraces⟩ := writes_rowsOf 0 0 h.blocks hvalid hbody
  -- no block is open around the body, and nothing comes behind it
  have hall := hbraces [] [] (by simp) (fun _ h => absurd h (by simp))
  rw [List.append_nil, withBraces, closings, List.map_nil, List.append_nil] at hall
  exact ⟨coded, hrows, hcoded, by rw [hall]⟩

end

end BlockApp
