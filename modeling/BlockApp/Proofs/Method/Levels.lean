import BlockApp.Proofs.Method.Code

/-!
# Levels of lines

The level of a line follows from the braces before it: an opening brace at the end of a line puts the
next lines one level deeper, a closing one at the beginning takes the line itself out again. The lines
of a method come back to the level that they start at.

* `followed` — the level after lines whose levels follow from their braces
* `followed_sequenceLines` — the lines of a sequence end at the level that they began at
-/

namespace BlockApp.Source

/-- Whether a line opens a sequence of lines: an opening brace ends it. -/
def Line.opens (line : Line) : Bool := line.text.toList.getLast? == some '\x7b'

/-- Whether a line closes a sequence of lines: a closing brace begins it, and it is no statement. -/
def Line.closes (line : Line) : Bool :=
  line.text.toList.head? == some '\x7d' && line.text.toList.getLast? != some ';'

/-- The level before a line, by its own level. -/
def Line.start (line : Line) : Nat := if line.closes then line.level + 1 else line.level

/-- The level after a line, by its own level. -/
def Line.next (line : Line) : Nat := if line.opens then line.level + 1 else line.level

/-- The level after lines that begin at a level, `none` if a line has another level than the braces
before it say. -/
def followed : (level : Nat) → List Line → Option Nat
  | level, [] => some level
  | level, line :: lines => if line.start = level then followed line.next lines else none

variable {level number : Nat} {line : Line} {lines : List Line} {scene : Scene} {tag : String}
  {params : List Expr}

theorem followed_append (lines more : List Line) :
    followed level (lines ++ more) = (followed level lines).bind (followed · more) := by
  induction lines generalizing level with
  | nil => rfl
  | cons line lines ih =>
    rw [List.cons_append, followed, followed]
    split
    · exact ih
    · rfl

theorem followed_plain (hlevel : line.level = level) (hcloses : line.closes = false)
    (hopens : line.opens = false) : followed level (line :: lines) = followed level lines := by
  simp [followed, Line.start, Line.next, hcloses, hopens, hlevel]

theorem followed_opening (hlevel : line.level = level) (hcloses : line.closes = false)
    (hopens : line.opens = true) : followed level (line :: lines) = followed (level + 1) lines := by
  simp [followed, Line.start, Line.next, hcloses, hopens, hlevel]

theorem followed_branch (hlevel : line.level = level) (hcloses : line.closes = true)
    (hopens : line.opens = true) :
    followed (level + 1) (line :: lines) = followed (level + 1) lines := by
  simp [followed, Line.start, Line.next, hcloses, hopens, hlevel]

theorem followed_closing (level : Nat) :
    followed (level + 1) [.closing level] = some level := by
  have hcloses : (Line.closing level).closes = true :=
    show ("\x7d".toList.head? == some '\x7d' && "\x7d".toList.getLast? != some ';') = true by decide
  have hopens : (Line.closing level).opens = false :=
    show ("\x7d".toList.getLast? == some '\x7b') = false by decide
  rw [followed, Line.start, Line.next, hcloses, hopens]
  exact if_pos rfl

/-- Lines in braces come back to the level of the braces. -/
theorem followed_bracedBy (hlevel : line.level = level) (hcloses : line.closes = false)
    (hopens : line.opens = true) (h : followed (level + 1) lines = some (level + 1)) :
    followed level (line :: lines ++ [Line.closing level]) = some level := by
  rw [List.cons_append, followed_opening hlevel hcloses hopens, followed_append, h]
  exact followed_closing level

/-! ## Lines of code -/

theorem opens_of_codeOf (h : codeOf scene number tag params = .ok line.text) :
    line.opens = ((BlockTag.of tag).isBranch || (BlockTag.of tag).holdsBlocks) := by
  rw [Line.opens, codeOf_getLast? h]
  cases (BlockTag.of tag).isBranch || (BlockTag.of tag).holdsBlocks <;> decide

theorem closes_of_codeOf (h : codeOf scene number tag params = .ok line.text) :
    line.closes = (BlockTag.of tag).isBranch := by
  rw [Line.closes, codeOf_getLast? h]
  cases hopens : (BlockTag.of tag).isBranch || (BlockTag.of tag).holdsBlocks with
  | true =>
    have hhead := codeOf_head? h hopens
    rw [Bool.eq_iff_iff, ← hhead]
    simp
  | false =>
    rw [(Bool.or_eq_false_iff.1 hopens).1]
    simp

end BlockApp.Source

namespace BlockApp

open Source

variable {around : Surroundings} {place : MethodScene}

mutual

/-- The lines of a block come back to its level. -/
theorem Block.followed_lines (level before : Nat) (block : Block) {seen : String → Prop}
    {lines : List Line} (hvalid : block.Valid around seen)
    (h : blockLines place level before block = .ok lines) : followed level lines = some level := by
  match block with
  | .statement .. | .declare .. | .assign .. | .call .. =>
    have hformed := ((Block.valid_iff_of_isLeaf rfl).1 hvalid).1
    obtain ⟨line, rfl, hlevel, hcode⟩ := blockLines_of_isLeaf before rfl hformed h
    obtain ⟨hbranch, hholds⟩ := Block.of_tag_of_isLeaf rfl hformed
    refine followed_plain hlevel ?_ ?_
    · rw [closes_of_codeOf hcode, hbranch]
    · rw [opens_of_codeOf hcode, hbranch, hholds, Bool.or_false]
  | .loop id head body =>
    obtain ⟨-, hbody⟩ := hvalid
    obtain ⟨line, inner, rfl, hlevel, hcode, hinner⟩ := blockLines_loop h
    refine followed_bracedBy hlevel ?_ ?_ (followed_sequenceLines (level + 1) _ body hbody hinner)
    · rw [closes_of_codeOf hcode, head.isBranch_of_tag]
    · rw [opens_of_codeOf hcode, head.holdsBlocks_of_tag, Bool.or_true]
  | .ifThen id condition body otherwise =>
    obtain ⟨-, hbody, hotherwise⟩ := hvalid
    obtain ⟨line, inner, others, rfl, hlevel, hcode, hinner, hothers⟩ :=
      blockLines_ifThen before h
    refine followed_bracedBy hlevel (closes_of_codeOf hcode) (opens_of_codeOf hcode) ?_
    rw [followed_append, followed_sequenceLines (level + 1) before body hbody hinner]
    exact otherwise.followed_lines level _ hotherwise hothers
  termination_by structural block

/-- The lines of further branches come back to the level of the blocks in them. -/
theorem Otherwise.followed_lines (level before : Nat) (otherwise : Otherwise) {seen : String → Prop}
    {id : String} {lines : List Line} (hvalid : otherwise.Valid around seen)
    (h : otherwiseLines place id level before otherwise = .ok lines) :
    followed (level + 1) lines = some (level + 1) := by
  match otherwise with
  | .nothing =>
    cases h
    rfl
  | .elseDo body =>
    obtain ⟨line, inner, rfl, hlevel, hcode, hinner⟩ := otherwiseLines_elseDo before h
    rw [followed_branch hlevel (closes_of_codeOf hcode) (opens_of_codeOf hcode)]
    exact followed_sequenceLines (level + 1) before body hvalid hinner
  | .elseIf condition body otherwise =>
    obtain ⟨-, hbody, hotherwise⟩ := hvalid
    obtain ⟨line, inner, others, rfl, hlevel, hcode, hinner, hothers⟩ :=
      otherwiseLines_elseIf before h
    rw [followed_branch hlevel (closes_of_codeOf hcode) (opens_of_codeOf hcode), followed_append,
      followed_sequenceLines (level + 1) before body hbody hinner]
    exact otherwise.followed_lines level _ hotherwise hothers
  termination_by structural otherwise

/-- The lines of blocks one after the other come back to their level. -/
theorem followed_sequenceLines (level before : Nat) (blocks : List Block) {seen : String → Prop}
    {lines : List Line} (hvalid : ValidAll around seen blocks)
    (h : sequenceLines place level before blocks = .ok lines) :
    followed level lines = some level := by
  match blocks with
  | [] =>
    cases h
    rfl
  | block :: blocks =>
    obtain ⟨hblock, hblocks⟩ := hvalid
    obtain ⟨first, rest, rfl, hfirst, hrest⟩ := sequenceLines_cons h
    rw [followed_append, block.followed_lines level before hblock hfirst]
    exact followed_sequenceLines level _ blocks hblocks hrest
  termination_by structural blocks

end

end BlockApp
