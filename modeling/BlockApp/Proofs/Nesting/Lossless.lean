import BlockApp.Proofs.Nesting.Step

/-!
# Reading loses nothing

The nest that records are read into has rows too: those of the blocks that are closed, and of what is
open one row for each head. Closing a block changes none of them, and a record adds its own row at the
end. So the rows of the finished blocks are those of the records.

* `Nest.Valid` — the blocks of a nest are allowed, those that are still open included
* `closeTo_rows`, `Placed.rows` — the two steps of reading a record
* `Building.run_rows` — the run over all records
-/

namespace BlockApp

variable {around : Surroundings} {seen : String → Prop}

/-! ## Open blocks -/

/-- The rows of an open block up to those of the sequence that is open. -/
def Opener.rows (depth : Nat) : Opener → List Row
  | .loop id head => [⟨depth, head.tag, head.params, some id⟩]
  | .ifThen id condition => [⟨depth, "if", [condition], some id⟩]
  | .branch id condition body before head =>
    ⟨depth, "if", [condition], some id⟩ ::
      (rowsOf (depth + 1) body ++ (before.rows depth ++ [⟨depth, head.tag, head.params, none⟩]))

/-- Whether an open block is allowed, whatever its open sequence will hold. -/
def Opener.Valid (around : Surroundings) (seen : String → Prop) : Opener → Prop
  | .loop _ head => around.Resolved seen head.params
  | .ifThen _ condition => around.Resolved seen [condition]
  | .branch _ condition body before head =>
    around.Resolved seen [condition] ∧ ValidAll around seen body ∧ before.Valid around seen ∧
      before.isOpen = true ∧ around.Resolved seen head.params

theorem BranchHead.rows_close (head : BranchHead) (depth : Nat) (blocks : List Block) :
    (head.close blocks).rows depth =
      ⟨depth, head.tag, head.params, none⟩ :: rowsOf (depth + 1) blocks := by
  cases head with
  | elseIf condition => simp [close, Otherwise.rows, Branch.row, tag, params]
  | elseDo => rfl

theorem BranchHead.valid_close {head : BranchHead} {blocks : List Block}
    (hhead : around.Resolved seen head.params) (hblocks : ValidAll around seen blocks) :
    (head.close blocks).Valid around seen := by
  cases head with
  | elseIf condition => exact ⟨hhead, hblocks, trivial⟩
  | elseDo => exact hblocks

/-- Closing a block writes none of its rows again. -/
theorem Opener.rows_close {opener : Opener} (h : opener.Valid around seen) (depth : Nat)
    (blocks : List Block) :
    (opener.close blocks).rows depth = opener.rows depth ++ rowsOf (depth + 1) blocks := by
  cases opener with
  | loop id head => rfl
  | ifThen id condition => simp [close, Block.rows, Otherwise.rows, rows, Block.row, Block.tag,
      Block.params, Block.id]
  | branch id condition body before head =>
    obtain ⟨-, -, -, hopen, -⟩ := h
    simp [close, Block.rows, rows, Block.row, Block.tag, Block.params, Block.id,
      Otherwise.rows_append hopen, BranchHead.rows_close]

theorem Opener.valid_close {opener : Opener} {blocks : List Block} (h : opener.Valid around seen)
    (hblocks : ValidAll around seen blocks) : (opener.close blocks).Valid around seen := by
  cases opener with
  | loop id head => exact ⟨h, hblocks⟩
  | ifThen id condition => exact ⟨h, hblocks, trivial⟩
  | branch id condition body before head =>
    obtain ⟨hcondition, hbody, hbefore, hopen, hhead⟩ := h
    exact ⟨hcondition, hbody,
      (Otherwise.valid_append hopen _).2 ⟨hbefore, BranchHead.valid_close hhead hblocks⟩⟩

@[simp] theorem Opener.declared?_close (opener : Opener) (blocks : List Block) :
    (opener.close blocks).declared? = none := by
  cases opener <;> rfl

theorem seenAfter_of_declared?_eq_none {block : Block} (h : block.declared? = none) :
    seenAfter seen block = seen := by
  funext name
  simp [seenAfter, h]

/-! ## Nests -/

namespace Nest

/-- The rows of open blocks and of what is before them. -/
def outerRows : List OpenBlock → List Row
  | [] => []
  | o :: outer => outerRows outer ++ (rowsOf outer.length o.before ++ o.opener.rows outer.length)

/-- The rows of a nest. -/
def rows (nest : Nest) : List Row := outerRows nest.outer ++ rowsOf nest.depth nest.blocks

/-- The local variables seen inside of open blocks. -/
def seenIn (outer : List OpenBlock) (name : String) : Prop :=
  name ∈ outer.flatMap fun o => declaredBy o.before

/-- Whether open blocks and what is before them are allowed. -/
def OuterValid (around : Surroundings) : List OpenBlock → Prop
  | [] => True
  | o :: outer =>
    OuterValid around outer ∧ ValidAll around (seenIn outer) o.before ∧
      o.opener.Valid around (seenIn (o :: outer))

/-- Whether the blocks of a nest are allowed. -/
def Valid (around : Surroundings) (nest : Nest) : Prop :=
  OuterValid around nest.outer ∧ ValidAll around (seenIn nest.outer) nest.blocks

@[simp] theorem seenIn_nil : seenIn [] = fun _ => False := by
  funext name
  simp [seenIn]

theorem seenIn_cons (o : OpenBlock) (outer : List OpenBlock) :
    seenIn (o :: outer) = seenAfterAll (seenIn outer) o.before := by
  funext name
  simp [seenIn, seenAfterAll, or_comm]

theorem mem_locals (nest : Nest) : (· ∈ nest.locals) = seenAfterAll (seenIn nest.outer) nest.blocks := by
  funext name
  simp [locals, seenIn, seenAfterAll]

/-- Closing open blocks keeps the rows, and what is closed is allowed. -/
theorem closeAround_rows (depth : Nat) {outer : List OpenBlock} {blocks : List Block}
    (houter : OuterValid around outer) (hblocks : ValidAll around (seenIn outer) blocks) :
    (closeAround depth outer blocks).Valid around ∧
      (closeAround depth outer blocks).rows = outerRows outer ++ rowsOf outer.length blocks := by
  induction outer generalizing blocks with
  | nil => exact ⟨⟨trivial, hblocks⟩, rfl⟩
  | cons o outer ih =>
    rw [closeAround]
    split
    · exact ⟨⟨houter, hblocks⟩, rfl⟩
    -- the innermost block is closed behind what is before it, and then the next one is looked at
    · obtain ⟨houter, hbefore, hopener⟩ := houter
      have hclosed : ValidAll around (seenIn outer) (o.before ++ [o.opener.close blocks]) := by
        rw [validAll_append, validAll_singleton, ← seenIn_cons]
        exact ⟨hbefore, Opener.valid_close hopener hblocks⟩
      obtain ⟨hvalid, hrows⟩ := ih houter hclosed
      refine ⟨hvalid, ?_⟩
      rw [hrows]
      simp [outerRows, Opener.rows_close hopener]

theorem valid_closeTo {nest : Nest} (h : nest.Valid around) (depth : Nat) :
    (nest.closeTo depth).Valid around := (closeAround_rows depth h.1 h.2).1

theorem closeTo_rows {nest : Nest} (h : nest.Valid around) (depth : Nat) :
    (nest.closeTo depth).rows = nest.rows := (closeAround_rows depth h.1 h.2).2

theorem outer_closeTo_zero (nest : Nest) : (nest.closeTo 0).outer = [] := by
  have h : (nest.closeTo 0).depth = 0 := depth_closeTo (Nat.zero_le _)
  exact List.length_eq_zero_iff.1 h

/-- The rows of the finished blocks are those of the nest. -/
theorem rowsOf_finish {nest : Nest} (h : nest.Valid around) : rowsOf 0 nest.finish = nest.rows := by
  rw [← closeTo_rows h 0, rows, outer_closeTo_zero, depth, outer_closeTo_zero]
  rfl

theorem validAll_finish {nest : Nest} (h : nest.Valid around) :
    ValidAll around (fun _ => False) nest.finish := by
  have hclosed := (valid_closeTo h 0).2
  rwa [outer_closeTo_zero, seenIn_nil] at hclosed

end Nest

/-! ## One record -/

theorem Block.rows_of_isLeaf {block : Block} (h : block.isLeaf = true) (depth : Nat) :
    block.rows depth = [block.row depth] := by
  cases block with
  | statement | declare | assign | call => rfl
  | loop | ifThen => simp [isLeaf] at h

/-- The tag of a block without others in it is neither of a branch nor of a block with others. -/
theorem Block.of_tag_of_isLeaf {declarations : Declarations} {block : Block}
    (h : block.isLeaf = true) (hformed : block.Formed declarations) :
    (BlockTag.of block.tag).isBranch = false ∧ (BlockTag.of block.tag).holdsBlocks = false := by
  cases block with
  | statement id tag params =>
    rw [Block.tag, show BlockTag.of tag = .statement from hformed]
    exact ⟨rfl, rfl⟩
  | declare | call => exact ⟨rfl, rfl⟩
  | assign id target change => cases change <;> exact ⟨rfl, rfl⟩
  | loop | ifThen => simp [isLeaf] at h

/-- Whether the tag of a record opens a sequence of blocks. -/
def BlockRecord.opens (record : BlockRecord) : Bool :=
  (BlockTag.of record.tag).isBranch || (BlockTag.of record.tag).holdsBlocks

/-- How many blocks are open after a record. -/
def BlockRecord.openAfter (record : BlockRecord) : Nat :=
  if record.opens then record.depth + 1 else record.depth

namespace Placed

variable {nest nest' : Nest} {id tag : String} {params : List Expr}

/-- **A record adds its own row at the end.** -/
theorem rows (h : Placed around.declarations nest id tag params nest') :
    nest'.rows = nest.rows ++
      [⟨nest.depth, tag, params, if (BlockTag.of tag).isBranch then none else some id⟩] := by
  cases h with
  | leaf block isLeaf formed hid htag hparams =>
    subst hid htag hparams
    simp [Nest.rows, Nest.add, Nest.depth, Block.rows_of_isLeaf isLeaf, Block.row,
      (Block.of_tag_of_isLeaf isLeaf formed).1]
  | loop head htag hparams =>
    subst htag hparams
    simp [Nest.rows, Nest.enter, Nest.depth, Nest.outerRows, Opener.rows]
  | ifThen condition htag hparams =>
    subst htag hparams
    simp [Nest.rows, Nest.enter, Nest.depth, Nest.outerRows, Opener.rows, BlockTag.of,
      BlockTag.isBranch]
  | branch last head hlast isOpen htag hparams =>
    subst htag hparams
    rw [Nest.rows, Nest.rows, Nest.eq_of_lastIf? hlast]
    simp [Nest.resume, Nest.depth, Nest.outerRows, Opener.rows, Block.rows, Block.row, Block.tag,
      Block.params, Block.id]

/-- A record leaves the nest allowed if what it refers to is seen. -/
theorem valid (h : Placed around.declarations nest id tag params nest') (hnest : nest.Valid around)
    (hparams : around.Resolved (· ∈ nest.locals) params) : nest'.Valid around := by
  obtain ⟨houter, hblocks⟩ := hnest
  rw [Nest.mem_locals] at hparams
  cases h with
  | leaf block isLeaf formed hid htag hblock =>
    subst hblock
    refine ⟨houter, ?_⟩
    rw [Nest.add, validAll_append, validAll_singleton, Block.valid_iff_of_isLeaf isLeaf]
    exact ⟨hblocks, formed, hparams⟩
  | loop head htag hhead =>
    subst hhead
    refine ⟨⟨houter, hblocks, ?_⟩, trivial⟩
    rw [Nest.seenIn_cons]
    exact hparams
  | ifThen condition htag hcondition =>
    subst hcondition
    refine ⟨⟨houter, hblocks, ?_⟩, trivial⟩
    rw [Nest.seenIn_cons]
    exact hparams
  | branch last head hlast isOpen htag hhead =>
    subst hhead
    rw [Nest.eq_of_lastIf? hlast] at hblocks hparams
    -- the `if` block declares nothing, so its branches see what it sees
    rw [seenAfterAll_append, seenAfterAll_cons, seenAfterAll_nil,
      seenAfter_of_declared?_eq_none rfl] at hparams
    rw [validAll_append, validAll_singleton] at hblocks
    obtain ⟨hbefore, hcondition, hbody, hotherwise⟩ := hblocks
    refine ⟨⟨houter, hbefore, ?_⟩, trivial⟩
    rw [Nest.seenIn_cons]
    exact ⟨hcondition, hbody, hotherwise, isOpen, hparams⟩

/-- How many blocks are open after a record only hangs on its depth and tag. -/
theorem depth (h : Placed around.declarations nest id tag params nest') :
    nest'.depth =
      if (BlockTag.of tag).isBranch || (BlockTag.of tag).holdsBlocks then nest.depth + 1
      else nest.depth := by
  cases h with
  | leaf block isLeaf formed hid htag hparams =>
    subst htag
    simp [Block.of_tag_of_isLeaf isLeaf formed]
  | loop head htag hparams =>
    subst htag
    simp
  | ifThen condition htag hparams =>
    subst htag
    rfl
  | branch last head hlast isOpen htag hparams =>
    subst htag
    simp [Nest.resume, Nest.depth]

end Placed

/-! ## Identifiers -/

/-- Whether records have identifiers of their own, none of them in use before. -/
def FreshIds : (used : List String) → List BlockRecord → Prop
  | _, [] => True
  | used, record :: records => record.blockId ∉ used ∧ FreshIds (record.blockId :: used) records

theorem freshIds_append {used : List String} (records more : List BlockRecord) :
    FreshIds used (records ++ more) ↔
      FreshIds used records ∧ FreshIds ((records.map (·.blockId)).reverse ++ used) more := by
  induction records generalizing used with
  | nil => simp [FreshIds]
  | cons record records ih => simp [FreshIds, ih, and_assoc]

/-- Identifiers are new if they are distinct and none of them is in use. -/
theorem freshIds_iff {used : List String} {records : List BlockRecord} :
    FreshIds used records ↔
      (records.map (·.blockId)).Nodup ∧ ∀ record ∈ records, record.blockId ∉ used := by
  induction records generalizing used with
  | nil => simp [FreshIds]
  | cons record records ih =>
    rw [FreshIds, ih, List.map_cons, List.nodup_cons]
    constructor
    · rintro ⟨hused, hnodup, hall⟩
      refine ⟨⟨fun hmem => ?_, hnodup⟩, fun other hother => ?_⟩
      · obtain ⟨other, hother, heq⟩ := List.mem_map.1 hmem
        exact hall other hother (heq ▸ List.mem_cons_self)
      · rcases List.mem_cons.1 hother with rfl | hother
        · exact hused
        · exact fun hmem => hall other hother (List.mem_cons_of_mem _ hmem)
    · rintro ⟨⟨hmem, hnodup⟩, hall⟩
      refine ⟨hall record List.mem_cons_self, hnodup, fun other hother hused => ?_⟩
      rcases List.mem_cons.1 hused with heq | hused
      · exact hmem (List.mem_map.2 ⟨other, hother, heq⟩)
      · exact hall other (List.mem_cons_of_mem _ hother) hused

/-! ## All records -/

namespace Building

variable {screen key : String} {building building' : Building} {records : List BlockRecord}

theorem readRecord_eq_ok_iff {record : BlockRecord} :
    Handler.readRecord screen key around building record = .ok building' ↔
      building.read around record = .ok building' := by
  rw [Handler.readRecord, Except.mapError_eq_ok_iff]

/-- What one record does to the rows. -/
theorem read_rows {record : BlockRecord} (hnest : building.nest.Valid around)
    (h : building.read around record = .ok building') :
    building'.nest.Valid around ∧ building'.nest.rows = building.nest.rows ++ [record.row] := by
  obtain ⟨-, hdepth, hparams, nest, hplaced, rfl⟩ := read_eq_ok_iff.1 h
  refine ⟨hplaced.valid (Nest.valid_closeTo hnest _) hparams, ?_⟩
  rw [hplaced.rows, Nest.closeTo_rows hnest, Nest.depth_closeTo hdepth]
  rfl

/-- What one record does to the blocks that are open. -/
theorem read_depth {record : BlockRecord} (h : building.read around record = .ok building') :
    building'.nest.depth = record.openAfter := by
  obtain ⟨-, hdepth, -, nest, hplaced, rfl⟩ := read_eq_ok_iff.1 h
  rw [hplaced.depth, Nest.depth_closeTo hdepth]
  rfl

/-- **A run adds the rows of its records and no others.** -/
theorem run_rows (hnest : building.nest.Valid around)
    (h : records.foldlM (Handler.readRecord screen key around) building = .ok building') :
    building'.nest.Valid around ∧
      building'.nest.rows = building.nest.rows ++ records.map (·.row) := by
  induction records generalizing building with
  | nil =>
    simp only [List.foldlM_nil, Except.pure_eq_ok_iff] at h
    subst h
    exact ⟨hnest, by simp⟩
  | cons record records ih =>
    simp only [List.foldlM_cons, Except.bind_eq_ok_iff, readRecord_eq_ok_iff] at h
    obtain ⟨middle, hread, hrest⟩ := h
    obtain ⟨hmiddle, hrows⟩ := read_rows hnest hread
    obtain ⟨hvalid, hall⟩ := ih hmiddle hrest
    exact ⟨hvalid, by rw [hall, hrows]; simp⟩

end Building

end BlockApp
