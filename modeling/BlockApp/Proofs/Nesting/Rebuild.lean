import BlockApp.Proofs.Nesting.Lossless

/-!
# Rows are read back

The records of an allowed tree are taken, and give that tree. Nothing is closed before it must be: after
the records of a block its sequences may still be open, and the next record closes them. So a point
reached is known only up to closing.

* `Nest.ClosesTo` — a nest that comes to another one when it is closed to the depth of that one
* `Building.Puts` — records that are taken and lead to a nest that closes to a given one
* `Block.rebuild`, `Otherwise.rebuild`, `rebuildAll` — by recursion on the tree
-/

namespace BlockApp

/-! ## Closing again -/

namespace Otherwise

@[simp] theorem append_nothing (otherwise : Otherwise) : otherwise.append .nothing = otherwise := by
  match otherwise with
  | .nothing | .elseDo _ => rfl
  | .elseIf condition body otherwise => rw [append, append_nothing otherwise]
  termination_by structural otherwise

theorem append_assoc (otherwise more most : Otherwise) :
    (otherwise.append more).append most = otherwise.append (more.append most) := by
  match otherwise with
  | .nothing | .elseDo _ => rfl
  | .elseIf condition body otherwise => rw [append, append, append, append_assoc otherwise]
  termination_by structural otherwise

theorem isOpen_append {otherwise more : Otherwise} (h : otherwise.isOpen = true)
    (hmore : more.isOpen = true) : (otherwise.append more).isOpen = true := by
  match otherwise with
  | .nothing => exact hmore
  | .elseDo body => simp [isOpen] at h
  | .elseIf condition body otherwise =>
    rw [append, isOpen]
    exact isOpen_append (by simpa [isOpen] using h) hmore
  termination_by structural otherwise

end Otherwise

namespace Nest

theorem closeAround_of_length_le {depth : Nat} {outer : List OpenBlock} (blocks : List Block)
    (h : outer.length ≤ depth) : closeAround depth outer blocks = ⟨outer, blocks⟩ := by
  cases outer with
  | nil => rfl
  | cons o outer => rw [closeAround, if_pos (show outer.length < depth from h)]

theorem closeAround_closeAround {depth deeper : Nat} (h : depth ≤ deeper) (outer : List OpenBlock)
    (blocks : List Block) :
    (closeAround deeper outer blocks).closeTo depth = closeAround depth outer blocks := by
  induction outer generalizing blocks with
  | nil => rfl
  | cons o outer ih =>
    rw [closeAround]
    split
    · rfl
    · next hdeeper =>
      rw [ih, closeAround, if_neg (by omega)]

/-- Closing in two steps comes to the same as closing at once. -/
theorem closeTo_closeTo {depth deeper : Nat} (h : depth ≤ deeper) (nest : Nest) :
    (nest.closeTo deeper).closeTo depth = nest.closeTo depth :=
  closeAround_closeAround h nest.outer nest.blocks

/-- Whether a nest comes to another one when it is closed to the depth of that one. -/
def ClosesTo (opened nest : Nest) : Prop :=
  nest.depth ≤ opened.depth ∧ opened.closeTo nest.depth = nest

theorem closesTo_refl (nest : Nest) : nest.ClosesTo nest :=
  ⟨Nat.le_refl _, closeAround_of_length_le _ (Nat.le_refl _)⟩

/-- What closes to the inside of a block closes to the block. -/
theorem ClosesTo.leave {opened nest : Nest} {opener : Opener} {blocks : List Block}
    (h : opened.ClosesTo ⟨(nest.enter opener).outer, blocks⟩) :
    opened.ClosesTo (nest.add (opener.close blocks)) := by
  obtain ⟨hdepth, hclosed⟩ := h
  have hle : nest.depth + 1 ≤ opened.depth := hdepth
  -- close to the inside of the block first, and then the block itself
  refine ⟨Nat.le_of_succ_le hle, ?_⟩
  rw [depth_add, ← closeTo_closeTo (Nat.le_succ nest.depth)]
  rw [show opened.closeTo (nest.depth + 1) = _ from hclosed]
  show closeAround nest.depth (⟨nest.blocks, opener⟩ :: nest.outer) blocks = _
  rw [closeAround, if_neg (by simp [depth])]
  exact closeAround_of_length_le _ (Nat.le_refl _)

@[simp] theorem mem_locals_enter (nest : Nest) (opener : Opener) :
    (· ∈ (nest.enter opener).locals) = (· ∈ nest.locals) := by
  rw [mem_locals, mem_locals, enter, seenAfterAll_nil, seenIn_cons]

theorem mem_locals_add (nest : Nest) (block : Block) :
    (· ∈ (nest.add block).locals) = seenAfter (· ∈ nest.locals) block := by
  rw [mem_locals, mem_locals, add, seenAfterAll_append, seenAfterAll_cons, seenAfterAll_nil]

theorem lastIf?_cons {block : Block} {blocks : List Block} (h : blocks ≠ []) :
    lastIf? (block :: blocks) =
      (lastIf? blocks).map fun last => { last with before := block :: last.before } := by
  rw [lastIf?]
  exact fun _ _ _ _ _ => h

theorem lastIf?_append (blocks : List Block) (id : String) (condition : Expr) (body : List Block)
    (otherwise : Otherwise) :
    lastIf? (blocks ++ [Block.ifThen id condition body otherwise]) =
      some ⟨blocks, id, condition, body, otherwise⟩ := by
  induction blocks with
  | nil => rfl
  | cons block blocks ih =>
    rw [List.cons_append, lastIf?_cons (by simp), ih]
    rfl

end Nest

/-! ## Rows of records -/

theorem BlockRecord.of_row_eq_some {record : BlockRecord} {depth : Nat} {tag : String}
    {params : List Expr} {id : String} (h : record.row = ⟨depth, tag, params, some id⟩) :
    record.depth = depth ∧ record.tag = tag ∧ record.params = params ∧ record.blockId = id := by
  simp only [row, Row.mk.injEq] at h
  obtain ⟨hdepth, htag, hparams, hid⟩ := h
  refine ⟨hdepth, htag, hparams, ?_⟩
  split at hid
  · simp at hid
  · exact Option.some.inj hid

theorem BlockRecord.of_row {record : BlockRecord} {depth : Nat} {tag : String}
    {params : List Expr} {id : Option String} (h : record.row = ⟨depth, tag, params, id⟩) :
    record.depth = depth ∧ record.tag = tag ∧ record.params = params := by
  cases h
  exact ⟨rfl, rfl, rfl⟩

/-! ## Taking records -/

namespace Building

/-- Whether records are taken and lead to a nest that closes to `nest`. -/
def Puts (screen key : String) (around : Surroundings) (building : Building)
    (records : List BlockRecord) (nest : Nest) : Prop :=
  ∃ building', records.foldlM (Handler.readRecord screen key around) building = .ok building' ∧
    building'.nest.ClosesTo nest ∧
    building'.used = (records.map (·.blockId)).reverse ++ building.used

variable {screen key : String} {around : Surroundings} {building : Building} {nest nest' : Nest}
  {record : BlockRecord} {records more : List BlockRecord}

theorem puts_nil (h : building.nest.ClosesTo nest) : Puts screen key around building [] nest :=
  ⟨building, rfl, h, rfl⟩

theorem Puts.append (h : Puts screen key around building records nest)
    (hmore : ∀ building', building'.nest.ClosesTo nest →
      building'.used = (records.map (·.blockId)).reverse ++ building.used →
      Puts screen key around building' more nest') :
    Puts screen key around building (records ++ more) nest' := by
  obtain ⟨middle, hrun, hcloses, hused⟩ := h
  obtain ⟨last, hrun', hcloses', hused'⟩ := hmore middle hcloses hused
  exact ⟨last, Except.foldlM_append_eq_ok_iff.2 ⟨middle, hrun, hrun'⟩, hcloses',
    by rw [hused', hused]; simp⟩

/-- A record at the depth of a nest is taken where its block goes into that nest. -/
theorem readRecord_of_placed (h : building.nest.ClosesTo nest) (hdepth : record.depth = nest.depth)
    (hfresh : record.blockId ∉ building.used)
    (hparams : around.Resolved (· ∈ nest.locals) record.params)
    (hplaced : Placed around.declarations nest record.blockId record.tag record.params nest') :
    Handler.readRecord screen key around building record =
      .ok ⟨record.blockId :: building.used, nest'⟩ := by
  obtain ⟨hle, hclosed⟩ := h
  rw [readRecord_eq_ok_iff, read_eq_ok_iff, hdepth, hclosed]
  exact ⟨hfresh, hle, hparams, nest', hplaced, rfl⟩

/-- The record of a block's head and then those of its sequence put the whole block. -/
theorem Puts.enter (opener : Opener) {blocks : List Block}
    (hread : Handler.readRecord screen key around building record =
      .ok ⟨record.blockId :: building.used, nest.enter opener⟩)
    (h : Puts screen key around ⟨record.blockId :: building.used, nest.enter opener⟩ records
      ⟨(nest.enter opener).outer, blocks⟩) :
    Puts screen key around building (record :: records) (nest.add (opener.close blocks)) := by
  obtain ⟨last, hrun, hcloses, hused⟩ := h
  refine ⟨last, ?_, hcloses.leave, by rw [hused]; simp⟩
  rw [List.foldlM_cons, hread]
  exact hrun

/-- Where a nest closes to one that ends in an `if` block, the record of a branch opens that block
again. -/
theorem readRecord_of_branch {id : String} {condition : Expr} {body : List Block}
    {before : Otherwise} {head : BranchHead} (hopen : before.isOpen = true)
    (h : building.nest.ClosesTo (nest.add (.ifThen id condition body before)))
    (hdepth : record.depth = nest.depth) (htag : record.tag = head.tag)
    (hrecord : record.params = head.params) (hfresh : record.blockId ∉ building.used)
    (hparams : around.Resolved (· ∈ nest.locals) head.params) :
    Handler.readRecord screen key around building record =
      .ok ⟨record.blockId :: building.used,
        nest.enter (.branch id condition body before head)⟩ := by
  refine readRecord_of_placed h hdepth hfresh ?_ ?_
  · rw [Nest.mem_locals_add, seenAfter_of_declared?_eq_none rfl, hrecord]
    exact hparams
  · rw [htag, hrecord]
    exact .branch ⟨nest.blocks, id, condition, body, before⟩ head
      (Nest.lastIf?_append _ _ _ _ _) hopen rfl rfl

/-- The record of a leaf puts it. -/
theorem puts_leaf {block : Block} (hleaf : block.isLeaf = true) (h : building.nest.ClosesTo nest)
    (hrows : records.map (·.row) = [block.row nest.depth]) (hfresh : FreshIds building.used records)
    (hvalid : block.Valid around (· ∈ nest.locals)) :
    Puts screen key around building records (nest.add block) := by
  obtain ⟨record, rfl, hrow⟩ := List.map_eq_singleton_iff.1 hrows
  obtain ⟨hdepth, htag, hparams, hid⟩ := BlockRecord.of_row_eq_some hrow
  rw [Block.valid_iff_of_isLeaf hleaf] at hvalid
  obtain ⟨hformed, hresolved⟩ := hvalid
  have hread : Handler.readRecord screen key around building record =
      .ok ⟨record.blockId :: building.used, nest.add block⟩ :=
    readRecord_of_placed h hdepth hfresh.1 (hparams ▸ hresolved)
      (.leaf block hleaf hformed hid.symm htag.symm hparams.symm)
  refine ⟨⟨record.blockId :: building.used, nest.add block⟩, ?_, Nest.closesTo_refl _, rfl⟩
  rw [List.foldlM_cons, hread]
  rfl

end Building

/-! ## The records of a tree -/

section

open Building

variable {screen key : String} {around : Surroundings}

mutual

/-- The records of a block put that block. -/
theorem Block.rebuild (block : Block) {building : Building} {nest : Nest}
    {records : List BlockRecord} (h : building.nest.ClosesTo nest)
    (hrows : records.map (·.row) = block.rows nest.depth) (hfresh : FreshIds building.used records)
    (hvalid : block.Valid around (· ∈ nest.locals)) :
    Puts screen key around building records (nest.add block) := by
  match block with
  | .statement .. | .declare .. | .assign .. | .call .. => exact puts_leaf rfl h hrows hfresh hvalid
  | .loop id head body =>
    obtain ⟨record, inside, rfl, hrow, hinside⟩ := List.map_eq_cons_iff.1 hrows
    obtain ⟨hdepth, htag, hparams, hid⟩ := BlockRecord.of_row_eq_some hrow
    obtain ⟨hhead, hbody⟩ := hvalid
    refine Puts.enter (.loop id head)
      (readRecord_of_placed h hdepth hfresh.1 (hparams ▸ hhead)
        (hid ▸ .loop head htag.symm hparams.symm)) ?_
    exact rebuildAll body (Nest.closesTo_refl _) hinside hfresh.2 (by simpa using hbody)
  | .ifThen id condition body otherwise =>
    obtain ⟨record, tail, rfl, hrow, htail⟩ := List.map_eq_cons_iff.1 hrows
    obtain ⟨inside, rest, rfl, hinside, hrest⟩ := List.map_eq_append_iff.1 htail
    obtain ⟨hdepth, htag, hparams, hid⟩ := BlockRecord.of_row_eq_some hrow
    obtain ⟨hcondition, hbody, hotherwise⟩ := hvalid
    obtain ⟨hfirst, hmore⟩ := (freshIds_append (record :: inside) rest).1 hfresh
    -- the block is put with its first branch alone, and the others are put into it
    have hopened : Puts screen key around building (record :: inside)
        (nest.add (.ifThen id condition body .nothing)) :=
      Puts.enter (.ifThen id condition)
        (readRecord_of_placed h hdepth hfresh.1 (hparams ▸ hcondition)
          (hid ▸ .ifThen condition htag.symm hparams.symm))
        (rebuildAll body (Nest.closesTo_refl _) hinside hfirst.2 (by simpa using hbody))
    exact hopened.append fun building' hcloses hused =>
      otherwise.rebuild rfl hcloses hrest (hused ▸ hmore) hotherwise
  termination_by structural block

/-- The records of further branches put them behind the branches that are there. -/
theorem Otherwise.rebuild (otherwise : Otherwise) {building : Building} {nest : Nest}
    {records : List BlockRecord} {id : String} {condition : Expr} {body : List Block}
    {before : Otherwise} (hopen : before.isOpen = true)
    (h : building.nest.ClosesTo (nest.add (.ifThen id condition body before)))
    (hrows : records.map (·.row) = otherwise.rows nest.depth)
    (hfresh : FreshIds building.used records)
    (hvalid : otherwise.Valid around (· ∈ nest.locals)) :
    Puts screen key around building records
      (nest.add (.ifThen id condition body (before.append otherwise))) := by
  match otherwise with
  | .nothing =>
    obtain rfl := List.map_eq_nil_iff.1 hrows
    rw [Otherwise.append_nothing]
    exact puts_nil h
  | .elseDo blocks =>
    obtain ⟨record, inside, rfl, hrow, hinside⟩ := List.map_eq_cons_iff.1 hrows
    obtain ⟨hdepth, htag, hparams⟩ := BlockRecord.of_row hrow
    refine Puts.enter (.branch id condition body before .elseDo)
      (readRecord_of_branch hopen h hdepth htag hparams hfresh.1 around.resolved_nil) ?_
    exact rebuildAll blocks (Nest.closesTo_refl _) hinside hfresh.2
      (by simpa [Otherwise.Valid] using hvalid)
  | .elseIf next blocks otherwise =>
    obtain ⟨record, tail, rfl, hrow, htail⟩ := List.map_eq_cons_iff.1 hrows
    obtain ⟨inside, rest, rfl, hinside, hrest⟩ := List.map_eq_append_iff.1 htail
    obtain ⟨hdepth, htag, hparams⟩ := BlockRecord.of_row hrow
    obtain ⟨hcondition, hblocks, hotherwise⟩ := hvalid
    obtain ⟨hfirst, hmore⟩ := (freshIds_append (record :: inside) rest).1 hfresh
    have hbranch : Puts screen key around building (record :: inside)
        (nest.add (.ifThen id condition body (before.append (.elseIf next blocks .nothing)))) :=
      Puts.enter (.branch id condition body before (.elseIf next))
        (readRecord_of_branch hopen h hdepth htag hparams hfresh.1 hcondition)
        (rebuildAll blocks (Nest.closesTo_refl _) hinside hfirst.2 (by simpa using hblocks))
    rw [show Otherwise.elseIf next blocks otherwise =
      (Otherwise.elseIf next blocks .nothing).append otherwise from rfl, ← Otherwise.append_assoc]
    exact hbranch.append fun building' hcloses hused =>
      otherwise.rebuild (Otherwise.isOpen_append hopen rfl) hcloses hrest (hused ▸ hmore) hotherwise
  termination_by structural otherwise

/-- The records of a sequence put its blocks one after the other. -/
theorem rebuildAll (blocks : List Block) {building : Building} {nest : Nest}
    {records : List BlockRecord} (h : building.nest.ClosesTo nest)
    (hrows : records.map (·.row) = rowsOf nest.depth blocks)
    (hfresh : FreshIds building.used records)
    (hvalid : ValidAll around (· ∈ nest.locals) blocks) :
    Puts screen key around building records ⟨nest.outer, nest.blocks ++ blocks⟩ := by
  match blocks with
  | [] =>
    obtain rfl := List.map_eq_nil_iff.1 hrows
    rw [List.append_nil]
    exact puts_nil h
  | block :: blocks =>
    obtain ⟨first, rest, rfl, hfirst, hrest⟩ := List.map_eq_append_iff.1 hrows
    obtain ⟨hfreshFirst, hfreshRest⟩ := (freshIds_append first rest).1 hfresh
    obtain ⟨hblock, hblocks⟩ := hvalid
    -- the blocks after the first see what it declares
    rw [← Nest.mem_locals_add] at hblocks
    rw [show nest.blocks ++ block :: blocks = (nest.add block).blocks ++ blocks by simp [Nest.add]]
    exact (block.rebuild h hfirst hfreshFirst hblock).append fun building' hcloses hused =>
      rebuildAll blocks hcloses hrest (hused ▸ hfreshRest) hblocks
  termination_by structural blocks

end

end

end BlockApp
