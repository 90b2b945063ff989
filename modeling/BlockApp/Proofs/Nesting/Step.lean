import BlockApp.Proofs.Nesting.Valid
import BlockApp.Proofs.Outcome

/-!
# What a record does

`Building.read` takes a record in many cases, by its tag. Here it is said once and for all what they come
to: the nest is closed to the depth of the record, and then a leaf is added, a block is entered, or the
`if` block at the end is resumed.

* `Placed` — the four ways in which a record changes the nest
* `Building.place_eq_ok_iff` — there are no others
* `Building.read_eq_ok_iff` — when a record is taken, and what comes out
-/

namespace BlockApp

/-! ## Heads of branches -/

namespace BranchHead

/-- The tag of a branch. -/
def tag : BranchHead → String
  | .elseIf _ => "elseIf"
  | .elseDo => "else"

/-- The parameters of a branch. -/
def params : BranchHead → List Expr
  | .elseIf condition => [condition]
  | .elseDo => []

@[simp] theorem isBranch_of_tag (head : BranchHead) : (BlockTag.of head.tag).isBranch = true := by
  cases head <;> rfl

@[simp] theorem holdsBlocks_of_tag (head : BranchHead) :
    (BlockTag.of head.tag).holdsBlocks = false := by
  cases head <;> rfl

end BranchHead

/-! ## Parameters -/

namespace Building

theorem oneParam_eq_ok_iff {tag : String} {params : List Expr} {param : Expr} :
    oneParam tag params = .ok param ↔ params = [param] := by
  unfold oneParam
  split <;> simp_all

theorem noParam_eq_ok_iff {tag : String} {params : List Expr} {u : Unit} :
    noParam tag params = .ok u ↔ params = [] := by
  simp [noParam]

/-- The block that declares a local variable has all that its parameters say. -/
theorem readDeclare_eq_ok_iff {id : String} {params : List Expr} {block : Block} :
    readDeclare id params = .ok block ↔
      ∃ type name value, block = .declare id type name value ∧ block.params = params ∧
        Text.isIdentifier name.toList = true := by
  constructor
  · intro h
    simp only [readDeclare] at h
    split at h
    · next typeName name =>
      split at h
      · simp at h
      · next type htype =>
        split at h
        · next hname =>
          cases h
          exact ⟨type, name, none, rfl,
            by simp [Block.params, ValueType.name_of_ofName? htype], hname⟩
        · simp at h
    · next typeName name value =>
      split at h
      · simp at h
      · next type htype =>
        split at h
        · next hname =>
          cases h
          exact ⟨type, name, some value, rfl,
            by simp [Block.params, ValueType.name_of_ofName? htype], hname⟩
        · simp at h
    · simp at h
  · rintro ⟨type, name, value, rfl, rfl, hname⟩
    cases value <;> simp [readDeclare, Block.params, ValueType.ofName?_name, hname]

theorem readSet_eq_ok_iff {id tag : String} {params : List Expr} {block : Block} :
    readSet id tag params = .ok block ↔
      ∃ target value, block = .assign id target (.set value) ∧ block.params = params := by
  unfold readSet
  split
  · constructor
    · intro h
      cases h
      exact ⟨_, _, rfl, rfl⟩
    · rintro ⟨target, value, rfl, h⟩
      simp_all [Block.params, Change.params]
  · next hform =>
    refine iff_of_false (by simp) ?_
    rintro ⟨target, value, rfl, rfl⟩
    exact hform target value rfl

theorem readStep_eq_ok_iff {id tag : String} {change : Change} {params : List Expr} {block : Block}
    (hchange : change.params = []) :
    readStep id tag change params = .ok block ↔
      ∃ target, block = .assign id target change ∧ block.params = params := by
  unfold readStep
  split
  · constructor
    · intro h
      cases h
      exact ⟨_, rfl, by simp [Block.params, hchange]⟩
    · rintro ⟨target, rfl, h⟩
      simp_all [Block.params]
  · next hform =>
    refine iff_of_false (by simp) ?_
    rintro ⟨target, rfl, rfl⟩
    exact hform target (by simp [Block.params, hchange])

theorem readCall_eq_ok_iff {declarations : Declarations} {id : String} {params : List Expr}
    {block : Block} :
    readCall declarations id params = .ok block ↔
      ∃ function args, block = .call id function args ∧ block.params = params ∧
        block.Formed declarations := by
  unfold readCall
  split
  · next function args =>
    constructor
    · intro h
      split at h
      · simp at h
      · next declared hdeclared =>
        split at h
        · next hlength =>
          cases h
          exact ⟨function, args, rfl, rfl, declared, hdeclared, hlength⟩
        · simp at h
    · rintro ⟨f, as, rfl, h, declared, hdeclared, hlength⟩
      simp only [Block.params, List.cons.injEq, Expr.literal.injEq, true_and] at h
      obtain ⟨rfl, rfl⟩ := h
      rw [hdeclared]
      exact if_pos hlength
  · next hform =>
    refine iff_of_false (by simp) ?_
    rintro ⟨function, args, rfl, rfl, -⟩
    exact hform function args rfl

theorem readBranch_eq_ok_iff {nest nest' : Nest} {tag : String}
    {head : Except LogicProblem BranchHead} :
    readBranch nest tag head = .ok nest' ↔
      ∃ last branch, Nest.lastIf? nest.blocks = some last ∧ last.otherwise.isOpen = true ∧
        head = .ok branch ∧ nest' = nest.resume last branch := by
  unfold readBranch
  split
  · next h => simp [h]
  · next last h =>
    by_cases hopen : last.otherwise.isOpen = true
    · simp only [if_pos hopen, Except.bind_eq_ok_iff, Except.pure_eq_ok_iff]
      constructor
      · rintro ⟨branch, hhead, rfl⟩
        exact ⟨last, branch, h, hopen, hhead, rfl⟩
      · rintro ⟨last', branch, hlast, -, hhead, rfl⟩
        cases h.symm.trans hlast
        exact ⟨branch, hhead, rfl⟩
    · simp [h, hopen]

end Building

/-! ## Where a block goes -/

/-- What a record can make of the nest that is closed to its depth. -/
inductive Placed (declarations : Declarations) (nest : Nest) (id tag : String) (params : List Expr) :
    Nest → Prop where
  | leaf (block : Block) (isLeaf : block.isLeaf = true) (formed : block.Formed declarations)
      (hid : block.id = id) (htag : block.tag = tag) (hparams : block.params = params) :
      Placed declarations nest id tag params (nest.add block)
  | loop (head : Loop) (htag : head.tag = tag) (hparams : head.params = params) :
      Placed declarations nest id tag params (nest.enter (.loop id head))
  | ifThen (condition : Expr) (htag : "if" = tag) (hparams : [condition] = params) :
      Placed declarations nest id tag params (nest.enter (.ifThen id condition))
  | branch (last : Nest.LastIf) (head : BranchHead) (hlast : Nest.lastIf? nest.blocks = some last)
      (isOpen : last.otherwise.isOpen = true) (htag : head.tag = tag)
      (hparams : head.params = params) :
      Placed declarations nest id tag params (nest.resume last head)

namespace Building

theorem placed_of_place {declarations : Declarations} {nest nest' : Nest} {id tag : String}
    {params : List Expr} (h : place declarations nest id tag params = .ok nest') :
    Placed declarations nest id tag params nest' := by
  unfold place at h
  have htag {role : BlockTag} {name : String} (hrole : BlockTag.of tag = role)
      (hname : role.text? = some name) : name = tag := (BlockTag.eq_of_text? hrole hname).symm
  cases hrole : BlockTag.of tag with
  | elseIf =>
    simp only [hrole, readBranch_eq_ok_iff, Except.map_eq_ok_iff, oneParam_eq_ok_iff] at h
    obtain ⟨last, _, hlast, isOpen, ⟨condition, rfl, rfl⟩, rfl⟩ := h
    exact .branch last _ hlast isOpen (htag hrole rfl) rfl
  | elseDo =>
    simp only [hrole, readBranch_eq_ok_iff, Except.seqRight_eq_ok_iff, noParam_eq_ok_iff,
      Except.ok.injEq] at h
    obtain ⟨last, _, hlast, isOpen, ⟨⟨_, rfl⟩, rfl⟩, rfl⟩ := h
    exact .branch last _ hlast isOpen (htag hrole rfl) rfl
  | ifThen =>
    simp only [hrole, Except.bind_eq_ok_iff, oneParam_eq_ok_iff, Except.pure_eq_ok_iff] at h
    obtain ⟨condition, rfl, rfl⟩ := h
    exact .ifThen condition (htag hrole rfl) rfl
  | times =>
    simp only [hrole, Except.bind_eq_ok_iff, oneParam_eq_ok_iff, Except.pure_eq_ok_iff] at h
    obtain ⟨count, rfl, rfl⟩ := h
    exact .loop (.times count) (htag hrole rfl) rfl
  | forever =>
    simp only [hrole, Except.bind_eq_ok_iff, noParam_eq_ok_iff, Except.pure_eq_ok_iff] at h
    obtain ⟨_, rfl, rfl⟩ := h
    exact .loop .forever (htag hrole rfl) rfl
  | whileTrue =>
    simp only [hrole, Except.bind_eq_ok_iff, oneParam_eq_ok_iff, Except.pure_eq_ok_iff] at h
    obtain ⟨condition, rfl, rfl⟩ := h
    exact .loop (.whileTrue condition) (htag hrole rfl) rfl
  | declare =>
    simp only [hrole, Except.map_eq_ok_iff, readDeclare_eq_ok_iff] at h
    obtain ⟨_, ⟨type, name, value, rfl, hparams, hname⟩, rfl⟩ := h
    exact .leaf _ rfl hname rfl (htag hrole rfl) hparams
  | set =>
    simp only [hrole, Except.map_eq_ok_iff, readSet_eq_ok_iff] at h
    obtain ⟨_, ⟨target, value, rfl, hparams⟩, rfl⟩ := h
    exact .leaf _ rfl trivial rfl (htag hrole rfl) hparams
  | increase =>
    simp only [hrole, Except.map_eq_ok_iff,
      readStep_eq_ok_iff (show Change.increase.params = [] from rfl)] at h
    obtain ⟨_, ⟨target, rfl, hparams⟩, rfl⟩ := h
    exact .leaf _ rfl trivial rfl (htag hrole rfl) hparams
  | decrease =>
    simp only [hrole, Except.map_eq_ok_iff,
      readStep_eq_ok_iff (show Change.decrease.params = [] from rfl)] at h
    obtain ⟨_, ⟨target, rfl, hparams⟩, rfl⟩ := h
    exact .leaf _ rfl trivial rfl (htag hrole rfl) hparams
  | call =>
    simp only [hrole, Except.map_eq_ok_iff, readCall_eq_ok_iff] at h
    obtain ⟨_, ⟨function, args, rfl, hparams, hformed⟩, rfl⟩ := h
    exact .leaf _ rfl hformed rfl (htag hrole rfl) hparams
  | statement =>
    simp only [hrole] at h
    cases h
    exact .leaf _ rfl hrole rfl rfl rfl

theorem place_of_placed {declarations : Declarations} {nest nest' : Nest} {id tag : String}
    {params : List Expr} (h : Placed declarations nest id tag params nest') :
    place declarations nest id tag params = .ok nest' := by
  cases h with
  | leaf block isLeaf formed hid htag hparams =>
    subst hid htag hparams
    cases block with
    | statement id tag params =>
      simp only [Block.Formed] at formed
      simp [place, Block.tag, formed, Block.id, Block.params]
    | declare id type name value =>
      exact Except.map_eq_ok_iff.2 ⟨_, readDeclare_eq_ok_iff.2 ⟨_, _, _, rfl, rfl, formed⟩, rfl⟩
    | assign id target change =>
      cases change with
      | set value => exact Except.map_eq_ok_iff.2 ⟨_, readSet_eq_ok_iff.2 ⟨_, _, rfl, rfl⟩, rfl⟩
      | increase | decrease =>
        exact Except.map_eq_ok_iff.2 ⟨_, (readStep_eq_ok_iff rfl).2 ⟨_, rfl, rfl⟩, rfl⟩
    | call id function args =>
      exact Except.map_eq_ok_iff.2 ⟨_, readCall_eq_ok_iff.2 ⟨_, _, rfl, rfl, formed⟩, rfl⟩
    | loop | ifThen => simp [Block.isLeaf] at isLeaf
  | loop head htag hparams =>
    subst htag hparams
    cases head <;> rfl
  | ifThen condition htag hparams =>
    subst htag hparams
    rfl
  | branch last head hlast isOpen htag hparams =>
    subst htag hparams
    cases head <;>
      exact readBranch_eq_ok_iff.2 ⟨last, _, hlast, isOpen, rfl, rfl⟩

/-- **A record adds a leaf, enters a block or resumes an `if` block, and nothing else.** -/
theorem place_eq_ok_iff {declarations : Declarations} {nest nest' : Nest} {id tag : String}
    {params : List Expr} :
    place declarations nest id tag params = .ok nest' ↔
      Placed declarations nest id tag params nest' :=
  ⟨placed_of_place, place_of_placed⟩

/-! ## Reading a record -/

theorem unresolved?_eq_none_iff {around : Surroundings} {locals : List String} {r : Reference} :
    unresolved? (around.declarations.names ++ locals) around.arguments r = none ↔
      around.Points (· ∈ locals) r := by
  obtain ⟨kind, name⟩ := r
  cases kind <;> simp [unresolved?, Surroundings.Points, Decidable.or_iff_not_imp_left]

theorem unresolvedIn?_eq_none_iff {around : Surroundings} {nest : Nest} {params : List Expr} :
    unresolvedIn? around nest params = none ↔ around.Resolved (· ∈ nest.locals) params := by
  simp only [unresolvedIn?, List.findSome?_eq_none_iff, unresolved?_eq_none_iff,
    Surroundings.Resolved]

/-- **When a record is taken, and what comes out.** -/
theorem read_eq_ok_iff {around : Surroundings} {building building' : Building}
    {record : BlockRecord} :
    building.read around record = .ok building' ↔
      record.blockId ∉ building.used ∧ record.depth ≤ building.nest.depth ∧
        around.Resolved (· ∈ (building.nest.closeTo record.depth).locals) record.params ∧
        ∃ nest, Placed around.declarations (building.nest.closeTo record.depth) record.blockId
          record.tag record.params nest ∧ building' = ⟨record.blockId :: building.used, nest⟩ := by
  unfold read
  by_cases hused : record.blockId ∈ building.used
  · simp [hused]
  · by_cases hdepth : building.nest.depth < record.depth
    · simp [hused, hdepth, Nat.not_le.2 hdepth]
    -- the record is taken if its references point to something and there is a place for its block
    · rw [if_neg hused, if_neg hdepth]
      cases hrefs : unresolvedIn? around (building.nest.closeTo record.depth) record.params with
      | some problem =>
        have hbad := mt unresolvedIn?_eq_none_iff.2 (by rw [hrefs]; simp)
        simp [hrefs, hbad]
      | none =>
        have hgood := unresolvedIn?_eq_none_iff.1 hrefs
        simp only [hrefs, Except.bind_eq_ok_iff, place_eq_ok_iff, Except.pure_eq_ok_iff]
        simp only [hused, not_false_eq_true, Nat.le_of_not_lt hdepth, hgood, true_and, eq_comm]

end Building

end BlockApp
