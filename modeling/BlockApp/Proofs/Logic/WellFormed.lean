import BlockApp.Proofs.Class.References
import BlockApp.Proofs.Logic.Reading

/-!
# What the logic of a screen is made of

What is read from the logic section is more than the types say: names are identifiers, the parameters of
blocks are well formed, and the blocks of a handler are allowed where they stand. All of it holds of the
logic of every screen, also of one that the section says nothing about.

* `GroupContent.WellFormed`, `LogicSection.wellFormed_of_ofText` — what the groups of a text hold
* `LogicTree.Sound`, `LogicTree.sound_of_ofScreen` — what the logic of a screen holds
-/

namespace BlockApp

/-- Whether all parameters of rows are well formed. -/
def WellFormedRows (rows : List Row) : Prop := ∀ row ∈ rows, ∀ e ∈ row.params, e.WellFormed

theorem wellFormedRows_append {rows more : List Row} :
    WellFormedRows (rows ++ more) ↔ WellFormedRows rows ∧ WellFormedRows more :=
  List.forall_mem_append

theorem wellFormedRows_cons {row : Row} {rows : List Row} :
    WellFormedRows (row :: rows) ↔ (∀ e ∈ row.params, e.WellFormed) ∧ WellFormedRows rows :=
  List.forall_mem_cons

/-! ## Groups -/

/-- Whether a component is declared with names. -/
def ComponentDeclaration.Named (declared : ComponentDeclaration) : Prop :=
  Text.isIdentifier declared.type.toList = true ∧ Text.isIdentifier declared.name.toList = true

/-- Whether a more block and its parameters have names. -/
def MoreBlock.Named (declared : MoreBlock) : Prop :=
  Text.isIdentifier declared.name.toList = true ∧
    ∀ parameter ∈ declared.parameters, Text.isIdentifier parameter.name.toList = true

/-- Whether a group declares names, or blocks with well-formed parameters. -/
def GroupContent.WellFormed : GroupContent → Prop
  | .vars declared => ∀ d ∈ declared, Text.isIdentifier d.name.toList = true
  | .components declared => ∀ d ∈ declared, d.Named
  | .moreBlocks declared => ∀ d ∈ declared, d.Named
  | .handler records => ∀ record ∈ records, ∀ e ∈ record.params, e.WellFormed

namespace LogicSection

variable {logic : LogicSection} {fields : List String}

theorem isIdentifier_of_readMoreBlockParameter? {word : List Char} {parameter : MoreBlockParameter}
    (h : readMoreBlockParameter? word = some parameter) :
    Text.isIdentifier parameter.name.toList = true := by
  unfold readMoreBlockParameter? at h
  split at h
  · split at h
    · next hname =>
      obtain ⟨type, -, rfl⟩ := Option.map_eq_some_iff.1 h
      simpa using hname
    · cases h
  · cases h

theorem DeclaresMoreBlock.named {declared : MoreBlock} (h : DeclaresMoreBlock fields declared) :
    declared.Named := by
  obtain ⟨nameField, parameters, rfl, -, hname, hparameters⟩ := h
  refine ⟨hname, fun parameter hparameter => ?_⟩
  have hmem := List.mem_map_of_mem (f := some) hparameter
  rw [← hparameters] at hmem
  obtain ⟨word, -, hword⟩ := List.mem_map.1 hmem
  exact isIdentifier_of_readMoreBlockParameter? hword

theorem WritesBlock.wellFormed {record : BlockRecord} (h : WritesBlock fields record) :
    ∀ e ∈ record.params, e.WellFormed := by
  obtain ⟨_, _, _, cell, _, _, _, params, -, -, -, -, -, hcell, hrecord⟩ := h
  have hparams : record.params = params := congrArg BlockRecord.params hrecord
  rw [hparams]
  rcases Cell.readParameters_eq_ok_iff.1 hcell with ⟨-, rfl⟩ | ⟨items, -, hitems, -, rfl⟩
  · exact List.forall_mem_nil _
  · rintro e he
    obtain ⟨item, hitem, rfl⟩ := List.mem_map.1 he
    exact Cell.wellFormed_of_isItem (hitems item hitem)

theorem wellFormed_of_readContent {key : String} {records : List Record} {content : GroupContent}
    (h : readContent key records = .ok content) : content.WellFormed := by
  have hvars {list : Bool} {declared : List VariableDeclaration}
      (hread : records.mapM (readVariable list) = .ok declared) :
      ∀ d ∈ declared, Text.isIdentifier d.name.toList = true := by
    intro d hd
    obtain ⟨record, -, hrecord⟩ := Except.exists_source_of_mapM hread hd
    obtain ⟨_, _, _, -, -, -, -, hname⟩ := declaresVariable_of_readVariable hrecord
    exact hname
  cases readsAs_of_readContent h with
  | vars hread | lists hread => exact hvars hread
  | components hread =>
    intro d hd
    obtain ⟨record, -, hrecord⟩ := Except.exists_source_of_mapM hread hd
    obtain ⟨_, _, _, -, -, hnamed⟩ := declaresComponent_of_readComponent hrecord
    exact hnamed
  | moreBlocks hread =>
    intro d hd
    obtain ⟨record, -, hrecord⟩ := Except.exists_source_of_mapM hread hd
    exact (declaresMoreBlock_of_readMoreBlock hrecord).named
  | handler _ hread =>
    intro block hblock
    obtain ⟨record, -, hrecord⟩ := Except.exists_source_of_mapM hread hblock
    exact (writesBlock_of_readBlock hrecord).wellFormed

/-- **The groups of a text declare names, and blocks with well-formed parameters.** -/
theorem wellFormed_of_ofText {text : String} (h : ofText text = .ok logic) :
    ∀ group ∈ logic.groups, group.content.WellFormed := by
  obtain ⟨groups, -, hread⟩ := ofText_eq_ok_iff.1 h
  intro made hmade
  obtain ⟨group, -, hgroup⟩ := Except.exists_source_of_mapM (mapM_readGroup_of_readGroups hread) hmade
  exact wellFormed_of_readContent (readGroup_eq_ok_iff.1 hgroup).2

end LogicSection

/-! ## Screens -/

/-- Whether all that is declared has names. -/
structure Declarations.Named (declarations : Declarations) : Prop where
  vars : ∀ d ∈ declarations.vars, Text.isIdentifier d.name.toList = true
  components : ∀ d ∈ declarations.components, d.Named
  moreBlocks : ∀ d ∈ declarations.moreBlocks, d.Named

/-- Whether a handler is one of a screen with these declarations: it is told what its key says, its
blocks are allowed, and their parameters are well formed. -/
structure Handler.Sound (declarations : Declarations) (handler : Handler) : Prop where
  arguments : handler.binding.argumentsIn? declarations = .ok handler.arguments
  valid : ValidAll ⟨declarations, handler.arguments.map (·.name)⟩ (fun _ => False) handler.blocks
  wellFormed : WellFormedRows (rowsOf 0 handler.blocks)

/-- Whether logic is that of a screen. -/
structure LogicTree.Sound (tree : LogicTree) : Prop where
  named : tree.declarations.Named
  handlers : ∀ handler ∈ tree.handlers, handler.Sound tree.declarations

theorem Declarations.Named.of_moreBlock? {declarations : Declarations} (h : declarations.Named)
    {name : String} {declared : MoreBlock} (hfound : declarations.moreBlock? name = some declared) :
    declared.name = name ∧ declared.Named :=
  ⟨by simpa using List.find?_some hfound, h.moreBlocks declared (List.mem_of_find?_eq_some hfound)⟩

namespace LogicTree

theorem sound_none (screen : String) : (none screen).Sound :=
  ⟨⟨List.forall_mem_nil _, List.forall_mem_nil _, List.forall_mem_nil _⟩, List.forall_mem_nil _⟩

variable {logic : LogicSection} {screen : String} {tree : LogicTree}

theorem named_declarations (hgroups : ∀ group ∈ logic.groups, group.content.WellFormed)
    (screen : String) : (logic.declarations screen).Named := by
  have hscreen : ∀ group ∈ logic.ofScreen screen, group.content.WellFormed :=
    fun group hgroup => hgroups group (List.mem_filter.1 hgroup).1
  have hall {α : Type} {part : GroupContent → List α} {p : α → Prop}
      (hpart : ∀ content : GroupContent, content.WellFormed → ∀ a ∈ part content, p a) :
      ∀ a ∈ ((logic.ofScreen screen).map (·.content)).flatMap part, p a := by
    intro a ha
    obtain ⟨content, hcontent, ha⟩ := List.mem_flatMap.1 ha
    obtain ⟨group, hgroup, rfl⟩ := List.mem_map.1 hcontent
    exact hpart _ (hscreen group hgroup) a ha
  constructor
  · refine hall fun content hcontent => ?_
    cases content with
    | vars => exact hcontent
    | components | moreBlocks | handler => exact List.forall_mem_nil _
  · refine hall fun content hcontent => ?_
    cases content with
    | components => exact hcontent
    | vars | moreBlocks | handler => exact List.forall_mem_nil _
  · refine hall fun content hcontent => ?_
    cases content with
    | moreBlocks => exact hcontent
    | vars | components | handler => exact List.forall_mem_nil _

/-- **The logic that is made of a screen is sound.** -/
theorem sound_of_ofScreen (hgroups : ∀ group ∈ logic.groups, group.content.WellFormed)
    (h : ofScreen logic screen = .ok tree) : tree.Sound := by
  have hdeclarations := declarations_of_ofScreen h
  refine ⟨hdeclarations ▸ named_declarations hgroups screen, fun handler hhandler => ?_⟩
  obtain ⟨used, key, records, hmem, hrecords⟩ := exists_records_of_ofScreen h hhandler
  obtain ⟨group, hgroup, -, hcontent⟩ := exists_group_of_mem_handlers hmem
  obtain ⟨-, -, harguments, hvalid, hrows, -⟩ := Handler.ofRecords_eq_ok_iff.1 hrecords
  rw [← hdeclarations] at harguments hvalid
  refine ⟨harguments, hvalid, ?_⟩
  rw [hrows]
  intro row hrow
  obtain ⟨record, hrecord, rfl⟩ := List.mem_map.1 hrow
  -- the records are those of a group that was read
  have hwell := hgroups group hgroup
  cases hgroupContent : group.content with
  | handler found =>
    rw [hgroupContent] at hwell hcontent
    cases hcontent
    exact hwell record hrecord
  | vars | components | moreBlocks =>
    rw [hgroupContent] at hcontent
    cases hcontent

end LogicTree

end BlockApp
