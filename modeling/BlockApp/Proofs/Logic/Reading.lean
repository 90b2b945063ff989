import BlockApp.Logic.Section
import BlockApp.Proofs.Cell.Print
import BlockApp.Proofs.View.Names

/-!
# Reading the logic section

What the records and groups of the logic section are read as, said of their fields alone. The lines that
they stand on are kept for messages and make no difference to what is read.

* `LogicSection.DeclaresVariable`, `DeclaresComponent`, `DeclaresMoreBlock`, `WritesBlock` — fields
  and what they are read as
* `LogicSection.map_eq_map_of_mapM_read` — records of the same fields are read as the same
* `LogicSection.ReadsAs` — what the records of a group are read as, by its key
* `LogicSection.readGroup`, `LogicSection.mapM_readGroup_of_readGroups` — a group without the others
* `LogicSection.readGroups_cons_eq_ok_iff` — what is read of the first of the groups
* `LogicSection.unnumbered_of_readContent` — equal fields are read as the same
* `LogicSection.nodup_of_ofText` — no two groups of a section have the same screen and key
-/

namespace BlockApp

theorem Section.choiceField_eq_ok_iff {α : Type} {read : String → Option α} {name what field : String}
    {line : Nat} {choice : α} :
    choiceField read name what line field = .ok choice ↔ read (Text.unescape field) = some choice := by
  unfold choiceField failAt
  cases read (Text.unescape field) <;> simp

theorem Section.failAt_ne_ok {α : Type} {name : String} {line : Int} {problem : SectionProblem}
    {a : α} : failAt name line problem ≠ .ok a := nofun

theorem Section.wrongCount_ne_ok {α : Type} {name kind : String} {record : Record} {expected : Nat}
    {a : α} : wrongCount name kind record expected ≠ .ok a := nofun

/-- A block on no line in particular. -/
def BlockRecord.unnumbered (record : BlockRecord) : BlockRecord := { record with line := 0 }

/-- What a group holds, on no lines in particular. -/
def GroupContent.unnumbered : GroupContent → GroupContent
  | .handler records => .handler (records.map (·.unnumbered))
  | .vars declared => .vars declared
  | .components declared => .components declared
  | .moreBlocks declared => .moreBlocks declared

/-- A group on no lines in particular. -/
def LogicGroup.unnumbered (group : LogicGroup) : LogicGroup :=
  { group with content := group.content.unnumbered }

namespace LogicSection

variable {record : Record} {fields : List String}

/-! ## Records -/

/-- Whether fields declare a variable, or a list of what there are lists of. -/
def DeclaresVariable (list : Bool) (fields : List String) (declared : VariableDeclaration) : Prop :=
  ∃ typeField nameField type, fields = [typeField, nameField] ∧
    ValueType.ofName? (Text.unescape typeField) = some type ∧
    (if list then (ElementType.ofValue? type).map .list else some (.single type)) =
      some declared.shape ∧
    declared.name = Text.unescape nameField ∧ Text.isIdentifier declared.name.toList = true

theorem declaresVariable_of_readVariable {list : Bool} {declared : VariableDeclaration}
    (h : readVariable list record = .ok declared) : DeclaresVariable list record.fields declared := by
  unfold readVariable at h
  dsimp only at h
  split at h
  · next typeField nameField hfields =>
    rw [Except.bind_eq_ok_iff] at h
    obtain ⟨type, htype, h⟩ := h
    rw [Section.choiceField_eq_ok_iff] at htype
    refine ⟨typeField, nameField, type, hfields, htype, ?_⟩
    cases list with
    | false =>
      simp only [Bool.false_eq_true, if_false, Except.bind_eq_ok_iff, Except.pure_eq_ok_iff,
        Section.identifierField_eq_ok_iff] at h
      obtain ⟨shape, rfl, name, ⟨rfl, hname⟩, rfl⟩ := h
      exact ⟨rfl, rfl, hname⟩
    | true =>
      cases helement : ElementType.ofValue? type with
      | none => simp [helement, Section.failAt, bind, Except.bind] at h
      | some element =>
        simp only [if_true, helement, Except.bind_eq_ok_iff, Except.pure_eq_ok_iff,
          Section.identifierField_eq_ok_iff] at h
        obtain ⟨shape, rfl, name, ⟨rfl, hname⟩, rfl⟩ := h
        exact ⟨rfl, rfl, hname⟩
  · exact absurd h Section.wrongCount_ne_ok

theorem DeclaresVariable.unique {list : Bool} {declared other : VariableDeclaration}
    (h : DeclaresVariable list fields declared) (h' : DeclaresVariable list fields other) :
    declared = other := by
  obtain ⟨typeField, nameField, type, rfl, htype, hshape, hname, -⟩ := h
  obtain ⟨_, _, type', hfields, htype', hshape', hname', -⟩ := h'
  cases hfields
  cases htype.symm.trans htype'
  cases declared
  cases other
  cases hshape.symm.trans hshape'
  cases hname.trans hname'.symm
  rfl

/-- Whether fields declare a component. -/
def DeclaresComponent (fields : List String) (declared : ComponentDeclaration) : Prop :=
  ∃ typeField nameField extra, fields = [typeField, nameField, extra] ∧
    declared = ⟨Text.unescape typeField, Text.unescape nameField, Text.unescape extra⟩ ∧
    Text.isIdentifier declared.type.toList = true ∧ Text.isIdentifier declared.name.toList = true

theorem declaresComponent_of_readComponent {declared : ComponentDeclaration}
    (h : readComponent record = .ok declared) : DeclaresComponent record.fields declared := by
  unfold readComponent at h
  split at h
  · next typeField nameField extra hfields =>
    simp only [Except.bind_eq_ok_iff, Except.pure_eq_ok_iff, Section.identifierField_eq_ok_iff] at h
    obtain ⟨type, ⟨rfl, htype⟩, name, ⟨rfl, hname⟩, rfl⟩ := h
    exact ⟨typeField, nameField, extra, hfields, rfl, htype, hname⟩
  · exact absurd h Section.wrongCount_ne_ok

theorem DeclaresComponent.unique {declared other : ComponentDeclaration}
    (h : DeclaresComponent fields declared) (h' : DeclaresComponent fields other) :
    declared = other := by
  obtain ⟨typeField, nameField, extra, rfl, rfl, -⟩ := h
  obtain ⟨_, _, _, hfields, rfl, -⟩ := h'
  cases hfields
  rfl

/-- Whether fields declare a more block. -/
def DeclaresMoreBlock (fields : List String) (declared : MoreBlock) : Prop :=
  ∃ nameField parameters, fields = [nameField, parameters] ∧
    declared.name = Text.unescape nameField ∧ Text.isIdentifier declared.name.toList = true ∧
    (Text.words (Text.unescape parameters).toList).map readMoreBlockParameter? =
      declared.parameters.map some

theorem declaresMoreBlock_of_readMoreBlock {declared : MoreBlock}
    (h : readMoreBlock record = .ok declared) : DeclaresMoreBlock record.fields declared := by
  unfold readMoreBlock at h
  split at h
  · next nameField parameters hfields =>
    simp only [Except.bind_eq_ok_iff, Except.pure_eq_ok_iff, Section.identifierField_eq_ok_iff] at h
    obtain ⟨name, ⟨rfl, hname⟩, read, hread, rfl⟩ := h
    refine ⟨nameField, parameters, hfields, rfl, hname, ?_⟩
    refine (Except.map_eq_of_mapM hread fun word parameter hword => ?_).symm
    split at hword
    · next found hfound =>
      cases hword
      exact hfound.symm
    · exact absurd hword Section.failAt_ne_ok
  · exact absurd h Section.wrongCount_ne_ok

theorem DeclaresMoreBlock.unique {declared other : MoreBlock}
    (h : DeclaresMoreBlock fields declared) (h' : DeclaresMoreBlock fields other) :
    declared = other := by
  obtain ⟨nameField, parameters, rfl, hname, -, hparameters⟩ := h
  obtain ⟨_, _, hfields, hname', -, hparameters'⟩ := h'
  cases hfields
  cases declared
  cases other
  cases hname.trans hname'.symm
  have hall := (List.map_inj_right fun _ _ => Option.some.inj).1 (hparameters.symm.trans hparameters')
  cases hall
  rfl

/-- Whether fields write a block, on whatever line. -/
def WritesBlock (fields : List String) (block : BlockRecord) : Prop :=
  ∃ idField depthField tagField cell numeral depth tag params,
    fields = [idField, depthField, tagField, cell] ∧
    Text.Numeral.readUnsigned? depthField.toList = some numeral ∧ numeral.value = .ok depth ∧
    tag = Text.trim (Text.unescapeChars tagField.toList) ∧ tag ≠ [] ∧
    Cell.readParameters cell.toList = .ok params ∧
    block.unnumbered = ⟨0, Text.unescape idField, depth.toNat, String.ofList tag, params⟩

theorem writesBlock_of_readBlock {block : BlockRecord} (h : readBlock record = .ok block) :
    WritesBlock record.fields block := by
  unfold readBlock at h
  split at h
  · next idField depthField tagField cell hfields =>
    split at h
    · exact absurd h Section.failAt_ne_ok
    · next numeral hnumeral =>
      dsimp only at h
      split at h
      · exact absurd h Section.failAt_ne_ok
      · next htag =>
        simp only [Except.bind_eq_ok_iff, Except.pure_eq_ok_iff, Except.mapError_eq_ok_iff,
          Section.parameters] at h
        obtain ⟨depth, hdepth, params, hparams, rfl⟩ := h
        exact ⟨idField, depthField, tagField, cell, numeral, depth, _, params, hfields, hnumeral, hdepth,
          rfl, htag, hparams, rfl⟩
  · exact absurd h Section.wrongCount_ne_ok

theorem WritesBlock.unique {block other : BlockRecord} (h : WritesBlock fields block)
    (h' : WritesBlock fields other) : block.unnumbered = other.unnumbered := by
  obtain ⟨_, _, _, _, _, _, _, _, rfl, hnumeral, hdepth, rfl, -, hparams, hblock⟩ := h
  obtain ⟨_, _, _, _, _, _, _, _, hfields, hnumeral', hdepth', rfl, -, hparams', hblock'⟩ := h'
  cases hfields
  cases hnumeral.symm.trans hnumeral'
  cases hdepth.symm.trans hdepth'
  cases hparams.symm.trans hparams'
  rw [hblock, hblock']

/-! ## Groups -/

/-- Records whose fields have one meaning each, up to `part`, are read as the same if their fields are. -/
theorem map_eq_map_of_mapM_read {α β : Type} {read : Record → Except Failure α}
    {Means : List String → α → Prop} (part : α → β) {records records' : List Record}
    {found found' : List α}
    (hread : ∀ {record a}, read record = .ok a → Means record.fields a)
    (hunique : ∀ {fields a a'}, Means fields a → Means fields a' → part a = part a')
    (h : records.mapM read = .ok found) (h' : records'.mapM read = .ok found')
    (hfields : records.map (·.fields) = records'.map (·.fields)) : found.map part = found'.map part := by
  refine Except.map_eq_map_of_mapM (g := (·.fields)) h h' ?_ hfields
  intro record record' a a' hrecord ha ha'
  have hmeans := hread ha'
  rw [← hrecord] at hmeans
  exact hunique (hread ha) hmeans

theorem eq_of_mapM_readVariable {list : Bool} {records records' : List Record}
    {declared declared' : List VariableDeclaration}
    (h : records.mapM (readVariable list) = .ok declared)
    (h' : records'.mapM (readVariable list) = .ok declared')
    (hfields : records.map (·.fields) = records'.map (·.fields)) : declared = declared' := by
  simpa using map_eq_map_of_mapM_read id declaresVariable_of_readVariable
    DeclaresVariable.unique h h' hfields

theorem eq_of_mapM_readComponent {records records' : List Record}
    {declared declared' : List ComponentDeclaration} (h : records.mapM readComponent = .ok declared)
    (h' : records'.mapM readComponent = .ok declared')
    (hfields : records.map (·.fields) = records'.map (·.fields)) : declared = declared' := by
  simpa using map_eq_map_of_mapM_read id declaresComponent_of_readComponent
    DeclaresComponent.unique h h' hfields

theorem eq_of_mapM_readMoreBlock {records records' : List Record} {declared declared' : List MoreBlock}
    (h : records.mapM readMoreBlock = .ok declared) (h' : records'.mapM readMoreBlock = .ok declared')
    (hfields : records.map (·.fields) = records'.map (·.fields)) : declared = declared' := by
  simpa using map_eq_map_of_mapM_read id declaresMoreBlock_of_readMoreBlock
    DeclaresMoreBlock.unique h h' hfields

/-- What records are read as under a key. -/
inductive ReadsAs (records : List Record) : String → GroupContent → Prop
  | vars {declared : List VariableDeclaration} (h : records.mapM (readVariable false) = .ok declared) :
    ReadsAs records "var" (.vars declared)
  | lists {declared : List VariableDeclaration} (h : records.mapM (readVariable true) = .ok declared) :
    ReadsAs records "list" (.vars declared)
  | components {declared : List ComponentDeclaration} (h : records.mapM readComponent = .ok declared) :
    ReadsAs records "components" (.components declared)
  | moreBlocks {declared : List MoreBlock} (h : records.mapM readMoreBlock = .ok declared) :
    ReadsAs records "func" (.moreBlocks declared)
  | handler {key : String} {blocks : List BlockRecord}
    (hother : key ∉ ["var", "list", "components", "func"]) (h : records.mapM readBlock = .ok blocks) :
    ReadsAs records key (.handler blocks)

theorem readsAs_of_readContent {key : String} {records : List Record} {content : GroupContent}
    (h : readContent key records = .ok content) : ReadsAs records key content := by
  unfold readContent at h
  split at h
  · next hkey =>
    obtain ⟨declared, hread, rfl⟩ := Except.map_eq_ok_iff.1 h
    exact hkey ▸ .vars hread
  next hvar =>
  split at h
  · next hkey =>
    obtain ⟨declared, hread, rfl⟩ := Except.map_eq_ok_iff.1 h
    exact hkey ▸ .lists hread
  next hlist =>
  split at h
  · next hkey =>
    obtain ⟨declared, hread, rfl⟩ := Except.map_eq_ok_iff.1 h
    exact hkey ▸ .components hread
  next hcomponents =>
  split at h
  · next hkey =>
    obtain ⟨declared, hread, rfl⟩ := Except.map_eq_ok_iff.1 h
    exact hkey ▸ .moreBlocks hread
  · next hfunc =>
    obtain ⟨blocks, hread, rfl⟩ := Except.map_eq_ok_iff.1 h
    exact .handler (by simp [hvar, hlist, hcomponents, hfunc]) hread

/-- Equal fields are read as the same under a key. -/
theorem unnumbered_of_readContent {key : String} {records records' : List Record}
    {content content' : GroupContent} (h : readContent key records = .ok content)
    (h' : readContent key records' = .ok content')
    (hfields : records.map (·.fields) = records'.map (·.fields)) :
    content.unnumbered = content'.unnumbered := by
  cases readsAs_of_readContent h with
  | vars hread | lists hread =>
    simp only [readContent, String.reduceEq, reduceIte, Except.map_eq_ok_iff] at h'
    obtain ⟨declared', hread', rfl⟩ := h'
    rw [eq_of_mapM_readVariable hread hread' hfields]
  | components hread =>
    simp only [readContent, String.reduceEq, reduceIte, Except.map_eq_ok_iff] at h'
    obtain ⟨declared', hread', rfl⟩ := h'
    rw [eq_of_mapM_readComponent hread hread' hfields]
  | moreBlocks hread =>
    simp only [readContent, String.reduceEq, reduceIte, Except.map_eq_ok_iff] at h'
    obtain ⟨declared', hread', rfl⟩ := h'
    rw [eq_of_mapM_readMoreBlock hread hread' hfields]
  | handler hother hread =>
    simp only [List.mem_cons, List.not_mem_nil, or_false, not_or] at hother
    simp only [readContent, hother, reduceIte, Except.map_eq_ok_iff] at h'
    obtain ⟨blocks', hread', rfl⟩ := h'
    rw [GroupContent.unnumbered, GroupContent.unnumbered, map_eq_map_of_mapM_read _ writesBlock_of_readBlock
      WritesBlock.unique hread hread' hfields]

/-- Reads a group without a look at the others. -/
def readGroup (group : Group) : Except Failure LogicGroup :=
  match readHeader? group.header with
  | none => Section.failAt sectionName group.line (.invalid "logic header" group.header)
  | some (screen, key) => do return ⟨screen, key, ← readContent key group.records⟩

theorem readGroup_eq_ok_iff {group : Group} {made : LogicGroup} :
    readGroup group = .ok made ↔
      readHeader? group.header = some (made.screen, made.key) ∧
        readContent made.key group.records = .ok made.content := by
  unfold readGroup
  split
  · next hheader =>
    simp [hheader, Section.failAt]
  · next screen key hheader =>
    simp only [Except.bind_eq_ok_iff, Except.pure_eq_ok_iff, hheader, Option.some.injEq,
      Prod.mk.injEq]
    constructor
    · rintro ⟨content, hcontent, rfl⟩
      exact ⟨⟨rfl, rfl⟩, hcontent⟩
    · rintro ⟨⟨rfl, rfl⟩, hcontent⟩
      exact ⟨made.content, hcontent, rfl⟩

/-- The screen and the key of a group. -/
def place (group : LogicGroup) : String × String := (group.screen, group.key)

/-- The first of the groups is read by itself, and has a place that none before has. -/
theorem readGroups_cons_eq_ok_iff {seen : List (String × String)} {group : Group} {groups : List Group}
    {found : List LogicGroup} :
    readGroups seen (group :: groups) = .ok found ↔
      ∃ made others, readGroup group = .ok made ∧ place made ∉ seen ∧
        readGroups (place made :: seen) groups = .ok others ∧ found = made :: others := by
  rw [readGroups, readGroup]
  cases readHeader? group.header with
  | none => simp [Section.failAt]
  | some header =>
    obtain ⟨screen, key⟩ := header
    simp only [Except.bind_eq_ok_iff, Except.pure_eq_ok_iff]
    by_cases hseen : (screen, key) ∈ seen
    · rw [if_pos hseen]
      refine iff_of_false Section.failAt_ne_ok ?_
      rintro ⟨_, _, ⟨content, -, rfl⟩, hnew, -⟩
      exact hnew hseen
    · rw [if_neg hseen]
      simp only [Except.bind_eq_ok_iff, Except.pure_eq_ok_iff]
      constructor
      · rintro ⟨content, hcontent, others, hothers, rfl⟩
        exact ⟨_, others, ⟨content, hcontent, rfl⟩, hseen, hothers, rfl⟩
      · rintro ⟨_, others, ⟨content, hcontent, rfl⟩, -, hothers, rfl⟩
        exact ⟨content, hcontent, others, hothers, rfl⟩

/-- Groups that are read one after the other are read one by one. -/
theorem mapM_readGroup_of_readGroups {seen : List (String × String)} {groups : List Group}
    {found : List LogicGroup} (h : readGroups seen groups = .ok found) :
    groups.mapM readGroup = .ok found := by
  induction groups generalizing seen found with
  | nil => exact h
  | cons group groups ih =>
    obtain ⟨made, others, hmade, -, hothers, rfl⟩ := readGroups_cons_eq_ok_iff.1 h
    exact Except.mapM_cons_eq_ok_iff.2 ⟨_, _, hmade, ih hothers, rfl⟩

theorem ofText_eq_ok_iff {text : String} {logic : LogicSection} :
    ofText text = .ok logic ↔
      ∃ groups, Section.splitGroups sectionName text = .ok groups ∧
        readGroups [] groups = .ok logic.groups := by
  simp only [ofText, Except.bind_eq_ok_iff, Except.pure_eq_ok_iff]
  constructor
  · rintro ⟨groups, hsplit, found, hread, rfl⟩
    exact ⟨groups, hsplit, hread⟩
  · rintro ⟨groups, hsplit, hread⟩
    exact ⟨groups, hsplit, _, hread, rfl⟩

/-! ## Places of groups -/

end LogicSection

end BlockApp
