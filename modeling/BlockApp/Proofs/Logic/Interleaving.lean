import BlockApp.Proofs.Logic.Reading
import BlockApp.Proofs.Nesting.Handler
import BlockApp.View.Index

/-!
# Screens among each other

The groups of the logic section stand in one list, but what a screen declares and does hangs on its own
groups alone: their headers, the fields of their records and the order among them. So the groups of one
screen may stand before, after or between those of another.

* `LogicSection.SameByScreen`, `LogicSection.Same` — texts, and sections, that hold the same for each
  screen
* `LogicSection.same_of_ofText` — such texts are read as such sections
* `LogicSection.Same.ofScreen_eq_ok_iff` — the same logic is made of every screen
* `LogicSection.Same.mem_referencedViews_iff` — the same views are referred to
-/

namespace BlockApp

/-- What a group holds as it is written: its header and the fields of its records. -/
def Group.written (group : Group) : String × List (List String) :=
  (group.header, group.records.map (·.fields))

/-- Whether the header of a group is of a screen. -/
def Group.isOf (screen : String) (group : Group) : Bool :=
  (LogicSection.readHeader? group.header).any (·.1 == screen)

namespace LogicSection

variable {logic logic' : LogicSection} {screen : String}

/-- The groups of a screen in the order of the text. -/
def writtenOf (screen : String) (groups : List Group) : List (String × List (List String)) :=
  (groups.filter (·.isOf screen)).map (·.written)

/-- Whether two texts hold the same groups for each screen, however those of different screens are
mixed. -/
def SameByScreen (text text' : String) : Prop :=
  ∃ groups groups', Section.splitGroups sectionName text = .ok groups ∧
    Section.splitGroups sectionName text' = .ok groups' ∧
    ∀ screen, writtenOf screen groups = writtenOf screen groups'

/-- Whether two sections hold the same for each screen, on whatever lines. -/
def Same (logic logic' : LogicSection) : Prop :=
  ∀ screen, (logic.ofScreen screen).map (·.unnumbered) = (logic'.ofScreen screen).map (·.unnumbered)

theorem Same.symm (h : Same logic logic') : Same logic' logic := fun screen => (h screen).symm

/-! ## Reading -/

theorem unnumbered_of_readGroup {group group' : Group} {made made' : LogicGroup}
    (h : readGroup group = .ok made) (h' : readGroup group' = .ok made')
    (hwritten : group.written = group'.written) : made.unnumbered = made'.unnumbered := by
  obtain ⟨hheader, hcontent⟩ := readGroup_eq_ok_iff.1 h
  obtain ⟨hheader', hcontent'⟩ := readGroup_eq_ok_iff.1 h'
  obtain ⟨hsame, hfields⟩ := Prod.mk.inj hwritten
  obtain ⟨screen, key, content⟩ := made
  obtain ⟨screen', key', content'⟩ := made'
  rw [hsame, hheader'] at hheader
  cases hheader
  simp only [LogicGroup.unnumbered, unnumbered_of_readContent hcontent hcontent' hfields]

theorem isOf_of_readGroup (screen : String) {group : Group} {made : LogicGroup}
    (h : readGroup group = .ok made) : (made.screen == screen) = group.isOf screen := by
  rw [Group.isOf, (readGroup_eq_ok_iff.1 h).1]
  rfl

/-- **Texts that hold the same groups for each screen are read as the same for each screen.** -/
theorem same_of_ofText {text text' : String} (h : ofText text = .ok logic)
    (h' : ofText text' = .ok logic') (hsame : SameByScreen text text') : Same logic logic' := by
  obtain ⟨groups, groups', hsplit, hsplit', hwritten⟩ := hsame
  obtain ⟨_, hfound, hread⟩ := ofText_eq_ok_iff.1 h
  obtain ⟨_, hfound', hread'⟩ := ofText_eq_ok_iff.1 h'
  cases hsplit.symm.trans hfound
  cases hsplit'.symm.trans hfound'
  intro screen
  have hmade := Except.mapM_filter (mapM_readGroup_of_readGroups hread)
    fun group made hgroup => isOf_of_readGroup screen hgroup
  have hmade' := Except.mapM_filter (mapM_readGroup_of_readGroups hread')
    fun group made hgroup => isOf_of_readGroup screen hgroup
  refine Except.map_eq_map_of_mapM hmade hmade' ?_ (hwritten screen)
  intro group group' made made' hgroup hread hread'
  exact unnumbered_of_readGroup hread hread' hgroup

/-! ## Screens -/

theorem mem_screens_iff : screen ∈ logic.screens ↔ logic.ofScreen screen ≠ [] := by
  simp [screens, ofScreen, List.filter_eq_nil_iff]

theorem Same.mem_screens_iff (h : Same logic logic') :
    screen ∈ logic.screens ↔ screen ∈ logic'.screens := by
  rw [LogicSection.mem_screens_iff, LogicSection.mem_screens_iff, Ne, Ne,
    ← List.map_eq_nil_iff (f := (·.unnumbered)), h screen, List.map_eq_nil_iff]

/-- A part of groups that does not hang on lines is a part of groups on no lines. -/
theorem Same.flatMap_eq {α : Type} (h : Same logic logic') {part : LogicGroup → List α}
    (hpart : ∀ group, part group.unnumbered = part group) (screen : String) :
    (logic.ofScreen screen).flatMap part = (logic'.ofScreen screen).flatMap part := by
  have hlist (groups : List LogicGroup) :
      groups.flatMap part = (groups.map (·.unnumbered)).flatMap part := by
    simp only [List.flatMap_map, hpart]
  rw [hlist, h screen, ← hlist]

/-- The same is declared for each screen. -/
theorem Same.declarations_eq (h : Same logic logic') (screen : String) :
    logic.declarations screen = logic'.declarations screen := by
  simp only [declarations, List.flatMap_map]
  rw [h.flatMap_eq (fun ⟨_, _, content⟩ => by cases content <;> rfl),
    h.flatMap_eq (fun ⟨_, _, content⟩ => by cases content <;> rfl),
    h.flatMap_eq (fun ⟨_, _, content⟩ => by cases content <;> rfl)]

/-- A handler with its blocks, on no lines in particular. -/
def unnumberedHandler (handler : String × List BlockRecord) : String × List BlockRecord :=
  (handler.1, handler.2.map (·.unnumbered))

/-- Each screen has the same handlers with the same blocks. -/
theorem Same.handlers_eq (h : Same logic logic') (screen : String) :
    (logic.handlers screen).map unnumberedHandler = (logic'.handlers screen).map unnumberedHandler := by
  have hlist (groups : List LogicGroup) :
      (groups.filterMap fun group => group.content.handlerRecords?.map (group.key, ·)).map
        unnumberedHandler =
      (groups.map (·.unnumbered)).filterMap
        fun group => group.content.handlerRecords?.map (group.key, ·) := by
    rw [List.map_filterMap, List.filterMap_map]
    refine List.filterMap_congr fun group _ => ?_
    obtain ⟨_, _, content⟩ := group
    cases content <;> rfl
  rw [handlers, handlers, hlist, h screen, ← hlist]

/-! ## Handlers -/

theorem map_eq_map_of_unnumbered {α : Type} (part : BlockRecord → α)
    {records records' : List BlockRecord}
    (hpart : ∀ record, part record.unnumbered = part record)
    (h : records.map (·.unnumbered) = records'.map (·.unnumbered)) :
    records.map part = records'.map part := by
  have hall := congrArg (List.map part) h
  simpa only [List.map_map, Function.comp_def, hpart] using hall

/-- The lines of records make no difference to the handler that they are read as. -/
theorem ofRecords_eq_ok_of_unnumbered {key : String} {declarations : Declarations}
    {used : List String} {records records' : List BlockRecord} {handler : Handler}
    (h : Handler.ofRecords screen declarations used key records = .ok handler)
    (hsame : records.map (·.unnumbered) = records'.map (·.unnumbered)) :
    Handler.ofRecords screen declarations used key records' = .ok handler := by
  obtain ⟨hkey, hbinding, harguments, hvalid, hrows, hnodup, hnew⟩ := Handler.ofRecords_eq_ok_iff.1 h
  have hids := map_eq_map_of_unnumbered (·.blockId) (fun _ => rfl) hsame
  have hsame' := map_eq_map_of_unnumbered (·.row) (fun _ => rfl) hsame
  refine Handler.ofRecords_eq_ok_iff.2 ⟨hkey, hbinding, harguments, hvalid, hrows.trans hsame',
    hids ▸ hnodup, fun record hrecord hused => ?_⟩
  have hid : record.blockId ∈ records'.map (·.blockId) := List.mem_map_of_mem hrecord
  rw [← hids] at hid
  obtain ⟨other, hother, heq⟩ := List.mem_map.1 hid
  exact hnew other hother (heq ▸ hused)

/-- The lines of handlers make no difference to what they are read as. -/
theorem handlersOf_eq_ok_of_unnumbered {declarations : Declarations} {used : List String}
    {groups groups' : List (String × List BlockRecord)} {handlers : List Handler}
    (h : LogicTree.handlersOf screen declarations used groups = .ok handlers)
    (hsame : groups.map unnumberedHandler = groups'.map unnumberedHandler) :
    LogicTree.handlersOf screen declarations used groups' = .ok handlers := by
  induction groups generalizing used groups' handlers with
  | nil =>
    cases List.map_eq_nil_iff.1 hsame.symm
    exact h
  | cons group groups ih =>
    obtain ⟨⟨key', records'⟩, rest', rfl, hgroup, hrest'⟩ := List.map_eq_cons_iff.1 hsame.symm
    obtain ⟨key, records⟩ := group
    obtain ⟨rfl, hrecords⟩ := Prod.mk.inj hgroup
    simp only [LogicTree.handlersOf, Except.bind_eq_ok_iff, Except.pure_eq_ok_iff] at h ⊢
    obtain ⟨handler, hhandler, others, hothers, rfl⟩ := h
    refine ⟨handler, ofRecords_eq_ok_of_unnumbered hhandler hrecords.symm, others, ?_, rfl⟩
    rw [map_eq_map_of_unnumbered (·.blockId) (fun _ => rfl) hrecords]
    exact ih hothers hrest'.symm

/-! ## Trees -/

theorem Same.ofScreen_eq_ok (h : Same logic logic') {tree : LogicTree}
    (htree : LogicTree.ofScreen logic screen = .ok tree) :
    LogicTree.ofScreen logic' screen = .ok tree := by
  simp only [LogicTree.ofScreen, Except.bind_eq_ok_iff, Except.pure_eq_ok_iff] at htree ⊢
  obtain ⟨handlers, hhandlers, rfl⟩ := htree
  rw [h.declarations_eq] at hhandlers ⊢
  exact ⟨handlers, handlersOf_eq_ok_of_unnumbered hhandlers (h.handlers_eq screen), rfl⟩

/-- **The same logic is made of every screen.** -/
theorem Same.ofScreen_eq_ok_iff (h : Same logic logic') {tree : LogicTree} :
    LogicTree.ofScreen logic screen = .ok tree ↔ LogicTree.ofScreen logic' screen = .ok tree :=
  ⟨h.ofScreen_eq_ok, h.symm.ofScreen_eq_ok⟩

theorem screen_of_ofScreen {tree : LogicTree} (h : LogicTree.ofScreen logic screen = .ok tree) :
    tree.screen = screen := by
  simp only [LogicTree.ofScreen, Except.bind_eq_ok_iff, Except.pure_eq_ok_iff] at h
  obtain ⟨handlers, -, rfl⟩ := h
  rfl

/-- The logic of a screen among that of all screens. -/
theorem find?_eq_some_iff_of_trees {trees : List LogicTree} (h : logic.trees = .ok trees)
    {tree : LogicTree} :
    trees.find? (·.screen == screen) = some tree ↔
      screen ∈ logic.screens ∧ LogicTree.ofScreen logic screen = .ok tree := by
  constructor
  · intro hfind
    obtain ⟨found, hfound, htree⟩ := Except.exists_source_of_mapM h (List.mem_of_find?_eq_some hfind)
    have hscreen := List.find?_some hfind
    rw [screen_of_ofScreen htree, beq_iff_eq] at hscreen
    subst hscreen
    exact ⟨hfound, htree⟩
  · rintro ⟨hscreen, htree⟩
    obtain ⟨made, hmade, htree'⟩ := Except.exists_result_of_mapM h hscreen
    cases htree.symm.trans htree'
    -- whichever tree of the screen comes first, it is the one that is made of the screen
    have hsome : (trees.find? (·.screen == screen)).isSome := by
      rw [List.find?_isSome]
      exact ⟨tree, hmade, beq_iff_eq.2 (screen_of_ofScreen htree)⟩
    obtain ⟨first, hfirst⟩ := Option.isSome_iff_exists.1 hsome
    obtain ⟨found, -, hfound⟩ := Except.exists_source_of_mapM h (List.mem_of_find?_eq_some hfirst)
    have hsame := List.find?_some hfirst
    rw [screen_of_ofScreen hfound, beq_iff_eq] at hsame
    rw [hsame, htree] at hfound
    cases hfound
    exact hfirst

theorem Same.exists_trees (h : Same logic logic') {trees : List LogicTree}
    (htrees : logic.trees = .ok trees) : ∃ trees', logic'.trees = .ok trees' := by
  refine Except.exists_mapM_eq_ok_iff.2 fun screen hscreen => ?_
  obtain ⟨tree, -, htree⟩ := Except.exists_result_of_mapM htrees (h.mem_screens_iff.2 hscreen)
  exact ⟨tree, h.ofScreen_eq_ok htree⟩

/-- The logic of each screen is found as the same among that of all. -/
theorem Same.find?_eq (h : Same logic logic') {trees trees' : List LogicTree}
    (htrees : logic.trees = .ok trees) (htrees' : logic'.trees = .ok trees') (screen : String) :
    trees.find? (·.screen == screen) = trees'.find? (·.screen == screen) := by
  refine Option.ext fun tree => ?_
  rw [find?_eq_some_iff_of_trees htrees, find?_eq_some_iff_of_trees htrees', h.mem_screens_iff,
    h.ofScreen_eq_ok_iff]

/-! ## References to views -/

/-- The views that the blocks or the key of a group refer to. -/
def viewsOfGroup (group : LogicGroup) : List String :=
  ((group.content.handlerRecords?.getD []).flatMap fun record =>
    (Expr.referencesOf record.params).filterMap viewOfReference?) ++
  (group.content.handlerRecords?.bind fun _ => viewOfKey? group.key).toList

theorem mem_referencedViews_iff_exists {view : String} :
    view ∈ logic.referencedViews ↔
      ∃ screen, view ∈ (logic.ofScreen screen).flatMap viewsOfGroup := by
  have hgroups : view ∈ logic.referencedViews ↔ ∃ group ∈ logic.groups, view ∈ viewsOfGroup group := by
    simp only [referencedViews, records, viewsOfGroup, List.mem_append, List.mem_flatMap,
      List.mem_filterMap, Option.mem_toList, and_or_left, exists_or, List.mem_map]
    refine or_congr_left ⟨?_, ?_⟩
    · rintro ⟨_, ⟨group, hgroup, record, hrecord, rfl⟩, hview⟩
      exact ⟨group, hgroup, record, hrecord, hview⟩
    · rintro ⟨group, hgroup, record, hrecord, hview⟩
      exact ⟨_, ⟨group, hgroup, record, hrecord, rfl⟩, hview⟩
  rw [hgroups]
  constructor
  · rintro ⟨group, hgroup, hview⟩
    refine ⟨group.screen, List.mem_flatMap.2 ⟨group, ?_, hview⟩⟩
    exact List.mem_filter.2 ⟨hgroup, beq_self_eq_true _⟩
  · rintro ⟨screen, hview⟩
    obtain ⟨group, hgroup, hview⟩ := List.mem_flatMap.1 hview
    exact ⟨group, (List.mem_filter.1 hgroup).1, hview⟩

/-- **The same views are referred to.** -/
theorem Same.mem_referencedViews_iff (h : Same logic logic') {view : String} :
    view ∈ logic.referencedViews ↔ view ∈ logic'.referencedViews := by
  have hpart (group : LogicGroup) : viewsOfGroup group.unnumbered = viewsOfGroup group := by
    obtain ⟨_, _, content⟩ := group
    cases content with
    | handler records =>
      simp only [viewsOfGroup, LogicGroup.unnumbered, GroupContent.unnumbered,
        GroupContent.handlerRecords?, Option.getD_some, List.flatMap_map]
      rfl
    | vars | components | moreBlocks => rfl
  simp only [mem_referencedViews_iff_exists, h.flatMap_eq hpart]

end LogicSection

end BlockApp
