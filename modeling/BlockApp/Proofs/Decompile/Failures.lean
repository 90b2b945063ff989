import BlockApp.Proofs.Class.Faults
import BlockApp.Proofs.Decompile.Brackets

/-!
# How making texts of a project fails

What a project can be refused for after it was read: its blocks, its views, the names of a selection, and
what is in its layouts and classes. No failure says that something of the program's own is missing.

* `Failure.IsOfProject` — the failures that there can be
* `Failure.AfterTrees` — those that are left when the blocks of all screens are trees
* `Artifacts.failsWith_ofProject`, `Artifacts.failsWith_of_trees` — these are all
-/

namespace BlockApp

/-- Whether a failure says what is wrong with a project or with the names of a selection. -/
def Failure.IsOfProject : Failure → Prop
  | .argument _ | .logicTree .. | .block .. | .viewTree .. => True
  | .component _ _ problem => problem ≠ .fieldType
  | _ => False

/-- Whether a failure is of the views of a project. -/
def Failure.OfViews : Failure → Prop
  | .viewTree .. => True
  | .component _ _ problem => problem ≠ .fieldType
  | _ => False

/-- Whether a failure is of the blocks of a project. -/
def Failure.OfBlocks : Failure → Prop
  | .logicTree .. | .block .. => True
  | _ => False

/-- The failures of a project whose blocks are these trees. -/
inductive Failure.AfterTrees (trees : List LogicTree) : Failure → Prop
  | argument (problem : ArgumentProblem) : AfterTrees trees (.argument problem)
  | noActivity (place : LogicPlace) : AfterTrees trees (.logicTree place .noActivity)
  | views {failure : Failure} (h : failure.OfViews) : AfterTrees trees failure
  | code {failure : Failure} {tree : LogicTree} {handler : Handler} (htree : tree ∈ trees)
    (hhandler : handler ∈ tree.handlers)
    (h : failure.OfCode tree.screen handler.key (rowsOf 0 handler.blocks)) : AfterTrees trees failure

theorem Failure.OfViews.isOfProject {failure : Failure} (h : failure.OfViews) :
    failure.IsOfProject := by
  cases failure with
  | viewTree => trivial
  | component => exact h
  | _ => exact h.elim

theorem Failure.OfBlocks.isOfProject {failure : Failure} (h : failure.OfBlocks) :
    failure.IsOfProject := by
  cases failure with
  | logicTree | block => trivial
  | _ => exact h.elim

theorem Failure.OfCode.ofBlocks {screen key : String} {rows : List Row} {failure : Failure}
    (h : failure.OfCode screen key rows) : failure.OfBlocks := by
  cases failure with
  | logicTree | block => trivial
  | _ => exact h

theorem Failure.AfterTrees.isOfProject {trees : List LogicTree} {failure : Failure}
    (h : failure.AfterTrees trees) : failure.IsOfProject := by
  cases h with
  | argument | noActivity => trivial
  | views h => exact h.isOfProject
  | code _ _ h => exact h.ofBlocks.isOfProject

/-- **A wrong number of parameters that is found in trees** is that of a statement or of a call. -/
theorem Failure.AfterTrees.exists_row {trees : List LogicTree} {place : LogicPlace} {tag : String}
    {expected found : Nat}
    (h : AfterTrees trees (.logicTree place (.parameterCount tag expected found))) :
    ∃ tree ∈ trees, ∃ handler ∈ tree.handlers,
      (∃ id, place = ⟨tree.screen, handler.key, id, none⟩) ∧
      ∃ row ∈ rowsOf 0 handler.blocks, row.WrongCount tag expected found := by
  cases h with
  | views h => exact h.elim
  | code htree hhandler h => exact ⟨_, htree, _, hhandler, h.1, h.2 tag expected found rfl⟩

/-! ## Blocks -/

theorem Handler.failsWith_ofRecords (screen : String) (declarations : Declarations)
    (used : List String) (key : String) (records : List BlockRecord) :
    (ofRecords screen declarations used key records).FailsWith Failure.OfBlocks := by
  unfold ofRecords
  split
  · exact .error trivial
  · refine .bind (.mapError fun _ _ => trivial) fun _ _ => .bind ?_ fun _ _ => .pure _
    exact .foldlM fun _ _ _ => .mapError fun _ _ => trivial

theorem LogicTree.failsWith_handlersOf (screen : String) (declarations : Declarations)
    (used : List String) (handlers : List (String × List BlockRecord)) :
    (handlersOf screen declarations used handlers).FailsWith Failure.OfBlocks := by
  induction handlers generalizing used with
  | nil => exact .ok _
  | cons handler handlers ih =>
    exact .bind (Handler.failsWith_ofRecords _ _ _ _ _) fun _ _ => .bind (ih _) fun _ _ => .pure _

theorem LogicSection.failsWith_trees (logic : LogicSection) :
    logic.trees.FailsWith Failure.OfBlocks :=
  .mapM fun _ _ => .bind (LogicTree.failsWith_handlersOf _ _ _ _) fun _ _ => .pure _

/-! ## Views -/

theorem ViewTree.failsWith_ofRoot (screen : String) (records : List ViewRecord) (root : ViewRecord) :
    (ofRoot screen records root).FailsWith Failure.OfViews := by
  unfold ofRoot
  split
  · exact .error trivial
  · dsimp only
    split
    · exact .error trivial
    · split
      · exact .error trivial
      · exact .ok _

theorem ViewTree.failsWith_ofScreen (screen : ViewScreen) :
    (ofScreen screen).FailsWith Failure.OfViews := by
  unfold ofScreen
  split
  · exact .error trivial
  · split
    · exact failsWith_ofRoot _ _ _
    · exact .error trivial

theorem ViewSection.failsWith_trees (view : ViewSection) : view.trees.FailsWith Failure.OfViews :=
  .mapM fun screen _ => ViewTree.failsWith_ofScreen screen

theorem ViewIndex.failsWith_ofTree (tree : ViewTree) (referenced : List String) :
    (ofTree tree referenced).FailsWith Failure.OfViews := by
  refine .bind (.mapM fun node _ => ?_) fun _ _ => .pure _
  unfold entryOf
  split
  · exact .error fun h => ComponentProblem.noConfusion h
  · exact .ok _

/-! ## Layouts -/

namespace Layout

theorem failsWith_attributesOf (assets : Assets) (screen : String) (inside : Option Component)
    (type : Component) (record : ViewRecord) :
    (attributesOf assets screen inside type record).FailsWith Failure.OfViews := by
  refine .bind (.mapM fun attr _ => ?_) fun _ _ => .pure _
  unfold attributeOf
  dsimp only
  split
  · exact .error nofun
  · split
    · exact .error nofun
    · split
      · exact .ok _
      · exact .bind (.mapError fun _ _ => trivial) fun _ _ => .pure _

mutual

theorem failsWith_elementOf (assets : Assets) (screen : String) (inside : Option Component)
    (node : ViewNode) : (elementOf assets screen inside node).FailsWith Failure.OfViews := by
  match node with
  | .mk record children =>
    rw [elementOf]
    split
    · exact .error nofun
    · exact .bind (failsWith_attributesOf _ _ _ _ _) fun _ _ =>
        .bind (failsWith_elementsOf assets screen _ children) fun _ _ => .pure _
  termination_by structural node

theorem failsWith_elementsOf (assets : Assets) (screen : String) (inside : Component)
    (nodes : List ViewNode) : (elementsOf assets screen inside nodes).FailsWith Failure.OfViews := by
  match nodes with
  | [] => exact .ok _
  | node :: nodes =>
    rw [elementsOf]
    exact .bind (failsWith_elementOf assets screen _ node) fun _ _ =>
      .bind (failsWith_elementsOf assets screen inside nodes) fun _ _ => .pure _
  termination_by structural nodes

end

theorem failsWith_ofTree (assets : Assets) (metadata : Metadata) (indent : String)
    (tree : ViewTree) : (ofTree assets metadata indent tree).FailsWith Failure.OfViews := by
  refine .bind (.bind (failsWith_elementOf _ _ _ _) fun _ _ => ?_) fun _ _ => .pure _
  split <;> exact .pure _

end Layout

/-! ## Projects -/

namespace Artifacts

variable {texts : Sections String} {skipped : List String} {project : Project}
  {logicTrees : List LogicTree} {viewTrees : List ViewTree}

theorem failsWith_checkLogic : (checkLogic project logicTrees).FailsWith
    (Failure.AfterTrees logicTrees) := by
  unfold checkLogic
  split
  · exact .error (.noActivity _)
  · exact .ok _

theorem failsWith_checkNames (selection : Selection) :
    (selection.checkNames project).FailsWith (Failure.AfterTrees logicTrees) := by
  unfold Selection.checkNames
  split
  · exact .error (.argument _)
  · split
    · exact .error (.argument _)
    · exact .pure _

/-- The handlers of a class are those of a tree. -/
theorem exists_tree_of_mem_handlers {activity : String} {handler : Handler}
    (h : handler ∈ (logicOf logicTrees activity).handlers) :
    logicOf logicTrees activity ∈ logicTrees := by
  unfold logicOf at h ⊢
  cases hfind : logicTrees.find? (·.screen == activity) with
  | none => rw [hfind] at h; exact absurd h List.not_mem_nil
  | some tree => exact List.mem_of_find?_eq_some hfind

theorem failsWith_sourceEntry (hlogic : ∀ tree ∈ logicTrees, tree.Sound) (settings : Settings)
    (tree : ViewTree) :
    (sourceEntry settings project logicTrees tree).FailsWith (Failure.AfterTrees logicTrees) := by
  refine .bind (.bind ((ViewIndex.failsWith_ofTree tree _).mono fun _ => .views) fun _ _ => .pure _)
    fun c hclass => .bind ?_ fun _ _ => .pure _
  simp only [classOf, Except.bind_eq_ok_iff, Except.pure_eq_ok_iff] at hclass
  obtain ⟨views, hviews, rfl⟩ := hclass
  refine (ActivityClass.failsWith_source (LogicTree.sound_logicOf hlogic _)
    (ViewIndex.known_of_ofTree hviews) _).mono fun failure h => ?_
  rcases h with ⟨name, type, rfl⟩ | ⟨handler, hhandler, h⟩
  · exact .views (by simp [Failure.OfViews])
  · exact .code (exists_tree_of_mem_handlers hhandler) hhandler h

/-- **What can fail when the blocks of all screens are trees.** -/
theorem failsWith_of_trees (htrees : project.logic.trees = .ok logicTrees)
    (hlogic : ∀ tree ∈ logicTrees, tree.Sound) (settings : Settings) (selection : Selection) :
    (ofProject settings project selection).FailsWith (Failure.AfterTrees logicTrees) := by
  unfold ofProject
  rw [htrees]
  refine .bind (.ok _) fun trees h => ?_
  cases h
  refine .bind ((ViewSection.failsWith_trees _).mono fun _ => .views) fun _ _ =>
    .bind failsWith_checkLogic fun _ _ => .bind (failsWith_checkNames selection) fun _ _ =>
      .bind (.mapM fun tree _ => ?_) fun _ _ => .bind (.mapM fun tree _ => ?_) fun _ _ => .pure _
  · exact .bind ((Layout.failsWith_ofTree _ _ _ _).mono fun _ => .views) fun _ _ => .pure _
  · exact failsWith_sourceEntry hlogic settings tree

/-- **What can fail for a project that was read.** -/
theorem failsWith_ofProject (hproject : Project.ofTexts texts skipped = .ok project)
    (settings : Settings) (selection : Selection) :
    (ofProject settings project selection).FailsWith Failure.IsOfProject := by
  obtain ⟨-, hlogicText, -⟩ := Project.sections_of_ofTexts hproject
  cases htrees : project.logic.trees with
  | error failure =>
    unfold ofProject
    rw [htrees]
    exact .error (LogicSection.failsWith_trees _ _ htrees).isOfProject
  | ok logicTrees =>
    exact (failsWith_of_trees htrees (LogicSection.sound_trees hlogicText htrees) settings
      selection).mono fun _ h => h.isOfProject

end Artifacts

end BlockApp
