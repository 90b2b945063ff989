import BlockApp.Proofs.Decompile.Failures
import BlockApp.Proofs.Tables.Class

/-!
# Projects by tables

The trees and the texts of a project made with tables: the arguments of handlers are looked up by events
and by types of parameters, the view tree of a screen by its name, and classes as in `Tables.source`.

* `trees_eq` — the trees of a section have no gap
* `ofProject_eq` — a project that was read has no gap
* `Artifacts.ofProject_without_gaps` — what is left that can go wrong, and where parameters are counted
-/

namespace BlockApp.Tables

variable {logic : LogicSection} {screen key : String} {declarations : Declarations}
  {used : List String}

/-! ## Trees -/

/-- What the blocks of a handler are told. -/
def argumentsIn? (declarations : Declarations) :
    Binding → Except (Fault LogicProblem) (List Argument)
  | .startUp | .activityEvent _ => .ok []
  | .viewEvent _ event => do return (← entry viewEvents event.name).arguments
  | .moreBlock name =>
    match declarations.moreBlock? name with
    | some declared => moreBlockArguments declared
    | none => .error (.reported (.undeclaredBody name))

/-- The handler of a key. -/
def handlerOf (screen : String) (declarations : Declarations) (used : List String) (key : String)
    (records : List BlockRecord) : Except (Fault Failure) Handler :=
  match Binding.ofKey? key with
  | none => .error (.reported (.block (Binding.eventPart key) screen key (.handlerKey key)))
  | some binding => do
    let arguments ← (argumentsIn? declarations binding).mapError
      (.map (.logicTree ⟨screen, key, "", none⟩))
    let around : Surroundings := ⟨declarations, arguments.map (·.name)⟩
    let building ← reported (records.foldlM (Handler.readRecord screen key around) ⟨used, .empty⟩)
    return ⟨key, binding, arguments, building.nest.finish⟩

/-- The handlers of a screen. -/
def handlersOf (screen : String) (declarations : Declarations) :
    (used : List String) → List (String × List BlockRecord) → Except (Fault Failure) (List Handler)
  | _, [] => .ok []
  | used, (key, records) :: rest => do
    let handler ← handlerOf screen declarations used key records
    let handlers ← handlersOf screen declarations (records.map (·.blockId) ++ used) rest
    return handler :: handlers

/-- The logic of a screen. -/
def treeOf (logic : LogicSection) (screen : String) : Except (Fault Failure) LogicTree := do
  let declarations := logic.declarations screen
  return ⟨screen, declarations, ← handlersOf screen declarations [] (logic.handlers screen)⟩

/-- The logic of every screen. -/
def trees (logic : LogicSection) : Except (Fault Failure) (List LogicTree) :=
  logic.screens.mapM (treeOf logic)

theorem argumentsIn?_eq (declarations : Declarations) (binding : Binding) :
    argumentsIn? declarations binding = reported (binding.argumentsIn? declarations) := by
  cases binding with
  | startUp | activityEvent => rfl
  | viewEvent view event =>
    obtain ⟨known, hlookup, harguments, -⟩ := lookup_viewEvents event
    rw [argumentsIn?, Binding.argumentsIn?, entry_of_lookup hlookup, ok_bind, harguments]
    rfl
  | moreBlock name =>
    rw [argumentsIn?, Binding.argumentsIn?]
    cases declarations.moreBlock? name with
    | none => rfl
    | some declared => exact moreBlockArguments_eq declared

theorem handlerOf_eq (records : List BlockRecord) :
    handlerOf screen declarations used key records =
      reported (Handler.ofRecords screen declarations used key records) := by
  unfold handlerOf Handler.ofRecords
  cases Binding.ofKey? key with
  | none => rfl
  | some binding => simp only [argumentsIn?_eq, mapError_reported, reported_bind, reported_pure]

theorem handlersOf_eq (handlers : List (String × List BlockRecord)) :
    handlersOf screen declarations used handlers =
      reported (LogicTree.handlersOf screen declarations used handlers) := by
  induction handlers generalizing used with
  | nil => rfl
  | cons handler handlers ih =>
    rw [handlersOf, LogicTree.handlersOf, handlerOf_eq]
    simp only [ih, reported_bind, reported_pure]

theorem trees_eq (logic : LogicSection) : trees logic = reported logic.trees := by
  refine reported_mapM fun screen _ => ?_
  rw [treeOf, LogicTree.ofScreen, handlersOf_eq]
  simp only [reported_bind, reported_pure]

/-! ## Texts -/

open Artifacts

/-- View trees by the names of their screens. -/
def byScreen (viewTrees : List ViewTree) : List (String × ViewTree) :=
  viewTrees.map fun tree => (tree.screen, tree)

/-- The text of a screen's class with its key. -/
def sourceEntry (settings : Settings) (project : Project) (logicTrees : List LogicTree)
    (tree : ViewTree) : Except (Fault Failure) (String × String) := do
  let c ← reported (classOf project logicTrees tree)
  let text ← source c settings.indent
  return (sourceKey settings project.metadata (activityClassName tree.screen), text)

/-- What a selection of a project makes. -/
def ofProject (settings : Settings) (project : Project) (selection : Selection) :
    Except (Fault Failure) Artifacts := do
  let logicTrees ← trees project.logic
  let viewTrees ← reported project.view.trees
  reported (checkLogic project logicTrees)
  reported (selection.checkNames project)
  let layouts ← (project.view.screenNames.filter selection.wantsLayout).mapM fun screen => do
    let tree ← entry (byScreen viewTrees) screen
    reported (layoutEntry settings project tree)
  let sources ← (project.view.screenNames.filter (selection.wantsSource project.files)).mapM
    fun screen => do
      let tree ← entry (byScreen viewTrees) screen
      sourceEntry settings project logicTrees tree
  return ⟨insertAll layouts, insertAll sources⟩

theorem lookup_byScreen {viewTrees : List ViewTree} (h : (viewTrees.map (·.screen)).Nodup)
    {tree : ViewTree} (htree : tree ∈ viewTrees) :
    (byScreen viewTrees).lookup tree.screen = some tree := by
  induction viewTrees with
  | nil => exact absurd htree List.not_mem_nil
  | cons first viewTrees ih =>
    rw [List.map_cons, List.nodup_cons] at h
    rw [byScreen, List.map_cons, List.lookup_cons]
    rcases List.mem_cons.1 htree with rfl | htree
    · simp
    · have hne : tree.screen ≠ first.screen := fun heq => h.1 (heq ▸ List.mem_map_of_mem htree)
      rw [beq_false_of_ne hne]
      exact ih h.2 htree

/-- What is made for the screens that are wanted, each looked up by its name. -/
theorem mapM_byScreen {viewTrees : List ViewTree} {names : List String}
    (hnames : viewTrees.map (·.screen) = names) (hnodup : names.Nodup) (wanted : String → Bool)
    {α : Type} {f : ViewTree → Except Failure α} {g : ViewTree → Except (Fault Failure) α}
    (h : ∀ tree ∈ viewTrees, g tree = reported (f tree)) :
    ((names.filter wanted).mapM fun screen => entry (byScreen viewTrees) screen >>= g) =
      reported ((viewTrees.filter (wanted ·.screen)).mapM f) := by
  subst hnames
  -- the names are those of the trees, in their order, so names that are wanted are trees that are
  rw [List.filter_map, List.mapM_map]
  refine reported_mapM fun tree htree => ?_
  have hmem := (List.mem_filter.1 htree).1
  rw [Function.comp_apply, entry_of_lookup (lookup_byScreen hnodup hmem), ok_bind, h tree hmem]

variable {texts : Sections String} {skipped : List String} {project : Project}

theorem sourceEntry_eq {logicTrees : List LogicTree} (hlogic : ∀ tree ∈ logicTrees, tree.Sound)
    (settings : Settings) (project : Project) (tree : ViewTree) :
    sourceEntry settings project logicTrees tree =
      reported (Artifacts.sourceEntry settings project logicTrees tree) := by
  rw [sourceEntry, Artifacts.sourceEntry]
  cases hclass : classOf project logicTrees tree with
  | error failure => rfl
  | ok c =>
    simp only [classOf, Except.bind_eq_ok_iff, Except.pure_eq_ok_iff] at hclass
    obtain ⟨views, hviews, rfl⟩ := hclass
    rw [reported_ok, ok_bind, ok_bind, source_eq (LogicTree.sound_logicOf hlogic _)
      (ViewIndex.known_of_ofTree hviews)]
    simp only [reported_bind, reported_pure]

/-- **A project that was read is the same by tables.** -/
theorem ofProject_eq (hproject : Project.ofTexts texts skipped = .ok project) (settings : Settings)
    (selection : Selection) :
    ofProject settings project selection =
      reported (Artifacts.ofProject settings project selection) := by
  obtain ⟨-, hlogicText, -⟩ := Project.sections_of_ofTexts hproject
  have hnodup := (Project.screenNames_of_ofTexts hproject).1
  rw [ofProject, Artifacts.ofProject, trees_eq]
  cases hlogic : project.logic.trees with
  | error failure => rfl
  | ok logicTrees =>
    cases hview : project.view.trees with
    | error failure => rfl
    | ok viewTrees =>
      have hnames := ViewSection.screens_of_trees hview
      have hsound := LogicSection.sound_trees hlogicText hlogic
      have hlayouts := mapM_byScreen hnames hnodup selection.wantsLayout
        fun tree _ => (rfl : reported (layoutEntry settings project tree) = _)
      have hsources := mapM_byScreen hnames hnodup (selection.wantsSource project.files)
        fun tree _ => sourceEntry_eq hsound settings project tree
      simp only [reported_ok, ok_bind, hlayouts, hsources, reported_bind, reported_pure]

end BlockApp.Tables

namespace BlockApp.Artifacts

variable {texts : Sections String} {skipped : List String} {project : Project}

/-- **Nothing is missing when a project is made.** Made with tables, a project that was read meets no
entry, parameter or slot that is not there; it fails only with what is wrong with its own blocks, views
and components or with the names of a selection. Blocks that open branches or assign variables have as
many parameters as their formats when they are read, so a count that is found wrong in trees is that of
a statement or of a call. -/
theorem ofProject_without_gaps (hproject : Project.ofTexts texts skipped = .ok project) :
    (∀ settings selection, Tables.ofProject settings project selection =
      Tables.reported (ofProject settings project selection)) ∧
    (∀ settings selection failure,
      ofProject settings project selection = .error failure → failure.IsOfProject) ∧
    (∀ screen key around building building' records,
      List.foldlM (Handler.readRecord screen key around) building records = .ok building' →
      ∀ record ∈ records, ∀ format, Tables.counted.lookup record.tag = some format →
        record.params.length = format.arity) ∧
    ∀ logicTrees, project.logic.trees = .ok logicTrees →
      ∀ settings selection place tag expected found,
        ofProject settings project selection =
          .error (.logicTree place (.parameterCount tag expected found)) →
        ∃ tree ∈ logicTrees, ∃ handler ∈ tree.handlers,
          (∃ id, place = ⟨tree.screen, handler.key, id, none⟩) ∧
          ∃ row ∈ rowsOf 0 handler.blocks, row.WrongCount tag expected found := by
  refine ⟨Tables.ofProject_eq hproject, failsWith_ofProject hproject, ?_, ?_⟩
  · intro screen key around building building' records hrun record hrecord format hformat
    exact Building.arity_of_run hrun hrecord hformat
  · intro logicTrees htrees settings selection place tag expected found h
    obtain ⟨-, hlogicText, -⟩ := Project.sections_of_ofTexts hproject
    exact (failsWith_of_trees htrees (LogicSection.sound_trees hlogicText htrees) settings selection
      _ h).exists_row

/-- Sections with a button on the one screen and this logic. -/
def sectionsOfLogic (logic : String) : Sections String :=
  { sectionsOfView "@main.xml\nroot\tLinearLayout\t\t\nok\tButton\troot\t\n" with logic := logic }

/-- Handlers with a loop, branches, a local variable and an assignment, and one of the button. -/
def sectionsOfHandlers : Sections String :=
  sectionsOfLogic <|
    "@MainActivity.java_onStart\n1\t0\trepeat\tn:3\n2\t1\tlocalVar\te:number,e:y,n:2\n" ++
      "3\t1\tsetVar\tv:y,n:1\n4\t0\tif\t[not,b:true]\n5\t0\telse\t\n" ++
      "@MainActivity.java_ok_onClick\n6\t0\tsetText\tw:ok,s:hi\n"

/-- Sections with a call that lacks its parameter. -/
def sectionsOfCall : Sections String :=
  sectionsOfLogic "@MainActivity.java_onStart\n1\t0\tif\t[not]\n"

/-- All is found for them. A call without the parameter that it takes is found where it is. -/
theorem ofProject_without_gaps_handlers :
    (∃ project artifacts, Project.ofTexts sectionsOfHandlers [] = .ok project ∧
      Tables.ofProject shortSettings project .all = .ok artifacts ∧
      artifacts.entries.map (·.1) = ["layout/main.xml", "java/a/b/MainActivity.java"]) ∧
    ∃ project logicTrees, Project.ofTexts sectionsOfCall [] = .ok project ∧
      project.logic.trees = .ok logicTrees ∧
      ofProject shortSettings project .all =
        .error (.logicTree ⟨"MainActivity", "onStart", "1", none⟩ (.parameterCount "not" 1 0)) ∧
      ∃ tree ∈ logicTrees, ∃ handler ∈ tree.handlers,
        ∃ row ∈ rowsOf 0 handler.blocks, row.WrongCount "not" 1 0 := by
  constructor
  · have hmade : ((Project.ofTexts sectionsOfHandlers []).bind (ofProject shortSettings · .all)).map
        (·.entries.map (·.1)) = .ok ["layout/main.xml", "java/a/b/MainActivity.java"] := by
      decide +kernel
    obtain ⟨artifacts, hmade, hkeys⟩ := Except.map_eq_ok_iff.1 hmade
    obtain ⟨project, hproject, hmade⟩ := Except.bind_eq_ok_iff.1 hmade
    refine ⟨project, artifacts, hproject, ?_, hkeys⟩
    rw [(ofProject_without_gaps hproject).1 shortSettings .all, hmade]
    rfl
  · have hread : ((Project.ofTexts sectionsOfCall []).bind fun project =>
        project.logic.trees.map fun _ => ofProject shortSettings project .all) =
        .ok (.error (.logicTree ⟨"MainActivity", "onStart", "1", none⟩
          (.parameterCount "not" 1 0))) := by
      decide +kernel
    obtain ⟨project, hproject, htrees⟩ := Except.bind_eq_ok_iff.1 hread
    obtain ⟨logicTrees, htrees, herror⟩ := Except.map_eq_ok_iff.1 htrees
    obtain ⟨-, -, -, hcounts⟩ := ofProject_without_gaps hproject
    obtain ⟨tree, htree, handler, hhandler, -, hrow⟩ := hcounts logicTrees htrees _ _ _ _ _ _ herror
    exact ⟨project, logicTrees, hproject, htrees, herror, tree, htree, handler, hhandler, hrow⟩

end BlockApp.Artifacts
