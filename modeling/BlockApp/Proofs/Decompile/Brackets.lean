import BlockApp.Proofs.Brackets.Class
import BlockApp.Proofs.Decompile.Artifacts

/-!
# Brackets in the classes of a project

Whatever a project holds, what is made of it is not torn apart: in every class all string literals are
closed on their own lines, and all parentheses and braces are closed in their order.

* `ActivityClass.sound_of_classOf` — the names in the class of a screen are plain
* `Artifacts.sources_nested` — the classes of a project
-/

namespace BlockApp

open Source

theorem quiet_of_isBareIdentifier {s : List Char} (h : Text.isBareIdentifier s = true) : Quiet s :=
  fun _ hc => notMem_of_class (by decide) (Text.isNamePart_of_isBareIdentifier h hc)

theorem Metadata.isPackageName_of_ofText {text : String} {metadata : Metadata}
    (h : ofText text = .ok metadata) : Text.isPackageName metadata.packageName.toList = true := by
  simp only [ofText, ofValues, Except.bind_eq_ok_iff] at h
  obtain ⟨_, -, _, -, packageName, -, _, -, _, -, _, -, h⟩ := h
  split at h
  · cases h
  · next hname =>
    split at h
    · cases h
    · simp only [Except.bind_eq_ok_iff, Except.pure_eq_ok_iff] at h
      obtain ⟨_, -, rfl⟩ := h
      simpa using hname

/-- The indentation that a run has. -/
theorem Settings.quiet_indent_of_ofVariables {valueOf : String → Option String} {settings : Settings}
    (h : ofVariables valueOf = .ok settings) : Quiet settings.indent.toList := by
  simp only [ofVariables] at h
  split at h
  · split at h
    · cases h
    · cases h
      exact quiet_ofList (by decide)
  · cases h

variable {texts : Sections String} {skipped : List String} {project : Project}

/-- The logic of a class is that of its screen, or of none. -/
theorem LogicTree.sound_logicOf {trees : List LogicTree} (htrees : ∀ tree ∈ trees, tree.Sound)
    (activity : String) : (Artifacts.logicOf trees activity).Sound := by
  unfold Artifacts.logicOf
  cases hfind : trees.find? (·.screen == activity) with
  | none => exact sound_none activity
  | some tree => exact htrees tree (List.mem_of_find?_eq_some hfind)

theorem LogicSection.sound_trees {text : String} {logic : LogicSection} {trees : List LogicTree}
    (h : ofText text = .ok logic) (htrees : logic.trees = .ok trees) : ∀ tree ∈ trees, tree.Sound := by
  intro tree htree
  obtain ⟨screen, -, hmade⟩ := Except.exists_source_of_mapM htrees htree
  exact LogicTree.sound_of_ofScreen (wellFormed_of_ofText h) hmade

/-- The screens of a project have plain names. -/
theorem ViewTree.isBareIdentifier_screen (hproject : Project.ofTexts texts skipped = .ok project)
    {viewTrees : List ViewTree} (hview : project.view.trees = .ok viewTrees) {tree : ViewTree}
    (htree : tree ∈ viewTrees) : Text.isBareIdentifier tree.screen.toList = true := by
  refine (ViewSection.screenNames_of_ofText (Project.sections_of_ofTexts hproject).2.2).2 _ ?_
  rw [← ViewSection.screens_of_trees hview]
  exact List.mem_map_of_mem htree

/-- **The names in the class of a screen are plain.** -/
theorem ActivityClass.sound_of_classOf (hproject : Project.ofTexts texts skipped = .ok project)
    {logicTrees : List LogicTree} {viewTrees : List ViewTree}
    (hlogic : project.logic.trees = .ok logicTrees) (hview : project.view.trees = .ok viewTrees)
    {tree : ViewTree} (htree : tree ∈ viewTrees) {c : ActivityClass}
    (h : Artifacts.classOf project logicTrees tree = .ok c) : c.Sound := by
  obtain ⟨hmetadata, hlogicText, hviewText⟩ := Project.sections_of_ofTexts hproject
  have hscreen := ViewTree.isBareIdentifier_screen hproject hview htree
  simp only [Artifacts.classOf, Except.bind_eq_ok_iff, Except.pure_eq_ok_iff] at h
  obtain ⟨views, hviews, rfl⟩ := h
  refine ⟨quiet_of_isBareIdentifier (isBareIdentifier_activityClassName hscreen),
    quiet_of_isBareIdentifier hscreen,
    quiet_of_all_isBareIdentifier (by decide)
      (Bool.and_eq_true_iff.1 (Metadata.isPackageName_of_ofText hmetadata)).2,
    LogicTree.sound_logicOf (LogicSection.sound_trees hlogicText hlogic) _, fun entry hentry => ?_⟩
  obtain ⟨node, hnode, type, -, rfl⟩ := ViewIndex.entry_of_ofTree hviews hentry
  obtain ⟨screen, hscreen, hmade⟩ := Except.exists_source_of_mapM hview htree
  exact ViewSection.isIdentifier_id hviewText hscreen (ViewTree.record_mem_of_ofScreen hmade hnode)

namespace Artifacts

/-- **No text of a project breaks out of its place.** In every class that a project makes, all string
literals are closed on their own lines, and outside of them all parentheses and braces are closed in
their order. The indentation is no text of the project; that of a run has no brackets in it. -/
theorem sources_nested (hproject : Project.ofTexts texts skipped = .ok project) :
    (∀ valueOf settings, Settings.ofVariables valueOf = .ok settings → Quiet settings.indent.toList) ∧
    ∀ settings selection artifacts, Quiet settings.indent.toList →
      ofProject settings project selection = .ok artifacts →
      ∀ entry ∈ artifacts.sources, Nested entry.2 := by
  refine ⟨fun valueOf settings h => Settings.quiet_indent_of_ofVariables h,
    fun settings selection artifacts hindent h entry hentry => ?_⟩
  obtain ⟨logicTrees, viewTrees, layouts, sources, hlogic, hview, -, -, -, hsources, rfl⟩ :=
    ofProject_eq_ok_iff.1 h
  rcases mem_of_mem_insertOnto hentry with hnil | hentry
  · exact absurd hnil List.not_mem_nil
  · obtain ⟨tree, htree, hmade⟩ := Except.exists_source_of_mapM hsources hentry
    obtain ⟨-, c, hclass, htext⟩ := sourceEntry_eq_ok_iff.1 hmade
    exact ActivityClass.nested_source hindent
      (ActivityClass.sound_of_classOf hproject hlogic hview (List.mem_filter.1 htree).1 hclass) htext

/-- Sections with one screen, which shows a text of quotes, brackets and backslashes. -/
def sectionsOfBrackets : Sections String :=
  { sectionsOfView "@main.xml\nv\tLinearLayout\t\t\n" with
    logic := "@MainActivity.java_onStart\n10\t0\tif\t[not,b:true]\n" ++
      "11\t1\tshowMessage\ts:\\\\\") \x7b\"\\\\\n" }

/-- The text that is shown stays in its literal. -/
theorem sources_nested_quoted :
    ∃ project artifacts, Project.ofTexts sectionsOfBrackets [] = .ok project ∧
      Quiet shortSettings.indent.toList ∧
      ofProject shortSettings project .all = .ok artifacts ∧
      artifacts.sources.map (·.1) = ["java/a/b/MainActivity.java"] ∧
      ∀ entry ∈ artifacts.sources, Nested entry.2 := by
  have hmade : ((Project.ofTexts sectionsOfBrackets []).bind (ofProject shortSettings · .all)).map
      (·.sources.map (·.1)) = .ok ["java/a/b/MainActivity.java"] := by
    decide +kernel
  obtain ⟨artifacts, hmade, hkeys⟩ := Except.map_eq_ok_iff.1 hmade
  obtain ⟨project, hproject, hmade⟩ := Except.bind_eq_ok_iff.1 hmade
  have hindent : Quiet shortSettings.indent.toList := quiet_ofList (by decide)
  exact ⟨project, artifacts, hproject, hindent, hmade, hkeys,
    (sources_nested hproject).2 _ _ _ hindent hmade⟩

end Artifacts

end BlockApp
