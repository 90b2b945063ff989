import BlockApp.Proofs.Decompile.Classes
import BlockApp.Proofs.Logic.Interleaving

/-!
# Screens of a project among each other

What a project makes does not hang on how the groups of its screens are mixed in the logic section. The
class of a screen is made of the logic of its own name, of the views that any logic refers to, and of
what is in other sections.

* `Artifacts.classOf_of_same` — the class of a screen is the same
* `Artifacts.ofProject_interleaved` — so is all that a project makes
-/

namespace BlockApp.Artifacts

variable {settings : Settings} {project : Project} {selection : Selection} {artifacts : Artifacts}
  {logic logic' : LogicSection} {trees trees' : List LogicTree}

/-- All logic belongs to a class if every screen of the logic section has the name of one. -/
theorem checkLogic_eq_ok_iff (h : project.logic.trees = .ok trees) :
    checkLogic project trees = .ok () ↔
      ∀ screen ∈ project.logic.screens, screen ∈ project.activityNames := by
  have hscreens : trees.map (·.screen) = project.logic.screens := by
    simpa using Except.map_eq_of_mapM (g := id) h fun _ _ htree => LogicSection.screen_of_ofScreen htree
  have hnone : trees.find? (!project.activityNames.contains ·.screen) = none ↔
      ∀ tree ∈ trees, tree.screen ∈ project.activityNames := by
    simp [List.find?_eq_none]
  rw [← hscreens, List.forall_mem_map, ← hnone, checkLogic]
  split <;> simp_all

/-- The class of a screen is the same. -/
theorem classOf_of_same (h : LogicSection.Same logic logic') (htrees : logic.trees = .ok trees)
    (htrees' : logic'.trees = .ok trees') (tree : ViewTree) :
    classOf { project with logic := logic } trees tree =
      classOf { project with logic := logic' } trees' tree := by
  have hviews : ViewIndex.ofTree tree logic.referencedViews =
      ViewIndex.ofTree tree logic'.referencedViews := by
    have hentry : ViewIndex.entryOf tree.screen logic.referencedViews =
        ViewIndex.entryOf tree.screen logic'.referencedViews := by
      funext node
      have hcontains : logic.referencedViews.contains node.record.id =
          logic'.referencedViews.contains node.record.id := by
        rw [Bool.eq_iff_iff, List.contains_iff_mem, List.contains_iff_mem, h.mem_referencedViews_iff]
      rw [ViewIndex.entryOf, ViewIndex.entryOf, hcontains]
    rw [ViewIndex.ofTree, ViewIndex.ofTree, hentry]
  simp only [classOf, logicOf, hviews, h.find?_eq htrees htrees']

theorem ofProject_of_same (h : LogicSection.Same logic logic')
    (hmade : ofProject settings { project with logic := logic } selection = .ok artifacts) :
    ofProject settings { project with logic := logic' } selection = .ok artifacts := by
  obtain ⟨trees, viewTrees, layouts, sources, htrees, hview, hcheck, hnames, hlayouts, hsources, rfl⟩ :=
    ofProject_eq_ok_iff.1 hmade
  obtain ⟨trees', htrees'⟩ := h.exists_trees htrees
  have hentry : sourceEntry settings { project with logic := logic } trees =
      sourceEntry settings { project with logic := logic' } trees' := by
    funext tree
    simp only [sourceEntry, classOf_of_same h htrees htrees']
  rw [hentry] at hsources
  rw [checkLogic_eq_ok_iff htrees] at hcheck
  have hcheck' : checkLogic { project with logic := logic' } trees' = .ok () :=
    (checkLogic_eq_ok_iff htrees').2 fun screen hscreen => hcheck screen (h.mem_screens_iff.2 hscreen)
  exact ofProject_eq_ok_iff.2 ⟨trees', viewTrees, layouts, sources, htrees', hview, hcheck', hnames,
    hlayouts, hsources, rfl⟩

/-- **How the groups of different screens are mixed makes no difference.** Of two logic sections that are
read from texts with the same groups for each screen, trees are built for both or for none, and the same
for each screen; the same views are referred to; and with whatever else is in a project, either section
makes what the other makes. -/
theorem ofProject_interleaved {text text' : String} (h : LogicSection.ofText text = .ok logic)
    (h' : LogicSection.ofText text' = .ok logic') (hsame : LogicSection.SameByScreen text text') :
    ((∃ trees, logic.trees = .ok trees) ↔ ∃ trees, logic'.trees = .ok trees) ∧
    (∀ trees trees', logic.trees = .ok trees → logic'.trees = .ok trees' → ∀ screen,
      trees.find? (·.screen == screen) = trees'.find? (·.screen == screen)) ∧
    (∀ view, view ∈ logic.referencedViews ↔ view ∈ logic'.referencedViews) ∧
    ∀ (settings : Settings) (project : Project) (selection : Selection) (artifacts : Artifacts),
      ofProject settings { project with logic := logic } selection = .ok artifacts ↔
        ofProject settings { project with logic := logic' } selection = .ok artifacts := by
  have hlogic := LogicSection.same_of_ofText h h' hsame
  refine ⟨⟨?_, ?_⟩, fun trees trees' htrees htrees' => hlogic.find?_eq htrees htrees',
    fun view => hlogic.mem_referencedViews_iff, fun settings project selection artifacts => ⟨?_, ?_⟩⟩
  · rintro ⟨trees, htrees⟩
    exact hlogic.exists_trees htrees
  · rintro ⟨trees, htrees⟩
    exact hlogic.symm.exists_trees htrees
  · exact ofProject_of_same hlogic
  · exact ofProject_of_same hlogic.symm

/-- Two groups of a screen, and then one of another. -/
def apartText : String :=
  "@MainActivity.java_onStart\n10\t0\tfinishActivity\t\n@MainActivity.java_onStop\n" ++
    "@HelpActivity.java_onStart\n10\t0\tfinishActivity\t\n"

/-- The groups of `apartText`, the one of the other screen between the two. -/
def mixedText : String :=
  "@MainActivity.java_onStart\n10\t0\tfinishActivity\t\n@HelpActivity.java_onStart\n" ++
    "10\t0\tfinishActivity\t\n@MainActivity.java_onStop\n"

/-- What `apartText` is read as. -/
def apartLogic : LogicSection :=
  ⟨[⟨"MainActivity", "onStart", .handler [⟨2, "10", 0, "finishActivity", []⟩]⟩,
      ⟨"MainActivity", "onStop", .handler []⟩,
      ⟨"HelpActivity", "onStart", .handler [⟨5, "10", 0, "finishActivity", []⟩]⟩]⟩

/-- What `mixedText` is read as. -/
def mixedLogic : LogicSection :=
  ⟨[⟨"MainActivity", "onStart", .handler [⟨2, "10", 0, "finishActivity", []⟩]⟩,
      ⟨"HelpActivity", "onStart", .handler [⟨4, "10", 0, "finishActivity", []⟩]⟩,
      ⟨"MainActivity", "onStop", .handler []⟩]⟩

/-- A project of two screens, still without their logic. -/
def twoScreens : Project where
  metadata := ⟨"a.b", "A", 1, "1"⟩
  logic := ⟨[]⟩
  view := ⟨[⟨"main", [⟨2, "v", "LinearLayout", none, []⟩]⟩,
    ⟨"help", [⟨4, "v", "LinearLayout", none, []⟩]⟩]⟩
  resources := ⟨[]⟩
  files := ⟨[], []⟩
  libraries := ⟨[]⟩

theorem splitGroups_apartText : Section.splitGroups LogicSection.sectionName apartText = .ok
    [⟨"MainActivity.java_onStart", 1, [⟨2, ["10", "0", "finishActivity", ""]⟩]⟩,
     ⟨"MainActivity.java_onStop", 3, []⟩,
     ⟨"HelpActivity.java_onStart", 4, [⟨5, ["10", "0", "finishActivity", ""]⟩]⟩] := by
  decide +kernel

theorem splitGroups_mixedText : Section.splitGroups LogicSection.sectionName mixedText = .ok
    [⟨"MainActivity.java_onStart", 1, [⟨2, ["10", "0", "finishActivity", ""]⟩]⟩,
     ⟨"HelpActivity.java_onStart", 3, [⟨4, ["10", "0", "finishActivity", ""]⟩]⟩,
     ⟨"MainActivity.java_onStop", 5, []⟩] := by
  decide +kernel

theorem sameByScreen_mixed : LogicSection.SameByScreen apartText mixedText := by
  have hstart : LogicSection.readHeader? "MainActivity.java_onStart" =
      some ("MainActivity", "onStart") := by decide +kernel
  have hstop : LogicSection.readHeader? "MainActivity.java_onStop" =
      some ("MainActivity", "onStop") := by decide +kernel
  have hhelp : LogicSection.readHeader? "HelpActivity.java_onStart" =
      some ("HelpActivity", "onStart") := by decide +kernel
  refine ⟨_, _, splitGroups_apartText, splitGroups_mixedText, fun screen => ?_⟩
  simp only [LogicSection.writtenOf, List.filter_cons, Group.isOf, hstart, hstop, hhelp, Option.any_some]
  cases hmain : "MainActivity" == screen with
  | true =>
    cases beq_iff_eq.1 hmain
    rfl
  | false => cases "HelpActivity" == screen <;> rfl

/-- Both texts are read, though as different sections, and the project makes the same of them. -/
theorem ofProject_interleaved_mixed :
    ∃ logic logic' artifacts, LogicSection.ofText apartText = .ok logic ∧
      LogicSection.ofText mixedText = .ok logic' ∧ LogicSection.SameByScreen apartText mixedText ∧
      logic ≠ logic' ∧
      ofProject shortSettings { twoScreens with logic := logic } .all = .ok artifacts ∧
      ofProject shortSettings { twoScreens with logic := logic' } .all = .ok artifacts ∧
      artifacts.sources.map (·.1) = ["java/a/b/MainActivity.java", "java/a/b/HelpActivity.java"] := by
  have hread : LogicSection.ofText apartText = .ok apartLogic :=
    LogicSection.ofText_eq_ok_iff.2 ⟨_, splitGroups_apartText, by decide +kernel⟩
  have hread' : LogicSection.ofText mixedText = .ok mixedLogic :=
    LogicSection.ofText_eq_ok_iff.2 ⟨_, splitGroups_mixedText, by decide +kernel⟩
  obtain ⟨-, -, -, hsame⟩ := ofProject_interleaved hread hread' sameByScreen_mixed
  have hkeys : (ofProject shortSettings { twoScreens with logic := apartLogic } .all).map
      (·.sources.map (·.1)) = .ok ["java/a/b/MainActivity.java", "java/a/b/HelpActivity.java"] := by
    decide +kernel
  obtain ⟨artifacts, hmade, hkeys⟩ := Except.map_eq_ok_iff.1 hkeys
  exact ⟨_, _, artifacts, hread, hread', sameByScreen_mixed, by decide, hmade,
    (hsame _ _ _ _).1 hmade, hkeys⟩

end BlockApp.Artifacts
