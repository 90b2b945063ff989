import BlockApp.Proofs.Decompile.Artifacts
import Mathlib.Data.List.Nodup

/-!
# Classes of screens

The class of a screen is stored under its own name, and screens can share that name. Then the class of
the last one is all that is left of theirs.

* `Artifacts.source_of_last` — the class of the last screen of a name is stored
* `Artifacts.sources_complete_iff` — every screen has its class exactly when no two share a name
-/

namespace BlockApp.Artifacts

variable {settings : Settings} {project : Project} {selection : Selection} {artifacts : Artifacts}
  {skipped : List String} {texts : Sections String}

/-- Whether a text is the class of a screen, made from the tree of its own views and for the layout of
its own name. -/
def IsSourceOf (settings : Settings) (project : Project) (screen text : String) : Prop :=
  ∃ logicTrees viewTrees tree made, project.logic.trees = .ok logicTrees ∧
    project.view.trees = .ok viewTrees ∧ tree ∈ viewTrees ∧ tree.screen = screen ∧
    classOf project logicTrees tree = .ok made ∧ made.layout = screen ∧
    made.source settings.indent = .ok text

/-- Whether the class of a screen that is asked for is stored under its key. -/
def HasSource (settings : Settings) (project : Project) (artifacts : Artifacts) (screen : String) :
    Prop :=
  ∃ text, artifacts.sources.lookup
    (sourceKey settings project.metadata (activityClassName screen)) = some text ∧
    IsSourceOf settings project screen text

theorem sourceKey_inj {metadata : Metadata} {activity other : String} :
    sourceKey settings metadata activity = sourceKey settings metadata other ↔ activity = other := by
  simp [sourceKey, toString]

theorem layout_of_classOf {logicTrees : List LogicTree} {tree : ViewTree} {made : ActivityClass}
    (h : classOf project logicTrees tree = .ok made) : made.layout = tree.screen := by
  simp only [classOf, Except.bind_eq_ok_iff, Except.pure_eq_ok_iff] at h
  obtain ⟨views, -, rfl⟩ := h
  rfl

/-- **The class of a screen is stored if no later one has its name.** -/
theorem source_of_last (h : ofProject settings project selection = .ok artifacts)
    {before after : List String} {screen : String}
    (hscreens : sourceScreens project selection = before ++ screen :: after)
    (hlast : ∀ other ∈ after, activityClassName other ≠ activityClassName screen) :
    HasSource settings project artifacts screen := by
  obtain ⟨logicTrees, viewTrees, layouts, sources, hlogic, hview, -, -, -, hsources, rfl⟩ :=
    ofProject_eq_ok_iff.1 h
  -- the trees and their classes are cut where the screens are
  rw [← map_screen_filter hview, List.map_eq_append_iff] at hscreens
  obtain ⟨trees, others, htrees, rfl, hothers⟩ := hscreens
  obtain ⟨tree, later, rfl, rfl, rfl⟩ := List.map_eq_cons_iff.1 hothers
  rw [htrees, Except.mapM_append_eq_ok_iff] at hsources
  obtain ⟨first, rest, -, hrest, rfl⟩ := hsources
  obtain ⟨⟨key, text⟩, last, hmade, hlater, rfl⟩ := Except.mapM_cons_eq_ok_iff.1 hrest
  obtain ⟨rfl, made, hclass, htext⟩ := sourceEntry_eq_ok_iff.1 hmade
  refine ⟨text, lookup_insertOnto_of_last fun hmem => ?_, logicTrees, viewTrees, tree, made, hlogic,
    hview, ?_, rfl, hclass, layout_of_classOf hclass, htext⟩
  · obtain ⟨entry, hentry, hkey⟩ := List.mem_map.1 hmem
    obtain ⟨other, hother, hmade'⟩ := Except.exists_source_of_mapM hlater hentry
    rw [(sourceEntry_eq_ok_iff.1 hmade').1] at hkey
    exact hlast other.screen (List.mem_map_of_mem hother) (sourceKey_inj.1 hkey)
  · have htree : tree ∈ viewTrees.filter (selection.wantsSource project.files ·.screen) := by
      rw [htrees]
      exact List.mem_append_right _ List.mem_cons_self
    exact (List.mem_filter.1 htree).1

/-- **Every screen that is asked for has its class, and there are no others, exactly when no two of
these screens differ in the case of the first letter only.** -/
theorem sources_complete_iff (hproject : Project.ofTexts texts skipped = .ok project)
    (h : ofProject settings project selection = .ok artifacts) :
    (artifacts.sources.length = (sourceScreens project selection).length ∧
      ∀ screen ∈ sourceScreens project selection, HasSource settings project artifacts screen) ↔
    ∀ screen ∈ sourceScreens project selection, ∀ other ∈ sourceScreens project selection,
      SameButCase screen other → screen = other := by
  obtain ⟨hnodup, hnames⟩ := Project.screenNames_of_ofTexts hproject
  have hscreens : (sourceScreens project selection).Nodup := hnodup.filter _
  have hsame : ∀ screen ∈ sourceScreens project selection, ∀ other ∈ sourceScreens project selection,
      activityClassName screen = activityClassName other ↔ SameButCase screen other :=
    fun screen hscreen other hother => activityClassName_eq_iff
      (hnames screen (List.mem_filter.1 hscreen).1) (hnames other (List.mem_filter.1 hother).1)
  obtain ⟨made, hsources, hkeys⟩ := sources_of_ofProject h
  -- the number of keys is that of the screens if no key is met twice
  have hlength : artifacts.sources.length = (sourceScreens project selection).length ↔
      (made.map (·.1)).Nodup := by
    have hmade := congrArg List.length hkeys
    rw [List.length_map, List.length_map] at hmade
    rw [hsources, ← hmade, ← Nat.zero_add made.length]
    exact length_insertOnto_eq_iff List.nodup_nil
  rw [hlength, hkeys, List.nodup_map_iff_inj_on hscreens]
  constructor
  · rintro ⟨hinj, -⟩ screen hscreen other hother hcase
    refine hinj screen hscreen other hother ?_
    rw [(hsame screen hscreen other hother).2 hcase]
  · intro hinj
    refine ⟨fun screen hscreen other hother hkey => ?_, fun screen hscreen => ?_⟩
    · exact hinj screen hscreen other hother
        ((hsame screen hscreen other hother).1 (sourceKey_inj.1 hkey))
    · obtain ⟨before, after, hsplit⟩ := List.append_of_mem hscreen
      refine source_of_last h hsplit fun other hother hclass => ?_
      have hmem : other ∈ sourceScreens project selection := by
        rw [hsplit]
        exact List.mem_append_right _ (List.mem_cons_of_mem _ hother)
      rw [hsplit, List.nodup_append] at hscreens
      refine (List.nodup_cons.1 hscreens.2.1).1 ?_
      rwa [← hinj other hmem screen hscreen ((hsame other hmem screen hscreen).1 hclass)]

/-- A project of the screens `main` and `Main`. -/
def sharedProject : Project where
  metadata := ⟨"a.b", "A", 1, "1"⟩
  logic := ⟨[]⟩
  view := ⟨[⟨"main", [⟨2, "v", "LinearLayout", none, []⟩]⟩,
    ⟨"Main", [⟨4, "v", "LinearLayout", none, []⟩]⟩]⟩
  resources := ⟨[]⟩
  files := ⟨[], []⟩
  libraries := ⟨[]⟩

/-- The screens `main` and `Main` are read and made, but not both have their class. -/
theorem sources_complete_iff_shared :
    Project.ofTexts (sectionsOfView "@main.xml\nv\tLinearLayout\t\t\n@Main.xml\nv\tLinearLayout\t\t\n")
      [] = .ok sharedProject ∧
    ∃ artifacts, ofProject shortSettings sharedProject .all = .ok artifacts ∧
      ¬ (artifacts.sources.length = (sourceScreens sharedProject .all).length ∧
        ∀ screen ∈ sourceScreens sharedProject .all,
          HasSource shortSettings sharedProject artifacts screen) := by
  have hproject : Project.ofTexts
      (sectionsOfView "@main.xml\nv\tLinearLayout\t\t\n@Main.xml\nv\tLinearLayout\t\t\n") [] =
      .ok sharedProject := rfl
  obtain ⟨artifacts, hmade⟩ : ∃ artifacts, ofProject shortSettings sharedProject .all = .ok artifacts :=
    Except.exists_of_isOk (by decide +kernel)
  refine ⟨hproject, artifacts, hmade, fun hall => ?_⟩
  have heq := (sources_complete_iff hproject hmade).1 hall "main" (by decide +kernel) "Main"
    (by decide +kernel) ⟨'m', 'M', "ain".toList, by decide⟩
  exact absurd heq (by decide)

end BlockApp.Artifacts
