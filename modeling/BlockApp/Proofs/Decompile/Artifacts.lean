import BlockApp.Decompile.Artifacts
import BlockApp.Proofs.View.Screen

/-!
# What a project makes

The keys of layouts and classes, and which texts are under them. A text that is inserted under a key
takes the place of the one before it, so of several classes with one name the last is left.

* `Artifacts.insertOnto_nodup` — the keys of texts are distinct
* `Artifacts.length_insertOnto_eq_iff` — no text is lost exactly when they were before
* `Artifacts.layouts_of_ofProject`, `Artifacts.sources_of_ofProject` — where the texts come from
-/

namespace BlockApp

/-- What the sections of a project that was read are read from. -/
theorem Project.sections_of_ofTexts {texts : Sections String} {skipped : List String}
    {project : Project} (h : ofTexts texts skipped = .ok project) :
    Metadata.ofText texts.project = .ok project.metadata ∧
      LogicSection.ofText texts.logic = .ok project.logic ∧
      ViewSection.ofText texts.view skipped = .ok project.view := by
  simp only [ofTexts, Except.bind_eq_ok_iff, Except.pure_eq_ok_iff] at h
  obtain ⟨metadata, hmetadata, logic, hlogic, view, hview, _, -, _, -, _, -, rfl⟩ := h
  exact ⟨hmetadata, hlogic, hview⟩

/-- The screens of a project that was read have distinct names, each of them an identifier. -/
theorem Project.screenNames_of_ofTexts {texts : Sections String} {skipped : List String}
    {project : Project} (h : ofTexts texts skipped = .ok project) :
    project.view.screenNames.Nodup ∧
      ∀ name ∈ project.view.screenNames, Text.isBareIdentifier name.toList = true :=
  ViewSection.screenNames_of_ofText (sections_of_ofTexts h).2.2

namespace Artifacts

variable {entries : List (String × String)} {key text : String}

/-! ## Inserting -/

theorem keys_insert (entries : List (String × String)) (key text : String) :
    (insert entries key text).map (·.1) =
      if key ∈ entries.map (·.1) then entries.map (·.1) else entries.map (·.1) ++ [key] := by
  induction entries with
  | nil => rfl
  | cons entry entries ih =>
    rw [insert]
    split
    · next heq => simp [heq]
    · next hne =>
      rw [List.map_cons, ih, List.map_cons]
      by_cases hmem : key ∈ entries.map (·.1)
      · rw [if_pos hmem, if_pos (List.mem_cons_of_mem _ hmem)]
      · rw [if_neg hmem, if_neg, List.cons_append]
        rw [List.mem_cons]
        exact not_or.2 ⟨Ne.symm hne, hmem⟩

theorem insert_nodup (h : (entries.map (·.1)).Nodup) (key text : String) :
    ((insert entries key text).map (·.1)).Nodup := by
  rw [keys_insert]
  split
  · exact h
  · next hnew =>
    rw [List.nodup_append]
    refine ⟨h, by simp, fun other hother last hlast => ?_⟩
    rw [List.mem_singleton.1 hlast]
    rintro rfl
    exact hnew hother

theorem insert_of_notMem (h : key ∉ entries.map (·.1)) (text : String) :
    insert entries key text = entries ++ [(key, text)] := by
  induction entries with
  | nil => rfl
  | cons entry entries ih =>
    obtain ⟨hentry, hentries⟩ := not_or.1 (mt List.mem_cons.2 h)
    rw [insert, if_neg (Ne.symm hentry), ih hentries, List.cons_append]

theorem mem_of_mem_insert {entry : String × String} (h : entry ∈ insert entries key text) :
    entry = (key, text) ∨ entry ∈ entries := by
  induction entries with
  | nil => exact .inl (List.mem_singleton.1 h)
  | cons first entries ih =>
    rw [insert] at h
    split at h
    · rcases List.mem_cons.1 h with rfl | hrest
      · exact .inl rfl
      · exact .inr (List.mem_cons_of_mem _ hrest)
    · rcases List.mem_cons.1 h with rfl | hrest
      · exact .inr List.mem_cons_self
      · rcases ih hrest with heq | hmem
        · exact .inl heq
        · exact .inr (List.mem_cons_of_mem _ hmem)

theorem lookup_cons_eq_if (entry : String × String) (entries : List (String × String)) (key : String) :
    (entry :: entries).lookup key = if key = entry.1 then some entry.2 else entries.lookup key := by
  rw [List.lookup_cons]
  by_cases heq : key = entry.1
  · simp [heq]
  · simp [heq, beq_false_of_ne heq]

/-- What is under a key after an insertion. -/
theorem lookup_insert (entries : List (String × String)) (key text other : String) :
    (insert entries key text).lookup other =
      if other = key then some text else entries.lookup other := by
  induction entries with
  | nil => exact lookup_cons_eq_if (key, text) [] other
  | cons entry entries ih =>
    rw [insert]
    split
    · next heq =>
      rw [lookup_cons_eq_if, lookup_cons_eq_if, heq]
      split <;> rfl
    · next hne =>
      rw [lookup_cons_eq_if, lookup_cons_eq_if, ih]
      by_cases heq : other = entry.1
      · rw [if_pos heq, if_neg (heq ▸ hne), if_pos heq]
      · rw [if_neg heq, if_neg heq]

/-! ## Inserting one by one -/

/-- Texts inserted one by one after those that are there. -/
def insertOnto (made entries : List (String × String)) : List (String × String) :=
  entries.foldl (fun made entry => insert made entry.1 entry.2) made

variable {made : List (String × String)}

theorem insertOnto_cons (made : List (String × String)) (entry : String × String)
    (entries : List (String × String)) :
    insertOnto made (entry :: entries) = insertOnto (insert made entry.1 entry.2) entries := rfl

theorem insertOnto_nodup (h : (made.map (·.1)).Nodup) :
    ((insertOnto made entries).map (·.1)).Nodup := by
  induction entries generalizing made with
  | nil => exact h
  | cons entry entries ih => exact ih (insert_nodup h entry.1 entry.2)

theorem mem_of_mem_insertOnto {entry : String × String} (h : entry ∈ insertOnto made entries) :
    entry ∈ made ∨ entry ∈ entries := by
  induction entries generalizing made with
  | nil => exact .inl h
  | cons first entries ih =>
    rcases ih h with hmade | hentries
    · rcases mem_of_mem_insert hmade with rfl | hmade
      · exact .inr List.mem_cons_self
      · exact .inl hmade
    · exact .inr (List.mem_cons_of_mem _ hentries)

/-- Under a key is the last of the texts inserted there. -/
theorem lookup_insertOnto (key : String) :
    (insertOnto made entries).lookup key = (entries.reverse.lookup key).or (made.lookup key) := by
  induction entries generalizing made with
  | nil => rfl
  | cons entry entries ih =>
    rw [insertOnto_cons, ih, lookup_insert, List.reverse_cons, List.lookup_append, lookup_cons_eq_if,
      Option.or_assoc]
    split <;> rfl

/-- Nothing that is inserted later under other keys hides a text. -/
theorem lookup_insertOnto_of_last {before after : List (String × String)}
    (h : key ∉ after.map (·.1)) :
    (insertOnto made (before ++ (key, text) :: after)).lookup key = some text := by
  have hafter : after.reverse.lookup key = none := by
    rw [List.lookup_eq_none_iff]
    intro entry hentry
    rw [bne_iff_ne]
    rintro rfl
    exact h (List.mem_map_of_mem (List.mem_reverse.1 hentry))
  rw [lookup_insertOnto, List.reverse_append, List.reverse_cons, List.lookup_append, List.lookup_append,
    hafter, lookup_cons_eq_if, if_pos rfl]
  rfl

theorem insertOnto_eq_append (h : ((made ++ entries).map (·.1)).Nodup) :
    insertOnto made entries = made ++ entries := by
  induction entries generalizing made with
  | nil => rw [List.append_nil]; rfl
  | cons entry entries ih =>
    have hnew : entry.1 ∉ made.map (·.1) := by
      rw [List.map_append, List.nodup_append] at h
      intro hmem
      exact h.2.2 _ hmem _ List.mem_cons_self rfl
    rw [insertOnto_cons, insert_of_notMem hnew, ih, List.append_assoc]
    · rfl
    · rwa [List.append_assoc]

theorem length_insert_le (entries : List (String × String)) (key text : String) :
    (insert entries key text).length ≤ entries.length + 1 := by
  have hlength := congrArg List.length (keys_insert entries key text)
  rw [List.length_map] at hlength
  rw [hlength]
  split <;> simp

theorem length_insertOnto_le : (insertOnto made entries).length ≤ made.length + entries.length := by
  induction entries generalizing made with
  | nil => exact Nat.le_refl _
  | cons entry entries ih =>
    have hrest : (insertOnto (insert made entry.1 entry.2) entries).length ≤ _ := ih
    have hfirst := length_insert_le made entry.1 entry.2
    rw [insertOnto_cons, List.length_cons]
    omega

/-- No text takes the place of another exactly when all keys are distinct. -/
theorem length_insertOnto_eq_iff (h : (made.map (·.1)).Nodup) :
    (insertOnto made entries).length = made.length + entries.length ↔
      ((made ++ entries).map (·.1)).Nodup := by
  constructor
  · intro hlength
    induction entries generalizing made with
    | nil => rwa [List.append_nil]
    | cons entry entries ih =>
      rw [insertOnto_cons, List.length_cons] at hlength
      have hrest : (insertOnto (insert made entry.1 entry.2) entries).length ≤ _ := length_insertOnto_le
      have hnew : entry.1 ∉ made.map (·.1) := by
        intro hmem
        have hsame := congrArg List.length (keys_insert made entry.1 entry.2)
        rw [if_pos hmem, List.length_map, List.length_map] at hsame
        omega
      have hall := ih (insert_nodup h entry.1 entry.2) (by
        rw [hlength, insert_of_notMem hnew, List.length_append, List.length_singleton]
        omega)
      rwa [insert_of_notMem hnew, List.append_assoc] at hall
  · intro hnodup
    rw [insertOnto_eq_append hnodup, List.length_append]

/-! ## Where the texts come from -/

variable {settings : Settings} {project : Project} {selection : Selection} {artifacts : Artifacts}

/-- The screens whose classes are asked for. -/
def sourceScreens (project : Project) (selection : Selection) : List String :=
  project.view.screenNames.filter (selection.wantsSource project.files)

theorem ofProject_eq_ok_iff :
    ofProject settings project selection = .ok artifacts ↔
      ∃ logicTrees viewTrees layouts sources, project.logic.trees = .ok logicTrees ∧
        project.view.trees = .ok viewTrees ∧ checkLogic project logicTrees = .ok () ∧
        selection.checkNames project = .ok () ∧
        (viewTrees.filter (selection.wantsLayout ·.screen)).mapM (layoutEntry settings project) =
          .ok layouts ∧
        (viewTrees.filter (selection.wantsSource project.files ·.screen)).mapM
          (sourceEntry settings project logicTrees) = .ok sources ∧
        artifacts = ⟨insertOnto [] layouts, insertOnto [] sources⟩ := by
  simp only [ofProject, Except.bind_eq_ok_iff, Except.pure_eq_ok_iff]
  constructor
  · rintro ⟨logicTrees, hlogic, viewTrees, hview, _, hcheck, _, hnames, layouts, hlayouts, sources,
      hsources, rfl⟩
    exact ⟨logicTrees, viewTrees, layouts, sources, hlogic, hview, hcheck, hnames, hlayouts, hsources,
      rfl⟩
  · rintro ⟨logicTrees, viewTrees, layouts, sources, hlogic, hview, hcheck, hnames, hlayouts,
      hsources, rfl⟩
    exact ⟨logicTrees, hlogic, viewTrees, hview, _, hcheck, _, hnames, layouts, hlayouts, sources,
      hsources, rfl⟩

/-- The keys of layouts are distinct, and each is of a screen of the project. -/
theorem layouts_of_ofProject (h : ofProject settings project selection = .ok artifacts) :
    (artifacts.layouts.map (·.1)).Nodup ∧
      ∀ entry ∈ artifacts.layouts, ∃ screen ∈ project.view.screenNames,
        entry.1 = layoutKey settings screen := by
  obtain ⟨logicTrees, viewTrees, layouts, sources, -, hview, -, -, hlayouts, -, rfl⟩ :=
    ofProject_eq_ok_iff.1 h
  refine ⟨insertOnto_nodup (by simp), fun entry hentry => ?_⟩
  rcases mem_of_mem_insertOnto hentry with hnil | hentry
  · simp at hnil
  · obtain ⟨tree, htree, hmade⟩ := Except.exists_source_of_mapM hlayouts hentry
    simp only [layoutEntry, Except.bind_eq_ok_iff, Except.pure_eq_ok_iff] at hmade
    obtain ⟨text, -, rfl⟩ := hmade
    rw [← ViewSection.screens_of_trees hview]
    exact ⟨tree.screen, List.mem_map_of_mem (List.mem_filter.1 htree).1, rfl⟩

/-- The screens whose classes are made, as trees. -/
theorem map_screen_filter {viewTrees : List ViewTree} (h : project.view.trees = .ok viewTrees)
    (selection : Selection) :
    (viewTrees.filter (selection.wantsSource project.files ·.screen)).map (·.screen) =
      sourceScreens project selection := by
  rw [sourceScreens, ← ViewSection.screens_of_trees h, List.filter_map]
  rfl

theorem sourceEntry_eq_ok_iff {logicTrees : List LogicTree} {tree : ViewTree}
    {entry : String × String} :
    sourceEntry settings project logicTrees tree = .ok entry ↔
      entry.1 = sourceKey settings project.metadata (activityClassName tree.screen) ∧
        ∃ made, classOf project logicTrees tree = .ok made ∧
          made.source settings.indent = .ok entry.2 := by
  simp only [sourceEntry, Except.bind_eq_ok_iff, Except.pure_eq_ok_iff]
  constructor
  · rintro ⟨made, hclass, text, htext, rfl⟩
    exact ⟨rfl, made, hclass, htext⟩
  · rintro ⟨hkey, made, hclass, htext⟩
    exact ⟨made, hclass, entry.2, htext, by rw [← hkey]⟩

/-- Classes are made for the screens asked for, in order, and inserted one by one. -/
theorem sources_of_ofProject (h : ofProject settings project selection = .ok artifacts) :
    ∃ made, artifacts.sources = insertOnto [] made ∧
      made.map (·.1) = (sourceScreens project selection).map
        (fun screen => sourceKey settings project.metadata (activityClassName screen)) := by
  obtain ⟨logicTrees, viewTrees, layouts, sources, -, hview, -, -, -, hsources, rfl⟩ :=
    ofProject_eq_ok_iff.1 h
  refine ⟨sources, rfl, ?_⟩
  rw [← map_screen_filter hview, List.map_map]
  exact Except.map_eq_of_mapM hsources fun _ _ hmade => (sourceEntry_eq_ok_iff.1 hmade).1

/-- The keys of classes are distinct, and each is of a screen that is asked for. -/
theorem sources_of_ofProject_nodup (h : ofProject settings project selection = .ok artifacts) :
    (artifacts.sources.map (·.1)).Nodup ∧
      ∀ entry ∈ artifacts.sources, ∃ screen ∈ sourceScreens project selection,
        entry.1 = sourceKey settings project.metadata (activityClassName screen) := by
  obtain ⟨made, hsources, hkeys⟩ := sources_of_ofProject h
  rw [hsources]
  refine ⟨insertOnto_nodup (by simp), fun entry hentry => ?_⟩
  rcases mem_of_mem_insertOnto hentry with hnil | hentry
  · simp at hnil
  · have hkey : entry.1 ∈ made.map (·.1) := List.mem_map_of_mem hentry
    rw [hkeys] at hkey
    obtain ⟨screen, hscreen, heq⟩ := List.mem_map.1 hkey
    exact ⟨screen, hscreen, heq.symm⟩

end Artifacts

/-! ## A small project -/

/-- Settings with short names of folders. -/
def shortSettings : Settings where
  projectName := "sketchback"
  logLevel := .info
  cipherKey := .shared
  cipherStart := .shared
  skippedExtensions := ViewSection.defaultSkipped
  basePath := ⟨.here, ["out"]⟩
  layoutFolder := "layout"
  sourceFolder := "java"
  indent := "  "

/-- Sections with these views and nothing else but what is required. -/
def sectionsOfView (view : String) : Sections String where
  logic := ""
  view := view
  file := ""
  library := ""
  resource := ""
  project := "@project\npackage_name\ta.b\napp_name\tA\nversion_code\t1\nversion_name\t1\n"

end BlockApp
