import BlockApp.Proofs.Decompile.Classes

/-!
# Parts of a project

What a selection makes of a project is a part of what the whole project makes: the texts asked for, under
the same keys and in the same order. A layout is asked for by the name of its screen and a class by its
own name, so the two sides are compared by the keys of the texts.

* `Artifacts.insertOnto_filter` — inserting the texts of some keys only
* `Artifacts.ofProject_restrict` — a part of a project that can be made can be made
-/

namespace BlockApp

/-! ## Selections -/

namespace Selection

variable {selection : Selection} {project : Project}

/-- A project has what a selection names exactly when it knows each of the names. -/
theorem checkNames_eq_ok_iff :
    selection.checkNames project = .ok () ↔
      (∀ name ∈ selection.activities, name ∈ project.activityNames) ∧
        ∀ name ∈ selection.layouts, name ∈ project.view.screenNames := by
  have hactivities : selection.activities.find? (!project.activityNames.contains ·) = none ↔
      ∀ name ∈ selection.activities, name ∈ project.activityNames := by
    simp [List.find?_eq_none]
  have hlayouts : selection.layouts.find? (!project.view.screenNames.contains ·) = none ↔
      ∀ name ∈ selection.layouts, name ∈ project.view.screenNames := by
    simp [List.find?_eq_none]
  rw [← hactivities, ← hlayouts, checkNames]
  constructor
  · intro h
    split at h
    · exact absurd h Except.throw_ne_ok
    · next hknown =>
      split at h
      · exact absurd h Except.throw_ne_ok
      · next hknown' => exact ⟨hknown, hknown'⟩
  · rintro ⟨hknown, hknown'⟩
    simp only [hknown, hknown']
    rfl

theorem wantsLayout_all (screen : String) : all.wantsLayout screen = true := rfl

/-- A selection asks for the class of a screen if it asks for that class and the screen has one. -/
theorem wantsSource_eq (selection : Selection) (files : FileSection) (screen : String) :
    selection.wantsSource files screen =
      ((!selection.layoutsOnly &&
        (selection.activities.isEmpty || selection.activities.contains (activityClassName screen))) &&
          all.wantsSource files screen) := by
  simp only [wantsSource, all, List.isEmpty_nil, Bool.true_or, Bool.and_true, Bool.not_false,
    Bool.true_and]
  rw [Bool.and_right_comm]

end Selection

namespace Artifacts

variable {settings : Settings} {project : Project} {selection : Selection} {full : Artifacts}
  {key text : String}

/-! ## Inserting texts of some keys -/

theorem insert_filter_of_pos {keep : String → Bool} (h : keep key = true)
    (entries : List (String × String)) (text : String) :
    (insert entries key text).filter (keep ·.1) = insert (entries.filter (keep ·.1)) key text := by
  induction entries with
  | nil => simp [insert, h]
  | cons entry entries ih =>
    rw [insert]
    split
    · next heq => simp [insert, heq, h]
    · next hne =>
      rw [List.filter_cons, List.filter_cons, ih]
      split
      · rw [insert, if_neg hne]
      · rfl

theorem insert_filter_of_neg {keep : String → Bool} (h : keep key = false)
    (entries : List (String × String)) (text : String) :
    (insert entries key text).filter (keep ·.1) = entries.filter (keep ·.1) := by
  induction entries with
  | nil => simp [insert, h]
  | cons entry entries ih =>
    rw [insert]
    split
    · next heq => simp [heq, h]
    · rw [List.filter_cons, List.filter_cons, ih]

/-- Inserting the texts of some keys makes what inserting all makes of these keys. -/
theorem insertOnto_filter (keep : String → Bool) (made entries : List (String × String)) :
    insertOnto (made.filter (keep ·.1)) (entries.filter (keep ·.1)) =
      (insertOnto made entries).filter (keep ·.1) := by
  induction entries generalizing made with
  | nil => rfl
  | cons entry entries ih =>
    rw [insertOnto_cons, ← ih, List.filter_cons]
    cases hkeep : keep entry.1 with
    | true => rw [insert_filter_of_pos hkeep, if_pos rfl, insertOnto_cons]
    | false => rw [insert_filter_of_neg hkeep, if_neg Bool.false_ne_true]

/-! ## Parts -/

/-- Whether a key is that of a layout that is asked for: one that is named, or any if none is. -/
def keepsLayout (settings : Settings) (selection : Selection) (key : String) : Bool :=
  !selection.sourcesOnly &&
    (selection.layouts.isEmpty || (selection.layouts.map (layoutKey settings)).contains key)

/-- Whether a key is that of a class that is asked for: one that is named, or any if none is. -/
def keepsSource (settings : Settings) (metadata : Metadata) (selection : Selection) (key : String) :
    Bool :=
  !selection.layoutsOnly &&
    (selection.activities.isEmpty || (selection.activities.map (sourceKey settings metadata)).contains key)

/-- What a selection asks for of all that a project makes. -/
def restrict (settings : Settings) (metadata : Metadata) (selection : Selection) (full : Artifacts) :
    Artifacts where
  layouts := full.layouts.filter (keepsLayout settings selection ·.1)
  sources := full.sources.filter (keepsSource settings metadata selection ·.1)

theorem layoutKey_inj {screen other : String} :
    layoutKey settings screen = layoutKey settings other ↔ screen = other := by
  simp [layoutKey, toString]

theorem keepsLayout_layoutKey (settings : Settings) (selection : Selection) (screen : String) :
    keepsLayout settings selection (layoutKey settings screen) = selection.wantsLayout screen := by
  have hnamed : (selection.layouts.map (layoutKey settings)).contains (layoutKey settings screen) =
      selection.layouts.contains screen := by
    rw [Bool.eq_iff_iff]
    simp [layoutKey_inj]
  rw [keepsLayout, hnamed, Selection.wantsLayout]

theorem keepsSource_sourceKey (settings : Settings) (metadata : Metadata) (selection : Selection)
    (activity : String) :
    keepsSource settings metadata selection (sourceKey settings metadata activity) =
      (!selection.layoutsOnly &&
        (selection.activities.isEmpty || selection.activities.contains activity)) := by
  have hnamed : (selection.activities.map (sourceKey settings metadata)).contains
      (sourceKey settings metadata activity) = selection.activities.contains activity := by
    rw [Bool.eq_iff_iff]
    simp [sourceKey_inj]
  rw [keepsSource, hnamed]

theorem key_of_layoutEntry {tree : ViewTree} {entry : String × String}
    (h : layoutEntry settings project tree = .ok entry) : entry.1 = layoutKey settings tree.screen := by
  simp only [layoutEntry, Except.bind_eq_ok_iff, Except.pure_eq_ok_iff] at h
  obtain ⟨text, -, rfl⟩ := h
  rfl

/-- **What a selection makes is what it asks for of all that the project makes**: the named layouts
and classes, each kind as a whole if none of it is named, with the texts and in the order that they have
among all. If the whole project can be made, any part with known names can. -/
theorem ofProject_restrict (hfull : ofProject settings project .all = .ok full)
    (hactivities : ∀ name ∈ selection.activities, name ∈ project.activityNames)
    (hlayouts : ∀ name ∈ selection.layouts, name ∈ project.view.screenNames) :
    ofProject settings project selection =
      .ok (restrict settings project.metadata selection full) := by
  obtain ⟨logicTrees, viewTrees, layouts, sources, hlogic, hview, hcheck, -, hmade, hmade', rfl⟩ :=
    ofProject_eq_ok_iff.1 hfull
  have hknown := Selection.checkNames_eq_ok_iff.2 ⟨hactivities, hlayouts⟩
  -- a screen is asked for exactly when the key of its text is
  have hpart : (viewTrees.filter (selection.wantsLayout ·.screen)).mapM (layoutEntry settings project) =
      .ok (layouts.filter (keepsLayout settings selection ·.1)) := by
    have hwhole : viewTrees.filter (Selection.all.wantsLayout ·.screen) = viewTrees :=
      List.filter_eq_self.2 fun tree _ => Selection.wantsLayout_all tree.screen
    rw [hwhole] at hmade
    refine Except.mapM_filter hmade fun tree entry hentry => ?_
    rw [key_of_layoutEntry hentry, keepsLayout_layoutKey]
  have hpart' : (viewTrees.filter (selection.wantsSource project.files ·.screen)).mapM
      (sourceEntry settings project logicTrees) =
      .ok (sources.filter (keepsSource settings project.metadata selection ·.1)) := by
    simp only [Selection.wantsSource_eq selection]
    rw [← List.filter_filter]
    refine Except.mapM_filter hmade' fun tree entry hentry => ?_
    rw [(sourceEntry_eq_ok_iff.1 hentry).1, keepsSource_sourceKey]
  refine ofProject_eq_ok_iff.2 ⟨logicTrees, viewTrees, _, _, hlogic, hview, hcheck, hknown, hpart,
    hpart', ?_⟩
  rw [restrict, ← insertOnto_filter, ← insertOnto_filter]
  rfl

/-- The layout of one of the screens `main` and `Main`, and the class of that name. -/
def sharedSelection : Selection := ⟨["MainActivity"], ["Main"], false, false⟩

/-- Of two layouts and the one class that the screens share, the named ones are left. -/
theorem ofProject_restrict_shared :
    ∃ full, ofProject shortSettings sharedProject .all = .ok full ∧
      full.entries.map (·.1) = ["layout/main.xml", "layout/Main.xml", "java/a/b/MainActivity.java"] ∧
      (∀ name ∈ sharedSelection.activities, name ∈ sharedProject.activityNames) ∧
      (∀ name ∈ sharedSelection.layouts, name ∈ sharedProject.view.screenNames) ∧
      ofProject shortSettings sharedProject sharedSelection =
        .ok (restrict shortSettings sharedProject.metadata sharedSelection full) ∧
      (restrict shortSettings sharedProject.metadata sharedSelection full).entries.map (·.1) =
        ["layout/Main.xml", "java/a/b/MainActivity.java"] := by
  have hkeys : (ofProject shortSettings sharedProject .all).map (·.entries.map (·.1)) =
      .ok ["layout/main.xml", "layout/Main.xml", "java/a/b/MainActivity.java"] := by decide +kernel
  have hkeys' : (ofProject shortSettings sharedProject sharedSelection).map (·.entries.map (·.1)) =
      .ok ["layout/Main.xml", "java/a/b/MainActivity.java"] := by decide +kernel
  have hactivities : ∀ name ∈ sharedSelection.activities, name ∈ sharedProject.activityNames := by
    decide +kernel
  have hlayouts : ∀ name ∈ sharedSelection.layouts, name ∈ sharedProject.view.screenNames := by
    decide +kernel
  cases hfull : ofProject shortSettings sharedProject .all with
  | error failure =>
    rw [hfull] at hkeys
    cases hkeys
  | ok full =>
    have hpart := ofProject_restrict hfull hactivities hlayouts
    rw [hfull] at hkeys
    rw [hpart] at hkeys'
    exact ⟨full, rfl, Except.ok.inj hkeys, hactivities, hlayouts, hpart, Except.ok.inj hkeys'⟩

end Artifacts

end BlockApp
