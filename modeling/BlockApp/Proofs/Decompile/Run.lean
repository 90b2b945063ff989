import BlockApp.Decompile.Basic
import BlockApp.Proofs.Decompile.Artifacts
import BlockApp.Proofs.Store.Key

/-!
# All or nothing

A run makes all texts before it stores the first one. So it either stores nothing, or stores all texts
under distinct keys that lead to distinct locations, unless the store itself fails.

* `Artifacts.keys_nodup`, `Artifacts.locate_ne_of_ofProject` — no text takes the place of another
* `Decompile.run_all_or_nothing` — what is in the store after a run
-/

namespace BlockApp

/-! ## Keys -/

/-- An identifier with an ending is a name. -/
theorem Path.isPlain_of_isBareIdentifier {s ending : List Char} (h : Text.isBareIdentifier s = true)
    (hending : '/' ∉ ending) : IsPlain (s ++ ending) := by
  obtain ⟨c, rest, rfl⟩ := exists_cons_of_isBareIdentifier h
  have hslash := Text.slash_notMem_of_isBareIdentifier h
  rw [Text.isBareIdentifier, Bool.and_eq_true] at h
  have hne : ∀ d, Text.isNameStart d = false → c ≠ d := by
    rintro d hd rfl
    rw [h.1] at hd
    exact absurd hd (by decide)
  refine ⟨fun hmem => ?_, ?_, List.cons_ne_nil _ _, ?_, ?_⟩
  · rcases List.mem_append.1 hmem with hmem | hmem
    · exact hslash hmem
    · exact hending hmem
  · rw [List.cons_append, List.head?_cons]
    exact fun heq => hne '\\' (by decide) (Option.some.inj heq)
  · exact fun heq => hne '.' (by decide) (List.cons.inj heq).1
  · exact fun heq => hne '.' (by decide) (List.cons.inj heq).1

namespace Artifacts

variable {settings : Settings} {project : Project} {selection : Selection} {artifacts : Artifacts}
  {metadata : Metadata} {screen activity : String}

theorem toList_layoutKey (settings : Settings) (screen : String) :
    (layoutKey settings screen).toList =
      settings.layoutFolder.toList ++ '/' :: (screen.toList ++ ".xml".toList) := by
  simp [layoutKey, toString]

theorem toList_sourceKey (settings : Settings) (metadata : Metadata) (activity : String) :
    (sourceKey settings metadata activity).toList =
      (settings.sourceFolder.toList ++ '/' :: metadata.packagePath.toList) ++
        '/' :: (activity.toList ++ ".java".toList) := by
  simp [sourceKey, toString, Settings.sourceExtension]

theorem getLast?_append_xml (s : List Char) : (s ++ ".xml".toList).getLast? = some 'l' := by
  rw [List.getLast?_append]
  rfl

theorem getLast?_append_java (s : List Char) : (s ++ ".java".toList).getLast? = some 'a' := by
  rw [List.getLast?_append]
  rfl

/-- A layout and a class never have the same key. -/
theorem layoutKey_ne_sourceKey (settings : Settings) (metadata : Metadata) (screen activity : String) :
    layoutKey settings screen ≠ sourceKey settings metadata activity := by
  intro heq
  have hlast := congrArg (·.toList.getLast?) heq
  rw [toList_layoutKey, toList_sourceKey, ← List.cons_append, ← List.cons_append, ← List.append_assoc,
    ← List.append_assoc, getLast?_append_xml, getLast?_append_java] at hlast
  exact absurd hlast (by decide)

/-- **The keys of all that a project makes are distinct.** -/
theorem keys_nodup (h : ofProject settings project selection = .ok artifacts) :
    (artifacts.entries.map (·.1)).Nodup := by
  obtain ⟨hlayouts, hlayout⟩ := layouts_of_ofProject h
  obtain ⟨hsources, hsource⟩ := sources_of_ofProject_nodup h
  rw [entries, List.map_append, List.nodup_append]
  refine ⟨hlayouts, hsources, fun key hkey other hother => ?_⟩
  obtain ⟨entry, hentry, rfl⟩ := List.mem_map.1 hkey
  obtain ⟨last, hlast, rfl⟩ := List.mem_map.1 hother
  obtain ⟨screen, -, heq⟩ := hlayout entry hentry
  obtain ⟨screen', -, heq'⟩ := hsource last hlast
  rw [heq, heq']
  exact layoutKey_ne_sourceKey settings project.metadata screen (activityClassName screen')

/-- The folder of a name in the keys of texts: the endings of layouts and classes tell them apart. -/
def folderOf (settings : Settings) (metadata : Metadata) (name : List Char) : List Char :=
  if name.getLast? = some 'l' then settings.layoutFolder.toList
  else settings.sourceFolder.toList ++ '/' :: metadata.packagePath.toList

/-- Every key of a text is a name in the folder of that name. -/
theorem exists_name_of_mem_entries
    (hnames : ∀ name ∈ project.view.screenNames, Text.isBareIdentifier name.toList = true)
    (h : ofProject settings project selection = .ok artifacts) {entry : String × String}
    (hentry : entry ∈ artifacts.entries) :
    ∃ name, Path.IsPlain name ∧
      entry.1.toList = folderOf settings project.metadata name ++ '/' :: name := by
  rcases List.mem_append.1 hentry with hentry | hentry
  · obtain ⟨screen, hscreen, heq⟩ := (layouts_of_ofProject h).2 entry hentry
    refine ⟨screen.toList ++ ".xml".toList,
      Path.isPlain_of_isBareIdentifier (hnames screen hscreen) (by decide), ?_⟩
    rw [heq, toList_layoutKey, folderOf, getLast?_append_xml, if_pos rfl]
  · obtain ⟨screen, hscreen, heq⟩ := (sources_of_ofProject_nodup h).2 entry hentry
    have hname := isBareIdentifier_activityClassName (hnames screen (List.mem_filter.1 hscreen).1)
    refine ⟨(activityClassName screen).toList ++ ".java".toList,
      Path.isPlain_of_isBareIdentifier hname (by decide), ?_⟩
    rw [heq, toList_sourceKey, folderOf, getLast?_append_java, if_neg (by decide)]

/-- **The keys of all that a project makes lead to different locations**, if the names of its screens
are identifiers. -/
theorem locate_ne_of_ofProject
    (hnames : ∀ name ∈ project.view.screenNames, Text.isBareIdentifier name.toList = true)
    (h : ofProject settings project selection = .ok artifacts) (store : Store) :
    artifacts.entries.Pairwise fun entry next =>
      ∀ location, store.locate entry.1 = .ok location → store.locate next.1 ≠ .ok location := by
  refine (List.pairwise_map.1 (keys_nodup h)).imp_of_mem fun {entry next} hentry hnext hne => ?_
  -- the folder hangs on the name alone, so different keys end in different names
  obtain ⟨name, hplain, hkey⟩ := exists_name_of_mem_entries hnames h hentry
  obtain ⟨name', hplain', hkey'⟩ := exists_name_of_mem_entries hnames h hnext
  intro location hlocate
  refine Store.EndsIn.locate_ne ⟨hplain, _, hkey⟩ ⟨hplain', _, hkey'⟩ ?_ hlocate
  rintro rfl
  exact hne (String.toList_inj.1 (hkey.trans hkey'.symm))

end Artifacts

/-! ## Runs -/

namespace Decompile

variable {settings : Settings} {store : Store} {disk disk' : Disk} {source : Path}
  {selection : Selection} {project : Project} {artifacts : Artifacts}

/-- What is produced is made of a project that was read. -/
theorem of_produce (h : produce settings disk source selection = .ok (project, artifacts)) :
    (∃ texts, Project.ofTexts texts settings.skippedExtensions = .ok project) ∧
      Artifacts.ofProject settings project selection = .ok artifacts := by
  simp only [produce, Except.bind_eq_ok_iff, Except.pure_eq_ok_iff] at h
  obtain ⟨_, -, _, -, texts, -, project', hproject, artifacts', hartifacts, heq⟩ := h
  cases heq
  exact ⟨⟨texts, hproject⟩, hartifacts⟩

/-- A run that succeeds has made all texts and then stored them. -/
theorem run_eq_ok_iff {outcome : Outcome} :
    run settings store disk source selection = (disk', .ok outcome) ↔
      ∃ project artifacts, produce settings disk source selection = .ok (project, artifacts) ∧
        store.putTexts disk artifacts.entries = (disk', .ok ()) ∧
        outcome = outcomeOf project selection artifacts := by
  unfold run
  constructor
  · intro h
    split at h
    · simp at h
    · next project artifacts hproduce =>
      split at h
      · simp at h
      · next hput =>
        cases h
        exact ⟨project, artifacts, hproduce, hput, rfl⟩
  · rintro ⟨project, artifacts, hproduce, hput, rfl⟩
    simp [hproduce, hput]

/-- A run that fails has failed to make the texts, or to store them. -/
theorem run_eq_error_iff {failure : Failure} :
    run settings store disk source selection = (disk', .error failure) ↔
      (disk' = disk ∧ ∃ cause, produce settings disk source selection = .error cause ∧
        failure = reported cause) ∨
      ∃ project artifacts fault, produce settings disk source selection = .ok (project, artifacts) ∧
        store.putTexts disk artifacts.entries = (disk', .error fault) ∧ failure = reported fault := by
  unfold run
  constructor
  · intro h
    split at h
    · next cause hproduce =>
      cases h
      exact .inl ⟨rfl, cause, hproduce, rfl⟩
    · next project artifacts hproduce =>
      split at h
      · next fault hput =>
        cases h
        exact .inr ⟨project, artifacts, fault, hproduce, hput, rfl⟩
      · simp at h
  · rintro (⟨rfl, cause, hproduce, rfl⟩ | ⟨project, artifacts, fault, hproduce, hput, rfl⟩)
    · simp [hproduce]
    · simp [hproduce, hput]

/-- **All or nothing.** A run that fails has changed nothing, unless all texts were made and the store
failed on one of them. A run that succeeds has stored all texts under distinct keys, and nothing
else. The folder of a store has no `..` in it (`Store.up_notMem_base_of_ofPath`). -/
theorem run_all_or_nothing (hbase : ".." ∉ store.base) :
    (∀ disk' failure, run settings store disk source selection = (disk', .error failure) →
      (disk' = disk ∧ ∃ cause, produce settings disk source selection = .error cause ∧
        failure = reported cause) ∨
      ∃ project artifacts written entry rest middle fault,
        produce settings disk source selection = .ok (project, artifacts) ∧
        artifacts.entries = written ++ entry :: rest ∧
        store.putTexts disk written = (middle, .ok ()) ∧
        store.putText middle entry.1 entry.2 = (disk', .error fault) ∧ failure = reported fault) ∧
    (∀ disk' outcome, run settings store disk source selection = (disk', .ok outcome) →
      ∃ project artifacts, produce settings disk source selection = .ok (project, artifacts) ∧
        outcome.layoutKeys = artifacts.layouts.map (·.1) ∧
        outcome.sourceKeys = artifacts.sources.map (·.1) ∧
        outcome.keys.Nodup ∧ store.Receives disk disk' artifacts.entries) := by
  refine ⟨fun disk' failure hrun => ?_, fun disk' outcome hrun => ?_⟩
  · rcases run_eq_error_iff.1 hrun with hproduce | ⟨project, artifacts, fault, hproduce, hput, rfl⟩
    · exact .inl hproduce
    · obtain ⟨written, entry, rest, middle, hentries, hwritten, hentry⟩ :=
        Store.putTexts_eq_error_iff.1 hput
      exact .inr ⟨project, artifacts, written, entry, rest, middle, fault, hproduce, hentries, hwritten,
        hentry, rfl⟩
  · obtain ⟨project, artifacts, hproduce, hput, rfl⟩ := run_eq_ok_iff.1 hrun
    obtain ⟨⟨texts, htexts⟩, hartifacts⟩ := of_produce hproduce
    have hnames := (Project.screenNames_of_ofTexts htexts).2
    refine ⟨project, artifacts, hproduce, rfl, rfl, ?_, ?_⟩
    · rw [Outcome.keys, outcomeOf, ← List.map_append]
      exact Artifacts.keys_nodup hartifacts
    · exact Store.receives_of_putTexts hbase
        (Artifacts.locate_ne_of_ofProject hnames hartifacts store) hput

/-- A disk with the sections of a screen in the folder `in`. -/
def screenDisk : Disk where
  entries := (["in"], .folder) ::
    (sectionsOfView "@main.xml\nv\tLinearLayout\t\t\n").toList.map fun (name, text) =>
      (["in", name.name], .file (Utf8.encode text.toList))
  here := []

theorem exists_outcome_of_keys {result : Disk × Except Failure Outcome} {keys : List String}
    (h : result.2.toOption.map Outcome.keys = some keys) :
    ∃ disk' outcome, result = (disk', .ok outcome) ∧ outcome.keys = keys := by
  obtain ⟨disk', failure | outcome⟩ := result
  · simp [Except.toOption] at h
  · exact ⟨disk', outcome, rfl, Option.some.inj h⟩

/-- The layout and the class of a screen are stored. -/
theorem run_all_or_nothing_screen :
    ".." ∉ (Store.mk ["out"]).base ∧
    ∃ (disk' : Disk) (outcome : Outcome) (artifacts : Artifacts),
      run shortSettings ⟨["out"]⟩ screenDisk ⟨.here, ["in"]⟩ .all = (disk', .ok outcome) ∧
      outcome.keys = ["layout/main.xml", "java/a/b/MainActivity.java"] ∧
      artifacts.entries.map (·.1) = outcome.keys ∧
      (Store.mk ["out"]).Receives screenDisk disk' artifacts.entries := by
  have hbase : ".." ∉ (Store.mk ["out"]).base := by decide
  have hmade : (run shortSettings ⟨["out"]⟩ screenDisk ⟨.here, ["in"]⟩ .all).2.toOption.map
      Outcome.keys = some ["layout/main.xml", "java/a/b/MainActivity.java"] := by decide +kernel
  obtain ⟨disk', outcome, hrun, hkeys⟩ := exists_outcome_of_keys hmade
  obtain ⟨project, artifacts, -, hlayouts, hsources, -, hreceives⟩ :=
    (run_all_or_nothing hbase).2 disk' outcome hrun
  refine ⟨hbase, disk', outcome, artifacts, hrun, hkeys, ?_, hreceives⟩
  rw [Outcome.keys, hlayouts, hsources, Artifacts.entries, List.map_append]

end Decompile

end BlockApp
