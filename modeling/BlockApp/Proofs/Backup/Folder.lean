import BlockApp.Backup.Folder
import BlockApp.Proofs.Disk.Files

/-!
# Writing and reading section folders

Six files are written into a folder one after the other. Their names differ, so none takes the place of
another, and what is read from the folder afterwards is what was written.

* `Backup.find_of_mem_writeSections` — each file is there in the end
* `Backup.exists_writeFolder_iff` — which folders can be written, whatever the contents
* `Backup.readFolder_of_writeFolder` — reading undoes writing
-/

namespace BlockApp

theorem SectionName.name_ne_up (name : SectionName) : name.name ≠ ".." := by cases name <;> decide

theorem SectionName.nodup_all : all.Nodup := by decide

theorem Sections.map_fst_toList {α : Type} (sections : Sections α) :
    sections.toList.map (·.1) = SectionName.all := rfl

theorem Sections.mem_toList {α : Type} (sections : Sections α) (name : SectionName) :
    (name, sections.get name) ∈ sections.toList :=
  List.mem_map.2 ⟨name, name.mem_all, rfl⟩

namespace Backup

variable {disk disk' : Disk} {folder : Path} {name other : SectionName} {content : Bytes} {node : Node}
  {entries : List (SectionName × Bytes)} {contents : Sections Bytes}

/-- The files of different sections are at different locations. -/
theorem resolve_child_ne (folder : Path) (here : Location) (h : name ≠ other) :
    (folder.child name.name).resolve here ≠ (folder.child other.name).resolve here := by
  rw [Path.resolve_child here folder name.name_ne_up, Path.resolve_child here folder other.name_ne_up]
  intro heq
  exact h (SectionName.name_injective (List.singleton_inj.1 (List.append_cancel_left heq)))

/-! ## Files one after the other -/

theorem writeSections_cons_eq_ok_iff :
    writeSections folder disk ((name, content) :: entries) = (disk', .ok ()) ↔
      ∃ middle, disk.writeFile (folder.child name.name) content = .ok middle ∧
        writeSections folder middle entries = (disk', .ok ()) := by
  rw [writeSections]
  cases disk.writeFile (folder.child name.name) content <;> simp

theorem sameFolders_of_writeSections (h : writeSections folder disk entries = (disk', .ok ())) :
    disk.SameFolders disk' := by
  induction entries generalizing disk with
  | nil =>
    cases h
    exact .refl _
  | cons entry entries ih =>
    obtain ⟨middle, hwrite, hrest⟩ := writeSections_cons_eq_ok_iff.1 h
    exact (Disk.sameFolders_of_writeFile hwrite).trans (ih hrest)

/-- Files of other sections are left alone. -/
theorem find_of_writeSections_of_notMem (h : writeSections folder disk entries = (disk', .ok ()))
    (hname : name ∉ entries.map (·.1)) (hfind : disk.find (folder.child name.name) = .ok node) :
    disk'.find (folder.child name.name) = .ok node := by
  induction entries generalizing disk with
  | nil =>
    cases h
    exact hfind
  | cons entry entries ih =>
    obtain ⟨middle, hwrite, hrest⟩ := writeSections_cons_eq_ok_iff.1 h
    obtain ⟨hfirst, hothers⟩ := not_or.1 (mt List.mem_cons.2 hname)
    exact ih hrest hothers
      (Disk.find_of_writeFile_ne hwrite (resolve_child_ne folder disk.here hfirst) hfind)

/-- **Files of different sections are all there in the end.** -/
theorem find_of_mem_writeSections (h : writeSections folder disk entries = (disk', .ok ()))
    (hnodup : (entries.map (·.1)).Nodup) (hmem : (name, content) ∈ entries) :
    disk'.find (folder.child name.name) = .ok (.file content) := by
  induction entries generalizing disk with
  | nil => simp at hmem
  | cons entry entries ih =>
    obtain ⟨middle, hwrite, hrest⟩ := writeSections_cons_eq_ok_iff.1 h
    obtain ⟨hfirst, hothers⟩ := List.nodup_cons.1 hnodup
    rcases List.mem_cons.1 hmem with rfl | hmem
    -- those written after the first one are of other sections
    · exact find_of_writeSections_of_notMem hrest hfirst (Disk.find_of_writeFile hwrite)
    · exact ih hrest hothers hmem

/-- Files are written if each of them can be: no one stands in the way of another. -/
theorem exists_writeSections_iff :
    (∃ disk', writeSections folder disk entries = (disk', .ok ())) ↔
      ∀ entry ∈ entries, disk.Writable (folder.child entry.1.name) := by
  induction entries generalizing disk with
  | nil => simp [writeSections]
  | cons entry entries ih =>
    obtain ⟨name, content⟩ := entry
    simp only [writeSections_cons_eq_ok_iff, List.forall_mem_cons]
    constructor
    · rintro ⟨disk', middle, hwrite, hrest⟩
      refine ⟨Disk.exists_writeFile_iff.1 ⟨middle, hwrite⟩, fun next hnext => ?_⟩
      exact (Disk.sameFolders_of_writeFile hwrite).writable.1 (ih.1 ⟨disk', hrest⟩ next hnext)
    · rintro ⟨hfirst, hothers⟩
      obtain ⟨middle, hwrite⟩ := Disk.exists_writeFile_iff.2 hfirst
      obtain ⟨disk', hrest⟩ := ih.2 fun next hnext =>
        (Disk.sameFolders_of_writeFile hwrite).writable.2 (hothers next hnext)
      exact ⟨disk', middle, hwrite, hrest⟩

/-! ## Folders -/

theorem writeFolder_eq_ok_iff :
    writeFolder disk folder contents = (disk', .ok ()) ↔
      ∃ middle, disk.makeFolders folder = (middle, .ok ()) ∧
        writeSections folder middle contents.toList = (disk', .ok ()) := by
  rw [writeFolder]
  rcases disk.makeFolders folder with ⟨middle, fault | ⟨⟨⟩⟩⟩ <;> simp

/-- **Whether a folder can be written does not depend on the contents.** -/
theorem exists_writeFolder_iff (contents : Sections Bytes) :
    (∃ disk', writeFolder disk folder contents = (disk', .ok ())) ↔
      ∃ middle, disk.makeFolders folder = (middle, .ok ()) ∧
        ∀ name : SectionName, middle.Writable (folder.child name.name) := by
  simp only [writeFolder_eq_ok_iff]
  rw [exists_comm]
  refine exists_congr fun middle => ?_
  rw [exists_and_left, exists_writeSections_iff]
  exact and_congr_right fun _ =>
    ⟨fun h name => h _ (contents.mem_toList name), fun h entry _ => h entry.1⟩

theorem find_folder_of_writeFolder (h : writeFolder disk folder contents = (disk', .ok ())) :
    disk'.find folder = .ok .folder := by
  obtain ⟨middle, hfolders, hsections⟩ := writeFolder_eq_ok_iff.1 h
  exact (sameFolders_of_writeSections hsections).find_folder.2 (Disk.find_of_makeFolders hfolders)

theorem readSection_eq_ok_iff :
    readSection disk folder name = .ok content ↔
      disk.find (folder.child name.name) = .ok (.file content) := by
  simp only [readSection, Except.bind_eq_ok_iff, Except.mapError_eq_ok_iff,
    ← Disk.look_eq_ok_some_iff]
  constructor
  · rintro ⟨node?, hlook, hcontent⟩
    cases node? with
    | none => simp at hcontent
    | some node =>
      cases node with
      | folder => simp at hcontent
      | file found =>
        rw [Except.pure_eq_ok_iff] at hcontent
        rw [hlook, hcontent]
  · intro hlook
    exact ⟨_, hlook, rfl⟩

/-- **What is read from a folder is what was written into it.** -/
theorem readFolder_of_writeFolder (h : writeFolder disk folder contents = (disk', .ok ())) :
    readFolder disk' folder = .ok contents := by
  obtain ⟨middle, -, hsections⟩ := writeFolder_eq_ok_iff.1 h
  refine Sections.build_eq_ok_iff.2 fun name => readSection_eq_ok_iff.2 ?_
  exact find_of_mem_writeSections hsections
    (contents.map_fst_toList ▸ SectionName.nodup_all) (contents.mem_toList name)

end Backup

end BlockApp
