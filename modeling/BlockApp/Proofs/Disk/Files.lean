import BlockApp.Proofs.Disk.Walk
import BlockApp.Proofs.Store.Put

/-!
# Files at paths

A path may hold `..`, so its location depends on the disk. But it depends on the folders only: which
files there are and what they hold makes no difference to where a path leads, or to whether a file can be
written there.

* `Disk.SameFolders` — two disks where every path leads to the same location
* `Disk.writeFile_eq_ok_iff` — when a file is written, and what is there then
* `Disk.find_of_writeFile`, `Disk.find_of_writeFile_ne` — what is found afterwards
-/

namespace BlockApp

theorem Path.resolve_child (here : Location) (path : Path) {name : String} (h : name ≠ "..") :
    (path.child name).resolve here = path.resolve here ++ [name] :=
  resolveNames_concat _ _ h

namespace Disk

variable {disk disk' disk'' : Disk} {folder location : Location} {names : List String}
  {path other : Path} {content : Bytes} {node : Node}

/-! ## Where paths lead -/

/-- Whether the folders of two disks are at the same locations, that of the folder that is worked in
too. -/
structure SameFolders (disk disk' : Disk) : Prop where
  here : disk'.here = disk.here
  folder : ∀ place, disk'.node? place = some .folder ↔ disk.node? place = some .folder

theorem SameFolders.refl (disk : Disk) : disk.SameFolders disk := ⟨rfl, fun _ => .rfl⟩

theorem SameFolders.symm (h : disk.SameFolders disk') : disk'.SameFolders disk :=
  ⟨h.here.symm, fun place => (h.folder place).symm⟩

theorem SameFolders.trans (h : disk.SameFolders disk') (h' : disk'.SameFolders disk'') :
    disk.SameFolders disk'' :=
  ⟨h'.here.trans h.here, fun place => (h'.folder place).trans (h.folder place)⟩

/-- A way leads to where its names say, each `..` undoing the name before it. -/
theorem eq_resolveNames_of_walk {shown : String} (h : disk.walk shown folder names = .ok location) :
    location = Path.resolveNames folder names := by
  induction names generalizing folder with
  | nil =>
    cases h
    rfl
  | cons name names ih =>
    rw [walk] at h
    rw [Path.resolveNames]
    split at h
    · cases h
    · dsimp only at h
      split at h
      · next hlast =>
        cases h
        rw [hlast, Path.resolveNames]
      · split at h
        · exact ih h
        · cases h
        · cases h

theorem eq_resolve_of_locate (h : disk.locate path = .ok location) :
    location = path.resolve disk.here := by
  unfold locate at h
  split at h
  · cases h
  · split at h
    · cases h
    · exact eq_resolveNames_of_walk h

/-- A way leads as far as all that is a folder stays one. -/
theorem walk_mono {shown : String} (h : disk.walk shown folder names = .ok location)
    (hfolders : ∀ place, disk.node? place = some .folder → disk'.node? place = some .folder) :
    disk'.walk shown folder names = .ok location := by
  induction names generalizing folder with
  | nil => exact h
  | cons name names ih =>
    rw [walk] at h ⊢
    split at h
    · cases h
    · next hshort =>
      rw [if_neg hshort]
      dsimp only at h ⊢
      split at h
      · next hlast => rwa [if_pos hlast]
      · next hlast =>
        rw [if_neg hlast]
        split at h
        · next hnode =>
          rw [hfolders _ hnode]
          exact ih h
        · cases h
        · cases h

theorem locate_mono (h : disk.locate path = .ok location) (hhere : disk'.here = disk.here)
    (hfolders : ∀ place, disk.node? place = some .folder → disk'.node? place = some .folder) :
    disk'.locate path = .ok location := by
  unfold locate at h ⊢
  split at h
  · cases h
  · next hnul =>
    rw [if_neg hnul]
    split at h
    · cases h
    · next hshort =>
      rw [if_neg hshort, hhere]
      exact walk_mono h hfolders

theorem SameFolders.locate (h : disk.SameFolders disk') :
    disk'.locate path = .ok location ↔ disk.locate path = .ok location :=
  ⟨fun hlocate => locate_mono hlocate h.symm.here fun place => (h.folder place).1,
    fun hlocate => locate_mono hlocate h.here fun place => (h.folder place).2⟩

theorem find_eq_ok_iff :
    disk.find path = .ok node ↔
      ∃ place, disk.locate path = .ok place ∧ disk.node? place = some node := by
  simp only [find, Except.bind_eq_ok_iff]
  refine exists_congr fun place => and_congr_right fun _ => ?_
  cases disk.node? place <;> simp

theorem SameFolders.find_folder (h : disk.SameFolders disk') :
    disk'.find path = .ok .folder ↔ disk.find path = .ok .folder := by
  simp only [find_eq_ok_iff, h.locate, h.folder]

/-! ## Folders that are made -/

theorem find_of_makeFolder (h : disk.makeFolder path = .ok disk') : disk'.find path = .ok .folder := by
  have hgrows := makeFolder_grows h
  obtain ⟨place, hlocate, hnone, rfl⟩ := makeFolder_eq_ok_iff.1 h
  refine find_eq_ok_iff.2 ⟨place, locate_mono hlocate rfl fun _ => hgrows.node?_folder, ?_⟩
  rw [node?_put _ _ _ _ (by rintro rfl; simp [node?_nil] at hnone), if_pos rfl]

/-- Where folders are made, a folder is found. -/
theorem find_of_makeFolders (h : disk.makeFolders path = (disk', .ok ())) :
    disk'.find path = .ok .folder := by
  rcases eq_or_find_of_makeFolders h with ⟨middle, hmade⟩ | hfind
  · exact find_of_makeFolder hmade
  · exact hfind

/-! ## Files that are written -/

/-- A file is written where no folder is. -/
theorem writeFile_eq_ok_iff :
    disk.writeFile path content = .ok disk' ↔
      ∃ place, disk.locate path = .ok place ∧ disk.node? place ≠ some .folder ∧
        disk' = disk.put place (.file content) := by
  simp only [writeFile, Except.bind_eq_ok_iff]
  refine exists_congr fun place => and_congr_right fun _ => ?_
  cases disk.node? place with
  | none => simpa using eq_comm
  | some node =>
    cases node with
    | folder => simp
    | file found => simpa using eq_comm

/-- Whether a file can be written at a path. What it shall hold makes no difference. -/
def Writable (disk : Disk) (path : Path) : Prop :=
  ∃ place, disk.locate path = .ok place ∧ disk.node? place ≠ some .folder

theorem exists_writeFile_iff : (∃ disk', disk.writeFile path content = .ok disk') ↔ disk.Writable path := by
  simp only [writeFile_eq_ok_iff, Writable]
  constructor
  · rintro ⟨-, place, hlocate, hnode, -⟩
    exact ⟨place, hlocate, hnode⟩
  · rintro ⟨place, hlocate, hnode⟩
    exact ⟨_, place, hlocate, hnode, rfl⟩

theorem SameFolders.writable (h : disk.SameFolders disk') : disk'.Writable path ↔ disk.Writable path := by
  simp only [Writable, h.locate, ne_eq, h.folder]

theorem node?_put_file {place : Location} (hnode : disk.node? place ≠ some .folder)
    (place' : Location) :
    (disk.put place (.file content)).node? place' =
      if place' = place then some (.file content) else disk.node? place' := by
  refine node?_put disk place place' _ ?_
  rintro rfl
  exact hnode disk.node?_nil

theorem sameFolders_of_writeFile (h : disk.writeFile path content = .ok disk') :
    disk.SameFolders disk' := by
  obtain ⟨place, -, hnode, rfl⟩ := writeFile_eq_ok_iff.1 h
  refine ⟨rfl, fun place' => ?_⟩
  rw [node?_put_file hnode]
  split
  · next hplace => simp [hplace, hnode]
  · rfl

/-- **A file that is written is found.** -/
theorem find_of_writeFile (h : disk.writeFile path content = .ok disk') :
    disk'.find path = .ok (.file content) := by
  have hsame := sameFolders_of_writeFile h
  obtain ⟨place, hlocate, hnode, rfl⟩ := writeFile_eq_ok_iff.1 h
  exact find_eq_ok_iff.2 ⟨place, hsame.locate.2 hlocate, by rw [node?_put_file hnode, if_pos rfl]⟩

/-- **What is found elsewhere is still found** when a file is written. -/
theorem find_of_writeFile_ne (h : disk.writeFile path content = .ok disk')
    (hne : other.resolve disk.here ≠ path.resolve disk.here) (hfind : disk.find other = .ok node) :
    disk'.find other = .ok node := by
  have hsame := sameFolders_of_writeFile h
  obtain ⟨place, hlocate, hnode, rfl⟩ := writeFile_eq_ok_iff.1 h
  obtain ⟨place', hother, hfound⟩ := find_eq_ok_iff.1 hfind
  have hplaces : place' ≠ place := by
    rwa [eq_resolve_of_locate hlocate, eq_resolve_of_locate hother]
  exact find_eq_ok_iff.2
    ⟨place', hsame.locate.2 hother, by rw [node?_put_file hnode, if_neg hplaces, hfound]⟩

end Disk

end BlockApp
