import BlockApp.Disk.Basic
import BlockApp.Proofs.Outcome

/-!
# Ways along folders

A path without `..` leads to where its names say, if every name before the last is of a folder. Folders
that are made on the way take the place of nothing.

* `Disk.Leads` — the names of a way are short enough, and those before the last are of folders
* `Disk.Grows` — what was there is still there, and all that is new are folders
* `Disk.makeFolders_grows`, `Disk.leads_of_makeFolders` — what making folders does
-/

namespace BlockApp

namespace Disk

variable {disk disk' disk'' : Disk} {folder location : Location} {names : List String} {path : Path}

/-! ## Ways -/

/-- Whether names lead on from a folder: all are short enough, and all before the last are of folders. -/
def Leads (disk : Disk) : (folder : Location) → List String → Prop
  | _, [] => True
  | folder, name :: names =>
    name.utf8ByteSize ≤ nameBound ∧
      (names = [] ∨ disk.node? (folder ++ [name]) = some .folder ∧ Leads disk (folder ++ [name]) names)

theorem walk_eq_ok_iff {shown : String} (h : ".." ∉ names) :
    disk.walk shown folder names = .ok location ↔
      location = folder ++ names ∧ disk.Leads folder names := by
  induction names generalizing folder with
  | nil => simp [walk, Leads, eq_comm]
  | cons name names ih =>
    obtain ⟨hname, hnames⟩ := not_or.1 (mt List.mem_cons.2 h)
    by_cases hlong : nameBound < name.utf8ByteSize
    · simp [walk, Leads, hlong, Nat.not_le.2 hlong]
    · rw [walk, if_neg hlong, Leads]
      simp only [if_neg (Ne.symm hname), Nat.le_of_not_lt hlong, true_and]
      by_cases hlast : names = []
      · simp [hlast, eq_comm]
      · rw [if_neg hlast]
        cases hnode : disk.node? (folder ++ [name]) with
        | none => simp [hlast]
        | some node =>
          cases node with
          | folder => simp [ih hnames, hlast]
          | file content => simp [hlast]

/-- A way leads as far as all that is a folder stays one. -/
theorem Leads.mono (h : disk.Leads folder names)
    (hfolders : ∀ place, disk.node? place = some .folder → disk'.node? place = some .folder) :
    disk'.Leads folder names := by
  induction names generalizing folder with
  | nil => trivial
  | cons name names ih =>
    obtain ⟨hshort, hrest⟩ := h
    refine ⟨hshort, ?_⟩
    rcases hrest with hlast | ⟨hnode, hrest⟩
    · exact .inl hlast
    · exact .inr ⟨hfolders _ hnode, ih hrest⟩

/-- A way leads on from a folder at its end. -/
theorem Leads.concat (h : disk.Leads folder names) (hnode : disk.node? (folder ++ names) = some .folder)
    {name : String} (hshort : name.utf8ByteSize ≤ nameBound) : disk.Leads folder (names ++ [name]) := by
  induction names generalizing folder with
  | nil => exact ⟨hshort, .inl rfl⟩
  | cons first names ih =>
    obtain ⟨hfirst, hrest⟩ := h
    refine ⟨hfirst, .inr ?_⟩
    rcases hrest with rfl | ⟨hfolder, hrest⟩
    · exact ⟨hnode, hshort, .inl rfl⟩
    · exact ⟨hfolder, ih hrest (by simpa using hnode)⟩

/-- Whether every location above one where something is is a folder's. -/
def IsTree (disk : Disk) : Prop :=
  ∀ folder names node, names ≠ [] → disk.node? (folder ++ names) = some node →
    disk.node? folder = some .folder

/-- In a tree the way to what is there leads as far as its names are short enough. -/
theorem Leads.of_isTree (h : disk'.Leads folder names) (htree : disk.IsTree) {node : Node}
    (hnode : disk.node? (folder ++ names) = some node) : disk.Leads folder names := by
  induction names generalizing folder with
  | nil => trivial
  | cons name names ih =>
    obtain ⟨hshort, hrest⟩ := h
    refine ⟨hshort, ?_⟩
    rw [List.append_cons] at hnode
    rcases hrest with hlast | ⟨-, hrest⟩
    · exact .inl hlast
    · by_cases hlast : names = []
      · exact .inl hlast
      · exact .inr ⟨htree _ names node hlast hnode, ih hrest hnode⟩

theorem locate_ofLocation_eq_ok_iff {place : Location} (h : ".." ∉ location) :
    disk.locate (.ofLocation location) = .ok place ↔
      (Path.ofLocation location).hasNul = false ∧
        (Path.ofLocation location).shown.utf8ByteSize ≤ pathBound ∧ place = location ∧
        disk.Leads [] location := by
  unfold locate
  split
  · next hnul => simp [hnul]
  · next hnul =>
    split
    · next hlong => simp [Nat.not_le.2 hlong]
    · next hlong =>
      have hwalk : disk.walk (Path.ofLocation location).shown [] location = .ok place ↔
          place = [] ++ location ∧ disk.Leads [] location := walk_eq_ok_iff h
      rw [Bool.not_eq_true] at hnul
      simp only [hnul, Nat.le_of_not_lt hlong, true_and]
      exact hwalk

/-- What is found at a location: the way to it must lead there. -/
theorem find_ofLocation_eq_ok_iff {node : Node} (h : ".." ∉ location) :
    disk.find (.ofLocation location) = .ok node ↔
      (∃ place, disk.locate (.ofLocation location) = .ok place) ∧ disk.node? location = some node := by
  simp only [find, Except.bind_eq_ok_iff]
  constructor
  · rintro ⟨place, hlocate, hnode⟩
    obtain ⟨-, -, rfl, -⟩ := (locate_ofLocation_eq_ok_iff h).1 hlocate
    refine ⟨⟨_, hlocate⟩, ?_⟩
    split at hnode
    · next found hfound =>
      rw [Except.pure_eq_ok_iff] at hnode
      rw [hfound, hnode]
    · simp at hnode
  · rintro ⟨⟨place, hlocate⟩, hnode⟩
    obtain ⟨-, -, rfl, -⟩ := (locate_ofLocation_eq_ok_iff h).1 hlocate
    exact ⟨_, hlocate, by rw [hnode]; rfl⟩

theorem look_eq_ok_some_iff {node : Node} :
    disk.look path = .ok (some node) ↔ disk.find path = .ok node := by
  unfold look
  split <;> simp_all

/-! ## Making folders -/

/-- Whether all that was there is there, and all that is new are folders. -/
def Grows (disk disk' : Disk) : Prop :=
  ∀ place, disk'.node? place = disk.node? place ∨
    disk.node? place = none ∧ disk'.node? place = some .folder

theorem grows_refl (disk : Disk) : disk.Grows disk := fun _ => .inl rfl

theorem Grows.trans (h : disk.Grows disk') (h' : disk'.Grows disk'') : disk.Grows disk'' := by
  intro place
  rcases h place with hsame | ⟨hnone, hfolder⟩
  · rcases h' place with hsame' | ⟨hnone', hfolder'⟩
    · exact .inl (hsame'.trans hsame)
    · exact .inr ⟨hsame ▸ hnone', hfolder'⟩
  · rcases h' place with hsame' | ⟨hnone', -⟩
    · exact .inr ⟨hnone, hsame'.trans hfolder⟩
    · rw [hfolder] at hnone'
      exact absurd hnone' (by simp)

theorem Grows.node?_folder (h : disk.Grows disk') {place : Location}
    (hplace : disk.node? place = some .folder) : disk'.node? place = some .folder := by
  rcases h place with hsame | ⟨-, hfolder⟩
  · rw [hsame, hplace]
  · exact hfolder

theorem node?_nil (disk : Disk) : disk.node? [] = some .folder := if_pos rfl

/-- A folder is made where nothing is. -/
theorem makeFolder_eq_ok_iff :
    disk.makeFolder path = .ok disk' ↔
      ∃ place, disk.locate path = .ok place ∧ disk.node? place = none ∧
        disk' = disk.put place .folder := by
  simp only [makeFolder, Except.bind_eq_ok_iff]
  refine exists_congr fun place => and_congr_right fun _ => ?_
  cases disk.node? place with
  | none =>
    simp only [Except.pure_eq_ok_iff, true_and]
    exact eq_comm
  | some node => simp

theorem makeFolder_grows (h : disk.makeFolder path = .ok disk') : disk.Grows disk' := by
  obtain ⟨place, -, hnone, rfl⟩ := makeFolder_eq_ok_iff.1 h
  have hroot : place ≠ [] := by
    rintro rfl
    rw [node?_nil] at hnone
    exact absurd hnone (by simp)
  intro other
  rw [node?_put disk place other .folder hroot]
  split
  · next heq => exact .inr ⟨heq ▸ hnone, rfl⟩
  · exact .inl rfl

/-- Making folders changes nothing that is there, also when it fails. -/
theorem makeFolders_grows (disk : Disk) (path : Path) : disk.Grows (disk.makeFolders path).1 := by
  fun_induction makeFolders disk path with
  | case1 path disk' h => exact makeFolder_grows h
  | case2 | case7 => exact grows_refl disk
  | case3 path shown h hnames disk' fault hparent ih
  | case5 path shown h hnames disk' hparent shown' hagain ih
  | case6 path shown h hnames disk' hparent fault hfault hagain ih => rwa [hparent] at ih
  | case4 path shown h hnames disk' hparent disk'' hagain ih =>
    rw [hparent] at ih
    exact ih.trans (makeFolder_grows hagain)

theorem orFolder_eq_ok_iff {fault : DiskFault} {u : Unit} :
    disk.orFolder path fault = .ok u ↔ disk.find path = .ok .folder := by
  simp only [orFolder, Except.bind_eq_ok_iff, ← look_eq_ok_some_iff]
  constructor
  · rintro ⟨node?, hlook, hfolder⟩
    cases node? with
    | none => simp at hfolder
    | some node =>
      cases node with
      | folder => exact hlook
      | file content => simp at hfolder
  · intro hlook
    exact ⟨_, hlook, rfl⟩

/-- Folders that are made end with one that was made or is there. -/
theorem eq_or_find_of_makeFolders (h : disk.makeFolders path = (disk', .ok ())) :
    (∃ middle : Disk, middle.makeFolder path = .ok disk') ∨ disk'.find path = .ok .folder := by
  unfold makeFolders at h
  split at h
  · next made hmade =>
    cases h
    exact .inl ⟨disk, hmade⟩
  · split at h
    · simp at h
    · split at h
      · simp at h
      · next middle _ =>
        split at h
        · next hmade =>
          cases h
          exact .inl ⟨middle, hmade⟩
        · simp at h
        · simp only [Prod.mk.injEq] at h
          obtain ⟨rfl, hfolder⟩ := h
          exact .inr (orFolder_eq_ok_iff.1 hfolder)
  · simp only [Prod.mk.injEq] at h
    obtain ⟨rfl, hfolder⟩ := h
    exact .inr (orFolder_eq_ok_iff.1 hfolder)

/-- **Where folders are made, the way leads to a folder.** -/
theorem leads_of_makeFolders (hup : ".." ∉ location)
    (h : disk.makeFolders (.ofLocation location) = (disk', .ok ())) :
    disk'.Leads [] location ∧ disk'.node? location = some .folder := by
  rcases eq_or_find_of_makeFolders h with ⟨middle, hmade⟩ | hfind
  · have hgrows := makeFolder_grows hmade
    obtain ⟨place, hlocate, hnone, rfl⟩ := makeFolder_eq_ok_iff.1 hmade
    obtain ⟨-, -, rfl, hleads⟩ := (locate_ofLocation_eq_ok_iff hup).1 hlocate
    refine ⟨hleads.mono fun place hplace => hgrows.node?_folder hplace, ?_⟩
    rw [node?_put _ _ _ _ (by rintro rfl; simp [node?_nil] at hnone), if_pos rfl]
  · obtain ⟨⟨place, hlocate⟩, hnode⟩ := (find_ofLocation_eq_ok_iff hup).1 hfind
    obtain ⟨-, -, rfl, hleads⟩ := (locate_ofLocation_eq_ok_iff hup).1 hlocate
    exact ⟨hleads, hnode⟩

end Disk

end BlockApp
