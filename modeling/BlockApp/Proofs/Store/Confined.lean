import BlockApp.Proofs.Disk.Files

/-!
# Where a store writes

A file is stored in steps: the folders above it are made, it is written beside its place under a longer
name, and then it is renamed. So besides the disk at the end there are those on the way, which hold the
file that is being written. It is in the same folder as the file, and so below the folder of the store,
with one exception: a key may lead to that folder itself, and the file that is being written is then
beside it.

* `Store.putStates` — the disks that storing goes through; `Store.put` is where it ends
* `Store.Confined` — what is written is one file below the folder of the store, and none elsewhere
* `Store.put_confined_iff` — a run is confined exactly if its key does not lead to the folder itself, or
  no file can be opened beside it
-/

namespace BlockApp

/-! ## Files of two disks -/

namespace Disk

variable {disk disk' : Disk} {location place : Location} {content found : Bytes}

/-- Whether the files of two disks are the same. Their folders may differ. -/
def SameFiles (disk disk' : Disk) : Prop :=
  ∀ place content, disk'.node? place = some (.file content) ↔ disk.node? place = some (.file content)

theorem SameFiles.refl (disk : Disk) : disk.SameFiles disk := fun _ _ => .rfl

/-- Folders that are made are no files. -/
theorem Grows.sameFiles (h : disk.Grows disk') : disk.SameFiles disk' := by
  intro place content
  rcases h place with hsame | ⟨hnone, hfolder⟩
  · rw [hsame]
  · simp [hnone, hfolder]

theorem makeFolders_sameFiles {path : Path} {result : Except DiskFault Unit}
    (h : disk.makeFolders path = (disk', result)) : disk.SameFiles disk' := by
  have hgrows := makeFolders_grows disk path
  rw [h] at hgrows
  exact hgrows.sameFiles

/-- What is put at one location changes no other. -/
theorem node?_put_of_ne (disk : Disk) {node : Node} (h : place ≠ location) :
    (disk.put location node).node? place = disk.node? place := by
  by_cases hroot : place = []
  · simp [node?, hroot]
  · have hne : (place == location) = false := by simpa using h
    simp [node?, put, hroot, List.lookup_cons, hne, lookup_filter_ne, h]

/-- What is removed at one location changes no other. -/
theorem node?_remove_of_ne (disk : Disk) (h : place ≠ location) :
    (disk.remove location).node? place = disk.node? place := by
  by_cases hroot : place = []
  · simp [node?, hroot]
  · simp [node?, remove, hroot, lookup_filter_ne, h]

/-- What is put where nothing is, and removed again, leaves no trace. -/
theorem remove_put_put (h : disk.node? location = none) (first second : Node) :
    ((disk.put location first).put location second).remove location = disk := by
  have hroot : location ≠ [] := by
    rintro rfl
    simp [node?_nil] at h
  have hnone : disk.entries.lookup location = none := by rwa [node?, if_neg hroot] at h
  have hself : disk.entries.filter (·.1 != location) = disk.entries := by
    refine List.filter_eq_self.2 fun entry hentry => ?_
    have hne : location ≠ entry.1 := by simpa using List.lookup_eq_none_iff.1 hnone entry hentry
    simpa using hne.symm
  simp [put, remove, hself]

/-- Whether the files of two disks are the same but for one, which is at a location of the second. -/
def SameFilesBut (disk disk' : Disk) (location : Location) (content : Bytes) : Prop :=
  ∀ place found, disk'.node? place = some (.file found) ↔
    if place = location then content = found else disk.node? place = some (.file found)

/-- Folders that are there are not made. -/
theorem makeFolders_of_find {path : Path} (h : disk.find path = .ok .folder) :
    disk.makeFolders path = (disk, .ok ()) := by
  obtain ⟨place, hlocate, hnode⟩ := find_eq_ok_iff.1 h
  have hmade : disk.makeFolder path = .error (.alreadyExists path.shown) := by
    simp only [makeFolder, hlocate, bind, Except.bind, hnode]
    rfl
  have hfolder : disk.orFolder path (.alreadyExists path.shown) = .ok () := orFolder_eq_ok_iff.2 h
  unfold makeFolders
  rw [hmade]
  exact congrArg (Prod.mk disk) hfolder

end Disk

namespace Path

theorem shown_ofLocation (location : Location) :
    (ofLocation location).shown = "/" ++ "/".intercalate location := by
  have hne : "/" ++ "/".intercalate location ≠ "" := by
    intro heq
    simpa using congrArg String.toList heq
  show (if "/" ++ "/".intercalate location = "" then "." else "/" ++ "/".intercalate location) = _
  rw [if_neg hne]

/-- A longer name at the end makes a path longer by as much. -/
theorem utf8ByteSize_intercalate_concat (parent : List String) (name other : String) :
    ("/".intercalate (parent ++ [name])).utf8ByteSize + other.utf8ByteSize =
      ("/".intercalate (parent ++ [other])).utf8ByteSize + name.utf8ByteSize := by
  induction parent with
  | nil => simp [Nat.add_comm]
  | cons first parent ih =>
    obtain ⟨second, rest, hrest⟩ := List.exists_cons_of_ne_nil (l := parent ++ [name]) (by simp)
    obtain ⟨second', rest', hrest'⟩ := List.exists_cons_of_ne_nil (l := parent ++ [other]) (by simp)
    rw [hrest, hrest'] at ih
    rw [List.cons_append, List.cons_append, hrest, hrest', String.intercalate_cons_cons,
      String.intercalate_cons_cons]
    simp only [String.utf8ByteSize_append]
    omega

end Path

namespace Store

variable {store : Store} {disk disk' made : Disk} {key drawn : String} {content : Bytes}
  {location place : Location}

/-! ## The file that is being written -/

/-- The name of a file that is being written: that of its file and the letters drawn for it, each behind a
point, and an end. -/
def temporaryName (name drawn : String) : String := "." ++ name ++ "." ++ drawn ++ temporaryEnd

/-- Where a file is while it is being written: in the folder that it will be in. -/
def temporaryOf (location : Location) (drawn : String) : Location :=
  location.dropLast ++ [temporaryName (location.getLastD "") drawn]

/-- Opens a new file to write to. -/
def openTemporary (disk : Disk) (location : Location) (drawn : String) : Except DiskFault Disk :=
  let temporary := temporaryOf location drawn
  if Disk.nameBound < (temporaryName (location.getLastD "") drawn).utf8ByteSize ∨
      Disk.pathBound < (Path.ofLocation temporary).shown.utf8ByteSize then
    .error (.nameTooLong (Path.ofLocation location).shown)
  else
    match disk.node? temporary with
    | some _ => .error (.alreadyExists (Path.ofLocation temporary).shown)
    | none => .ok (disk.put temporary (.file []))

/-- The disks that writing a file goes through, and how it ends: one is opened beside it, is given the
content, and takes its place. If there is a folder in that place, it is erased instead. -/
def replaceStates (disk : Disk) (location : Location) (drawn : String) (content : Bytes) :
    List Disk × Except DiskFault Unit :=
  match openTemporary disk location drawn with
  | .error fault => ([], .error fault)
  | .ok opened =>
    let written := opened.put (temporaryOf location drawn) (.file content)
    let cleared := written.remove (temporaryOf location drawn)
    match written.node? location with
    | some .folder =>
      ([opened, written, cleared], .error (.isFolder (Path.ofLocation location).shown))
    | some (.file _) | none => ([opened, written, cleared.put location (.file content)], .ok ())

/-- The disks that storing bytes goes through, and how it ends. -/
def putStates (store : Store) (disk : Disk) (key : String) (content : Bytes) (drawn : String) :
    List Disk × Except Failure Unit :=
  match store.locate key with
  | .error failure => ([], .error failure)
  | .ok location =>
    match disk.makeFolders (Path.ofLocation location).parent with
    | (made, .error fault) => ([made], .error fault.failure)
    | (made, .ok ()) =>
      let (states, result) := replaceStates made location drawn content
      (made :: states, result.mapError DiskFault.failure)

/-- Whether letters can have been drawn for the name of a file: there are eight of them, and nothing has
that name. -/
def Draws (store : Store) (disk : Disk) (key drawn : String) : Prop :=
  drawn.utf8ByteSize = 8 ∧ ∀ location, store.locate key = .ok location →
    (disk.makeFolders (Path.ofLocation location).parent).1.node? (temporaryOf location drawn) = none

theorem utf8ByteSize_temporaryName (name : String) (h : drawn.utf8ByteSize = 8) :
    (temporaryName name drawn).utf8ByteSize = name.utf8ByteSize + temporaryExtra := by
  have hpoint : ".".utf8ByteSize = 1 := rfl
  have hend : temporaryEnd.utf8ByteSize = 4 := rfl
  simp only [temporaryName, String.utf8ByteSize_append, h, hpoint, hend, temporaryExtra]
  omega

theorem utf8ByteSize_shown_temporaryOf (location : Location) (h : drawn.utf8ByteSize = 8) :
    (Path.ofLocation (temporaryOf location drawn)).shown.utf8ByteSize =
      (Path.ofLocation location).shown.utf8ByteSize + temporaryExtra := by
  have hname := utf8ByteSize_temporaryName (location.getLastD "") h
  rw [Path.shown_ofLocation, Path.shown_ofLocation, String.utf8ByteSize_append,
    String.utf8ByteSize_append, temporaryOf]
  rcases List.eq_nil_or_concat location with rfl | ⟨parent, name, rfl⟩
  · have hempty : ("/".intercalate []).utf8ByteSize = 0 := rfl
    have hnone : "".utf8ByteSize = 0 := rfl
    rw [List.getLastD_nil] at hname ⊢
    rw [List.dropLast_nil, List.nil_append, String.intercalate_singleton, hname, hempty, hnone]
    omega
  · rw [List.concat_eq_append, List.getLastD_concat] at *
    have hlonger := Path.utf8ByteSize_intercalate_concat parent name (temporaryName name drawn)
    rw [List.dropLast_concat]
    omega

theorem temporaryOf_ne (location : Location) (h : drawn.utf8ByteSize = 8) :
    temporaryOf location drawn ≠ location := by
  intro heq
  have hlonger := utf8ByteSize_shown_temporaryOf location h
  rw [heq, temporaryExtra] at hlonger
  omega

theorem temporaryOf_ne_nil (location : Location) (drawn : String) : temporaryOf location drawn ≠ [] := by
  simp [temporaryOf]

theorem openTemporary_eq_ok_iff {opened : Disk} (hdrawn : drawn.utf8ByteSize = 8) :
    openTemporary disk location drawn = .ok opened ↔
      (location.getLastD "").utf8ByteSize + temporaryExtra ≤ Disk.nameBound ∧
        (Path.ofLocation location).shown.utf8ByteSize + temporaryExtra ≤ Disk.pathBound ∧
        disk.node? (temporaryOf location drawn) = none ∧
        opened = disk.put (temporaryOf location drawn) (.file []) := by
  simp only [openTemporary, utf8ByteSize_temporaryName _ hdrawn,
    utf8ByteSize_shown_temporaryOf location hdrawn]
  split
  · next hlong =>
    refine iff_of_false (by simp) ?_
    rintro ⟨hname, hpath, -⟩
    omega
  · next hshort =>
    obtain ⟨hname, hpath⟩ := not_or.1 hshort
    simp only [Nat.le_of_not_lt hname, Nat.le_of_not_lt hpath, true_and]
    cases disk.node? (temporaryOf location drawn) <;> simp [eq_comm]

/-- Writing a file step by step ends as replacing it does. -/
theorem getLastD_replaceStates (content : Bytes) (hdrawn : drawn.utf8ByteSize = 8)
    (hfree : made.node? (temporaryOf location drawn) = none) :
    ((replaceStates made location drawn content).1.getLastD made,
        (replaceStates made location drawn content).2) =
      match replaceFile made location content with
      | .error fault => (made, .error fault)
      | .ok disk => (disk, .ok ()) := by
  have hroot := temporaryOf_ne_nil location drawn
  have hcleared := Disk.remove_put_put hfree (.file []) (.file content)
  -- the file that is being written is not in the way of its own place
  have hplace : ((made.put (temporaryOf location drawn) (.file [])).put
      (temporaryOf location drawn) (.file content)).node? location = made.node? location := by
    rw [Disk.node?_put _ _ _ _ hroot, if_neg (temporaryOf_ne location hdrawn).symm,
      Disk.node?_put _ _ _ _ hroot, if_neg (temporaryOf_ne location hdrawn).symm]
  simp only [replaceStates, openTemporary, replaceFile, hfree, utf8ByteSize_temporaryName _ hdrawn,
    utf8ByteSize_shown_temporaryOf location hdrawn]
  by_cases hlong : Disk.nameBound < (location.getLastD "").utf8ByteSize + temporaryExtra ∨
      Disk.pathBound < (Path.ofLocation location).shown.utf8ByteSize + temporaryExtra
  · simp only [if_pos hlong]
    rfl
  · simp only [if_neg hlong, hplace, hcleared]
    cases made.node? location with
    | none => rfl
    | some node => cases node <;> rfl

/-- **Storing step by step ends as storing does.** -/
theorem getLastD_putStates (h : store.Draws disk key drawn) :
    ((store.putStates disk key content drawn).1.getLastD disk,
      (store.putStates disk key content drawn).2) = store.put disk key content := by
  obtain ⟨hdrawn, hfree⟩ := h
  unfold putStates put
  cases hlocate : store.locate key with
  | error failure => rfl
  | ok location =>
    have hnone := hfree location hlocate
    rcases hfolders : disk.makeFolders (Path.ofLocation location).parent with ⟨made, fault | ⟨⟨⟩⟩⟩
    · simp [hfolders]
    · rw [hfolders] at hnone
      have hreplaced := getLastD_replaceStates content hdrawn hnone
      simp only [hfolders, List.getLastD_cons]
      cases hmade : replaceFile made location content <;>
        · rw [hmade] at hreplaced
          obtain ⟨hlast, hresult⟩ := Prod.mk.inj hreplaced
          rw [hlast, hresult]
          rfl

/-- On the way only two places change: that of the file and that of the one being written. -/
theorem node?_of_mem_replaceStates {state : Disk} (hdrawn : drawn.utf8ByteSize = 8)
    (h : state ∈ (replaceStates made location drawn content).1)
    (htemporary : place ≠ temporaryOf location drawn) (hplace : place ≠ location) :
    state.node? place = made.node? place := by
  unfold replaceStates at h
  split at h
  · exact absurd h List.not_mem_nil
  · next opened hopened =>
    obtain ⟨-, -, -, rfl⟩ := (openTemporary_eq_ok_iff hdrawn).1 hopened
    dsimp only at h
    split at h <;>
    · simp only [List.mem_cons, List.not_mem_nil, or_false] at h
      rcases h with rfl | rfl | rfl <;>
        simp only [Disk.node?_put_of_ne _ htemporary, Disk.node?_put_of_ne _ hplace,
          Disk.node?_remove_of_ne _ htemporary]

/-! ## How a run ends -/

/-- Storing that fails has made folders at most. -/
theorem makeFolders_of_put_error {failure : Failure}
    (h : store.put disk key content = (disk', .error failure)) :
    disk' = disk ∨ ∃ path, disk' = (disk.makeFolders path).1 := by
  unfold put at h
  split at h
  · exact .inl (Prod.mk.inj h).1.symm
  · next location _ =>
    refine .inr ⟨(Path.ofLocation location).parent, ?_⟩
    split at h
    · next hfolders => rw [hfolders, (Prod.mk.inj h).1]
    · next hfolders =>
      split at h
      · rw [hfolders, (Prod.mk.inj h).1]
      · simp at h

/-- Storing that fails changes no file. -/
theorem sameFiles_of_put_error {failure : Failure}
    (h : store.put disk key content = (disk', .error failure)) : disk.SameFiles disk' := by
  rcases makeFolders_of_put_error h with rfl | ⟨path, rfl⟩
  · exact .refl _
  · exact (Disk.makeFolders_grows disk path).sameFiles

/-- Storing changes the file at the location of the key and no other. -/
theorem sameFilesBut_of_put (h : store.put disk key content = (disk', .ok ())) :
    ∃ location, store.locate key = .ok location ∧ location ≠ [] ∧
      disk.SameFilesBut disk' location content := by
  obtain ⟨location, made, hlocate, hfolders, hreplaced⟩ := put_eq_ok_iff.1 h
  obtain ⟨-, -, hfolder, rfl⟩ := replaceFile_eq_ok_iff.1 hreplaced
  have hroot : location ≠ [] := by
    rintro rfl
    exact hfolder made.node?_nil
  refine ⟨location, hlocate, hroot, fun place found => ?_⟩
  rw [Disk.node?_put _ _ _ _ hroot]
  split
  · simp
  · exact Disk.makeFolders_sameFiles hfolders place found

/-! ## Below the folder -/

/-- Whether a location is below the folder of a store. -/
def Below (store : Store) (place : Location) : Prop := ∃ names, names ≠ [] ∧ place = store.base ++ names

theorem below_or_eq_of_locate (h : store.locate key = .ok location) :
    store.Below location ∨ location = store.base := by
  obtain ⟨-, -, hbegins⟩ := locate_eq_ok_iff.1 h
  obtain ⟨names, rfl⟩ := List.isPrefixOf_iff_prefix.1 hbegins
  by_cases hnames : names = []
  · exact .inr (by rw [hnames, List.append_nil])
  · exact .inl ⟨names, hnames, rfl⟩

/-- What is written to a location below the folder is below it all the time. -/
theorem Below.temporaryOf (h : store.Below location) (drawn : String) :
    store.Below (temporaryOf location drawn) := by
  obtain ⟨names, hnames, rfl⟩ := h
  refine ⟨names.dropLast ++ [temporaryName ((store.base ++ names).getLastD "") drawn], by simp, ?_⟩
  rw [Store.temporaryOf, List.dropLast_append_of_ne_nil hnames, List.append_assoc]

/-- What is written to the place of the folder itself is beside it. -/
theorem not_below_temporaryOf_base (h : store.base ≠ []) (drawn : String) :
    ¬ store.Below (temporaryOf store.base drawn) := by
  rintro ⟨names, hnames, heq⟩
  have hlength := congrArg List.length heq
  have hbase := List.length_pos_iff.2 h
  have hpos := List.length_pos_iff.2 hnames
  simp only [temporaryOf, List.length_append, List.length_dropLast, List.length_singleton] at hlength
  omega

/-- What a store promises of storing bytes. `states` are the disks on the way, and `ended` is the last of
them with the outcome. -/
structure Confined (store : Store) (disk : Disk) (key : String) (content : Bytes) (states : List Disk)
    (ended : Disk × Except Failure Unit) : Prop where
  /-- At no time is a file made, replaced or erased that is not below the folder of the store. -/
  outside : ∀ state ∈ states, ∀ place, ¬ store.Below place → ∀ found,
    state.node? place = some (.file found) ↔ disk.node? place = some (.file found)
  /-- When it fails, the files are those from before. -/
  refused : ∀ failure, ended.2 = .error failure → disk.SameFiles ended.1
  /-- When it does not, one file is made or replaced, and it is below the folder of the store. -/
  stored : ended.2 = .ok () → ∃ location, store.locate key = .ok location ∧ store.Below location ∧
    disk.SameFilesBut ended.1 location content

/-- Whether a file is opened beside the folder of the store: the key leads to that folder, which is not the
root, the folders above it can be made, and there is a place for a file of a longer name. -/
def LeavesBase (store : Store) (disk : Disk) (key drawn : String) : Prop :=
  store.base ≠ [] ∧ store.locate key = .ok store.base ∧
    ∃ made opened, disk.makeFolders (Path.ofLocation store.base).parent = (made, .ok ()) ∧
      openTemporary made store.base drawn = .ok opened

/-- On the way a run changes only what is below the folder, unless it leaves the folder. -/
theorem outside_of_putStates (hdrawn : drawn.utf8ByteSize = 8)
    (h : ¬ store.LeavesBase disk key drawn) {state : Disk}
    (hstate : state ∈ (store.putStates disk key content drawn).1) (hplace : ¬ store.Below place)
    (found : Bytes) :
    state.node? place = some (.file found) ↔ disk.node? place = some (.file found) := by
  unfold putStates at hstate
  split at hstate
  · exact absurd hstate List.not_mem_nil
  · next location hlocate =>
    split at hstate
    · next made fault hfolders =>
      obtain rfl := List.mem_singleton.1 hstate
      exact Disk.makeFolders_sameFiles hfolders place found
    · next made hfolders =>
      rcases List.mem_cons.1 hstate with rfl | hstate
      · exact Disk.makeFolders_sameFiles hfolders place found
      · rw [← Disk.makeFolders_sameFiles hfolders place found]
        by_cases hroot : place = []
        · simp [hroot, Disk.node?_nil]
        -- a key that leads to the folder itself leads to the root, if anything was opened
        have hbelow : store.Below location ∨ store.base = [] := by
          rcases below_or_eq_of_locate hlocate with hbelow | rfl
          · exact .inl hbelow
          · by_cases hbase : store.base = []
            · exact .inr hbase
            · cases hopened : openTemporary made store.base drawn with
              | error fault => simp [replaceStates, hopened] at hstate
              | ok opened => exact absurd ⟨hbase, hlocate, made, opened, hfolders, hopened⟩ h
        rcases hbelow with hbelow | hbase
        · rw [node?_of_mem_replaceStates hdrawn hstate]
          · rintro rfl
            exact hplace (hbelow.temporaryOf drawn)
          · rintro rfl
            exact hplace hbelow
        · exact absurd ⟨place, hroot, by rw [hbase, List.nil_append]⟩ hplace

/-- A file is stored in the place of the folder itself only by leaving it. -/
theorem leavesBase_of_put (h : store.Draws disk key drawn)
    (hlocate : store.locate key = .ok store.base)
    (hput : store.put disk key content = (disk', .ok ())) : store.LeavesBase disk key drawn := by
  obtain ⟨location, made, hlocate', hfolders, hreplaced⟩ := put_eq_ok_iff.1 hput
  obtain rfl : store.base = location := by rwa [hlocate, Except.ok.injEq] at hlocate'
  obtain ⟨hname, hpath, hfolder, -⟩ := replaceFile_eq_ok_iff.1 hreplaced
  refine ⟨?_, hlocate, made, _, hfolders,
    (openTemporary_eq_ok_iff h.1).2 ⟨hname, hpath, ?_, rfl⟩⟩
  · intro hbase
    rw [hbase] at hfolder
    exact hfolder made.node?_nil
  · have hfree := h.2 store.base hlocate
    rwa [hfolders] at hfree

/-- A run that leaves the folder has a file beside it on the way. -/
theorem exists_beside_of_leavesBase (content : Bytes) (h : store.Draws disk key drawn)
    (hleaves : store.LeavesBase disk key drawn) :
    ∃ state ∈ (store.putStates disk key content drawn).1,
      state.node? (temporaryOf store.base drawn) = some (.file []) ∧
        disk.node? (temporaryOf store.base drawn) = none := by
  obtain ⟨-, hlocate, made, opened, hfolders, hopened⟩ := hleaves
  have hput := (openTemporary_eq_ok_iff h.1).1 hopened
  obtain ⟨-, -, hnone, rfl⟩ := hput
  refine ⟨made.put (temporaryOf store.base drawn) (.file []), ?_, ?_, ?_⟩
  · simp only [putStates, hlocate, hfolders, replaceStates, hopened]
    split <;> simp
  · rw [Disk.node?_put _ _ _ _ (temporaryOf_ne_nil _ _), if_pos rfl]
  · have hgrows := Disk.makeFolders_grows disk (Path.ofLocation store.base).parent
    rw [hfolders] at hgrows
    rcases hgrows (temporaryOf store.base drawn) with hsame | ⟨hnew, -⟩
    · rwa [← hsame]
    · exact hnew

/-- **Storing is confined to the folder of the store, unless its key leads to that folder itself** and a
file can be opened beside it. The run is taken step by step, with any letters that can have been drawn. If
there is no folder yet at the place of the store but one above it, such a key puts a file there. -/
theorem put_confined_iff (content : Bytes) (h : store.Draws disk key drawn) :
    ((store.putStates disk key content drawn).1.getLastD disk,
        (store.putStates disk key content drawn).2) = store.put disk key content ∧
      (store.Confined disk key content (store.putStates disk key content drawn).1
          (store.put disk key content) ↔
        ¬ store.LeavesBase disk key drawn) ∧
      ∀ parent name, store.base = parent ++ [name] → store.locate key = .ok store.base →
        disk.find (.ofLocation parent) = .ok .folder → disk.node? store.base ≠ some .folder →
        name.utf8ByteSize + temporaryExtra ≤ Disk.nameBound →
        (Path.ofLocation store.base).shown.utf8ByteSize + temporaryExtra ≤ Disk.pathBound →
        store.put disk key content = (disk.put store.base (.file content), .ok ()) := by
  refine ⟨getLastD_putStates h, ⟨fun hconfined hleaves => ?_, fun hstays => ⟨?_, ?_, ?_⟩⟩, ?_⟩
  · obtain ⟨state, hstate, hfile, hnone⟩ := exists_beside_of_leavesBase content h hleaves
    have hold := (hconfined.outside state hstate _
      (not_below_temporaryOf_base hleaves.1 drawn) []).1 hfile
    rw [hnone] at hold
    exact absurd hold (by simp)
  · exact fun state hstate place hplace found => outside_of_putStates h.1 hstays hstate hplace found
  · intro failure hfailure
    exact sameFiles_of_put_error (Prod.ext rfl hfailure)
  · intro hok
    have hput : store.put disk key content = ((store.put disk key content).1, .ok ()) :=
      Prod.ext rfl hok
    obtain ⟨location, hlocate, -, hfiles⟩ := sameFilesBut_of_put hput
    refine ⟨location, hlocate, ?_, hfiles⟩
    rcases below_or_eq_of_locate hlocate with hbelow | rfl
    · exact hbelow
    · exact absurd (leavesBase_of_put h hlocate hput) hstays
  · intro parent name hbase hlocate hparent hfolder hname hpath
    refine put_eq_ok_iff.2 ⟨store.base, disk, hlocate, ?_, replaceFile_eq_ok_iff.2 ⟨?_, hpath, hfolder, rfl⟩⟩
    · rw [hbase, Path.ofLocation, Path.parent, List.dropLast_concat]
      exact Disk.makeFolders_of_find hparent
    · rwa [hbase, List.getLastD_concat]

/-- The empty key, in a store whose folder is not there yet: the file is put in the place of the folder, and
before that there is one beside it. -/
theorem put_confined_iff_emptyKey :
    (Store.mk ["out"]).Draws ⟨[], []⟩ "" "k3x_9a0q" ∧
      (Store.mk ["out"]).put ⟨[], []⟩ "" [120] = (⟨[(["out"], .file [120])], []⟩, .ok ()) ∧
      ¬ (Store.mk ["out"]).Confined ⟨[], []⟩ "" [120]
        ((Store.mk ["out"]).putStates ⟨[], []⟩ "" [120] "k3x_9a0q").1
        ((Store.mk ["out"]).put ⟨[], []⟩ "" [120]) := by
  have hlocate : (Store.mk ["out"]).locate "" = .ok ["out"] :=
    locate_eq_ok_iff.2 ⟨by decide +kernel, by decide +kernel, by decide +kernel⟩
  have hdraws : (Store.mk ["out"]).Draws ⟨[], []⟩ "" "k3x_9a0q" := by
    refine ⟨by decide +kernel, fun location h => ?_⟩
    rw [hlocate, Except.ok.injEq] at h
    subst h
    decide +kernel
  obtain ⟨-, hiff, hbase⟩ := put_confined_iff [120] hdraws
  have hput := hbase [] "out" rfl hlocate rfl (by decide +kernel) (by decide +kernel)
    (by decide +kernel)
  refine ⟨hdraws, hput, fun hconfined => hiff.1 hconfined ?_⟩
  exact leavesBase_of_put hdraws hlocate hput

end Store

end BlockApp
