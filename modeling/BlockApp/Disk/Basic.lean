import BlockApp.Disk.Path
import BlockApp.Failure.Basic

/-!
# Files and folders

The file system as a program sees it: what is at which location, and the folder that is worked in.

* `Disk.node?` is the view of a disk; every operation says what it does to it.
* `Disk.locate` walks along a path name by name. Every name before the last must be a folder's, so a path
  cannot lead through a file or a missing folder, not even when `..` follows.
-/

namespace BlockApp

/-- What can be at a location. -/
inductive Node where
  | file (content : Bytes)
  | folder
  deriving Repr, DecidableEq

/-- A file system, and the folder that is worked in. -/
structure Disk where
  entries : List (Location × Node)
  here : Location
  deriving Repr, DecidableEq

namespace Disk

/-! ## Locations -/

/-- What is at a location. The root is always a folder. -/
def node? (disk : Disk) (location : Location) : Option Node :=
  if location = [] then some .folder else disk.entries.lookup location

/-- A disk with something put at a location. -/
def put (disk : Disk) (location : Location) (node : Node) : Disk :=
  { disk with entries := (location, node) :: disk.entries.filter (·.1 != location) }

/-- A disk with nothing at a location. -/
def remove (disk : Disk) (location : Location) : Disk :=
  { disk with entries := disk.entries.filter (·.1 != location) }

theorem lookup_filter_ne {α : Type} (entries : List (Location × α)) (location other : Location) :
    (entries.filter (·.1 != location)).lookup other =
      if other = location then none else entries.lookup other := by
  induction entries with
  | nil => simp
  | cons entry entries ih =>
    obtain ⟨place, node⟩ := entry
    by_cases hplace : place = location
    · rw [List.filter_cons_of_neg (by simp [hplace]), ih]
      by_cases hother : other = location
      · simp [hother]
      · have : (other == place) = false := by simpa [hplace] using hother
        simp [hother, List.lookup_cons, this]
    · rw [List.filter_cons_of_pos (by simpa using hplace), List.lookup_cons, List.lookup_cons, ih]
      by_cases hother : other = location
      · subst hother
        have : (other == place) = false := by simpa using Ne.symm hplace
        simp [this]
      · simp [hother]

/-- Putting something at a location changes that location only. -/
theorem node?_put (disk : Disk) (location other : Location) (node : Node) (h : location ≠ []) :
    (disk.put location node).node? other = if other = location then some node else disk.node? other := by
  by_cases hother : other = location
  · simp [node?, put, hother, h]
  · have : (other == location) = false := by simpa using hother
    by_cases hroot : other = []
    · simp [node?, hroot, Ne.symm h]
    · simp [node?, put, hother, hroot, List.lookup_cons, this, lookup_filter_ne]

/-- Removing what is at a location changes that location only. -/
theorem node?_remove (disk : Disk) (location other : Location) (h : location ≠ []) :
    (disk.remove location).node? other = if other = location then none else disk.node? other := by
  by_cases hroot : other = []
  · simp [node?, hroot, Ne.symm h]
  · simp [node?, remove, hroot, lookup_filter_ne]

/-- The files below a location, each with the names that lead to it from there. -/
def filesBelow (disk : Disk) (location : Location) : List (List String × Bytes) :=
  disk.entries.filterMap fun (place, node) =>
    match node with
    | .file content =>
      if location.isPrefixOf place ∧ place ≠ location then some (place.drop location.length, content)
      else none
    | .folder => none

/-! ## Paths -/

/-- The greatest number of bytes in a name. -/
def nameBound : Nat := 255

/-- The greatest number of bytes in a path. -/
def pathBound : Nat := 4095

/-- The location that names lead to from a folder. `shown` is the whole path in messages. -/
def walk (disk : Disk) (shown : String) : (folder : Location) → List String → Except DiskFault Location
  | folder, [] => .ok folder
  | folder, name :: names =>
    if nameBound < name.utf8ByteSize then .error (.nameTooLong shown)
    else
      let place := if name = ".." then folder.dropLast else folder ++ [name]
      if names = [] then .ok place
      else
        match disk.node? place with
        | some .folder => walk disk shown place names
        | some (.file _) => .error (.notFolder shown)
        | none => .error (.notFound shown)

/-- The location that a path leads to. There need not be anything. -/
def locate (disk : Disk) (path : Path) : Except DiskFault Location :=
  if path.hasNul then .error .nulInPath
  else if pathBound < path.shown.utf8ByteSize then .error (.nameTooLong path.shown)
  else disk.walk path.shown (if path.start = .here then disk.here else []) path.names

/-- What is at a path. -/
def find (disk : Disk) (path : Path) : Except DiskFault Node := do
  match disk.node? (← disk.locate path) with
  | some node => return node
  | none => throw (.notFound path.shown)

/-- What is at a path, nothing if it leads nowhere. Only a name or path that is too long is a fault. -/
def look (disk : Disk) (path : Path) : Except DiskFault (Option Node) :=
  match disk.find path with
  | .ok node => .ok (some node)
  | .error (.nameTooLong shown) => .error (.nameTooLong shown)
  | .error _ => .ok none

/-- The content of the file at a path. -/
def readFile (disk : Disk) (path : Path) : Except DiskFault Bytes := do
  match ← disk.find path with
  | .file content => return content
  | .folder => throw (.isFolder path.shown)

/-- Writes the file at a path, in the place of what it held. -/
def writeFile (disk : Disk) (path : Path) (content : Bytes) : Except DiskFault Disk := do
  let location ← disk.locate path
  match disk.node? location with
  | some .folder => throw (.isFolder path.shown)
  | some (.file _) | none => return disk.put location (.file content)

/-- Makes a folder in a folder that is there. -/
def makeFolder (disk : Disk) (path : Path) : Except DiskFault Disk := do
  let location ← disk.locate path
  match disk.node? location with
  | some _ => throw (.alreadyExists path.shown)
  | none => return disk.put location .folder

/-- A folder that could not be made is no fault if it is there. -/
def orFolder (disk : Disk) (path : Path) (fault : DiskFault) : Except DiskFault Unit := do
  match ← disk.look path with
  | some .folder => return ()
  | some (.file _) | none => throw fault

/-- Makes a folder and those above it that are missing. When that fails, the folders made before
stay. -/
def makeFolders (disk : Disk) (path : Path) : Disk × Except DiskFault Unit :=
  match disk.makeFolder path with
  | .ok disk => (disk, .ok ())
  | .error (.notFound shown) =>
    if _h : path.names = [] then (disk, .error (.notFound shown))
    else
      match makeFolders disk path.parent with
      | (disk, .error fault) => (disk, .error fault)
      | (disk, .ok ()) =>
        match disk.makeFolder path with
        | .ok disk => (disk, .ok ())
        | .error (.notFound shown) => (disk, .error (.notFound shown))
        | .error fault => (disk, disk.orFolder path fault)
  | .error fault => (disk, disk.orFolder path fault)
  termination_by path.names.length
  decreasing_by
    have := List.length_pos_iff.2 _h
    simp only [Path.parent, List.length_dropLast]
    omega

end Disk

end BlockApp
