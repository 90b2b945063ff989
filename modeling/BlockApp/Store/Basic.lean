import BlockApp.Disk.Basic

/-!
# Stores

A store keeps files under keys, in a folder. A key is a path from that folder on: slashes and backslashes
before it do not count, and several keys can lead to one file.

* `Store.locate` refuses a key that leads out of the folder. It does not look at the disk: `..` undoes the
  name before it.
* `Store.put` makes the folders above the file, writes beside the file under a longer name and then
  renames, so that a file is never half written.
-/

namespace BlockApp

/-- A store in a folder. -/
structure Store where
  base : Location
  deriving Repr, DecidableEq

namespace Store

/-- The store in the folder at a path. -/
def ofPath (disk : Disk) (path : Path) : Except DiskFault Store :=
  if path.hasNul then .error .nulInPath else .ok ⟨path.resolve disk.here⟩

/-! ## Keys -/

/-- The names that a key consists of. -/
def keyNames (key : String) : List String :=
  Path.namesOf (key.toList.dropWhile fun c => c == '/' || c == '\\')

/-- The location of a key. -/
def locate (store : Store) (key : String) : Except Failure Location :=
  let path : Path := ⟨.root, store.base ++ keyNames key⟩
  if path.hasNul then .error DiskFault.nulInPath.failure
  else
    let location := Path.resolveNames store.base (keyNames key)
    if store.base.isPrefixOf location then .ok location
    else
      .error <| .argument <|
        .keyEscapes key (Path.ofLocation location).shown (Path.ofLocation store.base).shown

/-- The names that lead from the folder of a store to a key's file. -/
def relativeNames (store : Store) (key : String) : Except Failure (List String) := do
  return (← store.locate key).drop store.base.length

/-! ## Files -/

/-- How many bytes the name of a file that is being written is longer than its own. -/
def temporaryExtra : Nat := 14

/-- The end of the name of a file that is being written. -/
def temporaryEnd : String := ".tmp"

/-- Writes a file under another name and renames it. -/
def replaceFile (disk : Disk) (location : Location) (content : Bytes) : Except DiskFault Disk :=
  let shown := (Path.ofLocation location).shown
  if Disk.nameBound < (location.getLastD "").utf8ByteSize + temporaryExtra ∨
      Disk.pathBound < shown.utf8ByteSize + temporaryExtra then
    .error (.nameTooLong shown)
  else
    match disk.node? location with
    | some .folder => .error (.isFolder shown)
    | some (.file _) | none => .ok (disk.put location (.file content))

/-- Stores bytes under a key. When that fails, folders may have been made. -/
def put (store : Store) (disk : Disk) (key : String) (content : Bytes) :
    Disk × Except Failure Unit :=
  match store.locate key with
  | .error failure => (disk, .error failure)
  | .ok location =>
    match disk.makeFolders (Path.ofLocation location).parent with
    | (disk, .error fault) => (disk, .error fault.failure)
    | (disk, .ok ()) =>
      match replaceFile disk location content with
      | .error fault => (disk, .error fault.failure)
      | .ok disk => (disk, .ok ())

/-- Stores a text under a key. -/
def putText (store : Store) (disk : Disk) (key text : String) : Disk × Except Failure Unit :=
  store.put disk key (Utf8.encode text.toList)

/-- Stores texts under their keys, one after the other, up to the first that fails. -/
def putTexts (store : Store) : Disk → List (String × String) → Disk × Except Failure Unit
  | disk, [] => (disk, .ok ())
  | disk, (key, text) :: entries =>
    match store.putText disk key text with
    | (disk, .error failure) => (disk, .error failure)
    | (disk, .ok ()) => putTexts store disk entries

/-- What is at a key. -/
def look (store : Store) (disk : Disk) (key : String) : Except Failure (Option Node) := do
  (disk.look (.ofLocation (← store.locate key))).mapError DiskFault.failure

/-- The bytes under a key. -/
def get (store : Store) (disk : Disk) (key : String) : Except Failure Bytes := do
  match ← store.look disk key with
  | some (.file content) => return content
  | some .folder => throw (DiskFault.isFolder (Path.ofLocation (← store.locate key)).shown).failure
  | none => throw (.missingKey key)

/-- The text under a key. -/
def getText (store : Store) (disk : Disk) (key : String) : Except Failure String := do
  let text ← (Utf8.decode (← store.get disk key)).mapError fun fault => Failure.system (.text fault)
  return String.ofList text

/-- Whether there is a file or a folder at a key. -/
def contains (store : Store) (disk : Disk) (key : String) : Except Failure Bool :=
  return (← store.look disk key).isSome

/-- Erases the file under a key, and tells whether there was one. -/
def erase (store : Store) (disk : Disk) (key : String) : Except Failure (Disk × Bool) := do
  match ← store.look disk key with
  | some (.file _) => return (disk.remove (← store.locate key), true)
  | some .folder | none => return (disk, false)

/-- Whether the name at the end of a key is one of a file that is being written. -/
def isTemporary (names : List String) : Bool := (names.getLastD "").endsWith temporaryEnd

/-- The keys that start with a text, in the order of their characters. A key that is listed is written
without detours. -/
def keys (store : Store) (disk : Disk) (start : String) : List String :=
  let listed := (disk.filesBelow store.base).filterMap fun (names, _) =>
    if isTemporary names then none else some ("/".intercalate names)
  (listed.filter (start.toList.isPrefixOf ·.toList)).mergeSort (· ≤ ·)

end Store

end BlockApp
