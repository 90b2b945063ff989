import BlockApp.Command.Basic

/-!
# The program

Reads what a command line can be about from the file system, runs it, and writes what has changed.
-/

namespace BlockApp.Program

/-- What is at a path, which must lead to a folder before its last name. -/
def readNode (path : String) : IO (Option Node) := do
  try
    let content ← IO.FS.readBinFile path
    return some (.file content.toList)
  catch
    | .noFileOrDirectory .. => return none
    | _ => return some .folder

/-- A disk with what is at the locations that names lead to from a folder, as far as there is
anything. -/
def readAlong (disk : Disk) : (folder : Location) → List String → IO Disk
  | _, [] => return disk
  | folder, name :: names => do
    let place := if name = ".." then folder.dropLast else folder ++ [name]
    match ← readNode (Path.ofLocation place).shown with
    | none => return disk
    | some (.file content) => return disk.put place (.file content)
    | some .folder => readAlong (if place = [] then disk else disk.put place .folder) place names

/-- A disk with what is at a path, on the way to it, and in the section folder that it may be. -/
def readPath (disk : Disk) (path : Path) : IO Disk := do
  let start := if path.start = .here then disk.here else []
  let location := path.resolve disk.here
  let disk ← readAlong (← readAlong disk start path.names) [] location
  SectionName.all.foldlM (fun disk name => readAlong disk [] (location ++ [name.name])) disk

/-- The variables that settings are read from. -/
def variableNames : List String :=
  ["SKB_LOG_LEVEL", "SKB_CIPHER_KEY", "SKB_CIPHER_IV", "SKB_OUTPUT_PATH", "SKB_LAYOUT_DIR",
   "SKB_SOURCE_DIR"]

/-- The values of the variables that are set. -/
def readVariables : IO (List (String × String)) :=
  variableNames.filterMapM fun name => return (← IO.getEnv name).map (name, ·)

/-- Writes what is at a location. -/
def writeNode (location : Location) : Node → IO Unit
  | .folder => IO.FS.createDir (Path.ofLocation location).shown
  | .file content => IO.FS.writeBinFile (Path.ofLocation location).shown ⟨content.toArray⟩

/-- Writes what is on one disk and was not on another, folders before what is in them. -/
def writeChanges (before after : Disk) : IO Unit := do
  let changed := after.entries.filter fun (location, node) => before.node? location ≠ some node
  for (location, node) in changed.mergeSort fun a b => a.1.length ≤ b.1.length do
    writeNode location node

/-- Runs a command line. -/
def run (line : List String) : IO UInt32 := do
  let given ← readVariables
  let here := (Path.ofString (toString (← IO.currentDir))).names
  let disk ← readAlong ⟨[], here⟩ [] here
  let output := (given.lookup "SKB_OUTPUT_PATH").getD "output"
  let disk ← (output :: CommandLine.paths line).foldlM (fun disk text => readPath disk (Path.ofString text)) disk
  let result := CommandLine.run (given.lookup ·) disk line
  writeChanges disk result.disk
  for told in result.lines do
    IO.println told
  return result.status.code.toUInt32

end BlockApp.Program

/-- Runs the program. -/
def main (line : List String) : IO UInt32 := BlockApp.Program.run line
