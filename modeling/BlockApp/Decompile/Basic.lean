import BlockApp.Backup.Basic
import BlockApp.Backup.Encrypted
import BlockApp.Backup.Folder
import BlockApp.Decompile.Artifacts
import BlockApp.Store.Basic

/-!
# Decompiling a backup

From a backup file or a section folder to layouts and classes in a store.

* `Decompile.produce` makes all texts. Only then does `Decompile.run` store them, so what fails before
  leaves nothing behind.
* A fault from below is reported as one of the whole run.
-/

namespace BlockApp.Decompile

/-- What a run has made. -/
structure Outcome where
  packageName : String
  screens : List String
  layoutKeys : List String
  sourceKeys : List String
  deriving Repr, DecidableEq

/-- The keys of all that a run has made. -/
def Outcome.keys (outcome : Outcome) : List String := outcome.layoutKeys ++ outcome.sourceKeys

/-- The sections at a path: of a folder with a file for each, or of a backup file. -/
def load (disk : Disk) (source : Path) : Except Failure (Sections Bytes) := do
  match ← (disk.look source).mapError DiskFault.failure with
  | none => throw (.argument (.inputNotFound source.shown))
  | some .folder => Backup.readFolder disk source
  | some (.file content) => Backup.unpack content

/-- The project at a path and what a selection of it makes. -/
def produce (settings : Settings) (disk : Disk) (source : Path) (selection : Selection) :
    Except Failure (Project × Artifacts) := do
  selection.check
  let texts ← Backup.decryptAll settings.cipher (← load disk source)
  let project ← Project.ofTexts texts settings.skippedExtensions
  return (project, ← Artifacts.ofProject settings project selection)

/-- The outcome of a run. -/
def outcomeOf (project : Project) (selection : Selection) (artifacts : Artifacts) : Outcome where
  packageName := project.metadata.packageName
  screens := project.view.screenNames.filter (selection.wants project.files)
  layoutKeys := artifacts.layouts.map (·.1)
  sourceKeys := artifacts.sources.map (·.1)

/-- A failure as a run reports it. -/
def reported : Failure → Failure
  | .system fault => .service fault
  | failure => failure

/-- Decompiles the backup at a path into a store. -/
def run (settings : Settings) (store : Store) (disk : Disk) (source : Path) (selection : Selection) :
    Disk × Except Failure Outcome :=
  match produce settings disk source selection with
  | .error failure => (disk, .error (reported failure))
  | .ok (project, artifacts) =>
    match store.putTexts disk artifacts.entries with
    | (disk, .error failure) => (disk, .error (reported failure))
    | (disk, .ok ()) => (disk, .ok (outcomeOf project selection artifacts))

end BlockApp.Decompile
