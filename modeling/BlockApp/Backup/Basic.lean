import BlockApp.Backup.Archive.Entry
import BlockApp.Backup.Framed

/-!
# Backups

A backup file is an archive if it has the end record of one, and framed otherwise. Either way it must
hold all six sections.
-/

namespace BlockApp.Backup

/-- The six sections among those that were read. -/
def complete (found : List (SectionName × Bytes)) : Except Failure (Sections Bytes) :=
  Sections.build fun name =>
    match found.lookup name with
    | some content => .ok content
    | none => .error (.container name.name .missing)

/-- The sections of a backup. -/
def unpack (file : Bytes) : Except Failure (Sections Bytes) := do
  match ← (Archive.findEnd file).mapError Archive.Stop.failure with
  | some record => complete (← Archive.read file record)
  | none => complete (← readFramed file)

end BlockApp.Backup
