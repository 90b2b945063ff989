import BlockApp.Disk.Basic
import BlockApp.Section.Name

/-!
# Section folders

A backup that has been taken apart: a folder with one file for every section, named as the section.
-/

namespace BlockApp.Backup

/-- The content of a section's file in a folder. -/
def readSection (disk : Disk) (folder : Path) (name : SectionName) : Except Failure Bytes := do
  match ← (disk.look (folder.child name.name)).mapError DiskFault.failure with
  | some (.file content) => return content
  | some .folder | none => throw (.container name.name (.missingFile name.name folder.shown))

/-- The contents of the six files in a folder. -/
def readFolder (disk : Disk) (folder : Path) : Except Failure (Sections Bytes) :=
  Sections.build (readSection disk folder)

/-- Writes files into a folder, one after the other, up to the first that fails. -/
def writeSections (folder : Path) :
    Disk → List (SectionName × Bytes) → Disk × Except DiskFault Unit
  | disk, [] => (disk, .ok ())
  | disk, (name, content) :: others =>
    match disk.writeFile (folder.child name.name) content with
    | .error fault => (disk, .error fault)
    | .ok disk => writeSections folder disk others

/-- Writes the six files into a folder, which is made if it is missing. -/
def writeFolder (disk : Disk) (folder : Path) (contents : Sections Bytes) :
    Disk × Except DiskFault Unit :=
  match disk.makeFolders folder with
  | (disk, .error fault) => (disk, .error fault)
  | (disk, .ok ()) => writeSections folder disk contents.toList

/-- The paths of the six files in a folder. -/
def sectionPaths (folder : Path) : List Path := SectionName.all.map (folder.child ·.name)

end BlockApp.Backup
