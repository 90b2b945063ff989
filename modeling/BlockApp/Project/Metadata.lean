import BlockApp.Section.Framing
import BlockApp.Section.Name

/-!
# The project section

Named values; four of them are required. A problem with a value that is missing or malformed is
reported at the last header or record of the section.
-/

namespace BlockApp

/-- The package, the name and the version of a project. -/
structure Metadata where
  packageName : String
  appName : String
  versionCode : Nat
  versionName : String
  deriving Repr, DecidableEq

namespace Metadata

/-- The folder of a package: a folder for each part of its name. -/
def packagePath (metadata : Metadata) : String :=
  String.ofList (metadata.packageName.toList.map fun c => if c = '.' then '/' else c)

/-- The name of the section in messages. -/
def sectionName : String := SectionName.project.name

/-- The values read so far, by their keys as written, and the line they were read up to. -/
structure Values where
  entries : List (String × String)
  lastLine : Nat
  deriving Repr, DecidableEq

/-- Reads a record. -/
def readEntry (values : Values) (record : Record) : Except Failure Values :=
  match record.fields with
  | [key, value] =>
    if (values.entries.lookup key).isSome then
      Section.failAt sectionName record.line (.duplicate "project key" key)
    else .ok ⟨values.entries ++ [(key, Text.unescape value)], record.line⟩
  | _ => Section.wrongCount sectionName "project" record 2

/-- Reads a group. -/
def readGroup (values : Values) (group : Group) : Except Failure Values :=
  if group.header = "project" then
    group.records.foldlM readEntry { values with lastLine := group.line }
  else Section.failAt sectionName group.line (.unknown "project group" group.header)

/-- The value of a required key. -/
def require (values : Values) (key : String) : Except Failure String :=
  match values.entries.lookup key with
  | some value => .ok value
  | none => Section.failAt sectionName values.lastLine (.missingKey key)

/-- The metadata that the values of a project section make. -/
def ofValues (values : Values) : Except Failure Metadata := do
  let packageName ← require values "package_name"
  let appName ← require values "app_name"
  let versionCode ← require values "version_code"
  let versionName ← require values "version_name"
  if !Text.isPackageName packageName.toList then
    Section.failAt sectionName values.lastLine (.invalid "package name" packageName)
  else
    match Text.Numeral.readUnsigned? versionCode.toList with
    | none => Section.failAt sectionName values.lastLine (.invalid "version code" versionCode)
    | some numeral => do
      let code ← numeral.value.mapError fun cause => Failure.system (.tooManyDigits cause)
      return ⟨packageName, appName, code.toNat, versionName⟩

/-- Reads the project section. -/
def ofText (text : String) : Except Failure Metadata := do
  let groups ← Section.splitGroups sectionName text
  ofValues (← groups.foldlM readGroup ⟨[], 0⟩)

end Metadata

end BlockApp
