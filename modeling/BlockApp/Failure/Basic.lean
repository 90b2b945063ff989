import BlockApp.Failure.Backup
import BlockApp.Failure.SectionText
import BlockApp.Failure.Trees
import BlockApp.Report.Basic
import BlockApp.Text.Numeral

/-!
# Failures

All ways in which work on a project can fail. A failure of the first kind is *reported*: it says what is
wrong with the input and where, and `Failure.report?` gives its report. The others come from below: a
number, key, archive or file that cannot be handled at all.
-/

namespace BlockApp

/-- A problem of the arguments of a run. -/
inductive ArgumentProblem where
  | exclusiveModes
  | layoutsWithoutLayouts
  | activitiesWithoutSources
  | inputNotFound (path : String)
  | noActivity (name : String)
  | noLayout (name : String)
  | keyEscapes (key path base : String)
  deriving Repr, DecidableEq

/-- The wording of a problem of arguments. -/
def ArgumentProblem.message : ArgumentProblem → String
  | .exclusiveModes => "layout_only and java_only are mutually exclusive"
  | .layoutsWithoutLayouts => "cannot restrict layouts when only sources are generated"
  | .activitiesWithoutSources => "cannot restrict activities when only layouts are generated"
  | .inputNotFound path => s!"input not found: {path}"
  | .noActivity name => s!"no activity named '{name}'"
  | .noLayout name => s!"no layout named '{name}'"
  | .keyEscapes .. => "storage key escapes the output directory"

/-- The argument that a problem is about. -/
def ArgumentProblem.field : ArgumentProblem → String
  | .exclusiveModes => "layout_only"
  | .layoutsWithoutLayouts | .noLayout _ => "layouts"
  | .activitiesWithoutSources | .noActivity _ => "activities"
  | .inputNotFound _ => "source"
  | .keyEscapes .. => "key"

/-- The values reported with a problem of arguments. -/
def ArgumentProblem.context : ArgumentProblem → List (String × Value)
  | .keyEscapes key _ _ => [("key", .text key)]
  | _ => []

/-- What caused a problem of arguments. -/
def ArgumentProblem.cause : ArgumentProblem → Option String
  | .keyEscapes _ path base =>
    some (s!"{Text.quoted path} is not in the subpath of {Text.quoted base} " ++
      "OR one path is relative and the other is absolute.")
  | _ => none

/-- A file operation that the file system refuses. -/
inductive DiskFault where
  | isFolder (path : String)
  | alreadyExists (path : String)
  | notFolder (path : String)
  | notFound (path : String)
  | nameTooLong (path : String)
  | nulInPath
  deriving Repr, DecidableEq

/-- What is reported of a refused file operation. -/
def DiskFault.message : DiskFault → String
  | .isFolder path => s!"[Errno 21] Is a directory: {Text.quoted path}"
  | .alreadyExists path => s!"[Errno 17] File exists: {Text.quoted path}"
  | .notFolder path => s!"[Errno 20] Not a directory: {Text.quoted path}"
  | .notFound path => s!"[Errno 2] No such file or directory: {Text.quoted path}"
  | .nameTooLong path => s!"[Errno 36] File name too long: {Text.quoted path}"
  | .nulInPath => "embedded null byte"

/-- What an archive asks for and this reader does not do. -/
inductive ArchiveLimit where
  | version (number : Nat)
  | patchedData
  | strongEncryption
  | compression
  | encrypted (description : String)
  | endOfData
  | name (cause : Utf8.Fault)
  | severalDisks
  | negativePosition
  | hugePosition
  deriving Repr, DecidableEq

/-- What is reported of an archive beyond the reader's limits. -/
def ArchiveLimit.message : ArchiveLimit → String
  | .version number => s!"zip file version {number / 10}.{number % 10}"
  | .patchedData => "compressed patched data (flag bit 5)"
  | .strongEncryption => "strong encryption (flag bit 6)"
  | .compression => "That compression method is not supported"
  | .encrypted description => s!"File {description} is encrypted, password required for extraction"
  | .endOfData => ""
  | .name cause => cause.message
  | .severalDisks => "zipfiles that span multiple disks are not supported"
  | .negativePosition => "[Errno 22] Invalid argument"
  | .hugePosition => "cannot fit 'int' into an offset-sized integer"

/-- A failure that is not about the form of the input. -/
inductive SystemFault where
  | tooManyDigits (cause : Text.TooManyDigits)
  | key (cause : KeyFault)
  | disk (cause : DiskFault)
  | archive (cause : ArchiveLimit)
  | content (cause : ContentFault)
  | text (cause : Utf8.Fault)
  deriving Repr, DecidableEq

/-- What is reported of a system fault. -/
def SystemFault.message : SystemFault → String
  | .tooManyDigits cause => cause.message
  | .key cause => cause.message
  | .disk cause => cause.message
  | .archive cause => cause.message
  | .content cause => cause.message
  | .text cause => cause.message

/-- Where in a screen's logic a problem is. The line is known while records are read. -/
structure LogicPlace where
  screen : String
  handler : String
  blockId : String
  line : Option Nat
  deriving Repr, DecidableEq

/-- All ways in which work on a project can fail. -/
inductive Failure where
  | argument (problem : ArgumentProblem)
  | container (name : String) (problem : ContainerProblem)
  | decryption (name : String) (problem : DecryptionProblem)
  | sectionText (name : String) (line : Int) (problem : SectionProblem)
  | logicTree (place : LogicPlace) (problem : LogicProblem)
  | viewTree (screen viewId : String) (problem : ViewProblem)
  | component (tag screen : String) (problem : ComponentProblem)
  | block (tag screen handler : String) (problem : BlockProblem)
  | service (cause : SystemFault)
  | missingKey (key : String)
  | system (fault : SystemFault)
  deriving Repr, DecidableEq

/-- The failure that a refused file operation is. -/
def DiskFault.failure (fault : DiskFault) : Failure := .system (.disk fault)

namespace Failure

/-- The report of a failure, `none` for a failure that is not about the form of the input. -/
def report? : Failure → Option Report
  | .argument problem =>
    some ⟨.argument problem.field, problem.message, problem.context, problem.cause⟩
  | .container name problem => some ⟨.container name, problem.message, [], problem.cause⟩
  | .decryption name problem => some ⟨.decryption name, problem.message, [], problem.cause⟩
  | .sectionText name line problem => some ⟨.sectionText name line, problem.message, [], none⟩
  | .logicTree place problem =>
    let context := match place.line with
      | some line => [("line", Value.int line)]
      | none => []
    some ⟨.logicTree place.screen place.handler place.blockId, problem.message, context, none⟩
  | .viewTree screen viewId problem =>
    some ⟨.viewTree screen viewId, problem.message, problem.context, none⟩
  | .component tag screen problem =>
    some ⟨.component tag screen, problem.message, problem.context, none⟩
  | .block tag screen handler problem =>
    some ⟨.block tag screen handler, problem.message, problem.context, none⟩
  | .service cause =>
    some ⟨.service "decompile" "decompile", s!"Decompile failed: {cause.message}", [],
      some cause.message⟩
  | .missingKey _ | .system _ => none

/-- The text that is shown of a failure. -/
def text (failure : Failure) : String :=
  match failure, failure.report? with
  | _, some report => report.text
  | .missingKey key, none => s!"Key not found: {key}"
  | .system fault, none => fault.message
  | _, none => ""

end Failure

end BlockApp
