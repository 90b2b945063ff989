import BlockApp.Command.Arguments
import BlockApp.Console.Markup
import BlockApp.Decompile.Basic

/-!
# The command line

Four commands: one takes a backup apart into a section folder, one decrypts a section file, one generates
layouts and classes, and one shows the settings.

* `Command.ofArguments` reads the arguments of a command and looks up the paths that must be there.
* `Command.run` does the work. It changes the disk even when it fails: what was written stays.
* `CommandResult.tell` adds what a command tells. That is marked text with paths and settings in it as they
  are, and a line that is marked wrongly makes the command fail.
* `CommandLine.run` puts both together. The settings are read between the name of the command and its
  arguments, so wrong settings hide wrong arguments.
-/

namespace BlockApp

/-- How a command ends. -/
inductive ExitStatus where
  | success
  | failure
  | usage
  deriving Repr, DecidableEq

/-- The number of an exit status. -/
def ExitStatus.code : ExitStatus → Nat
  | .success => 0
  | .failure => 1
  | .usage => 2

/-- What a command leaves: the disk, how it ended, and what it tells. -/
structure CommandResult where
  disk : Disk
  status : ExitStatus
  lines : List String
  deriving Repr, DecidableEq

namespace CommandResult

/-- The result of a command that has told nothing. -/
def silent (disk : Disk) : CommandResult := ⟨disk, .success, []⟩

/-- A result that tells a failure. -/
def failed (disk : Disk) (failure : Failure) : CommandResult := ⟨disk, .failure, [failure.text]⟩

/-- Adds a marked line. After a failure nothing is told. -/
def tellLine (result : CommandResult) (line : String) : CommandResult :=
  if result.status = .success then
    match Console.Marked.plainText? line with
    | some text => { result with lines := result.lines ++ [text] }
    | none => { result with status := .failure }
  else result

/-- Adds marked lines, up to the first that cannot be shown. -/
def tell (result : CommandResult) (lines : List String) : CommandResult :=
  lines.foldl tellLine result

end CommandResult

/-! ## Commands -/

/-- The name of a command. -/
inductive CommandName where
  | extract
  | decrypt
  | generate
  | config
  deriving Repr, DecidableEq

namespace CommandName

/-- The names of the commands as they are written. -/
def written : List (String × CommandName) :=
  [("extract", .extract), ("decrypt", .decrypt), ("generate", .generate), ("config", .config)]

/-- The option that shows what a command does. -/
def helpForm : OptionForm := ⟨"help", none, false⟩

/-- The option that says where a command writes. -/
def outputForm : OptionForm := ⟨"output", some 'o', true⟩

/-- The options of a command. -/
def forms : CommandName → List OptionForm
  | .extract => [outputForm, ⟨"no-decrypt", none, false⟩, helpForm]
  | .decrypt => [outputForm, ⟨"force", some 'f', false⟩, helpForm]
  | .generate =>
    [outputForm, ⟨"activity", some 'a', true⟩, ⟨"layout", some 'l', true⟩,
     ⟨"layout-only", none, false⟩, ⟨"java-only", none, false⟩, helpForm]
  | .config => [helpForm]

/-- What a command does. -/
def summary : CommandName → String
  | .extract => "extract BACKUP -o FOLDER: write one file for every section of a backup"
  | .decrypt => "decrypt FILE -o FILE: decrypt a section file"
  | .generate => "generate SOURCE: generate layouts and activity classes"
  | .config => "config: show the settings"

end CommandName

/-- A command with its arguments. -/
inductive Command where
  | extract (backup output : Path) (decrypts : Bool)
  | decrypt (file output : Path) (force : Bool)
  | generate (source : Path) (output : Option Path) (selection : Selection)
  | config
  deriving Repr, DecidableEq

namespace Command

/-- The path of an argument, which has no NUL. -/
def argumentPath (text : String) : Except ExitStatus Path :=
  let path := Path.ofString text
  if path.hasNul then .error .usage else .ok path

/-- The path of an operand without detours. A file must be there, or for `folders` a file or a
folder. -/
def operandPath (disk : Disk) (folders : Bool) (text : String) : Except ExitStatus Path := do
  let resolved := Path.ofLocation ((← argumentPath text).resolve disk.here)
  match disk.look resolved with
  | .ok (some (.file _)) => return resolved
  | .ok (some .folder) => if folders then return resolved else .error .usage
  | .ok none | .error _ => .error .usage

/-- The only operand of a command. -/
def onlyOperand (arguments : Arguments) : Except ExitStatus String :=
  match arguments.operands with
  | [operand] => .ok operand
  | _ => .error .usage

/-- The path that a command is told to write to. -/
def output (arguments : Arguments) : Except ExitStatus (Option Path) :=
  match arguments.value? "output" with
  | some text => (argumentPath text).map some
  | none => .ok none

/-- The path that a command must be told to write to. -/
def requiredOutput (arguments : Arguments) : Except ExitStatus Path := do
  match ← output arguments with
  | some path => return path
  | none => .error .usage

/-- The command of a name and arguments. -/
def ofArguments (disk : Disk) (arguments : Arguments) : CommandName → Except ExitStatus Command
  | .extract => do
    let operand ← onlyOperand arguments
    let output ← requiredOutput arguments
    return .extract (← operandPath disk false operand) output (!arguments.has "no-decrypt")
  | .decrypt => do
    let operand ← onlyOperand arguments
    let output ← requiredOutput arguments
    return .decrypt (← operandPath disk false operand) output (arguments.has "force")
  | .generate => do
    let operand ← onlyOperand arguments
    let selection : Selection :=
      ⟨arguments.values "activity", arguments.values "layout", arguments.has "layout-only",
        arguments.has "java-only"⟩
    return .generate (← operandPath disk true operand) (← output arguments) selection
  | .config => if arguments.operands = [] then .ok .config else .error .usage

/-! ## Running -/

/-- Takes a backup apart. -/
def runExtract (settings : Settings) (disk : Disk) (backup output : Path) (decrypts : Bool) :
    CommandResult :=
  let contents : Except Failure (Sections Bytes) := do
    let stored ← Backup.unpack (← (disk.readFile backup).mapError DiskFault.failure)
    if decrypts then
      return (← Backup.decryptAll settings.cipher stored).map fun text => Utf8.encode text.toList
    else return stored
  match contents with
  | .error failure => .failed disk failure
  | .ok contents =>
    match Backup.writeFolder disk output contents with
    | (disk, .error fault) => .failed disk fault.failure
    | (disk, .ok ()) =>
      (CommandResult.silent disk).tell
        (SectionName.all.map (·.name) ++ [s!"[bold green]✓ Extracted to[/bold green] {output.shown}"])

/-- What was done to get a text from bytes. -/
def decryptedLabel (content : Bytes) : String :=
  if Backup.looksEncrypted content then "decrypted" else "already plaintext, copied"

/-- Decrypts a section file. A file that is there already is kept unless `force` is given. -/
def runDecrypt (settings : Settings) (disk : Disk) (file output : Path) (force : Bool) :
    CommandResult :=
  match disk.look output with
  | .error fault => .failed disk fault.failure
  | .ok there =>
    if there.isSome ∧ ¬ force then ⟨disk, .failure, [s!"{output.shown} exists"]⟩
    else
      let name := file.names.getLastD ""
      let decrypted : Except Failure (Bytes × String) := do
        let content ← (disk.readFile file).mapError DiskFault.failure
        return (content, ← Backup.sectionText settings.cipher name content)
      match decrypted with
      | .error failure => .failed disk failure
      | .ok (content, text) =>
        match disk.makeFolders output.parent with
        | (disk, .error fault) => .failed disk fault.failure
        | (disk, .ok ()) =>
          match disk.writeFile output (Utf8.encode text.toList) with
          | .error fault => .failed disk fault.failure
          | .ok disk =>
            (CommandResult.silent disk).tell
              [s!"[bold green]✓[/bold green] {name}: {decryptedLabel content} → {output.shown}"]

/-- Generates layouts and classes in a folder that is not there yet. If what is to be done cannot be told,
nothing is done. -/
def runGenerate (settings : Settings) (disk : Disk) (source output : Path) (selection : Selection) :
    CommandResult :=
  match disk.look output with
  | .error fault => .failed disk fault.failure
  | .ok (some _) => ⟨disk, .failure, [s!"{output.shown} exists"]⟩
  | .ok none =>
    let opening := (CommandResult.silent disk).tell
      [s!"[bold]Input:[/bold] {source.shown}", s!"[bold]Output:[/bold] {output.shown}"]
    if opening.status ≠ .success then opening
    else
      match Store.ofPath disk output with
      | .error fault => .failed disk fault.failure
      | .ok store =>
        match Decompile.run settings store disk source selection with
        | (disk, .error failure) => .failed disk failure
        | (disk, .ok outcome) => CommandResult.tell { opening with disk := disk } outcome.keys

/-- The settings as they are shown. -/
def settingLines (settings : Settings) : List String :=
  [s!"Log Level: {settings.logLevel.name}",
   s!"Cipher Key: {settings.cipherKey.text}",
   s!"Cipher IV: {settings.cipherStart.text}",
   "Skipped View Extensions: " ++ ", ".intercalate settings.skippedExtensions,
   s!"Output Path: {settings.basePath.shown}",
   s!"Layout Dir: {settings.layoutFolder}",
   s!"Source Dir: {settings.sourceFolder}"]

/-- Runs a command. -/
def run (settings : Settings) (disk : Disk) : Command → CommandResult
  | .extract backup output decrypts => runExtract settings disk backup output decrypts
  | .decrypt file output force => runDecrypt settings disk file output force
  | .generate source output selection =>
    runGenerate settings disk source (output.getD settings.basePath) selection
  | .config => (CommandResult.silent disk).tell (settingLines settings)

end Command

/-! ## Command lines -/

namespace CommandLine

/-- The options that stand before the name of a command. -/
def forms : List OptionForm :=
  [⟨"version", some 'v', false⟩, ⟨"verbose", none, false⟩, CommandName.helpForm]

/-- The version of the program. -/
def versionLine : String := "sketchback v1.0.0"

/-- What the commands do. -/
def helpLines : List String := CommandName.written.map (·.2.summary)

/-- Runs a command with the arguments after its name. -/
def runCommand (valueOf : String → Option String) (disk : Disk) (name : CommandName)
    (rest : List String) : CommandResult :=
  match Settings.ofVariables valueOf with
  | .error names => ⟨disk, .failure, names.map fun name => s!"invalid setting: {name.name}"⟩
  | .ok settings =>
    match Arguments.read name.forms true rest with
    | none => ⟨disk, .usage, [name.summary]⟩
    | some arguments =>
      if arguments.has "help" then ⟨disk, .success, [name.summary]⟩
      else
        match Command.ofArguments disk arguments name with
        | .error status => ⟨disk, status, [name.summary]⟩
        | .ok command => command.run settings disk

/-- Runs a command line. -/
def run (valueOf : String → Option String) (disk : Disk) (line : List String) : CommandResult :=
  match Arguments.read forms false line with
  | none => ⟨disk, .usage, helpLines⟩
  | some arguments =>
    if arguments.has "version" then ⟨disk, .success, [versionLine]⟩
    else if arguments.has "help" then ⟨disk, .success, helpLines⟩
    else
      match arguments.operands with
      | [] => ⟨disk, .usage, helpLines⟩
      | name :: rest =>
        match CommandName.written.lookup name with
        | none => ⟨disk, .usage, helpLines⟩
        | some name => runCommand valueOf disk name rest

/-- The paths that a command line is about, besides that of the settings. -/
def paths (line : List String) : List String :=
  let found : Option (List String) := do
    let arguments ← Arguments.read forms false line
    let name ← CommandName.written.lookup (← arguments.operands.head?)
    let arguments ← Arguments.read name.forms true arguments.operands.tail
    return arguments.operands ++ arguments.values "output"
  found.getD []

end CommandLine

end BlockApp
