import BlockApp.Backup.Encrypted
import BlockApp.Disk.Path
import BlockApp.Log.Level
import BlockApp.View.Section

/-!
# Settings

What a run can be told from outside: how much it logs, the cipher of the backups, and where it writes.

* `Settings.ofVariables` reads the cipher first, so settings of it that are wrong hide a wrong level.
-/

namespace BlockApp

/-- A setting that can be wrong. -/
inductive SettingName where
  | cipherKey
  | cipherStart
  | logLevel
  deriving Repr, DecidableEq

/-- The name of a setting in reports. -/
def SettingName.name : SettingName → String
  | .cipherKey => "cipher_key"
  | .cipherStart => "cipher_iv"
  | .logLevel => "log_level"

/-- A text that is one block long in UTF-8. -/
structure BlockText where
  text : String
  length_eq : (Utf8.encode text.toList).length = Cipher.blockSize
  deriving Repr, DecidableEq

namespace BlockText

/-- The bytes of the text. -/
def bytes (t : BlockText) : Bytes := Utf8.encode t.text.toList

/-- A text as one of a block's length. -/
def ofString? (text : String) : Option BlockText :=
  if h : (Utf8.encode text.toList).length = Cipher.blockSize then some ⟨text, h⟩ else none

/-- The text that backups are encrypted with unless a setting says otherwise. -/
def shared : BlockText := ⟨"sketchwaresecure", by decide +kernel⟩

end BlockText

/-- The settings of a run. -/
structure Settings where
  projectName : String
  logLevel : LogLevel
  cipherKey : BlockText
  cipherStart : BlockText
  skippedExtensions : List String
  basePath : Path
  layoutFolder : String
  sourceFolder : String
  indent : String
  deriving Repr, DecidableEq

namespace Settings

/-- The ending of files with code. Code is made in one language only. -/
def sourceExtension (_settings : Settings) : String := "java"

/-- The names of the levels that a setting can ask for. -/
def levelNames : List (String × LogLevel) :=
  [("DEBUG", .debug), ("INFO", .info), ("WARNING", .warning), ("ERROR", .error)]

/-- The key and the initial block of the settings. -/
def cipher (settings : Settings) : CipherKey where
  key := settings.cipherKey.bytes
  start := settings.cipherStart.bytes
  key_length := by
    rw [BlockText.bytes, settings.cipherKey.length_eq]
    decide
  start_length := settings.cipherStart.length_eq

/-- The settings that variables give, or which of them are wrong. -/
def ofVariables (valueOf : String → Option String) : Except (List SettingName) Settings :=
  let value (name missing : String) := (valueOf name).getD missing
  let key? := BlockText.ofString? (value "SKB_CIPHER_KEY" BlockText.shared.text)
  let start? := BlockText.ofString? (value "SKB_CIPHER_IV" BlockText.shared.text)
  match key?, start? with
  | some cipherKey, some cipherStart =>
    match levelNames.lookup (value "SKB_LOG_LEVEL" "INFO") with
    | none => .error [.logLevel]
    | some logLevel =>
      .ok
        { projectName := "sketchback"
          logLevel, cipherKey, cipherStart
          skippedExtensions := ViewSection.defaultSkipped
          basePath := Path.ofString (value "SKB_OUTPUT_PATH" "./output")
          layoutFolder := value "SKB_LAYOUT_DIR" "res/layout"
          sourceFolder := value "SKB_SOURCE_DIR" "java"
          indent := "    " }
  | _, _ =>
    .error <| (if key?.isNone then [.cipherKey] else []) ++
      (if start?.isNone then [.cipherStart] else [])

end Settings

end BlockApp
