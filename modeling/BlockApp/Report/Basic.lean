import BlockApp.Text.Quoted

/-!
# Reports

A report is what a user reads about a failure: a message, the values it is about, and what caused it,
introduced by the place where the failure was met.

The values that a report or a log line shows beside its message are nothing, truth values, whole numbers,
texts, lists, and records of named values.
-/

namespace BlockApp

/-! ## Values -/

/-- A value shown in a report. -/
inductive Value where
  | nothing
  | bool (b : Bool)
  | int (n : Int)
  | text (s : String)
  | list (items : List Value)
  | fields (entries : List (String × Value))
  deriving Repr

instance : Inhabited Value := ⟨.nothing⟩

namespace Value

mutual

/-- A value as it is shown. -/
def shown : Value → String
  | .nothing => "None"
  | .bool true => "True"
  | .bool false => "False"
  | .int n => toString n
  | .text s => Text.quoted s
  | .list items => "[" ++ ", ".intercalate (shownItems items) ++ "]"
  | .fields entries => "\x7b" ++ ", ".intercalate (shownEntries entries) ++ "\x7d"

/-- The items of a list as they are shown. -/
def shownItems : List Value → List String
  | [] => []
  | item :: items => item.shown :: shownItems items

/-- The entries of a record as they are shown. -/
def shownEntries : List (String × Value) → List String
  | [] => []
  | (name, value) :: entries => (Text.quoted name ++ ": " ++ value.shown) :: shownEntries entries

end

/-- A value as it stands where nothing else could be meant: a text bare, others as they are shown. -/
def plain : Value → String
  | .text s => s
  | value => value.shown

/-- Whether a value says yes: nothing, zero and what is empty say no. -/
def isTrue : Value → Bool
  | .nothing => false
  | .bool b => b
  | .int n => n != 0
  | .text s => s != ""
  | .list items => !items.isEmpty
  | .fields entries => !entries.isEmpty

end Value

/-! ## Reports -/

/-- What a report is about. Each kind has its own introduction. -/
inductive Topic where
  | general
  | argument (field : String)
  | service (service operation : String)
  | container (name : String)
  | decryption (name : String)
  | sectionText (name : String) (line : Int)
  | logicTree (screen handler blockId : String)
  | viewTree (screen viewId : String)
  | component (tag screen : String)
  | block (tag screen handler : String)
  deriving Repr, DecidableEq

/-- The introduction of a report, up to its message. -/
def Topic.intro : Topic → String
  | .general => ""
  | .argument "" => "Validation failed: "
  | .argument field => s!"Validation failed for '{field}': "
  | .service name operation => s!"[{name}.{operation}]: "
  | .container name => s!"Malformed container (section '{name}'): "
  | .decryption "" => "Decryption failed for buffer: "
  | .decryption name => s!"Decryption failed for section '{name}': "
  | .sectionText name line => s!"Malformed section '{name}' at line {line}: "
  | .logicTree screen handler blockId =>
    let place := if handler = "" then screen else s!"{screen}/{handler}"
    let block := if blockId = "" then "" else s!" block {blockId}"
    s!"Malformed logic tree in {place}{block}: "
  | .viewTree screen viewId =>
    let view := if viewId = "" then "" else s!" view '{viewId}'"
    s!"Malformed view tree in {screen}{view}: "
  | .component tag screen => s!"Unsupported component '{tag}' in {screen}: "
  | .block tag screen handler => s!"Unsupported block '{tag}' in {screen}/{handler}: "

/-- A report. -/
structure Report where
  topic : Topic
  message : String
  context : List (String × Value)
  cause : Option String
  deriving Repr

/-- The text of a report. The context is shown unless it is empty, the cause whenever there is one. -/
def Report.text (r : Report) : String :=
  let context := if r.context.isEmpty then "" else s!" | context: {(Value.fields r.context).shown}"
  let cause := match r.cause with
    | none => ""
    | some cause => s!" | caused by: {cause}"
  r.topic.intro ++ r.message ++ context ++ cause

end BlockApp
