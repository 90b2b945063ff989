/-!
# Arguments of a command

Options start with a dash and may stand between operands. A long option takes its value after `=` or from
the next argument; short options can be written together, and what follows one that takes a value is its
value. After `--` there are operands only.

* `Arguments.readOne` reads one argument by itself and says whether the next one is a value, so that
  `Arguments.read` is a recursion over the arguments.
-/

namespace BlockApp

/-- An option that a command takes. -/
structure OptionForm where
  name : String
  letter : Option Char
  takesValue : Bool
  deriving Repr, DecidableEq

/-- Options by their names, each with its value, which is empty for one that takes none, and operands. -/
structure Arguments where
  options : List (String × String)
  operands : List String
  deriving Repr, DecidableEq

namespace Arguments

/-- What one argument is. -/
inductive Reading where
  | operand
  | endOfOptions
  | options (given : List (String × String))
  /-- The next argument is the value of the option `name`. -/
  | needsValue (given : List (String × String)) (name : String)
  deriving Repr, DecidableEq

/-- A reading with an option before it. -/
def Reading.after (option : String × String) : Reading → Reading
  | .options given => .options (option :: given)
  | .needsValue given name => .needsValue (option :: given) name
  | reading => reading

/-- Reads short options that are written together. -/
def readShort (forms : List OptionForm) : List Char → Option Reading
  | [] => some (.options [])
  | letter :: rest =>
    match forms.find? (·.letter == some letter) with
    | none => none
    | some form =>
      if form.takesValue then
        if rest = [] then some (.needsValue [] form.name)
        else some (.options [(form.name, String.ofList rest)])
      else (readShort forms rest).map (.after (form.name, ""))

/-- Reads a long option with the value that is written after it. -/
def readLong (form : OptionForm) (value : Option String) : Option Reading :=
  match form.takesValue, value with
  | true, some value => some (.options [(form.name, value)])
  | true, none => some (.needsValue [] form.name)
  | false, none => some (.options [(form.name, "")])
  | false, some _ => none

/-- A text before its first `=` and after it. -/
def splitValue (text : List Char) : List Char × Option String :=
  let name := text.takeWhile (· != '=')
  match text.dropWhile (· != '=') with
  | [] => (name, none)
  | _ :: value => (name, some (String.ofList value))

/-- Reads one argument. -/
def readOne (forms : List OptionForm) (argument : String) : Option Reading :=
  match argument.toList with
  | ['-', '-'] => some .endOfOptions
  | '-' :: '-' :: text =>
    let (name, value) := splitValue text
    match forms.find? (·.name == String.ofList name) with
    | some form => readLong form value
    | none => none
  | '-' :: letter :: rest => readShort forms (letter :: rest)
  | _ => some .operand

/-- Reads arguments. If options may not stand between operands, all after the first operand are
operands. -/
def read (forms : List OptionForm) (mixed : Bool) : List String → Option Arguments
  | [] => some ⟨[], []⟩
  | argument :: rest =>
    match readOne forms argument with
    | none => none
    | some .endOfOptions => some ⟨[], rest⟩
    | some .operand =>
      if mixed then (read forms mixed rest).map fun a => { a with operands := argument :: a.operands }
      else some ⟨[], argument :: rest⟩
    | some (.options given) =>
      (read forms mixed rest).map fun a => { a with options := given ++ a.options }
    | some (.needsValue given name) =>
      match rest with
      | [] => none
      | value :: rest =>
        (read forms mixed rest).map fun a => { a with options := given ++ (name, value) :: a.options }

/-- Whether an option is given. -/
def has (arguments : Arguments) (name : String) : Bool := arguments.options.any (·.1 == name)

/-- The values of an option in the order in which they are given. -/
def values (arguments : Arguments) (name : String) : List String :=
  (arguments.options.filter (·.1 == name)).map (·.2)

/-- The value of an option: the last one that is given. -/
def value? (arguments : Arguments) (name : String) : Option String := (arguments.values name).getLast?

end Arguments

end BlockApp
