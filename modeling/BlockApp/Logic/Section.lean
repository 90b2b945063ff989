import BlockApp.Logic.Declaration
import BlockApp.Section.Cells
import BlockApp.Section.Name

/-!
# The logic section

A group of the logic section belongs to a screen and has a key: `var`, `list`, `components` and `func`
declare something, any other key is a handler with its blocks. The section is kept as its groups in
order; what a screen declares and which handlers it has are views of that list.

* `LogicSection.ofText` reads the groups one after the other, each once: the keys of a screen are
  distinct.
-/

namespace BlockApp

/-- A block as a line of a handler: how deep it is nested, its tag and its parameters. -/
structure BlockRecord where
  line : Nat
  blockId : String
  depth : Nat
  tag : String
  params : List Expr
  deriving Repr, DecidableEq

/-- What a group of the logic section holds. -/
inductive GroupContent where
  | vars (declared : List VariableDeclaration)
  | components (declared : List ComponentDeclaration)
  | moreBlocks (declared : List MoreBlock)
  | handler (records : List BlockRecord)
  deriving Repr, DecidableEq

namespace GroupContent

/-- The variables and lists that a group declares. -/
def declaredVariables : GroupContent → List VariableDeclaration
  | .vars declared => declared
  | _ => []

/-- The components that a group declares. -/
def declaredComponents : GroupContent → List ComponentDeclaration
  | .components declared => declared
  | _ => []

/-- The more blocks that a group declares. -/
def declaredMoreBlocks : GroupContent → List MoreBlock
  | .moreBlocks declared => declared
  | _ => []

/-- The blocks of a handler, `none` for a group of declarations. -/
def handlerRecords? : GroupContent → Option (List BlockRecord)
  | .handler records => some records
  | _ => none

end GroupContent

/-- A group of the logic section. -/
structure LogicGroup where
  screen : String
  key : String
  content : GroupContent
  deriving Repr, DecidableEq

/-- The logic section: its groups in order. -/
structure LogicSection where
  groups : List LogicGroup
  deriving Repr, DecidableEq

namespace LogicSection

/-- The screens with a group, in the order of their first groups. -/
def screens (logic : LogicSection) : List String := (logic.groups.map (·.screen)).eraseDups

/-- The groups of a screen. -/
def ofScreen (logic : LogicSection) (screen : String) : List LogicGroup :=
  logic.groups.filter (·.screen == screen)

/-- What a screen declares. -/
def declarations (logic : LogicSection) (screen : String) : Declarations :=
  let contents := (logic.ofScreen screen).map (·.content)
  ⟨contents.flatMap (·.declaredVariables), contents.flatMap (·.declaredComponents),
    contents.flatMap (·.declaredMoreBlocks)⟩

/-- The handlers of a screen with their blocks. -/
def handlers (logic : LogicSection) (screen : String) : List (String × List BlockRecord) :=
  (logic.ofScreen screen).filterMap fun group =>
    group.content.handlerRecords?.map fun records => (group.key, records)

/-- All blocks of the section, each with its screen and handler. -/
def records (logic : LogicSection) : List (String × String × BlockRecord) :=
  logic.groups.flatMap fun group =>
    (group.content.handlerRecords?.getD []).map fun record => (group.screen, group.key, record)

/-! ## Reading -/

/-- The name of the section in messages. -/
def sectionName : String := SectionName.logic.name

/-- The screen and the key of a header `screen.java_key`. -/
def readHeader? (header : String) : Option (String × String) :=
  let s := header.toList
  let screen := s.takeWhile Text.isNamePart
  let rest := s.dropWhile Text.isNamePart
  let mark := ".java_".toList
  if Text.isBareIdentifier screen ∧ mark.isPrefixOf rest ∧ rest.drop mark.length ≠ [] then
    some (String.ofList screen, String.ofList (rest.drop mark.length))
  else none

/-- Reads a variable, or with `list` a list. -/
def readVariable (list : Bool) (record : Record) : Except Failure VariableDeclaration :=
  let key := if list then "list" else "var"
  match record.fields with
  | [typeField, nameField] => do
    let type ← Section.choiceField ValueType.ofName? sectionName s!"{key} type" record.line typeField
    let shape ←
      if list then
        match ElementType.ofValue? type with
        | some element => pure (VariableShape.list element)
        | none => Section.failAt sectionName record.line (.invalid "list type" typeField)
      else pure (VariableShape.single type)
    let name ← Section.identifierField sectionName s!"{key} name" record.line nameField
    return ⟨shape, name⟩
  | _ => Section.wrongCount sectionName key record 2

/-- Reads a component. -/
def readComponent (record : Record) : Except Failure ComponentDeclaration :=
  match record.fields with
  | [typeField, nameField, extra] => do
    let type ← Section.identifierField sectionName "component type" record.line typeField
    let name ← Section.identifierField sectionName "component name" record.line nameField
    return ⟨type, name, Text.unescape extra⟩
  | _ => Section.wrongCount sectionName "components" record 3

/-- The parameter of a more block that a word `%letter.name` writes. -/
def readMoreBlockParameter? (word : List Char) : Option MoreBlockParameter :=
  match word with
  | '%' :: letter :: '.' :: name =>
    if Text.isIdentifier name then
      (ParameterType.ofLetter? letter).map (⟨·, String.ofList name⟩)
    else none
  | _ => none

/-- Reads a more block. -/
def readMoreBlock (record : Record) : Except Failure MoreBlock :=
  match record.fields with
  | [nameField, parameters] => do
    let name ← Section.identifierField sectionName "more block name" record.line nameField
    let parameters ← (Text.words (Text.unescape parameters).toList).mapM fun word =>
      match readMoreBlockParameter? word with
      | some parameter => pure parameter
      | none =>
        Section.failAt sectionName record.line
          (.invalid "more block parameter" (String.ofList word))
    return ⟨name, parameters⟩
  | _ => Section.wrongCount sectionName "func" record 2

/-- Reads a block. -/
def readBlock (record : Record) : Except Failure BlockRecord :=
  match record.fields with
  | [idField, depthField, tagField, cell] =>
    match Text.Numeral.readUnsigned? depthField.toList with
    | none => Section.failAt sectionName record.line (.invalid "depth" depthField)
    | some numeral =>
      let tag := Text.trim (Text.unescapeChars tagField.toList)
      if tag = [] then Section.failAt sectionName record.line .emptyTag
      else do
        let depth ← numeral.value.mapError fun cause => .system (.tooManyDigits cause)
        let params ← Section.parameters sectionName record.line cell
        return ⟨record.line, Text.unescape idField, depth.toNat, String.ofList tag, params⟩
  | _ => Section.wrongCount sectionName "block" record 4

/-- Reads the records under a key. -/
def readContent (key : String) (records : List Record) : Except Failure GroupContent :=
  if key = "var" then .vars <$> records.mapM (readVariable false)
  else if key = "list" then .vars <$> records.mapM (readVariable true)
  else if key = "components" then .components <$> records.mapM readComponent
  else if key = "func" then .moreBlocks <$> records.mapM readMoreBlock
  else .handler <$> records.mapM readBlock

/-- Reads groups, given the screens and keys of those before. -/
def readGroups (seen : List (String × String)) : List Group → Except Failure (List LogicGroup)
  | [] => .ok []
  | group :: groups =>
    match readHeader? group.header with
    | none => Section.failAt sectionName group.line (.invalid "logic header" group.header)
    | some (screen, key) =>
      if (screen, key) ∈ seen then
        Section.failAt sectionName group.line (.duplicate "logic header" group.header)
      else do
        let content ← readContent key group.records
        let others ← readGroups ((screen, key) :: seen) groups
        return ⟨screen, key, content⟩ :: others

/-- Reads the logic section. -/
def ofText (text : String) : Except Failure LogicSection := do
  let groups ← Section.splitGroups sectionName text
  return ⟨← readGroups [] groups⟩

end LogicSection

end BlockApp
