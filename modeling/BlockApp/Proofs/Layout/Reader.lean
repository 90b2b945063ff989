import BlockApp.Layout.Element
import BlockApp.Text.Name

/-!
# Reading markup

A reader of markup that knows only the markup: elements, attributes in double quotes, references for single
characters, and white space. It refuses what is not well formed, also an attribute that is there twice, and
it knows nothing of how documents are written.

Reading has three steps, each a recursion over what the one before gives.

* `scan` — characters to tags, a character at a time
* `assemble` — tags to the one element that they make up
* `Node.resolve` — marks of namespaces to the addresses that they are declared for
-/

namespace BlockApp.Layout

/-! ## Tags -/

/-- The name and the attributes in a tag. -/
structure Head where
  name : List Char
  attributes : List (List Char × List Char)
  deriving Repr, DecidableEq

/-- A tag. -/
inductive Tag where
  | opening (head : Head)
  | empty (head : Head)
  | closing (name : List Char)
  deriving Repr, DecidableEq

/-- White space. -/
def isSpace (c : Char) : Bool := c == ' ' || c == '\t' || c == '\n' || c == '\r'

/-- A character that may continue the name of an element or an attribute. -/
def isMarkupPart (c : Char) : Bool := Text.isNamePart c || c == ':' || c == '-' || c == '.'

/-- Whether a text is the name of an element or an attribute. -/
def isMarkupName : List Char → Bool
  | [] => false
  | c :: rest => Text.isNameStart c && rest.all isMarkupPart

/-- The names of references, and the characters that they stand for. -/
def references : List (List Char × Char) :=
  [("amp".toList, '&'), ("lt".toList, '<'), ("gt".toList, '>'), ("quot".toList, '"'),
   ("#13".toList, '\r'), ("#10".toList, '\n'), ("#09".toList, '\t')]

/-- Where a reader is: between tags, or in a tag with what it has read of it. -/
inductive Place where
  | content
  | opened
  | tagName (name : List Char)
  | inTag (head : Head)
  | attributeName (head : Head) (name : List Char)
  | equals (head : Head) (name : List Char)
  | value (head : Head) (name value : List Char)
  | reference (head : Head) (name value letters : List Char)
  | afterValue (head : Head)
  | slash (head : Head)
  | closingName (name : List Char)
  deriving Repr, DecidableEq

namespace Place

/-- Takes a character, and tells the tag that ends with it. `none` if it may not stand there. -/
def step : Place → Char → Option (List Tag × Place)
  | content, c =>
    if c = '<' then some ([], opened) else if isSpace c then some ([], content) else none
  | opened, c =>
    if c = '/' then some ([], closingName [])
    else if Text.isNameStart c then some ([], tagName [c]) else none
  | tagName name, c =>
    if isMarkupPart c then some ([], tagName (name ++ [c]))
    else afterName ⟨name, []⟩ c
  | inTag head, c =>
    if Text.isNameStart c then some ([], attributeName head [c]) else afterName head c
  | attributeName head name, c =>
    if c = '=' then some ([], equals head name)
    else if isMarkupPart c then some ([], attributeName head (name ++ [c])) else none
  | equals head name, c =>
    if c = '"' ∧ name ∉ head.attributes.map (·.1) then some ([], value head name []) else none
  | value head name text, c =>
    if c = '"' then some ([], afterValue ⟨head.name, head.attributes ++ [(name, text)]⟩)
    else if c = '&' then some ([], reference head name text [])
    else if c = '<' ∨ c = '\t' ∨ c = '\n' ∨ c = '\r' then none
    else some ([], value head name (text ++ [c]))
  | reference head name text letters, c =>
    if c = ';' then
      (references.lookup letters).map fun meant => ([], value head name (text ++ [meant]))
    else some ([], reference head name text (letters ++ [c]))
  | afterValue head, c => afterName head c
  | slash head, c => if c = '>' then some ([.empty head], content) else none
  | closingName name, c =>
    if c = '>' then some ([.closing name], content)
    else if isMarkupPart c then some ([], closingName (name ++ [c])) else none
where
  /-- Takes a character behind a name or a value: white space, or what ends the tag. -/
  afterName (head : Head) (c : Char) : Option (List Tag × Place) :=
    if isSpace c then some ([], inTag head)
    else if c = '/' then some ([], slash head)
    else if c = '>' then some ([.opening head], content)
    else none

end Place

/-- The tags in a text, from a place on. The text has to end between tags. -/
def scan : Place → List Char → Option (List Tag)
  | .content, [] => some []
  | _, [] => none
  | place, c :: rest => do
    let (tags, next) ← place.step c
    return tags ++ (← scan next rest)

/-! ## Elements -/

/-- An element as it is read: names and values as they stand, without a look at namespaces. -/
inductive Node where
  | mk (name : List Char) (attributes : List (List Char × List Char)) (children : List Node)
  deriving Repr

/-- The one element that tags make up. `opened` are the elements that are open, the innermost first, each
with those before in it, and `made` are the elements before in the innermost one. -/
def assemble : (opened : List (Head × List Node)) → (made : List Node) → List Tag → Option Node
  | [], [node], [] => some node
  | _, _, [] => none
  | opened, made, .opening head :: tags => assemble ((head, made) :: opened) [] tags
  | opened, made, .empty head :: tags =>
    assemble opened (made ++ [.mk head.name head.attributes []]) tags
  | (head, before) :: opened, made, .closing name :: tags =>
    if name = head.name then
      assemble opened (before ++ [.mk head.name head.attributes made]) tags
    else none
  | [], _, .closing _ :: _ => none

/-- The element that a text is. -/
def readMarkup (text : List Char) : Option Node := (scan .content text).bind (assemble [] [])

/-! ## Namespaces -/

/-- What stands before the mark that is declared in the name of an attribute. -/
def declarer : List Char := "xmlns:".toList

/-- The mark and the address that an attribute declares. -/
def declaration? (attr : List Char × List Char) : Option (List Char × List Char) :=
  if declarer.isPrefixOf attr.1 then some (attr.1.drop declarer.length, attr.2) else none

/-- The mark before the name of an attribute. -/
def markOf (attr : List Char × List Char) : List Char := attr.1.takeWhile (· != ':')

/-- An attribute with the namespace that its mark is declared for. -/
def resolveAttribute (scope : List (List Char × List Char)) (attr : List Char × List Char) :
    Option (AttributeName × String) := do
  let address ← scope.lookup (markOf attr)
  let space ← Namespace.all.find? (·.address.toList == address)
  return (⟨space, String.ofList (attr.1.drop ((markOf attr).length + 1))⟩, String.ofList attr.2)

namespace Node

/-- The declarations on an element. -/
def declared : Node → List (List Char × List Char)
  | mk _ attributes _ => attributes.filterMap declaration?

mutual

/-- The attributes of an element and of those in it. -/
def attributesIn : Node → List (List Char × List Char)
  | mk _ attributes children => attributes ++ attributesInAll children

/-- The attributes of elements and of those in them. -/
def attributesInAll : List Node → List (List Char × List Char)
  | [] => []
  | node :: nodes => node.attributesIn ++ attributesInAll nodes

end

/-- Whether an element declares the marks of the attributes in it, and no others. Nothing is declared further
inside. -/
structure DeclaresUsed (node : Node) : Prop where
  outside : node.attributesIn.filterMap declaration? = node.declared
  used : ∀ mark, mark ∈ node.declared.map (·.1) ↔
    ∃ attr ∈ node.attributesIn, declaration? attr = none ∧ markOf attr = mark

mutual

/-- An element with its marks resolved. `scope` are the declarations around it. The names of elements
carry no marks. -/
def resolve (scope : List (List Char × List Char)) : Node → Option Element
  | mk name attributes children => do
    let inner := attributes.filterMap declaration? ++ scope
    let own ← (attributes.filter fun attr => (declaration? attr).isNone).mapM (resolveAttribute inner)
    let elements ← resolveAll inner children
    if ':' ∈ name then none else some (.mk (String.ofList name) own elements)

/-- Elements with their marks resolved. -/
def resolveAll (scope : List (List Char × List Char)) : List Node → Option (List Element)
  | [] => some []
  | node :: nodes => do
    let element ← node.resolve scope
    return element :: (← resolveAll scope nodes)

end

end Node

example : readMarkup "<a b=\"&lt;\">\n <c />\n</a>\n".toList =
    some (.mk ['a'] [(['b'], ['<'])] [.mk ['c'] [] []]) := by rfl

end BlockApp.Layout
