import BlockApp.Failure.Trees
import BlockApp.Layout.Element
import BlockApp.Project.File
import BlockApp.Project.Resource
import BlockApp.View.Attribute

/-!
# Attributes of layouts

What each attribute of a view becomes in a layout: its name there, and how its value is written. An
attribute must also be of the kind that its rule asks for.

* `escapeText` writes a text so that it is taken as it is: not as a reference, and with quotes, line
  feeds and TABs escaped.
-/

namespace BlockApp.Layout

/-- How the value of an attribute is written. -/
inductive ValueForm where
  | size
  | dp
  | sp
  | text
  | color
  | verbatim
  | drawable
  | font
  | layout
  deriving Repr, DecidableEq

/-- What an attribute of a view becomes. -/
structure AttributeRule where
  target : AttributeName
  kind : AttributeKind
  form : ValueForm
  deriving Repr, DecidableEq

/-- The attributes of views by name. -/
def attributeRules : List (String × AttributeRule) :=
  [("layout_width", ⟨⟨.android, "layout_width"⟩, .dimension, .size⟩),
   ("layout_height", ⟨⟨.android, "layout_height"⟩, .dimension, .size⟩),
   ("padding", ⟨⟨.android, "padding"⟩, .dimension, .dp⟩),
   ("padding_left", ⟨⟨.android, "paddingLeft"⟩, .dimension, .dp⟩),
   ("padding_top", ⟨⟨.android, "paddingTop"⟩, .dimension, .dp⟩),
   ("padding_right", ⟨⟨.android, "paddingRight"⟩, .dimension, .dp⟩),
   ("padding_bottom", ⟨⟨.android, "paddingBottom"⟩, .dimension, .dp⟩),
   ("layout_margin", ⟨⟨.android, "layout_margin"⟩, .dimension, .dp⟩),
   ("layout_margin_left", ⟨⟨.android, "layout_marginLeft"⟩, .dimension, .dp⟩),
   ("layout_margin_top", ⟨⟨.android, "layout_marginTop"⟩, .dimension, .dp⟩),
   ("layout_margin_right", ⟨⟨.android, "layout_marginRight"⟩, .dimension, .dp⟩),
   ("layout_margin_bottom", ⟨⟨.android, "layout_marginBottom"⟩, .dimension, .dp⟩),
   ("text", ⟨⟨.android, "text"⟩, .text, .text⟩),
   ("hint", ⟨⟨.android, "hint"⟩, .text, .text⟩),
   ("textSize", ⟨⟨.android, "textSize"⟩, .number, .sp⟩),
   ("textStyle", ⟨⟨.android, "textStyle"⟩, .enum, .verbatim⟩),
   ("textColor", ⟨⟨.android, "textColor"⟩, .color, .color⟩),
   ("hintTextColor", ⟨⟨.android, "textColorHint"⟩, .color, .color⟩),
   ("background", ⟨⟨.android, "background"⟩, .color, .color⟩),
   ("backgroundResource", ⟨⟨.android, "background"⟩, .resource, .drawable⟩),
   ("src", ⟨⟨.android, "src"⟩, .resource, .drawable⟩),
   ("font", ⟨⟨.android, "fontFamily"⟩, .resource, .font⟩),
   ("gravity", ⟨⟨.android, "gravity"⟩, .enum, .verbatim⟩),
   ("layout_gravity", ⟨⟨.android, "layout_gravity"⟩, .enum, .verbatim⟩),
   ("orientation", ⟨⟨.android, "orientation"⟩, .enum, .verbatim⟩),
   ("visibility", ⟨⟨.android, "visibility"⟩, .enum, .verbatim⟩),
   ("inputType", ⟨⟨.android, "inputType"⟩, .enum, .verbatim⟩),
   ("scaleType", ⟨⟨.android, "scaleType"⟩, .enum, .verbatim⟩),
   ("layout_weight", ⟨⟨.android, "layout_weight"⟩, .number, .verbatim⟩),
   ("max", ⟨⟨.android, "max"⟩, .number, .verbatim⟩),
   ("progress", ⟨⟨.android, "progress"⟩, .number, .verbatim⟩),
   ("alpha", ⟨⟨.android, "alpha"⟩, .number, .verbatim⟩),
   ("lines", ⟨⟨.android, "lines"⟩, .number, .verbatim⟩),
   ("enabled", ⟨⟨.android, "enabled"⟩, .boolean, .verbatim⟩),
   ("clickable", ⟨⟨.android, "clickable"⟩, .boolean, .verbatim⟩),
   ("checked", ⟨⟨.android, "checked"⟩, .boolean, .verbatim⟩),
   ("singleLine", ⟨⟨.android, "singleLine"⟩, .boolean, .verbatim⟩),
   ("listitem", ⟨⟨.tools, "listitem"⟩, .resource, .layout⟩)]

/-- The rule for an attribute, if it is known and of the right kind. -/
def ruleFor? (attr : ViewAttribute) : Option AttributeRule :=
  (attributeRules.lookup attr.name).filter (·.kind == attr.kind)

/-! ## Values -/

/-- A character of a text as it is written. -/
def escapeChar (c : Char) : List Char :=
  match c with
  | '\\' => ['\\', '\\']
  | '\'' => ['\\', '\'']
  | '"' => ['\\', '"']
  | '\n' => ['\\', 'n']
  | '\t' => ['\\', 't']
  | c => [c]

/-- The characters of a text as they are written. A mark of a reference at the start is escaped. -/
def escapeChars (s : List Char) : List Char :=
  match s.flatMap escapeChar with
  | '@' :: rest => '\\' :: '@' :: rest
  | '?' :: rest => '\\' :: '?' :: rest
  | escaped => escaped

/-- A text as it is written. -/
def escapeText (s : String) : String := String.ofList (escapeChars s.toList)

/-- A size as it is written. Two spellings stand for the sizes that the layout works out. -/
def sizeText (value : String) : String :=
  if value = "-1" then "match_parent" else if value = "-2" then "wrap_content" else value ++ "dp"

/-- What values may refer to. -/
structure Assets where
  resources : ResourceSection
  files : FileSection
  deriving Repr, DecidableEq

/-- A value that refers to something that must be there. -/
def reference (there : Bool) (what folder value : String) : Except ViewProblem String :=
  if there then .ok s!"@{folder}/{value}" else .error (.unresolvedResource s!"{what} '{value}'")

/-- A value as it is written. -/
def valueText (assets : Assets) (form : ValueForm) (value : String) : Except ViewProblem String :=
  match form with
  | .size => .ok (sizeText value)
  | .dp => .ok (value ++ "dp")
  | .sp => .ok (value ++ "sp")
  | .text => .ok (escapeText value)
  | .color => .ok ("#" ++ value)
  | .verbatim => .ok value
  | .drawable => reference (assets.resources.has .image value) "image" "drawable" value
  | .font => reference (assets.resources.has .font value) "font" "font" value
  | .layout => reference (assets.files.isCustomView value) "custom view" "layout" value

end BlockApp.Layout
