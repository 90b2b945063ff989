import BlockApp.Logic.Declaration
import BlockApp.Text.Split

/-!
# Events

The key of a handler says when its blocks run: at the start of a screen, at an event of the activity,
at an event of a view, or when a more block is called. `Binding.ofKey?` reads a key, and
`Binding.arguments` gives what the blocks of such a handler may refer to.

* A more block's key is its name and `_moreBlock`; a view event's key is the view's name, `_` and the
  event, which holds no `_` itself, so both are read from the end.
-/

namespace BlockApp

/-- An event of an activity. -/
inductive ActivityEvent where
  | backPressed
  | start
  | resume
  | pause
  | stop
  | destroy
  deriving Repr, DecidableEq

namespace ActivityEvent

/-- The events of an activity. -/
def all : List ActivityEvent := [.backPressed, .start, .resume, .pause, .stop, .destroy]

/-- The name of an event. -/
def name : ActivityEvent → String
  | .backPressed => "onBackPressed"
  | .start => "onStart"
  | .resume => "onResume"
  | .pause => "onPause"
  | .stop => "onStop"
  | .destroy => "onDestroy"

/-- The event of a name. -/
def ofName? (name : String) : Option ActivityEvent := all.find? (·.name == name)

/-- Whether the activity's own handling of the event goes first. The back key has none that is kept. -/
def callsSuper : ActivityEvent → Bool
  | .backPressed => false
  | .start | .resume | .pause | .stop | .destroy => true

theorem ofName?_name (event : ActivityEvent) : ofName? event.name = some event := by
  cases event <;> decide

end ActivityEvent

/-- An event of a view. -/
inductive ViewEvent where
  | click
  | longClick
  | checkedChanged
  | textChanged
  | progressChanged
  | itemSelected
  | itemClicked
  deriving Repr, DecidableEq

/-- A parameter of a handler's method. -/
structure Argument where
  javaType : String
  name : String
  deriving Repr, DecidableEq

namespace ViewEvent

/-- The events of views. -/
def all : List ViewEvent :=
  [.click, .longClick, .checkedChanged, .textChanged, .progressChanged, .itemSelected, .itemClicked]

/-- The name of an event. -/
def name : ViewEvent → String
  | .click => "onClick"
  | .longClick => "onLongClick"
  | .checkedChanged => "onCheckedChanged"
  | .textChanged => "onTextChanged"
  | .progressChanged => "onProgressChanged"
  | .itemSelected => "onItemSelected"
  | .itemClicked => "onItemClicked"

/-- The event of a name. -/
def ofName? (name : String) : Option ViewEvent := all.find? (·.name == name)

/-- What a handler of the event is told. -/
def arguments : ViewEvent → List Argument
  | .click | .longClick => [⟨"View", "view"⟩]
  | .checkedChanged => [⟨"CompoundButton", "buttonView"⟩, ⟨"boolean", "isChecked"⟩]
  | .textChanged => [⟨"String", "charSeq"⟩]
  | .progressChanged => [⟨"SeekBar", "seekBar"⟩, ⟨"int", "progressValue"⟩, ⟨"boolean", "fromUser"⟩]
  | .itemSelected | .itemClicked => [⟨"int", "position"⟩]

/-- The types of views that have the event, `none` if all have it. -/
def viewTypes? : ViewEvent → Option (List String)
  | .click | .longClick => none
  | .checkedChanged => some ["CheckBox", "Switch"]
  | .textChanged => some ["EditText"]
  | .progressChanged => some ["SeekBar"]
  | .itemSelected => some ["Spinner"]
  | .itemClicked => some ["ListView"]

/-- Whether views of a type have the event. -/
def appliesTo (event : ViewEvent) (type : String) : Bool :=
  match event.viewTypes? with
  | none => true
  | some types => types.contains type

theorem ofName?_name (event : ViewEvent) : ofName? event.name = some event := by
  cases event <;> decide

theorem name_of_ofName? {s : String} {event : ViewEvent} (h : ofName? s = some event) :
    event.name = s := by
  simpa using List.find?_some h

/-- The name of an event holds no underscore. -/
theorem underscore_notMem_name (event : ViewEvent) : '_' ∉ event.name.toList := by
  cases event <;> decide

end ViewEvent

/-- The type of a parameter of a more block's method. -/
def ParameterType.javaType : ParameterType → String
  | .text => "String"
  | .number => "double"
  | .truth => "boolean"
  | .map => "HashMap<String, Object>"

/-- What the blocks of a more block are told. -/
def MoreBlock.arguments (m : MoreBlock) : List Argument :=
  m.parameters.map fun p => ⟨p.type.javaType, p.name⟩

/-- When the blocks of a handler run. -/
inductive Binding where
  | startUp
  | activityEvent (event : ActivityEvent)
  | viewEvent (view : String) (event : ViewEvent)
  | moreBlock (name : String)
  deriving Repr, DecidableEq

namespace Binding

/-- The key of the handler that runs at the start of a screen. -/
def startUpKey : String := "onCreate_initializeLogic"

/-- The end of a more block's key. -/
def moreBlockEnding : String := "_moreBlock"

/-- The key of a more block's handler. -/
def moreBlockKey (name : String) : String := name ++ moreBlockEnding

/-- The name of the more block whose key this is. -/
def moreBlockOfKey? (key : String) : Option String :=
  let s := key.toList
  let ending := moreBlockEnding.toList
  if ending.isSuffixOf s ∧ ending.length < s.length then
    some (String.ofList (s.take (s.length - ending.length)))
  else none

/-- The view and the event whose key this is. -/
def viewEventOfKey? (key : String) : Option (String × ViewEvent) :=
  match Text.splitLast? '_' key.toList with
  | some (c :: view, event) =>
    (ViewEvent.ofName? (String.ofList event)).map (String.ofList (c :: view), ·)
  | _ => none

/-- What a key means, `none` if it means nothing. -/
def ofKey? (key : String) : Option Binding :=
  if key = startUpKey then some .startUp
  else
    match moreBlockOfKey? key with
    | some name => some (.moreBlock name)
    | none =>
      match ActivityEvent.ofName? key with
      | some event => some (.activityEvent event)
      | none => (viewEventOfKey? key).map fun (view, event) => .viewEvent view event

/-- The part of a key that names its event. -/
def eventPart (key : String) : String :=
  match Text.splitLast? '_' key.toList with
  | some (_, c :: event) => String.ofList (c :: event)
  | _ => key

/-- The name of the method that a handler becomes. -/
def methodName : Binding → String
  | .startUp => "initializeLogic"
  | .activityEvent event => event.name
  | .viewEvent view event => s!"_{view}_{event.name}"
  | .moreBlock name => s!"_{name}"

/-- The place of a handler among the methods of its class. -/
def rank : Binding → Nat
  | .startUp => 0
  | .activityEvent _ => 1
  | .viewEvent .. => 2
  | .moreBlock _ => 3

example : ofKey? "button1_onClick" = some (.viewEvent "button1" .click) := by decide +kernel
example : ofKey? "a_b_moreBlock" = some (.moreBlock "a_b") := by decide +kernel
example : ofKey? "_moreBlock" = none := by decide +kernel

end Binding

end BlockApp
