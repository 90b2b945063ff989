import BlockApp.Logic.Event
import BlockApp.Source.Line

/-!
# Listeners

How the method of a view event's handler is called: a listener of the kind that the event asks for is
set on the view, and it passes on what the handler is told.
-/

namespace BlockApp.Source

/-- The call that sets a listener on a view, up to the listener's methods. -/
def listenerOpening (view : String) : ViewEvent → String
  | .click => s!"{view}.setOnClickListener(new View.OnClickListener() \x7b"
  | .longClick => s!"{view}.setOnLongClickListener(new View.OnLongClickListener() \x7b"
  | .checkedChanged =>
    s!"{view}.setOnCheckedChangeListener(new CompoundButton.OnCheckedChangeListener() \x7b"
  | .textChanged => s!"{view}.addTextChangedListener(new TextWatcher() \x7b"
  | .progressChanged =>
    s!"{view}.setOnSeekBarChangeListener(new SeekBar.OnSeekBarChangeListener() \x7b"
  | .itemSelected =>
    s!"{view}.setOnItemSelectedListener(new AdapterView.OnItemSelectedListener() \x7b"
  | .itemClicked => s!"{view}.setOnItemClickListener(new AdapterView.OnItemClickListener() \x7b"

/-- A method of a listener: its signature and its statements. -/
structure ListenerMethod where
  signature : String
  statements : List String
  deriving Repr, DecidableEq

/-- The methods of a listener that calls `method`, the one that calls it first. -/
def listenerMethods (method : String) : ViewEvent → List ListenerMethod
  | .click => [⟨"public void onClick(View _view)", [s!"{method}(_view);"]⟩]
  | .longClick =>
    [⟨"public boolean onLongClick(View _view)", [s!"{method}(_view);", "return true;"]⟩]
  | .checkedChanged =>
    [⟨"public void onCheckedChanged(CompoundButton _buttonView, boolean _isChecked)",
      [s!"{method}(_buttonView, _isChecked);"]⟩]
  | .textChanged =>
    [⟨"public void onTextChanged(CharSequence _param1, int _param2, int _param3, int _param4)",
      [s!"{method}(_param1.toString());"]⟩,
     ⟨"public void beforeTextChanged(CharSequence _param1, int _param2, int _param3, int _param4)",
      []⟩,
     ⟨"public void afterTextChanged(Editable _param1)", []⟩]
  | .progressChanged =>
    [⟨"public void onProgressChanged(SeekBar _seekBar, int _progressValue, boolean _fromUser)",
      [s!"{method}(_seekBar, _progressValue, _fromUser);"]⟩,
     ⟨"public void onStartTrackingTouch(SeekBar _seekBar)", []⟩,
     ⟨"public void onStopTrackingTouch(SeekBar _seekBar)", []⟩]
  | .itemSelected =>
    [⟨"public void onItemSelected(AdapterView<?> _param1, View _param2, int _position, long _param4)",
      [s!"{method}(_position);"]⟩,
     ⟨"public void onNothingSelected(AdapterView<?> _param1)", []⟩]
  | .itemClicked =>
    [⟨"public void onItemClick(AdapterView<?> _param1, View _param2, int _position, long _param4)",
      [s!"{method}(_position);"]⟩]

/-- The imports that a listener needs. -/
def listenerImports : ViewEvent → List String
  | .click | .longClick => ["android.view.View"]
  | .checkedChanged => ["android.widget.CompoundButton"]
  | .textChanged => ["android.text.Editable", "android.text.TextWatcher"]
  | .progressChanged => []
  | .itemSelected | .itemClicked => ["android.view.View", "android.widget.AdapterView"]

/-- The lines of a listener's method. -/
def ListenerMethod.lines (level : Nat) (m : ListenerMethod) : List Line :=
  .plain level "@Override" ::
    bracedBy (.plain level (m.signature ++ " \x7b")) (m.statements.map (.plain (level + 1)))

/-- The lines that set a listener on a view. -/
def listenerLines (level : Nat) (view method : String) (event : ViewEvent) : List Line :=
  let methods := (listenerMethods method event).map (ListenerMethod.lines (level + 1))
  Line.ofTabbed level (listenerOpening view event) (listenerImports event) ::
    [Line.blank].intercalate methods ++ [.plain level "\x7d);"]

end BlockApp.Source
