import BlockApp.Logic.Tree
import BlockApp.Project.File
import BlockApp.Proofs.Tables.Format
import BlockApp.Source.Field
import BlockApp.Source.Listener
import BlockApp.Source.Table

/-!
# The tables of names

What each name stands for in code, in tables with the names as keys: the types of variables and lists,
components, blocks, events, and the settings of a window. A name that is written in a project is one of a
few, so what is looked up is there. That is said for each table, with what is found.
-/

namespace BlockApp.Tables

open Source

/-! ## Values -/

/-- What a variable or list becomes. -/
structure ValueEntry where
  javaType : String
  initial : String
  imports : List String
  deriving Repr, DecidableEq

/-- Variables by the names of their types. -/
def values : List (String × ValueEntry) :=
  [("boolean", ⟨"boolean", "false", []⟩),
   ("number", ⟨"double", "0", []⟩),
   ("string", ⟨"String", "\"\"", []⟩),
   ("map", ⟨"HashMap<String, Object>", "new HashMap<>()", ["java.util.HashMap"]⟩)]

/-- Lists by the names of the types of their elements. -/
def lists : List (String × ValueEntry) :=
  [("number", ⟨"ArrayList<Double>", "new ArrayList<>()", ["java.util.ArrayList"]⟩),
   ("string", ⟨"ArrayList<String>", "new ArrayList<>()", ["java.util.ArrayList"]⟩),
   ("map", ⟨"ArrayList<HashMap<String, Object>>", "new ArrayList<>()",
     ["java.util.ArrayList", "java.util.HashMap"]⟩)]

theorem lookup_values (type : ValueType) :
    values.lookup type.name = some ⟨type.javaType, type.initial, type.imports⟩ := by
  cases type <;> decide

theorem lookup_lists (element : ElementType) :
    lists.lookup element.value.name =
      some ⟨element.listType, "new ArrayList<>()", element.listImports⟩ := by
  cases element <;> decide

/-- The types of the parameters of more blocks by their letters. -/
def parameterTypes : List (String × String) :=
  [("s", "String"), ("d", "double"), ("b", "boolean"), ("m", "HashMap<String, Object>")]

theorem lookup_parameterTypes (type : ParameterType) :
    parameterTypes.lookup (String.singleton type.letter) = some type.javaType := by
  cases type <;> decide

/-! ## Components and views -/

/-- What a component becomes: its type and first value, and the statement that sets it up. -/
structure ComponentEntry where
  javaType : String
  initial? : Option String
  setup? : Option Format
  imports : List String
  deriving Repr, DecidableEq

/-- Components by the names of their types. -/
def components : List (String × ComponentEntry) :=
  [("Intent", ⟨"Intent", "new Intent()", none, ["android.content.Intent"]⟩),
   ("SharedPreferences", ⟨"SharedPreferences", none,
     some ⟨0, [.named "name", " = getSharedPreferences(", .named "extra", ", Context.MODE_PRIVATE);"],
       []⟩,
     ["android.content.SharedPreferences", "android.content.Context"]⟩),
   ("Calendar", ⟨"Calendar", "Calendar.getInstance()", none, ["java.util.Calendar"]⟩),
   ("Vibrator", ⟨"Vibrator", none,
     some ⟨0, [.named "name", " = (Vibrator) getSystemService(Context.VIBRATOR_SERVICE);"], []⟩,
     ["android.os.Vibrator", "android.content.Context"]⟩),
   ("Timer", ⟨"Timer", "new Timer()", none, ["java.util.Timer"]⟩)]

/-- The imports of views by the names of their types. -/
def viewImports : List (String × String) :=
  [("LinearLayout", "android.widget.LinearLayout"),
   ("FrameLayout", "android.widget.FrameLayout"),
   ("ScrollView", "android.widget.ScrollView"),
   ("HorizontalScrollView", "android.widget.HorizontalScrollView"),
   ("TextView", "android.widget.TextView"),
   ("Button", "android.widget.Button"),
   ("EditText", "android.widget.EditText"),
   ("ImageView", "android.widget.ImageView"),
   ("CheckBox", "android.widget.CheckBox"),
   ("Switch", "android.widget.Switch"),
   ("SeekBar", "android.widget.SeekBar"),
   ("ProgressBar", "android.widget.ProgressBar"),
   ("Spinner", "android.widget.Spinner"),
   ("ListView", "android.widget.ListView"),
   ("WebView", "android.webkit.WebView"),
   ("CalendarView", "android.widget.CalendarView")]

theorem lookup_viewImports (type : Component) :
    viewImports.lookup type.name = some type.qualifiedName := by
  cases type <;> decide

/-! ## Blocks -/

/-- The formats of the lines that open branches. -/
def openers : List (String × Format) :=
  [("if", ⟨1, ["if (", .numbered 0, ") \x7b"], []⟩),
   ("elseIf", ⟨1, ["\x7d else if (", .numbered 0, ") \x7b"], []⟩),
   ("else", ⟨0, ["\x7d else \x7b"], []⟩),
   ("repeat", ⟨1, ["for (int ", .named "counter", " = 0; ", .named "counter", " < (int) (", .numbered 0,
     "); ", .named "counter", "++) \x7b"], []⟩),
   ("forever", ⟨0, ["while (true) \x7b"], []⟩),
   ("while", ⟨1, ["while (", .numbered 0, ") \x7b"], []⟩)]

/-- The formats of assignments. -/
def assignments : List (String × Format) :=
  [("setVar", ⟨2, [.numbered 0, " = ", .numbered 1, ";"], []⟩),
   ("increaseInt", ⟨1, [.numbered 0, "++;"], []⟩),
   ("decreaseInt", ⟨1, [.numbered 0, "--;"], []⟩)]

/-- The formats of statements, those of assignments among them. -/
def statements : List (String × Format) := ofTemplates Source.statements ++ assignments

/-- The formats of calls inside of parameters. -/
def calls : List (String × Format) := ofTemplates Source.calls

theorem lookup_calls (tag : String) :
    calls.lookup tag = (Source.calls.lookup tag).map .ofTemplate :=
  lookup_ofTemplates _ tag

/-- The formats of the blocks whose parameters are counted when they are read. -/
def counted : List (String × Format) := openers ++ assignments

/-- A tag without a role of its own is not in a table of tags with one. -/
theorem lookup_eq_none_of_statement {table : List (String × Format)}
    (hroles : ∀ entry ∈ table, BlockTag.of entry.1 ≠ .statement) {tag : String}
    (h : BlockTag.of tag = .statement) : table.lookup tag = none := by
  rw [List.lookup_eq_none_iff]
  rintro entry hentry
  rw [bne_iff_ne]
  rintro rfl
  exact hroles entry hentry h

theorem lookup_statements_of_statement {tag : String} (h : BlockTag.of tag = .statement) :
    statements.lookup tag = (Source.statements.lookup tag).map .ofTemplate := by
  have hroles : ∀ entry ∈ assignments, BlockTag.of entry.1 ≠ .statement := by decide
  rw [statements, List.lookup_append, lookup_ofTemplates, lookup_eq_none_of_statement hroles h,
    Option.or_none]

/-! ## Events -/

/-- Whether the activity's own handling of an event goes first, by the name of the event. -/
def activityEvents : List (String × Bool) :=
  [("onBackPressed", false), ("onStart", true), ("onResume", true), ("onPause", true), ("onStop", true),
   ("onDestroy", true)]

theorem lookup_activityEvents (event : ActivityEvent) :
    activityEvents.lookup event.name = some event.callsSuper := by
  cases event <;> decide

/-- A line of a listener, so many levels deeper than the first. -/
structure ListenerLine where
  tabs : Nat
  marks : List Mark
  imports : List String
  deriving Repr, DecidableEq

/-- What is known of an event of views: what its handlers are told, the lines of its listener, and the
types of views that have it. -/
structure EventEntry where
  arguments : List Argument
  listener : List ListenerLine
  viewTypes? : Option (List String)
  deriving Repr, DecidableEq

/-- The lines of a method of a listener. -/
def overriding (signature : String) (statements : List (List Mark)) : List ListenerLine :=
  [⟨1, ["@Override"], []⟩, ⟨1, [.text (signature ++ " \x7b")], []⟩] ++ statements.map (⟨2, ·, []⟩) ++
    [⟨1, ["\x7d"], []⟩]

/-- The lines of a listener: the one that sets it, with its imports, and those of its methods. -/
def listener (opening : String) (imports : List String) (methods : List (List ListenerLine)) :
    List ListenerLine :=
  ⟨0, [.named "view", .text opening], imports⟩ :: [⟨0, [""], []⟩].intercalate methods ++
    [⟨0, ["\x7d);"], []⟩]

/-- Events of views by their names. -/
def viewEvents : List (String × EventEntry) :=
  [("onClick", ⟨[⟨"View", "view"⟩],
     listener ".setOnClickListener(new View.OnClickListener() \x7b" ["android.view.View"]
       [overriding "public void onClick(View _view)" [[.named "method", "(_view);"]]],
     none⟩),
   ("onLongClick", ⟨[⟨"View", "view"⟩],
     listener ".setOnLongClickListener(new View.OnLongClickListener() \x7b" ["android.view.View"]
       [overriding "public boolean onLongClick(View _view)"
         [[.named "method", "(_view);"], ["return true;"]]],
     none⟩),
   ("onCheckedChanged", ⟨[⟨"CompoundButton", "buttonView"⟩, ⟨"boolean", "isChecked"⟩],
     listener ".setOnCheckedChangeListener(new CompoundButton.OnCheckedChangeListener() \x7b"
       ["android.widget.CompoundButton"]
       [overriding "public void onCheckedChanged(CompoundButton _buttonView, boolean _isChecked)"
         [[.named "method", "(_buttonView, _isChecked);"]]],
     some ["CheckBox", "Switch"]⟩),
   ("onTextChanged", ⟨[⟨"String", "charSeq"⟩],
     listener ".addTextChangedListener(new TextWatcher() \x7b"
       ["android.text.Editable", "android.text.TextWatcher"]
       [overriding
          "public void onTextChanged(CharSequence _param1, int _param2, int _param3, int _param4)"
          [[.named "method", "(_param1.toString());"]],
        overriding
          "public void beforeTextChanged(CharSequence _param1, int _param2, int _param3, int _param4)"
          [],
        overriding "public void afterTextChanged(Editable _param1)" []],
     some ["EditText"]⟩),
   ("onProgressChanged",
     ⟨[⟨"SeekBar", "seekBar"⟩, ⟨"int", "progressValue"⟩, ⟨"boolean", "fromUser"⟩],
     listener ".setOnSeekBarChangeListener(new SeekBar.OnSeekBarChangeListener() \x7b" []
       [overriding
          "public void onProgressChanged(SeekBar _seekBar, int _progressValue, boolean _fromUser)"
          [[.named "method", "(_seekBar, _progressValue, _fromUser);"]],
        overriding "public void onStartTrackingTouch(SeekBar _seekBar)" [],
        overriding "public void onStopTrackingTouch(SeekBar _seekBar)" []],
     some ["SeekBar"]⟩),
   ("onItemSelected", ⟨[⟨"int", "position"⟩],
     listener ".setOnItemSelectedListener(new AdapterView.OnItemSelectedListener() \x7b"
       ["android.view.View", "android.widget.AdapterView"]
       [overriding
          "public void onItemSelected(AdapterView<?> _param1, View _param2, int _position, long _param4)"
          [[.named "method", "(_position);"]],
        overriding "public void onNothingSelected(AdapterView<?> _param1)" []],
     some ["Spinner"]⟩),
   ("onItemClicked", ⟨[⟨"int", "position"⟩],
     listener ".setOnItemClickListener(new AdapterView.OnItemClickListener() \x7b"
       ["android.view.View", "android.widget.AdapterView"]
       [overriding
          "public void onItemClick(AdapterView<?> _param1, View _param2, int _position, long _param4)"
          [[.named "method", "(_position);"]]],
     some ["ListView"]⟩)]

/-! ## Windows -/

/-- The statements that keep a window from turning, by the names of the settings. -/
def orientations : List (String × Option String) :=
  [("portrait", "setRequestedOrientation(ActivityInfo.SCREEN_ORIENTATION_PORTRAIT);"),
   ("landscape", "setRequestedOrientation(ActivityInfo.SCREEN_ORIENTATION_LANDSCAPE);"),
   ("both", none)]

/-- The statements that set what the keyboard does, by the names of the settings. -/
def keyboards : List (String × Option String) :=
  [("unspecified", none),
   ("visible",
    "getWindow().setSoftInputMode(WindowManager.LayoutParams.SOFT_INPUT_STATE_ALWAYS_VISIBLE);"),
   ("hidden",
    "getWindow().setSoftInputMode(WindowManager.LayoutParams.SOFT_INPUT_STATE_ALWAYS_HIDDEN);")]

end BlockApp.Tables
