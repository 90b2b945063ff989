/-!
# Components

The types of views that are known: their names in layouts and in classes, and how they hold other
views.
-/

namespace BlockApp

/-- A known type of views. -/
inductive Component where
  | linearLayout
  | frameLayout
  | scrollView
  | horizontalScrollView
  | textView
  | button
  | editText
  | imageView
  | checkBox
  | switch
  | seekBar
  | progressBar
  | spinner
  | listView
  | webView
  | calendarView
  deriving Repr, DecidableEq

namespace Component

/-- The known types. -/
def all : List Component :=
  [.linearLayout, .frameLayout, .scrollView, .horizontalScrollView, .textView, .button, .editText,
   .imageView, .checkBox, .switch, .seekBar, .progressBar, .spinner, .listView, .webView,
   .calendarView]

/-- The name of a type, in sections, layouts and classes. -/
def name : Component → String
  | .linearLayout => "LinearLayout"
  | .frameLayout => "FrameLayout"
  | .scrollView => "ScrollView"
  | .horizontalScrollView => "HorizontalScrollView"
  | .textView => "TextView"
  | .button => "Button"
  | .editText => "EditText"
  | .imageView => "ImageView"
  | .checkBox => "CheckBox"
  | .switch => "Switch"
  | .seekBar => "SeekBar"
  | .progressBar => "ProgressBar"
  | .spinner => "Spinner"
  | .listView => "ListView"
  | .webView => "WebView"
  | .calendarView => "CalendarView"

/-- The type of a name. -/
def ofName? (name : String) : Option Component := all.find? (·.name == name)

/-- The class that an import names. -/
def qualifiedName : Component → String
  | .webView => "android.webkit.WebView"
  | type => "android.widget." ++ type.name

/-- The number of views that a type holds at most, `none` if there is no bound. -/
def mostChildren? : Component → Option Nat
  | .scrollView | .horizontalScrollView => some 1
  | _ => none

theorem mem_all (type : Component) : type ∈ all := by cases type <;> decide

theorem ofName?_name (type : Component) : ofName? type.name = some type := by
  cases type <;> decide

theorem name_of_ofName? {s : String} {type : Component} (h : ofName? s = some type) :
    type.name = s := by
  simpa using List.find?_some h

end Component

end BlockApp
