import BlockApp.Source.Template

/-!
# Known blocks

The templates of the blocks that are statements and of the calls inside of parameters, by tag. The names
in the templates are those of the Android and Java classes that a generated class uses.
-/

namespace BlockApp.Source

/-- The templates of statements. -/
def statements : List (String × Template) :=
  [("showMessage", ⟨1,
    ["Toast.makeText(getApplicationContext(), ", arg 0, ", Toast.LENGTH_SHORT).show();"],
    ["android.widget.Toast"]⟩),
   ("setText", ⟨2, [arg 0, ".setText(", arg 1, ");"], []⟩),
   ("setHint", ⟨2, [arg 0, ".setHint(", arg 1, ");"], []⟩),
   ("setEnable", ⟨2, [arg 0, ".setEnabled(", arg 1, ");"], []⟩),
   ("setClickable", ⟨2, [arg 0, ".setClickable(", arg 1, ");"], []⟩),
   ("setVisible", ⟨2, [arg 0, ".setVisibility(View.", arg 1, ");"], ["android.view.View"]⟩),
   ("setChecked", ⟨2, [arg 0, ".setChecked(", arg 1, ");"], []⟩),
   ("setTextColor", ⟨2, [arg 0, ".setTextColor(", arg 1, ");"], []⟩),
   ("setBgColor", ⟨2, [arg 0, ".setBackgroundColor(", arg 1, ");"], []⟩),
   ("setImage", ⟨2, [arg 0, ".setImageResource(", arg 1, ");"], []⟩),
   ("setProgress", ⟨2, [arg 0, ".setProgress((int) (", arg 1, "));"], []⟩),
   ("requestFocus", ⟨1, [arg 0, ".requestFocus();"], []⟩),
   ("webViewLoadUrl", ⟨2, [arg 0, ".loadUrl(", arg 1, ");"], []⟩),
   ("addList", ⟨2, [arg 0, ".add(", arg 1, ");"], []⟩),
   ("insertList", ⟨3, [arg 0, ".add((int) (", arg 2, "), ", arg 1, ");"], []⟩),
   ("deleteList", ⟨2, [arg 0, ".remove((int) (", arg 1, "));"], []⟩),
   ("clearList", ⟨1, [arg 0, ".clear();"], []⟩),
   ("mapPut", ⟨3, [arg 0, ".put(", arg 1, ", ", arg 2, ");"], []⟩),
   ("mapRemove", ⟨2, [arg 0, ".remove(", arg 1, ");"], []⟩),
   ("mapClear", ⟨1, [arg 0, ".clear();"], []⟩),
   ("intentSetScreen", ⟨2, [arg 0, ".setClass(getApplicationContext(), ", arg 1, ".class);"], []⟩),
   ("intentPutExtra", ⟨3, [arg 0, ".putExtra(", arg 1, ", ", arg 2, ");"], []⟩),
   ("startActivity", ⟨1, ["startActivity(", arg 0, ");"], []⟩),
   ("finishActivity", ⟨0, ["finish();"], []⟩),
   ("prefSave", ⟨3, [arg 0, ".edit().putString(", arg 1, ", ", arg 2, ").commit();"], []⟩),
   ("prefRemove", ⟨2, [arg 0, ".edit().remove(", arg 1, ").commit();"], []⟩),
   ("vibratorAction", ⟨2, [arg 0, ".vibrate((long) (", arg 1, "));"], []⟩),
   ("calendarGetNow", ⟨1, [arg 0, " = Calendar.getInstance();"], []⟩),
   ("timerCancel", ⟨1, [arg 0, ".cancel();"], []⟩),
   ("break", ⟨0, ["break;"], []⟩)]

/-- The templates of calls. -/
def calls : List (String × Template) :=
  [("true", ⟨0, ["true"], []⟩),
   ("false", ⟨0, ["false"], []⟩),
   ("not", ⟨1, ["!", arg 0], []⟩),
   ("&&", ⟨2, ["(", arg 0, " && ", arg 1, ")"], []⟩),
   ("||", ⟨2, ["(", arg 0, " || ", arg 1, ")"], []⟩),
   ("==", ⟨2, ["(", arg 0, " == ", arg 1, ")"], []⟩),
   ("!=", ⟨2, ["(", arg 0, " != ", arg 1, ")"], []⟩),
   ("<", ⟨2, ["(", arg 0, " < ", arg 1, ")"], []⟩),
   (">", ⟨2, ["(", arg 0, " > ", arg 1, ")"], []⟩),
   ("<=", ⟨2, ["(", arg 0, " <= ", arg 1, ")"], []⟩),
   (">=", ⟨2, ["(", arg 0, " >= ", arg 1, ")"], []⟩),
   ("+", ⟨2, ["(", arg 0, " + ", arg 1, ")"], []⟩),
   ("-", ⟨2, ["(", arg 0, " - ", arg 1, ")"], []⟩),
   ("*", ⟨2, ["(", arg 0, " * ", arg 1, ")"], []⟩),
   ("/", ⟨2, ["(", arg 0, " / ", arg 1, ")"], []⟩),
   ("%", ⟨2, ["(", arg 0, " % ", arg 1, ")"], []⟩),
   ("random", ⟨2, ["(", arg 0, " + (int) (Math.random() * (", arg 1, " - ", arg 0, " + 1)))"], []⟩),
   ("mathAbs", ⟨1, ["Math.abs(", arg 0, ")"], []⟩),
   ("mathRound", ⟨1, ["Math.round(", arg 0, ")"], []⟩),
   ("mathSqrt", ⟨1, ["Math.sqrt(", arg 0, ")"], []⟩),
   ("mathPow", ⟨2, ["Math.pow(", arg 0, ", ", arg 1, ")"], []⟩),
   ("mathMin", ⟨2, ["Math.min(", arg 0, ", ", arg 1, ")"], []⟩),
   ("mathMax", ⟨2, ["Math.max(", arg 0, ", ", arg 1, ")"], []⟩),
   ("stringLength", ⟨1, [arg 0, ".length()"], []⟩),
   ("stringJoin", ⟨2, [arg 0, ".concat(", arg 1, ")"], []⟩),
   ("stringEquals", ⟨2, [arg 0, ".equals(", arg 1, ")"], []⟩),
   ("stringContains", ⟨2, [arg 0, ".contains(", arg 1, ")"], []⟩),
   ("stringIndex", ⟨2, [arg 1, ".indexOf(", arg 0, ")"], []⟩),
   ("stringSub", ⟨3, [arg 0, ".substring((int) (", arg 1, "), (int) (", arg 2, "))"], []⟩),
   ("toUpperCase", ⟨1, [arg 0, ".toUpperCase()"], []⟩),
   ("toLowerCase", ⟨1, [arg 0, ".toLowerCase()"], []⟩),
   ("trim", ⟨1, [arg 0, ".trim()"], []⟩),
   ("toNumber", ⟨1, ["Double.parseDouble(", arg 0, ")"], []⟩),
   ("toString", ⟨1, ["String.valueOf((long) (", arg 0, "))"], []⟩),
   ("toStringWithDecimal", ⟨1, ["String.valueOf(", arg 0, ")"], []⟩),
   ("getText", ⟨1, [arg 0, ".getText().toString()"], []⟩),
   ("isChecked", ⟨1, [arg 0, ".isChecked()"], []⟩),
   ("getProgress", ⟨1, [arg 0, ".getProgress()"], []⟩),
   ("lengthList", ⟨1, [arg 0, ".size()"], []⟩),
   ("getAtList", ⟨2, [arg 1, ".get((int) (", arg 0, "))"], []⟩),
   ("containsList", ⟨2, [arg 1, ".contains(", arg 0, ")"], []⟩),
   ("mapGet", ⟨2, [arg 0, ".get(", arg 1, ").toString()"], []⟩),
   ("mapContainKey", ⟨2, [arg 0, ".containsKey(", arg 1, ")"], []⟩),
   ("mapSize", ⟨1, [arg 0, ".size()"], []⟩),
   ("prefGet", ⟨2, [arg 0, ".getString(", arg 1, ", \"\")"], []⟩),
   ("intentGetString", ⟨1, ["getIntent().getStringExtra(", arg 0, ")"], []⟩),
   ("calendarGetTime", ⟨1, [arg 0, ".getTimeInMillis()"], []⟩)]

end BlockApp.Source
