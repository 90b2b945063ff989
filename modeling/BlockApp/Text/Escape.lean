/-!
# Field escapes

A field writes TAB as `\t` and line feed as `\n`, and any other character after a backslash stands
for itself. A backslash at the very end stands for itself too.
-/

namespace BlockApp.Text

/-- The character that a backslash followed by `c` stands for. -/
def escapedChar (c : Char) : Char :=
  if c = 't' then '\t' else if c = 'n' then '\n' else c

/-- The text that an escaped field stands for. -/
def unescapeChars : List Char → List Char
  | [] => []
  | '\\' :: c :: rest => escapedChar c :: unescapeChars rest
  | c :: rest => c :: unescapeChars rest

@[simp] theorem unescapeChars_nil : unescapeChars [] = [] := rfl

@[simp] theorem unescapeChars_escape (c : Char) (rest : List Char) :
    unescapeChars ('\\' :: c :: rest) = escapedChar c :: unescapeChars rest := rfl

@[simp] theorem unescapeChars_backslash : unescapeChars ['\\'] = ['\\'] := rfl

theorem unescapeChars_cons {c : Char} (h : c ≠ '\\') (rest : List Char) :
    unescapeChars (c :: rest) = c :: unescapeChars rest := by
  cases rest with
  | nil => simp [unescapeChars]
  | cons d rest => simp [unescapeChars, h]

/-- A text without a backslash stands for itself. -/
theorem unescapeChars_eq_self {s : List Char} (h : '\\' ∉ s) : unescapeChars s = s := by
  induction s with
  | nil => rfl
  | cons c rest ih =>
    simp only [List.mem_cons, not_or] at h
    rw [unescapeChars_cons (Ne.symm h.1), ih h.2]

/-- The string that an escaped field stands for. -/
def unescape (s : String) : String := String.ofList (unescapeChars s.toList)

end BlockApp.Text
