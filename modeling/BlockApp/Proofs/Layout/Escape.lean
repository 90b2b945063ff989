import BlockApp.Layout.Attribute
import BlockApp.Proofs.Text.Split
import BlockApp.Text.Escape

/-!
# Texts in layouts

A text is written so that it is taken as it is. Each of its characters is written as itself, or as a backslash
and a letter for it; a mark of a reference has a backslash too where it is the first character. What is
written is read back by what undoes the escapes of a field, which knows nothing of layouts.

* `Writes` — a part that stands for one character
* `Escaped` — a text on one line, whose quotes are behind backslashes
* `flatMap_escapeChar_eq` — the escapes may be put in one after the other
* `escapeText_undone` — what is written stands for its text, and for no other
-/

namespace BlockApp.Layout

open Text

variable {c d : Char} {chunk s text : List Char}

/-! ## Characters -/

/-- Whether a part stands for a character: it is this character, or a backslash and a letter for it. -/
inductive Writes : List Char → Char → Prop where
  | plain {c : Char} (h : c ∉ ['\\', '\'', '"', '\n', '\t']) : Writes [c] c
  | escaped {c d : Char} (h : escapedChar d = c) (hd : d ∉ ['\n', '\t']) : Writes ['\\', d] c

theorem writes_escapeChar (c : Char) : Writes (escapeChar c) c := by
  unfold escapeChar
  split
  case h_6 hslash hsingle hdouble hfeed htab =>
    refine .plain fun hmem => ?_
    simp only [List.mem_cons, List.not_mem_nil, or_false] at hmem
    rcases hmem with h | h | h | h | h
    · exact hslash h
    · exact hsingle h
    · exact hdouble h
    · exact hfeed h
    · exact htab h
  all_goals exact .escaped (by decide) (by decide)

/-- Whether a character at the start of a value marks a reference. -/
def IsMark (c : Char) : Prop := c = '@' ∨ c = '?'

instance (c : Char) : Decidable (IsMark c) := inferInstanceAs (Decidable (_ ∨ _))

/-- The first character of a text as it is written. -/
def escapeFirst (c : Char) : List Char := if IsMark c then ['\\', c] else escapeChar c

theorem writes_escapeFirst (c : Char) : Writes (escapeFirst c) c := by
  unfold escapeFirst
  split
  · next hmark =>
    rcases hmark with rfl | rfl
    · exact .escaped (by decide) (by decide)
    · exact .escaped (by decide) (by decide)
  · exact writes_escapeChar c

theorem head?_of_writes (h : Writes chunk c) (hmark : ¬IsMark c) (rest : List Char) :
    ∀ d ∈ (chunk ++ rest).head?, ¬IsMark d := by
  intro d hd
  cases h with
  | plain _ =>
    obtain rfl : c = d := by simpa using hd
    exact hmark
  | escaped _ _ =>
    obtain rfl : '\\' = d := by simpa using hd
    decide

theorem escapeChars_cons (c : Char) (s : List Char) :
    escapeChars (c :: s) = escapeFirst c ++ s.flatMap escapeChar := by
  unfold escapeChars escapeFirst
  rw [List.flatMap_cons]
  by_cases hmark : IsMark c
  · rw [if_pos hmark]
    rcases hmark with rfl | rfl
    · rfl
    · rfl
  · have hfirst := head?_of_writes (writes_escapeChar c) hmark (s.flatMap escapeChar)
    rw [if_neg hmark]
    split
    · next heq =>
      rw [heq] at hfirst
      exact absurd (.inl rfl) (hfirst '@' rfl)
    · next heq =>
      rw [heq] at hfirst
      exact absurd (.inr rfl) (hfirst '?' rfl)
    · rfl

/-- No text begins with the mark of a reference when it is written. -/
theorem head?_escapeChars (s : List Char) : ∀ d ∈ (escapeChars s).head?, ¬IsMark d := by
  cases s with
  | nil => exact fun d hd => absurd hd (by simp [escapeChars])
  | cons c s =>
    rw [escapeChars_cons]
    by_cases hmark : IsMark c
    · intro d hd
      rw [escapeFirst, if_pos hmark] at hd
      obtain rfl : '\\' = d := by simpa using hd
      decide
    · exact head?_of_writes (writes_escapeFirst c) hmark _

/-! ## Reading back -/

/-- A part is read as the character that it stands for, whatever is behind it. -/
theorem unescapeChars_append (h : Writes chunk c) (rest : List Char) :
    unescapeChars (chunk ++ rest) = c :: unescapeChars rest := by
  cases h with
  | plain hc =>
    have hslash : c ≠ '\\' := fun hc' => hc (hc' ▸ List.mem_cons_self)
    exact unescapeChars_cons hslash rest
  | @escaped _ d hmeant _ =>
    show escapedChar d :: unescapeChars rest = c :: unescapeChars rest
    rw [hmeant]

theorem unescapeChars_flatMap (s : List Char) : unescapeChars (s.flatMap escapeChar) = s := by
  induction s with
  | nil => rfl
  | cons c s ih => rw [List.flatMap_cons, unescapeChars_append (writes_escapeChar c), ih]

theorem unescapeChars_escapeChars (s : List Char) : unescapeChars (escapeChars s) = s := by
  cases s with
  | nil => rfl
  | cons c s => rw [escapeChars_cons, unescapeChars_append (writes_escapeFirst c), unescapeChars_flatMap]

theorem unescape_escapeText (text : String) : unescape (escapeText text) = text := by
  rw [unescape, escapeText, String.toList_ofList, unescapeChars_escapeChars, String.ofList_toList]

/-! ## Quotes -/

/-- The number of backslashes that a text ends with. -/
def slashesAtEnd (s : List Char) : Nat := (s.reverse.takeWhile (· == '\\')).length

theorem slashesAtEnd_concat (s : List Char) (c : Char) :
    slashesAtEnd (s ++ [c]) = if c = '\\' then slashesAtEnd s + 1 else 0 := by
  unfold slashesAtEnd
  rw [List.reverse_append, List.reverse_singleton, List.singleton_append, List.takeWhile_cons]
  by_cases hslash : c = '\\'
  · simp [hslash]
  · simp [hslash]

/-- Whether the number of backslashes right before each quote is odd, so that the last of them does not stand
for itself. -/
def QuotesEscaped (s : List Char) : Prop :=
  ∀ before quote after, s = before ++ quote :: after → quote = '\'' ∨ quote = '"' →
    slashesAtEnd before % 2 = 1

theorem QuotesEscaped.concat (h : QuotesEscaped s)
    (hc : c = '\'' ∨ c = '"' → slashesAtEnd s % 2 = 1) : QuotesEscaped (s ++ [c]) :=
  forall_split_concat.2 ⟨h, hc⟩

/-- Whether a text holds no line feed, no TAB, and no quote without a backslash. Behind it, a backslash is not
behind one. -/
structure Escaped (s : List Char) : Prop where
  lines : ∀ c ∈ s, c ≠ '\n' ∧ c ≠ '\t'
  quotes : QuotesEscaped s
  even : slashesAtEnd s % 2 = 0

theorem escaped_nil : Escaped [] := by
  refine ⟨List.forall_mem_nil _, fun before quote after hsplit => ?_, rfl⟩
  exact absurd hsplit (by simp)

/-- What stands for a character can follow. -/
theorem Escaped.append (h : Escaped s) (hchunk : Writes chunk c) : Escaped (s ++ chunk) := by
  cases hchunk with
  | plain hc =>
    simp only [List.mem_cons, List.not_mem_nil, or_false, not_or] at hc
    obtain ⟨hslash, hsingle, hdouble, hfeed, htab⟩ := hc
    refine ⟨List.forall_mem_append.2 ⟨h.lines, List.forall_mem_singleton.2 ⟨hfeed, htab⟩⟩, ?_, ?_⟩
    · refine h.quotes.concat fun hquote => ?_
      exact absurd hquote (not_or.2 ⟨hsingle, hdouble⟩)
    · rw [slashesAtEnd_concat, if_neg hslash]
  | @escaped _ d _ hd =>
    simp only [List.mem_cons, List.not_mem_nil, or_false, not_or] at hd
    have hslash : slashesAtEnd (s ++ ['\\']) = slashesAtEnd s + 1 := by
      rw [slashesAtEnd_concat, if_pos rfl]
    have hodd : slashesAtEnd (s ++ ['\\']) % 2 = 1 := by
      have := h.even
      omega
    have hsplit : s ++ ['\\', d] = s ++ ['\\'] ++ [d] := by simp
    have hlines : ∀ e ∈ ['\\', d], e ≠ '\n' ∧ e ≠ '\t' :=
      List.forall_mem_cons.2 ⟨by decide, List.forall_mem_singleton.2 hd⟩
    refine ⟨List.forall_mem_append.2 ⟨h.lines, hlines⟩, ?_, ?_⟩
    · rw [hsplit]
      exact (h.quotes.concat fun hquote => absurd hquote (by decide)).concat fun _ => hodd
    · -- the second of two backslashes makes their number even again
      rw [hsplit, slashesAtEnd_concat]
      split
      · omega
      · rfl

theorem Escaped.flatMap (h : Escaped s) (text : List Char) : Escaped (s ++ text.flatMap escapeChar) := by
  induction text generalizing s with
  | nil => simpa using h
  | cons c text ih =>
    rw [List.flatMap_cons, ← List.append_assoc]
    exact ih (h.append (writes_escapeChar c))

theorem escaped_escapeChars (s : List Char) : Escaped (escapeChars s) := by
  cases s with
  | nil => exact escaped_nil
  | cons c s =>
    rw [escapeChars_cons]
    exact (escaped_nil.append (writes_escapeFirst c)).flatMap s

/-! ## Texts -/

/-- A text with something in the place of a character. -/
def replaceAll (old : Char) (new s : List Char) : List Char :=
  s.flatMap fun c => if c = old then new else [c]

/-- The escapes may be put in one after the other, if that of the backslash is the first. -/
theorem flatMap_escapeChar_eq (s : List Char) :
    s.flatMap escapeChar =
      replaceAll '\t' ['\\', 't'] (replaceAll '\n' ['\\', 'n'] (replaceAll '"' ['\\', '"']
        (replaceAll '\'' ['\\', '\''] (replaceAll '\\' ['\\', '\\'] s)))) := by
  unfold replaceAll
  rw [List.flatMap_assoc, List.flatMap_assoc, List.flatMap_assoc, List.flatMap_assoc]
  congr 1
  funext c
  unfold escapeChar
  split
  case h_6 hslash hsingle hdouble hfeed htab =>
    rw [if_neg hslash, List.flatMap_singleton, if_neg hsingle, List.flatMap_singleton, if_neg hdouble,
      List.flatMap_singleton, if_neg hfeed, List.flatMap_singleton, if_neg htab]
  all_goals rfl

/-- **A text is written so that it is taken as it is.** What undoes the escapes of a field gives it back, so
no two texts are written in the same way. What is written holds no line feed and no TAB, begins with no mark
of a reference, and the number of backslashes right before each quote in it is odd. -/
theorem escapeText_undone (text : String) :
    unescape (escapeText text) = text ∧
    (∀ c ∈ (escapeText text).toList, c ≠ '\n' ∧ c ≠ '\t') ∧
    (∀ c ∈ (escapeText text).toList.head?, c ≠ '@' ∧ c ≠ '?') ∧
    QuotesEscaped (escapeText text).toList ∧
    ∀ other, escapeText other = escapeText text ↔ other = text := by
  have hchars : (escapeText text).toList = escapeChars text.toList := String.toList_ofList
  have hescaped := escaped_escapeChars text.toList
  rw [hchars]
  refine ⟨unescape_escapeText text, hescaped.lines, fun c hc => ?_, hescaped.quotes, fun other => ?_⟩
  · exact not_or.1 (head?_escapeChars text.toList c hc)
  · constructor
    · intro hsame
      rw [← unescape_escapeText other, hsame, unescape_escapeText]
    · rintro rfl
      rfl

end BlockApp.Layout
