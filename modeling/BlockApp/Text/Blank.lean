import BlockApp.Text.Ranges

/-!
# Blank characters

The blank characters of the section format: the Unicode white space and the four separators U+001C
to U+001F. A line that holds nothing else is skipped, headers and tags are trimmed of them, and they
separate the words of a parameter list.

* `trim` drops blanks at both ends, `trimEnd` a given character at the end only.
* `words` recurses on a text that gets shorter with every word: `dropWhile` never lengthens.
-/

namespace BlockApp.Text

/-- The runs of blank code points. -/
def blankRuns : List (Nat × Nat) :=
  [(0x9, 0xD), (0x1C, 0x20), (0x85, 0x85), (0xA0, 0xA0), (0x1680, 0x1680), (0x2000, 0x200A),
   (0x2028, 0x2029), (0x202F, 0x202F), (0x205F, 0x205F), (0x3000, 0x3000)]

/-- Whether a character is blank. -/
def isBlank (c : Char) : Bool := inRuns blankRuns c.toNat

/-- Core's ASCII white space is blank. -/
theorem isBlank_of_isWhitespace {c : Char} (h : c.isWhitespace = true) : isBlank c = true := by
  simp only [Char.isWhitespace, Bool.or_eq_true, decide_eq_true_eq] at h
  rcases h with ((rfl | rfl) | rfl) | rfl <;> decide

/-- Whether a text holds nothing but blanks. The empty text does. -/
def allBlank (s : List Char) : Bool := s.all isBlank

/-- The text without the characters satisfying `p` at its end. -/
def dropEndWhile (p : Char → Bool) (s : List Char) : List Char :=
  (s.reverse.dropWhile p).reverse

/-- The text without blanks at either end. -/
def trim (s : List Char) : List Char :=
  dropEndWhile isBlank (s.dropWhile isBlank)

@[simp] theorem dropEndWhile_nil (p : Char → Bool) : dropEndWhile p [] = [] := rfl

@[simp] theorem trim_nil : trim [] = [] := rfl

/-- A text without the character at its end keeps all of it. -/
theorem dropEndWhile_append_singleton {p : Char → Bool} {s : List Char} {c : Char}
    (h : p c = false) : dropEndWhile p (s ++ [c]) = s ++ [c] := by
  simp [dropEndWhile, h]

/-- The maximal runs of characters that are not blank, in order. -/
def words (s : List Char) : List (List Char) :=
  match h : s.dropWhile isBlank with
  | [] => []
  | c :: rest =>
    have : (rest.dropWhile (!isBlank ·)).length < s.length := by
      have h₁ := (List.dropWhile_suffix isBlank (l := s)).length_le
      have h₂ := (List.dropWhile_suffix (!isBlank ·) (l := rest)).length_le
      rw [h, List.length_cons] at h₁
      omega
    (c :: rest.takeWhile (!isBlank ·)) :: words (rest.dropWhile (!isBlank ·))
  termination_by s.length

end BlockApp.Text
