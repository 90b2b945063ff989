import BlockApp.Proofs.Cell.Grammar
import BlockApp.Proofs.Layout.Escape
import Mathlib.Data.List.Induction

/-!
# Where escapes stand

The grammar of escaped text goes from one escape to the next. Here the same is said of a character by what
stands right before it: it belongs to an escape if the number of backslashes there is odd. Cells and fields
are decoded by two readers, which differ in what ends a text and in what becomes of a backslash at its end.
On what the reader of cells takes, they agree.

* `Text.EndsInEscape` — the texts behind which a character is escaped
* `MarksEscaped`, `FirstMark` — the marks of a text that are escaped, and the first that is not
* `isText_iff_marksEscaped` — escaped text and what it stands for, by the places of its marks
* `readText_decodes` — how far text in a cell is read, and what it is decoded to
-/

namespace BlockApp

open Layout (slashesAtEnd slashesAtEnd_concat)

namespace Text

variable {before s : List Char} {c : Char}

/-! ## Escapes -/

theorem toList_eq_unescapeChars_iff {s text : String} :
    text.toList = unescapeChars s.toList ↔ text = unescape s := by
  rw [unescape, ← String.toList_inj, String.toList_ofList]

/-- Whether a text ends inside an escape: the number of backslashes at its end is odd. -/
def EndsInEscape (s : List Char) : Prop := slashesAtEnd s % 2 = 1

instance (s : List Char) : Decidable (EndsInEscape s) := inferInstanceAs (Decidable (_ = 1))

theorem not_endsInEscape_nil : ¬EndsInEscape [] := by decide

/-- Only a backslash begins an escape, and it does so outside escapes only. -/
theorem endsInEscape_concat : EndsInEscape (s ++ [c]) ↔ c = '\\' ∧ ¬EndsInEscape s := by
  unfold EndsInEscape
  rw [slashesAtEnd_concat]
  by_cases hslash : c = '\\'
  · rw [if_pos hslash, and_iff_right hslash]
    omega
  · rw [if_neg hslash]
    exact iff_of_false (by decide) fun h => hslash h.1

example : EndsInEscape "a\\".toList ∧ ¬EndsInEscape "a\\\\".toList := by decide

theorem not_endsInEscape_singleton (h : c ≠ '\\') : ¬EndsInEscape [c] := by
  intro hends
  exact h (endsInEscape_concat (s := []).1 hends).1

/-- The character behind a backslash ends the escape, whatever it is. -/
theorem not_endsInEscape_pair (c : Char) : ¬EndsInEscape ['\\', c] := by
  intro hends
  exact (endsInEscape_concat (s := ['\\']).1 hends).2 (by decide)

/-- Outside escapes, what came before makes no difference. -/
theorem endsInEscape_append (h : ¬EndsInEscape before) :
    EndsInEscape (before ++ s) ↔ EndsInEscape s := by
  induction s using List.reverseRecOn with
  | nil =>
    rw [List.append_nil]
    exact iff_of_false h not_endsInEscape_nil
  | append_singleton s c ih =>
    rw [← List.append_assoc, endsInEscape_concat, endsInEscape_concat, ih]

theorem EndsInEscape.exists_eq_concat (h : EndsInEscape s) :
    ∃ before, s = before ++ ['\\'] ∧ ¬EndsInEscape before := by
  rcases List.eq_nil_or_concat s with rfl | ⟨before, c, rfl⟩
  · exact absurd h not_endsInEscape_nil
  · rw [List.concat_eq_append] at h ⊢
    obtain ⟨rfl, hbefore⟩ := endsInEscape_concat.1 h
    exact ⟨before, rfl, hbefore⟩

end Text

namespace Cell

open Text

variable {s before after text : List Char} {mark c : Char}

/-! ## Marks -/

/-- Whether each `,`, `[` and `]` of a text is escaped. -/
def MarksEscaped (s : List Char) : Prop :=
  ∀ before mark after, s = before ++ mark :: after → mark ∈ [',', '[', ']'] → EndsInEscape before

/-- Whether `mark` is the first `,`, `[` or `]` of a text that is not escaped, between `before` and `after`. -/
structure FirstMark (s before : List Char) (mark : Char) (after : List Char) : Prop where
  split : s = before ++ mark :: after
  mark_mem : mark ∈ [',', '[', ']']
  unescaped : ¬EndsInEscape before
  first : MarksEscaped before

theorem marksEscaped_nil : MarksEscaped [] := by
  intro before mark after hsplit
  exact absurd hsplit (by simp)

theorem marksEscaped_concat :
    MarksEscaped (s ++ [c]) ↔ MarksEscaped s ∧ (c ∈ [',', '[', ']'] → EndsInEscape s) :=
  forall_split_concat

theorem marksEscaped_singleton (h : c ∉ [',', '[', ']']) : MarksEscaped [c] :=
  marksEscaped_concat.2 ⟨marksEscaped_nil, fun hc => absurd hc h⟩

theorem marksEscaped_pair (c : Char) : MarksEscaped ['\\', c] :=
  marksEscaped_concat.2 ⟨marksEscaped_singleton (by decide), fun _ => by decide⟩

/-- Outside escapes, the marks before and the marks behind are escaped or not on their own. -/
theorem marksEscaped_append (h : ¬EndsInEscape before) :
    MarksEscaped (before ++ s) ↔ MarksEscaped before ∧ MarksEscaped s := by
  induction s using List.reverseRecOn with
  | nil => simp [marksEscaped_nil]
  | append_singleton s c ih =>
    rw [← List.append_assoc, marksEscaped_concat, marksEscaped_concat, ih, endsInEscape_append h,
      and_assoc]

theorem isTerminator_iff : isTerminator c = true ↔ c = ',' ∨ c = ']' := by simp [isTerminator]

theorem mem_marks_of_isTerminator (h : isTerminator c = true) : c ∈ [',', '[', ']'] := by
  rcases isTerminator_iff.1 h with rfl | rfl
  · decide
  · decide

/-- One mark that is not escaped is enough. -/
theorem not_marksEscaped_of_mark (h : ¬EndsInEscape before) (hmark : mark ∈ [',', '[', ']']) :
    ¬MarksEscaped (before ++ mark :: after) := by
  intro hall
  exact h (hall before mark after rfl hmark)

/-! ## Escaped text -/

theorem IsText.marksEscaped (h : IsText s text) :
    MarksEscaped s ∧ ¬EndsInEscape s ∧ text = unescapeChars s := by
  induction h with
  | nil => exact ⟨marksEscaped_nil, not_endsInEscape_nil, rfl⟩
  | @plain c s text hc _ ih =>
    obtain ⟨hmarks, hends, rfl⟩ := ih
    have hslash : c ≠ '\\' := by
      rintro rfl
      exact hc (by decide)
    have hmark : c ∉ [',', '[', ']'] := fun hmem => hc (List.mem_append_left ['\\'] hmem)
    have hclosed := not_endsInEscape_singleton hslash
    refine ⟨?_, ?_, (unescapeChars_cons hslash s).symm⟩
    · exact (marksEscaped_append hclosed).2 ⟨marksEscaped_singleton hmark, hmarks⟩
    · exact (endsInEscape_append hclosed).not.2 hends
  | @escaped c s text _ ih =>
    obtain ⟨hmarks, hends, rfl⟩ := ih
    have hclosed := not_endsInEscape_pair c
    refine ⟨?_, ?_, (unescapeChars_escape c s).symm⟩
    · exact (marksEscaped_append hclosed).2 ⟨marksEscaped_pair c, hmarks⟩
    · exact (endsInEscape_append hclosed).not.2 hends

/-- **Escaped text by the places of its marks.** All of them are escaped and no escape is open at the end, and
what it stands for is what it is decoded to as a field. -/
theorem isText_iff_marksEscaped :
    IsText s text ↔ MarksEscaped s ∧ ¬EndsInEscape s ∧ text = unescapeChars s := by
  constructor
  · exact IsText.marksEscaped
  · rintro ⟨hmarks, hends, rfl⟩
    obtain ⟨w, found, rest, hw, rfl, hrest⟩ := exists_isText_append s
    obtain ⟨-, hclosed, -⟩ := hw.marksEscaped
    -- what could stand behind the escaped text is a mark or an open escape
    obtain rfl : rest = [] := by
      rcases hrest with hstop | ⟨after, rfl⟩ | rfl
      · cases rest with
        | nil => rfl
        | cons c after =>
          have hmark := mem_marks_of_isTerminator (hstop c rfl)
          exact absurd hmarks (not_marksEscaped_of_mark hclosed hmark)
      · exact absurd hmarks (not_marksEscaped_of_mark hclosed (by decide))
      · exact absurd (endsInEscape_concat.2 ⟨rfl, hclosed⟩) hends
    rw [List.append_nil]
    obtain ⟨-, -, rfl⟩ := hw.marksEscaped
    exact hw

theorem firstMark_iff_isText :
    FirstMark s before mark after ∧ text = unescapeChars before ↔
      s = before ++ mark :: after ∧ mark ∈ [',', '[', ']'] ∧ IsText before text := by
  rw [isText_iff_marksEscaped]
  constructor
  · rintro ⟨⟨hsplit, hmark, hends, hmarks⟩, htext⟩
    exact ⟨hsplit, hmark, hmarks, hends, htext⟩
  · rintro ⟨hsplit, hmark, hmarks, hends, htext⟩
    exact ⟨⟨hsplit, hmark, hends, hmarks⟩, htext⟩

/-- With an escape open at its end, a text whose marks are escaped is escaped text and a backslash. -/
theorem exists_isText_backslash_iff :
    (∃ before text, IsText before text ∧ s = before ++ ['\\']) ↔ MarksEscaped s ∧ EndsInEscape s := by
  constructor
  · rintro ⟨before, text, hbefore, rfl⟩
    obtain ⟨hmarks, hends, -⟩ := hbefore.marksEscaped
    exact ⟨marksEscaped_concat.2 ⟨hmarks, fun hmark => absurd hmark (by decide)⟩,
      endsInEscape_concat.2 ⟨rfl, hends⟩⟩
  · rintro ⟨hmarks, hends⟩
    obtain ⟨before, rfl, hbefore⟩ := hends.exists_eq_concat
    exact ⟨before, _, isText_iff_marksEscaped.2 ⟨(marksEscaped_concat.1 hmarks).1, hbefore, rfl⟩, rfl⟩

/-! ## Reading -/

theorem readText_to_end_iff :
    (∃ r, readText s = .ok (text, r) ∧ r.1 = []) ↔
      MarksEscaped s ∧ ¬EndsInEscape s ∧ text = unescapeChars s := by
  rw [← isText_iff_marksEscaped]
  constructor
  · rintro ⟨r, hread, hend⟩
    obtain ⟨w, hw, hsplit, -⟩ := isText_of_readText hread
    rw [hend, List.append_nil] at hsplit
    exact hsplit ▸ hw
  · intro h
    exact ⟨⟨[], Nat.zero_le _⟩, readText_eq_ok_iff.2 ⟨s, h, (List.append_nil s).symm, endsText_nil⟩, rfl⟩

theorem readText_to_mark_iff :
    (∃ r, readText s = .ok (text, r) ∧ r.1 = mark :: after) ↔
      (mark = ',' ∨ mark = ']') ∧ ∃ before, FirstMark s before mark after ∧ text = unescapeChars before := by
  simp only [firstMark_iff_isText, ← isTerminator_iff]
  constructor
  · rintro ⟨r, hread, hrest⟩
    obtain ⟨w, hw, hsplit, hstop⟩ := isText_of_readText hread
    rw [hrest] at hsplit hstop
    have hmark : isTerminator mark = true := hstop mark rfl
    exact ⟨hmark, w, hsplit, mem_marks_of_isTerminator hmark, hw⟩
  · rintro ⟨hmark, before, rfl, -, hbefore⟩
    obtain ⟨hless, hread⟩ := readText_append hbefore (endsText_cons hmark after)
    exact ⟨_, hread, rfl⟩

theorem readText_eq_error_iff_firstMark {fault : Fault} :
    readText s = .error fault ↔
      (∃ before after, FirstMark s before '[' after ∧
        fault = .problem .bracketInText (after.length + 1)) ∨
      MarksEscaped s ∧ EndsInEscape s ∧ fault = .problem .danglingEscape 0 := by
  rw [readText_eq_error_iff]
  constructor
  · rintro ⟨w, text, hw, ⟨after, hsplit, hfault⟩ | ⟨hsplit, hfault⟩⟩
    · obtain ⟨hfirst, -⟩ := firstMark_iff_isText.2 ⟨hsplit, by decide, hw⟩
      exact .inl ⟨w, after, hfirst, hfault⟩
    · obtain ⟨hmarks, hends⟩ := exists_isText_backslash_iff.1 ⟨w, text, hw, hsplit⟩
      exact .inr ⟨hmarks, hends, hfault⟩
  · rintro (⟨before, after, hfirst, hfault⟩ | ⟨hmarks, hends, hfault⟩)
    · obtain ⟨hsplit, -, hbefore⟩ := firstMark_iff_isText.1 ⟨hfirst, rfl⟩
      exact ⟨before, _, hbefore, .inl ⟨after, hsplit, hfault⟩⟩
    · obtain ⟨before, text, hbefore, hsplit⟩ := exists_isText_backslash_iff.2 ⟨hmarks, hends⟩
      exact ⟨before, text, hbefore, .inr ⟨hsplit, hfault⟩⟩

/-- **Text in a cell is decoded as a field is.** It is read to the end exactly if all marks in it are escaped
and no escape is open at the end. Otherwise it is read up to the first mark that is not escaped, if that is
`,` or `]`, and what stands before the mark is decoded. There is nothing to read exactly if that mark is `[`,
or if there is none and an escape is open at the end; the fault is at the `[`, or at the end. -/
theorem readText_decodes (s : String) :
    (∀ text : String, (∃ r, readText s.toList = .ok (text.toList, r) ∧ r.1 = []) ↔
      MarksEscaped s.toList ∧ ¬EndsInEscape s.toList ∧ text = unescape s) ∧
    (∀ (text : String) (mark : Char) (after : List Char),
      (∃ r, readText s.toList = .ok (text.toList, r) ∧ r.1 = mark :: after) ↔
        (mark = ',' ∨ mark = ']') ∧
          ∃ before : String, FirstMark s.toList before.toList mark after ∧ text = unescape before) ∧
    ∀ fault, readText s.toList = .error fault ↔
      (∃ before after, FirstMark s.toList before '[' after ∧
        fault = .problem .bracketInText (after.length + 1)) ∨
      MarksEscaped s.toList ∧ EndsInEscape s.toList ∧ fault = .problem .danglingEscape 0 := by
  refine ⟨fun text => ?_, fun text mark after => ?_, fun fault => readText_eq_error_iff_firstMark⟩
  · rw [readText_to_end_iff, toList_eq_unescapeChars_iff]
  · rw [readText_to_mark_iff]
    refine and_congr_right fun _ => ⟨?_, ?_⟩
    · rintro ⟨before, hfirst, htext⟩
      refine ⟨String.ofList before, ?_, ?_⟩
      · rwa [String.toList_ofList]
      · rwa [← toList_eq_unescapeChars_iff, String.toList_ofList]
    · rintro ⟨before, hfirst, htext⟩
      exact ⟨before.toList, hfirst, toList_eq_unescapeChars_iff.2 htext⟩

end Cell

end BlockApp
