import BlockApp.Cell.Parameters
import BlockApp.Proofs.Outcome
import BlockApp.Proofs.Section.Color
import BlockApp.Proofs.Text.Split

/-!
# What a parameter cell is

The grammar of parameter cells, said without a reader. A rule relates a part of a cell to the text or the
expression that it stands for.

* `IsText` — escaped text
* `ItemKind.Makes` — the expressions that the texts of a kind stand for
* `IsItem`, `IsCell` — items of any depth, and lists of them
* `HasLongColor` — the cells with a number that is too long to be a colour

The readers of texts, kinds and values are compared with their rules here. Escaped text goes up to an
unescaped `,` or `]` or the end, so what stands after it decides where it ends: `EndsText`.
-/

namespace BlockApp

namespace Text

/-! ## Lengths of numerals -/

theorem length_withoutFinalNewline_le (s : List Char) : (withoutFinalNewline s).length ≤ s.length := by
  unfold withoutFinalNewline
  split
  · exact (List.dropLast_prefix s).length_le
  · exact Nat.le_refl _

theorem length_of_mapM_digitValue? {s : List Char} {digits : List Nat}
    (h : s.mapM digitValue? = some digits) : digits.length = s.length := by
  induction s generalizing digits with
  | nil =>
    cases h
    rfl
  | cons c s ih =>
    simp only [List.mapM_cons, Option.bind_eq_bind, Option.bind_eq_some_iff, Option.pure_def,
      Option.some.injEq] at h
    obtain ⟨d, -, rest, hrest, rfl⟩ := h
    rw [List.length_cons, List.length_cons, ih hrest]

theorem length_of_digits? {s : List Char} {digits : List Nat} (h : digits? s = some digits) :
    digits.length = s.length := by
  unfold digits? at h
  split at h
  · cases h
  · exact length_of_mapM_digitValue? h

/-- A numeral has no more digits than characters. -/
theorem Numeral.length_digits_le {s : List Char} {numeral : Numeral} (h : read? s = some numeral) :
    numeral.digits.length ≤ s.length := by
  have hline := length_withoutFinalNewline_le s
  unfold read? at h
  split at h
  · next rest hsign =>
    obtain ⟨digits, hdigits, rfl⟩ := Option.map_eq_some_iff.1 h
    rw [hsign, List.length_cons] at hline
    exact Nat.le_of_lt (length_of_digits? hdigits ▸ hline)
  · obtain ⟨digits, hdigits, rfl⟩ := Option.map_eq_some_iff.1 h
    exact length_of_digits? hdigits ▸ hline

end Text

namespace Cell

variable {s w rest text : List Char} {letters : List Char} {e : Expr} {cause : Text.TooManyDigits}

/-! ## Escaped text -/

/-- Escaped text, and the text that it stands for. -/
inductive IsText : List Char → List Char → Prop where
  | nil : IsText [] []
  | plain {c : Char} {s text : List Char} (hc : c ∉ [',', '[', ']', '\\']) (h : IsText s text) :
      IsText (c :: s) (c :: text)
  | escaped {c : Char} {s text : List Char} (h : IsText s text) :
      IsText ('\\' :: c :: s) (Text.escapedChar c :: text)

/-- Whether escaped text ends before this. -/
def EndsText (rest : List Char) : Prop := ∀ c ∈ rest.head?, isTerminator c = true

theorem endsText_nil : EndsText [] := by simp [EndsText]

theorem endsText_cons {c : Char} (h : isTerminator c = true) (rest : List Char) : EndsText (c :: rest) := by
  simpa [EndsText] using h

theorem isTerminator_eq_false {c : Char} (h : c ∉ [',', '[', ']', '\\']) : isTerminator c = false := by
  simp only [List.mem_cons, List.not_mem_nil, or_false, not_or] at h
  simp [isTerminator, h]

theorem readText_cons {c : Char} (h : c ≠ '\\') :
    readText (c :: s) =
      if isTerminator c then .ok ([], ⟨c :: s, Nat.le_refl _⟩)
      else if c = '[' then faultAt .bracketInText (c :: s)
      else do
        let (text, ⟨rest, h⟩) ← readText s
        return (c :: text, ⟨rest, Nat.le_succ_of_le h⟩) :=
  readText.eq_4 c s (fun hc => absurd hc h) fun _ _ hc => absurd hc h

/-- Every text begins with escaped text, and this ends in the text, or there is a `[` or a backslash at the
very end behind it. -/
theorem exists_isText_append (s : List Char) :
    ∃ w text rest, IsText w text ∧ s = w ++ rest ∧
      (EndsText rest ∨ (∃ after, rest = '[' :: after) ∨ rest = ['\\']) := by
  induction s using Text.unescapeChars.induct with
  | case1 => exact ⟨[], [], [], .nil, rfl, .inl endsText_nil⟩
  | case2 c s ih =>
    obtain ⟨w, text, rest, hw, rfl, hrest⟩ := ih
    exact ⟨'\\' :: c :: w, _, rest, .escaped hw, rfl, hrest⟩
  | case3 c s hpair ih =>
    by_cases hc : c ∈ [',', '[', ']', '\\']
    · refine ⟨[], [], c :: s, .nil, rfl, ?_⟩
      simp only [List.mem_cons, List.not_mem_nil, or_false] at hc
      rcases hc with rfl | rfl | rfl | rfl
      · exact .inl (endsText_cons rfl s)
      · exact .inr (.inl ⟨s, rfl⟩)
      · exact .inl (endsText_cons rfl s)
      · cases s with
        | nil => exact .inr (.inr rfl)
        | cons d s => exact absurd rfl (hpair d s rfl)
    · obtain ⟨w, text, rest, hw, rfl, hrest⟩ := ih
      exact ⟨c :: w, c :: text, rest, .plain hc hw, rfl, hrest⟩

/-- What is left of a text is left of it too if something stands before it. -/
def NotLonger.after (w : List Char) (r : NotLonger s) : NotLonger (w ++ s) :=
  ⟨r.1, Nat.le_trans r.2 (List.length_append ▸ Nat.le_add_left _ _)⟩

/-- Escaped text is read, and then whatever is read behind it. -/
theorem readText_append_eq_map (hw : IsText w text) (rest : List Char) :
    readText (w ++ rest) =
      (readText rest).map fun found => (text ++ found.1, NotLonger.after w found.2) := by
  induction hw with
  | nil => cases hread : readText rest <;> exact hread
  | @plain c w text hc hw ih =>
    have hne : c ≠ '\\' ∧ c ≠ '[' := by
      simp only [List.mem_cons, List.not_mem_nil, or_false, not_or] at hc
      exact ⟨hc.2.2.2, hc.2.1⟩
    show readText (c :: (w ++ rest)) = _
    rw [readText_cons hne.1, isTerminator_eq_false hc, if_neg Bool.false_ne_true, if_neg hne.2, ih]
    cases readText rest <;> rfl
  | @escaped c w text hw ih =>
    show readText ('\\' :: c :: (w ++ rest)) = _
    rw [readText, ih]
    cases readText rest <;> rfl

/-- Escaped text is read up to where it ends. -/
theorem readText_append (hw : IsText w text) (hrest : EndsText rest) :
    ∃ h, readText (w ++ rest) = .ok (text, ⟨rest, h⟩) := by
  have hstop : readText rest = .ok ([], ⟨rest, Nat.le_refl _⟩) := by
    cases rest with
    | nil => rfl
    | cons c rest =>
      have hend : isTerminator c = true := hrest c rfl
      have hbackslash : c ≠ '\\' := by
        rintro rfl
        exact absurd hend (by decide)
      rw [readText_cons hbackslash, if_pos hend]
  refine ⟨(NotLonger.after w ⟨rest, Nat.le_refl _⟩).2, ?_⟩
  rw [readText_append_eq_map hw, hstop, Except.map, List.append_nil]
  rfl

/-- A bracket behind escaped text is a problem at its place. -/
theorem readText_append_bracket (hw : IsText w text) (after : List Char) :
    readText (w ++ '[' :: after) = .error (.problem .bracketInText (after.length + 1)) := by
  rw [readText_append_eq_map hw, readText_cons (by decide)]
  rfl

/-- A backslash behind escaped text is a problem at the end if nothing comes after it. -/
theorem readText_append_backslash (hw : IsText w text) :
    readText (w ++ ['\\']) = .error (.problem .danglingEscape 0) := by
  rw [readText_append_eq_map hw]
  rfl

theorem isText_of_readText {r : NotLonger s} (h : readText s = .ok (text, r)) :
    ∃ w, IsText w text ∧ s = w ++ r.1 ∧ EndsText r.1 := by
  obtain ⟨w, found, rest, hw, rfl, hends | ⟨after, rfl⟩ | rfl⟩ := exists_isText_append s
  · obtain ⟨_, hread⟩ := readText_append hw hends
    cases hread.symm.trans h
    exact ⟨w, hw, rfl, hends⟩
  · cases (readText_append_bracket hw after).symm.trans h
  · cases (readText_append_backslash hw).symm.trans h

/-- **What is read as text** is the escaped text up to where it ends. -/
theorem readText_eq_ok_iff {r : NotLonger s} :
    readText s = .ok (text, r) ↔ ∃ w, IsText w text ∧ s = w ++ r.1 ∧ EndsText r.1 := by
  constructor
  · exact isText_of_readText
  · obtain ⟨rest, hless⟩ := r
    rintro ⟨w, hw, hs : s = w ++ rest, hends⟩
    subst hs
    exact (readText_append hw hends).2

/-- There is no text to read exactly if a `[` or a backslash at the very end comes behind escaped text. -/
theorem readText_eq_error_iff {fault : Fault} :
    readText s = .error fault ↔ ∃ w text, IsText w text ∧
      ((∃ after, s = w ++ '[' :: after ∧ fault = .problem .bracketInText (after.length + 1)) ∨
        s = w ++ ['\\'] ∧ fault = .problem .danglingEscape 0) := by
  constructor
  · intro h
    obtain ⟨w, text, rest, hw, rfl, hends | ⟨after, rfl⟩ | rfl⟩ := exists_isText_append s
    · obtain ⟨_, hread⟩ := readText_append hw hends
      cases hread.symm.trans h
    · cases (readText_append_bracket hw after).symm.trans h
      exact ⟨w, text, hw, .inl ⟨after, rfl, rfl⟩⟩
    · cases (readText_append_backslash hw).symm.trans h
      exact ⟨w, text, hw, .inr ⟨rfl, rfl⟩⟩
  · rintro ⟨w, text, hw, ⟨after, rfl, rfl⟩ | ⟨rfl, rfl⟩⟩
    · exact readText_append_bracket hw after
    · exact readText_append_backslash hw

theorem readText_ne_tooManyDigits : readText s ≠ .error (.tooManyDigits cause) := by
  intro h
  obtain ⟨_, _, -, ⟨_, -, hfault⟩ | ⟨-, hfault⟩⟩ := readText_eq_error_iff.1 h
  · cases hfault
  · cases hfault

theorem IsText.length_le (h : IsText s text) : text.length ≤ s.length := by
  induction h with
  | nil => exact Nat.le_refl _
  | plain _ _ ih => exact Nat.succ_le_succ ih
  | escaped _ ih => exact Nat.le_succ_of_le (Nat.succ_le_succ ih)

/-! ## Kinds -/

/-- The letter of a kind. -/
def ItemKind.letter : ItemKind → Char
  | .literal .string => 's'
  | .literal .number => 'n'
  | .literal .boolean => 'b'
  | .literal .color => 'c'
  | .literal .enum => 'e'
  | .literal .resource => 'r'
  | .reference .variable => 'v'
  | .reference .view => 'w'
  | .reference .argument => 'a'

theorem ofLetters?_eq_some_iff {kind : ItemKind} :
    ItemKind.ofLetters? letters = some kind ↔ letters = [kind.letter] := by
  constructor
  · intro h
    unfold ItemKind.ofLetters? at h
    split at h <;> cases h <;> rfl
  · rintro rfl
    rcases kind with ⟨⟨⟩⟩ | ⟨⟨⟩⟩ <;> rfl

theorem endsKind_letter (kind : ItemKind) : endsKind kind.letter = false := by
  rcases kind with ⟨⟨⟩⟩ | ⟨⟨⟩⟩ <;> rfl

theorem eq_of_readKind {r : Shorter s} (h : readKind s = .ok (letters, r)) :
    s = letters ++ ':' :: r.1 := by
  unfold readKind at h
  split at h
  · next rest hrest =>
    cases h
    rw [← hrest, List.takeWhile_append_dropWhile]
  · cases h

theorem readKind_letter (kind : ItemKind) (s : List Char) :
    ∃ h, readKind (kind.letter :: ':' :: s) = .ok ([kind.letter], ⟨s, h⟩) := by
  refine ⟨by simp only [List.length_cons]; omega, ?_⟩
  rcases kind with ⟨⟨⟩⟩ | ⟨⟨⟩⟩ <;> rfl

theorem readKind_ne_tooManyDigits : readKind s ≠ .error (.tooManyDigits cause) := by
  intro h
  unfold readKind at h
  split at h <;> cases h

/-! ## Values -/

/-- What is stored for the text of a literal: the text itself if it is valid, and the digits of a
colour. -/
def Stored : LiteralType → List Char → List Char → Prop
  | .string, text, value => value = text
  | .number, text, value => Text.isNumber text = true ∧ value = text
  | .boolean, text, value => (text = "true".toList ∨ text = "false".toList) ∧ value = text
  | .color, text, value => Color.normalize text = .ok (some value)
  | .enum, text, value => Text.isFlagList text = true ∧ value = text
  | .resource, text, value => Text.isIdentifier text = true ∧ value = text

theorem checkLiteral_eq_ok_iff {type : LiteralType} {value : List Char} :
    checkLiteral type text rest = .ok value ↔ Stored type text value := by
  have hcheck : ∀ {valid : Prop} [Decidable valid] {problem : CellProblem},
      (if valid then .ok text else faultAt problem rest) = Except.ok value ↔ valid ∧ value = text := by
    intro valid _ problem
    by_cases hvalid : valid <;> simp [hvalid, faultAt, eq_comm]
  cases type with
  | string => simp [checkLiteral, Stored, eq_comm]
  | number | boolean | enum | resource => exact hcheck
  | color =>
    rw [checkLiteral, Stored]
    rcases Color.normalize text with cause | (_ | digits) <;> simp [faultAt]

/-- A number that is too long is the only fault that is not reported at a place of the cell. -/
theorem checkLiteral_eq_tooManyDigits_iff {type : LiteralType} :
    checkLiteral type text rest = .error (.tooManyDigits cause) ↔
      type = .color ∧ Color.normalize text = .error cause := by
  have hcheck : ∀ {valid : Prop} [Decidable valid] {problem : CellProblem},
      (if valid then .ok text else faultAt problem rest : Except Fault (List Char)) ≠
        .error (.tooManyDigits cause) := by
    intro valid _ problem
    by_cases hvalid : valid <;> simp [hvalid, faultAt]
  cases type with
  | string => simp [checkLiteral]
  | number | boolean | enum | resource => exact iff_of_false hcheck fun h => nomatch h.1
  | color =>
    rw [checkLiteral]
    rcases Color.normalize text with cause | (_ | digits) <;> simp [faultAt]

/-- What a text of a kind stands for. -/
def ItemKind.Makes : ItemKind → List Char → Expr → Prop
  | .literal type, text, e => ∃ value, Stored type text value ∧ e = .literal type (String.ofList value)
  | .reference kind, text, e =>
    Text.isIdentifier text = true ∧ e = .reference kind (String.ofList text)

theorem makeItem_eq_ok_iff :
    makeItem letters text rest = .ok e ↔ ∃ kind : ItemKind, letters = [kind.letter] ∧ kind.Makes text e := by
  simp only [← ofLetters?_eq_some_iff]
  unfold makeItem
  split
  · next type hkind =>
    simp only [hkind, Option.some.injEq, exists_eq_left', ItemKind.Makes, Except.bind_eq_ok_iff,
      checkLiteral_eq_ok_iff, Except.pure_eq_ok_iff]
    exact exists_congr fun value => and_congr_right fun _ => eq_comm
  · next kind hkind =>
    simp only [hkind, Option.some.injEq, exists_eq_left', ItemKind.Makes]
    split
    · next hname => simp [hname, eq_comm]
    · next hname => simp [hname, faultAt]
  · next hkind => simp [hkind, faultAt]

theorem makeItem_eq_tooManyDigits (h : makeItem letters text rest = .error (.tooManyDigits cause)) :
    letters = ['c'] ∧ Color.normalize text = .error cause := by
  unfold makeItem at h
  split at h
  · next type hkind =>
    simp only [Except.bind_eq_error_iff, Except.pure_ne_error, and_false, exists_false, or_false,
      checkLiteral_eq_tooManyDigits_iff] at h
    obtain ⟨rfl, hcolor⟩ := h
    exact ⟨ofLetters?_eq_some_iff.1 hkind, hcolor⟩
  · split at h <;> cases h
  · cases h

/-! ## Items -/

/-- An item, and the expression that it stands for: a kind letter, `:` and text, or a call of a tag that
is not blank, with its items after it. -/
inductive IsItem : List Char → Expr → Prop where
  | plain {kind : ItemKind} {s text : List Char} {e : Expr} (hs : IsText s text)
      (he : kind.Makes text e) : IsItem (kind.letter :: ':' :: s) e
  | call {tag text : List Char} {items : List (List Char × Expr)} (htag : IsText tag text)
      (hblank : Text.trim text ≠ []) (hitems : ∀ item ∈ items, IsItem item.1 item.2) :
      IsItem ('[' :: Text.joinWith ',' (tag :: items.map (·.1)) ++ [']'])
        (.call (String.ofList (Text.trim text)) (items.map (·.2)))

/-- A cell, and the expressions that it stands for: it is empty and stands for none, or is items with
commas between them. -/
def IsCell (cell : List Char) (es : List Expr) : Prop :=
  cell = [] ∧ es = [] ∨
    ∃ items : List (List Char × Expr), items ≠ [] ∧ (∀ item ∈ items, IsItem item.1 item.2) ∧
      cell = Text.joinWith ',' (items.map (·.1)) ∧ es = items.map (·.2)

/-- What can stand before an item: items with commas after them, and the openings of calls. -/
inductive Opens : List Char → Prop where
  | start : Opens []
  | next {before item : List Char} {e : Expr} (h : Opens before) (hitem : IsItem item e) :
      Opens (before ++ item ++ [','])
  | inside {before tag text : List Char} (h : Opens before) (htag : IsText tag text)
      (hblank : Text.trim text ≠ []) : Opens (before ++ '[' :: tag ++ [','])

/-- Whether an item in a cell is a colour that is written as a number of too many digits. -/
def HasLongColor (cell : List Char) : Prop :=
  ∃ before s after text numeral, Opens before ∧ IsText s text ∧ EndsText after ∧
    cell = before ++ 'c' :: ':' :: s ++ after ∧
    Text.Numeral.read? text = some numeral ∧ Text.maxDigits < numeral.digits.length

/-- Only long cells have one. -/
theorem HasLongColor.lt_length {cell : List Char} (h : HasLongColor cell) :
    Text.maxDigits < cell.length := by
  obtain ⟨before, s, after, text, numeral, -, hs, -, rfl, hnumeral, hlong⟩ := h
  calc
    Text.maxDigits < numeral.digits.length := hlong
    _ ≤ text.length := Text.Numeral.length_digits_le hnumeral
    _ ≤ s.length := hs.length_le
    _ ≤ _ := by simp only [List.length_append, List.length_cons]; omega

theorem exists_numeral_of_normalize (h : Color.normalize text = .error cause) :
    ∃ numeral, Text.Numeral.read? text = some numeral ∧ Text.maxDigits < numeral.digits.length := by
  unfold Color.normalize at h
  split at h
  · cases h
  · split at h
    · cases h
    · next numeral hnumeral =>
      simp only [Except.bind_eq_error_iff, Except.pure_ne_error, and_false, exists_false, or_false,
        Text.Numeral.value] at h
      split at h
      · next hlong => exact ⟨numeral, hnumeral, hlong⟩
      · cases h

theorem exists_value_eq_error_iff {numeral : Text.Numeral} :
    (∃ cause, numeral.value = .error cause) ↔ Text.maxDigits < numeral.digits.length := by
  unfold Text.Numeral.value
  split
  · next hlong => exact iff_of_true ⟨_, rfl⟩ hlong
  · next hshort => exact iff_of_false nofun hshort

theorem exists_normalize_eq_error_iff :
    (∃ cause, Color.normalize text = .error cause) ↔
      ∃ numeral, Text.Numeral.read? text = some numeral ∧ Text.maxDigits < numeral.digits.length := by
  constructor
  · rintro ⟨cause, h⟩
    exact exists_numeral_of_normalize h
  · rintro ⟨numeral, hnumeral, hlong⟩
    obtain ⟨cause, hvalue⟩ := exists_value_eq_error_iff.2 hlong
    -- a numeral is not written with `#`
    have hhex : Color.hexDigits? text = none := by
      unfold Color.hexDigits?
      split
      · rw [Text.Numeral.read?_hash] at hnumeral
        cases hnumeral
      · rfl
    refine ⟨cause, ?_⟩
    rw [Color.normalize, hhex]
    simp only [hnumeral, hvalue]
    rfl

end Cell

end BlockApp
