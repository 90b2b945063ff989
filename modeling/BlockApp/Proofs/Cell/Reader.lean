import BlockApp.Proofs.Cell.Grammar
import BlockApp.Section.Cells

/-!
# What is read from parameter cells

The reader takes exactly the cells that the grammar derives, and what it reads is what they stand for. All
other cells are refused at a place in the cell, numbers that are too long apart.

* `isItem_of_readItem` — soundness, by induction on the calls of the reader
* `readItem_append` — completeness, by induction on the derivation, with an arbitrary rest
* `readParameters_eq_ok_iff` — both, for a whole cell
* `exists_readParameters_eq_tooManyDigits_iff` — the one fault that is not at a place in the cell
-/

namespace BlockApp.Cell

variable {s w before rest text tag : List Char} {letters : List Char} {e : Expr} {es : List Expr}
  {items : List (List Char × Expr)} {cause : Text.TooManyDigits}

/-! ## One step -/

theorem readPlain_eq_ok_iff {r : Shorter s} :
    readPlain s = .ok (e, r) ↔
      ∃ letters afterKind text afterText, readKind s = .ok (letters, afterKind) ∧
        readText afterKind.1 = .ok (text, afterText) ∧ makeItem letters text afterText.1 = .ok e ∧
        afterText.1 = r.1 := by
  simp only [readPlain, Except.bind_eq_ok_iff, Except.pure_eq_ok_iff, Prod.exists, Prod.mk.injEq,
    Subtype.ext_iff]
  constructor
  · rintro ⟨letters, afterKind, hkind, text, afterText, htext, item, hitem, rfl, hrest⟩
    exact ⟨letters, afterKind, text, afterText, hkind, htext, hitem, hrest⟩
  · rintro ⟨letters, afterKind, text, afterText, hkind, htext, hitem, hrest⟩
    exact ⟨letters, afterKind, hkind, text, afterText, htext, e, hitem, rfl, hrest⟩

theorem readTag_eq_ok_iff {r : NotLonger s} :
    readTag s = .ok (tag, r) ↔
      ∃ text, readText s = .ok (text, r) ∧ tag = Text.trim text ∧ Text.trim text ≠ [] := by
  simp only [readTag, Except.bind_eq_ok_iff, Prod.exists]
  refine exists_congr fun text => ?_
  constructor
  · rintro ⟨afterText, htext, htag⟩
    split at htag
    · cases htag
    · next hblank =>
      cases htag
      exact ⟨htext, rfl, hblank⟩
  · rintro ⟨htext, rfl, hblank⟩
    exact ⟨r, htext, by rw [if_neg hblank]; rfl⟩

theorem readMark_eq_ok_iff {mark : Char} {r : Shorter s} : readMark mark s = .ok r ↔ s = mark :: r.1 := by
  cases s with
  | nil => simp [readMark, faultAt]
  | cons c s =>
    rw [readMark]
    split
    · next hc => simp [Subtype.ext_iff, hc]
    · next hc => simp [faultAt, hc]

theorem readItem_bracket_eq_ok_iff {r : Shorter ('[' :: s)} :
    readItem ('[' :: s) = .ok (e, r) ↔
      ∃ tag afterTag args afterArguments, readTag s = .ok (tag, afterTag) ∧
        readArguments afterTag.1 = .ok (args, afterArguments) ∧ afterArguments.1 = ']' :: r.1 ∧
        e = .call (String.ofList tag) args := by
  simp only [readItem, Except.bind_eq_ok_iff, Except.pure_eq_ok_iff, Prod.exists, Prod.mk.injEq,
    Subtype.exists, Subtype.ext_iff, readMark_eq_ok_iff]
  constructor
  · rintro ⟨tag, afterTag, h₁, htag, args, afterArguments, h₂, hargs, afterMark, h₃, hmark, rfl, rfl⟩
    exact ⟨tag, afterTag, h₁, args, afterArguments, h₂, htag, hargs, hmark, rfl⟩
  · rintro ⟨tag, afterTag, h₁, args, afterArguments, h₂, htag, hargs, hmark, rfl⟩
    refine ⟨tag, afterTag, h₁, htag, args, afterArguments, h₂, hargs, r.1, ?_, hmark, rfl, rfl⟩
    exact hmark ▸ Nat.lt_succ_self _

theorem readArguments_comma_eq_ok_iff {r : NotLonger (',' :: s)} :
    readArguments (',' :: s) = .ok (es, r) ↔
      ∃ arg afterItem args afterArguments, readItem s = .ok (arg, afterItem) ∧
        readArguments afterItem.1 = .ok (args, afterArguments) ∧ afterArguments.1 = r.1 ∧
        es = arg :: args := by
  simp only [readArguments, Except.bind_eq_ok_iff, Except.pure_eq_ok_iff, Prod.exists, Prod.mk.injEq,
    Subtype.exists, Subtype.ext_iff]
  constructor
  · rintro ⟨arg, afterItem, h₁, hitem, args, afterArguments, h₂, hargs, rfl, hrest⟩
    exact ⟨arg, afterItem, h₁, args, afterArguments, h₂, hitem, hargs, hrest, rfl⟩
  · rintro ⟨arg, afterItem, h₁, args, afterArguments, h₂, hitem, hargs, hrest, rfl⟩
    exact ⟨arg, afterItem, h₁, hitem, args, afterArguments, h₂, hargs, rfl, hrest⟩

/-! ## Soundness -/

theorem isItem_of_readPlain {r : Shorter s} (h : readPlain s = .ok (e, r)) :
    ∃ w, IsItem w e ∧ s = w ++ r.1 := by
  obtain ⟨letters, afterKind, text, afterText, hkind, htext, hitem, hrest⟩ := readPlain_eq_ok_iff.1 h
  obtain ⟨kind, rfl, hmakes⟩ := makeItem_eq_ok_iff.1 hitem
  obtain ⟨w, hw, hsplit, -⟩ := isText_of_readText htext
  refine ⟨_, .plain hw hmakes, ?_⟩
  calc
    s = kind.letter :: ':' :: afterKind.1 := eq_of_readKind hkind
    _ = kind.letter :: ':' :: (w ++ r.1) := by rw [← hrest, ← hsplit]

/-- **What is read as an item is an item.** What is read as arguments is items, each after a comma. -/
theorem isItem_of_read :
    (∀ s e r, readItem s = .ok (e, r) → ∃ w, IsItem w e ∧ s = w ++ r.1) ∧
      ∀ s es r, readArguments s = .ok (es, r) →
        ∃ items : List (List Char × Expr), (∀ item ∈ items, IsItem item.1 item.2) ∧
          es = items.map (·.2) ∧ s = (items.map (·.1)).flatMap (',' :: ·) ++ r.1 := by
  refine readItem.mutual_induct _ _ ?call ?plain ?more ?done
  case call =>
    intro s ih e r h
    obtain ⟨tag, afterTag, args, afterArguments, htag, hargs, hmark, rfl⟩ :=
      readItem_bracket_eq_ok_iff.1 h
    obtain ⟨text, htext, rfl, hblank⟩ := readTag_eq_ok_iff.1 htag
    obtain ⟨w, hw, hsplit, -⟩ := isText_of_readText htext
    obtain ⟨items, hitems, rfl, hafter⟩ := ih afterTag.1 afterTag.2 args afterArguments hargs
    refine ⟨_, .call hw hblank hitems, ?_⟩
    calc
      '[' :: s = '[' :: (w ++ ((items.map (·.1)).flatMap (',' :: ·) ++ ']' :: r.1)) := by
        rw [← hmark, ← hafter, ← hsplit]
      _ = '[' :: Text.joinWith ',' (w :: items.map (·.1)) ++ [']'] ++ r.1 := by
        simp [Text.joinWith_cons]
  case plain =>
    intro s hbracket e r h
    rw [readItem.eq_2 s hbracket] at h
    exact isItem_of_readPlain h
  case more =>
    intro s ihItem ihArguments es r h
    obtain ⟨arg, afterItem, args, afterArguments, hitem, hargs, hrest, rfl⟩ :=
      readArguments_comma_eq_ok_iff.1 h
    obtain ⟨w, hw, hsplit⟩ := ihItem arg afterItem hitem
    obtain ⟨items, hitems, rfl, hafter⟩ := ihArguments afterItem.1 afterItem.2 args afterArguments hargs
    refine ⟨(w, arg) :: items, List.forall_mem_cons.2 ⟨hw, hitems⟩, rfl, ?_⟩
    calc
      ',' :: s = ',' :: (w ++ ((items.map (·.1)).flatMap (',' :: ·) ++ r.1)) := by
        rw [← hrest, ← hafter, ← hsplit]
      _ = (((w, arg) :: items).map (·.1)).flatMap (',' :: ·) ++ r.1 := by simp
  case done =>
    intro s hcomma es r h
    rw [readArguments.eq_2 s hcomma] at h
    cases h
    exact ⟨[], by simp, rfl, rfl⟩

theorem isItem_of_readItem {r : Shorter s} (h : readItem s = .ok (e, r)) :
    ∃ w, IsItem w e ∧ s = w ++ r.1 :=
  isItem_of_read.1 s e r h

/-! ## Completeness -/

theorem readItem_of_ne {c : Char} (h : c ≠ '[') : readItem (c :: s) = readPlain (c :: s) :=
  readItem.eq_2 _ fun _ heq => h (List.cons.inj heq).1

theorem letter_ne_bracket (kind : ItemKind) : kind.letter ≠ '[' := by
  intro h
  have hends := endsKind_letter kind
  rw [h] at hends
  exact absurd hends (by decide)

/-- Arguments are read up to where no comma is, if each of them is. -/
theorem readArguments_append
    (hitems : ∀ item ∈ items, ∀ rest, EndsText rest →
      ∃ h, readItem (item.1 ++ rest) = .ok (item.2, ⟨rest, h⟩))
    (hrest : EndsText rest) (hcomma : rest.head? ≠ some ',') :
    ∃ h, readArguments ((items.map (·.1)).flatMap (',' :: ·) ++ rest) =
      .ok (items.map (·.2), ⟨rest, h⟩) := by
  induction items with
  | nil =>
    refine ⟨Nat.le_refl _, readArguments.eq_2 _ ?_⟩
    rintro after rfl
    exact hcomma rfl
  | cons item items ih =>
    obtain ⟨hfirst, hothers⟩ := List.forall_mem_cons.1 hitems
    obtain ⟨h₂, hargs⟩ := ih hothers
    -- after an item stands a comma, or what ends the arguments
    have hends : EndsText ((items.map (·.1)).flatMap (',' :: ·) ++ rest) := by
      cases items with
      | nil => exact hrest
      | cons next items => exact endsText_cons rfl _
    obtain ⟨h₁, hitem⟩ := hfirst _ hends
    have hshape : ((item :: items).map (·.1)).flatMap (',' :: ·) ++ rest =
        ',' :: (item.1 ++ ((items.map (·.1)).flatMap (',' :: ·) ++ rest)) := by simp
    rw [hshape]
    refine ⟨Nat.le_succ_of_le (Nat.le_trans h₂ (Nat.le_of_lt h₁)), ?_⟩
    exact readArguments_comma_eq_ok_iff.2 ⟨_, _, _, _, hitem, hargs, rfl, rfl⟩

/-- **An item is read**, whatever stands after it that ends a text. -/
theorem readItem_append (h : IsItem w e) : ∀ rest, EndsText rest →
    ∃ h, readItem (w ++ rest) = .ok (e, ⟨rest, h⟩) := by
  induction h with
  | @plain kind s text e hs he =>
    intro rest hrest
    obtain ⟨h₂, htext⟩ := readText_append hs hrest
    obtain ⟨h₁, hkind⟩ := readKind_letter kind (s ++ rest)
    refine ⟨Nat.lt_of_le_of_lt h₂ h₁, ?_⟩
    show readItem (kind.letter :: ':' :: (s ++ rest)) = _
    rw [readItem_of_ne (letter_ne_bracket kind)]
    exact readPlain_eq_ok_iff.2 ⟨_, _, _, _, hkind, htext, makeItem_eq_ok_iff.2 ⟨kind, rfl, he⟩, rfl⟩
  | @call tag text items htag hblank hitems ih =>
    intro rest hrest
    obtain ⟨h₂, hargs⟩ := readArguments_append ih (endsText_cons (by rfl : isTerminator ']' = true) rest)
      (by simp)
    have hends : EndsText ((items.map (·.1)).flatMap (',' :: ·) ++ ']' :: rest) := by
      cases items with
      | nil => exact endsText_cons rfl _
      | cons next items => exact endsText_cons rfl _
    obtain ⟨h₁, htext⟩ := readText_append htag hends
    have hshape : '[' :: Text.joinWith ',' (tag :: items.map (·.1)) ++ [']'] ++ rest =
        '[' :: (tag ++ ((items.map (·.1)).flatMap (',' :: ·) ++ ']' :: rest)) := by
      simp [Text.joinWith_cons]
    rw [hshape]
    refine ⟨by simp only [List.length_cons, List.length_append]; omega, ?_⟩
    exact readItem_bracket_eq_ok_iff.2
      ⟨_, _, _, _, readTag_eq_ok_iff.2 ⟨text, htext, rfl, hblank⟩, hargs, rfl, rfl⟩

/-! ## Whole cells -/

theorem readItems_eq_ok_iff :
    readItems s = .ok es ↔
      ∃ item r, readItem s = .ok (item, r) ∧
        (r.1 = [] ∧ es = [item] ∨
          ∃ after others, r.1 = ',' :: after ∧ readItems after = .ok others ∧ es = item :: others) := by
  rw [readItems]
  simp only [Except.bind_eq_ok_iff, Prod.exists]
  refine exists_congr fun item => exists_congr fun r => and_congr_right fun _ => ?_
  obtain ⟨rest, h⟩ := r
  dsimp only
  split
  · next hlast => simpa [hlast] using eq_comm
  · next hmore =>
    simp only [hmore, false_and, false_or, Except.bind_eq_ok_iff, readMark_eq_ok_iff,
      Except.pure_eq_ok_iff, Subtype.exists]
    constructor
    · rintro ⟨after, -, hcomma, others, hothers, rfl⟩
      exact ⟨after, others, hcomma, hothers, rfl⟩
    · rintro ⟨after, others, rfl, hothers, rfl⟩
      exact ⟨after, Nat.lt_succ_self _, rfl, others, hothers, rfl⟩

theorem isCell_of_readItems (h : readItems s = .ok es) :
    ∃ items : List (List Char × Expr), items ≠ [] ∧ (∀ item ∈ items, IsItem item.1 item.2) ∧
      s = Text.joinWith ',' (items.map (·.1)) ∧ es = items.map (·.2) := by
  induction s using readItems.induct generalizing es with
  | case1 s ih =>
    obtain ⟨e, r, hitem, hrest⟩ := readItems_eq_ok_iff.1 h
    obtain ⟨w, hw, hsplit⟩ := isItem_of_readItem hitem
    rcases hrest with ⟨hlast, rfl⟩ | ⟨after, others, hcomma, hothers, rfl⟩
    · refine ⟨[(w, e)], List.cons_ne_nil _ _, by simpa using hw, ?_, rfl⟩
      rw [hsplit, hlast, List.append_nil]
      rfl
    · obtain ⟨items, hne, hitems, rfl, rfl⟩ := ih r.1 r.2 after (hcomma ▸ Nat.lt_succ_self _) hothers
      refine ⟨(w, e) :: items, List.cons_ne_nil _ _, List.forall_mem_cons.2 ⟨hw, hitems⟩, ?_, rfl⟩
      rw [hsplit, hcomma]
      obtain ⟨next, items, rfl⟩ := List.exists_cons_of_ne_nil hne
      rfl

theorem readItems_joinWith (hne : items ≠ []) (hitems : ∀ item ∈ items, IsItem item.1 item.2) :
    readItems (Text.joinWith ',' (items.map (·.1))) = .ok (items.map (·.2)) := by
  induction items with
  | nil => exact absurd rfl hne
  | cons item items ih =>
    obtain ⟨hfirst, hothers⟩ := List.forall_mem_cons.1 hitems
    cases items with
    | nil =>
      obtain ⟨h, hitem⟩ := readItem_append hfirst [] endsText_nil
      have hlast : Text.joinWith ',' ([item].map (·.1)) = item.1 ++ [] := (List.append_nil _).symm
      rw [hlast]
      exact readItems_eq_ok_iff.2 ⟨_, _, hitem, .inl ⟨rfl, rfl⟩⟩
    | cons next items =>
      obtain ⟨h, hitem⟩ := readItem_append hfirst
        (',' :: Text.joinWith ',' ((next :: items).map (·.1))) (endsText_cons rfl _)
      exact readItems_eq_ok_iff.2
        ⟨_, _, hitem, .inr ⟨_, _, rfl, ih (List.cons_ne_nil _ _) hothers, rfl⟩⟩

/-- No item is empty. -/
theorem IsItem.ne_nil (h : IsItem w e) : w ≠ [] := by
  cases h <;> exact List.cons_ne_nil _ _

/-- **The cells that are read are those of the grammar**, and what is read is what they stand for. -/
theorem readParameters_eq_ok_iff : readParameters s = .ok es ↔ IsCell s es := by
  unfold readParameters IsCell
  split
  · next hempty =>
    subst hempty
    constructor
    · intro h
      cases h
      exact .inl ⟨rfl, rfl⟩
    · rintro (⟨-, rfl⟩ | ⟨items, hne, hitems, hjoin, -⟩)
      · rfl
      · obtain ⟨item, items, rfl⟩ := List.exists_cons_of_ne_nil hne
        rw [List.map_cons, Text.joinWith_cons] at hjoin
        exact absurd (List.append_eq_nil_iff.1 hjoin.symm).1 (hitems item List.mem_cons_self).ne_nil
  · next hne =>
    simp only [hne, false_and, false_or]
    constructor
    · exact isCell_of_readItems
    · rintro ⟨items, hitems, hall, rfl, rfl⟩
      exact readItems_joinWith hitems hall

/-! ## Faults -/

theorem readMark_ne_tooManyDigits {mark : Char} : readMark mark s ≠ .error (.tooManyDigits cause) := by
  intro h
  cases s with
  | nil => cases h
  | cons c s =>
    rw [readMark] at h
    split at h <;> cases h

theorem readTag_ne_tooManyDigits : readTag s ≠ .error (.tooManyDigits cause) := by
  intro h
  rw [readTag, Except.bind_eq_error_iff] at h
  rcases h with htext | ⟨⟨text, rest⟩, -, htag⟩
  · exact readText_ne_tooManyDigits htext
  · dsimp only at htag
    split at htag <;> cases htag

/-- A number that is too long is the text of a colour. -/
theorem hasLongColor_of_readPlain (hbefore : Opens before)
    (h : readPlain s = .error (.tooManyDigits cause)) : HasLongColor (before ++ s) := by
  rw [readPlain, Except.bind_eq_error_iff] at h
  rcases h with hkind | ⟨⟨letters, afterKind⟩, hkind, h⟩
  · exact absurd hkind readKind_ne_tooManyDigits
  rw [Except.bind_eq_error_iff] at h
  rcases h with htext | ⟨⟨text, afterText⟩, htext, h⟩
  · exact absurd htext readText_ne_tooManyDigits
  rw [Except.bind_eq_error_iff] at h
  rcases h with hitem | ⟨item, -, h⟩
  · obtain ⟨rfl, hcolor⟩ := makeItem_eq_tooManyDigits hitem
    obtain ⟨w, hw, hsplit, hends⟩ := isText_of_readText htext
    obtain ⟨numeral, hnumeral, hlong⟩ := exists_numeral_of_normalize hcolor
    refine ⟨before, w, afterText.1, text, numeral, hbefore, hw, hends, ?_, hnumeral, hlong⟩
    rw [List.append_assoc, List.cons_append, List.cons_append, ← hsplit]
    exact congrArg (before ++ ·) (eq_of_readKind hkind)
  · cases h

/-- Wherever the reader is, it expects an item only after what can stand before one. -/
theorem hasLongColor_of_read :
    (∀ s before, Opens before → readItem s = .error (.tooManyDigits cause) →
        HasLongColor (before ++ s)) ∧
      ∀ s before, Opens (before ++ [',']) → readArguments s = .error (.tooManyDigits cause) →
        HasLongColor (before ++ s) := by
  refine readItem.mutual_induct _ _ ?call ?plain ?more ?done
  case call =>
    intro s ih before hbefore h
    rw [readItem, Except.bind_eq_error_iff] at h
    rcases h with htag | ⟨⟨tag, afterTag⟩, htag, h⟩
    · exact absurd htag readTag_ne_tooManyDigits
    rw [Except.bind_eq_error_iff] at h
    rcases h with hargs | ⟨⟨args, afterArguments⟩, -, h⟩
    · obtain ⟨text, htext, rfl, hblank⟩ := readTag_eq_ok_iff.1 htag
      obtain ⟨w, hw, hsplit, -⟩ := isText_of_readText htext
      have hlong := ih afterTag.1 afterTag.2 (before ++ '[' :: w) (hbefore.inside hw hblank) hargs
      rwa [List.append_assoc, List.cons_append, ← hsplit] at hlong
    · rw [Except.bind_eq_error_iff] at h
      rcases h with hmark | ⟨_, -, h⟩
      · exact absurd hmark readMark_ne_tooManyDigits
      · cases h
  case plain =>
    intro s hbracket before hbefore h
    rw [readItem.eq_2 s hbracket] at h
    exact hasLongColor_of_readPlain hbefore h
  case more =>
    intro s ihItem ihArguments before hbefore h
    rw [readArguments, Except.bind_eq_error_iff] at h
    rcases h with hitem | ⟨⟨arg, afterItem⟩, hitem, h⟩
    · have hlong := ihItem (before ++ [',']) hbefore hitem
      rwa [List.append_assoc] at hlong
    · rw [Except.bind_eq_error_iff] at h
      rcases h with hargs | ⟨_, -, h⟩
      · obtain ⟨w, hw, hsplit⟩ := isItem_of_readItem hitem
        have hlong :=
          ihArguments afterItem.1 afterItem.2 (before ++ [','] ++ w) (hbefore.next hw) hargs
        rwa [List.append_assoc, ← hsplit, List.append_assoc] at hlong
      · cases h
  case done =>
    intro s hcomma before hbefore h
    rw [readArguments.eq_2 s hcomma] at h
    cases h

theorem hasLongColor_of_readItems (hbefore : Opens before)
    (h : readItems s = .error (.tooManyDigits cause)) : HasLongColor (before ++ s) := by
  induction s using readItems.induct generalizing before with
  | case1 s ih =>
    rw [readItems, Except.bind_eq_error_iff] at h
    rcases h with hitem | ⟨⟨e, r⟩, hitem, h⟩
    · exact hasLongColor_of_read.1 s before hbefore hitem
    dsimp only at h
    split at h
    · cases h
    · rw [Except.bind_eq_error_iff] at h
      rcases h with hmark | ⟨after, hmark, h⟩
      · exact absurd hmark readMark_ne_tooManyDigits
      obtain ⟨w, hw, hsplit⟩ := isItem_of_readItem hitem
      have hcomma := readMark_eq_ok_iff.1 hmark
      rw [Except.bind_eq_error_iff] at h
      rcases h with hothers | ⟨_, -, h⟩
      · have hlong := ih r.1 r.2 after.1 after.2 (hbefore.next hw) hothers
        rwa [List.append_assoc, List.singleton_append, ← hcomma, List.append_assoc, ← hsplit] at hlong
      · cases h

/-- **The one fault that is not at a place in the cell** is of a colour that is too long. -/
theorem hasLongColor_of_readParameters (h : readParameters s = .error (.tooManyDigits cause)) :
    HasLongColor s := by
  unfold readParameters at h
  split at h
  · cases h
  · exact hasLongColor_of_readItems .start h

/-- Whether the reader meets a number that is too long, in a cell or among arguments. -/
def Stops (s : List Char) (cause : Text.TooManyDigits) : Prop :=
  readItems s = .error (.tooManyDigits cause) ∧ readArguments (',' :: s) = .error (.tooManyDigits cause)

theorem stops_of_readItem (h : readItem s = .error (.tooManyDigits cause)) : Stops s cause := by
  constructor
  · rw [readItems, h]
    rfl
  · rw [readArguments, h]
    rfl

theorem Stops.next (h : Stops s cause) (hitem : IsItem w e) : Stops (w ++ ',' :: s) cause := by
  obtain ⟨hless, hread⟩ := readItem_append hitem _ (endsText_cons (c := ',') rfl s)
  constructor
  · rw [readItems, Except.bind_eq_error_iff]
    refine .inr ⟨_, hread, ?_⟩
    dsimp only
    rw [if_neg (List.cons_ne_nil _ _), Except.bind_eq_error_iff]
    have hmark : readMark ',' (',' :: s) = .ok ⟨s, Nat.lt_succ_self _⟩ := readMark_eq_ok_iff.2 rfl
    refine .inr ⟨_, hmark, ?_⟩
    rw [Except.bind_eq_error_iff]
    exact .inl h.1
  · rw [readArguments, Except.bind_eq_error_iff]
    refine .inr ⟨_, hread, ?_⟩
    rw [Except.bind_eq_error_iff]
    exact .inl h.2

theorem Stops.inside (h : Stops s cause) (htag : IsText w text) (hblank : Text.trim text ≠ []) :
    Stops ('[' :: w ++ ',' :: s) cause := by
  obtain ⟨hless, htext⟩ := readText_append htag (endsText_cons (c := ',') rfl s)
  have hread : readTag (w ++ ',' :: s) = .ok (Text.trim text, ⟨',' :: s, hless⟩) :=
    readTag_eq_ok_iff.2 ⟨text, htext, rfl, hblank⟩
  refine stops_of_readItem ?_
  rw [List.cons_append, readItem, Except.bind_eq_error_iff]
  refine .inr ⟨_, hread, ?_⟩
  rw [Except.bind_eq_error_iff]
  exact .inl h.2

/-- The reader gets to whatever stands behind what can stand before an item. -/
theorem Stops.of_opens (hbefore : Opens before) (h : Stops s cause) : Stops (before ++ s) cause := by
  induction hbefore generalizing s with
  | start => exact h
  | next _ hitem ih =>
    rw [List.append_assoc, List.append_assoc]
    exact ih (h.next hitem)
  | inside _ htag hblank ih =>
    rw [List.append_assoc, List.append_assoc]
    exact ih (h.inside htag hblank)

/-- **A colour that is too long is met where the reader gets to it**, and no other number counts. -/
theorem exists_readParameters_eq_tooManyDigits_iff :
    (∃ cause, readParameters s = .error (.tooManyDigits cause)) ↔ HasLongColor s := by
  constructor
  · rintro ⟨cause, h⟩
    exact hasLongColor_of_readParameters h
  · rintro ⟨before, w, after, text, numeral, hbefore, hw, hends, rfl, hnumeral, hlong⟩
    obtain ⟨cause, hcolor⟩ := exists_normalize_eq_error_iff.2 ⟨numeral, hnumeral, hlong⟩
    obtain ⟨_, htext⟩ := readText_append hw hends
    obtain ⟨_, hkind⟩ := readKind_letter (.literal .color) (w ++ after)
    have hmake : makeItem ['c'] text after = .error (.tooManyDigits cause) := by
      have hcheck : checkLiteral .color text after = .error (.tooManyDigits cause) :=
        checkLiteral_eq_tooManyDigits_iff.2 ⟨rfl, hcolor⟩
      exact Except.bind_eq_error_iff.2 (.inl hcheck)
    have hitem : readItem ('c' :: ':' :: (w ++ after)) = .error (.tooManyDigits cause) := by
      rw [readItem_of_ne (by decide), readPlain, Except.bind_eq_error_iff]
      refine .inr ⟨_, hkind, ?_⟩
      rw [Except.bind_eq_error_iff]
      refine .inr ⟨_, htext, ?_⟩
      rw [Except.bind_eq_error_iff]
      exact .inl hmake
    obtain ⟨hstops, -⟩ := Stops.of_opens hbefore (stops_of_readItem hitem)
    refine ⟨cause, ?_⟩
    rw [readParameters, if_neg (by simp), List.append_assoc]
    exact hstops

end BlockApp.Cell

namespace BlockApp.Section

variable {α : Type} {name : String} {line : Int} {cell : String}

/-- A fault in a cell is a number that is too long exactly if the failure is. -/
theorem exists_cellFailure_iff {outcome : Except Cell.Fault α} :
    (∃ cause, outcome.mapError (cellFailure name line cell) = .error (.system (.tooManyDigits cause))) ↔
      ∃ cause, outcome = .error (.tooManyDigits cause) := by
  simp only [Except.mapError_eq_error_iff]
  constructor
  · rintro ⟨cause, fault, hread, hfault⟩
    cases fault with
    | problem problem left => cases hfault
    | tooManyDigits found => exact ⟨found, hread⟩
  · rintro ⟨cause, hread⟩
    exact ⟨cause, _, hread, rfl⟩

theorem exists_parameters_eq_tooManyDigits_iff :
    (∃ cause, parameters name line cell = .error (.system (.tooManyDigits cause))) ↔
      Cell.HasLongColor cell.toList :=
  exists_cellFailure_iff.trans Cell.exists_readParameters_eq_tooManyDigits_iff

end BlockApp.Section
