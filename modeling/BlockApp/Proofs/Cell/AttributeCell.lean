import BlockApp.Proofs.Cell.Attributes
import BlockApp.Proofs.Cell.Print
import BlockApp.Proofs.View.Names

/-!
# What an attribute cell is

The grammar of attribute cells, and attributes written as such cells. The reader looks for the end of a
name, of a kind and of a text with one cursor, and each of these ends at other characters. What it takes is
a list of attributes all the same: no name has a `=` in it, every kind is one letter, and the text behind
it ends at the first `,` that no backslash stands before.

* `isAttribute_iff` — an attribute with the letter of its kind
* `readAttribute_eq` — what is read of an attribute whose text may or may not be allowed
* `readAttributes_eq_ok_iff` — the cells that are read are those of the grammar
* `exists_isAttribute_iff` — the attributes that a cell can stand for
* `Section.attributes_iff_cell` — which cells are taken, what of the others, and cells that are written
-/

namespace BlockApp

open Cell

/-! ## Kinds -/

namespace AttributeKind

variable {kind : AttributeKind} {type : LiteralType} {text value : List Char}

/-- The letter of a kind. -/
def letter : AttributeKind → Char
  | .dimension => 'd'
  | .text => 's'
  | .color => 'c'
  | .resource => 'r'
  | .number => 'n'
  | .boolean => 'b'
  | .enum => 'e'

/-- The type of the literals that are values of a kind. A dimension is none. -/
def literalType? : AttributeKind → Option LiteralType
  | .dimension => none
  | .text => some .string
  | .color => some .color
  | .resource => some .resource
  | .number => some .number
  | .boolean => some .boolean
  | .enum => some .enum

theorem stores_iff_stored (h : kind.literalType? = some type) :
    kind.Stores text value ↔ Stored type text value := by
  cases kind <;> cases h <;> exact Iff.rfl

theorem eq_dimension (h : kind.literalType? = none) : kind = .dimension := by
  cases kind <;> first | rfl | cases h

/-- Whether a value can be that of an attribute of this kind. -/
def Holds (kind : AttributeKind) (value : List Char) : Prop :=
  match kind.literalType? with
  | some type => type.Holds value
  | none => ∃ number, Text.Numeral.Denotes value number ∧ leastDimension ≤ number

/-- A text that stands for a value of this kind. -/
def written (kind : AttributeKind) (value : List Char) : List Char :=
  match kind.literalType? with
  | some type => literalText type value
  | none => value

theorem stores_written (h : kind.Holds value) : kind.Stores (kind.written value) value := by
  unfold Holds at h
  unfold written
  cases hkind : kind.literalType? with
  | some type =>
    rw [hkind] at h
    exact (stores_iff_stored hkind).2 (stored_literalText h)
  | none =>
    rw [hkind] at h
    obtain rfl := eq_dimension hkind
    exact ⟨h, rfl⟩

theorem holds_of_stores (h : kind.Stores text value) : kind.Holds value := by
  unfold Holds
  cases hkind : kind.literalType? with
  | some type => exact holds_of_stored ((stores_iff_stored hkind).1 h)
  | none =>
    obtain rfl := eq_dimension hkind
    obtain ⟨hnumber, rfl⟩ := h
    exact hnumber

/-- Whether a text is a whole number of too many digits where the number counts. -/
def IsTooLong (kind : AttributeKind) (text : List Char) : Prop :=
  (kind = .dimension ∨ kind = .color) ∧
    ∃ numeral, Text.Numeral.read? text = some numeral ∧ Text.maxDigits < numeral.digits.length

end AttributeKind

/-- Whether an attribute is well formed: it has a name, and its value is one of its kind. -/
structure ViewAttribute.WellFormed (attr : ViewAttribute) : Prop where
  name : Text.isIdentifier attr.name.toList = true
  value : attr.kind.Holds attr.value.toList

namespace Cell

variable {s w rest text letters name : List Char} {kind : AttributeKind} {attr : ViewAttribute}
  {attrs : List ViewAttribute} {items : List (List Char × ViewAttribute)}

theorem attributeKind?_eq_some_iff : attributeKind? letters = some kind ↔ letters = [kind.letter] := by
  constructor
  · intro h
    unfold attributeKind? at h
    split at h <;> cases h <;> rfl
  · rintro rfl
    cases kind <;> rfl

/-- **An attribute** is its name, `=`, the letter of its kind, `:`, and escaped text that its value is
stored for. -/
theorem isAttribute_iff :
    IsAttribute w attr ↔
      ∃ s text, w = attr.name.toList ++ '=' :: attr.kind.letter :: ':' :: s ∧
        Text.isIdentifier attr.name.toList = true ∧ IsText s text ∧
        attr.kind.Stores text attr.value.toList := by
  constructor
  · rintro ⟨letters, s, text, hw, hname, hkind, hs, hstores⟩
    rw [attributeKind?_eq_some_iff.1 hkind] at hw
    exact ⟨s, text, hw, hname, hs, hstores⟩
  · rintro ⟨s, text, hw, hname, hs, hstores⟩
    exact ⟨[attr.kind.letter], s, text, hw, hname, attributeKind?_eq_some_iff.2 rfl, hs, hstores⟩

/-- An attribute cell, and the attributes that it stands for: it is empty and stands for none, or is
attributes with commas between them. -/
def IsAttributeCell (cell : List Char) (attrs : List ViewAttribute) : Prop :=
  cell = [] ∧ attrs = [] ∨
    ∃ items : List (List Char × ViewAttribute), items ≠ [] ∧
      (∀ item ∈ items, IsAttribute item.1 item.2) ∧
      cell = Text.joinWith ',' (items.map (·.1)) ∧ attrs = items.map (·.2)

/-- Whether a cell has, after attributes that are as they should be, one of a number that is too long. -/
def HasLongNumber (cell : List Char) : Prop :=
  ∃ (items : List (List Char × ViewAttribute)) (name : List Char) (kind : AttributeKind)
    (s text after : List Char), (∀ item ∈ items, IsAttribute item.1 item.2) ∧
      Text.isIdentifier name = true ∧ IsText s text ∧ kind.IsTooLong text ∧ EndsText after ∧
      cell = items.flatMap (·.1 ++ [',']) ++ (name ++ '=' :: kind.letter :: ':' :: s ++ after)

/-! ## One attribute -/

/-- A name is read up to the first `=`. -/
theorem readName_append (hname : Text.isIdentifier name = true) (s : List Char) :
    ∃ h, readName (name ++ '=' :: s) = .ok (name, ⟨s, h⟩) := by
  have hnot : '=' ∉ name := Text.notMem_of_isIdentifier hname (by decide) (by decide)
  have hall : ∀ c ∈ name, (c != '=') = true := by
    intro c hc
    exact bne_iff_ne.2 fun heq => hnot (heq ▸ hc)
  have htake : (name ++ '=' :: s).takeWhile (· != '=') = name := by
    rw [List.takeWhile_append_of_pos hall, List.takeWhile_cons_of_neg (by simp), List.append_nil]
  have hdrop : (name ++ '=' :: s).dropWhile (· != '=') = '=' :: s := by
    rw [List.dropWhile_append_of_pos hall, List.dropWhile_cons_of_neg (by simp)]
  refine ⟨by simp only [List.length_append, List.length_cons]; omega, ?_⟩
  unfold readName
  dsimp only
  split
  · next hrest => exact absurd (hdrop.symm.trans hrest) (List.cons_ne_nil _ _)
  · next c rest hrest =>
    cases hdrop.symm.trans hrest
    rw [htake, if_pos hname]

theorem readKind_attribute (kind : AttributeKind) (s : List Char) :
    ∃ h, readKind (kind.letter :: ':' :: s) = .ok ([kind.letter], ⟨s, h⟩) := by
  refine ⟨by simp only [List.length_cons]; omega, ?_⟩
  cases kind <;> rfl

/-- **What is read of an attribute** hangs on its text alone, once the rest of it is as it should be. -/
theorem readAttribute_eq (hname : Text.isIdentifier name = true) (kind : AttributeKind)
    (hs : IsText s text) (hrest : EndsText rest) :
    ∃ h, readAttribute (name ++ '=' :: kind.letter :: ':' :: s ++ rest) =
      (checkAttribute kind text rest).map fun value =>
        (⟨String.ofList name, kind, String.ofList value⟩, ⟨rest, h⟩) := by
  obtain ⟨h₃, htext⟩ := readText_append hs hrest
  obtain ⟨h₂, hkind⟩ := readKind_attribute kind (s ++ rest)
  obtain ⟨h₁, hread⟩ := readName_append hname (kind.letter :: ':' :: (s ++ rest))
  have hshape : name ++ '=' :: kind.letter :: ':' :: s ++ rest =
      name ++ '=' :: (kind.letter :: ':' :: (s ++ rest)) := by simp
  rw [hshape]
  refine ⟨Nat.lt_of_le_of_lt h₃ (Nat.lt_trans h₂ h₁), ?_⟩
  have hfound : attributeKind? [kind.letter] = some kind := attributeKind?_eq_some_iff.2 rfl
  rw [readAttribute, hread]
  simp only [bind, Except.bind, hkind, hfound, htext]
  cases checkAttribute kind text rest <;> rfl

theorem readAttribute_append (h : IsAttribute w attr) (hrest : EndsText rest) :
    ∃ h, readAttribute (w ++ rest) = .ok (attr, ⟨rest, h⟩) := by
  obtain ⟨s, text, rfl, hname, hs, hstores⟩ := isAttribute_iff.1 h
  obtain ⟨hrest, hread⟩ := readAttribute_eq hname attr.kind hs hrest
  refine ⟨hrest, hread.trans ?_⟩
  rw [checkAttribute_eq_ok_iff.2 hstores]
  show Except.ok ((⟨String.ofList attr.name.toList, attr.kind, String.ofList attr.value.toList⟩ :
    ViewAttribute), _) = _
  rw [String.ofList_toList, String.ofList_toList]

/-! ## Whole cells -/

theorem readAttributeList_joinWith (hne : items ≠ [])
    (hitems : ∀ item ∈ items, IsAttribute item.1 item.2) :
    readAttributeList (Text.joinWith ',' (items.map (·.1))) = .ok (items.map (·.2)) := by
  induction items with
  | nil => exact absurd rfl hne
  | cons item items ih =>
    obtain ⟨hfirst, hothers⟩ := List.forall_mem_cons.1 hitems
    cases items with
    | nil =>
      obtain ⟨h, hattr⟩ := readAttribute_append hfirst endsText_nil
      have hlast : Text.joinWith ',' ([item].map (·.1)) = item.1 ++ [] := (List.append_nil _).symm
      rw [hlast]
      exact readAttributeList_eq_ok_iff.2 ⟨_, _, hattr, .inl ⟨rfl, rfl⟩⟩
    | cons next items =>
      obtain ⟨h, hattr⟩ := readAttribute_append hfirst
        (endsText_cons (c := ',') rfl (Text.joinWith ',' ((next :: items).map (·.1))))
      exact readAttributeList_eq_ok_iff.2
        ⟨_, _, hattr, .inr ⟨_, _, rfl, ih (List.cons_ne_nil _ _) hothers, rfl⟩⟩

theorem IsAttribute.ne_nil (h : IsAttribute w attr) : w ≠ [] := by
  obtain ⟨s, text, rfl, -⟩ := isAttribute_iff.1 h
  exact List.append_ne_nil_of_right_ne_nil _ (List.cons_ne_nil _ _)

/-- **The cells that are read are those of the grammar**, and what is read is what they stand for. -/
theorem readAttributes_eq_ok_iff : readAttributes s = .ok attrs ↔ IsAttributeCell s attrs := by
  unfold readAttributes IsAttributeCell
  split
  · next hempty =>
    subst hempty
    constructor
    · intro h
      cases h
      exact .inl ⟨rfl, rfl⟩
    · rintro (⟨-, rfl⟩ | ⟨items, hne, hitems, hjoin, -⟩)
      · rfl
      · obtain ⟨item, items, rfl⟩ := List.exists_cons_of_ne_nil hne
        rw [List.map_cons, Text.joinWith_cons] at hjoin
        exact absurd (List.append_eq_nil_iff.1 hjoin.symm).1 (hitems item List.mem_cons_self).ne_nil
  · next hne =>
    simp only [hne, false_and, false_or]
    constructor
    · exact isAttribute_of_readAttributeList
    · rintro ⟨items, hitems, hall, rfl, rfl⟩
      exact readAttributeList_joinWith hitems hall

/-! ## Numbers that are too long -/

theorem exists_checkDimension_eq_tooManyDigits_iff :
    (∃ cause, checkDimension text rest = .error (.tooManyDigits cause)) ↔
      ∃ numeral, Text.Numeral.read? text = some numeral ∧ Text.maxDigits < numeral.digits.length := by
  unfold checkDimension
  cases hread : Text.Numeral.read? text with
  | none => exact iff_of_false (fun ⟨_, h⟩ => nomatch h) (fun ⟨_, h, _⟩ => nomatch h)
  | some numeral =>
    simp only [Option.some.injEq, exists_eq_left', ← exists_value_eq_error_iff]
    cases hvalue : numeral.value with
    | error cause => exact iff_of_true ⟨cause, rfl⟩ ⟨cause, rfl⟩
    | ok number =>
      refine iff_of_false ?_ (fun ⟨_, h⟩ => nomatch h)
      rintro ⟨cause, h⟩
      dsimp only at h
      split at h <;> cases h

theorem checkAttribute_eq_checkLiteral {type : LiteralType} (h : kind.literalType? = some type) :
    checkAttribute kind text rest = checkLiteral type text rest := by
  cases kind <;> cases h <;> rfl

theorem literalType?_eq_some_color_iff : kind.literalType? = some .color ↔ kind = .color := by
  cases kind <;> simp [AttributeKind.literalType?]

/-- The value of an attribute is too long where a number counts. -/
theorem exists_checkAttribute_eq_tooManyDigits_iff :
    (∃ cause, checkAttribute kind text rest = .error (.tooManyDigits cause)) ↔ kind.IsTooLong text := by
  unfold AttributeKind.IsTooLong
  cases hkind : kind.literalType? with
  | none =>
    obtain rfl := AttributeKind.eq_dimension hkind
    rw [and_iff_right (.inl rfl)]
    exact exists_checkDimension_eq_tooManyDigits_iff
  | some type =>
    have hdimension : kind ≠ .dimension := by
      rintro rfl
      cases hkind
    simp only [checkAttribute_eq_checkLiteral hkind, checkLiteral_eq_tooManyDigits_iff,
      exists_and_left, exists_normalize_eq_error_iff, hdimension, false_or]
    rw [← literalType?_eq_some_color_iff, hkind, Option.some.injEq]

theorem readName_ne_tooManyDigits {cause : Text.TooManyDigits} :
    readName s ≠ .error (.tooManyDigits cause) := by
  intro h
  unfold readName at h
  dsimp only at h
  split at h <;> split at h <;> cases h

/-- Only the value of an attribute can be too long. -/
theorem exists_tooLong_of_readAttribute {cause : Text.TooManyDigits}
    (h : readAttribute s = .error (.tooManyDigits cause)) :
    ∃ name, ∃ kind : AttributeKind, ∃ w text after, Text.isIdentifier name = true ∧ IsText w text ∧
      kind.IsTooLong text ∧ EndsText after ∧
      s = name ++ '=' :: kind.letter :: ':' :: w ++ after := by
  rw [readAttribute, Except.bind_eq_error_iff] at h
  rcases h with hname | ⟨⟨name, afterName⟩, hname, h⟩
  · exact absurd hname readName_ne_tooManyDigits
  rw [Except.bind_eq_error_iff] at h
  rcases h with hkind | ⟨⟨letters, afterKind⟩, hkind, h⟩
  · exact absurd hkind readKind_ne_tooManyDigits
  dsimp only at h
  split at h
  · cases h
  next kind hletters =>
    rw [Except.bind_eq_error_iff] at h
    rcases h with htext | ⟨⟨text, afterText⟩, htext, h⟩
    · exact absurd htext readText_ne_tooManyDigits
    rw [Except.bind_eq_error_iff] at h
    rcases h with hvalue | ⟨value, -, h⟩
    · obtain ⟨hsplit, hidentifier⟩ := readName_eq_ok hname
      obtain ⟨w, hw, hafter, hends⟩ := isText_of_readText htext
      obtain rfl := attributeKind?_eq_some_iff.1 hletters
      refine ⟨name, kind, w, text, afterText.1, hidentifier, hw,
        exists_checkAttribute_eq_tooManyDigits_iff.1 ⟨cause, hvalue⟩, hends, ?_⟩
      calc
        s = name ++ '=' :: afterName.1 := hsplit
        _ = name ++ '=' :: kind.letter :: ':' :: afterKind.1 :=
          congrArg (name ++ '=' :: ·) (eq_of_readKind hkind)
        _ = name ++ '=' :: kind.letter :: ':' :: w ++ afterText.1 := by simp [hafter]
    · cases h

theorem readAttributeList_eq_error_iff {fault : Fault} :
    readAttributeList s = .error fault ↔
      readAttribute s = .error fault ∨ ∃ attr r, readAttribute s = .ok (attr, r) ∧ r.1 ≠ [] ∧
        (readMark ',' r.1 = .error fault ∨
          ∃ after, r.1 = ',' :: after ∧ readAttributeList after = .error fault) := by
  rw [readAttributeList, Except.bind_eq_error_iff, Prod.exists]
  refine or_congr_right (exists_congr fun attr => exists_congr fun r => and_congr_right fun _ => ?_)
  obtain ⟨rest, h⟩ := r
  dsimp only
  split
  · next hlast => exact iff_of_false Except.pure_ne_error fun hmore => hmore.1 hlast
  · next hmore =>
    simp only [Except.bind_eq_error_iff, Except.pure_ne_error, and_false, exists_false, or_false,
      readMark_eq_ok_iff, Subtype.exists]
    rw [and_iff_right hmore]
    refine or_congr_right (exists_congr fun after => ?_)
    constructor
    · rintro ⟨_, hcomma, hafter⟩
      exact ⟨hcomma, hafter⟩
    · rintro ⟨rfl, hafter⟩
      exact ⟨Nat.lt_succ_self _, rfl, hafter⟩

/-- **A number is too long** exactly if one is where the reader comes to it. -/
theorem exists_readAttributeList_eq_tooManyDigits_iff :
    (∃ cause, readAttributeList s = .error (.tooManyDigits cause)) ↔ HasLongNumber s := by
  constructor
  · rintro ⟨cause, h⟩
    induction s using readAttributeList.induct with
    | case1 s ih =>
      rcases readAttributeList_eq_error_iff.1 h with hattr | ⟨attr, r, hattr, hmore, hrest⟩
      · obtain ⟨name, kind, w, text, after, hname, hw, hlong, hafter, rfl⟩ :=
          exists_tooLong_of_readAttribute hattr
        exact ⟨[], name, kind, w, text, after, List.forall_mem_nil _, hname, hw, hlong, hafter, rfl⟩
      · rcases hrest with hmark | ⟨after, hcomma, hafter⟩
        · exact absurd hmark readMark_ne_tooManyDigits
        · obtain ⟨v, hv, hsplit⟩ := isAttribute_of_readAttribute hattr
          obtain ⟨items, name, kind, w, text, behind, hitems, hrest⟩ :=
            ih r.1 r.2 after (hcomma ▸ Nat.lt_succ_self _) hafter
          obtain ⟨hname, hw, hlong, hends, rfl⟩ := hrest
          refine ⟨(v, attr) :: items, name, kind, w, text, behind,
            List.forall_mem_cons.2 ⟨hv, hitems⟩, hname, hw, hlong, hends, ?_⟩
          rw [hsplit, hcomma]
          simp
  · rintro ⟨items, name, kind, w, text, after, hitems, hname, hw, hlong, hends, rfl⟩
    induction items with
    | nil =>
      obtain ⟨cause, hvalue⟩ := exists_checkAttribute_eq_tooManyDigits_iff.2 hlong
      obtain ⟨_, hread⟩ := readAttribute_eq hname kind hw hends
      refine ⟨cause, readAttributeList_eq_error_iff.2 (.inl (hread.trans ?_))⟩
      rw [hvalue]
      rfl
    | cons item items ih =>
      obtain ⟨hfirst, hothers⟩ := List.forall_mem_cons.1 hitems
      obtain ⟨cause, hrest⟩ := ih hothers
      obtain ⟨_, hattr⟩ := readAttribute_append hfirst (endsText_cons (c := ',') rfl
        (items.flatMap (·.1 ++ [',']) ++ (name ++ '=' :: kind.letter :: ':' :: w ++ after)))
      refine ⟨cause, ?_⟩
      rw [List.flatMap_cons, List.append_assoc, List.append_assoc, List.singleton_append]
      exact readAttributeList_eq_error_iff.2
        (.inr ⟨_, _, hattr, List.cons_ne_nil _ _, .inr ⟨_, rfl, hrest⟩⟩)

/-- Only long cells have one. -/
theorem HasLongNumber.lt_length (h : HasLongNumber s) : Text.maxDigits < s.length := by
  obtain ⟨items, name, kind, w, text, after, -, -, hw, ⟨-, numeral, hnumeral, hlong⟩, -, rfl⟩ := h
  calc
    Text.maxDigits < numeral.digits.length := hlong
    _ ≤ text.length := Text.Numeral.length_digits_le hnumeral
    _ ≤ w.length := hw.length_le
    _ ≤ _ := by simp only [List.length_append, List.length_cons]; omega

theorem exists_readAttributes_eq_tooManyDigits_iff :
    (∃ cause, readAttributes s = .error (.tooManyDigits cause)) ↔ HasLongNumber s := by
  unfold readAttributes
  split
  · next hempty =>
    refine iff_of_false (fun ⟨_, h⟩ => nomatch h) fun h => ?_
    exact List.ne_nil_of_length_pos (Nat.lt_of_le_of_lt (Nat.zero_le _) h.lt_length) hempty
  · exact exists_readAttributeList_eq_tooManyDigits_iff

/-! ## Writing -/

/-- An attribute as it is written. -/
def printAttribute (attr : ViewAttribute) : List Char :=
  attr.name.toList ++
    '=' :: attr.kind.letter :: ':' :: Text.escape (attr.kind.written attr.value.toList)

/-- A cell that stands for attributes. -/
def printAttributes (attrs : List ViewAttribute) : List Char :=
  Text.joinWith ',' (attrs.map printAttribute)

/-- **A well-formed attribute is what is written for it.** -/
theorem isAttribute_printAttribute (h : attr.WellFormed) : IsAttribute (printAttribute attr) attr :=
  isAttribute_iff.2
    ⟨_, _, rfl, h.name, isText_escape _, AttributeKind.stores_written h.value⟩

/-- The well-formed attributes are those that can stand in a cell. -/
theorem exists_isAttribute_iff : (∃ w, IsAttribute w attr) ↔ attr.WellFormed := by
  constructor
  · rintro ⟨w, h⟩
    obtain ⟨s, text, -, hname, -, hstores⟩ := isAttribute_iff.1 h
    exact ⟨hname, AttributeKind.holds_of_stores hstores⟩
  · intro h
    exact ⟨_, isAttribute_printAttribute h⟩

theorem isAttributeCell_printAttributes (h : ∀ attr ∈ attrs, attr.WellFormed) :
    IsAttributeCell (printAttributes attrs) attrs := by
  by_cases hempty : attrs = []
  · subst hempty
    exact .inl ⟨rfl, rfl⟩
  · refine .inr ⟨attrs.map fun attr => (printAttribute attr, attr), by simpa using hempty, ?_, ?_, ?_⟩
    · intro item hitem
      obtain ⟨attr, hattr, rfl⟩ := List.mem_map.1 hitem
      exact isAttribute_printAttribute (h attr hattr)
    · rw [List.map_map]
      rfl
    · simp [Function.comp_def]

end Cell

/-! ## Cells of a section -/

namespace Section

theorem attributes_eq_ok_iff {name : String} {line : Int} {cell : String} {attrs : List ViewAttribute} :
    attributes name line cell = .ok attrs ↔ IsAttributeCell cell.toList attrs := by
  rw [attributes, Except.mapError_eq_ok_iff, readAttributes_eq_ok_iff]

theorem exists_attributes_eq_tooManyDigits_iff {name : String} {line : Int} {cell : String} :
    (∃ cause, attributes name line cell = .error (.system (.tooManyDigits cause))) ↔
      HasLongNumber cell.toList :=
  exists_cellFailure_iff.trans exists_readAttributes_eq_tooManyDigits_iff

/-- **An attribute cell is taken exactly if the grammar derives it**, and for what it stands for there. A
number that is too long, behind attributes that are as they should be, is told as such. All other cells
are refused at a place in the cell. Well-formed attributes are read from the cell that is written for
them. -/
theorem attributes_iff_cell (name : String) (line : Int) :
    (∀ cell attrs, attributes name line cell = .ok attrs ↔ IsAttributeCell cell.toList attrs) ∧
    (∀ cell, (∃ cause, attributes name line cell = .error (.system (.tooManyDigits cause))) ↔
      HasLongNumber cell.toList) ∧
    (∀ cell, (∀ attrs, ¬IsAttributeCell cell.toList attrs) → ¬HasLongNumber cell.toList →
      ∃ problem column,
        attributes name line cell = .error (.sectionText name line (.cell problem column cell))) ∧
    ∀ attrs, (∀ attr ∈ attrs, attr.WellFormed) →
      attributes name line (String.ofList (printAttributes attrs)) = .ok attrs := by
  refine ⟨fun cell attrs => attributes_eq_ok_iff, fun cell => exists_attributes_eq_tooManyDigits_iff,
    fun cell hnot hshort => ?_, fun attrs hattrs => ?_⟩
  · cases hread : readAttributes cell.toList with
    | ok attrs => exact absurd (readAttributes_eq_ok_iff.1 hread) (hnot attrs)
    | error fault =>
      cases fault with
      | problem problem left => exact ⟨problem, _, by rw [attributes, hread]; rfl⟩
      | tooManyDigits cause =>
        exact absurd (exists_readAttributes_eq_tooManyDigits_iff.1 ⟨cause, hread⟩) hshort
  · rw [attributes_eq_ok_iff, String.toList_ofList]
    exact isAttributeCell_printAttributes hattrs

/-- A size, a text with marks in it, and a colour. -/
def sizedSample : List ViewAttribute :=
  [⟨"layout_width", .dimension, "-1"⟩, ⟨"text", .text, "a=[b],\t:c"⟩, ⟨"tint", .color, "80FF0000"⟩]

theorem wellFormed_sizedSample : ∀ attr ∈ sizedSample, attr.WellFormed := by
  have hnumber : AttributeKind.dimension.Holds "-1".toList :=
    ⟨-1, ⟨⟨true, [1]⟩, by decide, by decide⟩, by decide⟩
  have hdigits : "80FF0000".toList.all Text.isUpperHex = true := by decide +kernel
  have hcolor : AttributeKind.color.Holds "80FF0000".toList :=
    .inl ⟨rfl, List.all_eq_true.1 hdigits⟩
  refine List.forall_mem_cons.2 ⟨⟨by decide +kernel, hnumber⟩, List.forall_mem_cons.2 ⟨?_, ?_⟩⟩
  · exact ⟨by decide +kernel, trivial⟩
  · exact List.forall_mem_singleton.2 ⟨by decide +kernel, hcolor⟩

/-- The sample is read back. A size that is less than the least one is refused. -/
theorem attributes_iff_cell_sized :
    (∀ attr ∈ sizedSample, attr.WellFormed) ∧
      printAttributes sizedSample =
        "layout_width=d:-1,text=s:a=\\[b\\]\\,\\t:c,tint=c:#80FF0000".toList ∧
      attributes "view" 3 (String.ofList (printAttributes sizedSample)) = .ok sizedSample ∧
      (∀ attrs, ¬IsAttributeCell "a=d:-3".toList attrs) ∧ ¬HasLongNumber "a=d:-3".toList ∧
      ∃ problem column, attributes "view" 3 "a=d:-3" =
        .error (.sectionText "view" 3 (.cell problem column "a=d:-3")) := by
  have hrefused : ∀ attrs, ¬IsAttributeCell "a=d:-3".toList attrs := by
    intro attrs h
    have hread := readAttributes_eq_ok_iff.2 h
    have hfails : (readAttributes "a=d:-3".toList).isOk = false := by decide +kernel
    rw [hread] at hfails
    cases hfails
  have hshort : ¬HasLongNumber "a=d:-3".toList := fun h => absurd h.lt_length (by decide)
  obtain ⟨-, -, hmalformed, hprinted⟩ := attributes_iff_cell "view" 3
  exact ⟨wellFormed_sizedSample, by decide +kernel, hprinted _ wellFormed_sizedSample, hrefused,
    hshort, hmalformed _ hrefused hshort⟩

end Section

end BlockApp
