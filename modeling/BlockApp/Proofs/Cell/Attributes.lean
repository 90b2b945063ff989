import BlockApp.Proofs.Cell.Reader

/-!
# What is read from attribute cells

What is read from an attribute cell are the attributes that stand in it, with commas between them: a name, a
letter for the kind, and escaped text that the kind allows.

* `Numeral.Denotes` — the number that a text stands for
* `AttributeKind.Stores` — what is stored for the text of an attribute
* `IsAttribute` — an attribute as it stands in a cell
* `isAttribute_of_readAttributes` — the attributes of a cell stand in it
-/

namespace BlockApp

namespace Text.Numeral

/-- Whether a text is a whole number and stands for this one. -/
def Denotes (s : List Char) (number : Int) : Prop :=
  ∃ numeral, read? s = some numeral ∧ numeral.value = .ok number

theorem Denotes.unique {s : List Char} {number other : Int} (h : Denotes s number)
    (h' : Denotes s other) : number = other := by
  obtain ⟨numeral, hread, hvalue⟩ := h
  obtain ⟨numeral', hread', hvalue'⟩ := h'
  obtain rfl : numeral = numeral' := Option.some.inj (hread.symm.trans hread')
  exact Except.ok.inj (hvalue.symm.trans hvalue')

end Text.Numeral

/-- What is stored for the text of an attribute: the text itself if it is valid, and the digits of a
colour. A dimension is not less than the least one. -/
def AttributeKind.Stores : AttributeKind → List Char → List Char → Prop
  | .dimension, s, value =>
    (∃ number, Text.Numeral.Denotes s number ∧ Cell.leastDimension ≤ number) ∧ value = s
  | .text, s, value => value = s
  | .color, s, value => Cell.Stored .color s value
  | .resource, s, value => Cell.Stored .resource s value
  | .number, s, value => Cell.Stored .number s value
  | .boolean, s, value => Cell.Stored .boolean s value
  | .enum, s, value => Cell.Stored .enum s value

namespace Cell

variable {s w rest text value name letters : List Char} {kind : AttributeKind} {attr : ViewAttribute}
  {attrs : List ViewAttribute}

/-! ## Values -/

theorem checkDimension_eq_ok_iff :
    checkDimension text rest = .ok value ↔ AttributeKind.dimension.Stores text value := by
  show checkDimension text rest = .ok value ↔
    (∃ number, Text.Numeral.Denotes text number ∧ leastDimension ≤ number) ∧ value = text
  unfold checkDimension
  cases hread : Text.Numeral.read? text with
  | none =>
    refine iff_of_false nofun ?_
    rintro ⟨⟨number, ⟨numeral, hnumeral, -⟩, -⟩, -⟩
    exact absurd (hread.symm.trans hnumeral) nofun
  | some numeral =>
    dsimp only
    cases hvalue : numeral.value with
    | error cause =>
      refine iff_of_false nofun ?_
      rintro ⟨⟨number, hdenotes, -⟩, -⟩
      obtain ⟨found, hfound, hnumber⟩ := hdenotes
      obtain rfl : numeral = found := Option.some.inj (hread.symm.trans hfound)
      exact absurd (hvalue.symm.trans hnumber) nofun
    | ok number =>
      have hdenotes : Text.Numeral.Denotes text number := ⟨numeral, hread, hvalue⟩
      dsimp only
      by_cases hleast : number < leastDimension
      · rw [if_pos hleast]
        refine iff_of_false nofun ?_
        rintro ⟨⟨other, hother, hle⟩, -⟩
        rw [hother.unique hdenotes] at hle
        exact Int.not_le.2 hleast hle
      · rw [if_neg hleast]
        constructor
        · intro h
          exact ⟨⟨number, hdenotes, Int.not_lt.1 hleast⟩, (Except.ok.inj h).symm⟩
        · rintro ⟨-, rfl⟩
          rfl

theorem checkAttribute_eq_ok_iff :
    checkAttribute kind text rest = .ok value ↔ kind.Stores text value := by
  cases kind with
  | dimension => exact checkDimension_eq_ok_iff
  | text => simp [checkAttribute, AttributeKind.Stores, eq_comm]
  | color | resource | number | boolean | enum =>
    rw [checkAttribute, checkLiteral_eq_ok_iff, AttributeKind.Stores]

/-! ## Attributes -/

/-- An attribute as it stands in a cell: its name, `=`, a letter for its kind, `:`, and escaped text. -/
def IsAttribute (w : List Char) (attr : ViewAttribute) : Prop :=
  ∃ letters s text, w = attr.name.toList ++ '=' :: (letters ++ ':' :: s) ∧
    Text.isIdentifier attr.name.toList = true ∧ attributeKind? letters = some attr.kind ∧
    IsText s text ∧ attr.kind.Stores text attr.value.toList

theorem readName_eq_ok {r : Shorter s} (h : readName s = .ok (name, r)) :
    s = name ++ '=' :: r.1 ∧ Text.isIdentifier name = true := by
  unfold readName at h
  dsimp only at h
  split at h
  · split at h <;> cases h
  · next c rest hrest =>
    split at h
    · next hname =>
      cases h
      -- what is behind the name begins with the character that ended it
      have hmark : ¬(c != '=') = true := by
        have hfirst := List.head?_dropWhile_not (· != '=') s
        rw [hrest] at hfirst
        simpa using hfirst
      obtain rfl : c = '=' := by simpa using hmark
      refine ⟨?_, hname⟩
      calc
        s = s.takeWhile (· != '=') ++ s.dropWhile (· != '=') := List.takeWhile_append_dropWhile.symm
        _ = s.takeWhile (· != '=') ++ '=' :: rest := by rw [hrest]
    · cases h

theorem isAttribute_of_readAttribute {r : Shorter s} (h : readAttribute s = .ok (attr, r)) :
    ∃ w, IsAttribute w attr ∧ s = w ++ r.1 := by
  unfold readAttribute at h
  rw [Except.bind_eq_ok_iff] at h
  obtain ⟨⟨name, afterName⟩, hname, h⟩ := h
  rw [Except.bind_eq_ok_iff] at h
  obtain ⟨⟨letters, afterKind⟩, hletters, h⟩ := h
  dsimp only at h
  split at h
  · cases h
  · next kind hkind =>
    simp only [Except.bind_eq_ok_iff, Except.pure_eq_ok_iff, Prod.exists] at h
    obtain ⟨text, afterText, htext, value, hvalue, hattr⟩ := h
    cases hattr
    obtain ⟨hsplit, hidentifier⟩ := readName_eq_ok hname
    obtain ⟨w, hw, hafter, -⟩ := isText_of_readText htext
    refine ⟨name ++ '=' :: (letters ++ ':' :: w), ⟨letters, w, text, ?_, ?_, hkind, hw, ?_⟩, ?_⟩
    · rw [String.toList_ofList]
    · rwa [String.toList_ofList]
    · rw [String.toList_ofList]
      exact checkAttribute_eq_ok_iff.1 hvalue
    · calc
        s = name ++ '=' :: (letters ++ ':' :: afterKind.1) := by rw [← eq_of_readKind hletters, ← hsplit]
        _ = name ++ '=' :: (letters ++ ':' :: w) ++ afterText.1 := by simp [hafter]

theorem readAttributeList_eq_ok_iff :
    readAttributeList s = .ok attrs ↔
      ∃ attr r, readAttribute s = .ok (attr, r) ∧
        (r.1 = [] ∧ attrs = [attr] ∨
          ∃ after others, r.1 = ',' :: after ∧ readAttributeList after = .ok others ∧
            attrs = attr :: others) := by
  rw [readAttributeList]
  simp only [Except.bind_eq_ok_iff, Prod.exists]
  refine exists_congr fun attr => exists_congr fun r => and_congr_right fun _ => ?_
  obtain ⟨rest, h⟩ := r
  dsimp only
  split
  · next hlast => simpa [hlast] using eq_comm
  · next hmore =>
    simp only [hmore, false_and, false_or, Except.bind_eq_ok_iff, readMark_eq_ok_iff,
      Except.pure_eq_ok_iff, Subtype.exists]
    constructor
    · rintro ⟨after, -, hcomma, others, hothers, rfl⟩
      exact ⟨after, others, hcomma, hothers, rfl⟩
    · rintro ⟨after, others, rfl, hothers, rfl⟩
      exact ⟨after, Nat.lt_succ_self _, rfl, others, hothers, rfl⟩

theorem isAttribute_of_readAttributeList (h : readAttributeList s = .ok attrs) :
    ∃ items : List (List Char × ViewAttribute), items ≠ [] ∧
      (∀ item ∈ items, IsAttribute item.1 item.2) ∧
      s = Text.joinWith ',' (items.map (·.1)) ∧ attrs = items.map (·.2) := by
  induction s using readAttributeList.induct generalizing attrs with
  | case1 s ih =>
    obtain ⟨attr, r, hattr, hrest⟩ := readAttributeList_eq_ok_iff.1 h
    obtain ⟨w, hw, hsplit⟩ := isAttribute_of_readAttribute hattr
    rcases hrest with ⟨hlast, rfl⟩ | ⟨after, others, hcomma, hothers, rfl⟩
    · refine ⟨[(w, attr)], List.cons_ne_nil _ _, by simpa using hw, ?_, rfl⟩
      rw [hsplit, hlast, List.append_nil]
      rfl
    · obtain ⟨items, hne, hitems, rfl, rfl⟩ := ih r.1 r.2 after (hcomma ▸ Nat.lt_succ_self _) hothers
      refine ⟨(w, attr) :: items, List.cons_ne_nil _ _, List.forall_mem_cons.2 ⟨hw, hitems⟩, ?_, rfl⟩
      rw [hsplit, hcomma]
      obtain ⟨next, items, rfl⟩ := List.exists_cons_of_ne_nil hne
      rfl

/-- **The attributes of a cell stand in it**, in their order and with commas between them. -/
theorem isAttribute_of_readAttributes (h : readAttributes s = .ok attrs) :
    ∃ items : List (List Char × ViewAttribute), (∀ item ∈ items, IsAttribute item.1 item.2) ∧
      s = Text.joinWith ',' (items.map (·.1)) ∧ attrs = items.map (·.2) := by
  unfold readAttributes at h
  split at h
  · next hempty =>
    cases h
    exact ⟨[], List.forall_mem_nil _, hempty, rfl⟩
  · obtain ⟨items, -, hitems, hjoin, hattrs⟩ := isAttribute_of_readAttributeList h
    exact ⟨items, hitems, hjoin, hattrs⟩

end Cell

namespace Section

variable {name cell : String} {line : Int} {attrs : List ViewAttribute} {attr : ViewAttribute}

/-- An attribute that is read from a cell stands in it. -/
theorem exists_isAttribute_of_attributes (h : attributes name line cell = .ok attrs) (hattr : attr ∈ attrs) :
    ∃ w, Cell.IsAttribute w attr ∧ ∀ c ∈ w, c ∈ cell.toList := by
  rw [attributes, Except.mapError_eq_ok_iff] at h
  obtain ⟨items, hitems, hcell, rfl⟩ := Cell.isAttribute_of_readAttributes h
  obtain ⟨item, hitem, rfl⟩ := List.mem_map.1 hattr
  refine ⟨item.1, hitems item hitem, fun c hc => ?_⟩
  rw [hcell]
  exact Text.mem_joinWith_of_mem (List.mem_map_of_mem hitem) hc

/-- It holds what is stored for a text there. -/
theorem stores_of_attributes (h : attributes name line cell = .ok attrs) (hattr : attr ∈ attrs) :
    ∃ text, attr.kind.Stores text attr.value.toList := by
  obtain ⟨w, hw, -⟩ := exists_isAttribute_of_attributes h hattr
  obtain ⟨_, _, text, -, -, -, -, hstores⟩ := hw
  exact ⟨text, hstores⟩

end Section

end BlockApp
