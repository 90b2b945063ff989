import BlockApp.Proofs.Cell.Reader
import BlockApp.Proofs.Section.Color
import Mathlib.Data.List.DropRight

/-!
# Writing parameter cells

Every list of expressions that a cell can stand for is written as a cell that stands for it. So nothing is
lost on the way from a cell to expressions but the way they were written.

* `Expr.WellFormed`, `exists_isItem_iff` — the expressions that an item can stand for
* `print`, `isItem_print` — an item of each of them
* `Section.parameters_iff_cell` — which cells are taken, what of the others, and cells that are written
-/

namespace BlockApp

namespace Text

/-- A character as it is written in a cell. -/
def escapeChar (c : Char) : List Char :=
  if c = '\t' then ['\\', 't']
  else if c = '\n' then ['\\', 'n']
  else if c ∈ [',', '[', ']', '\\'] then ['\\', c]
  else [c]

/-- A text as it is written in a cell. -/
def escape (text : List Char) : List Char := text.flatMap escapeChar

/-- A text without blanks around it begins with none. -/
theorem dropWhile_trim (s : List Char) : (trim s).dropWhile isBlank = trim s := by
  have hkept : trim s <+: s.dropWhile isBlank := List.rdropWhile_prefix isBlank _
  have hfirst := List.dropWhile_eq_self_iff.1 (List.dropWhile_idempotent isBlank s)
  refine List.dropWhile_eq_self_iff.2 fun hpos => ?_
  rw [hkept.getElem hpos]
  exact hfirst (Nat.lt_of_lt_of_le hpos hkept.length_le)

@[simp] theorem trim_trim (s : List Char) : trim (trim s) = trim s := by
  show dropEndWhile isBlank ((trim s).dropWhile isBlank) = trim s
  rw [dropWhile_trim]
  exact List.rdropWhile_idempotent isBlank _

end Text

open Cell

/-! ## Well-formed expressions -/

/-- Whether a literal of a type can hold a value. -/
def LiteralType.Holds : LiteralType → List Char → Prop
  | .string, _ => True
  | .number, value => Text.isNumber value = true
  | .boolean, value => value = "true".toList ∨ value = "false".toList
  | .color, value => Color.IsKept value
  | .enum, value => Text.isFlagList value = true
  | .resource, value => Text.isIdentifier value = true

/-- Whether an expression is well formed: its literals hold values of their types, its references have
names, and its calls have tags that are not blank and have no blanks around them. -/
inductive Expr.WellFormed : Expr → Prop where
  | literal {type : LiteralType} {value : String} (h : type.Holds value.toList) :
      WellFormed (.literal type value)
  | reference {kind : ReferenceKind} {name : String} (h : Text.isIdentifier name.toList = true) :
      WellFormed (.reference kind name)
  | call {tag : String} {args : List Expr} (hblank : tag ≠ "")
      (htrim : Text.trim tag.toList = tag.toList) (hargs : ∀ arg ∈ args, WellFormed arg) :
      WellFormed (.call tag args)

namespace Cell

variable {w s text value : List Char} {e : Expr} {es : List Expr}

/-- The text of a literal with a value. -/
def literalText : LiteralType → List Char → List Char
  | .color, value => Color.written value
  | _, value => value

theorem stored_literalText {type : LiteralType} (h : type.Holds value) :
    Stored type (literalText type value) value := by
  cases type with
  | string => rfl
  | number | boolean | enum | resource => exact ⟨h, rfl⟩
  | color => exact Color.normalize_written h

theorem holds_of_stored {type : LiteralType} (h : Stored type text value) : type.Holds value := by
  cases type with
  | string => trivial
  | number | boolean | enum | resource => exact h.2 ▸ h.1
  | color => exact Color.exists_normalize_iff.1 ⟨text, h⟩

theorem wellFormed_of_isItem (h : IsItem w e) : e.WellFormed := by
  induction h with
  | @plain kind s text e hs he =>
    cases kind with
    | literal type =>
      obtain ⟨value, hvalue, rfl⟩ := he
      exact .literal (by simpa using holds_of_stored hvalue)
    | reference kind =>
      obtain ⟨hname, rfl⟩ := he
      exact .reference (by simpa using hname)
  | @call tag text items htag hblank hitems ih =>
    refine .call (by simpa using hblank) (by simp) fun arg harg => ?_
    obtain ⟨item, hitem, rfl⟩ := List.mem_map.1 harg
    exact ih item hitem

/-! ## Writing -/

mutual

/-- An item that stands for an expression. -/
def print : Expr → List Char
  | .literal type value =>
    (ItemKind.literal type).letter :: ':' :: Text.escape (literalText type value.toList)
  | .reference kind name => (ItemKind.reference kind).letter :: ':' :: Text.escape name.toList
  | .call tag args => '[' :: (Text.escape tag.toList ++ printArguments args) ++ [']']

/-- Items that stand for arguments, each after a comma. -/
def printArguments : List Expr → List Char
  | [] => []
  | arg :: args => ',' :: (print arg ++ printArguments args)

end

/-- A cell that stands for expressions. -/
def printCell (es : List Expr) : List Char := Text.joinWith ',' (es.map print)

theorem printArguments_eq (es : List Expr) : printArguments es = (es.map print).flatMap (',' :: ·) := by
  induction es with
  | nil => rfl
  | cons e es ih => rw [printArguments, ih, List.map_cons, List.flatMap_cons, List.cons_append]

theorem isText_escape (text : List Char) : IsText (Text.escape text) text := by
  induction text with
  | nil => exact .nil
  | cons c text ih =>
    have hsplit : Text.escape (c :: text) = Text.escapeChar c ++ Text.escape text := List.flatMap_cons
    rw [hsplit, Text.escapeChar]
    split
    · next htab =>
      subst htab
      exact .escaped (c := 't') ih
    split
    · next hline =>
      subst hline
      exact .escaped (c := 'n') ih
    split
    · next hmark =>
      -- none of the marks is a letter that stands for another character after a backslash
      have hself : Text.escapedChar c = c := by
        simp only [List.mem_cons, List.not_mem_nil, or_false] at hmark
        rcases hmark with rfl | rfl | rfl | rfl <;> decide
      have hescaped := IsText.escaped (c := c) ih
      rwa [hself] at hescaped
    · next hplain => exact .plain hplain ih

/-- **A well-formed expression is what its item stands for.** -/
theorem isItem_print (h : e.WellFormed) : IsItem (print e) e := by
  induction h with
  | @literal type value hvalue =>
    have hmakes : (ItemKind.literal type).Makes (literalText type value.toList) (.literal type value) :=
      ⟨value.toList, stored_literalText hvalue, by rw [String.ofList_toList]⟩
    exact .plain (isText_escape _) hmakes
  | @reference kind name hname =>
    have hmakes : (ItemKind.reference kind).Makes name.toList (.reference kind name) :=
      ⟨hname, by rw [String.ofList_toList]⟩
    exact .plain (isText_escape _) hmakes
  | @call tag args hblank htrim hargs ih =>
    have hitems : ∀ item ∈ args.map fun arg => (print arg, arg), IsItem item.1 item.2 := by
      intro item hitem
      obtain ⟨arg, harg, rfl⟩ := List.mem_map.1 hitem
      exact ih arg harg
    have htag : Text.trim tag.toList ≠ [] := by
      rw [htrim]
      simpa using hblank
    have hcall := IsItem.call (isText_escape tag.toList) htag hitems
    rw [htrim, String.ofList_toList, List.map_map, List.map_map] at hcall
    rw [print, printArguments_eq, ← Text.joinWith_cons]
    simpa [Function.comp_def] using hcall

/-- The well-formed expressions are those that items stand for. -/
theorem exists_isItem_iff : (∃ w, IsItem w e) ↔ e.WellFormed :=
  ⟨fun ⟨_, h⟩ => wellFormed_of_isItem h, fun h => ⟨print e, isItem_print h⟩⟩

theorem isCell_printCell (h : ∀ e ∈ es, e.WellFormed) : IsCell (printCell es) es := by
  by_cases hempty : es = []
  · subst hempty
    exact .inl ⟨rfl, rfl⟩
  · refine .inr ⟨es.map fun e => (print e, e), by simpa using hempty, fun item hitem => ?_, ?_, ?_⟩
    · obtain ⟨e, he, rfl⟩ := List.mem_map.1 hitem
      exact isItem_print (h e he)
    · rw [List.map_map]
      rfl
    · simp [Function.comp_def]

end Cell

/-! ## Cells of a section -/

namespace Section

theorem parameters_eq_ok_iff {name : String} {line : Int} {cell : String} {es : List Expr} :
    parameters name line cell = .ok es ↔ IsCell cell.toList es := by
  rw [parameters, Except.mapError_eq_ok_iff, readParameters_eq_ok_iff]

/-- **A cell is taken exactly if the grammar derives it**, and for what it stands for there. Other cells
are refused at a place in the cell, but a colour in one of them can be too long for that. Well-formed
expressions are read from the cell that is written for them. -/
theorem parameters_iff_cell (name : String) (line : Int) :
    (∀ cell es, parameters name line cell = .ok es ↔ IsCell cell.toList es) ∧
    (∀ cell, (∀ es, ¬IsCell cell.toList es) →
      (∃ problem column,
        parameters name line cell = .error (.sectionText name line (.cell problem column cell))) ∨
      HasLongColor cell.toList ∧
        ∃ cause, parameters name line cell = .error (.system (.tooManyDigits cause))) ∧
    ∀ es, (∀ e ∈ es, e.WellFormed) →
      parameters name line (String.ofList (printCell es)) = .ok es := by
  refine ⟨fun cell es => parameters_eq_ok_iff, fun cell hnot => ?_, fun es hes => ?_⟩
  · cases hread : readParameters cell.toList with
    | ok es => exact absurd (readParameters_eq_ok_iff.1 hread) (hnot es)
    | error fault =>
      cases fault with
      | problem problem left => exact .inl ⟨problem, _, by rw [parameters, hread]; rfl⟩
      | tooManyDigits cause =>
        exact .inr ⟨hasLongColor_of_readParameters hread, cause, by rw [parameters, hread]; rfl⟩
  · rw [parameters_eq_ok_iff, String.toList_ofList]
    exact isCell_printCell hes

/-- A call in a call, with escaped text and a colour that ends with a line feed. -/
def nestedSample : List Expr :=
  [.call "a [b]" [.call "c" [.literal .string "x,\ty"], .literal .color "FFFF0000\n"],
    .reference .view "button"]

theorem wellFormed_nestedSample : ∀ e ∈ nestedSample, e.WellFormed := by
  have hstring : (Expr.literal .string "x,\ty").WellFormed := .literal trivial
  have hdigits : "FF0000".toList.all Text.isUpperHex = true := by decide +kernel
  have hcolor : (Expr.literal .color "FFFF0000\n").WellFormed :=
    .literal (.inr ⟨"FF0000".toList, .inl rfl, List.all_eq_true.1 hdigits, rfl⟩)
  have hinner : (Expr.call "c" [.literal .string "x,\ty"]).WellFormed :=
    .call (by decide) (by decide +kernel) (List.forall_mem_singleton.2 hstring)
  have houter : (Expr.call "a [b]"
      [.call "c" [.literal .string "x,\ty"], .literal .color "FFFF0000\n"]).WellFormed :=
    .call (by decide) (by decide +kernel)
      (List.forall_mem_cons.2 ⟨hinner, List.forall_mem_singleton.2 hcolor⟩)
  have hview : (Expr.reference .view "button").WellFormed := .reference (by decide +kernel)
  exact List.forall_mem_cons.2 ⟨houter, List.forall_mem_singleton.2 hview⟩

theorem parameters_iff_cell_nested :
    (∀ e ∈ nestedSample, e.WellFormed) ∧
      parameters "logic" 3 (String.ofList (printCell nestedSample)) = .ok nestedSample ∧
      (∀ es, ¬IsCell "s:a]b".toList es) ∧
      ∃ problem column,
        parameters "logic" 3 "s:a]b" = .error (.sectionText "logic" 3 (.cell problem column "s:a]b")) := by
  have hrefused : ∀ es, ¬IsCell "s:a]b".toList es := by
    intro es h
    have hread := readParameters_eq_ok_iff.2 h
    have hfails : (readParameters "s:a]b".toList).isOk = false := by decide +kernel
    rw [hread] at hfails
    cases hfails
  have hshort : ¬HasLongColor "s:a]b".toList := fun h => absurd h.lt_length (by decide)
  obtain ⟨-, hmalformed, hprinted⟩ := parameters_iff_cell "logic" 3
  exact ⟨wellFormed_nestedSample, hprinted _ wellFormed_nestedSample, hrefused,
    (hmalformed _ hrefused).resolve_right fun hlong => hshort hlong.1⟩

end Section

end BlockApp
