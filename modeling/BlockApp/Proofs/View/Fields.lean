import BlockApp.Proofs.Section.Lines
import BlockApp.Proofs.View.Names
import Mathlib.Data.List.Basic

/-!
# Fields of views

The id, the type and the parent of a view are escaped names. The first two are decoded once. The parent is
decoded twice: what its field stands for is taken for an escaped name again. Only a backslash that is left
by the first decoding makes a difference, and a name has none, so a field that stands for a name of a view
does name it; but there are fields that name a view and stand for another text.

* `Text.backslash_notMem_of_isIdentifier` — what a name is decoded to, it is itself
* `ViewSection.parent_eq_some_iff` — the view that the field of a parent names
* `ViewSection.fields_of_ofText` — every view and the fields of its line
-/

namespace BlockApp

theorem Text.backslash_notMem_of_isIdentifier {s : List Char} (h : isIdentifier s = true) : '\\' ∉ s :=
  notMem_of_isIdentifier h (by decide) (by decide)

/-- What is decoded from an identifier is the identifier. -/
theorem Text.unescape_eq_self {s : String} (h : '\\' ∉ s.toList) : unescape s = s := by
  rw [unescape, unescapeChars_eq_self h, String.ofList_toList]

namespace ViewSection

variable {text idField typeField parentField cell name : String} {view : ViewRecord}

open Text (unescape)

theorem WritesView.parent_eq_none_iff (h : WritesView idField typeField parentField cell view) :
    view.parent = none ↔ unescape parentField = "" := by
  rw [h.parent]
  split
  · next hempty => exact iff_of_true rfl hempty
  · next hne => exact iff_of_false nofun hne

/-- The view of a name is the parent if the name is what the field is decoded to in two steps. -/
theorem WritesView.parent_eq_some_iff (h : WritesView idField typeField parentField cell view)
    (hname : Text.isIdentifier name.toList = true) :
    view.parent = some name ↔ unescape (unescape parentField) = name := by
  rw [h.parent]
  split
  · next hempty =>
    refine iff_of_false nofun ?_
    rintro rfl
    rw [hempty] at hname
    exact absurd hname (by decide)
  · exact Option.some_inj

/-- What one step gives is the parent if it needs no second one. -/
theorem WritesView.parent_eq_unescape_iff (h : WritesView idField typeField parentField cell view) :
    view.parent = some (unescape parentField) ↔
      unescape parentField ≠ "" ∧ '\\' ∉ (unescape parentField).toList := by
  constructor
  · intro hparent
    refine ⟨fun hempty => ?_, ?_⟩
    · rw [h.parent_eq_none_iff.2 hempty] at hparent
      cases hparent
    · exact Text.backslash_notMem_of_isIdentifier (h.isIdentifier_parent _ hparent)
  · rintro ⟨hne, hslash⟩
    rw [h.parent, if_neg hne, Text.unescape_eq_self hslash]

/-- Every view is read from the line of its number. -/
theorem exists_fields_of_ofText {skipped : List String} {views : ViewSection}
    (h : ofText text skipped = .ok views) {screen : ViewScreen} (hscreen : screen ∈ views.screens)
    {record : ViewRecord} (hrecord : record ∈ screen.records) :
    ∃ idField typeField parentField cell,
      Section.fieldsAt? text record.line = some [idField, typeField, parentField, cell] ∧
      WritesView idField typeField parentField cell record := by
  simp only [ofText, Except.bind_eq_ok_iff, Except.pure_eq_ok_iff] at h
  obtain ⟨groups, hgroups, screens, hscreens, rfl⟩ := h
  obtain ⟨group, hgroup, hrecords⟩ := exists_group_of_readGroups hscreens hscreen
  obtain ⟨line, hline, hread⟩ := Except.exists_source_of_mapM hrecords hrecord
  obtain ⟨hnumber, idField, typeField, parentField, cell, hfields, hview⟩ := writesView_of_readView hread
  refine ⟨idField, typeField, parentField, cell, ?_, hview⟩
  rw [hnumber, ← hfields]
  exact Section.fieldsAt?_of_splitGroups hgroups hgroup hline

/-- **What the fields of a view say.** The id and the type of a view are decoded once. There is no parent
exactly if its field is decoded to nothing, and otherwise the parent is what the field is decoded to in two
steps. That is what one step gives exactly if this has no backslash. The parent is another view exactly if
two steps lead to what the field of that view's id is decoded to. One step says the same if it leaves no
backslash; if it does, it leads to the id of no view, whatever the parent is. -/
theorem fields_of_ofText {skipped : List String} {views : ViewSection}
    (h : ofText text skipped = .ok views) {screen : ViewScreen} (hscreen : screen ∈ views.screens)
    {record : ViewRecord} (hrecord : record ∈ screen.records) :
    ∃ idField typeField parentField cell,
      Section.fieldsAt? text record.line = some [idField, typeField, parentField, cell] ∧
      record.id = unescape idField ∧ record.type = unescape typeField ∧
      (record.parent = none ↔ unescape parentField = "") ∧
      (∀ parent ∈ record.parent, parent = unescape (unescape parentField)) ∧
      (record.parent = some (unescape parentField) ↔
        unescape parentField ≠ "" ∧ '\\' ∉ (unescape parentField).toList) ∧
      ∀ other ∈ screen.records, ∀ otherField fields,
        Section.fieldsAt? text other.line = some (otherField :: fields) →
          (record.parent = some other.id ↔ unescape (unescape parentField) = unescape otherField) ∧
          ('\\' ∉ (unescape parentField).toList →
            (record.parent = some other.id ↔ unescape parentField = unescape otherField)) ∧
          ('\\' ∈ (unescape parentField).toList → unescape parentField ≠ unescape otherField) := by
  obtain ⟨idField, typeField, parentField, cell, hfields, hview⟩ :=
    exists_fields_of_ofText h hscreen hrecord
  refine ⟨idField, typeField, parentField, cell, hfields, hview.id.1, hview.type.1,
    hview.parent_eq_none_iff, ?_, hview.parent_eq_unescape_iff, ?_⟩
  · intro parent hparent
    exact ((hview.parent_eq_some_iff (hview.isIdentifier_parent parent hparent)).1 hparent).symm
  · intro other hother otherField fields hotherFields
    obtain ⟨otherField', _, _, _, hotherFields', hotherView⟩ := exists_fields_of_ofText h hscreen hother
    rw [hotherFields', Option.some_inj] at hotherFields
    obtain rfl : otherField' = otherField := List.head_eq_of_cons_eq hotherFields
    have hname := hotherView.id.2
    rw [← hotherView.id.1, hview.parent_eq_some_iff hname]
    refine ⟨Iff.rfl, ?_, ?_⟩
    · intro hslash
      rw [Text.unescape_eq_self hslash]
    · intro hslash heq
      rw [← heq] at hname
      exact Text.backslash_notMem_of_isIdentifier hname hslash

/-- A screen with a button whose parent field has two backslashes in it. -/
def twiceText : String := "@main.xml\nlinear1\tLinearLayout\t\t\nbutton1\tButton\tlin\\\\ear1\t\n"

/-- The root of that screen. -/
def twiceRoot : ViewRecord := ⟨2, "linear1", "LinearLayout", none, []⟩

/-- The button of that screen. -/
def twiceButton : ViewRecord := ⟨3, "button1", "Button", some "linear1", []⟩

/-- That screen. -/
def twiceScreen : ViewScreen := ⟨"main", [twiceRoot, twiceButton]⟩

/-- The button is in the root, though its field does not stand for the root's id. -/
theorem fields_of_ofText_twice :
    ofText twiceText [] = .ok ⟨[twiceScreen]⟩ ∧ twiceRoot ∈ twiceScreen.records ∧
      twiceButton ∈ twiceScreen.records ∧ twiceButton.parent = some twiceRoot.id ∧
      twiceButton.parent ≠ some (unescape "lin\\\\ear1") ∧
      unescape "lin\\\\ear1" ≠ unescape "linear1" := by
  have hread : ofText twiceText [] = .ok ⟨[twiceScreen]⟩ := by decide +kernel
  have hroot : twiceRoot ∈ twiceScreen.records := List.mem_cons_self
  have hbutton : twiceButton ∈ twiceScreen.records := List.mem_cons_of_mem _ List.mem_cons_self
  have hrootLine : Section.fieldsAt? twiceText twiceRoot.line = some ["linear1", "LinearLayout", "", ""] := by
    decide +kernel
  have hline : Section.fieldsAt? twiceText twiceButton.line =
      some ["button1", "Button", "lin\\\\ear1", ""] := by decide +kernel
  have hslash : '\\' ∈ (unescape "lin\\\\ear1").toList := by decide
  obtain ⟨_, _, parentField, _, hfields, -, -, -, -, hparent, hothers⟩ :=
    fields_of_ofText hread (List.mem_singleton_self _) hbutton
  rw [hline, Option.some_inj, List.cons.injEq, List.cons.injEq, List.cons.injEq] at hfields
  obtain ⟨-, -, rfl, -⟩ := hfields
  obtain ⟨-, -, hno⟩ := hothers _ hroot _ _ hrootLine
  exact ⟨hread, hroot, hbutton, rfl, fun hsame => (hparent.1 hsame).2 hslash, hno hslash⟩

end ViewSection

end BlockApp
