import BlockApp.Layout.Document
import BlockApp.Proofs.Cell.Attributes
import Mathlib

/-!
# Sizes

The width and the height of a view are whole numbers, of which two stand for sizes that the layout works
out. A number can be spelled in several ways: with zeros before it, in digits of any script, with a line
feed at its end. A size is looked up by its spelling, though, and not by its number, so a layout has the
size that was meant only if it was spelled in the one way in which numbers are written.

* `sizeOfNumber` — a size by its number
* `sizeText_injective` — sizes that are spelled in different ways are written in different ways
* `size_by_number_iff` — which sizes are written by their number
-/

namespace BlockApp.Layout

open Text.Numeral

/-- A size by its number. -/
def sizeOfNumber (number : Int) : String :=
  if number = -1 then "match_parent"
  else if number = -2 then "wrap_content"
  else toString number ++ "dp"

section Spelling

variable {value other : String} {number : Int}

/-- A size that is not looked up is taken for neither of those that are. -/
theorem append_dp_ne (value : String) :
    value ++ "dp" ≠ "match_parent" ∧ value ++ "dp" ≠ "wrap_content" := by
  have hlast : (value ++ "dp").toList.getLast? = some 'p' := by
    rw [String.toList_append, List.getLast?_append]
    rfl
  constructor
  · intro h
    rw [h] at hlast
    exact absurd hlast (by decide)
  · intro h
    rw [h] at hlast
    exact absurd hlast (by decide)

theorem append_dp_inj : value ++ "dp" = other ++ "dp" ↔ value = other := by
  rw [← String.toList_inj, String.toList_append, String.toList_append, List.append_cancel_right_eq,
    String.toList_inj]

theorem sizeText_cases (value : String) :
    value = "-1" ∧ sizeText value = "match_parent" ∨ value = "-2" ∧ sizeText value = "wrap_content" ∨
      (value ≠ "-1" ∧ value ≠ "-2") ∧ sizeText value = value ++ "dp" := by
  unfold sizeText
  by_cases hone : value = "-1"
  · exact .inl ⟨hone, if_pos hone⟩
  · by_cases htwo : value = "-2"
    · exact .inr (.inl ⟨htwo, by rw [if_neg hone, if_pos htwo]⟩)
    · exact .inr (.inr ⟨⟨hone, htwo⟩, by rw [if_neg hone, if_neg htwo]⟩)

/-- Sizes that are spelled in different ways are written in different ways. -/
theorem sizeText_injective (h : sizeText value = sizeText other) : value = other := by
  rcases sizeText_cases value with ⟨hsame, hvalue⟩ | ⟨hsame, hvalue⟩ | ⟨-, hvalue⟩
  · rcases sizeText_cases other with ⟨hsame', -⟩ | ⟨-, hother⟩ | ⟨-, hother⟩
    · exact hsame.trans hsame'.symm
    · exact absurd (hvalue.symm.trans (h.trans hother)) (by decide)
    · exact absurd (hother.symm.trans (h.symm.trans hvalue)) (append_dp_ne other).1
  · rcases sizeText_cases other with ⟨-, hother⟩ | ⟨hsame', -⟩ | ⟨-, hother⟩
    · exact absurd (hvalue.symm.trans (h.trans hother)) (by decide)
    · exact hsame.trans hsame'.symm
    · exact absurd (hother.symm.trans (h.symm.trans hvalue)) (append_dp_ne other).2
  · rcases sizeText_cases other with ⟨-, hother⟩ | ⟨-, hother⟩ | ⟨-, hother⟩
    · exact absurd (hvalue.symm.trans (h.trans hother)) (append_dp_ne value).1
    · exact absurd (hvalue.symm.trans (h.trans hother)) (append_dp_ne value).2
    · exact append_dp_inj.1 (hvalue.symm.trans (h.trans hother))

/-- A size is written by its number exactly if it is spelled as numbers are written. -/
theorem sizeText_eq_sizeOfNumber_iff (h : Denotes value.toList number) :
    sizeText value = sizeOfNumber number ↔ value = toString number := by
  rcases sizeText_cases value with ⟨rfl, hvalue⟩ | ⟨rfl, hvalue⟩ | ⟨⟨hone, htwo⟩, hvalue⟩
  · obtain rfl : number = -1 := h.unique ⟨⟨true, [1]⟩, by decide, by rfl⟩
    exact iff_of_true hvalue (by decide)
  · obtain rfl : number = -2 := h.unique ⟨⟨true, [2]⟩, by decide, by rfl⟩
    exact iff_of_true hvalue (by decide)
  · rw [hvalue, sizeOfNumber]
    by_cases hmatch : number = -1
    · subst hmatch
      rw [if_pos rfl]
      exact iff_of_false (append_dp_ne value).1 hone
    · by_cases hwrap : number = -2
      · subst hwrap
        rw [if_neg hmatch, if_pos rfl]
        exact iff_of_false (append_dp_ne value).2 htwo
      · rw [if_neg hmatch, if_neg hwrap]
        exact append_dp_inj

end Spelling

/-- Widths and heights are written as sizes, wherever their view stands. -/
theorem attributeOf_size {attr : ViewAttribute} (hkind : attr.kind = .dimension)
    (hname : attr.name = "layout_width" ∨ attr.name = "layout_height") (assets : Assets) (screen : String)
    (inside : Option Component) (record : ViewRecord) :
    attributeOf assets screen inside record attr =
      .ok (some (⟨.android, attr.name⟩, sizeText attr.value)) := by
  obtain ⟨name, kind, value⟩ := attr
  obtain rfl : kind = .dimension := hkind
  rcases hname with rfl | rfl
  · rfl
  · rfl

/-- **Which sizes are written by their number.** A width or a height that is read from a cell stands for a
number that is not less than the least one, and a layout writes it in the same way wherever its view
stands. What is written is the size of this number exactly if the number is spelled as numbers are written,
and sizes that are spelled in different ways are written in different ways, also if they stand for the same
number. -/
theorem size_by_number_iff {name : String} {line : Int} {cell : String} {attrs : List ViewAttribute}
    (h : Section.attributes name line cell = .ok attrs) {attr : ViewAttribute} (hattr : attr ∈ attrs)
    (hkind : attr.kind = .dimension)
    (hname : attr.name = "layout_width" ∨ attr.name = "layout_height") :
    ∃ number text, Denotes attr.value.toList number ∧ -2 ≤ number ∧
      (∀ assets screen inside record,
        attributeOf assets screen inside record attr = .ok (some (⟨.android, attr.name⟩, text))) ∧
      (text = sizeOfNumber number ↔ attr.value = toString number) ∧
      ∀ other, sizeText other = text ↔ other = attr.value := by
  obtain ⟨s, hstores⟩ := Section.stores_of_attributes h hattr
  rw [hkind] at hstores
  obtain ⟨⟨number, hdenotes, hleast⟩, rfl⟩ := hstores
  refine ⟨number, sizeText attr.value, hdenotes, hleast, attributeOf_size hkind hname,
    sizeText_eq_sizeOfNumber_iff hdenotes, fun other => ⟨sizeText_injective, ?_⟩⟩
  rintro rfl
  rfl

/-- A width and a height that are the same number, spelled in two ways. -/
theorem size_by_number_iff_zero :
    Section.attributes "view" 2 "layout_width=d:-01,layout_height=d:-1" =
        .ok [⟨"layout_width", .dimension, "-01"⟩, ⟨"layout_height", .dimension, "-1"⟩] ∧
      (∃ text, (∀ assets screen inside record,
        attributeOf assets screen inside record ⟨"layout_width", .dimension, "-01"⟩ =
          .ok (some (⟨.android, "layout_width"⟩, text))) ∧ text ≠ sizeOfNumber (-1)) ∧
      ∃ text, (∀ assets screen inside record,
        attributeOf assets screen inside record ⟨"layout_height", .dimension, "-1"⟩ =
          .ok (some (⟨.android, "layout_height"⟩, text))) ∧ text = sizeOfNumber (-1) := by
  have hread : Section.attributes "view" 2 "layout_width=d:-01,layout_height=d:-1" =
      .ok [⟨"layout_width", .dimension, "-01"⟩, ⟨"layout_height", .dimension, "-1"⟩] := by
    cbv
  have hdenotes : Denotes "-01".toList (-1) := ⟨⟨true, [0, 1]⟩, by decide +kernel, by rfl⟩
  have hdenotes' : Denotes "-1".toList (-1) := ⟨⟨true, [1]⟩, by decide +kernel, by rfl⟩
  obtain ⟨number, text, hnumber, -, hwritten, hiff, -⟩ :=
    size_by_number_iff hread List.mem_cons_self rfl (.inl rfl)
  obtain ⟨number', text', hnumber', -, hwritten', hiff', -⟩ :=
    size_by_number_iff hread (List.mem_cons_of_mem _ List.mem_cons_self) rfl (.inr rfl)
  obtain rfl : number = -1 := hnumber.unique hdenotes
  obtain rfl : number' = -1 := hnumber'.unique hdenotes'
  refine ⟨hread, ⟨text, hwritten, fun heq => ?_⟩, text', hwritten', hiff'.2 (by decide)⟩
  exact absurd (hiff.1 heq) (by decide)

end BlockApp.Layout
