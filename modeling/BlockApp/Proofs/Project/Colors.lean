import BlockApp.Proofs.Cell.Attributes
import BlockApp.Proofs.Decompile.Artifacts
import BlockApp.Proofs.Layout.Attributes
import BlockApp.Proofs.Logic.WellFormed
import BlockApp.Proofs.Method.Expression

/-!
# Colours of a project

A colour is meant to be kept as eight upper-case digits, from which it can be written and read again. One
that is written with `#` may have a line feed behind its digits, as other tokens may, and this line feed is
kept. All other colours are kept as they should be, in whatever part of a project they stand, and so is
what they are in code and in layouts.

* `IsDigits`, `LineBehind` — eight digits, and the texts that are not kept as such
* `lineFeed_mem_iff`, `normalize_hash_iff` — what is kept of which texts
* `LogicSection.isKept_of_ofText`, `ViewSection.stores_of_ofText` — where colours stand in a project
* `eight_digits_iff` — which colours are eight digits
-/

namespace BlockApp

/-! ## Digits -/

namespace Color

variable {text value digits : List Char}

/-- Whether a colour is kept as it should be: as eight upper-case digits. -/
def IsDigits (value : List Char) : Prop := value.length = 8 ∧ ∀ c ∈ value, Text.isUpperHex c = true

/-- Whether a text has a line feed behind a colour that is written with `#`. -/
def LineBehind (text : List Char) : Prop := ∃ digits, text = '#' :: (digits ++ ['\n'])

theorem isDigits_iff_of_isKept (h : IsKept value) : IsDigits value ↔ '\n' ∉ value := by
  constructor
  · intro hdigits hline
    exact absurd (hdigits.2 _ hline) (by decide)
  · intro hline
    rcases h with hdigits | ⟨digits, -, -, rfl⟩
    · exact hdigits
    · exact absurd (by simp) hline

theorem hexDigits?_eq_some (h : hexDigits? text = some digits) :
    ∃ s, text = '#' :: s ∧ digits = s.map Char.toUpper ∧
      ∀ c ∈ Text.withoutFinalNewline s, Text.isHexDigit c = true := by
  unfold hexDigits? at h
  split at h
  · next s =>
    dsimp only at h
    split at h
    · next hvalid =>
      cases h
      exact ⟨s, rfl, rfl, List.all_eq_true.1 hvalid.2⟩
    · cases h
  · cases h

/-- Digits of a colour hold a line feed exactly if the text has one behind them. -/
theorem lineFeed_mem_digits_iff (h : hexDigits? text = some digits) :
    '\n' ∈ digits ↔ LineBehind text := by
  obtain ⟨s, rfl, rfl, hhex⟩ := hexDigits?_eq_some h
  rcases Text.withoutFinalNewline_cases s with hsame | hline
  · refine iff_of_false (fun hmem => ?_) ?_
    · obtain ⟨c, hc, hupper⟩ := List.mem_map.1 hmem
      have hdigit := Text.isUpperHex_toUpper (hhex c (hsame ▸ hc))
      rw [hupper] at hdigit
      exact absurd hdigit (by decide)
    · rintro ⟨others, hsplit⟩
      have hmem : '\n' ∈ s := by
        rw [List.tail_eq_of_cons_eq hsplit]
        simp
      exact Text.ne_lineFeed_of_isHexDigit (hhex _ (hsame ▸ hmem)) rfl
  · refine iff_of_true ?_ ⟨_, congrArg ('#' :: ·) hline⟩
    rw [hline, List.map_append]
    exact List.mem_append_right _ (by decide)

/-- The text of a colour with the digits it is kept as, or a number. -/
theorem normalize_cases (h : normalize text = .ok (some value)) :
    (∃ digits, hexDigits? text = some digits ∧
        value = if digits.length = 8 then digits else 'F' :: 'F' :: digits) ∨
      (∃ number, value = packedDigits number) ∧ ∀ s, text ≠ '#' :: s := by
  unfold normalize at h
  split at h
  · next digits hdigits =>
    cases h
    exact .inl ⟨digits, hdigits, rfl⟩
  · split at h
    · cases h
    · next numeral hnumeral =>
      rw [Except.bind_eq_ok_iff] at h
      obtain ⟨number, -, h⟩ := h
      refine .inr ⟨⟨number, ?_⟩, ?_⟩
      · split at h
        · cases h
          rfl
        · cases h
      · rintro s rfl
        rw [Text.Numeral.read?_hash] at hnumeral
        cases hnumeral

/-- **What is kept of a colour holds a line feed exactly if its text has one behind its digits.** -/
theorem lineFeed_mem_iff (h : normalize text = .ok (some value)) : '\n' ∈ value ↔ LineBehind text := by
  rcases normalize_cases h with ⟨digits, hdigits, rfl⟩ | ⟨⟨number, rfl⟩, hhash⟩
  · rw [← lineFeed_mem_digits_iff hdigits]
    split
    · rfl
    · simp
  · refine iff_of_false (fun hmem => ?_) fun ⟨digits, hsplit⟩ => hhash _ hsplit
    exact absurd (Text.all_isUpperHex_fixedHex _ _ _ hmem) (by decide)

theorem isDigits_iff (h : normalize text = .ok (some value)) : IsDigits value ↔ ¬LineBehind text := by
  rw [isDigits_iff_of_isKept (exists_normalize_iff.1 ⟨text, h⟩), lineFeed_mem_iff h]

/-- What is kept of a colour is kept as itself, behind `#`, exactly if it holds no line feed. -/
theorem normalize_hash_iff (h : IsKept value) :
    normalize ('#' :: value) = .ok (some value) ↔ '\n' ∉ value := by
  constructor
  · intro hsame hline
    -- with a line feed it is longer than eight characters, so two more are put before it
    have hlong : value.length ≠ 8 := fun hlength => by
      rcases h with hdigits | ⟨digits, hcount, -, rfl⟩
      · exact (isDigits_iff_of_isKept (.inl hdigits)).1 hdigits hline
      · simp only [List.length_cons, List.length_append, List.length_nil] at hlength
        omega
    rcases normalize_cases hsame with ⟨digits, hdigits, hvalue⟩ | ⟨-, hhash⟩
    · obtain ⟨s, hs, rfl, -⟩ := hexDigits?_eq_some hdigits
      obtain rfl : value = s := List.tail_eq_of_cons_eq hs
      rw [List.length_map, if_neg hlong] at hvalue
      have hlength := congrArg List.length hvalue
      simp only [List.length_cons, List.length_map] at hlength
      omega
    · exact hhash value rfl
  · intro hline
    have hdigits := (isDigits_iff_of_isKept h).2 hline
    have hwritten : written value = '#' :: value := by rw [written, if_pos hdigits.1]
    rw [← hwritten]
    exact normalize_written h

end Color

/-! ## Where colours stand -/

/-- The parts of a well-formed expression are well formed. -/
theorem Expr.WellFormed.of_mem_parts {e part : Expr} (h : e.WellFormed) (hpart : part ∈ e.parts) :
    part.WellFormed := by
  induction h with
  | literal hvalue =>
    obtain rfl := List.mem_singleton.1 hpart
    exact .literal hvalue
  | reference hname =>
    obtain rfl := List.mem_singleton.1 hpart
    exact .reference hname
  | call hblank htrim hargs ih =>
    rw [parts] at hpart
    rcases List.mem_cons.1 hpart with rfl | hpart
    · exact .call hblank htrim hargs
    · obtain ⟨arg, harg, hpart⟩ := mem_partsOf_iff.1 hpart
      exact ih arg harg hpart

/-- A colour in the parameters of a block is kept as a colour is, however deep it stands. -/
theorem LogicSection.isKept_of_ofText {text : String} {logic : LogicSection} (h : ofText text = .ok logic)
    {entry : String × String × BlockRecord} (hentry : entry ∈ logic.records) {e : Expr}
    (he : e ∈ entry.2.2.params) {value : String} (hpart : Expr.literal .color value ∈ e.parts) :
    Color.IsKept value.toList := by
  obtain ⟨group, hgroup, hentry⟩ := List.mem_flatMap.1 hentry
  obtain ⟨record, hrecord, rfl⟩ := List.mem_map.1 hentry
  have hwell := wellFormed_of_ofText h group hgroup
  cases hcontent : group.content with
  | handler records =>
    rw [hcontent] at hwell hrecord
    have hcolor := (hwell record hrecord e he).of_mem_parts hpart
    cases hcolor with
    | literal hvalue => exact hvalue
  | vars | components | moreBlocks =>
    rw [hcontent] at hrecord
    exact absurd hrecord List.not_mem_nil

namespace ViewSection

/-- The attributes of a view are those of a cell. -/
theorem exists_cell_of_readView {record : Record} {view : ViewRecord} (h : readView record = .ok view) :
    ∃ cell, Section.attributes sectionName record.line cell = .ok view.attributes := by
  obtain ⟨hline, _, _, _, cell, -, hview⟩ := writesView_of_readView h
  exact ⟨cell, hline ▸ hview.attributes⟩

/-- What the attributes of views hold is stored for a text. -/
theorem stores_of_ofText {text : String} {skipped : List String} {view : ViewSection}
    (h : ofText text skipped = .ok view) {screen : ViewScreen} (hscreen : screen ∈ view.screens)
    {record : ViewRecord} (hrecord : record ∈ screen.records) {attr : ViewAttribute}
    (hattr : attr ∈ record.attributes) : ∃ s, attr.kind.Stores s attr.value.toList := by
  simp only [ofText, Except.bind_eq_ok_iff, Except.pure_eq_ok_iff] at h
  obtain ⟨groups, -, screens, hscreens, rfl⟩ := h
  obtain ⟨group, -, hrecords⟩ := exists_group_of_readGroups hscreens hscreen
  obtain ⟨line, -, hread⟩ := Except.exists_source_of_mapM hrecords hrecord
  obtain ⟨cell, hcell⟩ := exists_cell_of_readView hread
  exact Section.stores_of_attributes hcell hattr

end ViewSection

/-! ## What colours are in code and in layouts -/

/-- Colours of layouts are written behind `#`. -/
theorem Layout.eq_of_attributeOf_color {assets : Assets} {screen : String} {inside : Option Component}
    {record : ViewRecord} {attr : ViewAttribute} {name : AttributeName} {code : String}
    (h : attributeOf assets screen inside record attr = .ok (some (name, code)))
    (hkind : attr.kind = .color) : code = "#" ++ attr.value := by
  obtain ⟨rule, hlookup, hrule, -, hset⟩ := attributeOf_eq_ok_iff.1 h
  have hform : rule.form = .color := by
    have hall : ∀ entry ∈ attributeRules, entry.2.kind = .color → entry.2.form = .color := by decide
    exact hall _ (mem_attributeRules hlookup) (hrule.trans hkind)
  split at hset
  · cases hset
  · obtain ⟨value, hvalue, hsome⟩ := hset
    cases hsome
    rw [hform] at hvalue
    exact (Except.ok.inj hvalue).symm

section Projects

open Color

/-- **Which colours are eight digits.** What is kept of a colour is eight upper-case digits, and is kept as
itself behind `#`, exactly if its text has no line feed behind digits that are written with `#`. Every
colour of a project that was read is what is kept of such a text, at any depth in the parameters of a block
and among the attributes of a view, and it is put behind its mark in code and in layouts. -/
theorem Project.eight_digits_iff {text value : List Char} (h : normalize text = .ok (some value)) :
    (IsDigits value ↔ ¬LineBehind text) ∧
    (normalize ('#' :: value) = .ok (some value) ↔ ¬LineBehind text) ∧
    ∀ texts skipped project, ofTexts texts skipped = .ok project →
      (∀ entry ∈ project.logic.records, ∀ e ∈ entry.2.2.params, ∀ value,
        Expr.literal .color value ∈ e.parts →
          (∃ origin, normalize origin = .ok (some value.toList) ∧
            (IsDigits value.toList ↔ ¬LineBehind origin)) ∧
          ∀ scene, Source.textOf scene (.literal .color value) = .ok ("0x" ++ value)) ∧
      ∀ screen ∈ project.view.screens, ∀ record ∈ screen.records, ∀ attr ∈ record.attributes,
        attr.kind = .color →
          (∃ origin, normalize origin = .ok (some attr.value.toList) ∧
            (IsDigits attr.value.toList ↔ ¬LineBehind origin)) ∧
          ∀ assets name inside target code,
            Layout.attributeOf assets name inside record attr = .ok (some (target, code)) →
              code = "#" ++ attr.value := by
  refine ⟨isDigits_iff h, ?_, fun texts skipped project hproject => ⟨?_, ?_⟩⟩
  · rw [normalize_hash_iff (exists_normalize_iff.1 ⟨text, h⟩), lineFeed_mem_iff h]
  · intro entry hentry e he value hpart
    obtain ⟨-, hlogic, -⟩ := sections_of_ofTexts hproject
    have hkept := LogicSection.isKept_of_ofText hlogic hentry he hpart
    obtain ⟨origin, horigin⟩ := exists_normalize_iff.2 hkept
    exact ⟨⟨origin, horigin, isDigits_iff horigin⟩, fun scene => rfl⟩
  · intro screen hscreen record hrecord attr hattr hkind
    obtain ⟨-, -, hview⟩ := sections_of_ofTexts hproject
    obtain ⟨origin, hstores⟩ := ViewSection.stores_of_ofText hview hscreen hrecord hattr
    rw [hkind] at hstores
    have horigin : normalize origin = .ok (some attr.value.toList) := hstores
    exact ⟨⟨origin, horigin, isDigits_iff horigin⟩,
      fun assets name inside target code hcode => Layout.eq_of_attributeOf_color hcode hkind⟩

/-- A line feed behind a colour is kept, and what is kept is no colour that is kept as itself. -/
theorem Project.eight_digits_iff_lineFeed :
    normalize "#ff0000\n".toList = .ok (some "FFFF0000\n".toList) ∧
      ¬IsDigits "FFFF0000\n".toList ∧
      normalize ('#' :: "FFFF0000\n".toList) ≠ .ok (some "FFFF0000\n".toList) := by
  have hkept : normalize "#ff0000\n".toList = .ok (some "FFFF0000\n".toList) := by decide +kernel
  have hline : LineBehind "#ff0000\n".toList := ⟨"ff0000".toList, by decide⟩
  obtain ⟨hdigits, hsame, -⟩ := eight_digits_iff hkept
  exact ⟨hkept, fun h => hdigits.1 h hline, fun h => hsame.1 h hline⟩

end Projects

end BlockApp
