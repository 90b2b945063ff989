import BlockApp.Proofs.Outcome
import BlockApp.View.Section

/-!
# Names of views

The views of a section come from the records of its groups, and what names a view is an identifier: it
holds letters, digits and underscores, and a line feed at its end at most.

* `Text.notMem_of_isIdentifier` — characters that are in no identifier
* `ViewSection.WritesView` — a view and the fields it is read from
* `ViewSection.readGroups_cons_eq_ok_iff` — what is read of the first of the groups
* `ViewSection.exists_group_of_readGroups` — the records of a screen are those of one group
* `ViewSection.isIdentifier_id` — the names of views are identifiers
-/

namespace BlockApp

namespace Text

theorem isNamePart_of_isNameStart {c : Char} (h : isNameStart c = true) : isNamePart c = true := by
  rw [isNameStart, Bool.or_eq_true] at h
  rw [isNamePart, Bool.or_eq_true]
  refine h.imp_left fun halpha => ?_
  rw [Char.isAlphanum, halpha, Bool.true_or]

theorem isNamePart_of_isBareIdentifier {s : List Char} (h : isBareIdentifier s = true) {c : Char}
    (hc : c ∈ s) : isNamePart c = true := by
  cases s with
  | nil => exact absurd hc List.not_mem_nil
  | cons first rest =>
    rw [isBareIdentifier, Bool.and_eq_true, List.all_eq_true] at h
    obtain ⟨hfirst, hrest⟩ := h
    rcases List.mem_cons.1 hc with rfl | hc
    · exact isNamePart_of_isNameStart hfirst
    · exact hrest c hc

theorem mem_withoutFinalNewline {s : List Char} {c : Char} (hc : c ∈ s) (hline : c ≠ '\n') :
    c ∈ withoutFinalNewline s := by
  unfold withoutFinalNewline
  split
  · next hlast =>
    obtain ⟨before, rfl⟩ := List.getLast?_eq_some_iff.1 hlast
    simpa [hline] using hc
  · exact hc

/-- A character that is neither part of a name nor a line feed is in no identifier. -/
theorem notMem_of_isIdentifier {s : List Char} (h : isIdentifier s = true) {c : Char}
    (hc : isNamePart c = false) (hline : c ≠ '\n') : c ∉ s := by
  intro hmem
  have hpart := isNamePart_of_isBareIdentifier h (mem_withoutFinalNewline hmem hline)
  rw [hc] at hpart
  exact absurd hpart (by decide)

end Text

theorem Section.identifierField_eq_ok_iff {name what field value : String} {line : Nat} :
    identifierField name what line field = .ok value ↔
      value = Text.unescape field ∧ Text.isIdentifier value.toList = true := by
  unfold identifierField failAt
  by_cases h : Text.isIdentifier (Text.unescape field).toList = true
  · simp only [if_pos h, Except.ok.injEq]
    exact ⟨fun heq => ⟨heq.symm, heq ▸ h⟩, fun heq => heq.1.symm⟩
  · simp only [if_neg h]
    exact iff_of_false nofun fun ⟨heq, hvalue⟩ => h (heq ▸ hvalue)

namespace ViewSection

/-- Whether a view is what the four fields of a line say. The field of the parent is decoded to see whether
there is one, and what is decoded is taken for a field again. -/
structure WritesView (idField typeField parentField cell : String) (view : ViewRecord) : Prop where
  id : view.id = Text.unescape idField ∧ Text.isIdentifier view.id.toList = true
  type : view.type = Text.unescape typeField ∧ Text.isIdentifier view.type.toList = true
  parent : view.parent =
    if Text.unescape parentField = "" then none else some (Text.unescape (Text.unescape parentField))
  isIdentifier_parent : ∀ parent ∈ view.parent, Text.isIdentifier parent.toList = true
  attributes : Section.attributes sectionName view.line cell = .ok view.attributes

theorem writesView_of_readView {record : Record} {view : ViewRecord} (h : readView record = .ok view) :
    view.line = record.line ∧ ∃ idField typeField parentField cell,
      record.fields = [idField, typeField, parentField, cell] ∧
      WritesView idField typeField parentField cell view := by
  unfold readView at h
  split at h
  · next idField typeField parentField cell hfields =>
    simp only [Except.bind_eq_ok_iff] at h
    obtain ⟨id, hid, type, htype, h⟩ := h
    have hid := Section.identifierField_eq_ok_iff.1 hid
    have htype := Section.identifierField_eq_ok_iff.1 htype
    split at h
    · next hempty =>
      simp only [Except.bind_eq_ok_iff, Except.pure_eq_ok_iff] at h
      obtain ⟨_, rfl, attributes, hattributes, rfl⟩ := h
      refine ⟨rfl, _, _, _, _, hfields, hid, htype, (if_pos hempty).symm, ?_, hattributes⟩
      exact fun other hother => absurd hother (Option.not_mem_none other)
    · next hne =>
      simp only [Except.bind_eq_ok_iff, Except.map_eq_ok_iff, Except.pure_eq_ok_iff] at h
      obtain ⟨_, ⟨parent, hparent, rfl⟩, attributes, hattributes, rfl⟩ := h
      obtain ⟨rfl, hname⟩ := Section.identifierField_eq_ok_iff.1 hparent
      refine ⟨rfl, _, _, _, _, hfields, hid, htype, (if_neg hne).symm, ?_, hattributes⟩
      intro other hother
      rw [Option.mem_some_iff] at hother
      subst hother
      exact hname
  · simp [Section.wrongCount, Section.failAt] at h

theorem isIdentifier_of_readView {record : Record} {view : ViewRecord}
    (h : readView record = .ok view) : Text.isIdentifier view.id.toList = true := by
  obtain ⟨-, _, _, _, _, -, hview⟩ := writesView_of_readView h
  exact hview.id.2

/-- A group that is read is skipped, or holds the records of a screen that none before was of. -/
theorem readGroups_cons_eq_ok_iff {skipped seen : List String} {group : Group} {groups : List Group}
    {screens : List ViewScreen} :
    readGroups skipped seen (group :: groups) = .ok screens ↔
      ∃ screen ending, readHeader? group.header = some (screen, ending) ∧
        (ending ∈ skipped ∧ readGroups skipped seen groups = .ok screens ∨
          ending ∉ skipped ∧ ending = "xml" ∧ screen ∉ seen ∧
            ∃ records others, group.records.mapM readView = .ok records ∧
              readGroups skipped (screen :: seen) groups = .ok others ∧
              screens = ⟨screen, records⟩ :: others) := by
  rw [readGroups]
  cases readHeader? group.header with
  | none => simp [Section.failAt]
  | some header =>
    obtain ⟨screen, ending⟩ := header
    simp only [Option.some.injEq, Prod.mk.injEq, and_assoc, exists_and_left, exists_eq_left']
    by_cases hskipped : ending ∈ skipped
    · simp [hskipped]
    rw [if_neg hskipped]
    by_cases hending : ending = "xml"
    · subst hending
      by_cases hseen : screen ∈ seen
      · simp [hskipped, hseen, Section.failAt]
      rw [if_neg (not_not_intro rfl), if_neg hseen]
      simp only [Except.bind_eq_ok_iff, Except.pure_eq_ok_iff, hskipped, hseen, false_and, false_or,
        not_false_eq_true, true_and, @eq_comm _ _ screens]
    · simp [hskipped, hending, Section.failAt]

/-- The records of a screen are those of one group. -/
theorem exists_group_of_readGroups {skipped seen : List String} {groups : List Group}
    {screens : List ViewScreen} (h : readGroups skipped seen groups = .ok screens)
    {screen : ViewScreen} (hscreen : screen ∈ screens) :
    ∃ group ∈ groups, group.records.mapM readView = .ok screen.records := by
  induction groups generalizing seen screens with
  | nil =>
    cases h
    exact absurd hscreen List.not_mem_nil
  | cons group groups ih =>
    have hlater {seen : List String} {screens : List ViewScreen}
        (h : readGroups skipped seen groups = .ok screens) (hscreen : screen ∈ screens) :
        ∃ group' ∈ group :: groups, group'.records.mapM readView = .ok screen.records := by
      obtain ⟨group', hgroup', hrecords⟩ := ih h hscreen
      exact ⟨group', List.mem_cons_of_mem _ hgroup', hrecords⟩
    obtain ⟨name, ending, -, ⟨-, hread⟩ | ⟨-, -, -, records, others, hrecords, hothers, rfl⟩⟩ :=
      readGroups_cons_eq_ok_iff.1 h
    · exact hlater hread hscreen
    · rcases List.mem_cons.1 hscreen with rfl | hscreen
      · exact ⟨group, List.mem_cons_self, hrecords⟩
      · exact hlater hothers hscreen

/-- **The names of views are identifiers.** -/
theorem isIdentifier_id {text : String} {skipped : List String} {view : ViewSection}
    (h : ofText text skipped = .ok view) {screen : ViewScreen} (hscreen : screen ∈ view.screens)
    {record : ViewRecord} (hrecord : record ∈ screen.records) :
    Text.isIdentifier record.id.toList = true := by
  simp only [ofText, Except.bind_eq_ok_iff, Except.pure_eq_ok_iff] at h
  obtain ⟨groups, -, screens, hscreens, rfl⟩ := h
  obtain ⟨group, -, hrecords⟩ := exists_group_of_readGroups hscreens hscreen
  obtain ⟨line, -, hread⟩ := Except.exists_source_of_mapM hrecords hrecord
  exact isIdentifier_of_readView hread

end ViewSection

end BlockApp
