import BlockApp.Proofs.Outcome
import BlockApp.Proofs.Text.Split
import BlockApp.Section.Framing

/-!
# Records and the lines they stand in

A record has the number of its line and the fields between the TABs of this line. A line ends at the first
line feed, so no field holds one: in a section, a line feed is written as an escape.

* `Section.fieldsAt?` — the fields of the line of a number
* `Section.fieldsAt?_of_splitGroups` — the fields of a record are those of its line
* `Section.lineFeed_notMem_of_fieldsAt?` — no field holds a line feed
-/

namespace BlockApp

namespace Text

theorem mem_of_mem_dropEndWhile {p : Char → Bool} {s : List Char} {c : Char}
    (h : c ∈ dropEndWhile p s) : c ∈ s :=
  List.mem_reverse.1 ((List.dropWhile_sublist p).subset (List.mem_reverse.1 h))

end Text

namespace Section

/-- The fields of a line of a text, by its number. The first line has number one. -/
def fieldsAt? (text : String) : Nat → Option (List String)
  | 0 => none
  | number + 1 =>
    (linesOf text)[number]?.map fun line => (Text.splitAt '\t' line).map String.ofList

/-- Whether a record stands in lines that are numbered from this number on. -/
def StandsIn (number : Nat) (lines : List (List Char)) (record : Record) : Prop :=
  ∃ place line, lines[place]? = some line ∧ record.line = number + place ∧
    record.fields = (Text.splitAt '\t' line).map String.ofList

variable {name : String} {number : Nat} {opened : Bool} {lines : List (List Char)} {record : Record}

theorem standsIn_cons {line : List Char} (h : StandsIn (number + 1) lines record) :
    StandsIn number (line :: lines) record := by
  obtain ⟨place, found, hplace, hnumber, hfields⟩ := h
  exact ⟨place + 1, found, hplace, by omega, hfields⟩

/-- The records of lines, before the first header and in groups, stand in them. -/
theorem standsIn_of_groupLines {records : List Record} {groups : List Group}
    (h : groupLines name number opened lines = .ok (records, groups))
    (hrecord : record ∈ records ++ groups.flatMap (·.records)) : StandsIn number lines record := by
  induction lines generalizing number opened records groups with
  | nil =>
    cases h
    exact absurd hrecord List.not_mem_nil
  | cons line lines ih =>
    unfold groupLines at h
    split at h
    · exact standsIn_cons (ih h hrecord)
    split at h
    · -- the records behind a header are those of its group
      dsimp only at h
      split at h
      · simp [failAt] at h
      · simp only [Except.bind_eq_ok_iff, Except.pure_eq_ok_iff, Prod.exists, Prod.mk.injEq] at h
        obtain ⟨behind, later, hlater, rfl, rfl⟩ := h
        rw [List.nil_append, List.flatMap_cons] at hrecord
        exact standsIn_cons (ih hlater hrecord)
    split at h
    · simp only [Except.bind_eq_ok_iff, Except.pure_eq_ok_iff, Prod.exists, Prod.mk.injEq] at h
      obtain ⟨behind, later, hlater, rfl, rfl⟩ := h
      rw [List.cons_append] at hrecord
      rcases List.mem_cons.1 hrecord with rfl | hrecord
      · exact ⟨0, line, rfl, rfl, rfl⟩
      · exact standsIn_cons (ih hlater hrecord)
    · simp [failAt] at h

variable {text : String} {groups : List Group} {group : Group}

/-- **The fields of a record are those of the line of its number.** -/
theorem fieldsAt?_of_splitGroups (h : splitGroups name text = .ok groups) (hgroup : group ∈ groups)
    (hrecord : record ∈ group.records) : fieldsAt? text record.line = some record.fields := by
  simp only [splitGroups, Except.bind_eq_ok_iff, Except.pure_eq_ok_iff, Prod.exists] at h
  obtain ⟨before, found, hlines, rfl⟩ := h
  have hmem : record ∈ before ++ found.flatMap (·.records) :=
    List.mem_append_right _ (List.mem_flatMap.2 ⟨group, hgroup, hrecord⟩)
  obtain ⟨place, line, hplace, hnumber, hfields⟩ := standsIn_of_groupLines hlines hmem
  rw [hnumber, Nat.add_comm, fieldsAt?, hplace, hfields]
  rfl

/-- No field of a line holds a line feed. -/
theorem lineFeed_notMem_of_fieldsAt? {fields : List String} (h : fieldsAt? text number = some fields)
    {field : String} (hfield : field ∈ fields) : '\n' ∉ field.toList := by
  cases number with
  | zero => cases h
  | succ number =>
    obtain ⟨line, hline, rfl⟩ := Option.map_eq_some_iff.1 h
    obtain ⟨part, hpart, rfl⟩ := List.mem_map.1 hfield
    obtain ⟨whole, hwhole, rfl⟩ := List.mem_map.1 (List.mem_of_getElem? hline)
    intro hmem
    rw [String.toList_ofList] at hmem
    exact Text.sep_notMem_of_mem_splitAt hwhole
      (Text.mem_of_mem_dropEndWhile (Text.mem_of_mem_splitAt hpart hmem))

end Section

end BlockApp
