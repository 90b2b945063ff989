import BlockApp.Proofs.Cell.AttributeCell
import BlockApp.Proofs.Section.Readers

/-!
# What is reported without a line

A section that cannot be read is refused with a failure at one of its lines. Numbers are the exception: the
digits of a number are checked before its value is, and the value of a number with too many digits is
refused without the section and the line. So a reader that goes line by line reports what is wrong unless
it gets to a record with such a number: there are some in blocks and in views, and none elsewhere.

* `Section.Reports` — what a reader promises of a text
* `Section.GetsTo` — the records that a reader gets to
* `Section.ReadsByLine.not_reports_iff` — readers that go line by line, by the records that they get to
* `LogicSection.not_reports_iff`, `ViewSection.not_reports_iff` — the numbers in blocks and in views
-/

namespace BlockApp

namespace Section

variable {α β σ : Type} {name text : String} {numbers : Prop} {read : String → Except Failure α}
  {start known : σ} {step : σ → Entry → Except Failure σ} {groups : List Group} {group : Group}
  {found : Record} {failure : Failure} {before after : List Entry} {entry : Entry}

/-! ## Lines -/

/-- Whether a number is that of a line of a text. -/
def IsLineOf (text : String) (number : Nat) : Prop := 1 ≤ number ∧ number ≤ (rawLines text).length

/-- Whether a reader reads a text or reports what is wrong: with the name of its section, and at a line of
the text. -/
def Reports (name : String) (read : String → Except Failure α) (text : String) : Prop :=
  (∃ result, read text = .ok result) ∨ ∃ (number : Nat) (problem : SectionProblem),
    read text = .error (.sectionText name number problem) ∧ IsLineOf text number

theorem isLineOf_of_mem {line : List Char × Nat} (h : line ∈ numberedLines text) :
    IsLineOf text line.2 := by
  obtain ⟨before, after, hlines⟩ := List.append_of_mem h
  obtain ⟨hnumber, hle⟩ := number_of_numberedLines hlines
  exact ⟨hnumber ▸ Nat.le_add_left 1 _, hle⟩

/-- The lines of entries are lines of the text. -/
theorem isLineOf_of_mem_entries (hgroups : splitGroups name text = .ok groups)
    (h : entry ∈ groups.flatMap Group.entries) : IsLineOf text entry.line := by
  rw [entries_of_splitGroups hgroups] at h
  obtain ⟨line, hline, rfl⟩ := List.mem_map.1 h
  rw [line_ofLine]
  exact isLineOf_of_mem (List.mem_of_mem_filter hline)

/-- Lines that cannot stand where they do are reported. -/
theorem exists_line_of_splitGroups (h : splitGroups name text = .error failure) :
    ∃ (number : Nat) (problem : SectionProblem), failure = .sectionText name number problem ∧
      IsLineOf text number := by
  obtain ⟨number, problem, rfl, hrefused, -⟩ := failsAtFirst_of_splitGroups h
  obtain ⟨line, hline⟩ := mem_of_refusedIn hrefused
  exact ⟨number, problem, rfl, isLineOf_of_mem hline⟩

namespace ReadsByLine

/-- **A reader that goes line by line reports what is wrong**, unless there is a number. -/
theorem reports_or (h : ReadsByLine name numbers read start step) (text : String) :
    Reports name read text ∨
      numbers ∧ ∃ cause, read text = .error (.system (.tooManyDigits cause)) := by
  cases hgroups : splitGroups name text with
  | error failure =>
    obtain ⟨number, problem, rfl, hline⟩ := exists_line_of_splitGroups hgroups
    exact .inl (.inr ⟨number, problem, h.error_of_splitGroups text _ hgroups, hline⟩)
  | ok groups =>
    cases hread : read text with
    | ok result => exact .inl (.inl ⟨result, hread⟩)
    | error failure =>
      obtain ⟨before, bad, after, known, hlines, -, hbad⟩ :=
        Except.foldlM_eq_error_iff.1 ((h.eq_error_iff hgroups).1 hread)
      have hmem : bad ∈ numberedLines text := by
        rw [hlines]
        exact List.mem_append_right _ List.mem_cons_self
      have hfails := h.failsInLine_atLine _ hbad
      -- a failure that is neither at the line nor of a number is none of a reader
      match failure, hfails, hread with
      | .sectionText _ _ problem, ⟨rfl, rfl⟩, hread =>
        exact .inl (.inr ⟨bad.2, problem, hread, isLineOf_of_mem hmem⟩)
      | .system (.tooManyDigits cause), hnumbers, hread => exact .inr ⟨hnumbers, cause, rfl⟩

theorem reports (h : ReadsByLine name False read start step) (text : String) :
    Reports name read text :=
  (h.reports_or text).resolve_right fun hnumber => hnumber.1

theorem not_reports_iff_tooManyDigits (h : ReadsByLine name numbers read start step) :
    ¬Reports name read text ↔ ∃ cause, read text = .error (.system (.tooManyDigits cause)) := by
  constructor
  · intro hnot
    exact ((h.reports_or text).resolve_left hnot).2
  · rintro ⟨cause, hread⟩ (⟨result, hresult⟩ | ⟨number, problem, hproblem, -⟩)
    · cases hread.symm.trans hresult
    · cases hread.symm.trans hproblem

end ReadsByLine

/-- A step without numbers is taken before a number that is too long is met. -/
theorem exists_bind_eq_tooManyDigits_iff {x : Except Failure α} {f : α → Except Failure β} {line : Int}
    (hx : x.FailsWith (Failure.IsInLine name line False)) :
    (∃ cause, x >>= f = .error (.system (.tooManyDigits cause))) ↔
      ∃ a, x = .ok a ∧ ∃ cause, f a = .error (.system (.tooManyDigits cause)) := by
  simp only [Except.bind_eq_error_iff]
  constructor
  · rintro ⟨cause, hfirst | ⟨a, ha, h⟩⟩
    · exact (hx _ hfirst).elim
    · exact ⟨a, ha, cause, h⟩
  · rintro ⟨a, ha, cause, h⟩
    exact ⟨cause, .inr ⟨a, ha, h⟩⟩

/-! ## Records -/

/-- Whether a reader gets to a record: the lines of the text can stand where they do, and those before the
record are read. -/
structure GetsTo (name : String) (read : String → Except Failure α) (text : String) (group : Group)
    (found : Record) : Prop where
  grouped : ∃ groups, splitGroups name text = .ok groups ∧ group ∈ groups
  mem : found ∈ group.records
  before : ∃ result, read (firstLines text (found.line - 1)) = .ok result

/-- What is between the beginning of a section and a record of it. -/
def entriesBefore (earlier : List Group) (group : Group) (first : List Record) : List Entry :=
  earlier.flatMap Group.entries ++ .header group.line group.header :: first.map .record

theorem entries_eq_entriesBefore (earlier later : List Group) {first rest : List Record}
    (hgroup : group.records = first ++ found :: rest) :
    (earlier ++ group :: later).flatMap Group.entries =
      entriesBefore earlier group first ++
        .record found :: (rest.map .record ++ later.flatMap Group.entries) := by
  rw [entriesBefore, List.flatMap_append, List.flatMap_cons, Group.entries, hgroup, List.map_append,
    List.map_cons]
  simp only [List.append_assoc, List.cons_append]

/-- A record among the entries of groups is one of a group. -/
theorem exists_entriesBefore (h : groups.flatMap Group.entries = before ++ .record found :: after) :
    ∃ earlier group later first rest, groups = earlier ++ group :: later ∧
      group.records = first ++ found :: rest ∧ before = entriesBefore earlier group first := by
  induction groups generalizing before with
  | nil => exact absurd h.symm (List.append_ne_nil_of_right_ne_nil _ (List.cons_ne_nil _ _))
  | cons group groups ih =>
    rw [List.flatMap_cons, List.append_eq_append_iff] at h
    rcases h with ⟨behind, rfl, hlater⟩ | ⟨behind, hentries, hlater⟩
    · obtain ⟨earlier, other, later, first, rest, rfl, hrecords, rfl⟩ := ih hlater
      refine ⟨group :: earlier, other, later, first, rest, rfl, hrecords, ?_⟩
      rw [entriesBefore, entriesBefore, List.flatMap_cons, List.append_assoc]
    · cases behind with
      | nil =>
        have hfirst : groups.flatMap Group.entries = [] ++ .record found :: after := hlater.symm
        obtain ⟨earlier, other, later, first, rest, -, -, hnone⟩ := ih hfirst
        exact absurd hnone.symm (List.append_ne_nil_of_right_ne_nil _ (List.cons_ne_nil _ _))
      | cons entry behind =>
        obtain ⟨rfl, -⟩ := List.cons.inj hlater
        -- the first entry of a group is its header
        cases before with
        | nil => cases hentries
        | cons header before =>
          obtain ⟨rfl, hrecords⟩ := List.cons.inj hentries
          obtain ⟨first, others, hgroup, rfl, hothers⟩ := List.map_eq_append_iff.1 hrecords
          obtain ⟨record, rest, rfl, hrecord, -⟩ := List.map_eq_cons_iff.1 hothers
          cases hrecord
          exact ⟨[], group, groups, first, rest, rfl, hgroup, rfl⟩

/-- Where an entry stands in the text. -/
theorem exists_numberedLines_of_entries (hgroups : splitGroups name text = .ok groups)
    (h : groups.flatMap Group.entries = before ++ entry :: after) :
    ∃ lines line more, numberedLines text = lines ++ line :: more ∧
      (filled lines).map Entry.ofLine = before ∧ line.2 = entry.line := by
  rw [entries_of_splitGroups hgroups, filledLines] at h
  obtain ⟨first, others, hfilled, hbefore, hothers⟩ := List.map_eq_append_iff.1 h
  obtain ⟨line, rest, rfl, hline, -⟩ := List.map_eq_cons_iff.1 hothers
  obtain ⟨lines, more, hlines, rfl, hmore⟩ := List.filter_eq_append_iff.1 hfilled
  obtain ⟨blank, behind, rfl, hblank, -, -⟩ := List.filter_eq_cons_iff.1 hmore
  refine ⟨lines ++ blank, line, behind, ?_, ?_, ?_⟩
  · rw [hlines, List.append_assoc]
  · have hnone : filled blank = [] := List.filter_eq_nil_iff.2 hblank
    rw [filled, List.filter_append, ← filled, ← filled, hnone, List.append_nil]
    exact hbefore
  · rw [← line_ofLine line, hline]

namespace ReadsByLine

variable (h : ReadsByLine name numbers read start step)

include h in
/-- The lines before an entry are read exactly if the steps before it are taken. -/
theorem exists_firstLines_iff_entries (hgroups : splitGroups name text = .ok groups)
    (hentries : groups.flatMap Group.entries = before ++ entry :: after) :
    (∃ result, read (firstLines text (entry.line - 1)) = .ok result) ↔
      ∃ known, before.foldlM step start = .ok known := by
  obtain ⟨lines, line, more, hlines, rfl, hline⟩ := exists_numberedLines_of_entries hgroups hentries
  have hnumber := (number_of_numberedLines hlines).1
  have hfirst : (numberedLines text).take (entry.line - 1) = lines := by
    rw [← hline, hnumber, Nat.add_sub_cancel, hlines, List.take_left]
  rw [h.exists_firstLines_iff hgroups, hfirst]
  simp only [foldlM_atLine]

include h in
/-- A reader gets to a record exactly if the steps before it are taken. -/
theorem getsTo_iff (hgroups : splitGroups name text = .ok groups) :
    GetsTo name read text group found ↔ ∃ earlier later first rest known,
      groups = earlier ++ group :: later ∧ group.records = first ++ found :: rest ∧
        (entriesBefore earlier group first).foldlM step start = .ok known := by
  constructor
  · rintro ⟨⟨others, hothers, hgroup⟩, hfound, hbefore⟩
    obtain rfl := Except.ok.inj (hothers.symm.trans hgroups)
    obtain ⟨earlier, later, rfl⟩ := List.append_of_mem hgroup
    obtain ⟨first, rest, hrecords⟩ := List.append_of_mem hfound
    have hentries := entries_eq_entriesBefore earlier later hrecords
    obtain ⟨known, hrun⟩ := (h.exists_firstLines_iff_entries hgroups hentries).1 hbefore
    exact ⟨earlier, later, first, rest, known, rfl, hrecords, hrun⟩
  · rintro ⟨earlier, later, first, rest, known, rfl, hrecords, hrun⟩
    have hentries := entries_eq_entriesBefore earlier later hrecords
    exact ⟨⟨_, hgroups, by simp⟩, by simp [hrecords],
      (h.exists_firstLines_iff_entries hgroups hentries).2 ⟨known, hrun⟩⟩

/-- What a reader knows at a record is what it knew behind the header of its group. -/
theorem exists_header_of_foldlM
    (hkeeps : ∀ known found later, step known (.record found) = .ok later → later = known)
    {earlier : List Group} {first : List Record}
    (hrun : (entriesBefore earlier group first).foldlM step start = .ok known) :
    ∃ opened, step opened (.header group.line group.header) = .ok known := by
  rw [entriesBefore, Except.foldlM_append_eq_ok_iff] at hrun
  obtain ⟨opened, -, hgroup⟩ := hrun
  rw [List.foldlM_cons, Except.bind_eq_ok_iff] at hgroup
  obtain ⟨later, hheader, hfirst⟩ := hgroup
  refine ⟨opened, hheader.trans (congrArg Except.ok ?_)⟩
  clear hheader
  induction first generalizing later with
  | nil => exact Except.ok.inj hfirst
  | cons found first ih =>
    rw [List.map_cons, List.foldlM_cons, Except.bind_eq_ok_iff] at hfirst
    obtain ⟨next, hnext, hfirst⟩ := hfirst
    rw [← hkeeps _ _ _ hnext]
    exact ih next hfirst

include h in
/-- **What a reader does not report** are the numbers in the records that it gets to. `Holds` are the headers
of records that are read for numbers, and `Long` the records with a number that is too long. -/
theorem not_reports_iff {Holds : String → Prop} {Long : Record → Prop}
    (hkeeps : ∀ known found later, step known (.record found) = .ok later → later = known)
    (hheader : ∀ known line title, (step known (.header line title)).FailsWith
      (Failure.IsInLine name line False))
    (hlong : ∀ opened line title known, step opened (.header line title) = .ok known → ∀ found,
      (∃ cause, step known (.record found) = .error (.system (.tooManyDigits cause))) ↔
        Holds title ∧ Long found) :
    ¬Reports name read text ↔
      ∃ group found, GetsTo name read text group found ∧ Holds group.header ∧ Long found := by
  rw [h.not_reports_iff_tooManyDigits]
  constructor
  · rintro ⟨cause, hread⟩
    cases hgroups : splitGroups name text with
    | error failure =>
      obtain ⟨number, problem, rfl, -⟩ := exists_line_of_splitGroups hgroups
      cases hread.symm.trans (h.error_of_splitGroups text _ hgroups)
    | ok groups =>
      rw [← Except.fault?_eq_some_iff, h.fault?_read text groups hgroups, Except.fault?_eq_some_iff,
        Except.foldlM_eq_error_iff] at hread
      obtain ⟨before, entry, after, known, hentries, hrun, hstep⟩ := hread
      cases entry with
      | header line title => exact (hheader known line title _ hstep).elim
      | record found =>
        obtain ⟨earlier, group, later, first, rest, rfl, hrecords, rfl⟩ := exists_entriesBefore hentries
        obtain ⟨opened, hopened⟩ := exists_header_of_foldlM hkeeps hrun
        refine ⟨group, found, (h.getsTo_iff hgroups).2 ?_, (hlong _ _ _ _ hopened found).1 ⟨cause, hstep⟩⟩
        exact ⟨earlier, later, first, rest, known, rfl, hrecords, hrun⟩
  · rintro ⟨group, found, hgets, hnumber⟩
    obtain ⟨groups, hgroups, -⟩ := hgets.grouped
    obtain ⟨earlier, later, first, rest, known, rfl, hrecords, hrun⟩ := (h.getsTo_iff hgroups).1 hgets
    obtain ⟨opened, hopened⟩ := exists_header_of_foldlM hkeeps hrun
    obtain ⟨cause, hcause⟩ := (hlong _ _ _ _ hopened found).2 hnumber
    refine ⟨cause, ?_⟩
    rw [← Except.fault?_eq_some_iff, h.fault?_read text _ hgroups, Except.fault?_eq_some_iff,
      Except.foldlM_eq_error_iff]
    exact ⟨_, _, _, known, entries_eq_entriesBefore earlier later hrecords, hrun, hcause⟩

end ReadsByLine

end Section

open Section

variable {found : Record} {text : String}

/-! ## Blocks -/

namespace LogicSection

/-- Whether the records under a header are blocks: its key is none of those that declare something. -/
def HoldsBlocks (title : String) : Prop :=
  ∃ screen key, readHeader? title = some (screen, key) ∧ key ∉ ["var", "list", "components", "func"]

theorem holdsBlocks_iff {title screen key : String} (h : readHeader? title = some (screen, key)) :
    HoldsBlocks title ↔ key ∉ ["var", "list", "components", "func"] := by
  rw [HoldsBlocks, h]
  simp only [Option.some.injEq, Prod.mk.injEq, and_assoc, exists_eq_left', exists_and_left]

/-- A line that is a header has a name and a key. -/
theorem exists_readHeader?_of_readLine {known later : List (String × String) × String} {line : Nat}
    {title : String} (h : readLine known (.header line title) = .ok later) :
    ∃ screen key, readHeader? title = some (screen, key) := by
  cases htitle : readHeader? title with
  | none =>
    rw [readLine, htitle] at h
    cases h
  | some header => exact ⟨header.1, header.2, rfl⟩

/-- Whether a record is a block with a number that is too long: its depth, or a colour in its
parameters. -/
def HasLongNumber (found : Record) : Prop :=
  ∃ idField depthField tagField cell numeral, found.fields = [idField, depthField, tagField, cell] ∧
    Text.Numeral.readUnsigned? depthField.toList = some numeral ∧
    Text.trim (Text.unescapeChars tagField.toList) ≠ [] ∧
    (Text.maxDigits < numeral.digits.length ∨ Cell.HasLongColor cell.toList)

theorem exists_readBlock_eq_tooManyDigits_iff :
    (∃ cause, readBlock found = .error (.system (.tooManyDigits cause))) ↔ HasLongNumber found := by
  unfold readBlock HasLongNumber
  split
  · next idField depthField tagField cell hfields =>
    have hcell : (∃ cause, parameters sectionName found.line cell =
        .error (.system (.tooManyDigits cause))) ↔ Cell.HasLongColor cell.toList :=
      exists_parameters_eq_tooManyDigits_iff
    simp only [hfields, List.cons.injEq, and_true, and_assoc, exists_and_left, exists_eq_left']
    cases Text.Numeral.readUnsigned? depthField.toList with
    | none =>
      refine iff_of_false ?_ ?_
      · rintro ⟨cause, h⟩
        cases h
      · rintro ⟨numeral, h, -⟩
        cases h
    | some numeral =>
      simp only [Option.some.injEq, exists_eq_left']
      by_cases htag : Text.trim (Text.unescapeChars tagField.toList) = []
      · rw [if_pos htag]
        refine iff_of_false ?_ fun h => h.1 htag
        rintro ⟨cause, h⟩
        cases h
      rw [if_neg htag, and_iff_right htag, ← hcell, ← Cell.exists_value_eq_error_iff]
      -- the depth comes before the parameters
      cases numeral.value with
      | error cause => exact iff_of_true ⟨cause, rfl⟩ (.inl ⟨cause, rfl⟩)
      | ok depth =>
        simp only [Except.mapError_ok, Except.bind_eq_error_iff, Except.ok.injEq, exists_eq_left',
          Except.pure_ne_error, and_false, exists_false, or_false, reduceCtorEq, false_or]
  · next hfields =>
    refine iff_of_false ?_ ?_
    · rintro ⟨cause, h⟩
      cases h
    · rintro ⟨idField, depthField, tagField, cell, -, hfour, -⟩
      exact hfields _ _ _ _ hfour

/-- There are no numbers in a declaration. -/
theorem failsInLine_declaration {key : String} (hkey : key ∈ ["var", "list", "components", "func"])
    (found : Record) :
    (readRecord key found).FailsWith (Failure.IsInLine sectionName found.line False) := by
  simp only [List.mem_cons, List.not_mem_nil, or_false] at hkey
  rcases hkey with rfl | rfl | rfl | rfl
  · exact (failsInLine_readVariable false found).map _
  · exact (failsInLine_readVariable true found).map _
  · exact (failsInLine_readComponent found).map _
  · exact (failsInLine_readMoreBlock found).map _

/-- A number is too long only in a block. -/
theorem exists_readRecord_eq_tooManyDigits_iff {key : String} :
    (∃ cause, readRecord key found = .error (.system (.tooManyDigits cause))) ↔
      key ∉ ["var", "list", "components", "func"] ∧ HasLongNumber found := by
  by_cases hkey : key ∈ ["var", "list", "components", "func"]
  · refine iff_of_false ?_ fun h => h.1 hkey
    rintro ⟨cause, h⟩
    exact (failsInLine_declaration hkey found) _ h
  · rw [and_iff_right hkey, ← exists_readBlock_eq_tooManyDigits_iff]
    simp only [List.mem_cons, List.not_mem_nil, or_false, not_or] at hkey
    obtain ⟨hvar, hlist, hcomponents, hfunc⟩ := hkey
    rw [readRecord, if_neg hvar, if_neg hlist, if_neg hcomponents, if_neg hfunc]
    exact exists_congr fun cause => Except.map_eq_error_iff

theorem not_reports_iff :
    ¬Reports sectionName ofText text ↔ ∃ group found, GetsTo sectionName ofText text group found ∧
      HoldsBlocks group.header ∧ HasLongNumber found := by
  refine readsByLine.not_reports_iff ?_ failsInLine_header ?_
  · intro known found later h
    obtain ⟨-, -, rfl⟩ := Except.map_eq_ok_iff.1 h
    rfl
  · intro opened line title known hheader found
    obtain ⟨screen, key, htitle⟩ := exists_readHeader?_of_readLine hheader
    rw [readLine_header opened line htitle] at hheader
    split at hheader
    · cases hheader
    · cases hheader
      simp only [readLine, Except.map_eq_error_iff, exists_readRecord_eq_tooManyDigits_iff,
        holdsBlocks_iff htitle]

end LogicSection

/-! ## Views -/

namespace ViewSection

variable {skipped : List String} {known later : List String × Bool} {line : Nat} {title : String}

/-- Whether the records under a header are views that are read: its group is not skipped. -/
def HoldsViews (skipped : List String) (title : String) : Prop :=
  ∃ screen ending, readHeader? title = some (screen, ending) ∧ ending ∉ skipped

theorem holdsViews_iff {title screen ending : String}
    (h : readHeader? title = some (screen, ending)) : HoldsViews skipped title ↔ ending ∉ skipped := by
  rw [HoldsViews, h]
  simp only [Option.some.injEq, Prod.mk.injEq, and_assoc, exists_eq_left', exists_and_left]

theorem exists_readHeader?_of_readLine (h : readLine skipped known (.header line title) = .ok later) :
    ∃ screen ending, readHeader? title = some (screen, ending) := by
  cases htitle : readHeader? title with
  | none =>
    rw [readLine, htitle] at h
    cases h
  | some header => exact ⟨header.1, header.2, rfl⟩

/-- Behind a header it is known whether its group is skipped. -/
theorem known_of_readLine {screen ending : String} (htitle : readHeader? title = some (screen, ending))
    (h : readLine skipped known (.header line title) = .ok later) :
    later.2 = decide (ending ∈ skipped) := by
  rw [readLine_header skipped known line htitle] at h
  split at h
  · next hskipped =>
    cases h
    exact (decide_eq_true hskipped).symm
  · next hread =>
    split at h
    · cases h
    split at h
    · cases h
    · cases h
      exact (decide_eq_false hread).symm

/-- Whether a record is a view with an attribute of a number that is too long. The names before the
attributes are as they should be. -/
def HasLongNumber (found : Record) : Prop :=
  ∃ idField typeField parentField cell, found.fields = [idField, typeField, parentField, cell] ∧
    Text.isIdentifier (Text.unescape idField).toList = true ∧
    Text.isIdentifier (Text.unescape typeField).toList = true ∧
    (Text.unescape parentField ≠ "" →
      Text.isIdentifier (Text.unescape (Text.unescape parentField)).toList = true) ∧
    Cell.HasLongNumber cell.toList

theorem exists_readView_eq_tooManyDigits_iff :
    (∃ cause, readView found = .error (.system (.tooManyDigits cause))) ↔ HasLongNumber found := by
  unfold readView HasLongNumber
  split
  · next idField typeField parentField cell hfields =>
    have hname : ∀ what field, (identifierField sectionName what found.line field).FailsWith
        (Failure.IsInLine sectionName found.line False) :=
      fun what field => failsInLine_identifierField _ _ _ _
    have hcell : (∃ cause, attributes sectionName found.line cell =
        .error (.system (.tooManyDigits cause))) ↔ Cell.HasLongNumber cell.toList :=
      exists_attributes_eq_tooManyDigits_iff
    have hlast : ∀ {make : List ViewAttribute → ViewRecord}, (∃ cause,
        (do return make (← attributes sectionName found.line cell)) =
          Except.error (Failure.system (.tooManyDigits cause))) ↔ Cell.HasLongNumber cell.toList := by
      intro make
      rw [← hcell]
      simp only [Except.bind_eq_error_iff, Except.pure_ne_error, and_false, exists_false, or_false]
    simp only [hfields, List.cons.injEq, and_true, and_assoc, exists_and_left, exists_eq_left']
    rw [exists_bind_eq_tooManyDigits_iff (hname _ _)]
    simp only [identifierField_eq_ok_iff, and_assoc, exists_eq_left]
    refine and_congr_right fun _ => ?_
    rw [exists_bind_eq_tooManyDigits_iff (hname _ _)]
    simp only [identifierField_eq_ok_iff, and_assoc, exists_eq_left]
    refine and_congr_right fun _ => ?_
    by_cases hempty : Text.unescape parentField = ""
    · rw [if_pos hempty, and_iff_right fun hne => absurd hempty hne]
      have hnone : (pure none : Except Failure (Option String)).FailsWith
          (Failure.IsInLine sectionName found.line False) := .pure _
      rw [exists_bind_eq_tooManyDigits_iff hnone]
      simp only [Except.pure_eq_ok_iff, exists_eq_left']
      exact hlast
    · rw [if_neg hempty, exists_bind_eq_tooManyDigits_iff ((hname _ _).map _)]
      simp only [Except.map_eq_ok_iff, identifierField_eq_ok_iff, and_assoc, exists_eq_left,
        exists_and_left, exists_eq_left', hempty, not_false_eq_true, true_implies, ne_eq]
      exact and_congr_right fun _ => hlast
  · next hfields =>
    refine iff_of_false ?_ ?_
    · rintro ⟨cause, h⟩
      cases h
    · rintro ⟨idField, typeField, parentField, cell, hfour, -⟩
      exact hfields _ _ _ _ hfour

theorem not_reports_iff :
    ¬Reports sectionName (ofText · skipped) text ↔
      ∃ group found, GetsTo sectionName (ofText · skipped) text group found ∧
        HoldsViews skipped group.header ∧ HasLongNumber found := by
  refine (readsByLine skipped).not_reports_iff ?_ (failsInLine_header skipped) ?_
  · intro known found later h
    rw [readLine] at h
    split at h
    · exact (Except.ok.inj h).symm
    · obtain ⟨-, -, rfl⟩ := Except.map_eq_ok_iff.1 h
      rfl
  · intro opened line title known hheader found
    obtain ⟨screen, ending, htitle⟩ := exists_readHeader?_of_readLine hheader
    rw [holdsViews_iff htitle, ← exists_readView_eq_tooManyDigits_iff, readLine,
      known_of_readLine htitle hheader]
    by_cases hskipped : ending ∈ skipped
    · refine iff_of_false ?_ fun h => h.1 hskipped
      rintro ⟨cause, h⟩
      rw [if_pos (decide_eq_true hskipped)] at h
      cases h
    · rw [and_iff_right hskipped, if_neg (by simpa using hskipped)]
      exact exists_congr fun cause => Except.map_eq_error_iff

end ViewSection

end BlockApp
