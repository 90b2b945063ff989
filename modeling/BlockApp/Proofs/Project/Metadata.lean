import BlockApp.Project.Metadata
import BlockApp.Proofs.Section.Reports

/-!
# Reading the project section

The values of a project section are read line by line, and the metadata is made of them behind the last
line. What is wrong with a value is reported at that line. So there are two things that are not reported: a
section without any line has no line to name, and a version with too many digits is refused without one.

* `Metadata.readsByLine` — the values are read line by line
* `Metadata.isLineOf_lastLine` — the line that is named for them
* `Metadata.reports_iff` — which project sections are read or reported
* `readers_report_iff` — the same for the readers of all sections
-/

namespace BlockApp

open Section

namespace Metadata

variable {text : String} {values later : Values} {groups : List Group} {n : Nat}

/-! ## Values -/

/-- What is done at a line. -/
def readLine (values : Values) : Entry → Except Failure Values
  | .header line title =>
    if title = "project" then .ok { values with lastLine := line }
    else failAt sectionName line (.unknown "project group" title)
  | .record found => readEntry values found

/-- The values of a project section. -/
def readValues (text : String) : Except Failure Values := do
  let groups ← splitGroups sectionName text
  groups.foldlM readGroup ⟨[], 0⟩

theorem ofText_eq (text : String) : ofText text = readValues text >>= ofValues := by
  rw [ofText, readValues, bind_assoc]

theorem foldlM_readGroup (groups : List Group) (values : Values) :
    groups.foldlM readGroup values = (groups.flatMap Group.entries).foldlM readLine values := by
  induction groups generalizing values with
  | nil => rfl
  | cons group groups ih =>
    have hgroup : readGroup values group = group.entries.foldlM readLine values := by
      rw [readGroup, Group.entries, List.foldlM_cons, readLine]
      split
      · show _ = (group.records.map .record).foldlM readLine _
        rw [List.foldlM_map]
        rfl
      · rfl
    rw [List.foldlM_cons, List.flatMap_cons, List.foldlM_append, hgroup]
    exact bind_congr fun _ => ih _

theorem failsInLine_readEntry (values : Values) (found : Record) :
    (readEntry values found).FailsWith (Failure.IsInLine sectionName found.line False) := by
  unfold readEntry
  split
  · split
    · exact failsInLine_failAt _ _ _
    · exact .ok _
  · exact failsInLine_wrongCount _ _ _ _

theorem readsByLine : ReadsByLine sectionName False readValues ⟨[], 0⟩ readLine where
  failsInLine values entry := by
    cases entry with
    | header line title =>
      rw [readLine]
      split
      · exact .ok _
      · exact failsInLine_failAt _ _ _
    | record found => exact failsInLine_readEntry values found
  error_of_splitGroups text failure h := by
    rw [readValues, h]
    rfl
  fault?_read text groups hgroups := by
    rw [readValues, hgroups, ← foldlM_readGroup]
    rfl

/-- The line that values are read up to is the last one. -/
theorem lastLine_of_readLine {entry : Entry} (h : readLine values entry = .ok later) :
    later.lastLine = entry.line := by
  cases entry with
  | header line title =>
    rw [readLine] at h
    split at h
    · cases h
      rfl
    · cases h
  | record found =>
    rw [readLine, readEntry] at h
    split at h
    · split at h
      · cases h
      · cases h
        rfl
    · cases h

theorem lastLine_mem {entries : List Entry} (hne : entries ≠ [])
    (h : entries.foldlM readLine values = .ok later) : later.lastLine ∈ entries.map Entry.line := by
  rcases List.eq_nil_or_concat' entries with rfl | ⟨first, last, rfl⟩
  · exact absurd rfl hne
  · obtain ⟨before, -, hlast⟩ := Except.foldlM_append_eq_ok_iff.1 h
    rw [List.foldlM_cons, Except.bind_eq_ok_iff] at hlast
    obtain ⟨found, hfound, hlater⟩ := hlast
    cases hlater
    rw [lastLine_of_readLine hfound]
    exact List.mem_map_of_mem (List.mem_append_right first (List.mem_singleton_self last))

/-- Without a line that is not blank there are no values. -/
theorem readValues_of_blank (h : filledLines text = []) : readValues text = .ok ⟨[], 0⟩ := by
  rw [readValues]
  cases hgroups : splitGroups sectionName text with
  | error failure =>
    obtain ⟨number, problem, hrefused⟩ := exists_splitGroups_eq_error_iff.1 ⟨failure, hgroups⟩
    rcases hrefused with ⟨-, line, hhead, -⟩ | ⟨-, line, hmem, hmark, -⟩
    · rw [h] at hhead
      cases hhead
    · have hfilled : (line, number) ∈ filledLines text :=
        List.mem_filter.2 ⟨hmem, by simp [allBlank_eq_false_of_head? hmark]⟩
      rw [h] at hfilled
      exact absurd hfilled List.not_mem_nil
  | ok groups =>
    have hentries := entries_of_splitGroups hgroups
    rw [h, List.map_nil] at hentries
    cases groups with
    | nil => rfl
    | cons group groups => cases hentries

/-- Values are read up to a line of the text, if it has one that is not blank. -/
theorem isLineOf_lastLine (hne : filledLines text ≠ []) (h : readValues text = .ok values) :
    IsLineOf text values.lastLine := by
  obtain ⟨groups, hgroups, hrun⟩ := Except.bind_eq_ok_iff.1 h
  rw [foldlM_readGroup] at hrun
  have hentries : groups.flatMap Group.entries ≠ [] := by
    rw [entries_of_splitGroups hgroups, ne_eq, List.map_eq_nil_iff]
    exact hne
  obtain ⟨entry, hentry, hline⟩ := List.mem_map.1 (lastLine_mem hentries hrun)
  rw [← hline]
  exact isLineOf_of_mem_entries hgroups hentry

/-! ## The version -/

/-- Whether the version among values is a number that is too long. The other values that are required are
there, and the package has a name. -/
def Values.HasLongVersion (values : Values) : Prop :=
  ∃ packageName, values.entries.lookup "package_name" = some packageName ∧
    (∃ appName, values.entries.lookup "app_name" = some appName) ∧
    ∃ versionCode, values.entries.lookup "version_code" = some versionCode ∧
      (∃ versionName, values.entries.lookup "version_name" = some versionName) ∧
      Text.isPackageName packageName.toList = true ∧
      ∃ numeral, Text.Numeral.readUnsigned? versionCode.toList = some numeral ∧
        Text.maxDigits < numeral.digits.length

/-- Whether a project section can be read up to its version, and this is a number that is too long. -/
def HasLongVersion (text : String) : Prop := ∃ values, readValues text = .ok values ∧ values.HasLongVersion

theorem require_eq_ok_iff {key value : String} :
    require values key = .ok value ↔ values.entries.lookup key = some value := by
  unfold require
  cases values.entries.lookup key with
  | none => exact iff_of_false nofun nofun
  | some found => rw [Except.ok.injEq, Option.some.injEq]

theorem failsInLine_require {numbers : Prop} (values : Values) (key : String) :
    (require values key).FailsWith (Failure.IsInLine sectionName values.lastLine numbers) := by
  unfold require
  split
  · exact .ok _
  · exact failsInLine_failAt _ _ _

theorem failsInLine_ofValues (values : Values) :
    (ofValues values).FailsWith (Failure.IsInLine sectionName values.lastLine True) := by
  unfold ofValues
  refine (failsInLine_require _ _).bind fun _ _ => (failsInLine_require _ _).bind fun _ _ =>
    (failsInLine_require _ _).bind fun _ _ => (failsInLine_require _ _).bind fun _ _ => ?_
  split
  · exact failsInLine_failAt _ _ _
  split
  · exact failsInLine_failAt _ _ _
  · exact .bind (.mapError fun _ _ => trivial) fun _ _ => .pure _

theorem exists_ofValues_eq_tooManyDigits_iff :
    (∃ cause, ofValues values = .error (.system (.tooManyDigits cause))) ↔ values.HasLongVersion := by
  have hrequire : ∀ key, (require values key).FailsWith
      (Failure.IsInLine sectionName values.lastLine False) := failsInLine_require values
  unfold ofValues Values.HasLongVersion
  simp only [exists_bind_eq_tooManyDigits_iff (hrequire _), require_eq_ok_iff]
  constructor
  · rintro ⟨packageName, hpackage, appName, happ, versionCode, hcode, versionName, hname, cause, h⟩
    refine ⟨packageName, hpackage, ⟨appName, happ⟩, versionCode, hcode, ⟨versionName, hname⟩, ?_⟩
    split at h
    · cases h
    next hvalid =>
    split at h
    · cases h
    next numeral hnumeral =>
    rw [Except.bind_eq_error_iff] at h
    rcases h with hvalue | ⟨code, -, h⟩
    · obtain ⟨found, hvalue, -⟩ := Except.mapError_eq_error_iff.1 hvalue
      exact ⟨by simpa using hvalid, numeral, hnumeral, Cell.exists_value_eq_error_iff.1 ⟨found, hvalue⟩⟩
    · cases h
  · rintro ⟨packageName, hpackage, ⟨appName, happ⟩, versionCode, hcode, ⟨versionName, hname⟩, hvalid,
      numeral, hnumeral, hlong⟩
    obtain ⟨cause, hvalue⟩ := Cell.exists_value_eq_error_iff.2 hlong
    refine ⟨packageName, hpackage, appName, happ, versionCode, hcode, versionName, hname, cause, ?_⟩
    simp only [hvalid, hnumeral, hvalue]
    rfl

theorem ofText_of_values (h : readValues text = .ok values) : ofText text = ofValues values := by
  rw [ofText_eq, h]
  rfl

/-- Without a line the first missing key is reported at line zero. -/
theorem not_reports_of_blank (h : filledLines text = []) : ¬Reports sectionName ofText text := by
  have hmade := ofText_of_values (readValues_of_blank h)
  rintro (⟨metadata, hread⟩ | ⟨number, problem, hread, hpos, -⟩)
  · cases hmade.symm.trans hread
  · cases hmade.symm.trans hread
    exact absurd hpos (by decide)

/-- What is wrong with values is reported, unless it is their version. -/
theorem reports_iff_of_values (hne : filledLines text ≠ []) (h : readValues text = .ok values) :
    Reports sectionName ofText text ↔ ¬values.HasLongVersion := by
  have hfails := failsInLine_ofValues values
  rw [← exists_ofValues_eq_tooManyDigits_iff]
  rw [← ofText_of_values h] at hfails ⊢
  cases hread : ofText text with
  | ok metadata =>
    refine iff_of_true (.inl ⟨metadata, hread⟩) ?_
    rintro ⟨cause, hcause⟩
    cases hcause
  | error failure =>
    match failure, hfails _ hread, hread with
    | .sectionText _ _ problem, ⟨rfl, rfl⟩, hread =>
      refine iff_of_true (.inr ⟨_, problem, hread, isLineOf_lastLine hne h⟩) ?_
      rintro ⟨cause, hcause⟩
      cases hcause
    | .system (.tooManyDigits cause), _, hread =>
      refine iff_of_false ?_ fun hnot => hnot ⟨cause, rfl⟩
      rintro (⟨metadata, hmetadata⟩ | ⟨number, problem, hproblem, -⟩)
      · cases hread.symm.trans hmetadata
      · cases hread.symm.trans hproblem

/-- **The project section is reported** unless it has no line, or its version is too long. -/
theorem reports_iff :
    Reports sectionName ofText text ↔ filledLines text ≠ [] ∧ ¬HasLongVersion text := by
  rcases readsByLine.reports text with ⟨values, hvalues⟩ | ⟨number, problem, herror, hline⟩
  · have hlong : HasLongVersion text ↔ values.HasLongVersion := by
      constructor
      · rintro ⟨found, hfound, h⟩
        cases hvalues.symm.trans hfound
        exact h
      · intro h
        exact ⟨values, hvalues, h⟩
    by_cases hne : filledLines text = []
    · exact iff_of_false (not_reports_of_blank hne) fun h => h.1 hne
    · rw [reports_iff_of_values hne hvalues, and_iff_right hne, hlong]
  · have hread : ofText text = .error (.sectionText sectionName number problem) := by
      rw [ofText_eq, herror]
      rfl
    refine iff_of_true (.inr ⟨number, problem, hread, hline⟩) ⟨fun hempty => ?_, ?_⟩
    · cases herror.symm.trans (readValues_of_blank hempty)
    · rintro ⟨values, hvalues, -⟩
      cases herror.symm.trans hvalues

/-! ### Versions of ones -/

theorem readUnsigned?_ones (h : n ≠ 0) :
    Text.Numeral.readUnsigned? (List.replicate n '1') = some ⟨false, List.replicate n 1⟩ := by
  have hends : (List.replicate n '1').getLast? ≠ some '\n' := by
    rw [List.getLast?_replicate, if_neg h]
    decide
  have hne : List.replicate n '1' ≠ [] := by simpa using h
  have hdigits : (List.replicate n '1').mapM Text.digitValue? = some (List.replicate n 1) := by
    clear h hends hne
    induction n with
    | zero => rfl
    | succ n ih =>
      have hone : Text.digitValue? '1' = some 1 := by decide
      rw [List.replicate_succ, List.mapM_cons, hone, ih]
      rfl
  rw [Text.Numeral.readUnsigned?, Text.withoutFinalNewline, if_neg hends, Text.digits?, if_neg hne,
    hdigits]
  rfl

/-- The lines of a project section whose version is written with so many ones. -/
def onesLines (n : Nat) : List (List Char) :=
  ["@project".toList, "package_name\ta.b".toList, "app_name\tA".toList, "version_name\t1".toList,
    "version_code\t".toList ++ List.replicate n '1']

/-- A project section whose version is written with so many ones. -/
def onesText (n : Nat) : String := String.ofList (Text.joinWith '\n' (onesLines n))

theorem notMem_version {c : Char} (hc : c ∉ "version_code\t1".toList) (n : Nat) :
    c ∉ "version_code\t".toList ++ List.replicate n '1' := by
  intro hmem
  rcases List.mem_append.1 hmem with hkey | hone
  · exact hc (List.mem_append_left ['1'] hkey)
  · obtain rfl := List.eq_of_mem_replicate hone
    exact hc (by decide)

theorem rawLines_onesText (n : Nat) : rawLines (onesText n) = onesLines n := by
  rw [rawLines, onesText, String.toList_ofList]
  refine Text.splitAt_joinWith (List.cons_ne_nil _ _) ?_
  simp only [onesLines, List.forall_mem_cons, List.not_mem_nil, false_implies, implies_true, and_true]
  exact ⟨by decide, by decide, by decide, by decide, notMem_version (by decide) n⟩

theorem splitAt_version (n : Nat) :
    Text.splitAt '\t' ("version_code\t".toList ++ List.replicate n '1') =
      ["version_code".toList, List.replicate n '1'] := by
  have hones : '\t' ∉ List.replicate n '1' := fun hmem =>
    absurd (List.eq_of_mem_replicate hmem) (by decide)
  calc Text.splitAt '\t' ("version_code\t".toList ++ List.replicate n '1')
    _ = Text.splitAt '\t' ("version_code".toList ++ '\t' :: List.replicate n '1') := rfl
    _ = ["version_code".toList, List.replicate n '1'] := by
      rw [Text.splitAt_append, Text.splitAt_eq_singleton hones]
      rfl

theorem splitGroups_onesText (n : Nat) :
    splitGroups sectionName (onesText n) = .ok [⟨"project", 1, [⟨2, ["package_name", "a.b"]⟩,
      ⟨3, ["app_name", "A"]⟩, ⟨4, ["version_name", "1"]⟩,
      ⟨5, ["version_code", String.ofList (List.replicate n '1')]⟩]⟩] := by
  have hmark : ("version_code\t".toList ++ List.replicate n '1').head? ≠ some '@' := by
    show some 'v' ≠ some '@'
    decide
  rw [splitGroups_eq_ok_iff, linesOf_eq, rawLines_onesText, onesLines, groupLines_header rfl,
    if_neg (by decide), groupLines_record rfl (by decide), groupLines_record rfl (by decide),
    groupLines_record rfl (by decide), groupLines_record rfl hmark,
    Text.withoutReturns_eq_self (notMem_version (by decide) n), splitAt_version]
  rfl

/-- A version of ones is too long if there are too many of them. -/
theorem hasLongVersion_onesText (h : Text.maxDigits < n) : HasLongVersion (onesText n) := by
  have hones : '\\' ∉ List.replicate n '1' := fun hmem =>
    absurd (List.eq_of_mem_replicate hmem) (by decide)
  refine ⟨_, by rw [readValues, splitGroups_onesText]; rfl, "a.b", rfl, ⟨"A", rfl⟩, _, rfl,
    ⟨"1", rfl⟩, by decide, ⟨false, List.replicate n 1⟩, ?_, ?_⟩
  · rw [Text.unescape, String.toList_ofList, String.toList_ofList, Text.unescapeChars_eq_self hones]
    exact readUnsigned?_ones (Nat.ne_zero_of_lt h)
  · rw [List.length_replicate]
    exact h

end Metadata

/-! ## All of them -/

/-- **What the readers of the sections report.** The readers of resources, files and libraries report
whatever is wrong. Those of blocks and of views do unless they get to a record with a number that is too
long, and that of the project does unless there is no line or the version is too long. -/
theorem readers_report_iff (text : String) :
    Reports ResourceSection.sectionName ResourceSection.ofText text ∧
    Reports FileSection.sectionName FileSection.ofText text ∧
    Reports LibrarySection.sectionName LibrarySection.ofText text ∧
    (¬Reports LogicSection.sectionName LogicSection.ofText text ↔
      ∃ group found, GetsTo LogicSection.sectionName LogicSection.ofText text group found ∧
        LogicSection.HoldsBlocks group.header ∧ LogicSection.HasLongNumber found) ∧
    (∀ skipped, ¬Reports ViewSection.sectionName (ViewSection.ofText · skipped) text ↔
      ∃ group found, GetsTo ViewSection.sectionName (ViewSection.ofText · skipped) text group found ∧
        ViewSection.HoldsViews skipped group.header ∧ ViewSection.HasLongNumber found) ∧
    (¬Reports Metadata.sectionName Metadata.ofText text ↔
      filledLines text = [] ∨ Metadata.HasLongVersion text) := by
  refine ⟨ResourceSection.readsByLine.reports text, FileSection.readsByLine.reports text,
    LibrarySection.readsByLine.reports text, LogicSection.not_reports_iff,
    fun skipped => ViewSection.not_reports_iff, ?_⟩
  rw [Metadata.reports_iff, not_and_or, not_not, not_not]

/-- A project section without a line, and one with a version of 4301 digits. -/
theorem readers_report_iff_project :
    ¬Reports Metadata.sectionName Metadata.ofText "" ∧
      ¬Reports Metadata.sectionName Metadata.ofText (Metadata.onesText 4301) := by
  obtain ⟨-, -, -, -, -, hblank⟩ := readers_report_iff ""
  obtain ⟨-, -, -, -, -, hlong⟩ := readers_report_iff (Metadata.onesText 4301)
  exact ⟨hblank.2 (.inl rfl), hlong.2 (.inr (Metadata.hasLongVersion_onesText (by decide)))⟩

end BlockApp
