import BlockApp.Proofs.Method.Records
import Mathlib

/-!
# Counters of loops

Each counted loop of a method has a counter of its own: they are numbered through the method. Their names
stand beside those that the author of a project chose, the parameters, the local variables and what is
referred to, and nothing keeps the two apart. A counter has the name of a variable called `_repeat1`, and of
the parameter for an argument called `repeat1`, and hides what was meant.

* `Handler.counters`, `Handler.ownNames` — the names that a method gets, and those it is given
* `counters_apart_iff` — when the two are apart
-/

namespace BlockApp

/-! ## Names in methods -/

/-- The local variable that a row declares. -/
def Row.declared? (row : Row) : Option String :=
  match BlockTag.of row.tag, row.params with
  | .declare, _ :: .literal .enum name :: _ => some name
  | _, _ => none

/-- The name that a reference is in code. -/
def Reference.codeName : Reference → String
  | (.argument, name) => "_" ++ name
  | (.variable, name) | (.view, name) => name

/-- The names that rows bring into code: what they declare, and what they refer to. -/
def namesOf (rows : List Row) : List String :=
  rows.flatMap fun row => row.declared?.toList ++ (Expr.referencesOf row.params).map Reference.codeName

namespace Handler

/-- The counters of the loops in the method of a handler, in their order. -/
def counters (h : Handler) : List String :=
  (List.range (countedIn h.blocks)).map fun before => Source.counterName (before + 1)

/-- The names that the author of a project brings into the method of a handler: its parameters, its local
variables, and what it refers to. -/
def ownNames (h : Handler) : List String :=
  h.arguments.map (fun a => "_" ++ a.name) ++ namesOf (rowsOf 0 h.blocks)

end Handler

namespace Source

variable {scene : Scene}

theorem counterName_eq (number : Nat) : counterName number = "_repeat" ++ toString number := rfl

theorem counterName_inj {number other : Nat} (h : counterName number = counterName other) :
    number = other := by
  rw [counterName_eq, counterName_eq] at h
  exact Nat.repr_inj.1 ((String.append_right_inj "_repeat").1 h)

/-- A parameter has the name of a counter if its argument has this name without the underscore. -/
theorem underscore_eq_counterName_iff {name : String} {number : Nat} :
    "_" ++ name = counterName number ↔ name = s!"repeat{number}" := by
  have hcounter : counterName number = "_" ++ s!"repeat{number}" := by
    rw [counterName_eq, show s!"repeat{number}" = "repeat" ++ toString number from rfl,
      ← String.append_assoc]
    rfl
  rw [hcounter]
  exact String.append_right_inj "_"

/-! ## Counters of methods -/

theorem mem_counters_iff {h : Handler} {counter : String} :
    counter ∈ h.counters ↔
      ∃ number, 1 ≤ number ∧ number ≤ h.counters.length ∧ counterName number = counter := by
  simp only [Handler.counters, List.length_map, List.length_range, List.mem_map, List.mem_range]
  constructor
  · rintro ⟨before, hbefore, rfl⟩
    exact ⟨before + 1, Nat.le_add_left 1 before, hbefore, rfl⟩
  · rintro ⟨number, hone, hle, rfl⟩
    exact ⟨number - 1, by omega, by rw [Nat.sub_add_cancel hone]⟩

theorem nodup_counters (h : Handler) : h.counters.Nodup := by
  refine List.Nodup.map ?_ List.nodup_range
  intro before other hsame
  exact Nat.succ.inj (counterName_inj hsame)

/-- The code that opens a counted loop. -/
def countedText (counter limit : String) : String :=
  s!"for (int {counter} = 0; {counter} < (int) ({limit}); {counter}++) \x7b"

theorem codeOf_times {number : Nat} {tag text : String} {params : List Expr}
    (htag : BlockTag.of tag = .times) (h : codeOf scene number tag params = .ok text) :
    ∃ limit, text = countedText (counterName number) limit := by
  have hform := codeForm_of_codeOf h
  rw [htag] at hform
  cases hform with
  | @times _ limit _ => exact ⟨limit, rfl⟩

theorem referenceText_eq_ok {reference : Reference} {text : String}
    (h : referenceText scene reference.1 reference.2 = .ok text) : text = reference.codeName := by
  obtain ⟨kind, name⟩ := reference
  cases kind with
  | «variable» => exact (Except.ok.inj h).symm
  | argument => exact (Except.ok.inj h).symm
  | view =>
    unfold referenceText at h
    dsimp only at h
    split at h
    · exact (Except.ok.inj h).symm
    · cases h

/-! ## Own names -/

section

variable {screen key : String} {declarations : Declarations} {used : List String}
  {records : List BlockRecord} {h : Handler}

theorem mem_namesOf_records {name : String} :
    name ∈ namesOf (records.map (·.row)) ↔
      ∃ record ∈ records, record.row.declared? = some name ∨
        ∃ reference ∈ Expr.referencesOf record.params, Reference.codeName reference = name := by
  simp only [namesOf, List.mem_flatMap, List.mem_map, List.mem_append, Option.mem_toList]
  constructor
  · rintro ⟨_, ⟨record, hrecord, rfl⟩, hname⟩
    exact ⟨record, hrecord, hname⟩
  · rintro ⟨record, hrecord, hname⟩
    exact ⟨record.row, ⟨record, hrecord, rfl⟩, hname⟩

theorem mem_ownNames_iff {name : String}
    (hrecords : Handler.ofRecords screen declarations used key records = .ok h) :
    name ∈ h.ownNames ↔ (∃ a ∈ h.arguments, "_" ++ a.name = name) ∨
      ∃ record ∈ records, record.row.declared? = some name ∨
        ∃ reference ∈ Expr.referencesOf record.params, Reference.codeName reference = name := by
  obtain ⟨-, -, -, -, hrows, -⟩ := Handler.ofRecords_eq_ok_iff.1 hrecords
  rw [Handler.ownNames, hrows, List.mem_append, List.mem_map, mem_namesOf_records]

/-- What a record refers to as an argument is one of the handler. -/
theorem mem_arguments_of_mem_references
    (hrecords : Handler.ofRecords screen declarations used key records = .ok h) {record : BlockRecord}
    (hrecord : record ∈ records) {name : String}
    (hname : (.argument, name) ∈ Expr.referencesOf record.params) :
    name ∈ h.arguments.map (·.name) := by
  obtain ⟨-, -, -, hvalid, hrows, -⟩ := Handler.ofRecords_eq_ok_iff.1 hrecords
  have hrow : record.row ∈ rowsOf 0 h.blocks := hrows ▸ List.mem_map_of_mem hrecord
  obtain ⟨seen, hallowed⟩ := allowed_of_mem_rowsOf 0 h.blocks hvalid hrow
  exact hallowed.resolved _ hname

/-- When a counter has a name of the author's own. -/
theorem counterName_mem_ownNames_iff
    (hrecords : Handler.ofRecords screen declarations used key records = .ok h) (number : Nat) :
    counterName number ∈ h.ownNames ↔ s!"repeat{number}" ∈ h.arguments.map (·.name) ∨
      ∃ record ∈ records, record.row.declared? = some (counterName number) ∨
        (.variable, counterName number) ∈ Expr.referencesOf record.params ∨
        (.view, counterName number) ∈ Expr.referencesOf record.params := by
  rw [mem_ownNames_iff hrecords]
  constructor
  · rintro (⟨a, ha, hname⟩ | ⟨record, hrecord, hdeclared | ⟨⟨kind, name⟩, hreference, hname⟩⟩)
    · rw [underscore_eq_counterName_iff] at hname
      exact .inl (hname ▸ List.mem_map_of_mem ha)
    · exact .inr ⟨record, hrecord, .inl hdeclared⟩
    · cases kind with
      | «variable» =>
        obtain rfl : name = counterName number := hname
        exact .inr ⟨record, hrecord, .inr (.inl hreference)⟩
      | view =>
        obtain rfl : name = counterName number := hname
        exact .inr ⟨record, hrecord, .inr (.inr hreference)⟩
      | argument =>
        obtain rfl := underscore_eq_counterName_iff.1 hname
        exact .inl (mem_arguments_of_mem_references hrecords hrecord hreference)
  · rintro (hargument | ⟨record, hrecord, hdeclared | hreference | hreference⟩)
    · obtain ⟨a, ha, hname⟩ := List.mem_map.1 hargument
      exact .inl ⟨a, ha, underscore_eq_counterName_iff.2 hname⟩
    · exact .inr ⟨record, hrecord, .inl hdeclared⟩
    · exact .inr ⟨record, hrecord, .inr ⟨_, hreference, rfl⟩⟩
    · exact .inr ⟨record, hrecord, .inr ⟨_, hreference, rfl⟩⟩

/-! ## Methods -/

variable {named : String} {lines : List Line}

theorem length_counters (hrecords : Handler.ofRecords screen declarations used key records = .ok h) :
    h.counters.length = timesIn (records.map (·.row)) := by
  obtain ⟨-, -, -, hvalid, hrows, -⟩ := Handler.ofRecords_eq_ok_iff.1 hrecords
  rw [Handler.counters, List.length_map, List.length_range, ← timesIn_rowsOf 0 h.blocks hvalid, hrows]

/-- The loop of a record has the counter of its number among the loops. -/
theorem getElem?_counters (hrecords : Handler.ofRecords screen declarations used key records = .ok h)
    {i : Nat} {record : BlockRecord} (hrecord : records[i]? = some record)
    (htag : BlockTag.of record.tag = .times) :
    h.counters[timesIn ((records.take i).map (·.row))]? =
      some (counterName (timesIn ((records.take (i + 1)).map (·.row)))) := by
  have hloop : timesIn [record.row] = 1 := by
    show List.countP _ [record.row] = 1
    rw [List.countP_singleton, show BlockTag.of record.row.tag = .times from htag]
    rfl
  have hnext : timesIn ((records.take (i + 1)).map (·.row)) =
      timesIn ((records.take i).map (·.row)) + 1 := by
    rw [List.take_add_one, hrecord, List.map_append, timesIn_append]
    exact congrArg _ hloop
  have hle : timesIn ((records.take (i + 1)).map (·.row)) ≤ timesIn (records.map (·.row)) :=
    ((List.take_sublist (i + 1) records).map _).countP_le
  have hlt : timesIn ((records.take i).map (·.row)) < countedIn h.blocks := by
    rw [← length_counters hrecords, Handler.counters, List.length_map, List.length_range] at hle
    omega
  rw [Handler.counters, List.getElem?_map, List.getElem?_range hlt, hnext]
  rfl

/-- The lines of counted loops are those of their counters. -/
theorem exists_countedText_of_methodLines
    (hrecords : Handler.ofRecords screen declarations used key records = .ok h)
    (hlines : methodLines scene named h = .ok lines) :
    ∃ body : List Line, lines = annotationLines h.binding ++
        bracedBy (signatureLine h) (superLines h.binding ++ body) ∧
      ∀ (i : Nat) (record : BlockRecord), records[i]? = some record → BlockTag.of record.tag = .times →
        ∃ line counter limit, (body.filter (!isClosing ·))[i]? = some line ∧
          h.counters[timesIn ((records.take i).map (·.row))]? = some counter ∧
          line.text = countedText counter limit := by
  obtain ⟨-, -, -, hvalid, hrows, -⟩ := Handler.ofRecords_eq_ok_iff.1 hrecords
  obtain ⟨coded, hcodedRows, hcoded, rfl⟩ := exists_coded_of_methodLines hvalid hlines
  have hmap : coded.map Prod.fst = records.map (·.row) := hcodedRows.trans hrows
  refine ⟨_, rfl, ?_⟩
  intro i record hrecord htag
  rw [filter_withBraces hcoded.noneClosing]
  -- there are as many lines as records
  have hlength : coded.length = records.length := by simpa using congrArg List.length hmap
  have hi : i < (coded.map Prod.snd).length := by
    rw [List.length_map, hlength]
    exact (List.getElem?_eq_some_iff.1 hrecord).1
  have hline := List.getElem?_eq_getElem hi
  obtain ⟨-, hcode⟩ := hcoded.of_records hmap hrecord hline
  obtain ⟨limit, hlimit⟩ := codeOf_times htag hcode
  exact ⟨_, _, limit, hline, getElem?_counters hrecords hrecord htag, hlimit⟩

/-- **When the counters of a method are apart from all other names in it.** A method has as many counters as
counted loops, no two alike, and each loop has the one of its number. What the code of a reference is, is
among the names that the author of the project brought in. No counter is among these exactly if, for no
number of a loop, an argument of the handler is named `repeat` with this number, or a local variable or
something that is referred to is named `_repeat` with this number. -/
theorem counters_apart_iff
    (hrecords : Handler.ofRecords screen declarations used key records = .ok h)
    (hlines : methodLines scene named h = .ok lines) :
    (∃ body : List Line, lines = annotationLines h.binding ++
        bracedBy (signatureLine h) (superLines h.binding ++ body) ∧
      ∀ (i : Nat) (record : BlockRecord), records[i]? = some record → BlockTag.of record.tag = .times →
        ∃ line counter limit, (body.filter (!isClosing ·))[i]? = some line ∧
          h.counters[timesIn ((records.take i).map (·.row))]? = some counter ∧
          line.text = countedText counter limit) ∧
    h.counters.length = timesIn (records.map (·.row)) ∧ h.counters.Nodup ∧
    (∀ record ∈ records, ∀ reference ∈ Expr.referencesOf record.params, ∀ text,
      referenceText scene reference.1 reference.2 = .ok text → text ∈ h.ownNames) ∧
    ((∀ counter ∈ h.counters, counter ∉ h.ownNames) ↔
      ∀ number, 1 ≤ number → number ≤ h.counters.length →
        s!"repeat{number}" ∉ h.arguments.map (·.name) ∧
        ∀ record ∈ records, record.row.declared? ≠ some s!"_repeat{number}" ∧
          (.variable, s!"_repeat{number}") ∉ Expr.referencesOf record.params ∧
          (.view, s!"_repeat{number}") ∉ Expr.referencesOf record.params) := by
  refine ⟨exists_countedText_of_methodLines hrecords hlines, length_counters hrecords, nodup_counters h,
    ?_, ?_⟩
  · intro record hrecord reference hreference text htext
    refine (mem_ownNames_iff hrecords).2 (.inr ⟨record, hrecord, .inr ⟨reference, hreference, ?_⟩⟩)
    exact (referenceText_eq_ok htext).symm
  · constructor
    · intro hapart number hone hle
      have hown := hapart _ (mem_counters_iff.2 ⟨number, hone, hle, rfl⟩)
      rw [counterName_mem_ownNames_iff hrecords] at hown
      refine ⟨fun hargument => hown (.inl hargument), fun record hrecord => ⟨?_, ?_, ?_⟩⟩
      · exact fun hdeclared => hown (.inr ⟨record, hrecord, .inl hdeclared⟩)
      · exact fun hreference => hown (.inr ⟨record, hrecord, .inr (.inl hreference)⟩)
      · exact fun hreference => hown (.inr ⟨record, hrecord, .inr (.inr hreference)⟩)
    · intro hapart counter hcounter hown
      obtain ⟨number, hone, hle, rfl⟩ := mem_counters_iff.1 hcounter
      obtain ⟨hargument, hothers⟩ := hapart number hone hle
      rcases (counterName_mem_ownNames_iff hrecords number).1 hown with hmem | ⟨record, hrecord, hmem⟩
      · exact hargument hmem
      · obtain ⟨hdeclared, hvariable, hview⟩ := hothers record hrecord
        rcases hmem with hmem | hmem | hmem
        · exact hdeclared hmem
        · exact hvariable hmem
        · exact hview hmem

end

/-- A loop that steps a variable, which has the name of its counter. -/
def steppingRecords : List BlockRecord :=
  [⟨4, "10", 0, "repeat", [.literal .number "3"]⟩,
    ⟨5, "11", 1, "increaseInt", [.reference .variable "_repeat1"]⟩]

/-- The method of that loop: it is the counter that is stepped. -/
def steppingLines : List Line :=
  [.plain 1 "private void initializeLogic() \x7b",
    .plain 2 "for (int _repeat1 = 0; _repeat1 < (int) (3); _repeat1++) \x7b", .plain 3 "_repeat1++;",
    .closing 2, .closing 1]

theorem counters_apart_iff_stepping :
    ∃ h, Handler.ofRecords "MainActivity" ⟨[⟨.single .number, "_repeat1"⟩], [], []⟩ []
        Binding.startUpKey steppingRecords = .ok h ∧
      methodLines ⟨"main", ⟨"main", []⟩, ⟨[]⟩⟩ "MainActivity" h = .ok steppingLines ∧
      h.counters = ["_repeat1"] ∧ ¬∀ counter ∈ h.counters, counter ∉ h.ownNames := by
  let h : Handler := ⟨Binding.startUpKey, .startUp, [],
    [.loop "10" (.times (.literal .number "3")) [.assign "11" "_repeat1" .increase]]⟩
  have hrecords : Handler.ofRecords "MainActivity" ⟨[⟨.single .number, "_repeat1"⟩], [], []⟩ []
      Binding.startUpKey steppingRecords = .ok h := rfl
  have hlines : methodLines ⟨"main", ⟨"main", []⟩, ⟨[]⟩⟩ "MainActivity" h = .ok steppingLines := rfl
  have hcounters : h.counters = ["_repeat1"] := by decide
  obtain ⟨-, -, -, -, hapart⟩ := counters_apart_iff hrecords hlines
  refine ⟨h, hrecords, hlines, hcounters, fun hall => ?_⟩
  obtain ⟨-, hothers⟩ := hapart.1 hall 1 (Nat.le_refl 1) (hcounters ▸ Nat.le_refl 1)
  obtain ⟨-, hvariable, -⟩ := hothers _ (List.mem_cons_of_mem _ List.mem_cons_self)
  exact hvariable (by decide)

end Source

end BlockApp
