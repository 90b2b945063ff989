import BlockApp.Logic.Section
import BlockApp.Project.File
import BlockApp.Project.Library
import BlockApp.Project.Resource
import BlockApp.Proofs.Section.Stepwise
import BlockApp.View.Section

/-!
# The readers of the sections

What the readers of the logic, view, resource, file and library sections do at a line: at a header they
look at the headers before it, and at a record at the header of its group. A record fails at its own line.
So each of these readers names the first wrong line of a text.

* `failsInLine_identifierField` and the like — the failures of the fields and cells of a record
* `LogicSection.readLine`, … — what a reader does at a header and at a record
* `readers_nameFirstBadLine` — the readers name the first wrong line
-/

namespace BlockApp

/-! ## Failures of records -/

namespace Section

variable {α : Type} {name : String} {numbers : Prop}

theorem failsInLine_failAt (name : String) (line : Int) (problem : SectionProblem) :
    (failAt (α := α) name line problem).FailsWith (Failure.IsInLine name line numbers) :=
  .error ⟨rfl, rfl⟩

theorem failsInLine_wrongCount (name kind : String) (found : Record) (expected : Nat) :
    (wrongCount (α := α) name kind found expected).FailsWith (Failure.IsInLine name found.line numbers) :=
  failsInLine_failAt name found.line _

theorem failsInLine_identifierField (name what : String) (line : Nat) (field : String) :
    (identifierField name what line field).FailsWith (Failure.IsInLine name line numbers) := by
  unfold identifierField
  dsimp only
  split
  · exact .ok _
  · exact failsInLine_failAt name line _

theorem failsInLine_choiceField (read : String → Option α) (name what : String) (line : Nat)
    (field : String) :
    (choiceField read name what line field).FailsWith (Failure.IsInLine name line numbers) := by
  unfold choiceField
  split
  · exact .ok _
  · exact failsInLine_failAt name line _

theorem isInLine_cellFailure (name : String) (line : Int) (cell : String) (fault : Cell.Fault) :
    (cellFailure name line cell fault).IsInLine name line True := by
  cases fault with
  | problem problem left => exact ⟨rfl, rfl⟩
  | tooManyDigits cause => exact trivial

theorem failsInLine_parameters (name : String) (line : Int) (cell : String) :
    (parameters name line cell).FailsWith (Failure.IsInLine name line True) :=
  .mapError fun fault _ => isInLine_cellFailure name line cell fault

theorem failsInLine_attributes (name : String) (line : Int) (cell : String) :
    (attributes name line cell).FailsWith (Failure.IsInLine name line True) :=
  .mapError fun fault _ => isInLine_cellFailure name line cell fault

end Section

open Section

/-! ## Libraries -/

namespace LibrarySection

theorem failsInLine_readLibrary (found : Record) :
    (readLibrary found).FailsWith (Failure.IsInLine sectionName found.line False) := by
  unfold readLibrary
  split
  · split
    · exact (failsInLine_identifierField _ _ _ _).bind fun _ _ => .pure _
    · exact failsInLine_failAt _ _ _
  · exact failsInLine_wrongCount _ _ _ _

/-- What is done at a line. -/
def readLine (known : Unit) : Entry → Except Failure Unit
  | .header line title =>
    if title = "library" then .ok ()
    else failAt sectionName line (.unknown "library group" title)
  | .record found => (fun _ => known) <$> readLibrary found

theorem fault?_readGroup (known : Unit) (group : Group) :
    (readGroup group).fault? = (group.entries.foldlM readLine known).fault? := by
  unfold readGroup
  split
  · next htitle =>
    rw [foldlM_entries_of_ok readLine readLibrary (if_pos htitle) fun _ => rfl, Except.fault?_map]
  · next htitle =>
    rw [foldlM_entries_of_error readLine (if_neg htitle)]
    rfl

theorem readsByLine : ReadsByLine sectionName False ofText () readLine where
  failsInLine known entry := by
    cases entry with
    | header line title =>
      rw [readLine]
      split
      · exact .ok _
      · exact failsInLine_failAt _ _ _
    | record found => exact (failsInLine_readLibrary found).map _
  error_of_splitGroups text failure h := by
    rw [ofText, h]
    rfl
  fault?_read text groups hgroups := by
    rw [ofText, hgroups]
    exact (Except.fault?_bind_pure _ _).trans (fault?_mapM_groups readLine fault?_readGroup groups ())

end LibrarySection

/-! ## Files -/

namespace FileSection

theorem failsInLine_readActivity (found : Record) :
    (readActivity found).FailsWith (Failure.IsInLine sectionName found.line False) := by
  unfold readActivity
  split
  · exact (failsInLine_identifierField _ _ _ _).bind fun _ _ =>
      (failsInLine_choiceField _ _ _ _ _).bind fun _ _ =>
        (failsInLine_choiceField _ _ _ _ _).bind fun _ _ => .pure _
  · exact failsInLine_wrongCount _ _ _ _

theorem failsInLine_readCustomView (found : Record) :
    (readCustomView found).FailsWith (Failure.IsInLine sectionName found.line False) := by
  unfold readCustomView
  split
  · exact failsInLine_identifierField _ _ _ _
  · exact failsInLine_wrongCount _ _ _ _

/-- What is done at a line. It hangs on the title of the header before it. -/
def readLine (opened : String) : Entry → Except Failure String
  | .header line title =>
    if title = "activity" ∨ title = "customview" then .ok title
    else failAt sectionName line (.unknown "file group" title)
  | .record found =>
    if opened = "activity" then (fun _ => opened) <$> readActivity found
    else (fun _ => opened) <$> readCustomView found

theorem fault?_readGroup (opened : String) (group : Group) :
    (readGroup group).fault? = (group.entries.foldlM readLine opened).fault? := by
  unfold readGroup
  split
  · next htitle =>
    rw [foldlM_entries_of_ok readLine readActivity (if_pos (.inl htitle)) fun _ => if_pos htitle,
      Except.fault?_map, Except.fault?_bind_pure]
  · next hactivity =>
    split
    · next htitle =>
      rw [foldlM_entries_of_ok readLine readCustomView (if_pos (.inr htitle)) fun _ => if_neg hactivity,
        Except.fault?_map, Except.fault?_bind_pure]
    · next htitle =>
      rw [foldlM_entries_of_error readLine (if_neg (not_or.2 ⟨hactivity, htitle⟩))]
      rfl

theorem readsByLine : ReadsByLine sectionName False ofText "" readLine where
  failsInLine opened entry := by
    cases entry with
    | header line title =>
      rw [readLine]
      split
      · exact .ok _
      · exact failsInLine_failAt _ _ _
    | record found =>
      rw [readLine]
      split
      · exact (failsInLine_readActivity found).map _
      · exact (failsInLine_readCustomView found).map _
  error_of_splitGroups text failure h := by
    rw [ofText, h]
    rfl
  fault?_read text groups hgroups := by
    rw [ofText, hgroups]
    exact (Except.fault?_bind_pure _ _).trans (fault?_mapM_groups readLine fault?_readGroup groups "")

end FileSection

/-! ## Resources -/

namespace ResourceSection

theorem failsInLine_readResource (kind : ResourceKind) (found : Record) :
    (readResource kind found).FailsWith (Failure.IsInLine sectionName found.line False) := by
  unfold readResource
  split
  · exact (failsInLine_identifierField _ _ _ _).bind fun _ _ => .pure _
  · exact failsInLine_wrongCount _ _ _ _

/-- What is done at a line. A record is of the kind of its group. -/
def readLine (kind : ResourceKind) : Entry → Except Failure ResourceKind
  | .header line title =>
    match ResourceKind.ofHeader? title with
    | none => failAt sectionName line (.unknown "resource group" title)
    | some kind => .ok kind
  | .record found => (fun _ => kind) <$> readResource kind found

theorem fault?_readGroup (kind : ResourceKind) (group : Group) :
    (readGroup group).fault? = (group.entries.foldlM readLine kind).fault? := by
  unfold readGroup
  split
  · next hkind =>
    rw [foldlM_entries_of_error readLine (by rw [readLine, hkind]; rfl)]
    rfl
  · next opened hkind =>
    rw [foldlM_entries_of_ok readLine (readResource opened) (by rw [readLine, hkind]) fun _ => rfl,
      Except.fault?_map]

theorem readsByLine : ReadsByLine sectionName False ofText .image readLine where
  failsInLine kind entry := by
    cases entry with
    | header line title =>
      rw [readLine]
      split
      · exact failsInLine_failAt _ _ _
      · exact .ok _
    | record found => exact (failsInLine_readResource kind found).map _
  error_of_splitGroups text failure h := by
    rw [ofText, h]
    rfl
  fault?_read text groups hgroups := by
    rw [ofText, hgroups]
    exact (Except.fault?_bind_pure _ _).trans (fault?_mapM_groups readLine fault?_readGroup groups .image)

end ResourceSection

/-! ## Views -/

namespace ViewSection

theorem failsInLine_readView (found : Record) :
    (readView found).FailsWith (Failure.IsInLine sectionName found.line True) := by
  unfold readView
  split
  · refine (failsInLine_identifierField _ _ _ _).bind fun _ _ =>
      (failsInLine_identifierField _ _ _ _).bind fun _ _ => ?_
    -- a name of a parent is read only if there is one
    dsimp only
    split
    · exact (Except.FailsWith.pure _).bind fun _ _ =>
        (failsInLine_attributes _ _ _).bind fun _ _ => .pure _
    · exact ((failsInLine_identifierField _ _ _ _).map _).bind fun _ _ =>
        (failsInLine_attributes _ _ _).bind fun _ _ => .pure _
  · exact failsInLine_wrongCount _ _ _ _

variable {skipped : List String} {known : List String × Bool} {group : Group}

/-- What is done at a line, given the screens that have a group and whether the group of the line is
skipped. -/
def readLine (skipped : List String) (known : List String × Bool) :
    Entry → Except Failure (List String × Bool)
  | .header line title =>
    match readHeader? title with
    | none => failAt sectionName line (.invalid "view header" title)
    | some (screen, ending) =>
      if ending ∈ skipped then .ok (known.1, true)
      else if ending ≠ "xml" then failAt sectionName line (.unknown "view extension" ending)
      else if screen ∈ known.1 then failAt sectionName line (.duplicate "view header" title)
      else .ok (screen :: known.1, false)
  | .record found => if known.2 = true then .ok known else (fun _ => known) <$> readView found

theorem failsInLine_header {numbers : Prop} (skipped : List String) (known : List String × Bool)
    (line : Nat) (title : String) :
    (readLine skipped known (.header line title)).FailsWith
      (Failure.IsInLine sectionName line numbers) := by
  rw [readLine]
  split
  · exact failsInLine_failAt _ _ _
  · split
    · exact .ok _
    split
    · exact failsInLine_failAt _ _ _
    split
    · exact failsInLine_failAt _ _ _
    · exact .ok _

theorem readLine_header (skipped : List String) (known : List String × Bool) (line : Nat)
    {title screen ending : String} (h : readHeader? title = some (screen, ending)) :
    readLine skipped known (.header line title) =
      if ending ∈ skipped then .ok (known.1, true)
      else if ending ≠ "xml" then failAt sectionName line (.unknown "view extension" ending)
      else if screen ∈ known.1 then failAt sectionName line (.duplicate "view header" title)
      else .ok (screen :: known.1, false) := by
  rw [readLine, h]

/-- Nothing is checked in a group that is skipped. -/
theorem foldlM_entries_of_skipped
    (hheader : readLine skipped known (.header group.line group.header) = .ok (known.1, true)) :
    group.entries.foldlM (readLine skipped) known = .ok (known.1, true) := by
  rw [Group.entries, List.foldlM_cons, hheader]
  show (group.records.map .record).foldlM (readLine skipped) (known.1, true) = .ok (known.1, true)
  induction group.records with
  | nil => rfl
  | cons found records ih =>
    rw [List.map_cons, List.foldlM_cons, readLine, if_pos rfl]
    exact ih

theorem fault?_readGroups (groups : List Group) (known : List String × Bool) :
    (readGroups skipped known.1 groups).fault? =
      ((groups.flatMap Group.entries).foldlM (readLine skipped) known).fault? := by
  induction groups generalizing known with
  | nil => rfl
  | cons group groups ih =>
    rw [List.flatMap_cons, List.foldlM_append, readGroups]
    cases hheader : readHeader? group.header with
    | none =>
      rw [foldlM_entries_of_error (readLine skipped) (by rw [readLine, hheader]; rfl)]
      rfl
    | some named =>
      obtain ⟨screen, ending⟩ := named
      have hstep := readLine_header skipped known group.line hheader
      dsimp only
      split
      · next hskipped =>
        rw [foldlM_entries_of_skipped (hstep.trans (if_pos hskipped))]
        exact ih (known.1, true)
      · next hread =>
        rw [if_neg hread] at hstep
        split
        · next hending =>
          rw [foldlM_entries_of_error (readLine skipped) (hstep.trans (if_pos hending))]
          rfl
        · next hending =>
          rw [if_neg hending] at hstep
          split
          · next hseen =>
            rw [foldlM_entries_of_error (readLine skipped) (hstep.trans (if_pos hseen))]
            rfl
          · next hnew =>
            rw [foldlM_entries_of_ok (readLine skipped) readView (hstep.trans (if_neg hnew)) fun _ => rfl]
            refine Except.fault?_bind_congr (Except.fault?_map _ _).symm fun _ later _ hlater => ?_
            obtain ⟨-, -, rfl⟩ := Except.map_eq_ok_iff.1 hlater
            rw [Except.fault?_bind_pure]
            exact ih (screen :: known.1, false)

theorem readsByLine (skipped : List String) :
    ReadsByLine sectionName True (ofText · skipped) ([], false) (readLine skipped) where
  failsInLine known entry := by
    cases entry with
    | header line title => exact failsInLine_header skipped known line title
    | record found =>
      rw [readLine]
      split
      · exact .ok _
      · exact (failsInLine_readView found).map _
  error_of_splitGroups text failure h := by
    rw [ofText, h]
    rfl
  fault?_read text groups hgroups := by
    rw [ofText, hgroups]
    exact (Except.fault?_bind_pure _ _).trans (fault?_readGroups groups ([], false))

end ViewSection

/-! ## Logic -/

namespace LogicSection

variable {numbers : Prop}

theorem failsInLine_readVariable (list : Bool) (found : Record) :
    (readVariable list found).FailsWith (Failure.IsInLine sectionName found.line numbers) := by
  unfold readVariable
  dsimp only
  split
  · refine (failsInLine_choiceField _ _ _ _ _).bind fun type _ => ?_
    -- the name is read last, whatever the type is
    have hname : ∀ {shape : VariableShape} {what field : String}, Except.FailsWith
        (Failure.IsInLine sectionName found.line numbers)
        (do return VariableDeclaration.mk shape (← identifierField sectionName what found.line field)) :=
      (failsInLine_identifierField _ _ _ _).bind fun _ _ => .pure _
    split
    · split
      · exact (Except.FailsWith.pure _).bind fun _ _ => hname
      · exact (failsInLine_failAt _ _ _).bind fun _ _ => hname
    · exact (Except.FailsWith.pure _).bind fun _ _ => hname
  · exact failsInLine_wrongCount _ _ _ _

theorem failsInLine_readComponent (found : Record) :
    (readComponent found).FailsWith (Failure.IsInLine sectionName found.line numbers) := by
  unfold readComponent
  split
  · exact (failsInLine_identifierField _ _ _ _).bind fun _ _ =>
      (failsInLine_identifierField _ _ _ _).bind fun _ _ => .pure _
  · exact failsInLine_wrongCount _ _ _ _

theorem failsInLine_readMoreBlock (found : Record) :
    (readMoreBlock found).FailsWith (Failure.IsInLine sectionName found.line numbers) := by
  unfold readMoreBlock
  split
  · refine (failsInLine_identifierField _ _ _ _).bind fun _ _ => .bind (.mapM fun word _ => ?_)
      fun _ _ => .pure _
    split
    · exact .pure _
    · exact failsInLine_failAt _ _ _
  · exact failsInLine_wrongCount _ _ _ _

theorem failsInLine_readBlock (found : Record) :
    (readBlock found).FailsWith (Failure.IsInLine sectionName found.line True) := by
  unfold readBlock
  split
  · split
    · exact failsInLine_failAt _ _ _
    · dsimp only
      split
      · exact failsInLine_failAt _ _ _
      · exact .bind (.mapError fun _ _ => trivial) fun _ _ =>
          (failsInLine_parameters _ _ _).bind fun _ _ => .pure _
  · exact failsInLine_wrongCount _ _ _ _

/-- Reads a record under a key, whatever it gives. -/
def readRecord (key : String) (found : Record) : Except Failure Unit :=
  if key = "var" then discard (readVariable false found)
  else if key = "list" then discard (readVariable true found)
  else if key = "components" then discard (readComponent found)
  else if key = "func" then discard (readMoreBlock found)
  else discard (readBlock found)

theorem failsInLine_readRecord (key : String) (found : Record) :
    (readRecord key found).FailsWith (Failure.IsInLine sectionName found.line True) := by
  unfold readRecord
  split
  · exact (failsInLine_readVariable false found).map _
  split
  · exact (failsInLine_readVariable true found).map _
  split
  · exact (failsInLine_readComponent found).map _
  split
  · exact (failsInLine_readMoreBlock found).map _
  · exact (failsInLine_readBlock found).map _

theorem fault?_mapM_discard {α : Type} (read : Record → Except Failure α) (make : List α → GroupContent)
    (records : List Record) :
    (make <$> records.mapM read).fault? = (records.mapM fun found => discard (read found)).fault? := by
  rw [Except.fault?_map]
  exact Except.fault?_mapM_congr fun _ _ => (Except.fault?_map _ _).symm

theorem fault?_readContent (key : String) (records : List Record) :
    (readContent key records).fault? = (records.mapM (readRecord key)).fault? := by
  unfold readContent readRecord
  split
  · exact fault?_mapM_discard _ _ records
  split
  · exact fault?_mapM_discard _ _ records
  split
  · exact fault?_mapM_discard _ _ records
  split
  · exact fault?_mapM_discard _ _ records
  · exact fault?_mapM_discard _ _ records

/-- What is done at a line, given the screens and keys of the groups so far and the key of the last. -/
def readLine (known : List (String × String) × String) :
    Entry → Except Failure (List (String × String) × String)
  | .header line title =>
    match readHeader? title with
    | none => failAt sectionName line (.invalid "logic header" title)
    | some (screen, key) =>
      if known.1.contains (screen, key) then failAt sectionName line (.duplicate "logic header" title)
      else .ok ((screen, key) :: known.1, key)
  | .record found => (fun _ => known) <$> readRecord known.2 found

theorem failsInLine_header (known : List (String × String) × String) (line : Nat) (title : String) :
    (readLine known (.header line title)).FailsWith (Failure.IsInLine sectionName line numbers) := by
  rw [readLine]
  split
  · exact failsInLine_failAt _ _ _
  · split
    · exact failsInLine_failAt _ _ _
    · exact .ok _

theorem readLine_header (known : List (String × String) × String) (line : Nat)
    {title screen key : String} (h : readHeader? title = some (screen, key)) :
    readLine known (.header line title) =
      if known.1.contains (screen, key) then failAt sectionName line (.duplicate "logic header" title)
      else .ok ((screen, key) :: known.1, key) := by
  rw [readLine, h]

theorem fault?_readGroups (groups : List Group) (known : List (String × String) × String) :
    (readGroups known.1 groups).fault? =
      ((groups.flatMap Group.entries).foldlM readLine known).fault? := by
  induction groups generalizing known with
  | nil => rfl
  | cons group groups ih =>
    rw [List.flatMap_cons, List.foldlM_append, readGroups]
    cases hheader : readHeader? group.header with
    | none =>
      rw [foldlM_entries_of_error readLine (by rw [readLine, hheader]; rfl)]
      rfl
    | some named =>
      obtain ⟨screen, key⟩ := named
      have hstep := readLine_header known group.line hheader
      dsimp only
      split
      · next hseen =>
        rw [foldlM_entries_of_error readLine (hstep.trans (if_pos (List.contains_iff_mem.2 hseen)))]
        rfl
      · next hnew =>
        rw [foldlM_entries_of_ok readLine (readRecord key)
          (hstep.trans (if_neg (mt List.contains_iff_mem.1 hnew))) fun _ => rfl]
        refine Except.fault?_bind_congr ?_ fun _ later _ hlater => ?_
        · rw [fault?_readContent, Except.fault?_map]
        · obtain ⟨-, -, rfl⟩ := Except.map_eq_ok_iff.1 hlater
          rw [Except.fault?_bind_pure]
          exact ih ((screen, key) :: known.1, key)

theorem readsByLine : ReadsByLine sectionName True ofText ([], "") readLine where
  failsInLine known entry := by
    cases entry with
    | header line title => exact failsInLine_header known line title
    | record found => exact (failsInLine_readRecord known.2 found).map _
  error_of_splitGroups text failure h := by
    rw [ofText, h]
    rfl
  fault?_read text groups hgroups := by
    rw [ofText, hgroups]
    exact (Except.fault?_bind_pure _ _).trans (fault?_readGroups groups ([], ""))

end LogicSection

/-! ## All of them -/

/-- **The readers of sections name the first wrong line**: the lines before it are read, and what stands
behind it does not change the failure. -/
theorem readers_nameFirstBadLine :
    NamesFirstBadLine LogicSection.sectionName LogicSection.ofText ∧
    (∀ skipped, NamesFirstBadLine ViewSection.sectionName (ViewSection.ofText · skipped)) ∧
    NamesFirstBadLine ResourceSection.sectionName ResourceSection.ofText ∧
    NamesFirstBadLine FileSection.sectionName FileSection.ofText ∧
    NamesFirstBadLine LibrarySection.sectionName LibrarySection.ofText :=
  ⟨LogicSection.readsByLine.namesFirstBadLine,
    fun skipped => (ViewSection.readsByLine skipped).namesFirstBadLine,
    ResourceSection.readsByLine.namesFirstBadLine, FileSection.readsByLine.namesFirstBadLine,
    LibrarySection.readsByLine.namesFirstBadLine⟩

/-- A header that stands twice: the failure is at its second line, and the text up to there is read. -/
theorem readers_nameFirstBadLine_duplicate :
    ∃ number : Nat, (3 : Int) = number ∧
      (∃ result, LogicSection.ofText (firstLines "@a.java_f\n\n@a.java_f" (number - 1)) = .ok result) ∧
      LogicSection.ofText "@a.java_f\n\n@a.java_f\nwrong" = .error
        (.sectionText "logic" 3 (.duplicate "logic header" "a.java_f")) := by
  obtain ⟨number, -, hnumber, -, -, hfirst, hother⟩ := readers_nameFirstBadLine.1
    "@a.java_f\n\n@a.java_f" [⟨"a.java_f", 1, []⟩, ⟨"a.java_f", 3, []⟩] "logic" 3
    (.duplicate "logic header" "a.java_f") rfl rfl
  obtain rfl : number = 3 := (Int.ofNat_inj.1 hnumber).symm
  have hsame : (rawLines "@a.java_f\n\n@a.java_f\nwrong").take 3 =
      (rawLines "@a.java_f\n\n@a.java_f").take 3 := by decide
  have hgroups : Section.splitGroups LogicSection.sectionName "@a.java_f\n\n@a.java_f\nwrong" =
      .ok [⟨"a.java_f", 1, []⟩, ⟨"a.java_f", 3, [⟨4, ["wrong"]⟩]⟩] := rfl
  exact ⟨3, rfl, hfirst, hother _ _ hsame hgroups⟩

end BlockApp
