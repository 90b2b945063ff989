import BlockApp.Proofs.Outcome
import BlockApp.Proofs.Section.Lines
import Mathlib.Data.List.DropRight
import Mathlib.Data.List.Forall2

/-!
# Headers and records are the lines of a text

A section is read line by line. Blank lines are skipped and every other line becomes one header or one
record, so the groups of a section, listed one after the other, are the lines that are not blank. Carriage
returns at the ends of lines are blank and are never part of a field, so it does not matter whether lines
end with them.

* `Entry`, `Group.entries` — what a line becomes, and the entries of a group in their order
* `filledLines` — the lines of a text that are not blank, with their numbers
* `entries_of_splitGroups` — the entries of the groups are those of the lines
* `IsRefused`, `groupLines_readsUnlessRefused` — the lines that are refused, and the failure at the first
* `splitGroups_withReturns` — lines may end with carriage returns
* `splitGroups_lines` — all of that together
-/

namespace BlockApp

/-! ## Ends of lines -/

namespace Text

variable {p : Char → Bool} {c : Char} {s : List Char}

/-- What is dropped at the end of a text, behind what is kept. -/
theorem exists_dropped (p : Char → Bool) (s : List Char) :
    ∃ dropped, s = dropEndWhile p s ++ dropped ∧ ∀ c ∈ dropped, p c = true := by
  refine ⟨(s.reverse.takeWhile p).reverse, ?_, fun c hc => ?_⟩
  · rw [dropEndWhile, ← List.reverse_append, List.takeWhile_append_dropWhile, List.reverse_reverse]
  · exact List.mem_takeWhile_imp (List.mem_reverse.1 hc)

theorem dropEndWhile_cons (p : Char → Bool) (c : Char) (s : List Char) :
    dropEndWhile p (c :: s) =
      if dropEndWhile p s = [] ∧ p c = true then [] else c :: dropEndWhile p s := by
  unfold dropEndWhile
  rw [List.reverse_cons, List.dropWhile_append]
  by_cases hempty : s.reverse.dropWhile p = []
  · by_cases hc : p c = true
    · simp [hempty, hc]
    · simp [hempty, hc]
  · simp [hempty]

theorem dropEndWhile_cons_of_neg (h : p c = false) (s : List Char) :
    dropEndWhile p (c :: s) = c :: dropEndWhile p s := by
  rw [dropEndWhile_cons, if_neg fun hempty => Bool.false_ne_true (h.symm.trans hempty.2)]

/-- A text without the carriage returns at its end. -/
def withoutReturns (s : List Char) : List Char := dropEndWhile (· == '\r') s

theorem withoutReturns_eq_self (h : '\r' ∉ s) : withoutReturns s = s := by
  rcases List.eq_nil_or_concat' s with rfl | ⟨first, last, rfl⟩
  · rfl
  · have hlast : (last == '\r') = false :=
      beq_eq_false_iff_ne.2 fun heq => h (heq ▸ List.mem_append_right first List.mem_cons_self)
    exact dropEndWhile_append_singleton hlast

theorem isBlank_of_return {c : Char} (h : (c == '\r') = true) : isBlank c = true := by
  rw [eq_of_beq h]
  decide

theorem allBlank_withoutReturns (s : List Char) : allBlank (withoutReturns s) = allBlank s := by
  obtain ⟨dropped, hsplit, hdropped⟩ := exists_dropped (· == '\r') s
  have hblank : allBlank dropped = true :=
    List.all_eq_true.2 fun c hc => isBlank_of_return (hdropped c hc)
  calc
    allBlank (withoutReturns s) = (allBlank (withoutReturns s) && allBlank dropped) := by
      rw [hblank, Bool.and_true]
    _ = allBlank s := by
      conv_rhs => rw [hsplit]
      exact List.all_append.symm

/-- Blanks at the end of a text do not matter once it is trimmed. -/
theorem trim_append_of_allBlank {blanks : List Char} (h : allBlank blanks = true) (s : List Char) :
    trim (s ++ blanks) = trim s := by
  have hblanks : ∀ c ∈ blanks, isBlank c = true := List.all_eq_true.1 h
  have hend : ∀ t : List Char, dropEndWhile isBlank (t ++ blanks) = dropEndWhile isBlank t := by
    intro t
    unfold dropEndWhile
    rw [List.reverse_append,
      List.dropWhile_append_of_pos fun c hc => hblanks c (List.mem_reverse.1 hc)]
  unfold trim
  rw [List.dropWhile_append]
  split
  · next hempty =>
    rw [List.isEmpty_iff.1 hempty, List.dropWhile_eq_nil_iff.2 hblanks]
  · exact hend _

theorem trim_withoutReturns (s : List Char) : trim (withoutReturns s) = trim s := by
  obtain ⟨dropped, hsplit, hdropped⟩ := exists_dropped (· == '\r') s
  have hblank : allBlank dropped = true :=
    List.all_eq_true.2 fun c hc => isBlank_of_return (hdropped c hc)
  conv_rhs => rw [hsplit]
  exact (trim_append_of_allBlank hblank _).symm

theorem trim_eq_nil_iff : trim s = [] ↔ allBlank s = true := by
  show (s.dropWhile isBlank).rdropWhile isBlank = [] ↔ s.all isBlank = true
  rw [List.rdropWhile_eq_nil_iff, List.all_eq_true]
  constructor
  · intro h
    refine List.dropWhile_eq_nil_iff.1 ?_
    cases hrest : s.dropWhile isBlank with
    | nil => rfl
    | cons c rest =>
      -- what is left begins with a character that is not blank
      have hfirst := List.head?_dropWhile_not isBlank s
      rw [hrest] at hfirst h
      exact absurd (h c List.mem_cons_self) (by simpa using hfirst)
  · intro h c hc
    exact h c ((List.dropWhile_sublist _).subset hc)

theorem withoutReturns_at (s : List Char) : withoutReturns ('@' :: s) = '@' :: withoutReturns s :=
  dropEndWhile_cons_of_neg (by decide) s

theorem head?_withoutReturns : (withoutReturns s).head? = some '@' ↔ s.head? = some '@' := by
  cases s with
  | nil => exact Iff.rfl
  | cons c s =>
    by_cases hc : c = '@'
    · subst hc
      rw [withoutReturns_at]
      exact Iff.rfl
    · refine iff_of_false ?_ (by simpa using hc)
      rw [withoutReturns, dropEndWhile_cons]
      split
      · exact nofun
      · simpa using hc

end Text

/-! ## Entries -/

namespace Section

/-- What a line of a section becomes: a header or a record, with the number of the line. -/
inductive Entry where
  | header (line : Nat) (title : String)
  | record (found : Record)
  deriving Repr, DecidableEq

/-- The number of the line of an entry. -/
def Entry.line : Entry → Nat
  | .header line _ => line
  | .record found => found.line

/-- The lines of a text, with the carriage returns at their ends. -/
def rawLines (text : String) : List (List Char) := Text.splitAt '\n' text.toList

/-- The lines of a text, each with its number. The first line has number one. -/
def numberedLines (text : String) : List (List Char × Nat) := (rawLines text).zipIdx 1

/-- Those of the lines that are not blank. -/
def filled (lines : List (List Char × Nat)) : List (List Char × Nat) :=
  lines.filter fun line => !Text.allBlank line.1

/-- The lines of a text that are not blank, each with its number. -/
def filledLines (text : String) : List (List Char × Nat) := filled (numberedLines text)

/-- What a line becomes. -/
def Entry.ofLine (line : List Char × Nat) : Entry :=
  if line.1.head? = some '@' then .header line.2 (String.ofList (Text.trim line.1.tail))
  else .record ⟨line.2, (Text.splitAt '\t' (Text.withoutReturns line.1)).map String.ofList⟩

/-- Whether an entry is made of a line: a header is the line without `@` and the blanks around it, and
the fields of a record, with TABs between them, are the line without the carriage returns at its end. -/
def Entry.Shows : Entry → List Char × Nat → Prop
  | .header number title, line =>
    number = line.2 ∧ line.1.head? = some '@' ∧ title.toList = Text.trim line.1.tail
  | .record found, line =>
    found.line = line.2 ∧ line.1.head? ≠ some '@' ∧
      Text.joinWith '\t' (found.fields.map String.toList) = Text.withoutReturns line.1 ∧
      ∀ field ∈ found.fields, '\t' ∉ field.toList

/-- Whether a line is one that cannot stand in a section, and why. `opened` tells whether a header came
before the lines. -/
def RefusedIn (opened : Bool) (lines : List (List Char × Nat)) (number : Nat)
    (problem : SectionProblem) : Prop :=
  (opened = false ∧ problem = .recordBeforeHeader ∧
    ∃ line, (filled lines).head? = some (line, number) ∧ line.head? ≠ some '@') ∨
  (problem = .emptyHeader ∧
    ∃ line, (line, number) ∈ lines ∧ line.head? = some '@' ∧ Text.allBlank line.tail = true)

/-- Whether a line of a text cannot stand where it does, and why: it is the first that is not blank and no
header, or a header with nothing in it. -/
def IsRefused (text : String) (number : Nat) (problem : SectionProblem) : Prop :=
  (problem = .recordBeforeHeader ∧
    ∃ line, (filledLines text).head? = some (line, number) ∧ line.head? ≠ some '@') ∨
  (problem = .emptyHeader ∧ ∃ line, (line, number) ∈ numberedLines text ∧ line.head? = some '@' ∧
    Text.allBlank line.tail = true)

end Section

/-- The entries of a group: its header, and behind it its records. -/
def Group.entries (group : Group) : List Section.Entry :=
  .header group.line group.header :: group.records.map .record

namespace Section

variable {name text : String} {number : Nat} {opened : Bool} {line : List Char}
  {lines : List (List Char)} {numbered : List (List Char × Nat)}

theorem shows_ofLine (line : List Char × Nat) : (Entry.ofLine line).Shows line := by
  unfold Entry.ofLine
  split
  · next hmark => exact ⟨rfl, hmark, String.toList_ofList⟩
  · next hmark =>
    refine ⟨rfl, hmark, ?_, fun field hfield => ?_⟩
    · rw [List.map_map]
      have hfields : String.toList ∘ String.ofList = id := funext fun _ => String.toList_ofList
      rw [hfields, List.map_id, Text.joinWith_splitAt]
    · obtain ⟨part, hpart, rfl⟩ := List.mem_map.1 hfield
      rw [String.toList_ofList]
      exact Text.sep_notMem_of_mem_splitAt hpart

theorem line_ofLine (line : List Char × Nat) : (Entry.ofLine line).line = line.2 := by
  unfold Entry.ofLine
  split <;> rfl

/-! ## Lines one after the other -/

theorem filled_cons_of_blank (h : Text.allBlank line = true) :
    filled ((line, number) :: numbered) = filled numbered :=
  List.filter_cons_of_neg (by simp [h])

theorem filled_cons (h : Text.allBlank line = false) :
    filled ((line, number) :: numbered) = (line, number) :: filled numbered :=
  List.filter_cons_of_pos (by simp [h])

/-- A header is not blank, whatever is in it. -/
theorem allBlank_eq_false_of_head? (h : line.head? = some '@') : Text.allBlank line = false := by
  obtain ⟨rest, rfl⟩ := List.head?_eq_some_iff.1 h
  rfl

theorem groupLines_blank (h : Text.allBlank line = true) :
    groupLines name number opened ((line :: lines).map Text.withoutReturns) =
      groupLines name (number + 1) opened (lines.map Text.withoutReturns) := by
  rw [List.map_cons, groupLines, if_pos ((Text.allBlank_withoutReturns line).trans h)]

/-- A header begins a group. It must not be empty. -/
theorem groupLines_header (h : line.head? = some '@') :
    groupLines name number opened ((line :: lines).map Text.withoutReturns) =
      if Text.allBlank line.tail = true then failAt name number .emptyHeader
      else do
        let (records, groups) ← groupLines name (number + 1) true (lines.map Text.withoutReturns)
        return ([], ⟨String.ofList (Text.trim line.tail), number, records⟩ :: groups) := by
  have hfilled : Text.allBlank (Text.withoutReturns line) = false :=
    (Text.allBlank_withoutReturns line).trans (allBlank_eq_false_of_head? h)
  obtain ⟨rest, rfl⟩ := List.head?_eq_some_iff.1 h
  rw [List.map_cons, groupLines, if_neg (by simp [hfilled]), if_pos (Text.head?_withoutReturns.2 h)]
  dsimp only
  rw [Text.withoutReturns_at, List.tail_cons, List.tail_cons, Text.trim_withoutReturns]
  by_cases hempty : Text.allBlank rest = true
  · rw [if_pos hempty, if_pos (Text.trim_eq_nil_iff.2 hempty)]
  · rw [if_neg hempty, if_neg (mt Text.trim_eq_nil_iff.1 hempty)]

/-- Any other line is a record of the group before it. There must be one. -/
theorem groupLines_record (hfilled : Text.allBlank line = false) (h : line.head? ≠ some '@') :
    groupLines name number opened ((line :: lines).map Text.withoutReturns) =
      if opened = true then do
        let (records, groups) ← groupLines name (number + 1) true (lines.map Text.withoutReturns)
        return (⟨number, (Text.splitAt '\t' (Text.withoutReturns line)).map String.ofList⟩ :: records,
          groups)
      else failAt name number .recordBeforeHeader := by
  have hblank : Text.allBlank (Text.withoutReturns line) = false :=
    (Text.allBlank_withoutReturns line).trans hfilled
  rw [List.map_cons, groupLines, if_neg (by simp [hblank]), if_neg (mt Text.head?_withoutReturns.1 h)]

/-- The entries of the records before the first header and of the groups behind it are those of the
lines. -/
theorem entries_of_groupLines {records : List Record} {groups : List Group}
    (h : groupLines name number opened (lines.map Text.withoutReturns) = .ok (records, groups)) :
    records.map .record ++ groups.flatMap Group.entries =
      (filled (lines.zipIdx number)).map Entry.ofLine := by
  induction lines generalizing number opened records groups with
  | nil =>
    cases h
    rfl
  | cons line lines ih =>
    rw [List.zipIdx_cons]
    by_cases hblank : Text.allBlank line = true
    · rw [groupLines_blank hblank] at h
      rw [filled_cons_of_blank hblank]
      exact ih h
    have hfilled := Bool.eq_false_iff.2 hblank
    rw [filled_cons hfilled, List.map_cons]
    by_cases hmark : line.head? = some '@'
    · rw [groupLines_header hmark] at h
      split at h
      · cases h
      · simp only [Except.bind_eq_ok_iff, Except.pure_eq_ok_iff, Prod.exists, Prod.mk.injEq] at h
        obtain ⟨behind, later, hlater, rfl, rfl⟩ := h
        rw [← ih hlater, Entry.ofLine, if_pos hmark]
        rfl
    · rw [groupLines_record hfilled hmark] at h
      split at h
      · simp only [Except.bind_eq_ok_iff, Except.pure_eq_ok_iff, Prod.exists, Prod.mk.injEq] at h
        obtain ⟨behind, later, hlater, rfl, rfl⟩ := h
        rw [← ih hlater, Entry.ofLine, if_neg hmark]
        rfl
      · cases h

/-! ## Lines that are refused -/

variable {problem : SectionProblem} {first : Nat}

theorem refusedIn_blank (h : Text.allBlank line = true) :
    RefusedIn opened ((line, first) :: numbered) number problem ↔
      RefusedIn opened numbered number problem := by
  unfold RefusedIn
  rw [filled_cons_of_blank h]
  refine or_congr_right (and_congr_right fun _ => exists_congr fun other => ?_)
  constructor
  · rintro ⟨hmem, hmark, htail⟩
    rcases List.mem_cons.1 hmem with hsame | hmem
    · cases hsame
      exact absurd (h.symm.trans (allBlank_eq_false_of_head? hmark)) nofun
    · exact ⟨hmem, hmark, htail⟩
  · rintro ⟨hmem, hmark, htail⟩
    exact ⟨List.mem_cons_of_mem _ hmem, hmark, htail⟩

/-- Behind a line that is not blank, a record is not the first of them. -/
theorem refusedIn_cons (h : Text.allBlank line = false) :
    RefusedIn opened ((line, first) :: numbered) number problem ↔
      number = first ∧ (opened = false ∧ problem = .recordBeforeHeader ∧ line.head? ≠ some '@' ∨
        problem = .emptyHeader ∧ line.head? = some '@' ∧ Text.allBlank line.tail = true) ∨
      RefusedIn true numbered number problem := by
  unfold RefusedIn
  rw [filled_cons h, List.head?_cons]
  simp only [Option.some.injEq, Prod.mk.injEq, List.mem_cons, Bool.true_eq_false, false_and, false_or]
  constructor
  · rintro (⟨hopened, rfl, other, ⟨rfl, rfl⟩, hmark⟩ | ⟨rfl, other, ⟨rfl, rfl⟩ | hmem, hmark, htail⟩)
    · exact .inl ⟨rfl, .inl ⟨hopened, rfl, hmark⟩⟩
    · exact .inl ⟨rfl, .inr ⟨rfl, hmark, htail⟩⟩
    · exact .inr ⟨rfl, other, hmem, hmark, htail⟩
  · rintro (⟨rfl, ⟨hopened, rfl, hmark⟩ | ⟨rfl, hmark, htail⟩⟩ | ⟨rfl, other, hmem, hmark, htail⟩)
    · exact .inl ⟨hopened, rfl, line, ⟨rfl, rfl⟩, hmark⟩
    · exact .inr ⟨rfl, line, .inl ⟨rfl, rfl⟩, hmark, htail⟩
    · exact .inr ⟨rfl, other, .inr hmem, hmark, htail⟩

theorem mem_of_refusedIn (h : RefusedIn opened numbered number problem) :
    ∃ line, (line, number) ∈ numbered := by
  rcases h with ⟨-, -, line, hhead, -⟩ | ⟨-, line, hmem, -⟩
  · exact ⟨line, List.mem_of_mem_filter (List.mem_of_head? hhead)⟩
  · exact ⟨line, hmem⟩

theorem le_of_refusedIn (h : RefusedIn opened (lines.zipIdx first) number problem) : first ≤ number := by
  obtain ⟨line, hmem⟩ := mem_of_refusedIn h
  exact (List.mem_zipIdx hmem).1

/-- Whether a failure is at a line of these that is refused, and at none behind the first of them. -/
def FailsAtFirst (name : String) (opened : Bool) (numbered : List (List Char × Nat)) (failure : Failure) :
    Prop :=
  ∃ (number : Nat) (problem : SectionProblem), failure = .sectionText name number problem ∧
    RefusedIn opened numbered number problem ∧
    ∀ other otherProblem, RefusedIn opened numbered other otherProblem → number ≤ other

/-- Whether lines are read when none of them is refused, and fail at the first that is. -/
def ReadsUnlessRefused {α : Type} (name : String) (opened : Bool) (numbered : List (List Char × Nat))
    (outcome : Except Failure α) : Prop :=
  ((∃ result, outcome = .ok result) ∧ ∀ number problem, ¬RefusedIn opened numbered number problem) ∨
    ∃ failure, outcome = .error failure ∧ FailsAtFirst name opened numbered failure

theorem ReadsUnlessRefused.bind {α β : Type} {outcome : Except Failure α}
    (h : ReadsUnlessRefused name opened numbered outcome) (f : α → β) :
    ReadsUnlessRefused name opened numbered (outcome >>= fun result => pure (f result)) := by
  rcases h with ⟨⟨result, rfl⟩, hnone⟩ | ⟨failure, rfl, hfails⟩
  · exact .inl ⟨⟨f result, rfl⟩, hnone⟩
  · exact .inr ⟨failure, rfl, hfails⟩

theorem readsUnlessRefused_of_line {α : Type}
    (h : RefusedIn opened (lines.zipIdx first) first problem) :
    ReadsUnlessRefused (α := α) name opened (lines.zipIdx first) (failAt name first problem) :=
  .inr ⟨_, rfl, first, problem, rfl, h, fun _ _ hother => le_of_refusedIn hother⟩

/-- When a line is not refused, the lines are refused where those behind it are. -/
theorem readsUnlessRefused_cons {α : Type} {outcome : Except Failure α}
    (hfilled : Text.allBlank line = false)
    (hline : ¬(opened = false ∧ line.head? ≠ some '@') ∧
      ¬(line.head? = some '@' ∧ Text.allBlank line.tail = true))
    (h : ReadsUnlessRefused name true numbered outcome) :
    ReadsUnlessRefused name opened ((line, first) :: numbered) outcome := by
  have hbehind : ∀ number problem, RefusedIn opened ((line, first) :: numbered) number problem ↔
      RefusedIn true numbered number problem := by
    intro number problem
    rw [refusedIn_cons hfilled]
    constructor
    · rintro (⟨-, ⟨hopened, -, hmark⟩ | ⟨-, hempty⟩⟩ | hbehind)
      · exact absurd ⟨hopened, hmark⟩ hline.1
      · exact absurd hempty hline.2
      · exact hbehind
    · exact .inr
  simpa only [ReadsUnlessRefused, FailsAtFirst, hbehind] using h

theorem groupLines_readsUnlessRefused (name : String) (number : Nat) (opened : Bool)
    (lines : List (List Char)) :
    ReadsUnlessRefused name opened (lines.zipIdx number)
      (groupLines name number opened (lines.map Text.withoutReturns)) := by
  induction lines generalizing number opened with
  | nil =>
    refine .inl ⟨⟨_, rfl⟩, fun other problem h => ?_⟩
    obtain ⟨line, hmem⟩ := mem_of_refusedIn h
    exact List.not_mem_nil hmem
  | cons line lines ih =>
    by_cases hblank : Text.allBlank line = true
    · -- a blank line changes nothing
      rw [groupLines_blank hblank, List.zipIdx_cons]
      simpa only [ReadsUnlessRefused, FailsAtFirst, refusedIn_blank hblank] using ih (number + 1) opened
    have hfilled := Bool.eq_false_iff.2 hblank
    by_cases hmark : line.head? = some '@'
    · rw [groupLines_header hmark]
      split
      · next hempty =>
        refine readsUnlessRefused_of_line ?_
        rw [List.zipIdx_cons]
        exact (refusedIn_cons hfilled).2 (.inl ⟨rfl, .inr ⟨rfl, hmark, hempty⟩⟩)
      · next hempty =>
        exact readsUnlessRefused_cons hfilled ⟨fun h => h.2 hmark, fun h => hempty h.2⟩
          ((ih (number + 1) true).bind _)
    · rw [groupLines_record hfilled hmark]
      split
      · next hopened =>
        subst hopened
        exact readsUnlessRefused_cons hfilled ⟨fun h => Bool.noConfusion h.1, fun h => hmark h.1⟩
          ((ih (number + 1) true).bind _)
      · next hopened =>
        refine readsUnlessRefused_of_line ?_
        rw [List.zipIdx_cons]
        exact (refusedIn_cons hfilled).2
          (.inl ⟨rfl, .inl ⟨Bool.eq_false_iff.2 hopened, rfl, hmark⟩⟩)

/-! ## Texts -/

theorem linesOf_eq (text : String) : linesOf text = (rawLines text).map Text.withoutReturns := rfl

theorem isRefused_iff : IsRefused text number problem ↔
    RefusedIn false (numberedLines text) number problem := by
  unfold IsRefused RefusedIn filledLines
  rw [eq_self, true_and]

/-- Before the first header there is no record. -/
theorem records_eq_nil_of_groupLines {number : Nat} {lines : List (List Char)} {records : List Record}
    {groups : List Group} (h : groupLines name number false lines = .ok (records, groups)) :
    records = [] := by
  induction lines generalizing number with
  | nil =>
    cases h
    rfl
  | cons line lines ih =>
    unfold groupLines at h
    split at h
    · exact ih h
    split at h
    · dsimp only at h
      split at h
      · cases h
      · simp only [Except.bind_eq_ok_iff, Except.pure_eq_ok_iff, Prod.exists, Prod.mk.injEq] at h
        obtain ⟨-, -, -, rfl, -⟩ := h
        rfl
    · cases h

theorem splitGroups_eq_ok_iff {groups : List Group} :
    splitGroups name text = .ok groups ↔ groupLines name 1 false (linesOf text) = .ok ([], groups) := by
  simp only [splitGroups, Except.bind_eq_ok_iff, Except.pure_eq_ok_iff, Prod.exists]
  constructor
  · rintro ⟨records, found, hfound, rfl⟩
    rw [← records_eq_nil_of_groupLines hfound, hfound]
  · intro h
    exact ⟨[], groups, h, rfl⟩

/-- The entries of the groups are those of the lines that are not blank. -/
theorem entries_of_splitGroups {groups : List Group} (h : splitGroups name text = .ok groups) :
    groups.flatMap Group.entries = (filledLines text).map Entry.ofLine :=
  entries_of_groupLines (splitGroups_eq_ok_iff.1 h)

theorem splitGroups_readsUnlessRefused (name text : String) :
    ReadsUnlessRefused name false (numberedLines text) (splitGroups name text) :=
  (groupLines_readsUnlessRefused name 1 false (rawLines text)).bind Prod.snd

theorem exists_splitGroups_eq_error_iff :
    (∃ failure, splitGroups name text = .error failure) ↔
      ∃ number problem, IsRefused text number problem := by
  simp only [isRefused_iff]
  rcases splitGroups_readsUnlessRefused name text with
    ⟨⟨groups, hgroups⟩, hnone⟩ | ⟨failure, hfailure, number, problem, -, hrefused, -⟩
  · refine iff_of_false ?_ fun ⟨number, problem, hrefused⟩ => hnone number problem hrefused
    rintro ⟨failure, hfailure⟩
    cases hgroups.symm.trans hfailure
  · exact iff_of_true ⟨failure, hfailure⟩ ⟨number, problem, hrefused⟩

theorem failsAtFirst_of_splitGroups {failure : Failure} (h : splitGroups name text = .error failure) :
    FailsAtFirst name false (numberedLines text) failure := by
  rcases splitGroups_readsUnlessRefused name text with ⟨⟨groups, hgroups⟩, -⟩ | ⟨found, hfound, hfails⟩
  · cases h.symm.trans hgroups
  · cases h.symm.trans hfound
    exact hfails

/-! ## Lines that end with carriage returns -/

/-- A line feed with a carriage return before it, and any other character alone. -/
def withReturn (c : Char) : List Char := if c = '\n' then ['\r', '\n'] else [c]

/-- A text with a carriage return before every line feed. -/
def withReturns (text : String) : String := String.ofList (text.toList.flatMap withReturn)

/-- Whether a text is without the carriage returns at its end depends on the rest of it only as far as the
rest is without them. -/
theorem withoutReturns_cons_congr {s t : List Char} (h : Text.withoutReturns s = Text.withoutReturns t)
    (c : Char) : Text.withoutReturns (c :: s) = Text.withoutReturns (c :: t) := by
  unfold Text.withoutReturns at h ⊢
  rw [Text.dropEndWhile_cons, Text.dropEndWhile_cons, h]

theorem linesOf_withReturns (text : String) : linesOf (withReturns text) = linesOf text := by
  rw [linesOf_eq, linesOf_eq, rawLines, rawLines, withReturns, String.toList_ofList]
  generalize text.toList = s
  induction s with
  | nil => rfl
  | cons c s ih =>
    rw [List.flatMap_cons]
    by_cases hfeed : c = '\n'
    · subst hfeed
      calc
        (Text.splitAt '\n' (['\r'] ++ '\n' :: s.flatMap withReturn)).map Text.withoutReturns
        _ = Text.withoutReturns ['\r'] ::
            (Text.splitAt '\n' (s.flatMap withReturn)).map Text.withoutReturns := by
          rw [Text.splitAt_append, List.map_append]
          rfl
        _ = (Text.splitAt '\n' ('\n' :: s)).map Text.withoutReturns := by
          rw [ih, Text.splitAt, if_pos rfl]
          rfl
    · rw [withReturn, if_neg hfeed, List.singleton_append, Text.splitAt, Text.splitAt, if_neg hfeed,
        if_neg hfeed]
      -- `c` stands at the beginning of the first of the lines behind it
      cases hleft : Text.splitAt '\n' (s.flatMap withReturn) with
      | nil => exact absurd hleft (Text.splitAt_ne_nil _ _)
      | cons left lefts =>
        cases hright : Text.splitAt '\n' s with
        | nil => exact absurd hright (Text.splitAt_ne_nil _ _)
        | cons right rights =>
          rw [hleft, hright, List.map_cons, List.map_cons, List.cons.injEq] at ih
          dsimp only
          rw [List.map_cons, List.map_cons, withoutReturns_cons_congr ih.1, ih.2]

/-- Lines may end with carriage returns. -/
theorem splitGroups_withReturns (name text : String) :
    splitGroups name (withReturns text) = splitGroups name text := by
  rw [splitGroups, splitGroups, linesOf_withReturns]

/-- **Headers and records are the lines of a text.** A text is read unless one of its lines cannot stand
where it does: the first line that is not blank must be a header, and no header is empty. The failure is
at the first of the lines that cannot. Otherwise the headers and records, in their order, are the lines
that are not blank, in theirs. Carriage returns before the line feeds change nothing. -/
theorem splitGroups_lines (name text : String) :
    ((∃ failure, splitGroups name text = .error failure) ↔
      ∃ number problem, IsRefused text number problem) ∧
    (∀ failure, splitGroups name text = .error failure →
      ∃ (number : Nat) (problem : SectionProblem), failure = .sectionText name number problem ∧
        IsRefused text number problem ∧
        ∀ other otherProblem, IsRefused text other otherProblem → number ≤ other) ∧
    (∀ groups, splitGroups name text = .ok groups →
      List.Forall₂ Entry.Shows (groups.flatMap Group.entries) (filledLines text)) ∧
    splitGroups name (withReturns text) = splitGroups name text := by
  refine ⟨exists_splitGroups_eq_error_iff, fun failure h => ?_, fun groups h => ?_,
    splitGroups_withReturns name text⟩
  · simpa only [FailsAtFirst, ← isRefused_iff] using failsAtFirst_of_splitGroups h
  · rw [entries_of_splitGroups h, List.forall₂_map_left_iff]
    exact List.forall₂_same.2 fun line _ => shows_ofLine line

/-- A blank line between a header and its record is skipped, and a record before the header is refused. -/
theorem splitGroups_lines_blank :
    (∃ groups, splitGroups "view" "@main\r\n\n0\tname" = .ok groups ∧
      List.Forall₂ Entry.Shows (groups.flatMap Group.entries) (filledLines "@main\r\n\n0\tname")) ∧
    ∃ (number : Nat) (problem : SectionProblem),
      splitGroups "view" "\n0\tname\n@main" = .error (.sectionText "view" number problem) ∧
        IsRefused "\n0\tname\n@main" number problem := by
  constructor
  · exact ⟨_, rfl, (splitGroups_lines "view" _).2.2.1 _ rfl⟩
  · obtain ⟨number, problem, hfailure, hrefused, -⟩ :=
      (splitGroups_lines "view" "\n0\tname\n@main").2.1 _ rfl
    exact ⟨number, problem, congrArg Except.error hfailure, hrefused⟩

end Section

end BlockApp
