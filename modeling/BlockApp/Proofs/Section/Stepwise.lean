import BlockApp.Proofs.Section.Entries

/-!
# Sections that are read line by line

A header opens a group and a record is read under the header before it. What a reader does at a line hangs
on the lines before it and on no other, so the line that a failure names is the first that is wrong: what
stands before it is read, and what stands behind it does not matter.

* `Except.fault?` — the fault of a computation, whatever it would give
* `ReadsByLine` — a reader that takes a step at each line that is not blank
* `NamesFirstBadLine` — a reader of which each failure names the first wrong line
* `ReadsByLine.namesFirstBadLine` — a reader of the one kind is one of the other
-/

namespace Except

variable {ε α β α' β' : Type} {x : Except ε α} {x' : Except ε α'}

/-- The fault of a computation that has one. -/
def fault? : Except ε α → Option ε
  | .ok _ => none
  | .error e => some e

theorem fault?_eq_some_iff {e : ε} : x.fault? = some e ↔ x = .error e := by
  cases x <;> simp [fault?]

theorem fault?_eq_none_iff : x.fault? = none ↔ ∃ a, x = .ok a := by
  cases x <;> simp [fault?]

theorem fault?_map (f : α → β) (x : Except ε α) : (f <$> x).fault? = x.fault? := by
  cases x <;> rfl

theorem fault?_bind_pure (f : α → β) (x : Except ε α) :
    (do return f (← x) : Except ε β).fault? = x.fault? := by
  cases x <;> rfl

/-- Two chains of two steps end alike if their first steps do, and their second ones behind them. -/
theorem fault?_bind_congr {f : α → Except ε β} {f' : α' → Except ε β'} (hx : x.fault? = x'.fault?)
    (hf : ∀ a a', x = .ok a → x' = .ok a' → (f a).fault? = (f' a').fault?) :
    (x >>= f).fault? = (x' >>= f').fault? := by
  cases x with
  | error e =>
    cases x' with
    | error e' => exact hx
    | ok a' => cases hx
  | ok a =>
    cases x' with
    | error e' => cases hx
    | ok a' => exact hf a a' rfl rfl

theorem fault?_mapM_congr {γ : Type} {f : γ → Except ε α} {g : γ → Except ε α'} {xs : List γ}
    (h : ∀ x ∈ xs, (f x).fault? = (g x).fault?) : (xs.mapM f).fault? = (xs.mapM g).fault? := by
  induction xs with
  | nil => rfl
  | cons x xs ih =>
    obtain ⟨hx, hxs⟩ := List.forall_mem_cons.1 h
    rw [List.mapM_cons, List.mapM_cons]
    refine fault?_bind_congr hx fun _ _ _ _ => ?_
    rw [fault?_bind_pure, fault?_bind_pure]
    exact ih hxs

end Except

namespace BlockApp

/-- Whether a failure is at a line of a section. A number with too many digits is reported without one;
`numbers` tells whether there can be numbers in the line. -/
def Failure.IsInLine (name : String) (line : Int) (numbers : Prop) : Failure → Prop
  | .sectionText found number _ => found = name ∧ number = line
  | .system (.tooManyDigits _) => numbers
  | _ => False

namespace Section

/-! ## Readers -/

/-- A reader of a section that takes a step at each header and each record. What it knows from those
before is all that a step hangs on, and a step fails at its own line. `numbers` tells whether there are
numbers in records. -/
structure ReadsByLine {α σ : Type} (name : String) (numbers : Prop) (read : String → Except Failure α)
    (start : σ) (step : σ → Entry → Except Failure σ) : Prop where
  failsInLine : ∀ known entry, (step known entry).FailsWith (Failure.IsInLine name entry.line numbers)
  error_of_splitGroups : ∀ text failure, splitGroups name text = .error failure →
    read text = .error failure
  fault?_read : ∀ text groups, splitGroups name text = .ok groups →
    (read text).fault? = ((groups.flatMap Group.entries).foldlM step start).fault?

/-! ### Steps over groups -/

section Groups

variable {α σ : Type} (step : σ → Entry → Except Failure σ) {known opened : σ} {group : Group}

/-- Records are read one after the other, and what is known stays as it was. -/
theorem foldlM_records (readRecord : Record → Except Failure α)
    (h : ∀ found, step known (.record found) = (fun _ => known) <$> readRecord found)
    (records : List Record) :
    (records.map .record).foldlM step known = (fun _ => known) <$> records.mapM readRecord := by
  induction records with
  | nil => rfl
  | cons found records ih =>
    rw [List.map_cons, List.foldlM_cons, h, List.mapM_cons]
    cases readRecord found with
    | error failure => rfl
    | ok value =>
      show (records.map .record).foldlM step known = _
      rw [ih]
      cases records.mapM readRecord <;> rfl

/-- A group is read as its records under its header. -/
theorem foldlM_entries_of_ok (readRecord : Record → Except Failure α)
    (hheader : step known (.header group.line group.header) = .ok opened)
    (hrecords : ∀ found, step opened (.record found) = (fun _ => opened) <$> readRecord found) :
    group.entries.foldlM step known = (fun _ => opened) <$> group.records.mapM readRecord := by
  rw [Group.entries, List.foldlM_cons, hheader]
  exact foldlM_records step readRecord hrecords group.records

/-- A group is refused if its header is. -/
theorem foldlM_entries_of_error {failure : Failure}
    (hheader : step known (.header group.line group.header) = .error failure) :
    group.entries.foldlM step known = .error failure := by
  rw [Group.entries, List.foldlM_cons, hheader]
  rfl

/-- Groups that are read each on its own are read line by line if each of them is. -/
theorem fault?_mapM_groups {readGroup : Group → Except Failure α}
    (hgroup : ∀ known group, (readGroup group).fault? = (group.entries.foldlM step known).fault?)
    (groups : List Group) (known : σ) :
    (groups.mapM readGroup).fault? = ((groups.flatMap Group.entries).foldlM step known).fault? := by
  induction groups generalizing known with
  | nil => rfl
  | cons group groups ih =>
    rw [List.mapM_cons, List.flatMap_cons, List.foldlM_append]
    refine Except.fault?_bind_congr (hgroup known group) fun _ later _ _ => ?_
    rw [Except.fault?_bind_pure]
    exact ih later

end Groups

/-! ### Failures at the first wrong line -/

/-- The text that the first lines of a text are. -/
def firstLines (text : String) (count : Nat) : String :=
  String.ofList (Text.joinWith '\n' ((rawLines text).take count))

/-- Whether each failure of a reader names the first wrong line of a text: the lines before it are read,
and any text with the same lines up to it is refused with the same failure. All this is about texts of
which each line can stand where it does. -/
def NamesFirstBadLine {α : Type} (name : String) (read : String → Except Failure α) : Prop :=
  ∀ (text : String) (groups : List Group) (found : String) (line : Int) (problem : SectionProblem),
    splitGroups name text = .ok groups → read text = .error (.sectionText found line problem) →
    ∃ number : Nat, found = name ∧ line = number ∧ 1 ≤ number ∧ number ≤ (rawLines text).length ∧
      (∃ result, read (firstLines text (number - 1)) = .ok result) ∧
      ∀ other groups', (rawLines other).take number = (rawLines text).take number →
        splitGroups name other = .ok groups' → read other = .error (.sectionText found line problem)

variable {α σ : Type} {name text : String} {numbers : Prop} {read : String → Except Failure α}
  {start known : σ}
  {step : σ → Entry → Except Failure σ} {groups : List Group} {opened : Bool} {number count : Nat}
  {problem : SectionProblem}

/-! ## The first lines of a text -/

theorem rawLines_ne_nil (text : String) : rawLines text ≠ [] := Text.splitAt_ne_nil _ _

theorem rawLines_firstLines (hcount : count ≠ 0) :
    rawLines (firstLines text count) = (rawLines text).take count := by
  rw [rawLines, firstLines, String.toList_ofList]
  refine Text.splitAt_joinWith ?_ fun line hline => ?_
  · rw [ne_eq, List.take_eq_nil_iff, not_or]
    exact ⟨hcount, rawLines_ne_nil text⟩
  · exact Text.sep_notMem_of_mem_splitAt (List.mem_of_mem_take hline)

theorem take_numberedLines (text : String) (count : Nat) :
    (numberedLines text).take count = ((rawLines text).take count).zipIdx 1 := by
  refine List.ext_getElem? fun place => ?_
  simp only [numberedLines, List.getElem?_take, List.getElem?_zipIdx]
  split <;> rfl

theorem numberedLines_firstLines (hcount : count ≠ 0) :
    numberedLines (firstLines text count) = (numberedLines text).take count := by
  rw [numberedLines, rawLines_firstLines hcount, take_numberedLines]

/-- The number of a line is how many lines there are up to it. -/
theorem number_of_numberedLines {before after : List (List Char × Nat)} {line : List Char × Nat}
    (h : numberedLines text = before ++ line :: after) :
    line.2 = before.length + 1 ∧ line.2 ≤ (rawLines text).length := by
  obtain ⟨first, later, hraw, rfl, hlater⟩ := List.zipIdx_eq_append_iff.1 h
  obtain ⟨found, rest, rfl, rfl, -⟩ := List.zipIdx_eq_cons_iff.1 hlater.symm
  rw [hraw, List.length_append, List.length_zipIdx, List.length_cons]
  exact ⟨Nat.add_comm _ _, by omega⟩

/-- Whether a line is refused does not hang on the lines behind it. -/
theorem refusedIn_append {numbered more : List (List Char × Nat)}
    (h : RefusedIn opened numbered number problem) :
    RefusedIn opened (numbered ++ more) number problem := by
  rcases h with ⟨hopened, rfl, line, hhead, hmark⟩ | ⟨rfl, line, hmem, hempty⟩
  · refine .inl ⟨hopened, rfl, line, ?_, hmark⟩
    rw [filled, List.filter_append, List.head?_append, ← filled, hhead]
    rfl
  · exact .inr ⟨rfl, line, List.mem_append_left _ hmem, hempty⟩

/-- The first lines of a text that can be grouped can be grouped. -/
theorem exists_splitGroups_firstLines (h : splitGroups name text = .ok groups) (count : Nat) :
    ∃ firstGroups, splitGroups name (firstLines text count) = .ok firstGroups := by
  by_cases hcount : count = 0
  · subst hcount
    exact ⟨[], rfl⟩
  rw [← Except.fault?_eq_none_iff, Option.eq_none_iff_forall_ne_some]
  intro failure hfailure
  obtain ⟨number, problem, hrefused⟩ :=
    exists_splitGroups_eq_error_iff.1 ⟨failure, Except.fault?_eq_some_iff.1 hfailure⟩
  rw [isRefused_iff, numberedLines_firstLines hcount] at hrefused
  -- then the whole text would be refused
  have hwhole : IsRefused text number problem := by
    rw [isRefused_iff, ← List.take_append_drop count (numberedLines text)]
    exact refusedIn_append hrefused
  obtain ⟨failure, hfailure⟩ := exists_splitGroups_eq_error_iff.2 ⟨number, problem, hwhole⟩
  cases h.symm.trans hfailure

/-! ## Failures of a reader -/

/-- A step at a line: none if it is blank. -/
def atLine (step : σ → Entry → Except Failure σ) (known : σ) (line : List Char × Nat) :
    Except Failure σ :=
  if Text.allBlank line.1 = true then .ok known else step known (Entry.ofLine line)

/-- Steps at lines are steps at what the lines become. -/
theorem foldlM_atLine (step : σ → Entry → Except Failure σ) (start : σ)
    (lines : List (List Char × Nat)) :
    lines.foldlM (atLine step) start = ((filled lines).map Entry.ofLine).foldlM step start := by
  rw [List.foldlM_map, filled, List.foldlM_filter]
  refine congrArg (fun f => lines.foldlM f start) ?_
  funext known line
  unfold atLine
  by_cases hblank : Text.allBlank line.1 = true
  · rw [if_pos hblank, hblank]
    rfl
  · rw [if_neg hblank, Bool.eq_false_iff.2 hblank]
    rfl

theorem foldlM_entries (step : σ → Entry → Except Failure σ) (start : σ)
    (h : splitGroups name text = .ok groups) :
    (groups.flatMap Group.entries).foldlM step start = (numberedLines text).foldlM (atLine step) start := by
  rw [entries_of_splitGroups h, filledLines, foldlM_atLine]

namespace ReadsByLine

variable (h : ReadsByLine name numbers read start step)

include h in
theorem fault?_eq (hgroups : splitGroups name text = .ok groups) :
    (read text).fault? = ((numberedLines text).foldlM (atLine step) start).fault? := by
  rw [h.fault?_read text groups hgroups, foldlM_entries step start hgroups]

include h in
theorem eq_error_iff (hgroups : splitGroups name text = .ok groups) {failure : Failure} :
    read text = .error failure ↔ (numberedLines text).foldlM (atLine step) start = .error failure := by
  rw [← Except.fault?_eq_some_iff, h.fault?_eq hgroups, Except.fault?_eq_some_iff]

include h in
theorem failsInLine_atLine {line : List Char × Nat} :
    (atLine step known line).FailsWith (Failure.IsInLine name line.2 numbers) := by
  unfold atLine
  split
  · exact .ok _
  · rw [← line_ofLine line]
    exact h.failsInLine known (Entry.ofLine line)

include h in
/-- The first lines are read exactly if the steps at them are taken. -/
theorem exists_firstLines_iff (hgroups : splitGroups name text = .ok groups) (count : Nat) :
    (∃ result, read (firstLines text count) = .ok result) ↔
      ∃ known, ((numberedLines text).take count).foldlM (atLine step) start = .ok known := by
  obtain ⟨firstGroups, hfirst⟩ := exists_splitGroups_firstLines hgroups count
  rw [← Except.fault?_eq_none_iff, h.fault?_eq hfirst, ← Except.fault?_eq_none_iff]
  by_cases hcount : count = 0
  · subst hcount
    exact iff_of_true rfl rfl
  · rw [numberedLines_firstLines hcount]

include h in
/-- **A reader that goes line by line names the first wrong line.** -/
theorem namesFirstBadLine : NamesFirstBadLine name read := by
  intro text groups found line problem hgroups herror
  obtain ⟨before, bad, after, known, hlines, hbefore, hbad⟩ :=
    Except.foldlM_eq_error_iff.1 ((h.eq_error_iff hgroups).1 herror)
  obtain ⟨rfl, rfl⟩ := h.failsInLine_atLine _ hbad
  obtain ⟨hnumber, hle⟩ := number_of_numberedLines hlines
  have hfirst : (numberedLines text).take before.length = before := by
    rw [hlines, List.take_left]
  have hupto : (numberedLines text).take bad.2 = before ++ [bad] := by
    rw [hlines, hnumber, List.take_length_add_append]
    rfl
  refine ⟨bad.2, rfl, rfl, hnumber ▸ Nat.le_add_left 1 _, hle, ?_, fun other groups' hsame hother => ?_⟩
  · rw [hnumber, Nat.add_sub_cancel]
    exact (h.exists_firstLines_iff hgroups _).2 ⟨known, hfirst.symm ▸ hbefore⟩
  · -- the other text has the same lines as far as the wrong one
    have hother' : numberedLines other = before ++ bad :: (numberedLines other).drop bad.2 := by
      conv_lhs => rw [← List.take_append_drop bad.2 (numberedLines other), take_numberedLines, hsame,
        ← take_numberedLines, hupto]
      exact List.append_assoc _ _ _
    exact (h.eq_error_iff hother).2
      (Except.foldlM_eq_error_iff.2 ⟨before, bad, _, known, hother', hbefore, hbad⟩)

end ReadsByLine

end Section

end BlockApp
