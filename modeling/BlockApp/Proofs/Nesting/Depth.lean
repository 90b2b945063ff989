import BlockApp.Proofs.Nesting.Lossless

/-!
# Depths that are refused

A record may be as deep as blocks are open, and how many are open hangs on the record before it alone:
as many as that record is deep, and one more if it opens a sequence.

* `Building.read_eq_depth_iff` — the records that are refused for their depth
* `Building.run_eq_depth_iff` — the first such record of a run
* `Jumps` — the same, said of the depths and tags alone
-/

namespace BlockApp

/-- How many blocks are open after records. -/
def openAfterAll (records : List BlockRecord) : Nat :=
  (records.getLast?.map (·.openAfter)).getD 0

@[simp] theorem openAfterAll_concat (records : List BlockRecord) (record : BlockRecord) :
    openAfterAll (records ++ [record]) = record.openAfter := by
  simp [openAfterAll]

/-- Whether the first record is not at depth zero, or a record is deeper than the one before it by more
than one, or deeper at all when that one opens no sequence. -/
def Jumps (records : List BlockRecord) : Prop :=
  (∃ (first : BlockRecord) (rest : List BlockRecord), records = first :: rest ∧ first.depth ≠ 0) ∨
    ∃ (before : List BlockRecord) (previous next : BlockRecord) (rest : List BlockRecord),
      records = before ++ previous :: next :: rest ∧
      (previous.depth + 1 < next.depth ∨ previous.depth < next.depth ∧ previous.opens = false)

theorem BlockRecord.openAfter_lt_iff (record : BlockRecord) (depth : Nat) :
    record.openAfter < depth ↔
      record.depth + 1 < depth ∨ record.depth < depth ∧ record.opens = false := by
  unfold openAfter
  cases record.opens
  · simp only [Bool.false_eq_true, if_false, and_true]
    omega
  · simp

/-- Somewhere a record is deeper than blocks are open after those before it. -/
theorem jumps_iff {records : List BlockRecord} :
    Jumps records ↔
      ∃ (before : List BlockRecord) (record : BlockRecord) (rest : List BlockRecord),
        records = before ++ record :: rest ∧
        openAfterAll before < record.depth := by
  constructor
  · rintro (⟨first, rest, rfl, hdepth⟩ | ⟨before, previous, next, rest, rfl, hdepth⟩)
    · exact ⟨[], first, rest, rfl, Nat.pos_of_ne_zero hdepth⟩
    · refine ⟨before ++ [previous], next, rest, by simp, ?_⟩
      rw [openAfterAll_concat, previous.openAfter_lt_iff]
      exact hdepth
  · rintro ⟨before, record, rest, rfl, hdepth⟩
    rcases List.eq_nil_or_concat before with rfl | ⟨before, previous, rfl⟩
    · exact .inl ⟨record, rest, rfl, Nat.ne_of_gt hdepth⟩
    · rw [List.concat_eq_append] at *
      rw [openAfterAll_concat, previous.openAfter_lt_iff] at hdepth
      exact .inr ⟨before, previous, record, rest, by simp, hdepth⟩

/-! ## Problems of other kinds -/

namespace Building

variable {declarations : Declarations} {nest : Nest} {id tag : String} {params : List Expr}
  {depth opened : Nat}

theorem oneParam_ne_depth : oneParam tag params ≠ .error (.depth depth opened) := by
  unfold oneParam
  split <;> simp

theorem noParam_ne_depth : noParam tag params ≠ .error (.depth depth opened) := by
  unfold noParam
  split <;> simp

theorem readBranch_ne_depth {head : Except LogicProblem BranchHead}
    (h : head ≠ .error (.depth depth opened)) :
    readBranch nest tag head ≠ .error (.depth depth opened) := by
  unfold readBranch
  split
  · simp
  · split <;> simp [Except.map_eq_error_iff, h]

theorem readDeclare_ne_depth : readDeclare id params ≠ .error (.depth depth opened) := by
  unfold readDeclare
  split
  case h_3 => simp
  all_goals
    simp only
    split
    · simp
    · split <;> simp

theorem readSet_ne_depth : readSet id tag params ≠ .error (.depth depth opened) := by
  unfold readSet
  split <;> simp

theorem readStep_ne_depth {change : Change} :
    readStep id tag change params ≠ .error (.depth depth opened) := by
  unfold readStep
  split <;> simp

theorem readCall_ne_depth : readCall declarations id params ≠ .error (.depth depth opened) := by
  unfold readCall
  split
  · split
    · simp
    · split <;> simp
  · simp

/-- What a tag asks for is no matter of depth. -/
theorem place_ne_depth : place declarations nest id tag params ≠ .error (.depth depth opened) := by
  unfold place
  cases BlockTag.of tag with
  | elseIf => exact readBranch_ne_depth (by simp [Except.map_eq_error_iff, oneParam_ne_depth])
  | elseDo => exact readBranch_ne_depth (by simp [Except.seqRight_eq_error_iff, noParam_ne_depth])
  | ifThen | times | whileTrue => simp [Except.map_eq_error_iff, oneParam_ne_depth]
  | forever => simp [Except.map_eq_error_iff, noParam_ne_depth]
  | declare => simp [Except.map_eq_error_iff, readDeclare_ne_depth]
  | set => simp [Except.map_eq_error_iff, readSet_ne_depth]
  | increase | decrease => simp [Except.map_eq_error_iff, readStep_ne_depth]
  | call => simp [Except.map_eq_error_iff, readCall_ne_depth]
  | statement => simp

theorem unresolvedIn?_ne_depth {around : Surroundings} :
    unresolvedIn? around nest params ≠ some (.depth depth opened) := by
  intro h
  obtain ⟨⟨kind, name⟩, -, hproblem⟩ := List.exists_of_findSome?_eq_some h
  cases kind <;> simp [unresolved?] at hproblem

/-! ## The records that are refused -/

/-- A record is refused for its depth if its identifier is new and too few blocks are open. -/
theorem read_eq_depth_iff {around : Surroundings} {building : Building} {record : BlockRecord} :
    building.read around record = .error (.depth depth opened) ↔
      record.blockId ∉ building.used ∧ building.nest.depth < record.depth ∧
        depth = record.depth ∧ opened = building.nest.depth := by
  unfold read
  by_cases hused : record.blockId ∈ building.used
  · simp [hused]
  · by_cases hdepth : building.nest.depth < record.depth
    · simp [hused, hdepth, eq_comm]
    · rw [if_neg hused, if_neg hdepth]
      refine iff_of_false ?_ fun h => hdepth h.2.1
      -- what fails later fails for other reasons
      intro h
      simp only at h
      split at h
      · next problem hproblem =>
        cases h
        exact unresolvedIn?_ne_depth hproblem
      · rw [Except.bind_eq_error_iff] at h
        rcases h with hplace | ⟨nest, -, hpure⟩
        · exact place_ne_depth hplace
        · exact Except.pure_ne_error hpure

variable {screen key : String} {around : Surroundings} {building building' : Building}
  {records : List BlockRecord}

/-- How many blocks a run leaves open. -/
theorem run_depth (hempty : building.nest.depth = 0)
    (h : records.foldlM (Handler.readRecord screen key around) building = .ok building') :
    building'.nest.depth = openAfterAll records := by
  -- the last record alone decides
  rcases List.eq_nil_or_concat records with rfl | ⟨before, last, rfl⟩
  · simp only [List.foldlM_nil, Except.pure_eq_ok_iff] at h
    subst h
    exact hempty
  · rw [List.concat_eq_append, Except.foldlM_append_eq_ok_iff] at h
    obtain ⟨middle, -, hlast⟩ := h
    simp only [List.foldlM_cons, List.foldlM_nil, Except.bind_eq_ok_iff, readRecord_eq_ok_iff,
      Except.pure_eq_ok_iff, exists_eq_right] at hlast
    rw [read_depth hlast, List.concat_eq_append, openAfterAll_concat]

/-- What a run does to the identifiers in use. -/
theorem run_used
    (h : records.foldlM (Handler.readRecord screen key around) building = .ok building') :
    building'.used = (records.map (·.blockId)).reverse ++ building.used ∧
      FreshIds building.used records := by
  induction records generalizing building with
  | nil =>
    simp only [List.foldlM_nil, Except.pure_eq_ok_iff] at h
    subst h
    exact ⟨rfl, trivial⟩
  | cons record records ih =>
    simp only [List.foldlM_cons, Except.bind_eq_ok_iff, readRecord_eq_ok_iff] at h
    obtain ⟨middle, hread, hrest⟩ := h
    obtain ⟨hnew, -, -, nest, -, rfl⟩ := read_eq_ok_iff.1 hread
    obtain ⟨hused, hfresh⟩ := ih hrest
    exact ⟨by rw [hused]; simp, hnew, hfresh⟩

/-- A run without a fault has no record that is too deep. -/
theorem not_jumps_of_run (hempty : building.nest.depth = 0)
    (h : records.foldlM (Handler.readRecord screen key around) building = .ok building') :
    ¬ Jumps records := by
  rw [jumps_iff]
  rintro ⟨before, record, rest, rfl, hdepth⟩
  obtain ⟨middle, hbefore, hrest⟩ := Except.foldlM_append_eq_ok_iff.1 h
  simp only [List.foldlM_cons, Except.bind_eq_ok_iff, readRecord_eq_ok_iff] at hrest
  obtain ⟨_, hread, -⟩ := hrest
  obtain ⟨-, hle, -⟩ := read_eq_ok_iff.1 hread
  rw [run_depth hempty hbefore] at hle
  omega

/-- **A run is refused for a depth at the first record that is too deep**, unless an earlier one is
refused or its own identifier is. -/
theorem run_eq_depth_iff (hempty : building.nest.depth = 0) {place : LogicPlace}
    {depth opened : Nat} :
    records.foldlM (Handler.readRecord screen key around) building =
        .error (.logicTree place (.depth depth opened)) ↔
      ∃ (before : List BlockRecord) (record : BlockRecord) (rest : List BlockRecord),
        records = before ++ record :: rest ∧
        (∃ building', before.foldlM (Handler.readRecord screen key around) building =
          .ok building') ∧
        FreshIds building.used (before ++ [record]) ∧ openAfterAll before < record.depth ∧
        place = ⟨screen, key, record.blockId, some record.line⟩ ∧ depth = record.depth ∧
        opened = openAfterAll before := by
  rw [Except.foldlM_eq_error_iff]
  constructor
  · rintro ⟨before, record, rest, middle, rfl, hbefore, hrecord⟩
    simp only [Handler.readRecord, Except.mapError_eq_error_iff, Failure.logicTree.injEq] at hrecord
    obtain ⟨_, hread, rfl, rfl⟩ := hrecord
    obtain ⟨hnew, hdepth, rfl, rfl⟩ := read_eq_depth_iff.1 hread
    obtain ⟨hused, hfresh⟩ := run_used hbefore
    rw [run_depth hempty hbefore] at hdepth ⊢
    refine ⟨before, record, rest, rfl, ⟨middle, hbefore⟩, ?_, hdepth, rfl, rfl, rfl⟩
    rw [freshIds_append, ← hused]
    exact ⟨hfresh, hnew, trivial⟩
  · rintro ⟨before, record, rest, rfl, ⟨middle, hbefore⟩, hfresh, hdepth, rfl, rfl, rfl⟩
    obtain ⟨hused, -⟩ := run_used hbefore
    rw [freshIds_append, ← hused] at hfresh
    obtain ⟨-, hnew, -⟩ := hfresh
    refine ⟨before, record, rest, middle, rfl, hbefore, ?_⟩
    rw [Handler.readRecord, Except.mapError_eq_error_iff]
    refine ⟨_, read_eq_depth_iff.2 ⟨hnew, ?_, rfl, rfl⟩, ?_⟩
    · rwa [run_depth hempty hbefore]
    · rw [run_depth hempty hbefore]

end Building

end BlockApp
