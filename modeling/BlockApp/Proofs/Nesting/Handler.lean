import BlockApp.Proofs.Nesting.Depth
import BlockApp.Proofs.Nesting.Rebuild

/-!
# A handler is its records

The records of a handler and its tree of blocks say the same. What `Handler.ofRecords` accepts are the
allowed trees written out with identifiers of their own, and it gives the tree that was written. Depths
alone can go wrong in one way only.

* `Handler.ofRecords_eq_ok_iff` — when records are accepted, and the handler that comes out
* `Handler.ofRecords_lossless` — nesting by depth is lossless and unambiguous
-/

namespace BlockApp

/-- Whether a failure is that a record is too deep. -/
def Failure.IsDepth (failure : Failure) : Prop :=
  ∃ place depth opened, failure = .logicTree place (.depth depth opened)

namespace Handler

variable {screen key : String} {declarations : Declarations} {used : List String}
  {records : List BlockRecord} {handler : Handler}

/-! ## The run over the records -/

theorem ofRecords_eq_ok_iff_run :
    ofRecords screen declarations used key records = .ok handler ↔
      ∃ binding arguments building, Binding.ofKey? key = some binding ∧
        binding.argumentsIn? declarations = .ok arguments ∧
        records.foldlM (readRecord screen key ⟨declarations, arguments.map (·.name)⟩)
          ⟨used, .empty⟩ = .ok building ∧
        handler = ⟨key, binding, arguments, building.nest.finish⟩ := by
  unfold ofRecords
  split
  · next hkey => simp [hkey]
  · next binding hkey =>
    simp only [Except.bind_eq_ok_iff, Except.mapError_eq_ok_iff, Except.pure_eq_ok_iff]
    constructor
    · rintro ⟨arguments, hargs, building, hrun, rfl⟩
      exact ⟨binding, arguments, building, hkey, hargs, hrun, rfl⟩
    · rintro ⟨binding', arguments, building, hkey', hargs, hrun, rfl⟩
      cases hkey.symm.trans hkey'
      exact ⟨arguments, hargs, building, hrun, rfl⟩

theorem argumentsIn?_ne_depth {binding : Binding} {depth opened : Nat} :
    binding.argumentsIn? declarations ≠ .error (.depth depth opened) := by
  cases binding with
  | moreBlock name =>
    rw [Binding.argumentsIn?]
    split <;> simp
  | startUp | activityEvent | viewEvent => simp [Binding.argumentsIn?]

theorem ofRecords_eq_depth_iff_run {place : LogicPlace} {depth opened : Nat} :
    ofRecords screen declarations used key records =
        .error (.logicTree place (.depth depth opened)) ↔
      ∃ binding arguments, Binding.ofKey? key = some binding ∧
        binding.argumentsIn? declarations = .ok arguments ∧
        records.foldlM (readRecord screen key ⟨declarations, arguments.map (·.name)⟩)
          ⟨used, .empty⟩ = .error (.logicTree place (.depth depth opened)) := by
  unfold ofRecords
  split
  · next hkey => simp [hkey]
  · next binding hkey =>
    rw [Except.bind_eq_error_iff]
    constructor
    · rintro (hargs | ⟨arguments, hargs, hrun⟩)
      -- arguments that are missing are no matter of depth
      · rw [Except.mapError_eq_error_iff] at hargs
        obtain ⟨problem, hargs, hfailure⟩ := hargs
        cases hfailure
        exact absurd hargs argumentsIn?_ne_depth
      · rw [Except.bind_eq_error_iff] at hrun
        rcases hrun with hrun | ⟨building, -, hpure⟩
        · exact ⟨binding, arguments, hkey, Except.mapError_eq_ok_iff.1 hargs, hrun⟩
        · exact absurd hpure Except.pure_ne_error
    · rintro ⟨binding', arguments, hkey', hargs, hrun⟩
      cases hkey.symm.trans hkey'
      refine .inr ⟨arguments, Except.mapError_eq_ok_iff.2 hargs, ?_⟩
      rw [Except.bind_eq_error_iff]
      exact .inl hrun

/-! ## What is accepted -/

/-- **Records are accepted if they are an allowed tree written out with identifiers of their own**, and
the handler holds that tree. -/
theorem ofRecords_eq_ok_iff :
    ofRecords screen declarations used key records = .ok handler ↔
      handler.key = key ∧ Binding.ofKey? key = some handler.binding ∧
        handler.binding.argumentsIn? declarations = .ok handler.arguments ∧
        ValidAll ⟨declarations, handler.arguments.map (·.name)⟩ (fun _ => False) handler.blocks ∧
        rowsOf 0 handler.blocks = records.map (·.row) ∧ (records.map (·.blockId)).Nodup ∧
        ∀ record ∈ records, record.blockId ∉ used := by
  rw [ofRecords_eq_ok_iff_run]
  constructor
  · rintro ⟨binding, arguments, building, hkey, hargs, hrun, rfl⟩
    have hempty : Nest.empty.Valid ⟨declarations, arguments.map (·.name)⟩ := ⟨trivial, trivial⟩
    obtain ⟨hvalid, hrows⟩ := Building.run_rows hempty hrun
    refine ⟨rfl, hkey, hargs, Nest.validAll_finish hvalid, ?_,
      freshIds_iff.1 (Building.run_used hrun).2⟩
    rw [Nest.rowsOf_finish hvalid, hrows]
    rfl
  · rintro ⟨rfl, hkey, hargs, hvalid, hrows, hfresh⟩
    -- the records put all blocks into the empty nest, and what is open is closed at the end
    have hseen : (· ∈ Nest.empty.locals) = fun _ => False := by
      rw [Nest.mem_locals, Nest.empty, seenAfterAll_nil, Nest.seenIn_nil]
    rw [← hseen] at hvalid
    have hputs : Building.Puts screen handler.key _ ⟨used, .empty⟩ records ⟨[], [] ++ handler.blocks⟩ :=
      rebuildAll handler.blocks (Nest.closesTo_refl .empty) hrows.symm (freshIds_iff.2 hfresh) hvalid
    obtain ⟨building, hrun, ⟨-, hclosed⟩, -⟩ := hputs
    have hfinish : building.nest.finish = handler.blocks := congrArg Nest.blocks hclosed
    exact ⟨handler.binding, handler.arguments, building, hkey, hargs, hrun, by rw [hfinish]⟩

/-! ## What is too deep -/

/-- Records are refused for a depth at the first of them that is too deep, unless an earlier one is
refused or its own identifier is in use. -/
theorem ofRecords_eq_depth_iff {place : LogicPlace} {depth opened : Nat} :
    ofRecords screen declarations used key records =
        .error (.logicTree place (.depth depth opened)) ↔
      ∃ (before : List BlockRecord) (record : BlockRecord) (rest : List BlockRecord),
        records = before ++ record :: rest ∧
        (∃ handler, ofRecords screen declarations used key before = .ok handler) ∧
        record.blockId ∉ before.map (·.blockId) ++ used ∧ openAfterAll before < record.depth ∧
        place = ⟨screen, key, record.blockId, some record.line⟩ ∧ depth = record.depth ∧
        opened = openAfterAll before := by
  rw [ofRecords_eq_depth_iff_run]
  constructor
  · rintro ⟨binding, arguments, hkey, hargs, hrun⟩
    rw [Building.run_eq_depth_iff rfl] at hrun
    obtain ⟨before, record, rest, rfl, ⟨building, hbefore⟩, hfresh, hrest⟩ := hrun
    refine ⟨before, record, rest, rfl, ⟨_, ofRecords_eq_ok_iff_run.2
      ⟨binding, arguments, building, hkey, hargs, hbefore, rfl⟩⟩, ?_, hrest⟩
    simpa using ((freshIds_append before [record]).1 hfresh).2.1
  · rintro ⟨before, record, rest, rfl, ⟨handler, hbefore⟩, hnew, hrest⟩
    obtain ⟨binding, arguments, building, hkey, hargs, hrun, -⟩ := ofRecords_eq_ok_iff_run.1 hbefore
    refine ⟨binding, arguments, hkey, hargs, (Building.run_eq_depth_iff rfl).2
      ⟨before, record, rest, rfl, ⟨building, hrun⟩, ?_, hrest⟩⟩
    rw [freshIds_append]
    exact ⟨(Building.run_used hrun).2, by simpa using hnew, trivial⟩

/-- Accepted records are nowhere too deep. -/
theorem not_jumps_of_ofRecords (h : ofRecords screen declarations used key records = .ok handler) :
    ¬ Jumps records := by
  obtain ⟨binding, arguments, building, -, -, hrun, -⟩ := ofRecords_eq_ok_iff_run.1 h
  exact Building.not_jumps_of_run rfl hrun

/-- Where a failure is that a record is too deep, some record is. -/
theorem jumps_of_isDepth {failure : Failure}
    (h : ofRecords screen declarations used key records = .error failure) (hdepth : failure.IsDepth) :
    Jumps records := by
  obtain ⟨place, depth, opened, rfl⟩ := hdepth
  obtain ⟨before, record, rest, rfl, -, -, hlt, -⟩ := ofRecords_eq_depth_iff.1 h
  exact jumps_iff.2 ⟨before, record, rest, rfl, hlt⟩

/-! ## Nesting by depth -/

/-- **Nesting by depth is lossless and unambiguous.** The rows of an accepted handler's blocks are its
records, in order. Records that write out an allowed tree give that tree. And records without other
defects are refused if one of them is too deep for the one before it: the failure names the first. -/
theorem ofRecords_lossless (screen : String) (declarations : Declarations) (used : List String)
    (key : String) (records : List BlockRecord) :
    (∀ handler, ofRecords screen declarations used key records = .ok handler →
      rowsOf 0 handler.blocks = records.map (·.row)) ∧
    (∀ binding arguments blocks, Binding.ofKey? key = some binding →
      binding.argumentsIn? declarations = .ok arguments →
      ValidAll ⟨declarations, arguments.map (·.name)⟩ (fun _ => False) blocks →
      records.map (·.row) = rowsOf 0 blocks → (records.map (·.blockId)).Nodup →
      (∀ record ∈ records, record.blockId ∉ used) →
      ofRecords screen declarations used key records = .ok ⟨key, binding, arguments, blocks⟩) ∧
    (∀ place depth opened,
      ofRecords screen declarations used key records =
          .error (.logicTree place (.depth depth opened)) ↔
        ∃ (before : List BlockRecord) (record : BlockRecord) (rest : List BlockRecord),
          records = before ++ record :: rest ∧
          (∃ handler, ofRecords screen declarations used key before = .ok handler) ∧
          record.blockId ∉ before.map (·.blockId) ++ used ∧ openAfterAll before < record.depth ∧
          place = ⟨screen, key, record.blockId, some record.line⟩ ∧ depth = record.depth ∧
          opened = openAfterAll before) ∧
    ((∀ failure, ofRecords screen declarations used key records = .error failure →
        failure.IsDepth) →
      ((∃ failure, ofRecords screen declarations used key records = .error failure ∧
        failure.IsDepth) ↔ Jumps records)) := by
  refine ⟨fun handler h => ?_, fun binding arguments blocks hkey hargs hvalid hrows hnodup hnew => ?_,
    fun place depth opened => ofRecords_eq_depth_iff, fun hother => ⟨?_, fun hjumps => ?_⟩⟩
  · obtain ⟨-, -, -, -, hrows, -⟩ := ofRecords_eq_ok_iff.1 h
    exact hrows
  · exact ofRecords_eq_ok_iff.2 ⟨rfl, hkey, hargs, hvalid, hrows.symm, hnodup, hnew⟩
  · rintro ⟨failure, h, hdepth⟩
    exact jumps_of_isDepth h hdepth
  · cases h : ofRecords screen declarations used key records with
    | ok handler => exact absurd hjumps (not_jumps_of_ofRecords h)
    | error failure => exact ⟨failure, rfl, hother failure h⟩

/-- Records of an `if` block with three branches, and a loop in the first of them. -/
def nested : List BlockRecord :=
  [⟨2, "10", 0, "if", [.literal .boolean "true"]⟩, ⟨3, "11", 1, "repeat", [.literal .number "3"]⟩,
    ⟨4, "12", 2, "finishActivity", []⟩, ⟨5, "13", 0, "elseIf", [.literal .boolean "false"]⟩,
    ⟨6, "14", 0, "else", []⟩, ⟨7, "15", 1, "finishActivity", []⟩]

/-- The block that `nested` writes out. -/
def nestedBlock : Block :=
  .ifThen "10" (.literal .boolean "true")
    [.loop "11" (.times (.literal .number "3")) [.statement "12" "finishActivity" []]]
    (.elseIf (.literal .boolean "false") [] (.elseDo [.statement "15" "finishActivity" []]))

theorem ofRecords_lossless_nested :
    (∃ handler, ofRecords "main" .none [] Binding.startUpKey nested = .ok handler ∧
      handler.blocks = [nestedBlock] ∧ rowsOf 0 handler.blocks = nested.map (·.row)) ∧
    ∃ failure, ofRecords "main" .none [] Binding.startUpKey
      (nested ++ [⟨8, "16", 2, "finishActivity", []⟩]) = .error failure ∧ failure.IsDepth := by
  obtain ⟨hlossless, hrebuild, -, -⟩ := ofRecords_lossless "main" .none [] Binding.startUpKey nested
  have hvalid : ValidAll ⟨.none, []⟩ (fun _ => False) [nestedBlock] := by
    simp [nestedBlock, ValidAll, Block.Valid, Otherwise.Valid, Block.Formed, BlockTag.of,
      Block.declareTag, Block.callTag, Surroundings.Resolved, Expr.referencesOf, Expr.references,
      Loop.params]
  have hok := hrebuild .startUp [] [nestedBlock] rfl rfl hvalid rfl (by decide) (by simp)
  refine ⟨⟨_, hok, rfl, hlossless _ hok⟩, ?_⟩
  obtain ⟨-, -, hfirst, hjumps⟩ := ofRecords_lossless "main" .none [] Binding.startUpKey
    (nested ++ [⟨8, "16", 2, "finishActivity", []⟩])
  have herror := (hfirst ⟨"main", Binding.startUpKey, "16", some 8⟩ 2 1).2
    ⟨nested, _, [], rfl, ⟨_, hok⟩, by decide, by decide, rfl, rfl, rfl⟩
  refine (hjumps fun failure h => ?_).2 (jumps_iff.2 ⟨nested, _, [], rfl, by decide⟩)
  cases herror.symm.trans h
  exact ⟨_, _, _, rfl⟩

end Handler

end BlockApp
