import BlockApp.Proofs.Nesting.Handler
import BlockApp.Proofs.Scope.Site

/-!
# Scope is by place

A record is checked against the local variables of the sequences that are open, and those are left one by
one while the records are read. What the sequences hold at that moment is what stands before the record's
place in the finished blocks. So a reference is refused if it breaks the rule of scope and for no other
reason, and the first record that breaks it is reported.

* `Building.take` — reads a record and does all checks but that of the references
* `Nest.sites` — the sites of a nest; closing keeps them and a record adds its own
* `Building.run_of_takeAll` — the two runs over records side by side
* `Handler.ofRecords_scoped` — the rule of scope holds in every handler and decides about the others
-/

namespace BlockApp

variable {around : Surroundings}

/-! ## Bad references -/

/-- The local variables that a site sees. -/
def Site.Sees (site : Site) (name : String) : Prop :=
  ∃ block ∈ site.earlier, block.declared? = some name

/-- What is said of a reference that points nowhere. -/
def blame? : Reference → Option LogicProblem
  | (.variable, name) => some (.unresolvedVariable name)
  | (.argument, name) => some (.unresolvedArgument name)
  | (.view, _) => none

/-- Whether a problem is that of the first reference at a site that breaks the rule of scope. -/
def Site.Breaks (around : Surroundings) (site : Site) (problem : LogicProblem) : Prop :=
  ∃ good reference later, Expr.referencesOf site.params = good ++ reference :: later ∧
    (∀ r ∈ good, around.Points site.Sees r) ∧ ¬ around.Points site.Sees reference ∧
    blame? reference = some problem

/-- Whether a record is the first of those whose sites break the rule of scope, and with what problem. -/
inductive FirstBreak (around : Surroundings) :
    List BlockRecord → List Site → BlockRecord → LogicProblem → Prop where
  | here {record : BlockRecord} {records : List BlockRecord} {site : Site} {sites : List Site}
      {problem : LogicProblem} (hparams : site.params = record.params)
      (h : site.Breaks around problem) :
      FirstBreak around (record :: records) (site :: sites) record problem
  | later {record bad : BlockRecord} {records : List BlockRecord} {site : Site} {sites : List Site}
      {problem : LogicProblem} (hsite : site.Follows around)
      (h : FirstBreak around records sites bad problem) :
      FirstBreak around (record :: records) (site :: sites) bad problem

/-- A site with a first bad reference does not follow the rule of scope. -/
theorem Site.not_follows_of_breaks {site : Site} {problem : LogicProblem}
    (h : site.Breaks around problem) : ¬ site.Follows around := by
  obtain ⟨good, reference, later, hrefs, -, hbad, -⟩ := h
  intro hfollows
  exact hbad (hfollows reference (by simp [hrefs]))

namespace Building

theorem unresolved?_eq_some_iff {locals : List String} {reference : Reference}
    {problem : LogicProblem} :
    unresolved? (around.declarations.names ++ locals) around.arguments reference = some problem ↔
      ¬ around.Points (· ∈ locals) reference ∧ blame? reference = some problem := by
  obtain ⟨kind, name⟩ := reference
  cases kind <;> simp [unresolved?, Surroundings.Points, blame?]

/-- What is wrong with the references of a record, said with the site of the record. -/
theorem unresolvedIn?_eq_some_iff {nest : Nest} {site : Site}
    (hlocals : ∀ name, name ∈ nest.locals ↔ site.Sees name) {problem : LogicProblem} :
    unresolvedIn? around nest site.params = some problem ↔ site.Breaks around problem := by
  have hsees : (· ∈ nest.locals) = site.Sees := funext fun name => propext (hlocals name)
  simp only [unresolvedIn?, List.findSome?_eq_some_iff, unresolved?_eq_some_iff,
    unresolved?_eq_none_iff, hsees]
  constructor
  · rintro ⟨good, reference, later, hrefs, ⟨hbad, hproblem⟩, hgood⟩
    exact ⟨good, reference, later, hrefs, hgood, hbad, hproblem⟩
  · rintro ⟨good, reference, later, hrefs, hgood, hbad, hproblem⟩
    exact ⟨good, reference, later, hrefs, ⟨hbad, hproblem⟩, hgood⟩

/-! ## Reading without the check of references -/

/-- Reads a record and does all checks but that of the references. -/
def take (declarations : Declarations) (building : Building) (record : BlockRecord) :
    Except LogicProblem Building :=
  if record.blockId ∈ building.used then .error (.duplicateBlockId record.blockId)
  else if building.nest.depth < record.depth then
    .error (.depth record.depth building.nest.depth)
  else do
    let nest ← place declarations (building.nest.closeTo record.depth) record.blockId record.tag
      record.params
    return ⟨record.blockId :: building.used, nest⟩

/-- Reads records and does all checks but that of the references. -/
def takeAll (declarations : Declarations) (building : Building) (records : List BlockRecord) :
    Except LogicProblem Building :=
  records.foldlM (take declarations) building

variable {building building' : Building} {record : BlockRecord}

theorem take_eq_ok_iff {declarations : Declarations} :
    building.take declarations record = .ok building' ↔
      record.blockId ∉ building.used ∧ record.depth ≤ building.nest.depth ∧
        ∃ nest, Placed declarations (building.nest.closeTo record.depth) record.blockId record.tag
          record.params nest ∧ building' = ⟨record.blockId :: building.used, nest⟩ := by
  unfold take
  by_cases hused : record.blockId ∈ building.used
  · simp [hused]
  by_cases hdepth : building.nest.depth < record.depth
  · simp [hused, hdepth, Nat.not_le.2 hdepth]
  · rw [if_neg hused, if_neg hdepth]
    simp only [Except.bind_eq_ok_iff, place_eq_ok_iff, Except.pure_eq_ok_iff]
    simp only [hused, not_false_eq_true, Nat.le_of_not_lt hdepth, true_and, eq_comm]

/-- Where the other checks pass, the references decide. -/
theorem read_of_take (h : building.take around.declarations record = .ok building') :
    building.read around record =
      match unresolvedIn? around (building.nest.closeTo record.depth) record.params with
      | some problem => .error problem
      | none => .ok building' := by
  obtain ⟨hused, hdepth, nest, hplaced, rfl⟩ := take_eq_ok_iff.1 h
  rw [read, if_neg hused, if_neg (Nat.not_lt.2 hdepth)]
  simp only [place_eq_ok_iff.2 hplaced]
  rfl

theorem take_of_read (h : building.read around record = .ok building') :
    building.take around.declarations record = .ok building' := by
  obtain ⟨hused, hdepth, -, nest, hplaced, rfl⟩ := read_eq_ok_iff.1 h
  exact take_eq_ok_iff.2 ⟨hused, hdepth, nest, hplaced, rfl⟩

end Building

/-! ## Sites of nests -/

/-- The sites of an open block up to those of the sequence that is open. -/
def Opener.sites (earlier : List Block) : Opener → List Site
  | .loop _ head => [⟨head.params, earlier⟩]
  | .ifThen _ condition => [⟨[condition], earlier⟩]
  | .branch _ condition body before head =>
    ⟨[condition], earlier⟩ ::
      (sitesOf earlier body ++ (before.sites earlier ++ [⟨head.params, earlier⟩]))

/-- Whether the branches before the open one have no `else` among them. -/
def Opener.IsOpen : Opener → Prop
  | .branch _ _ _ before _ => before.isOpen = true
  | .loop .. | .ifThen .. => True

theorem BranchHead.sites_close (head : BranchHead) (earlier blocks : List Block) :
    (head.close blocks).sites earlier = ⟨head.params, earlier⟩ :: sitesOf earlier blocks := by
  cases head with
  | elseIf condition => simp [close, Otherwise.sites, params]
  | elseDo => rfl

/-- Closing a block moves none of its sites. -/
theorem Opener.sites_close {opener : Opener} (h : opener.IsOpen) (earlier blocks : List Block) :
    (opener.close blocks).sites earlier = opener.sites earlier ++ sitesOf earlier blocks := by
  cases opener with
  | loop id head => rfl
  | ifThen id condition => simp [close, Block.sites, Otherwise.sites, sites]
  | branch id condition body before head =>
    simp [close, Block.sites, sites, Otherwise.sites_append h, BranchHead.sites_close]

theorem Block.sites_of_isLeaf {block : Block} (h : block.isLeaf = true) (earlier : List Block) :
    block.sites earlier = [⟨block.params, earlier⟩] := by
  cases block with
  | statement | declare | assign | call => rfl
  | loop | ifThen => simp [isLeaf] at h

namespace Nest

/-- The blocks that stand before the sequence inside of open blocks. -/
def earlierOf : List OpenBlock → List Block
  | [] => []
  | o :: outer => earlierOf outer ++ o.before

/-- The sites of open blocks and of what is before them. -/
def outerSites : List OpenBlock → List Site
  | [] => []
  | o :: outer =>
    outerSites outer ++
      (sitesOf (earlierOf outer) o.before ++ o.opener.sites (earlierOf (o :: outer)))

/-- The sites of a nest. -/
def sites (nest : Nest) : List Site :=
  outerSites nest.outer ++ sitesOf (earlierOf nest.outer) nest.blocks

/-- Whether every open branch may stand where it does. -/
def IsOpen (nest : Nest) : Prop := ∀ o ∈ nest.outer, o.opener.IsOpen

theorem isOpen_empty : empty.IsOpen := fun _ h => absurd h List.not_mem_nil

theorem mem_earlierOf {outer : List OpenBlock} {block : Block} :
    block ∈ earlierOf outer ↔ ∃ o ∈ outer, block ∈ o.before := by
  induction outer with
  | nil => simp [earlierOf]
  | cons o outer ih => simp [earlierOf, ih, or_comm]

/-- The local variables of a nest are what its blocks declare that stand before the next record. -/
theorem mem_locals_iff {nest : Nest} {name : String} :
    name ∈ nest.locals ↔
      ∃ block ∈ earlierOf nest.outer ++ nest.blocks, block.declared? = some name := by
  simp only [locals, declaredBy, List.mem_append, List.mem_flatMap, List.mem_filterMap,
    mem_earlierOf]
  constructor
  · rintro (⟨o, ho, block, hblock, hname⟩ | ⟨block, hblock, hname⟩)
    · exact ⟨block, .inl ⟨o, ho, hblock⟩, hname⟩
    · exact ⟨block, .inr hblock, hname⟩
  · rintro ⟨block, ⟨o, ho, hblock⟩ | hblock, hname⟩
    · exact .inl ⟨o, ho, block, hblock, hname⟩
    · exact .inr ⟨block, hblock, hname⟩

/-- Closing open blocks keeps the sites. -/
theorem closeAround_sites (depth : Nat) {outer : List OpenBlock} (blocks : List Block)
    (hopen : ∀ o ∈ outer, o.opener.IsOpen) :
    (closeAround depth outer blocks).IsOpen ∧
      (closeAround depth outer blocks).sites =
        outerSites outer ++ sitesOf (earlierOf outer) blocks := by
  induction outer generalizing blocks with
  | nil => exact ⟨hopen, rfl⟩
  | cons o outer ih =>
    rw [closeAround]
    split
    · exact ⟨hopen, rfl⟩
    -- the innermost block is closed behind what is before it, and then the next one is looked at
    · obtain ⟨ho, houter⟩ := List.forall_mem_cons.1 hopen
      obtain ⟨hclosed, hsites⟩ := ih (o.before ++ [o.opener.close blocks]) houter
      refine ⟨hclosed, ?_⟩
      rw [hsites, sitesOf_append, sitesOf_singleton, Opener.sites_close ho, outerSites, earlierOf]
      simp only [List.append_assoc]

theorem isOpen_closeTo {nest : Nest} (h : nest.IsOpen) (depth : Nat) :
    (nest.closeTo depth).IsOpen := (closeAround_sites depth nest.blocks h).1

theorem closeTo_sites {nest : Nest} (h : nest.IsOpen) (depth : Nat) :
    (nest.closeTo depth).sites = nest.sites := (closeAround_sites depth nest.blocks h).2

/-- The sites of the finished blocks are those of the nest. -/
theorem sitesOf_finish {nest : Nest} (h : nest.IsOpen) : sitesOf [] nest.finish = nest.sites := by
  rw [← closeTo_sites h 0, sites, outer_closeTo_zero]
  rfl

end Nest

/-! ## One record -/

namespace Placed

variable {declarations : Declarations} {nest nest' : Nest} {id tag : String} {params : List Expr}

theorem isOpen (h : Placed declarations nest id tag params nest') (hnest : nest.IsOpen) :
    nest'.IsOpen := by
  cases h with
  | leaf => exact hnest
  | loop | ifThen => exact List.forall_mem_cons.2 ⟨trivial, hnest⟩
  | branch last head hlast isOpen => exact List.forall_mem_cons.2 ⟨isOpen, hnest⟩

/-- **A record adds its own site at the end**, and that site sees the local variables of the nest. -/
theorem sites (h : Placed declarations nest id tag params nest') :
    ∃ earlier, nest'.sites = nest.sites ++ [⟨params, earlier⟩] ∧
      ∀ name, name ∈ nest.locals ↔ Site.Sees ⟨params, earlier⟩ name := by
  cases h with
  | leaf block isLeaf formed hid htag hparams =>
    subst hparams
    refine ⟨Nest.earlierOf nest.outer ++ nest.blocks, ?_, fun name => Nest.mem_locals_iff⟩
    rw [Nest.sites, Nest.add, sitesOf_append, sitesOf_singleton, Block.sites_of_isLeaf isLeaf,
      Nest.sites, List.append_assoc]
  | loop head htag hparams =>
    subst hparams
    refine ⟨Nest.earlierOf nest.outer ++ nest.blocks, ?_, fun name => Nest.mem_locals_iff⟩
    simp [Nest.sites, Nest.enter, Nest.outerSites, Nest.earlierOf, Opener.sites]
  | ifThen condition htag hparams =>
    subst hparams
    refine ⟨Nest.earlierOf nest.outer ++ nest.blocks, ?_, fun name => Nest.mem_locals_iff⟩
    simp [Nest.sites, Nest.enter, Nest.outerSites, Nest.earlierOf, Opener.sites]
  | branch last head hlast isOpen htag hparams =>
    subst hparams
    have hblocks := Nest.eq_of_lastIf? hlast
    -- the branch stands behind what is before the `if` block, which itself declares nothing
    refine ⟨Nest.earlierOf nest.outer ++ last.before, ?_, fun name => ?_⟩
    · simp [Nest.sites, Nest.resume, Nest.outerSites, Nest.earlierOf, Opener.sites, hblocks,
        Block.sites]
    · rw [Nest.mem_locals_iff, hblocks]
      simp [Site.Sees, Block.declared?, or_and_right, exists_or]

end Placed

/-! ## All records -/

namespace Building

variable {building building' : Building} {records : List BlockRecord}

/-- What one record does to the sites. -/
theorem take_sites {declarations : Declarations} {record : BlockRecord}
    (hnest : building.nest.IsOpen) (h : building.take declarations record = .ok building') :
    building'.nest.IsOpen ∧
      ∃ site : Site, building'.nest.sites = building.nest.sites ++ [site] ∧
        site.params = record.params ∧
        ∀ name, name ∈ (building.nest.closeTo record.depth).locals ↔ site.Sees name := by
  obtain ⟨-, -, nest, hplaced, rfl⟩ := take_eq_ok_iff.1 h
  obtain ⟨earlier, hsites, hlocals⟩ := hplaced.sites
  refine ⟨hplaced.isOpen (Nest.isOpen_closeTo hnest _), ⟨record.params, earlier⟩, ?_, rfl, hlocals⟩
  rw [hsites, Nest.closeTo_sites hnest]

/-- What a record that passes the other checks comes to. -/
theorem read_cases {record : BlockRecord} {site : Site}
    (h : building.take around.declarations record = .ok building')
    (hparams : site.params = record.params)
    (hlocals : ∀ name, name ∈ (building.nest.closeTo record.depth).locals ↔ site.Sees name) :
    site.Follows around ∧ building.read around record = .ok building' ∨
      ∃ problem, site.Breaks around problem ∧ building.read around record = .error problem := by
  have hread := read_of_take h
  rw [← hparams] at hread
  cases hrefs : unresolvedIn? around (building.nest.closeTo record.depth) site.params with
  | some problem =>
    rw [hrefs] at hread
    exact .inr ⟨problem, (unresolvedIn?_eq_some_iff hlocals).1 hrefs, hread⟩
  | none =>
    rw [hrefs] at hread
    have hsees : (· ∈ (building.nest.closeTo record.depth).locals) = site.Sees :=
      funext fun name => propext (hlocals name)
    have hresolved := unresolvedIn?_eq_none_iff.1 hrefs
    rw [hsees] at hresolved
    exact .inl ⟨hresolved, hread⟩

/-- **The two runs side by side.** Records that pass the other checks get a site each. They are read if
all the sites follow the rule of scope, and refused at the first record whose site breaks it. -/
theorem run_of_takeAll (screen key : String) (hnest : building.nest.IsOpen)
    (h : building.takeAll around.declarations records = .ok building') :
    building'.nest.IsOpen ∧
      ∃ sites : List Site, building'.nest.sites = building.nest.sites ++ sites ∧
        sites.map (·.params) = records.map (·.params) ∧
        ((∀ site ∈ sites, site.Follows around) ∧
            records.foldlM (Handler.readRecord screen key around) building = .ok building' ∨
          ∃ record problem, FirstBreak around records sites record problem ∧
            records.foldlM (Handler.readRecord screen key around) building =
              .error (.logicTree ⟨screen, key, record.blockId, some record.line⟩ problem)) := by
  induction records generalizing building with
  | nil =>
    simp only [takeAll, List.foldlM_nil, Except.pure_eq_ok_iff] at h
    subst h
    exact ⟨hnest, [], by simp, rfl, .inl ⟨by simp, rfl⟩⟩
  | cons record records ih =>
    simp only [takeAll, List.foldlM_cons, Except.bind_eq_ok_iff] at h
    obtain ⟨middle, htake, hrest⟩ := h
    obtain ⟨hmiddle, site, hsite, hparams, hlocals⟩ := take_sites hnest htake
    obtain ⟨hbuilding', sites, hsites, hall, hrun⟩ := ih hmiddle hrest
    refine ⟨hbuilding', site :: sites, ?_, ?_, ?_⟩
    · rw [hsites, hsite, List.append_assoc]
      rfl
    · rw [List.map_cons, List.map_cons, hparams, hall]
    simp only [List.foldlM_cons]
    rcases read_cases htake hparams hlocals with ⟨hfollows, hread⟩ | ⟨problem, hbreaks, hread⟩
    · have hstep : Handler.readRecord screen key around building record = .ok middle :=
        readRecord_eq_ok_iff.2 hread
      rw [hstep]
      rcases hrun with ⟨hgood, hrun⟩ | ⟨bad, problem, hfirst, hrun⟩
      · exact .inl ⟨List.forall_mem_cons.2 ⟨hfollows, hgood⟩, hrun⟩
      · exact .inr ⟨bad, problem, .later hfollows hfirst, hrun⟩
    · refine .inr ⟨record, problem, .here hparams hbreaks, ?_⟩
      rw [Handler.readRecord, hread]
      rfl

theorem takeAll_of_run {screen key : String}
    (h : records.foldlM (Handler.readRecord screen key around) building = .ok building') :
    building.takeAll around.declarations records = .ok building' := by
  induction records generalizing building with
  | nil =>
    simp only [List.foldlM_nil, Except.pure_eq_ok_iff] at h
    subst h
    rfl
  | cons record records ih =>
    simp only [List.foldlM_cons, Except.bind_eq_ok_iff, readRecord_eq_ok_iff] at h
    obtain ⟨middle, hread, hrest⟩ := h
    rw [takeAll, List.foldlM_cons, take_of_read hread]
    exact ih hrest

end Building

namespace Handler

variable {screen key : String} {declarations : Declarations} {used : List String}
  {records : List BlockRecord} {handler : Handler}

theorem ofRecords_eq_error_of_run {binding : Binding} {arguments : List Argument}
    {failure : Failure} (hkey : Binding.ofKey? key = some binding)
    (hargs : binding.argumentsIn? declarations = .ok arguments)
    (hrun : records.foldlM (readRecord screen key ⟨declarations, arguments.map (·.name)⟩)
      ⟨used, .empty⟩ = .error failure) :
    ofRecords screen declarations used key records = .error failure := by
  rw [ofRecords, hkey]
  simp only [hargs, Except.mapError_ok, bind, Except.bind, hrun]

/-- Every reference in an accepted handler follows the rule of scope. -/
theorem follows_of_ofRecords (h : ofRecords screen declarations used key records = .ok handler)
    {params : List Expr} {earlier : List Block} (hstands : Stands handler.blocks params earlier) :
    Site.Follows ⟨declarations, handler.arguments.map (·.name)⟩ ⟨params, earlier⟩ := by
  obtain ⟨binding, arguments, building, -, -, hrun, rfl⟩ := ofRecords_eq_ok_iff_run.1 h
  obtain ⟨hopen, sites, hsites, -, hscope⟩ :=
    Building.run_of_takeAll screen key Nest.isOpen_empty (Building.takeAll_of_run hrun)
  rcases hscope with ⟨hfollows, -⟩ | ⟨record, problem, -, herror⟩
  · refine hfollows _ ?_
    have hsite : ⟨params, earlier⟩ ∈ building.nest.sites := by
      rw [← Nest.sitesOf_finish hopen]
      exact mem_sitesOf_iff.2 hstands
    rw [hsites] at hsite
    exact hsite
  · rw [hrun] at herror
    cases herror

/-- **Scope is by place.** In an accepted handler every reference follows the rule: a variable is
declared by the screen, or by a block that stands earlier in the sequence or before a block around it.
Records that pass all other checks are accepted too, unless a reference breaks that rule where its
record's parameters stand in the blocks; the first such record is the one that is reported. -/
theorem ofRecords_scoped (screen : String) (declarations : Declarations) (used : List String)
    (key : String) (records : List BlockRecord) :
    (∀ handler, ofRecords screen declarations used key records = .ok handler →
      ∀ params earlier, Stands handler.blocks params earlier →
        Site.Follows ⟨declarations, handler.arguments.map (·.name)⟩ ⟨params, earlier⟩) ∧
    ∀ binding arguments building, Binding.ofKey? key = some binding →
      binding.argumentsIn? declarations = .ok arguments →
      Building.takeAll declarations ⟨used, .empty⟩ records = .ok building →
      (sitesOf [] building.nest.finish).map (·.params) = records.map (·.params) ∧
      (∀ site, site ∈ sitesOf [] building.nest.finish ↔
        Stands building.nest.finish site.params site.earlier) ∧
      (ofRecords screen declarations used key records =
          .ok ⟨key, binding, arguments, building.nest.finish⟩ ∨
        ∃ record problem,
          FirstBreak ⟨declarations, arguments.map (·.name)⟩ records
            (sitesOf [] building.nest.finish) record problem ∧
          ofRecords screen declarations used key records =
            .error (.logicTree ⟨screen, key, record.blockId, some record.line⟩ problem)) := by
  refine ⟨fun handler h params earlier => follows_of_ofRecords h, ?_⟩
  intro binding arguments building hkey hargs htake
  let around : Surroundings := ⟨declarations, arguments.map (·.name)⟩
  have htake : Building.takeAll around.declarations ⟨used, .empty⟩ records = .ok building := htake
  obtain ⟨hopen, sites, hsites, hparams, hscope⟩ :=
    Building.run_of_takeAll screen key Nest.isOpen_empty htake
  have hfinish : sitesOf [] building.nest.finish = sites := by
    rw [Nest.sitesOf_finish hopen, hsites]
    rfl
  rw [hfinish]
  refine ⟨hparams, fun site => hfinish ▸ mem_sitesOf_iff, ?_⟩
  rcases hscope with ⟨-, hrun⟩ | ⟨record, problem, hfirst, hrun⟩
  · exact .inl (ofRecords_eq_ok_iff_run.2 ⟨binding, arguments, building, hkey, hargs, hrun, rfl⟩)
  · exact .inr ⟨record, problem, hfirst, ofRecords_eq_error_of_run hkey hargs hrun⟩

/-- Records that declare a local variable before an `if` block and another one in its first branch, and
use the first of them afterwards. -/
def twoLocals : List BlockRecord :=
  [⟨2, "10", 0, "localVar", [.literal .enum "number", .literal .enum "n"]⟩,
    ⟨3, "11", 0, "if", [.literal .boolean "true"]⟩,
    ⟨4, "12", 1, "localVar", [.literal .enum "number", .literal .enum "m"]⟩,
    ⟨5, "13", 0, "increaseInt", [.reference .variable "n"]⟩]

/-- A record that uses the second variable where it is no longer seen. -/
def leak : BlockRecord := ⟨6, "14", 0, "increaseInt", [.reference .variable "m"]⟩

theorem ofRecords_scoped_leak :
    (∃ handler, ofRecords "main" .none [] Binding.startUpKey twoLocals = .ok handler ∧
      ∀ params earlier, Stands handler.blocks params earlier →
        Site.Follows ⟨.none, handler.arguments.map (·.name)⟩ ⟨params, earlier⟩) ∧
    ∃ record problem sites, FirstBreak ⟨.none, []⟩ (twoLocals ++ [leak]) sites record problem ∧
      ofRecords "main" .none [] Binding.startUpKey (twoLocals ++ [leak]) =
        .error (.logicTree ⟨"main", Binding.startUpKey, record.blockId, some record.line⟩ problem) := by
  constructor
  · obtain ⟨hfollows, -⟩ := ofRecords_scoped "main" .none [] Binding.startUpKey twoLocals
    exact ⟨_, rfl, hfollows _ rfl⟩
  · obtain ⟨-, hdecides⟩ :=
      ofRecords_scoped "main" .none [] Binding.startUpKey (twoLocals ++ [leak])
    obtain ⟨-, -, hok | ⟨record, problem, hfirst, herror⟩⟩ := hdecides .startUp [] _ rfl rfl rfl
    · have herror : ofRecords "main" .none [] Binding.startUpKey (twoLocals ++ [leak]) =
          .error (.logicTree ⟨"main", Binding.startUpKey, "14", some 6⟩
            (.unresolvedVariable "m")) := rfl
      rw [herror] at hok
      cases hok
    · exact ⟨record, problem, _, hfirst, herror⟩

end Handler

end BlockApp
