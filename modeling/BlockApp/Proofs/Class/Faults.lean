import BlockApp.Proofs.Class.Views
import BlockApp.Proofs.Logic.WellFormed
import BlockApp.Proofs.Nesting.Valid

/-!
# Where the code of a class fails

A class cannot be written when a component is not known, or at a handler: its view is not in the layout,
or the code of one of its blocks cannot be made. Only statements and the calls inside of parameters have
their parameters counted there; what opens branches or assigns variables is never at fault.

* `Row.WrongCount` — a row is a statement with a wrong number of parameters, or has such a call in it
* `failsWith_sequenceLines` — where blocks fail
* `ActivityClass.failsWith_source` — where a class fails
-/

namespace BlockApp

/-! ## Calls -/

namespace Expr

mutual

/-- The calls in an expression, each with its parameters. -/
def calls : Expr → List (String × List Expr)
  | .literal .. | .reference .. => []
  | .call tag args => (tag, args) :: callsOf args

/-- The calls in expressions, each with its parameters. -/
def callsOf : List Expr → List (String × List Expr)
  | [] => []
  | e :: es => e.calls ++ callsOf es

end

end Expr

namespace Source

/-- Whether a table has a format for a tag that takes another number of parameters. -/
def WrongCount (table : List (String × Template)) (tag : String) (expected found : Nat) : Prop :=
  (∃ template, table.lookup tag = some template ∧ template.arity = expected) ∧ found ≠ expected

/-- Whether a call in parameters has a wrong number of its own. -/
def CallsWrongly (params : List Expr) (tag : String) (expected found : Nat) : Prop :=
  WrongCount calls tag expected found ∧
    ∃ args, (tag, args) ∈ Expr.callsOf params ∧ args.length = found

end Source

open Source

/-- Whether a row is a statement with a wrong number of parameters, or has such a call in it. -/
def Row.WrongCount (row : Row) (tag : String) (expected found : Nat) : Prop :=
  (BlockTag.of tag = .statement ∧ row.tag = tag ∧ row.params.length = found ∧
    Source.WrongCount statements tag expected found) ∨ CallsWrongly row.params tag expected found

/-- Whether a fault in code is a count only where `p` says so. -/
def Source.CodeFault.CountsAt (p : (tag : String) → (expected found : Nat) → Prop) : CodeFault → Prop
  | .malformed problem =>
    ∀ tag expected found, problem = .parameterCount tag expected found → p tag expected found
  | .unknownTag _ => True

/-- Whether a failure is of the code of a handler with these rows. -/
def Failure.OfCode (screen key : String) (rows : List Row) : Failure → Prop
  | .logicTree place problem =>
    (∃ id, place = ⟨screen, key, id, none⟩) ∧
      ∀ tag expected found, problem = .parameterCount tag expected found →
        ∃ row ∈ rows, row.WrongCount tag expected found
  | .block _ screen' key' problem => screen' = screen ∧ key' = key ∧ ∃ id, problem = .tag id
  | _ => False

theorem Failure.OfCode.mono {screen key : String} {rows more : List Row} {failure : Failure}
    (h : failure.OfCode screen key rows) (hrows : ∀ row ∈ rows, row ∈ more) :
    failure.OfCode screen key more := by
  cases failure with
  | logicTree place problem =>
    refine ⟨h.1, fun tag expected found hproblem => ?_⟩
    obtain ⟨row, hrow, hcount⟩ := h.2 tag expected found hproblem
    exact ⟨row, hrows row hrow, hcount⟩
  | block => exact h
  | _ => exact h.elim

namespace Source

variable {scene : Scene} {place : MethodScene} {level before : Nat} {id : String}

/-! ## Expressions -/

theorem failsWith_literalText (type : LiteralType) (value : String)
    {p : String → Nat → Nat → Prop} :
    (literalText scene type value).FailsWith (CodeFault.CountsAt p) := by
  fun_cases literalText scene type value
  case case4 => exact .error nofun
  all_goals exact .ok _

theorem failsWith_referenceText (kind : ReferenceKind) (name : String)
    {p : String → Nat → Nat → Prop} :
    (referenceText scene kind name).FailsWith (CodeFault.CountsAt p) := by
  fun_cases referenceText scene kind name
  case case4 => exact .error nofun
  all_goals exact .ok _

theorem CallsWrongly.mono {es more : List Expr} {tag : String} {expected found : Nat}
    (h : CallsWrongly es tag expected found)
    (hcalls : ∀ call ∈ Expr.callsOf es, call ∈ Expr.callsOf more) :
    CallsWrongly more tag expected found :=
  ⟨h.1, h.2.imp fun _ hargs => ⟨hcalls _ hargs.1, hargs.2⟩⟩

theorem CodeFault.CountsAt.mono {p q : String → Nat → Nat → Prop} {fault : CodeFault}
    (h : fault.CountsAt p) (hpq : ∀ tag expected found, p tag expected found → q tag expected found) :
    fault.CountsAt q := by
  cases fault with
  | malformed problem => exact fun tag expected found hp => hpq _ _ _ (h tag expected found hp)
  | unknownTag => trivial

mutual

/-- **An expression fails at a call in it.** -/
theorem failsWith_textOf (e : Expr) :
    (textOf scene e).FailsWith (CodeFault.CountsAt (CallsWrongly [e])) := by
  match e with
  | .literal type value => exact failsWith_literalText type value
  | .reference kind name => exact failsWith_referenceText kind name
  | .call tag args =>
    rw [textOf]
    split
    · exact .error trivial
    · next template hlookup =>
      split
      · refine .bind ((failsWith_textsOf args).mono fun fault hfault => hfault.mono ?_)
          fun _ _ => .pure _
        intro tag expected found h
        exact h.mono fun call hcall => by simp [Expr.callsOf, Expr.calls, hcall]
      · next hlength =>
        refine .error fun tag expected found hproblem => ?_
        cases hproblem
        exact ⟨⟨⟨template, hlookup, rfl⟩, hlength⟩, args, by simp [Expr.callsOf, Expr.calls], rfl⟩
  termination_by structural e

theorem failsWith_textsOf (es : List Expr) :
    (textsOf scene es).FailsWith (CodeFault.CountsAt (CallsWrongly es)) := by
  match es with
  | [] => exact .ok _
  | e :: es =>
    rw [textsOf]
    refine .bind ((failsWith_textOf e).mono fun fault hfault => hfault.mono ?_) fun _ _ =>
      .bind ((failsWith_textsOf es).mono fun fault hfault => hfault.mono ?_) fun _ _ => .pure _
    · intro tag expected found h
      exact h.mono fun call hcall => by
        simp only [Expr.callsOf, List.append_nil] at hcall
        simp [Expr.callsOf, hcall]
    · intro tag expected found h
      exact h.mono fun call hcall => by simp [Expr.callsOf, hcall]
  termination_by structural es

end

/-! ## Lines -/

theorem CodeFault.CountsAt.ofCode {fault : CodeFault} {row : Row} (h : fault.CountsAt row.WrongCount)
    (screen key id : String) : (fault.failure screen key id).OfCode screen key [row] := by
  cases fault with
  | malformed problem =>
    exact ⟨⟨id, rfl⟩, fun tag expected found hproblem =>
      ⟨row, List.mem_singleton_self row, h tag expected found hproblem⟩⟩
  | unknownTag tag => exact ⟨rfl, rfl, id, rfl⟩

theorem failsWith_paramText (place : MethodScene) (id : String) {e : Expr} (row : Row)
    (hcalls : ∀ call ∈ Expr.callsOf [e], call ∈ Expr.callsOf row.params) :
    (paramText place id e).FailsWith (Failure.OfCode place.screen place.handler [row]) :=
  .mapError ((failsWith_textOf e).mono fun _ hfault => CodeFault.CountsAt.ofCode
    (hfault.mono fun _ _ _ h => .inr (h.mono hcalls)) _ _ _)

theorem failsWith_paramTexts {es : List Expr} (row : Row)
    (hcalls : ∀ call ∈ Expr.callsOf es, call ∈ Expr.callsOf row.params) :
    (paramTexts place id es).FailsWith (Failure.OfCode place.screen place.handler [row]) :=
  .map _ (.mapError ((failsWith_textsOf es).mono fun _ hfault => CodeFault.CountsAt.ofCode
    (hfault.mono fun _ _ _ h => .inr (h.mono hcalls)) _ _ _))

theorem failsWith_statementLine {tag : String} {params : List Expr}
    (hrole : BlockTag.of tag = .statement) (depth : Nat) :
    (statementLine place level id tag params).FailsWith
      (Failure.OfCode place.screen place.handler (Block.rows depth (.statement id tag params))) := by
  refine .mapError (Except.FailsWith.mono (p := CodeFault.CountsAt
    (Row.WrongCount (Block.row depth (.statement id tag params)))) ?_ fun _ h => h.ofCode _ _ _)
  split
  · exact .error trivial
  · next template hlookup =>
    split
    · exact .bind ((failsWith_textsOf params).mono fun _ h => h.mono fun _ _ _ => .inr)
        fun _ _ => .pure _
    · next hlength =>
      refine .error fun tag expected found hproblem => ?_
      cases hproblem
      exact .inl ⟨hrole, rfl, rfl, ⟨template, hlookup, rfl⟩, hlength⟩

theorem failsWith_declareLine {type : ValueType} {name : String} {value : Option Expr} (depth : Nat) :
    (declareLine place level id type name value).FailsWith
      (Failure.OfCode place.screen place.handler (Block.rows depth (.declare id type name value))) := by
  cases value with
  | none => exact .bind (.ok _) fun _ _ => .pure _
  | some value =>
    refine .bind (failsWith_paramText place id _ fun call hcall => ?_) fun _ _ => .pure _
    simpa [Block.row, Block.params, Expr.callsOf, Expr.calls] using hcall

theorem failsWith_assignLine {target : String} {change : Change} (depth : Nat) :
    (assignLine place level id target change).FailsWith
      (Failure.OfCode place.screen place.handler (Block.rows depth (.assign id target change))) := by
  cases change with
  | set value =>
    refine .bind (failsWith_paramText place id _ fun call hcall => ?_) fun _ _ =>
      .bind (.pure _) fun _ _ => .pure _
    simpa [Block.row, Block.params, Change.params, Expr.callsOf, Expr.calls] using hcall
  | increase | decrease => exact .ok _

theorem failsWith_callLine {function : String} {args : List Expr} (depth : Nat) :
    (callLine place level id function args).FailsWith
      (Failure.OfCode place.screen place.handler (Block.rows depth (.call id function args))) := by
  refine .bind (failsWith_paramTexts _ fun call hcall => ?_) fun _ _ => .pure _
  simpa [Block.row, Block.params, Expr.callsOf, Expr.calls] using hcall

theorem failsWith_loopLine {head : Loop} {number : Nat} (depth : Nat) (body : List Block) :
    (loopLine place level number id head).FailsWith
      (Failure.OfCode place.screen place.handler [Block.row depth (.loop id head body)]) := by
  cases head with
  | forever => exact .bind (.pure _) fun _ _ => .pure _
  | times count =>
    exact .bind (failsWith_paramText place id _ fun _ h => h) fun _ _ =>
      .bind (.pure _) fun _ _ => .pure _
  | whileTrue condition =>
    exact .bind (failsWith_paramText place id _ fun _ h => h) fun _ _ =>
      .bind (.pure _) fun _ _ => .pure _

/-! ## Blocks -/

variable {around : Surroundings}

theorem failsWith_of_subset {α : Type} {x : Except Failure α} {screen key : String}
    {rows more : List Row} (h : x.FailsWith (Failure.OfCode screen key rows))
    (hrows : ∀ row ∈ rows, row ∈ more) :
    x.FailsWith (Failure.OfCode screen key more) :=
  h.mono fun _ hfailure => hfailure.mono hrows

mutual

theorem failsWith_blockLines (place : MethodScene) (level before depth : Nat) (block : Block)
    {seen : String → Prop} (h : block.Valid around seen) :
    (blockLines place level before block).FailsWith
      (Failure.OfCode place.screen place.handler (block.rows depth)) := by
  match block with
  | .statement id tag params => exact .bind (failsWith_statementLine h.1 depth) fun _ _ => .pure _
  | .declare id type name value => exact .bind (failsWith_declareLine depth) fun _ _ => .pure _
  | .assign id target change => exact .bind (failsWith_assignLine depth) fun _ _ => .pure _
  | .call id function args => exact .bind (failsWith_callLine depth) fun _ _ => .pure _
  | .loop id head body =>
    have hbody :=
      failsWith_sequenceLines place (level + 1) (countedWith before head) (depth + 1) body h.2
    rw [blockLines]
    refine .bind (failsWith_of_subset (failsWith_loopLine depth body) ?_) fun _ _ =>
      .bind (failsWith_of_subset hbody ?_) fun _ _ => .pure _
    · simp [Block.rows]
    · simp +contextual [Block.rows]
  | .ifThen id condition body otherwise =>
    obtain ⟨-, hvalid, hothers⟩ := h
    have hcondition := failsWith_paramText place id
      (Block.row depth (.ifThen id condition body otherwise)) fun _ h => h
    have hbody := failsWith_sequenceLines place (level + 1) before (depth + 1) body hvalid
    have hrest :=
      failsWith_otherwiseLines place id level (before + countedIn body) depth otherwise hothers
    rw [blockLines]
    refine .bind (failsWith_of_subset hcondition ?_) fun _ _ =>
      .bind (failsWith_of_subset hbody ?_) fun _ _ =>
        .bind (failsWith_of_subset hrest ?_) fun _ _ => .pure _
    · simp [Block.rows]
    · simp +contextual [Block.rows]
    · simp +contextual [Block.rows]
  termination_by structural block

theorem failsWith_otherwiseLines (place : MethodScene) (id : String) (level before depth : Nat)
    (otherwise : Otherwise) {seen : String → Prop} (h : otherwise.Valid around seen) :
    (otherwiseLines place id level before otherwise).FailsWith
      (Failure.OfCode place.screen place.handler (otherwise.rows depth)) := by
  match otherwise with
  | .nothing => exact .ok _
  | .elseDo body =>
    have hbody := failsWith_sequenceLines place (level + 1) before (depth + 1) body h
    rw [otherwiseLines]
    refine .bind (failsWith_of_subset hbody ?_) fun _ _ => .pure _
    simp +contextual [Otherwise.rows]
  | .elseIf condition body otherwise =>
    obtain ⟨-, hvalid, hothers⟩ := h
    have hcondition := failsWith_paramText place id
      (Branch.row depth ⟨"elseIf", [condition], body⟩) fun _ h => h
    have hbody := failsWith_sequenceLines place (level + 1) before (depth + 1) body hvalid
    have hrest :=
      failsWith_otherwiseLines place id level (before + countedIn body) depth otherwise hothers
    rw [otherwiseLines]
    refine .bind (failsWith_of_subset hcondition ?_) fun _ _ =>
      .bind (failsWith_of_subset hbody ?_) fun _ _ =>
        .bind (failsWith_of_subset hrest ?_) fun _ _ => .pure _
    · simp [Otherwise.rows]
    · simp +contextual [Otherwise.rows]
    · simp +contextual [Otherwise.rows]
  termination_by structural otherwise

/-- **Blocks fail at a row of theirs.** -/
theorem failsWith_sequenceLines (place : MethodScene) (level before depth : Nat) (blocks : List Block)
    {seen : String → Prop} (h : ValidAll around seen blocks) :
    (sequenceLines place level before blocks).FailsWith
      (Failure.OfCode place.screen place.handler (rowsOf depth blocks)) := by
  match blocks with
  | [] => exact .ok _
  | block :: blocks =>
    have hblock := failsWith_blockLines place level before depth block h.1
    have hrest := failsWith_sequenceLines place level (before + block.counted) depth blocks h.2
    rw [sequenceLines]
    refine .bind (failsWith_of_subset hblock ?_) fun _ _ =>
      .bind (failsWith_of_subset hrest ?_) fun _ _ => .pure _
    · simp +contextual
    · simp +contextual
  termination_by structural blocks

end

end Source

/-! ## Classes -/

/-- Whether a failure is of a class: a component that is not known, or something of a handler. -/
def Failure.OfClass (c : ActivityClass) (failure : Failure) : Prop :=
  (∃ name type, failure = .component type c.logic.screen (.declaration name)) ∨
    ∃ handler ∈ c.logic.handlers,
      failure.OfCode c.logic.screen handler.key (rowsOf 0 handler.blocks)

namespace ActivityClass

variable {c : ActivityClass}

theorem failsWith_componentField (c : ActivityClass) (d : ComponentDeclaration) :
    (componentField c.logic.screen d).FailsWith (Failure.OfClass c) := by
  unfold componentField
  split
  · exact .error (.inl ⟨d.name, d.type, rfl⟩)
  · exact .ok _

theorem failsWith_listenerOf {handler : Handler} (h : handler ∈ c.logic.handlers) :
    (c.listenerOf handler).FailsWith (Failure.OfClass c) := by
  unfold listenerOf
  split
  · dsimp only
    split
    · exact .error (.inr ⟨handler, h, ⟨"", rfl⟩, nofun⟩)
    · split
      · exact .ok _
      · exact .error (.inr ⟨handler, h, ⟨"", rfl⟩, nofun⟩)
  all_goals exact .ok _

theorem failsWith_viewField {view : ViewEntry} (h : ∃ type : Component, view.type = type.name) :
    (viewField c.logic.screen view).FailsWith (Failure.OfClass c) := by
  obtain ⟨type, htype⟩ := h
  rw [viewField, htype, Component.ofName?_name]
  exact .ok _

theorem failsWith_memberLines {handler : Handler} {around : Surroundings}
    (hvalid : ValidAll around (fun _ => False) handler.blocks) :
    (c.memberLines handler).FailsWith
      (Failure.OfCode c.logic.screen handler.key (rowsOf 0 handler.blocks)) := by
  refine .bind (.bind ?_ fun _ _ => .pure _) fun _ _ => .pure _
  exact failsWith_sequenceLines ⟨c.scene, c.logic.screen, handler.key⟩ 2 0 0 handler.blocks hvalid

/-- Methods fail at handlers of the screen: those that are added are empty. -/
theorem failsWith_method (hlogic : c.logic.Sound) {handler : Handler}
    (h : handler ∈ c.orderedHandlers ++ c.missingHandlers) :
    (c.memberLines handler).FailsWith (Failure.OfClass c) := by
  rcases handler_of_mem_methods h with hscreen | rfl | ⟨declared, -, rfl⟩
  · exact (failsWith_memberLines (hlogic.handlers handler hscreen).valid).mono
      fun _ hfailure => .inr ⟨handler, hscreen, hfailure⟩
  · exact .ok _
  · exact .ok _

theorem failsWith_fieldLines (hviews : c.views.Known) :
    c.fieldLines.FailsWith (Failure.OfClass c) := by
  refine .bind (.bind (.mapM fun d _ => failsWith_componentField c d) fun _ _ => .bind
    (.mapM fun view hview => failsWith_viewField (hviews view (List.mem_filter.1 hview).1))
    fun _ _ => .pure _) fun lines _ => ?_
  cases lines <;> exact .pure _

/-- **A class fails at a component or at a handler**, if its logic is sound and its views are of known
types. A wrong number of parameters is that of a statement or a call. -/
theorem failsWith_source (hlogic : c.logic.Sound) (hviews : c.views.Known) (indent : String) :
    (c.source indent).FailsWith (Failure.OfClass c) := by
  refine .bind (.bind (failsWith_fieldLines hviews) fun _ _ => .bind (.bind ?_ fun _ _ => .pure _)
    fun _ _ => .bind ?_ fun _ _ => .pure _) fun _ _ => .pure _
  · exact .mapM fun handler h => failsWith_listenerOf h
  · exact .mapM fun handler h => failsWith_method hlogic h

end ActivityClass

end BlockApp
