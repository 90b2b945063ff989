import BlockApp.Proofs.Method.Code
import BlockApp.Proofs.Method.Expression

/-!
# Blocks are written completely

Blocks have lines exactly if what is in them can be written, at whatever depth: a statement must be known and
have as many parameters as its template takes, and all parameters must have texts. Then there is one line for
each block and each further branch, and it holds the texts of all that the block or branch has as parameters.

* `Block.HasCode` — a block that can be written, with all in it
* `Block.ShownBy` — lines that are of a block: none is left out, and none of its parameters is
* `exists_blockLines_iff`, `shownBy_blockLines` — one case for each kind of block
* `sequenceLines_complete` — which parameters and blocks can be written, and what is in their code
-/

namespace BlockApp

open Source

variable {scene : Scene} {place : MethodScene} {level before number : Nat} {id : String}
  {params : List Expr} {line : Line} {lines : List Line} {text : String}

namespace Source

/-! ## Parameters -/

/-- Whether expressions can be written, with all parts of them. -/
def AllSupported (scene : Scene) (es : List Expr) : Prop := ∀ part ∈ Expr.partsOf es, Supported scene part

/-- Whether a text holds those of expressions, with all parts of them. -/
def ShowsAll (scene : Scene) (text : String) (es : List Expr) : Prop := ∀ e ∈ es, ShowsParts scene text e

theorem allSupported_singleton {e : Expr} :
    AllSupported scene [e] ↔ ∀ part ∈ e.parts, Supported scene part := by
  simp [AllSupported, Expr.partsOf]

theorem exists_paramText_iff (id : String) {e : Expr} :
    (∃ text, paramText place id e = .ok text) ↔ AllSupported place.scene [e] := by
  simp only [paramText_eq_ok_iff, allSupported_singleton, exists_textOf_iff]

theorem exists_paramTexts_iff (id : String) {es : List Expr} :
    (∃ texts, paramTexts place id es = .ok texts) ↔ AllSupported place.scene es := by
  rw [AllSupported, ← exists_textsOf_iff]
  simp only [paramTexts_eq_ok_iff]
  constructor
  · rintro ⟨_, found, hfound, -⟩
    exact ⟨found, hfound⟩
  · rintro ⟨found, hfound⟩
    exact ⟨_, found, hfound, rfl⟩

theorem ShowsAll.of_textsOf {es : List Expr} {texts : { texts : List String // texts.length = es.length }}
    (h : textsOf scene es = .ok texts)
    (htext : ∀ shown ∈ texts.1, shown.toList <:+: text.toList) : ShowsAll scene text es := by
  intro e he
  obtain ⟨shown, hshown, hshows⟩ := shows_textsOf es h e he
  exact hshows.mono (htext shown hshown)

theorem ShowsAll.cons {e : Expr} {es : List Expr} {shown : String} (h : textOf scene e = .ok shown)
    (htext : shown.toList <:+: text.toList) (hes : ShowsAll scene text es) : ShowsAll scene text (e :: es) :=
  List.forall_mem_cons.2 ⟨(shows_textOf e h).mono htext, hes⟩

theorem ShowsAll.of_textOf {e : Expr} {shown : String} (h : textOf scene e = .ok shown)
    (htext : shown.toList <:+: text.toList) : ShowsAll scene text [e] :=
  .cons h htext (List.forall_mem_nil _)

theorem infix_append_left {s : String} (h : text.toList <:+: s.toList) (t : String) :
    text.toList <:+: (s ++ t).toList := by
  rw [String.toList_append]
  exact h.trans (List.prefix_append _ _).isInfix

theorem infix_append_right (s : String) {t : String} (h : text.toList <:+: t.toList) :
    text.toList <:+: (s ++ t).toList := by
  rw [String.toList_append]
  exact h.trans (List.suffix_append _ _).isInfix

theorem infix_between (s text t : String) : text.toList <:+: (s ++ text ++ t).toList :=
  infix_append_left (infix_append_right s List.infix_rfl) t

theorem infix_intercalate {sep : String} {texts : List String} (h : text ∈ texts) :
    text.toList <:+: (sep.intercalate texts).toList := by
  induction texts with
  | nil => exact absurd h List.not_mem_nil
  | cons first texts ih =>
    cases texts with
    | nil =>
      obtain rfl := List.mem_singleton.1 h
      simp only [String.intercalate_singleton, List.infix_rfl]
    | cons next texts =>
      rw [String.intercalate_cons_cons]
      rcases List.mem_cons.1 h with rfl | h
      · exact infix_append_left (infix_append_left List.infix_rfl _) _
      · exact infix_append_right _ (ih h)

/-! ## Lines of blocks without others in them -/

theorem statementLine_eq_ok_iff {tag : String} :
    statementLine place level id tag params = .ok line ↔
      ∃ template, statements.lookup tag = some template ∧ ∃ h : params.length = template.arity, ∃ texts,
        textsOf place.scene params = .ok texts ∧
          line = ⟨level, template.fill texts.1 (Template.length_texts texts.2 h), template.imports⟩ := by
  rw [statementLine, Except.mapError_eq_ok_iff]
  cases hlookup : statements.lookup tag with
  | none => simp
  | some template =>
    simp only [Option.some.injEq, exists_eq_left']
    split
    · next hlength =>
      simp only [Except.bind_eq_ok_iff, Except.pure_eq_ok_iff, hlength, exists_true_left]
      exact exists_congr fun texts => and_congr_right fun _ => eq_comm
    · next hlength => simp [wrongArity, hlength]

theorem exists_statementLine_iff {tag : String} :
    (∃ line, statementLine place level id tag params = .ok line) ↔
      (∃ template, statements.lookup tag = some template ∧ params.length = template.arity) ∧
        AllSupported place.scene params := by
  simp only [statementLine_eq_ok_iff, AllSupported, ← exists_textsOf_iff]
  constructor
  · rintro ⟨_, template, hlookup, hlength, texts, htexts, -⟩
    exact ⟨⟨template, hlookup, hlength⟩, texts, htexts⟩
  · rintro ⟨⟨template, hlookup, hlength⟩, texts, htexts⟩
    exact ⟨_, template, hlookup, hlength, texts, htexts, rfl⟩

theorem shows_statementLine {tag : String} (h : statementLine place level id tag params = .ok line) :
    ShowsAll place.scene line.text params := by
  obtain ⟨template, hlookup, hlength, texts, htexts, rfl⟩ := statementLine_eq_ok_iff.1 h
  exact .of_textsOf htexts fun shown => template.infix_fill (usesAll_of_lookup_statements hlookup) _

theorem exists_declareLine_iff {type : ValueType} {name : String} {value : Option Expr} :
    (∃ line, declareLine place level id type name value = .ok line) ↔
      AllSupported place.scene value.toList := by
  cases value with
  | none => exact iff_of_true ⟨_, rfl⟩ (by simp [AllSupported, Expr.partsOf])
  | some value =>
    rw [Option.toList_some, ← exists_paramText_iff id]
    exact Except.exists_bind_pure_eq_ok_iff

theorem shows_declareLine {type : ValueType} {name : String} {value : Option Expr}
    (h : declareLine place level id type name value = .ok line) :
    ShowsAll place.scene line.text (.literal .enum name :: value.toList) := by
  have hname : textOf place.scene (.literal .enum name) = .ok name := rfl
  cases value with
  | none =>
    cases h
    refine .of_textOf hname ?_
    exact infix_append_left (infix_append_left (infix_between ..) _) _
  | some value =>
    simp only [declareLine, Except.bind_eq_ok_iff, Except.pure_eq_ok_iff, paramText_eq_ok_iff] at h
    obtain ⟨shown, hshown, rfl⟩ := h
    refine ShowsAll.cons hname ?_ (.of_textOf hshown ?_)
    · exact infix_append_left (infix_append_left (infix_between ..) _) _
    · exact infix_between ..

theorem exists_assignLine_iff {target : String} {change : Change} :
    (∃ line, assignLine place level id target change = .ok line) ↔
      AllSupported place.scene change.params := by
  cases change with
  | increase | decrease => exact iff_of_true ⟨_, rfl⟩ (by simp [AllSupported, Change.params, Expr.partsOf])
  | set value =>
    rw [Change.params, ← exists_paramText_iff id]
    exact Except.exists_bind_pure_eq_ok_iff

theorem shows_assignLine {target : String} {change : Change}
    (h : assignLine place level id target change = .ok line) :
    ShowsAll place.scene line.text (.reference .variable target :: change.params) := by
  have htarget : textOf place.scene (.reference .variable target) = .ok target := rfl
  cases change with
  | set value =>
    simp only [assignLine, Except.bind_eq_ok_iff, Except.pure_eq_ok_iff, paramText_eq_ok_iff] at h
    obtain ⟨shown, hshown, _, rfl, rfl⟩ := h
    refine ShowsAll.cons htarget ?_ (.of_textOf hshown ?_)
    · exact infix_append_left (infix_append_left (infix_append_left List.infix_rfl _) _) _
    · exact infix_between ..
  | increase | decrease =>
    cases h
    exact ShowsAll.of_textOf htarget (infix_append_left List.infix_rfl _)

theorem exists_callLine_iff {function : String} {args : List Expr} :
    (∃ line, callLine place level id function args = .ok line) ↔ AllSupported place.scene args := by
  rw [← exists_paramTexts_iff id]
  exact Except.exists_bind_pure_eq_ok_iff

theorem shows_callLine {function : String} {args : List Expr}
    (h : callLine place level id function args = .ok line) :
    ShowsAll place.scene line.text (.literal .enum function :: args) := by
  have hfunction : textOf place.scene (.literal .enum function) = .ok function := rfl
  simp only [callLine, Except.bind_eq_ok_iff, Except.pure_eq_ok_iff, paramTexts_eq_ok_iff] at h
  obtain ⟨_, ⟨texts, htexts, rfl⟩, rfl⟩ := h
  refine ShowsAll.cons hfunction ?_ (.of_textsOf htexts fun shown hshown => ?_)
  · exact infix_append_left (infix_append_left (infix_between ..) _) _
  · exact infix_append_left (infix_append_right _ (infix_intercalate hshown)) _

/-! ## Lines that open loops -/

theorem exists_loopLine_iff (level number : Nat) (id : String) {head : Loop} :
    (∃ line, loopLine place level number id head = .ok line) ↔ AllSupported place.scene head.params := by
  cases head with
  | forever => exact iff_of_true ⟨_, rfl⟩ (by simp [AllSupported, Loop.params, Expr.partsOf])
  | times e | whileTrue e =>
    rw [Loop.params, ← exists_paramText_iff id]
    exact Except.exists_bind_pure_eq_ok_iff

theorem shows_loopLine {head : Loop} (h : loopLine place level number id head = .ok line) :
    ShowsAll place.scene line.text head.params := by
  cases head with
  | forever => exact List.forall_mem_nil _
  | times e =>
    simp only [loopLine, Except.bind_eq_ok_iff, Except.pure_eq_ok_iff, paramText_eq_ok_iff] at h
    obtain ⟨shown, hshown, _, rfl, rfl⟩ := h
    exact .of_textOf hshown <| infix_append_left (infix_append_left (infix_between ..) _) _
  | whileTrue e =>
    simp only [loopLine, Except.bind_eq_ok_iff, Except.pure_eq_ok_iff, paramText_eq_ok_iff] at h
    obtain ⟨shown, hshown, _, rfl, rfl⟩ := h
    exact .of_textOf hshown (infix_between ..)

end Source

/-! ## Failures of lines -/

/-- Whether a failure is of the code of a block: something in it does not fit the project, or a tag is not
known. -/
def Failure.IsAt (place : MethodScene) (id : String) : Failure → Prop
  | .logicTree found _ => found = ⟨place.screen, place.handler, id, none⟩
  | .block _ screen handler problem => screen = place.screen ∧ handler = place.handler ∧ problem = .tag id
  | _ => False

/-- Whether a failure is of the code of some block. -/
def Failure.IsWithin (place : MethodScene) (failure : Failure) : Prop := ∃ id, failure.IsAt place id

namespace Source

theorem CodeFault.isAt_failure (fault : CodeFault) :
    (fault.failure place.screen place.handler id).IsAt place id := by
  cases fault with
  | malformed problem => exact rfl
  | unknownTag tag => exact ⟨rfl, rfl, rfl⟩

theorem failsAt_paramText (e : Expr) : (paramText place id e).FailsWith (Failure.IsAt place id) :=
  .mapError fun fault _ => fault.isAt_failure

theorem failsAt_statementLine {tag : String} :
    (statementLine place level id tag params).FailsWith (Failure.IsAt place id) :=
  .mapError fun fault _ => fault.isAt_failure

theorem failsAt_declareLine {type : ValueType} {name : String} {value : Option Expr} :
    (declareLine place level id type name value).FailsWith (Failure.IsAt place id) := by
  cases value with
  | none => exact .bind (.ok _) fun _ _ => .pure _
  | some value => exact .bind (failsAt_paramText value) fun _ _ => .pure _

theorem failsAt_assignLine {target : String} {change : Change} :
    (assignLine place level id target change).FailsWith (Failure.IsAt place id) := by
  cases change with
  | set value => exact .bind (failsAt_paramText value) fun _ _ => .bind (.pure _) fun _ _ => .pure _
  | increase | decrease => exact .ok _

theorem failsAt_callLine {function : String} {args : List Expr} :
    (callLine place level id function args).FailsWith (Failure.IsAt place id) :=
  .bind (.map _ (.mapError fun fault _ => fault.isAt_failure)) fun _ _ => .pure _

theorem failsAt_loopLine {head : Loop} :
    (loopLine place level number id head).FailsWith (Failure.IsAt place id) := by
  cases head with
  | forever => exact .bind (.pure _) fun _ _ => .pure _
  | times e | whileTrue e =>
    exact .bind (failsAt_paramText e) fun _ _ => .bind (.pure _) fun _ _ => .pure _

/-- Where a block is at fault, so are the blocks that it is one of. -/
theorem isWithin_of_failsAt {α : Type} {x : Except Failure α} (h : x.FailsWith (Failure.IsAt place id)) :
    x.FailsWith (Failure.IsWithin place) :=
  h.mono fun _ hfailure => ⟨id, hfailure⟩

end Source

/-! ## What is in blocks -/

mutual

/-- Whether a block can be written, with the blocks in it. -/
def Block.HasCode (scene : Scene) : Block → Prop
  | .statement _ tag params =>
    (∃ template, statements.lookup tag = some template ∧ params.length = template.arity) ∧
      AllSupported scene params
  | .declare _ _ _ value => AllSupported scene value.toList
  | .assign _ _ change => AllSupported scene change.params
  | .call _ _ args => AllSupported scene args
  | .loop _ head body => AllSupported scene head.params ∧ AllHaveCode scene body
  | .ifThen _ condition body otherwise =>
    AllSupported scene [condition] ∧ AllHaveCode scene body ∧ otherwise.HasCode scene

/-- Whether further branches can be written, with the blocks in them. -/
def Otherwise.HasCode (scene : Scene) : Otherwise → Prop
  | .nothing => True
  | .elseDo body => AllHaveCode scene body
  | .elseIf condition body otherwise =>
    AllSupported scene [condition] ∧ AllHaveCode scene body ∧ otherwise.HasCode scene

/-- Whether blocks can be written one after the other. -/
def AllHaveCode (scene : Scene) : List Block → Prop
  | [] => True
  | block :: blocks => block.HasCode scene ∧ AllHaveCode scene blocks

end

mutual

/-- Whether lines are those of a block and of the blocks in it, with all parameters in the line of each.
What a local variable is declared with is its name and its first value. -/
def Block.ShownBy (scene : Scene) : Block → List Line → Prop
  | .statement _ _ params, lines => ∃ line, lines = [line] ∧ ShowsAll scene line.text params
  | .declare _ _ name value, lines =>
    ∃ line, lines = [line] ∧ ShowsAll scene line.text (.literal .enum name :: value.toList)
  | .assign _ target change, lines =>
    ∃ line, lines = [line] ∧ ShowsAll scene line.text (.reference .variable target :: change.params)
  | .call _ function args, lines =>
    ∃ line, lines = [line] ∧ ShowsAll scene line.text (.literal .enum function :: args)
  | .loop _ head body, lines =>
    ∃ line inner, lines = bracedBy line inner ∧ ShowsAll scene line.text head.params ∧
      AllShownBy scene body inner
  | .ifThen _ condition body otherwise, lines =>
    ∃ line inner others, lines = bracedBy line (inner ++ others) ∧
      ShowsAll scene line.text [condition] ∧ AllShownBy scene body inner ∧ otherwise.ShownBy scene others

/-- Whether lines are those of further branches and of the blocks in them. -/
def Otherwise.ShownBy (scene : Scene) : Otherwise → List Line → Prop
  | .nothing, lines => lines = []
  | .elseDo body, lines => ∃ line inner, lines = line :: inner ∧ AllShownBy scene body inner
  | .elseIf condition body otherwise, lines =>
    ∃ line inner others, lines = line :: (inner ++ others) ∧ ShowsAll scene line.text [condition] ∧
      AllShownBy scene body inner ∧ otherwise.ShownBy scene others

/-- Whether lines are those of blocks one after the other. -/
def AllShownBy (scene : Scene) : List Block → List Line → Prop
  | [], lines => lines = []
  | block :: blocks, lines =>
    ∃ first rest, lines = first ++ rest ∧ block.ShownBy scene first ∧ AllShownBy scene blocks rest

end

namespace Source

/-! ## Lines of blocks -/

mutual

/-- A block has lines exactly if it can be written with all in it. -/
theorem exists_blockLines_iff (level before : Nat) (block : Block) :
    (∃ lines, blockLines place level before block = .ok lines) ↔ block.HasCode place.scene := by
  match block with
  | .statement .. => rw [blockLines, Except.exists_bind_pure_eq_ok_iff, exists_statementLine_iff, Block.HasCode]
  | .declare .. => rw [blockLines, Except.exists_bind_pure_eq_ok_iff, exists_declareLine_iff, Block.HasCode]
  | .assign .. => rw [blockLines, Except.exists_bind_pure_eq_ok_iff, exists_assignLine_iff, Block.HasCode]
  | .call .. => rw [blockLines, Except.exists_bind_pure_eq_ok_iff, exists_callLine_iff, Block.HasCode]
  | .loop id head body =>
    rw [Block.HasCode, ← exists_loopLine_iff level (before + 1) id,
      ← exists_sequenceLines_iff (level + 1) (countedWith before head) body]
    exact Except.exists_bind_eq_ok_iff fun _ => Except.exists_bind_pure_eq_ok_iff
  | .ifThen id condition body otherwise =>
    rw [Block.HasCode, ← exists_paramText_iff id, ← exists_sequenceLines_iff (level + 1) before body,
      ← exists_otherwiseLines_iff id level (before + countedIn body) otherwise]
    exact Except.exists_bind_eq_ok_iff fun _ =>
      Except.exists_bind_eq_ok_iff fun _ => Except.exists_bind_pure_eq_ok_iff
  termination_by structural block

theorem exists_otherwiseLines_iff (id : String) (level before : Nat) (otherwise : Otherwise) :
    (∃ lines, otherwiseLines place id level before otherwise = .ok lines) ↔
      otherwise.HasCode place.scene := by
  match otherwise with
  | .nothing => exact iff_of_true ⟨_, rfl⟩ trivial
  | .elseDo body =>
    rw [otherwiseLines, Except.exists_bind_pure_eq_ok_iff, exists_sequenceLines_iff (level + 1) before body,
      Otherwise.HasCode]
  | .elseIf condition body otherwise =>
    rw [Otherwise.HasCode, ← exists_paramText_iff id,
      ← exists_sequenceLines_iff (level + 1) before body,
      ← exists_otherwiseLines_iff id level (before + countedIn body) otherwise]
    exact Except.exists_bind_eq_ok_iff fun _ =>
      Except.exists_bind_eq_ok_iff fun _ => Except.exists_bind_pure_eq_ok_iff
  termination_by structural otherwise

/-- **Blocks have lines exactly if all that is in them can be written.** -/
theorem exists_sequenceLines_iff (level before : Nat) (blocks : List Block) :
    (∃ lines, sequenceLines place level before blocks = .ok lines) ↔
      AllHaveCode place.scene blocks := by
  match blocks with
  | [] => exact iff_of_true ⟨_, rfl⟩ trivial
  | block :: blocks =>
    rw [AllHaveCode, ← exists_blockLines_iff level before block,
      ← exists_sequenceLines_iff level (before + block.counted) blocks]
    exact Except.exists_bind_eq_ok_iff fun _ => Except.exists_bind_pure_eq_ok_iff
  termination_by structural blocks

end

mutual

/-- The lines of a block show it. -/
theorem shownBy_blockLines (block : Block) {level before : Nat} {lines : List Line}
    (h : blockLines place level before block = .ok lines) : block.ShownBy place.scene lines := by
  match block with
  | .statement .. =>
    simp only [blockLines, Except.bind_eq_ok_iff, Except.pure_eq_ok_iff] at h
    obtain ⟨line, hline, rfl⟩ := h
    exact ⟨line, rfl, shows_statementLine hline⟩
  | .declare .. =>
    simp only [blockLines, Except.bind_eq_ok_iff, Except.pure_eq_ok_iff] at h
    obtain ⟨line, hline, rfl⟩ := h
    exact ⟨line, rfl, shows_declareLine hline⟩
  | .assign .. =>
    simp only [blockLines, Except.bind_eq_ok_iff, Except.pure_eq_ok_iff] at h
    obtain ⟨line, hline, rfl⟩ := h
    exact ⟨line, rfl, shows_assignLine hline⟩
  | .call .. =>
    simp only [blockLines, Except.bind_eq_ok_iff, Except.pure_eq_ok_iff] at h
    obtain ⟨line, hline, rfl⟩ := h
    exact ⟨line, rfl, shows_callLine hline⟩
  | .loop id head body =>
    simp only [blockLines, Except.bind_eq_ok_iff, Except.pure_eq_ok_iff] at h
    obtain ⟨line, hline, inner, hinner, rfl⟩ := h
    exact ⟨line, inner, rfl, shows_loopLine hline, shownBy_sequenceLines body hinner⟩
  | .ifThen id condition body otherwise =>
    simp only [blockLines, Except.bind_eq_ok_iff, Except.pure_eq_ok_iff, paramText_eq_ok_iff] at h
    obtain ⟨text, htext, inner, hinner, others, hothers, rfl⟩ := h
    exact ⟨_, inner, others, rfl, .of_textOf htext (infix_between ..), shownBy_sequenceLines body hinner,
      shownBy_otherwiseLines otherwise hothers⟩
  termination_by structural block

theorem shownBy_otherwiseLines (otherwise : Otherwise) {id : String} {level before : Nat}
    {lines : List Line} (h : otherwiseLines place id level before otherwise = .ok lines) :
    otherwise.ShownBy place.scene lines := by
  match otherwise with
  | .nothing =>
    cases h
    exact rfl
  | .elseDo body =>
    simp only [otherwiseLines, Except.bind_eq_ok_iff, Except.pure_eq_ok_iff] at h
    obtain ⟨inner, hinner, rfl⟩ := h
    exact ⟨_, inner, rfl, shownBy_sequenceLines body hinner⟩
  | .elseIf condition body otherwise =>
    simp only [otherwiseLines, Except.bind_eq_ok_iff, Except.pure_eq_ok_iff, paramText_eq_ok_iff] at h
    obtain ⟨text, htext, inner, hinner, others, hothers, rfl⟩ := h
    exact ⟨_, inner, others, rfl, .of_textOf htext (infix_between ..), shownBy_sequenceLines body hinner,
      shownBy_otherwiseLines otherwise hothers⟩
  termination_by structural otherwise

/-- **The lines of blocks leave out none of them, and no parameter of theirs.** -/
theorem shownBy_sequenceLines (blocks : List Block) {level before : Nat} {lines : List Line}
    (h : sequenceLines place level before blocks = .ok lines) : AllShownBy place.scene blocks lines := by
  match blocks with
  | [] =>
    cases h
    exact rfl
  | block :: blocks =>
    obtain ⟨first, rest, rfl, hfirst, hrest⟩ := sequenceLines_cons h
    exact ⟨first, rest, rfl, shownBy_blockLines block hfirst, shownBy_sequenceLines blocks hrest⟩
  termination_by structural blocks

end

mutual

theorem failsAt_blockLines (level before : Nat) (block : Block) :
    (blockLines place level before block).FailsWith (Failure.IsWithin place) := by
  match block with
  | .statement .. => exact .bind (isWithin_of_failsAt failsAt_statementLine) fun _ _ => .pure _
  | .declare .. => exact .bind (isWithin_of_failsAt failsAt_declareLine) fun _ _ => .pure _
  | .assign .. => exact .bind (isWithin_of_failsAt failsAt_assignLine) fun _ _ => .pure _
  | .call .. => exact .bind (isWithin_of_failsAt failsAt_callLine) fun _ _ => .pure _
  | .loop id head body =>
    exact .bind (isWithin_of_failsAt failsAt_loopLine) fun _ _ =>
      .bind (failsAt_sequenceLines _ _ body) fun _ _ => .pure _
  | .ifThen id condition body otherwise =>
    exact .bind (isWithin_of_failsAt (failsAt_paramText condition)) fun _ _ =>
      .bind (failsAt_sequenceLines _ _ body) fun _ _ =>
        .bind (failsAt_otherwiseLines id _ _ otherwise) fun _ _ => .pure _
  termination_by structural block

theorem failsAt_otherwiseLines (id : String) (level before : Nat) (otherwise : Otherwise) :
    (otherwiseLines place id level before otherwise).FailsWith (Failure.IsWithin place) := by
  match otherwise with
  | .nothing => exact .ok _
  | .elseDo body => exact .bind (failsAt_sequenceLines _ _ body) fun _ _ => .pure _
  | .elseIf condition body otherwise =>
    exact .bind (isWithin_of_failsAt (failsAt_paramText condition)) fun _ _ =>
      .bind (failsAt_sequenceLines _ _ body) fun _ _ =>
        .bind (failsAt_otherwiseLines id _ _ otherwise) fun _ _ => .pure _
  termination_by structural otherwise

/-- Blocks without lines fail at a block. -/
theorem failsAt_sequenceLines (level before : Nat) (blocks : List Block) :
    (sequenceLines place level before blocks).FailsWith (Failure.IsWithin place) := by
  match blocks with
  | [] => exact .ok _
  | block :: blocks =>
    exact .bind (failsAt_blockLines _ _ block) fun _ _ =>
      .bind (failsAt_sequenceLines _ _ blocks) fun _ _ => .pure _
  termination_by structural blocks

end

/-! ## The whole code -/

/-- **Code is complete.** A parameter has a text exactly if all parts of it can be written, and the text
holds that of each; blocks have lines exactly if all in them can be written, and the line of each block and
branch holds the texts of its parameters with all their parts. Where that is not so, a block is at fault. -/
theorem sequenceLines_complete (place : MethodScene) :
    (∀ id e, ((∃ text, paramText place id e = .ok text) ↔ ∀ part ∈ e.parts, Supported place.scene part) ∧
      (∀ text, paramText place id e = .ok text → ShowsParts place.scene text e) ∧
      (paramText place id e).FailsWith (Failure.IsAt place id)) ∧
    ∀ level before blocks,
      ((∃ lines, sequenceLines place level before blocks = .ok lines) ↔ AllHaveCode place.scene blocks) ∧
      (∀ lines, sequenceLines place level before blocks = .ok lines →
        AllShownBy place.scene blocks lines) ∧
      (sequenceLines place level before blocks).FailsWith (Failure.IsWithin place) := by
  constructor
  · intro id e
    refine ⟨?_, fun text htext => shows_textOf e (paramText_eq_ok_iff.1 htext), failsAt_paramText e⟩
    rw [exists_paramText_iff, allSupported_singleton]
  · intro level before blocks
    exact ⟨exists_sequenceLines_iff level before blocks, fun lines => shownBy_sequenceLines blocks,
      failsAt_sequenceLines level before blocks⟩

/-- A handler of a screen with one view, in a project with one image. -/
def clickPlace : MethodScene where
  scene := ⟨"main", ⟨"main", [⟨"photo", "ImageView", true⟩]⟩, ⟨[⟨.image, "logo", "logo.png"⟩]⟩⟩
  screen := "main"
  handler := "photo_onClick"

/-- A text with braces and a quote, inside of two calls. -/
def greeting : Expr :=
  .call "stringJoin" [.call "trim" [.literal .string "\x7b1\x7d\""], .reference .variable "name"]

/-- An image for each of some rounds if the greeting is short, and the greeting else. -/
def clickBlocks : List Block :=
  [.ifThen "1" (.call "<" [.call "stringLength" [greeting], .literal .number "9"])
    [.loop "2" (.times (.reference .argument "rounds"))
      [.statement "3" "setImage" [.reference .view "photo", .literal .resource "logo"]]]
    (.elseDo [.declare "4" .string "shown" (some greeting)])]

/-- The text of the greeting. -/
def greetingText : String := "\"\x7b1\x7d\\\"\".trim().concat(name)"

theorem sequenceLines_complete_clickBlocks :
    paramText clickPlace "1" greeting = .ok greetingText ∧
      ShowsParts clickPlace.scene greetingText greeting ∧
      ∃ lines, sequenceLines clickPlace 2 0 clickBlocks = .ok lines ∧
        lines.map (·.text) =
          ["if ((" ++ greetingText ++ ".length() < 9)) \x7b",
            "for (int _repeat1 = 0; _repeat1 < (int) (_rounds); _repeat1++) \x7b",
            "photo.setImageResource(R.drawable.logo);", "\x7d", "\x7d else \x7b",
            "String shown = " ++ greetingText ++ ";", "\x7d"] ∧
        AllShownBy clickPlace.scene clickBlocks lines := by
  obtain ⟨hparams, hblocks⟩ := sequenceLines_complete clickPlace
  have htext : paramText clickPlace "1" greeting = .ok greetingText := rfl
  exact ⟨htext, (hparams "1" greeting).2.1 _ htext, _, rfl, by decide +kernel,
    (hblocks 2 0 clickBlocks).2.1 _ rfl⟩

end Source

end BlockApp
