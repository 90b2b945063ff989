import BlockApp.Proofs.Nesting.Step
import BlockApp.Proofs.Tables.Names
import BlockApp.Source.Method

/-!
# Blocks by tables

The code of blocks made with tables. A block is taken as it is written, by its tag and parameters: its
format is looked up and filled with the texts of the parameters. Nothing about the tag is known before,
so an entry, a parameter or a slot may be missing. For the blocks that are allowed none is, and the code
is the same.

* `textOf`, `statementLine`, `declareLine`, `openingLine`, `blockLines` — code by tables
* `textOf_eq`, `sequenceLines_eq` — it is the code that is made without them
* `Building.arity_of_read`, `Building.arity_of_run` — the records that are taken have as many parameters
  as their formats
-/

namespace BlockApp.Tables

open Source

variable {ε α : Type}

/-! ## Expressions -/

mutual

/-- The text of an expression. -/
def textOf (scene : Scene) : Expr → Except (Fault CodeFault) String
  | .literal type value => reported (literalText scene type value)
  | .reference kind name => reported (referenceText scene kind name)
  | .call tag args =>
    match calls.lookup tag with
    | none => .error (.reported (.unknownTag tag))
    | some format =>
      if args.length = format.arity then do format.fill (← textsOf scene args) []
      else .error (.reported (.malformed (.parameterCount tag format.arity args.length)))

/-- The texts of expressions. -/
def textsOf (scene : Scene) : List Expr → Except (Fault CodeFault) (List String)
  | [] => .ok []
  | e :: es => do return (← textOf scene e) :: (← textsOf scene es)

end

/-- The text of a format with parameters. -/
def filled (scene : Scene) (format : Format) (tag : String) (params : List Expr)
    (names : List (String × String)) : Except (Fault CodeFault) String :=
  if params.length = format.arity then do format.fill (← textsOf scene params) names
  else .error (.reported (.malformed (.parameterCount tag format.arity params.length)))

/-- A parameter by its number. -/
def paramAt (params : List Expr) (index : Nat) : Except (Fault ε) Expr :=
  match params[index]? with
  | some e => .ok e
  | none => .error (.gap (.param index))

/-- The value of a parameter that is a literal, by its number. -/
def valueAt (params : List Expr) (index : Nat) : Except (Fault ε) String := do
  match ← paramAt params index with
  | .literal _ value => return value
  | .reference .. | .call .. => .error (.gap (.param index))

/-! ## Lines -/

/-- Something of a block, with its failures as those of a screen. -/
def inBlock (place : MethodScene) (id : String) (x : Except (Fault CodeFault) α) :
    Except (Fault Failure) α :=
  x.mapError (Fault.map (CodeFault.failure place.screen place.handler id))

/-- The text of a call of a more block. -/
def callText (scene : Scene) (params : List Expr) : Except (Fault CodeFault) String := do
  let function ← valueAt params 0
  let texts := ", ".intercalate (← textsOf scene (params.drop 1))
  return s!"_{function}({texts});"

/-- The line of a statement, of an assignment or of a call of a more block, as it is written. -/
def statementLine (place : MethodScene) (level : Nat) (id tag : String) (params : List Expr) :
    Except (Fault Failure) Line :=
  inBlock place id <|
    if tag = Block.callTag then do return .plain level (← callText place.scene params)
    else
      match statements.lookup tag with
      | none => .error (.reported (.unknownTag tag))
      | some format => do return ⟨level, ← filled place.scene format tag params [], format.imports⟩

/-- The line of a block that holds no others and declares nothing. -/
def leafLine (place : MethodScene) (level : Nat) (block : Block) : Except (Fault Failure) Line :=
  statementLine place level block.id block.tag block.params

/-- The line of a local variable's declaration, as it is written. -/
def declareLine (place : MethodScene) (level : Nat) (id target : String) (params : List Expr) :
    Except (Fault Failure) Line :=
  inBlock place id do
    let known ← entry values (← valueAt params 0)
    let text ←
      if params.length = 3 then do textOf place.scene (← paramAt params 2) else pure known.initial
    return ⟨level, s!"{known.javaType} {target} = {text};", known.imports⟩

/-- The line that opens a branch of the block `id`. -/
def openingLine (place : MethodScene) (level : Nat) (id tag : String) (params : List Expr)
    (counter : String) : Except (Fault Failure) Line :=
  inBlock place id do
    let format ← entry openers tag
    return .plain level (← filled place.scene format tag params [("counter", counter)])

/-- The counter of a loop, empty if it counts nothing. -/
def counterOf (before : Nat) : Loop → String
  | .times _ => counterName (before + 1)
  | .forever | .whileTrue _ => ""

mutual

/-- The lines of a block. -/
def blockLines (place : MethodScene) (level before : Nat) : Block → Except (Fault Failure) (List Line)
  | .statement id tag params => do return [← leafLine place level (.statement id tag params)]
  | .declare id type name value => do
    return [← declareLine place level id name (Block.params (.declare id type name value))]
  | .assign id target change => do return [← leafLine place level (.assign id target change)]
  | .call id function args => do return [← leafLine place level (.call id function args)]
  | .loop id head body => do
    let opening ← openingLine place level id head.tag head.params (counterOf before head)
    return bracedBy opening (← sequenceLines place (level + 1) (countedWith before head) body)
  | .ifThen id condition body otherwise => do
    let opening ← openingLine place level id "if" [condition] ""
    let inner ← sequenceLines place (level + 1) before body
    let others ← otherwiseLines place id level (before + countedIn body) otherwise
    return bracedBy opening (inner ++ others)

/-- The lines of the branches after the first one of the block `id`. -/
def otherwiseLines (place : MethodScene) (id : String) (level before : Nat) :
    Otherwise → Except (Fault Failure) (List Line)
  | .nothing => .ok []
  | .elseDo body => do
    let opening ← openingLine place level id "else" [] ""
    return opening :: (← sequenceLines place (level + 1) before body)
  | .elseIf condition body otherwise => do
    let opening ← openingLine place level id "elseIf" [condition] ""
    let inner ← sequenceLines place (level + 1) before body
    let others ← otherwiseLines place id level (before + countedIn body) otherwise
    return opening :: inner ++ others

/-- The lines of blocks one after the other. -/
def sequenceLines (place : MethodScene) (level before : Nat) :
    List Block → Except (Fault Failure) (List Line)
  | [] => .ok []
  | block :: blocks => do
    let first ← blockLines place level before block
    return first ++ (← sequenceLines place level (before + block.counted) blocks)

end

/-! ## Expressions have no gap -/

variable {scene : Scene} {place : MethodScene} {level before : Nat} {id tag : String}

mutual

/-- **The text of an expression is the same by tables.** -/
theorem textOf_eq (scene : Scene) (e : Expr) : textOf scene e = reported (Source.textOf scene e) := by
  match e with
  | .literal .. | .reference .. => rfl
  | .call tag args =>
    rw [textOf, Source.textOf, lookup_calls]
    cases Source.calls.lookup tag with
    | none => rfl
    | some template =>
      by_cases h : args.length = template.arity
      · simp only [Option.map_some, Format.ofTemplate, if_pos h, dif_pos h, textsOf_eq scene args]
        cases Source.textsOf scene args with
        | error fault => rfl
        | ok texts => exact Format.fill_ofTemplate template _ (texts.2.trans h) []
      · simp only [Option.map_some, Format.ofTemplate, if_neg h, dif_neg h]
        rfl
  termination_by structural e

theorem textsOf_eq (scene : Scene) (es : List Expr) :
    textsOf scene es = reported ((·.1) <$> Source.textsOf scene es) := by
  match es with
  | [] => rfl
  | e :: es =>
    rw [textsOf, Source.textsOf, textOf_eq scene e, textsOf_eq scene es]
    cases Source.textOf scene e with
    | error fault => rfl
    | ok text => cases Source.textsOf scene es <;> rfl
  termination_by structural es

end

/-- What a format is filled with, if its parameters have texts. -/
theorem filled_eq (format : Format) {params : List Expr} (h : params.length = format.arity)
    (names : List (String × String)) :
    filled scene format tag params names =
      reported (Source.textsOf scene params) >>= fun texts => format.fill texts.1 names := by
  rw [filled, if_pos h, textsOf_eq]
  cases Source.textsOf scene params <;> rfl

/-- A format for one parameter that is filled whatever the text is. -/
theorem filled_one {format : Format} {names : List (String × String)} {f : String → String}
    (harity : format.arity = 1)
    (hfill : ∀ text, format.fill (ε := CodeFault) [text] names = .ok (f text)) (e : Expr) :
    filled scene format tag [e] names = reported (f <$> Source.textOf scene e) := by
  simp only [filled, List.length_singleton, harity, if_true, textsOf, textOf_eq]
  cases Source.textOf scene e with
  | error fault => rfl
  | ok text => exact hfill text

/-! ## Lines have no gap -/

/-- The line of a block whose format is filled without a gap. -/
theorem statementLine_of_filled {params : List Expr} {format : Format} {text : Except CodeFault String}
    (hcall : tag ≠ Block.callTag) (hlookup : statements.lookup tag = some format)
    (hfilled : filled place.scene format tag params [] = reported text) :
    statementLine place level id tag params =
      reported (text.mapError (CodeFault.failure place.screen place.handler id) >>= fun text =>
        .ok ⟨level, text, format.imports⟩) := by
  rw [statementLine, if_neg hcall, hlookup]
  simp only [hfilled]
  cases text <;> rfl

/-- A statement has a tag without a role of its own. -/
theorem leafLine_statement {params : List Expr} (h : BlockTag.of tag = .statement) :
    leafLine place level (.statement id tag params) =
      reported (Source.statementLine place level id tag params) := by
  have hcall : tag ≠ Block.callTag := by
    rintro rfl
    cases h
  have hlookup := lookup_statements_of_statement h
  rw [Source.statementLine, leafLine]
  simp only [Block.id, Block.tag, Block.params]
  cases hfound : Source.statements.lookup tag with
  | none =>
    rw [hfound] at hlookup
    rw [statementLine, if_neg hcall, hlookup]
    rfl
  | some template =>
    rw [hfound] at hlookup
    by_cases hlength : params.length = template.arity
    · have hfilled : filled place.scene (.ofTemplate template) tag params [] =
          reported (Source.textsOf place.scene params >>= fun texts =>
            .ok (template.fill texts.1 (texts.2.trans hlength))) := by
        rw [filled_eq (.ofTemplate template) hlength]
        cases Source.textsOf place.scene params with
        | error fault => rfl
        | ok texts => exact Format.fill_ofTemplate template _ _ []
      rw [statementLine_of_filled hcall hlookup hfilled]
      simp only [dif_pos hlength]
      cases Source.textsOf place.scene params <;> rfl
    · have hfilled : filled place.scene (.ofTemplate template) tag params [] =
          reported (wrongArity tag template params) := if_neg hlength
      rw [statementLine_of_filled hcall hlookup hfilled]
      simp only [dif_neg hlength]
      rfl

/-- An assignment is filled in as a statement is. -/
theorem leafLine_assign (target : String) (change : Change) :
    leafLine place level (.assign id target change) =
      reported (Source.assignLine place level id target change) := by
  cases change with
  | set value =>
    have hfilled : filled place.scene ⟨2, [.numbered 0, " = ", .numbered 1, ";"], []⟩ "setVar"
        [.reference .variable target, value] [] =
          reported ((fun text => s!"{target} = {text};") <$> Source.textOf place.scene value) := by
      simp only [filled, textsOf, textOf_eq]
      cases Source.textOf place.scene value with
      | error fault => rfl
      | ok text =>
        simp [Source.textOf, referenceText, Format.fill, Mark.fill, toString, String.append_assoc]
    refine (statementLine_of_filled (by decide) rfl hfilled).trans ?_
    rw [assignLine, paramText]
    cases Source.textOf place.scene value <;> rfl
  | increase =>
    have hfilled : filled place.scene ⟨1, [.numbered 0, "++;"], []⟩ "increaseInt"
        [.reference .variable target] [] = reported (.ok s!"{target}++;") := by
      simp [filled, textsOf, textOf, referenceText, Format.fill, Mark.fill, toString]
    exact statementLine_of_filled (by decide) rfl hfilled
  | decrease =>
    have hfilled : filled place.scene ⟨1, [.numbered 0, "--;"], []⟩ "decreaseInt"
        [.reference .variable target] [] = reported (.ok s!"{target}--;") := by
      simp [filled, textsOf, textOf, referenceText, Format.fill, Mark.fill, toString]
    exact statementLine_of_filled (by decide) rfl hfilled

theorem leafLine_call (function : String) (args : List Expr) :
    leafLine place level (.call id function args) =
      reported (Source.callLine place level id function args) := by
  rw [leafLine, callLine, paramTexts, statementLine]
  simp only [Block.id, Block.tag, Block.params, if_true, callText, valueAt, paramAt, List.drop_one,
    List.tail_cons, textsOf_eq]
  cases Source.textsOf place.scene args <;> rfl

theorem declareLine_eq (type : ValueType) (name : String) (value : Option Expr) :
    declareLine place level id name (Block.params (.declare id type name value)) =
      reported (Source.declareLine place level id type name value) := by
  have hentry := entry_of_lookup (ε := CodeFault) (lookup_values type)
  rw [declareLine, show valueAt (Block.params (.declare id type name value)) 0 = .ok type.name from rfl,
    ok_bind, hentry, ok_bind]
  cases value with
  | none => rfl
  | some value =>
    simp only [Source.declareLine, paramText]
    show inBlock place id (textOf place.scene value >>= _) = _
    rw [textOf_eq]
    cases Source.textOf place.scene value <;> rfl

/-- The line that opens a branch is filled in as its format says. -/
theorem openingLine_of_filled {params : List Expr} {format : Format} {counter : String}
    {text : Except CodeFault String} (hlookup : openers.lookup tag = some format)
    (hfilled : filled place.scene format tag params [("counter", counter)] = reported text) :
    openingLine place level id tag params counter =
      reported (text.mapError (CodeFault.failure place.screen place.handler id) >>= fun text =>
        .ok (.plain level text)) := by
  rw [openingLine, entry_of_lookup hlookup, ok_bind, hfilled]
  cases text <;> rfl

/-- A branch with one parameter is opened if that has a text. -/
theorem openingLine_one {format : Format} {counter : String} {f : String → String}
    (hlookup : openers.lookup tag = some format) (harity : format.arity = 1)
    (hfill : ∀ text, format.fill (ε := CodeFault) [text] [("counter", counter)] = .ok (f text))
    (e : Expr) :
    openingLine place level id tag [e] counter =
      reported (paramText place id e >>= fun text => .ok (.plain level (f text))) := by
  rw [openingLine_of_filled hlookup (filled_one harity hfill e), paramText]
  cases Source.textOf place.scene e <;> rfl

theorem fill_between (opening closing text : String) (names : List (String × String)) :
    Format.fill (ε := CodeFault) ⟨1, [.text opening, .numbered 0, .text closing], []⟩ [text] names =
      .ok (opening ++ text ++ closing) := by
  simp [Format.fill, Mark.fill, String.append_assoc]

theorem openingLine_if (condition : Expr) :
    openingLine place level id "if" [condition] "" =
      reported (paramText place id condition >>= fun text =>
        .ok (.plain level s!"if ({text}) \x7b")) :=
  openingLine_one rfl rfl (fill_between "if (" ") \x7b" · _) condition

theorem openingLine_elseIf (condition : Expr) :
    openingLine place level id "elseIf" [condition] "" =
      reported (paramText place id condition >>= fun text =>
        .ok (.plain level s!"\x7d else if ({text}) \x7b")) :=
  openingLine_one rfl rfl (fill_between "\x7d else if (" ") \x7b" · _) condition

theorem openingLine_else :
    openingLine place level id "else" [] "" = .ok (.plain level "\x7d else \x7b") := rfl

theorem fill_counted (counter limit : String) :
    Format.fill (ε := CodeFault) ⟨1, ["for (int ", .named "counter", " = 0; ", .named "counter",
      " < (int) (", .numbered 0, "); ", .named "counter", "++) \x7b"], []⟩ [limit]
      [("counter", counter)] =
        .ok s!"for (int {counter} = 0; {counter} < (int) ({limit}); {counter}++) \x7b" := by
  have hcounter : entry (ε := CodeFault) [("counter", counter)] "counter" = .ok counter := rfl
  simp [Format.fill, Mark.fill, hcounter, toString, String.append_assoc]

theorem openingLine_loop (head : Loop) :
    openingLine place level id head.tag head.params (counterOf before head) =
      reported (loopLine place level (before + 1) id head) := by
  cases head with
  | forever => rfl
  | times count =>
    refine (openingLine_one rfl rfl (fill_counted (counterName (before + 1))) count).trans ?_
    rw [loopLine, paramText]
    cases Source.textOf place.scene count <;> rfl
  | whileTrue condition =>
    refine (openingLine_one rfl rfl (fill_between "while (" ") \x7b" · _) condition).trans ?_
    rw [loopLine, paramText]
    cases Source.textOf place.scene condition <;> rfl

/-! ## Blocks have no gap -/

variable {around : Surroundings} {seen : String → Prop}

mutual

/-- **The lines of a block are the same by tables** if the block is allowed. -/
theorem blockLines_eq (place : MethodScene) (level before : Nat) (block : Block)
    {seen : String → Prop} (h : block.Valid around seen) :
    blockLines place level before block = reported (Source.blockLines place level before block) := by
  match block with
  | .statement id tag params =>
    rw [blockLines, Source.blockLines, leafLine_statement h.1, reported_bind]
    rfl
  | .declare id type name value =>
    rw [blockLines, Source.blockLines, declareLine_eq, reported_bind]
    rfl
  | .assign id target change =>
    rw [blockLines, Source.blockLines, leafLine_assign, reported_bind]
    rfl
  | .call id function args =>
    rw [blockLines, Source.blockLines, leafLine_call, reported_bind]
    rfl
  | .loop id head body =>
    rw [blockLines, Source.blockLines, openingLine_loop,
      sequenceLines_eq place (level + 1) (countedWith before head) body h.2]
    simp only [reported_bind, reported_pure]
  | .ifThen id condition body otherwise =>
    rw [blockLines, Source.blockLines, openingLine_if,
      sequenceLines_eq place (level + 1) before body h.2.1,
      otherwiseLines_eq place id level (before + countedIn body) otherwise h.2.2]
    simp only [reported_bind, reported_pure, bind_assoc, reported_ok, ok_bind]
  termination_by structural block

theorem otherwiseLines_eq (place : MethodScene) (id : String) (level before : Nat)
    (otherwise : Otherwise) {seen : String → Prop} (h : otherwise.Valid around seen) :
    otherwiseLines place id level before otherwise =
      reported (Source.otherwiseLines place id level before otherwise) := by
  match otherwise with
  | .nothing => rfl
  | .elseDo body =>
    rw [otherwiseLines, Source.otherwiseLines, openingLine_else,
      sequenceLines_eq place (level + 1) before body h]
    simp only [reported_bind, reported_pure, ok_bind]
  | .elseIf condition body otherwise =>
    rw [otherwiseLines, Source.otherwiseLines, openingLine_elseIf,
      sequenceLines_eq place (level + 1) before body h.2.1,
      otherwiseLines_eq place id level (before + countedIn body) otherwise h.2.2]
    simp only [reported_bind, reported_pure, bind_assoc, reported_ok, ok_bind]
  termination_by structural otherwise

theorem sequenceLines_eq (place : MethodScene) (level before : Nat) (blocks : List Block)
    {seen : String → Prop} (h : ValidAll around seen blocks) :
    sequenceLines place level before blocks =
      reported (Source.sequenceLines place level before blocks) := by
  match blocks with
  | [] => rfl
  | block :: blocks =>
    rw [sequenceLines, Source.sequenceLines, blockLines_eq place level before block h.1,
      sequenceLines_eq place level (before + block.counted) blocks h.2]
    simp only [reported_bind, reported_pure]
  termination_by structural blocks

end

/-- A call without parameters is not allowed, and there is no function to call. -/
example : leafLine place level (.statement id Block.callTag []) = .error (.gap (.param 0)) := rfl

end BlockApp.Tables

namespace BlockApp.Building

open Tables

/-- **A record that is taken has as many parameters as its format**, if it opens a branch or assigns a
variable. -/
theorem arity_of_read {around : Surroundings} {building building' : Building} {record : BlockRecord}
    (h : building.read around record = .ok building') {format : Format}
    (hformat : counted.lookup record.tag = some format) : record.params.length = format.arity := by
  obtain ⟨-, -, -, nest, hplaced, -⟩ := read_eq_ok_iff.1 h
  cases hplaced with
  | leaf block isLeaf formed hid htag hparams =>
    rw [← htag] at hformat
    rw [← hparams]
    cases block with
    | statement id tag params =>
      rw [Block.tag, lookup_eq_none_of_statement (by decide) formed] at hformat
      cases hformat
    | assign id target change =>
      cases change <;>
        cases hformat <;> rfl
    | declare | call => cases hformat
    | loop | ifThen => cases isLeaf
  | loop head htag hparams =>
    rw [← htag] at hformat
    rw [← hparams]
    cases head <;> cases hformat <;> rfl
  | ifThen condition htag hparams =>
    rw [← htag] at hformat
    rw [← hparams]
    cases hformat
    rfl
  | branch last head hlast isOpen htag hparams =>
    rw [← htag] at hformat
    rw [← hparams]
    cases head <;> cases hformat <;> rfl

/-- So has each record of a run. -/
theorem arity_of_run {screen key : String} {around : Surroundings} {building building' : Building}
    {records : List BlockRecord}
    (h : records.foldlM (Handler.readRecord screen key around) building = .ok building')
    {record : BlockRecord} (hrecord : record ∈ records) {format : Format}
    (hformat : counted.lookup record.tag = some format) : record.params.length = format.arity := by
  obtain ⟨before, rest, rfl⟩ := List.append_of_mem hrecord
  obtain ⟨middle, -, hrest⟩ := Except.foldlM_append_eq_ok_iff.1 h
  simp only [List.foldlM_cons, Except.bind_eq_ok_iff, Handler.readRecord, Except.mapError_eq_ok_iff]
    at hrest
  obtain ⟨_, hread, -⟩ := hrest
  exact arity_of_read hread hformat

end BlockApp.Building
