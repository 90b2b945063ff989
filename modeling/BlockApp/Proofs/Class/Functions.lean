import BlockApp.Proofs.Class.Parts
import BlockApp.Proofs.Class.References
import BlockApp.Proofs.Logic.Keys
import BlockApp.Proofs.Logic.WellFormed

/-!
# Functions of a class

A more block is declared, perhaps more than once, may have a group of blocks, and is called from blocks.
Calls are checked against its first declaration when they are read, its blocks are told what that
declaration says, and a declaration without blocks gets an empty method. So what is called is there.

* `Row.Calls` — a row calls a declared more block with as many parameters as it takes
* `exists_calls_of_rowsOf` — so does every call in blocks that are allowed, at whatever depth
* `Source.exists_line_of_methodLines` — every row has its line in the method
* `ActivityClass.exists_functionLines` — every declared more block has a method
* `ActivityClass.functions_defined` — every call of a class has a method to call
-/

namespace BlockApp

open Source

/-! ## Calls -/

/-- Whether a row is a call of a more block, as its first declaration says, with parameters for all that
it takes. -/
def Row.Calls (declarations : Declarations) (row : Row) (declared : MoreBlock) (args : List Expr) :
    Prop :=
  row.params = .literal .enum declared.name :: args ∧
    declarations.moreBlock? declared.name = some declared ∧ args.length = declared.parameters.length

section

variable {around : Surroundings} {row : Row}

/-- A call that is allowed has a declaration for it. -/
theorem exists_calls_of_formed {depth : Nat} {block : Block} (h : block.Formed around.declarations)
    (htag : (block.row depth).tag = Block.callTag) :
    ∃ declared args, (block.row depth).Calls around.declarations declared args := by
  cases block with
  | statement id tag params =>
    have hrole : BlockTag.of Block.callTag = .statement := htag ▸ h
    exact absurd hrole (by decide)
  | declare => simp [Block.row, Block.tag, Block.declareTag, Block.callTag] at htag
  | assign id target change =>
    cases change <;> simp [Block.row, Block.tag, Change.tag, Block.callTag] at htag
  | call id function args =>
    obtain ⟨declared, hdeclared, hlength⟩ := h
    obtain rfl : declared.name = function := by simpa using List.find?_some hdeclared
    exact ⟨declared, args, rfl, hdeclared, hlength⟩
  | loop id head body => cases head <;> simp [Block.row, Block.tag, Loop.tag, Block.callTag] at htag
  | ifThen => simp [Block.row, Block.tag, Block.callTag] at htag

/-- Calls are of declared more blocks, at whatever depth. -/
theorem exists_calls_of_rowsOf (depth : Nat) (blocks : List Block) {seen : String → Prop}
    (h : ValidAll around seen blocks) (hrow : row ∈ rowsOf depth blocks)
    (htag : row.tag = Block.callTag) :
    ∃ declared args, row.Calls around.declarations declared args := by
  obtain ⟨seen, hallowed⟩ := allowed_of_mem_rowsOf depth blocks h hrow
  cases hallowed with
  | block depth hformed _ => exact exists_calls_of_formed hformed htag
  | branch depth hbranch _ =>
    have hcall : Block.callTag = "else" ∨ Block.callTag = "elseIf" := htag ▸ hbranch
    exact absurd hcall (by decide)

end

/-! ## Lines of calls -/

namespace Source

variable {scene : Scene} {row : Row}

/-- Every row of a handler has its line in the method. -/
theorem exists_line_of_methodLines {around : Surroundings} {h : Handler} {screen : String}
    {lines : List Line} (hvalid : ValidAll around (fun _ => False) h.blocks)
    (hlines : methodLines scene screen h = .ok lines) (hrow : row ∈ rowsOf 0 h.blocks) :
    ∃ line ∈ lines, ∃ number, line.level = 2 + row.depth ∧
      codeOf scene number row.tag row.params = .ok line.text := by
  obtain ⟨coded, hrows, hcoded, rfl⟩ := exists_coded_of_methodLines hvalid hlines
  rw [← hrows] at hrow
  obtain ⟨⟨_, line⟩, hmem, rfl⟩ := List.mem_map.1 hrow
  obtain ⟨hlevel, number, hcode⟩ := hcoded.of_mem hmem
  have hline : line ∈ withBraces [] coded := mem_withBraces hmem
  exact ⟨line, by simp [bracedBy, hline], number, hlevel, hcode⟩

/-- The text of a call. -/
def callText (function : String) (texts : List String) : String :=
  let all := ", ".intercalate texts
  s!"_{function}({all});"

theorem codeOf_call {number : Nat} {function text : String} {args : List Expr}
    (h : codeOf scene number Block.callTag (.literal .enum function :: args) = .ok text) :
    ∃ texts, textsOf scene args = .ok texts ∧ text = callText function texts.1 := by
  have hform := codeForm_of_codeOf h
  have hrole : BlockTag.of Block.callTag = .call := by decide
  rw [hrole] at hform
  cases hform with
  | @call _ _ texts htexts => exact ⟨texts, htexts, rfl⟩

/-- The method of a more block, with lines in it. -/
def functionLines (function : String) (arguments : List Argument) (body : List Line) : List Line :=
  let parameters := ", ".intercalate (arguments.map parameterText)
  bracedBy ⟨1, s!"public void _{function}({parameters}) \x7b", parameterImports arguments⟩ body

theorem methodLines_moreBlock {h : Handler} {screen function : String} {lines : List Line}
    (hbinding : h.binding = .moreBlock function) (hlines : methodLines scene screen h = .ok lines) :
    ∃ body, sequenceLines ⟨scene, screen, h.key⟩ 2 0 h.blocks = .ok body ∧
      lines = functionLines function h.arguments body := by
  simp only [methodLines, Except.bind_eq_ok_iff, Except.pure_eq_ok_iff] at hlines
  obtain ⟨body, hbody, rfl⟩ := hlines
  have hname : "public void " ++ ("_" ++ function) = "public void _" ++ function := by
    rw [← String.append_assoc]
    rfl
  refine ⟨body, hbody, ?_⟩
  simp only [annotationLines, superLines, signatureLine, functionLines, hbinding, Binding.methodName]
  exact congrArg (fun text => bracedBy ⟨1, text ++ "(" ++ _ ++ ") \x7b", _⟩ body) hname

end Source

/-! ## Methods of more blocks -/

namespace ActivityClass

variable {c : ActivityClass} {parts : Parts} {logic : LogicSection} {screen : String}
  {declared : MoreBlock}

theorem exists_moreBlock?_of_mem {declarations : Declarations}
    (h : declared ∈ declarations.moreBlocks) :
    ∃ first, declarations.moreBlock? declared.name = some first := by
  cases hfound : declarations.moreBlock? declared.name with
  | some first => exact ⟨first, rfl⟩
  | none => exact absurd (List.find?_eq_none.1 hfound declared h) (by simp)

/-- The text of a class ends with its lines. -/
theorem exists_head_of_source {lines : List Line} {indent shown : String}
    (hsource : c.source indent = .ok shown) (hlines : c.lines = .ok lines) :
    ∃ head, shown = joinLines (head ++ lines.map (·.shown indent)) := by
  rw [source, hlines] at hsource
  exact ⟨_, (Except.ok.inj hsource).symm⟩

/-- What the method of a more block has in it: the lines of the blocks in its group, none if it has no
group. -/
def HasBody (c : ActivityClass) (handlers : List (String × List BlockRecord)) (name : String)
    (body : List Line) : Prop :=
  match handlers.lookup (Binding.moreBlockKey name) with
  | some records => ∃ handler ∈ c.logic.handlers, handler.key = Binding.moreBlockKey name ∧
      handler.binding = .moreBlock name ∧ rowsOf 0 handler.blocks = records.map (·.row) ∧
      sequenceLines ⟨c.scene, c.logic.screen, handler.key⟩ 2 0 handler.blocks = .ok body
  | none => body = []

theorem key_of_ofScreen (hlogic : LogicTree.ofScreen logic screen = .ok c.logic) {handler : Handler}
    (hhandler : handler ∈ c.logic.handlers) :
    Binding.ofKey? handler.key = some handler.binding ∧
      ∃ records, (handler.key, records) ∈ logic.handlers screen := by
  obtain ⟨used, key, records, hmem, hrecords⟩ := LogicTree.exists_records_of_ofScreen hlogic hhandler
  obtain ⟨rfl, hkey, -⟩ := Handler.ofRecords_eq_ok_iff.1 hrecords
  exact ⟨hkey, records, hmem⟩

/-- The method of a handler for a more block is among the lines of the class. -/
theorem exists_functionLines_of_handler {handler : Handler} (hparts : c.HasParts parts)
    (hhandler : handler ∈ c.orderedHandlers ++ c.missingHandlers)
    (hbinding : handler.binding = .moreBlock declared.name)
    (harguments : handler.arguments = declared.arguments) :
    ∃ body, functionLines declared.name declared.arguments body <:+: parts.lines c ∧
      sequenceLines ⟨c.scene, c.logic.screen, handler.key⟩ 2 0 handler.blocks = .ok body := by
  obtain ⟨lines, hlines, hmem⟩ := hparts.exists_methodLines_of_mem hhandler
  obtain ⟨body, hbody, rfl⟩ := methodLines_moreBlock hbinding hlines
  rw [harguments] at hmem
  exact ⟨body, Parts.infix_of_mem_methods hmem, hbody⟩

/-- A more block without a group has a handler without blocks. -/
theorem mem_missingHandlers (hlogic : LogicTree.ofScreen logic screen = .ok c.logic)
    (hdeclared : c.logic.declarations.moreBlock? declared.name = some declared)
    (hlookup : (logic.handlers screen).lookup (Binding.moreBlockKey declared.name) = none) :
    (⟨Binding.moreBlockKey declared.name, .moreBlock declared.name, declared.arguments, []⟩ : Handler) ∈
      c.missingHandlers := by
  have hmissing : ¬ c.logic.handlers.any (·.key == Binding.moreBlockKey declared.name) := by
    rw [List.any_eq_true]
    rintro ⟨handler, hhandler, hkey⟩
    obtain ⟨-, records, hmem⟩ := key_of_ofScreen hlogic hhandler
    rw [eq_of_beq hkey] at hmem
    have hne := List.lookup_eq_none_iff.1 hlookup _ hmem
    simp at hne
  refine List.mem_filterMap.2 ⟨declared, List.mem_of_find?_eq_some hdeclared, ?_⟩
  simp only
  rw [if_neg hmissing]

/-- **Every more block has a method**, for the parameters of its first declaration. -/
theorem exists_functionLines (hlogic : LogicTree.ofScreen logic screen = .ok c.logic)
    (hsound : c.logic.Sound) (hparts : c.HasParts parts)
    (hdeclared : c.logic.declarations.moreBlock? declared.name = some declared) :
    ∃ body, functionLines declared.name declared.arguments body <:+: parts.lines c ∧
      c.HasBody (logic.handlers screen) declared.name body := by
  obtain ⟨-, hidentifier, -⟩ := hsound.named.of_moreBlock? hdeclared
  have hname : declared.name ≠ "" := by
    rintro h
    rw [h] at hidentifier
    exact absurd hidentifier (by decide)
  unfold HasBody
  cases hlookup : (logic.handlers screen).lookup (Binding.moreBlockKey declared.name) with
  | some records =>
    obtain ⟨before, after, hhandlers, -⟩ := List.lookup_eq_some_iff.1 hlookup
    have hgroup : (Binding.moreBlockKey declared.name, records) ∈ logic.handlers screen := by
      simp [hhandlers]
    obtain ⟨handler, hhandler, hkey, hrows⟩ := LogicTree.exists_handler_of_ofScreen hlogic hgroup
    have hbinding : handler.binding = .moreBlock declared.name := by
      have hread := (key_of_ofScreen hlogic hhandler).1
      rw [hkey, Binding.ofKey?_moreBlockKey hname] at hread
      exact (Option.some.inj hread).symm
    have harguments := (hsound.handlers handler hhandler).arguments
    rw [hbinding, Binding.argumentsIn?, hdeclared] at harguments
    obtain ⟨body, hlines, hbody⟩ := exists_functionLines_of_handler hparts
      (List.mem_append_left _ (mem_orderedHandlers hhandler)) hbinding (Except.ok.inj harguments).symm
    exact ⟨body, hlines, handler, hhandler, hkey, hbinding, hrows, hbody⟩
  | none =>
    have hempty := mem_missingHandlers hlogic hdeclared hlookup
    obtain ⟨body, hlines, hbody⟩ :=
      exists_functionLines_of_handler hparts (List.mem_append_right _ hempty) rfl rfl
    cases hbody
    exact ⟨[], hlines, rfl⟩

/-- Each declaration of a more block finds the method of the first one with its name. -/
theorem exists_functionLines_of_mem (hlogic : LogicTree.ofScreen logic screen = .ok c.logic)
    (hsound : c.logic.Sound) (hparts : c.HasParts parts)
    (hdeclared : declared ∈ c.logic.declarations.moreBlocks) :
    ∃ first body, c.logic.declarations.moreBlock? declared.name = some first ∧
      functionLines declared.name first.arguments body <:+: parts.lines c ∧
      c.HasBody (logic.handlers screen) declared.name body := by
  obtain ⟨first, hfirst⟩ := exists_moreBlock?_of_mem hdeclared
  obtain ⟨hname, -⟩ := hsound.named.of_moreBlock? hfirst
  rw [← hname] at hfirst ⊢
  obtain ⟨body, hbody⟩ := exists_functionLines hlogic hsound hparts hfirst
  exact ⟨first, body, hfirst, hbody⟩

/-- **Every call of a class has a method to call.** A call in the blocks of a handler, at whatever depth,
is one line of the handler's method, with as many texts as the first declaration of its more block has
parameters; and each declared more block has a method for the parameters of its first declaration. In it
are the lines of the more block's own blocks, or nothing if it has none. -/
theorem functions_defined {text indent shown : String} (hread : LogicSection.ofText text = .ok logic)
    (hlogic : LogicTree.ofScreen logic screen = .ok c.logic) (hsource : c.source indent = .ok shown) :
    ∃ head lines, shown = joinLines (head ++ lines.map (·.shown indent)) ∧ c.lines = .ok lines ∧
      (∀ handler ∈ c.logic.handlers, ∃ method, methodLines c.scene c.logic.screen handler = .ok method ∧
        method <:+: lines ∧
        ∀ row ∈ rowsOf 0 handler.blocks, row.tag = Block.callTag →
          ∃ declared ∈ c.logic.declarations.moreBlocks, ∃ args texts,
            row.Calls c.logic.declarations declared args ∧ textsOf c.scene args = .ok texts ∧
            texts.1.length = declared.arguments.length ∧
            ∃ line ∈ method, line.level = 2 + row.depth ∧
              line.text = callText declared.name texts.1) ∧
      ∀ declared ∈ c.logic.declarations.moreBlocks, ∃ first body,
        c.logic.declarations.moreBlock? declared.name = some first ∧
        functionLines declared.name first.arguments body <:+: lines ∧
        c.HasBody (logic.handlers screen) declared.name body := by
  have hsound := LogicTree.sound_of_ofScreen (LogicSection.wellFormed_of_ofText hread) hlogic
  obtain ⟨parts, hparts, hlines⟩ := exists_parts_of_source hsource
  obtain ⟨head, hshown⟩ := exists_head_of_source hsource hlines
  refine ⟨head, _, hshown, hlines, fun handler hhandler => ?_, fun declared hdeclared => ?_⟩
  · obtain ⟨method, hmethod, hmem⟩ := hparts.exists_methodLines hhandler
    refine ⟨method, hmethod, Parts.infix_of_mem_methods hmem, fun row hrow htag => ?_⟩
    have hvalid := (hsound.handlers handler hhandler).valid
    obtain ⟨declared, args, hcalls⟩ := exists_calls_of_rowsOf 0 handler.blocks hvalid hrow htag
    obtain ⟨hparams, hfound, hlength⟩ := hcalls
    obtain ⟨line, hline, number, hlevel, hcode⟩ := exists_line_of_methodLines hvalid hmethod hrow
    rw [htag, hparams] at hcode
    obtain ⟨texts, htexts, htext⟩ := codeOf_call hcode
    refine ⟨declared, List.mem_of_find?_eq_some hfound, args, texts, ⟨hparams, hfound, hlength⟩,
      htexts, ?_, line, hline, hlevel, htext⟩
    rw [texts.2, hlength, MoreBlock.arguments, List.length_map]
  · exact exists_functionLines_of_mem hlogic hsound hparts hdeclared

/-- A logic section with a more block that calls another one, which is declared twice and has no blocks. -/
def moreBlockText : String :=
  "@main.java_func\nf\t%s.a\ng\t%d.n\ng\t%b.k %m.v\n" ++
    "@main.java_f_moreBlock\n1\t0\tif\tb:true\n2\t1\tdefinedFunc\te:g,n:2\n"

/-- That section. -/
def moreBlockLogic : LogicSection :=
  ⟨[⟨"main", "func", .moreBlocks [⟨"f", [⟨.text, "a"⟩]⟩, ⟨"g", [⟨.number, "n"⟩]⟩,
      ⟨"g", [⟨.truth, "k"⟩, ⟨.map, "v"⟩]⟩]⟩,
    ⟨"main", "f_moreBlock", .handler [⟨6, "1", 0, "if", [.literal .boolean "true"]⟩,
      ⟨7, "2", 1, "definedFunc", [.literal .enum "g", .literal .number "2"]⟩]⟩]⟩

/-- The handler of the more block that has blocks. -/
def moreBlockHandler : Handler :=
  ⟨"f_moreBlock", .moreBlock "f", [⟨"String", "a"⟩],
    [.ifThen "1" (.literal .boolean "true") [.call "2" "g" [.literal .number "2"]] .nothing]⟩

/-- The class of the screen. -/
def moreBlockClass : ActivityClass where
  name := "MainActivity"
  layout := "main"
  logic := ⟨"main", moreBlockLogic.declarations "main", [moreBlockHandler]⟩
  views := ⟨"main", []⟩
  window := none
  metadata := ⟨"a.b", "A", 1, "1"⟩
  libraries := ⟨[]⟩
  resources := ⟨[]⟩

/-- The call is of a method with one parameter, as the first declaration says. -/
theorem functions_defined_twice :
    LogicSection.ofText moreBlockText = .ok moreBlockLogic ∧
    LogicTree.ofScreen moreBlockLogic "main" = .ok moreBlockClass.logic ∧
    ∃ shown lines, moreBlockClass.source "" = .ok shown ∧ moreBlockClass.lines = .ok lines ∧
      (∃ line ∈ lines, line.level = 3 ∧ line.text = "_g(2);") ∧
      functionLines "g" [⟨"double", "n"⟩] [] <:+: lines := by
  have hread : LogicSection.ofText moreBlockText = .ok moreBlockLogic := by decide +kernel
  have hlogic : LogicTree.ofScreen moreBlockLogic "main" = .ok moreBlockClass.logic := rfl
  obtain ⟨shown, hshown⟩ : ∃ shown, moreBlockClass.source "" = .ok shown :=
    Except.exists_of_isOk (by decide +kernel)
  obtain ⟨head, lines, -, hlines, hcalls, hmethods⟩ := functions_defined hread hlogic hshown
  refine ⟨hread, hlogic, shown, lines, hshown, hlines, ?_, ?_⟩
  · obtain ⟨method, -, hmethod, hrows⟩ := hcalls moreBlockHandler (List.mem_singleton_self _)
    have hrow : (⟨1, "definedFunc", [.literal .enum "g", .literal .number "2"], some "2"⟩ : Row) ∈
        rowsOf 0 moreBlockHandler.blocks := List.mem_cons_of_mem _ (List.mem_singleton_self _)
    obtain ⟨declared, -, args, texts, ⟨hparams, -⟩, htexts, -, line, hline, hlevel, htext⟩ :=
      hrows _ hrow rfl
    refine ⟨line, hmethod.subset hline, hlevel, ?_⟩
    injection hparams with hname hargs
    injection hname with _ hname
    subst hargs
    cases htexts
    rw [htext, ← hname]
    rfl
  · obtain ⟨first, body, hfirst, hbody, hempty⟩ := hmethods ⟨"g", [⟨.truth, "k"⟩, ⟨.map, "v"⟩]⟩
      (List.mem_cons_of_mem _ (List.mem_cons_of_mem _ (List.mem_singleton_self _)))
    cases hfirst
    cases hempty
    exact hbody

end ActivityClass

end BlockApp
