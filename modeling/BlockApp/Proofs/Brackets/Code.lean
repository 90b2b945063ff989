import BlockApp.Proofs.Brackets.Scan
import BlockApp.Proofs.Logic.WellFormed
import BlockApp.Proofs.Section.Tokens

/-!
# Brackets in the code of blocks

What the author of a project writes stands in code as a string literal, or it is a name, a number or the
like, which a scan passes over. From there on it is a matter of the templates and of the lines around
them: a statement closes what it opens, a block that holds others leaves its brace open for them, a
further branch closes one brace and opens another.

* `takes_textOf` — the text of an expression, at whatever depth of calls
* `Nests` — lines under each other: their brackets, and the imports that they need
* `Block.nests`, `Otherwise.nests`, `nests_sequenceLines` — the lines of blocks, by recursion
-/

namespace BlockApp

/-! ## Values -/

namespace Text

/-- What is in identifiers joined by a separator, with a line feed behind them or none. -/
theorem mem_of_all_isBareIdentifier {sep c : Char} {s : List Char}
    (h : (splitAt sep (withoutFinalNewline s)).all isBareIdentifier = true) (hc : c ∈ s) :
    c = '\n' ∨ c = sep ∨ isNamePart c = true := by
  by_cases hline : c = '\n'
  · exact .inl hline
  · have hmem := mem_withoutFinalNewline hc hline
    rw [← joinWith_splitAt sep (withoutFinalNewline s)] at hmem
    refine .inr ((mem_joinWith hmem).imp_right ?_)
    rintro ⟨part, hpart, hc⟩
    exact isNamePart_of_isBareIdentifier (List.all_eq_true.1 h part hpart) hc

/-- What is in a number. -/
theorem mem_of_isNumber {s : List Char} (h : isNumber s = true) {c : Char} (hc : c ∈ s) :
    c ∈ ['\n', '-', '.'] ∨ isDigit c = true := by
  obtain ⟨number, hnumber, rfl | rfl⟩ := isNumber_iff.1 h
  · exact (hnumber.char hc).imp_left (List.mem_cons_of_mem _)
  · rcases List.mem_append.1 hc with hc | hline
    · exact (hnumber.char hc).imp_left (List.mem_cons_of_mem _)
    · exact .inl (List.mem_singleton.1 hline ▸ List.mem_cons_self)

end Text

namespace Source

theorem quiet_of_isNumber {s : List Char} (h : Text.isNumber s = true) : Quiet s := by
  intro c hc
  have hsigns : Quiet ['\n', '-', '.'] := by decide
  rcases Text.mem_of_isNumber h hc with hsign | hdigit
  · exact hsigns c hsign
  · exact notMem_of_class (by decide) hdigit

theorem quiet_of_all_isBareIdentifier {sep : Char} {s : List Char} (hsep : Quiet [sep])
    (h : (Text.splitAt sep (Text.withoutFinalNewline s)).all Text.isBareIdentifier = true) :
    Quiet s := by
  intro c hc
  have hend : Quiet ['\n'] := by decide
  rcases Text.mem_of_all_isBareIdentifier h hc with rfl | rfl | hname
  · exact hend _ List.mem_cons_self
  · exact hsep _ List.mem_cons_self
  · exact notMem_of_class (by decide) hname

theorem quiet_of_isKept {value : List Char} (h : Color.IsKept value) : Quiet value := by
  have hdigits {digits : List Char} (hall : ∀ c ∈ digits, Text.isUpperHex c = true) : Quiet digits :=
    fun c hc => notMem_of_class (by decide) (hall c hc)
  rcases h with ⟨-, hall⟩ | ⟨digits, -, hall, rfl⟩
  · exact hdigits hall
  · have hmarks : Quiet ['F', 'F'] ∧ Quiet ['\n'] := by decide
    exact (hmarks.1.append (hdigits hall)).append hmarks.2

/-- What a literal that is no string holds, a scan passes over. -/
theorem quiet_of_holds {type : LiteralType} {value : List Char} (h : type.Holds value)
    (htype : type ≠ .string) : Quiet value := by
  cases type with
  | string => exact absurd rfl htype
  | number => exact quiet_of_isNumber h
  | boolean =>
    have hboth : Quiet "true".toList ∧ Quiet "false".toList := by decide
    rcases h with rfl | rfl
    · exact hboth.1
    · exact hboth.2
  | color => exact quiet_of_isKept h
  | enum => exact quiet_of_all_isBareIdentifier (by decide) h
  | resource => exact quiet_of_isIdentifier h

/-! ## Expressions -/

variable {scene : Scene} {text : String}

/-- What all templates of a table have in common. -/
theorem of_lookup {entries : List (String × Template)} {p : Template → Bool}
    (hall : entries.all (p ·.2) = true) {tag : String} {template : Template}
    (h : entries.lookup tag = some template) : p template = true := by
  obtain ⟨before, after, rfl, -⟩ := List.lookup_eq_some_iff.1 h
  exact List.all_eq_true.1 hall (tag, template) (by simp)

theorem isNested_of_lookup_statements {tag : String} {template : Template}
    (h : statements.lookup tag = some template) : template.isNested = true :=
  of_lookup (by decide +kernel) h

theorem isNested_of_lookup_calls {tag : String} {template : Template}
    (h : calls.lookup tag = some template) : template.isNested = true :=
  of_lookup (by decide +kernel) h

theorem takes_literalText {type : LiteralType} {value : String} (hholds : type.Holds value.toList)
    (h : literalText scene type value = .ok text) : Takes text [] [] := by
  cases type with
  | string =>
    cases h
    exact takes_literal value []
  | number | boolean | enum =>
    cases h
    exact takes_of_quiet (quiet_of_holds hholds nofun) []
  | color =>
    cases h
    exact (takes_ofList rfl : Takes "0x" [] []).append (takes_of_quiet (quiet_of_holds hholds nofun) [])
  | resource =>
    rw [literalText] at h
    split at h
    · cases h
      exact (takes_ofList rfl : Takes "R.drawable." [] []).append
        (takes_of_quiet (quiet_of_holds hholds nofun) [])
    · cases h

theorem takes_referenceText {kind : ReferenceKind} {name : String}
    (hname : Text.isIdentifier name.toList = true) (h : referenceText scene kind name = .ok text) :
    Takes text [] [] := by
  match kind with
  | .variable =>
    cases h
    exact takes_of_isIdentifier hname []
  | .argument =>
    cases h
    exact (takes_ofList rfl : Takes "_" [] []).append (takes_of_isIdentifier hname [])
  | .view =>
    rw [referenceText] at h
    split at h
    · cases h
      exact takes_of_isIdentifier hname []
    · cases h

mutual

/-- **The text of an expression closes what it opens**, whatever its literals hold. -/
theorem takes_textOf (e : Expr) {text : String} (hwell : e.WellFormed) (h : textOf scene e = .ok text) :
    Takes text [] [] := by
  match e with
  | .literal type value =>
    cases hwell with
    | literal hholds => exact takes_literalText hholds h
  | .reference kind name =>
    cases hwell with
    | reference hname => exact takes_referenceText hname h
  | .call tag args =>
    cases hwell with
    | call _ _ hargs =>
    rw [textOf] at h
    split at h
    · cases h
    · next template hlookup =>
      split at h
      · simp only [Except.bind_eq_ok_iff, Except.pure_eq_ok_iff] at h
        obtain ⟨texts, htexts, rfl⟩ := h
        exact takes_fill (isNested_of_lookup_calls hlookup) _ (takes_textsOf args hargs htexts)
      · simp [wrongArity] at h
  termination_by structural e

theorem takes_textsOf (es : List Expr)
    {texts : { texts : List String // texts.length = es.length }} (hwell : ∀ e ∈ es, e.WellFormed)
    (h : textsOf scene es = .ok texts) : ∀ text ∈ texts.1, Takes text [] [] := by
  match es with
  | [] =>
    cases h
    exact List.forall_mem_nil _
  | e :: es =>
    obtain ⟨hfirst, hrest⟩ := List.forall_mem_cons.1 hwell
    simp only [textsOf, Except.bind_eq_ok_iff, Except.pure_eq_ok_iff] at h
    obtain ⟨text, htext, texts, htexts, rfl⟩ := h
    exact List.forall_mem_cons.2 ⟨takes_textOf e hfirst htext, takes_textsOf es hrest htexts⟩
  termination_by structural es

end

theorem takes_paramText {place : MethodScene} {id : String} {e : Expr} (hwell : e.WellFormed)
    (h : paramText place id e = .ok text) : Takes text [] [] := by
  rw [paramText, Except.mapError_eq_ok_iff] at h
  exact takes_textOf e hwell h

theorem takes_paramTexts {place : MethodScene} {id : String} {es : List Expr} {texts : List String}
    (hwell : ∀ e ∈ es, e.WellFormed) (h : paramTexts place id es = .ok texts) :
    ∀ text ∈ texts, Takes text [] [] := by
  obtain ⟨found, hfound, rfl⟩ := paramTexts_eq_ok_iff.1 h
  exact takes_textsOf es hwell hfound

/-! ## Lines -/

/-- Whether a line closes the brackets `before` and leaves `after` open, and needs imports that a scan
passes over. -/
structure Line.Takes (line : Line) (before after : List Bracket) : Prop where
  text : Source.Takes line.text before after
  imports : ∀ name ∈ line.imports, Quiet name.toList

/-- Whether lines do so when they are written under each other. -/
structure Nests (indent : String) (lines : List Line) (before after : List Bracket) : Prop where
  text : Takes (joinLines (lines.map (·.shown indent))) before after
  imports : ∀ line ∈ lines, ∀ name ∈ line.imports, Quiet name.toList

variable {indent : String} {line : Line} {lines more : List Line} {before between after : List Bracket}

theorem joinLines_append (texts more : List String) :
    joinLines (texts ++ more) = joinLines texts ++ joinLines more := by
  rw [joinLines, List.map_append, String.join_append, joinLines, joinLines]

theorem takes_lineFeed (opened : List Bracket) : Takes "\n" opened opened :=
  takes_of_quiet (quiet_ofList (by decide)) opened

theorem takes_replicate (hindent : Quiet indent.toList) (opened : List Bracket) (level : Nat) :
    Takes (String.join (List.replicate level indent)) opened opened := by
  induction level with
  | zero => exact takes_empty opened
  | succ level ih =>
    rw [List.replicate_succ, String.join_cons]
    exact (takes_of_quiet hindent opened).append ih

/-- The indentation of a line plays no part. -/
theorem takes_shown (hindent : Quiet indent.toList) (h : Takes line.text before after) :
    Takes (line.shown indent) before after := by
  rw [Line.shown]
  split
  · next hempty => rwa [hempty] at h
  · exact (takes_replicate hindent before line.level).append h

theorem nests_nil (opened : List Bracket) : Nests indent [] opened opened :=
  ⟨takes_empty opened, List.forall_mem_nil _⟩

theorem Nests.append (h : Nests indent lines before between) (hmore : Nests indent more between after) :
    Nests indent (lines ++ more) before after where
  text := by
    rw [List.map_append, joinLines_append]
    exact h.text.append hmore.text
  imports := List.forall_mem_append.2 ⟨h.imports, hmore.imports⟩

theorem Nests.frame (h : Nests indent lines before after) (below : List Bracket) :
    Nests indent lines (before ++ below) (after ++ below) :=
  ⟨h.text.frame below, h.imports⟩

theorem Line.Takes.nests (hindent : Quiet indent.toList) (h : line.Takes before after) :
    Nests indent [line] before after where
  text := by
    have hjoin : joinLines ([line].map (·.shown indent)) = line.shown indent ++ "\n" := by
      simp [joinLines, String.join_cons]
    rw [hjoin]
    exact (takes_shown hindent h.text).append (takes_lineFeed after)
  imports := List.forall_mem_singleton.2 h.imports

theorem Line.takes_plain {level : Nat} {text : String} (h : Source.Takes text before after) :
    (Line.plain level text).Takes before after :=
  ⟨h, List.forall_mem_nil _⟩

theorem Line.takes_closing (level : Nat) : (Line.closing level).Takes [.brace] [] :=
  takes_plain (takes_ofList rfl)

/-- A line that opens a brace, lines that close what they open, and the closing brace. -/
theorem nests_bracedBy (hindent : Quiet indent.toList) (hopening : line.Takes before [.brace])
    (h : Nests indent lines [.brace] [.brace]) : Nests indent (bracedBy line lines) before [] :=
  ((hopening.nests hindent).append h).append ((Line.takes_closing line.level).nests hindent)

/-! ## Lines of code -/

variable {place : MethodScene} {level number : Nat} {id : String}

theorem takes_javaType (type : ValueType) : Takes type.javaType [] [] := by
  cases type <;> decide

theorem takes_initial (type : ValueType) : Takes type.initial [] [] := by
  cases type <;> decide

theorem quiet_imports (type : ValueType) : ∀ name ∈ type.imports, Quiet name.toList := by
  cases type <;> decide

/-- What the template of a statement needs is named plainly. -/
theorem quiet_imports_of_lookup {tag : String} {template : Template}
    (h : statements.lookup tag = some template) : ∀ name ∈ template.imports, Quiet name.toList := by
  let plain (t : Template) : Bool := ∀ name ∈ t.imports, Quiet name.toList
  have hall : statements.all (plain ·.2) = true := by decide
  exact of_decide_eq_true (of_lookup (p := plain) hall h)

theorem takes_statementLine {tag : String} {params : List Expr} (hwell : ∀ e ∈ params, e.WellFormed)
    (h : statementLine place level id tag params = .ok line) : line.Takes [] [] := by
  rw [statementLine, Except.mapError_eq_ok_iff] at h
  split at h
  · cases h
  · next template hlookup =>
    split at h
    · simp only [Except.bind_eq_ok_iff, Except.pure_eq_ok_iff] at h
      obtain ⟨texts, htexts, rfl⟩ := h
      exact ⟨takes_fill (isNested_of_lookup_statements hlookup) _ (takes_textsOf params hwell htexts),
        quiet_imports_of_lookup hlookup⟩
    · simp [wrongArity] at h

theorem takes_declareLine {type : ValueType} {name : String} {value : Option Expr}
    (hname : Quiet name.toList) (hwell : ∀ e ∈ value, e.WellFormed)
    (h : declareLine place level id type name value = .ok line) : line.Takes [] [] := by
  have hline {text : String} (htext : Takes text [] []) :
      (⟨level, s!"{type.javaType} {name} = {text};", type.imports⟩ : Line).Takes [] [] := by
    refine ⟨?_, quiet_imports type⟩
    exact (((((takes_javaType type).append (takes_ofList rfl : Takes " " [] [])).append
      (takes_of_quiet hname [])).append (takes_ofList rfl : Takes " = " [] [])).append htext).append
      (takes_ofList rfl : Takes ";" [] [])
  cases value with
  | none =>
    cases h
    exact hline (takes_initial type)
  | some value =>
    simp only [declareLine, Except.bind_eq_ok_iff, Except.pure_eq_ok_iff] at h
    obtain ⟨text, htext, rfl⟩ := h
    exact hline (takes_paramText (hwell value rfl) htext)

theorem takes_assignLine {target : String} {change : Change}
    (htarget : Text.isIdentifier target.toList = true) (hwell : ∀ e ∈ change.params, e.WellFormed)
    (h : assignLine place level id target change = .ok line) : line.Takes [] [] := by
  have hname := takes_of_isIdentifier htarget []
  cases change with
  | set value =>
    simp only [assignLine, Except.bind_eq_ok_iff, Except.pure_eq_ok_iff] at h
    obtain ⟨text, htext, _, rfl, rfl⟩ := h
    refine Line.takes_plain (((hname.append (takes_ofList rfl : Takes " = " [] [])).append ?_).append
      (takes_ofList rfl : Takes ";" [] []))
    exact takes_paramText (hwell value List.mem_cons_self) htext
  | increase =>
    cases h
    exact Line.takes_plain (hname.append (takes_ofList rfl : Takes "++;" [] []))
  | decrease =>
    cases h
    exact Line.takes_plain (hname.append (takes_ofList rfl : Takes "--;" [] []))

theorem takes_callLine {function : String} {args : List Expr} (hfunction : Quiet function.toList)
    (hwell : ∀ e ∈ args, e.WellFormed) (h : callLine place level id function args = .ok line) :
    line.Takes [] [] := by
  simp only [callLine, Except.bind_eq_ok_iff, Except.pure_eq_ok_iff] at h
  obtain ⟨texts, htexts, rfl⟩ := h
  have hargs := takes_intercalate (takes_ofList rfl : Takes ", " [] []) texts
    (takes_paramTexts hwell htexts)
  have hname : Takes ("_" ++ function) [] [] :=
    (takes_ofList rfl : Takes "_" [] []).append (takes_of_quiet hfunction [])
  exact Line.takes_plain (((hname.append (takes_ofList rfl : Takes "(" [] [.paren])).append
    (hargs.anywhere [.paren])).append (takes_ofList rfl : Takes ");" [.paren] []))

theorem takes_counterName (number : Nat) (opened : List Bracket) :
    Takes (counterName number) opened opened := by
  have hdigits : Quiet number.repr.toList := by
    intro c hc
    rw [Nat.toList_repr] at hc
    exact notMem_of_class (by decide) (Nat.isDigit_of_mem_toDigits (by decide) (by decide) hc)
  exact (takes_of_quiet (quiet_ofList (by decide) : Quiet "_repeat".toList) opened).append
    (takes_of_quiet hdigits opened)

theorem takes_loopLine {head : Loop} (hwell : ∀ e ∈ head.params, e.WellFormed)
    (h : loopLine place level number id head = .ok line) : line.Takes [] [.brace] := by
  cases head with
  | times count =>
    simp only [loopLine, Except.bind_eq_ok_iff, Except.pure_eq_ok_iff] at h
    obtain ⟨limit, hlimit, _, rfl, rfl⟩ := h
    have hcount := takes_paramText (hwell count List.mem_cons_self) hlimit
    have hcounter := takes_counterName number [.paren]
    exact Line.takes_plain ((((((((
      (takes_ofList rfl : Takes "for (int " [] [.paren]).append hcounter).append
      (takes_ofList rfl : Takes " = 0; " [.paren] [.paren])).append hcounter).append
      (takes_ofList rfl : Takes " < (int) (" [.paren] [.paren, .paren])).append (hcount.anywhere _)).append
      (takes_ofList rfl : Takes "); " [.paren, .paren] [.paren])).append hcounter).append
      (takes_ofList rfl : Takes "++) \x7b" [.paren] [.brace]))
  | forever =>
    cases h
    exact Line.takes_plain (takes_ofList rfl)
  | whileTrue condition =>
    simp only [loopLine, Except.bind_eq_ok_iff, Except.pure_eq_ok_iff] at h
    obtain ⟨text, htext, _, rfl, rfl⟩ := h
    have hcondition := takes_paramText (hwell condition List.mem_cons_self) htext
    exact Line.takes_plain (((takes_ofList rfl : Takes "while (" [] [.paren]).append
      (hcondition.anywhere [.paren])).append (takes_ofList rfl : Takes ") \x7b" [.paren] [.brace]))

end Source

open Source

/-! ## Lines of blocks -/

section

variable {place : MethodScene} {indent : String}

theorem Expr.WellFormed.quiet_enum {value : String} (h : (Expr.literal .enum value).WellFormed) :
    Quiet value.toList := by
  cases h with
  | literal hholds => exact quiet_of_holds hholds nofun

theorem Expr.WellFormed.isIdentifier {kind : ReferenceKind} {name : String}
    (h : (Expr.reference kind name).WellFormed) : Text.isIdentifier name.toList = true := by
  cases h with
  | reference hname => exact hname

/-- The line of a block without others in it. -/
theorem Block.nests_of_isLeaf (hindent : Quiet indent.toList) {level before : Nat} {block : Block}
    (hleaf : block.isLeaf = true) (hwell : ∀ e ∈ block.params, e.WellFormed) {lines : List Line}
    (h : blockLines place level before block = .ok lines) : Nests indent lines [] [] := by
  cases block with
  | statement id tag params =>
    simp only [blockLines, Except.bind_eq_ok_iff, Except.pure_eq_ok_iff] at h
    obtain ⟨line, hline, rfl⟩ := h
    exact (takes_statementLine hwell hline).nests hindent
  | declare id type name value =>
    simp only [blockLines, Except.bind_eq_ok_iff, Except.pure_eq_ok_iff] at h
    obtain ⟨line, hline, rfl⟩ := h
    obtain ⟨-, hrest⟩ := List.forall_mem_cons.1 hwell
    obtain ⟨hname, hvalue⟩ := List.forall_mem_cons.1 hrest
    exact (takes_declareLine hname.quiet_enum (by simpa using hvalue) hline).nests hindent
  | assign id target change =>
    simp only [blockLines, Except.bind_eq_ok_iff, Except.pure_eq_ok_iff] at h
    obtain ⟨line, hline, rfl⟩ := h
    obtain ⟨htarget, hvalue⟩ := List.forall_mem_cons.1 hwell
    exact (takes_assignLine htarget.isIdentifier hvalue hline).nests hindent
  | call id function args =>
    simp only [blockLines, Except.bind_eq_ok_iff, Except.pure_eq_ok_iff] at h
    obtain ⟨line, hline, rfl⟩ := h
    obtain ⟨hfunction, hargs⟩ := List.forall_mem_cons.1 hwell
    exact (takes_callLine hfunction.quiet_enum hargs hline).nests hindent
  | loop | ifThen => simp [Block.isLeaf] at hleaf

mutual

/-- **The lines of a block close what they open.** -/
theorem Block.nests (hindent : Quiet indent.toList) (depth level before : Nat) (block : Block)
    {lines : List Line} (hwell : WellFormedRows (block.rows depth))
    (h : blockLines place level before block = .ok lines) : Nests indent lines [] [] := by
  match block with
  | .statement .. | .declare .. | .assign .. | .call .. =>
    rw [Block.rows_of_isLeaf rfl, wellFormedRows_cons] at hwell
    refine Block.nests_of_isLeaf hindent rfl ?_ h
    exact hwell.1
  | .loop id head body =>
    obtain ⟨hhead, hbody⟩ := wellFormedRows_cons.1 hwell
    simp only [blockLines, Except.bind_eq_ok_iff, Except.pure_eq_ok_iff] at h
    obtain ⟨line, hline, inner, hinner, rfl⟩ := h
    have hlines := nests_sequenceLines hindent (depth + 1) (level + 1) _ body hbody hinner
    exact nests_bracedBy hindent (takes_loopLine hhead hline) (hlines.frame [.brace])
  | .ifThen id condition body otherwise =>
    obtain ⟨hcondition, hrest⟩ := wellFormedRows_cons.1 hwell
    obtain ⟨hbody, hotherwise⟩ := wellFormedRows_append.1 hrest
    simp only [blockLines, Except.bind_eq_ok_iff, Except.pure_eq_ok_iff] at h
    obtain ⟨text, htext, inner, hinner, others, hothers, rfl⟩ := h
    have htext := takes_paramText (hcondition condition List.mem_cons_self) htext
    have hlines := nests_sequenceLines hindent (depth + 1) (level + 1) before body hbody hinner
    have hbranches := otherwise.nests hindent depth level _ hotherwise hothers
    refine nests_bracedBy hindent (Line.takes_plain ?_) ((hlines.frame [.brace]).append hbranches)
    exact ((takes_ofList rfl : Takes "if (" [] [.paren]).append (htext.anywhere [.paren])).append
      (takes_ofList rfl : Takes ") \x7b" [.paren] [.brace])
  termination_by structural block

/-- The lines of further branches close the brace before them and leave one open. -/
theorem Otherwise.nests (hindent : Quiet indent.toList) (depth level before : Nat)
    (otherwise : Otherwise) {id : String} {lines : List Line}
    (hwell : WellFormedRows (otherwise.rows depth))
    (h : otherwiseLines place id level before otherwise = .ok lines) :
    Nests indent lines [.brace] [.brace] := by
  match otherwise with
  | .nothing =>
    cases h
    exact nests_nil [.brace]
  | .elseDo body =>
    obtain ⟨-, hbody⟩ := wellFormedRows_cons.1 hwell
    simp only [otherwiseLines, Except.bind_eq_ok_iff, Except.pure_eq_ok_iff] at h
    obtain ⟨inner, hinner, rfl⟩ := h
    have hlines := nests_sequenceLines hindent (depth + 1) (level + 1) before body hbody hinner
    have hbranch : Takes "\x7d else \x7b" [.brace] [.brace] := takes_ofList rfl
    exact ((Line.takes_plain hbranch).nests hindent).append (hlines.frame [.brace])
  | .elseIf condition body otherwise =>
    obtain ⟨hcondition, hrest⟩ := wellFormedRows_cons.1 hwell
    obtain ⟨hbody, hotherwise⟩ := wellFormedRows_append.1 hrest
    simp only [otherwiseLines, Except.bind_eq_ok_iff, Except.pure_eq_ok_iff] at h
    obtain ⟨text, htext, inner, hinner, others, hothers, rfl⟩ := h
    have htext := takes_paramText (hcondition condition List.mem_cons_self) htext
    have hlines := nests_sequenceLines hindent (depth + 1) (level + 1) before body hbody hinner
    have hbranches := otherwise.nests hindent depth level _ hotherwise hothers
    have hbranch := ((takes_ofList rfl : Takes "\x7d else if (" [.brace] [.paren]).append
      (htext.anywhere [.paren])).append (takes_ofList rfl : Takes ") \x7b" [.paren] [.brace])
    exact (((Line.takes_plain hbranch).nests hindent).append (hlines.frame [.brace])).append hbranches
  termination_by structural otherwise

/-- The lines of blocks one after the other close what they open. -/
theorem nests_sequenceLines (hindent : Quiet indent.toList) (depth level before : Nat)
    (blocks : List Block) {lines : List Line} (hwell : WellFormedRows (rowsOf depth blocks))
    (h : sequenceLines place level before blocks = .ok lines) : Nests indent lines [] [] := by
  match blocks with
  | [] =>
    cases h
    exact nests_nil []
  | block :: blocks =>
    rw [rowsOf_cons] at hwell
    obtain ⟨hblock, hblocks⟩ := wellFormedRows_append.1 hwell
    obtain ⟨first, rest, rfl, hfirst, hrest⟩ := sequenceLines_cons h
    exact (block.nests hindent depth level before hblock hfirst).append
      (nests_sequenceLines hindent depth level _ blocks hblocks hrest)
  termination_by structural blocks

end

end

end BlockApp
