import BlockApp.Proofs.Brackets.Code
import BlockApp.Proofs.Method.Braces
import BlockApp.Proofs.Method.Expression
import BlockApp.Proofs.Project.Tokens

/-!
# Lines that are one line

A line of a method is one line of text unless a token in it ends a line: a literal of a text never does, and
the templates hold no line ends. All tokens of a block are written as they are, so this is exact.

* `oneLine_fill_iff` — a template with arguments in it
* `oneLine_textOf_iff`, `oneLine_codeOf_iff` — the text of an expression, and the code of a record
* `oneLine_methodLines_iff` — the lines of a method
-/

namespace BlockApp

/-- Whether no line ends in tokens. -/
def OneLineTokens (tokens : List Token) : Prop := ∀ t ∈ tokens, Source.OneLine t.text.toList

theorem oneLineTokens_append {tokens more : List Token} :
    OneLineTokens (tokens ++ more) ↔ OneLineTokens tokens ∧ OneLineTokens more := List.forall_mem_append

theorem oneLineTokens_nil : OneLineTokens [] := List.forall_mem_nil _

theorem oneLineTokens_singleton {t : Token} : OneLineTokens [t] ↔ Source.OneLine t.text.toList :=
  List.forall_mem_singleton

namespace Expr

theorem tokensOf_literal {type : LiteralType} {kind : TokenKind} (h : type.tokenKind? = some kind)
    (value : String) : tokensOf [.literal type value] = [⟨kind, value⟩] := by
  have htoken : (literal type value).token? = some ⟨kind, value⟩ := by rw [token?, h, Option.map_some]
  rw [tokensOf, partsOf, partsOf, List.append_nil, parts, List.filterMap_cons_some htoken, List.filterMap_nil]

theorem tokensOf_cons (e : Expr) (es : List Expr) : tokensOf (e :: es) = tokensOf [e] ++ tokensOf es := by
  rw [tokensOf, tokensOf, tokensOf, partsOf, partsOf, partsOf, List.append_nil, List.filterMap_append]

theorem tokensOf_reference (kind : ReferenceKind) (name : String) :
    tokensOf [.reference kind name] = [⟨.name, name⟩] := rfl

theorem tokensOf_call (tag : String) (args : List Expr) : tokensOf [.call tag args] = tokensOf args := by
  rw [tokensOf, tokensOf, partsOf, partsOf, List.append_nil, parts]
  exact List.filterMap_cons_none rfl

end Expr

namespace Source

variable {scene : Scene} {text tag value : String} {texts : List String} {template : Template}
  {params : List Expr}

/-! ## Texts put together -/

theorem oneLine_iff_notMem {s : List Char} : OneLine s ↔ '\n' ∉ s ∧ '\r' ∉ s := by
  constructor
  · intro h
    exact ⟨fun hmem => absurd (h _ hmem) (by decide), fun hmem => absurd (h _ hmem) (by decide)⟩
  · rintro ⟨hfeed, hreturn⟩ c hc
    rw [endsLine, Bool.or_eq_false_iff, beq_eq_false_iff_ne, beq_eq_false_iff_ne]
    exact ⟨fun heq => hfeed (heq ▸ hc), fun heq => hreturn (heq ▸ hc)⟩

/-- A fixed text, whose characters are at hand. -/
theorem oneLine_ofList {s : List Char} (h : OneLine s) : OneLine (String.ofList s).toList := by
  rwa [String.toList_ofList]

theorem oneLine_append_iff (s t : String) :
    OneLine (s ++ t).toList ↔ OneLine s.toList ∧ OneLine t.toList := by
  rw [String.toList_append]
  exact List.forall_mem_append

theorem oneLine_prefixed_iff {s t : String} (hs : OneLine s.toList) :
    OneLine (s ++ t).toList ↔ OneLine t.toList := by
  rw [oneLine_append_iff, and_iff_right hs]

theorem oneLine_suffixed_iff {s t : String} (ht : OneLine t.toList) :
    OneLine (s ++ t).toList ↔ OneLine s.toList := by
  rw [oneLine_append_iff, and_iff_left ht]

/-- A text between two that are one line. -/
theorem oneLine_between_iff {s t : String} (hs : OneLine s.toList) (ht : OneLine t.toList) :
    OneLine (s ++ text ++ t).toList ↔ OneLine text.toList := by
  rw [oneLine_append_iff, oneLine_append_iff, and_iff_right hs, and_iff_left ht]

theorem oneLine_intercalate_iff {sep : String} (hsep : OneLine sep.toList) (texts : List String) :
    OneLine (sep.intercalate texts).toList ↔ ∀ text ∈ texts, OneLine text.toList := by
  match texts with
  | [] => exact iff_of_true (List.forall_mem_nil _) (List.forall_mem_nil _)
  | [text] => rw [String.intercalate_singleton, List.forall_mem_singleton]
  | text :: next :: texts =>
    have hrest := oneLine_intercalate_iff hsep (next :: texts)
    rw [String.intercalate_cons_cons, oneLine_append_iff, oneLine_append_iff, and_iff_left hsep, hrest]
    exact (List.forall_mem_cons (p := fun text : String => OneLine text.toList)).symm

/-- Whether no line ends in the texts of a template. -/
def Template.isOneLine (template : Template) : Bool :=
  template.pieces.all fun
    | .text s => s.toList.all (!endsLine ·)
    | .slot _ => true

/-- **A template is one line if its arguments are.** -/
theorem oneLine_fill_iff (h : template.isOneLine = true) (hall : template.UsesAll)
    (hlength : texts.length = template.arity) :
    OneLine (template.fill texts hlength).toList ↔ ∀ text ∈ texts, OneLine text.toList := by
  constructor
  · intro hline text htext c hc
    exact hline c ((template.infix_fill hall hlength htext).subset hc)
  · intro htexts c hc
    rw [Template.fill, String.toList_join, List.mem_flatMap] at hc
    obtain ⟨shown, hshown, hc⟩ := hc
    obtain ⟨piece, hpiece, rfl⟩ := List.mem_map.1 hshown
    have hplain := List.all_eq_true.1 h piece hpiece
    cases piece with
    | text s => simpa using List.all_eq_true.1 hplain c hc
    | slot i => exact htexts _ (List.get_mem _ _) c hc

/-! ## Expressions -/

theorem isOneLine_of_lookup_calls (h : calls.lookup tag = some template) : template.isOneLine = true :=
  of_lookup (by decide) h

theorem isOneLine_of_lookup_statements (h : statements.lookup tag = some template) :
    template.isOneLine = true :=
  of_lookup (by decide) h

theorem oneLine_literalText_iff {type : LiteralType} (hholds : type.Holds value.toList)
    (h : literalText scene type value = .ok text) :
    OneLine text.toList ↔ OneLineTokens (Expr.tokensOf [.literal type value]) := by
  cases type with
  | string =>
    cases h
    exact iff_of_true (oneLine_literal value) oneLineTokens_nil
  | boolean =>
    cases h
    refine iff_of_true ?_ oneLineTokens_nil
    rcases hholds with hvalue | hvalue
    · exact hvalue ▸ by decide
    · exact hvalue ▸ by decide
  | number | enum =>
    cases h
    rw [Expr.tokensOf_literal rfl, oneLineTokens_singleton]
  | color =>
    cases h
    rw [Expr.tokensOf_literal rfl, oneLineTokens_singleton, oneLine_prefixed_iff (by decide)]
  | resource =>
    rw [literalText] at h
    split at h
    · cases h
      rw [Expr.tokensOf_literal rfl, oneLineTokens_singleton, oneLine_prefixed_iff (by decide)]
    · cases h

theorem oneLine_referenceText_iff {kind : ReferenceKind} {name : String}
    (h : referenceText scene kind name = .ok text) :
    OneLine text.toList ↔ OneLineTokens (Expr.tokensOf [.reference kind name]) := by
  rw [Expr.tokensOf_reference, oneLineTokens_singleton]
  match kind with
  | .variable =>
    cases h
    exact Iff.rfl
  | .argument =>
    cases h
    exact oneLine_prefixed_iff (by decide)
  | .view =>
    rw [referenceText] at h
    split at h
    · cases h
      exact Iff.rfl
    · cases h

mutual

/-- **The text of an expression is one line if its tokens are.** -/
theorem oneLine_textOf_iff (e : Expr) {text : String} (hwell : e.WellFormed)
    (h : textOf scene e = .ok text) : OneLine text.toList ↔ OneLineTokens (Expr.tokensOf [e]) := by
  match e with
  | .literal type value =>
    cases hwell with
    | literal hholds => exact oneLine_literalText_iff hholds h
  | .reference kind name => exact oneLine_referenceText_iff h
  | .call tag args =>
    cases hwell with
    | call _ _ hargs =>
    obtain ⟨template, hlookup, hlength, texts, htexts, rfl⟩ := textOf_call_eq_ok_iff.1 h
    rw [oneLine_fill_iff (isOneLine_of_lookup_calls hlookup) (usesAll_of_lookup_calls hlookup),
      oneLine_textsOf_iff args hargs htexts, Expr.tokensOf_call]
  termination_by structural e

theorem oneLine_textsOf_iff (es : List Expr)
    {texts : { texts : List String // texts.length = es.length }} (hwell : ∀ e ∈ es, e.WellFormed)
    (h : textsOf scene es = .ok texts) :
    (∀ text ∈ texts.1, OneLine text.toList) ↔ OneLineTokens (Expr.tokensOf es) := by
  match es with
  | [] =>
    cases h
    exact iff_of_true (List.forall_mem_nil _) oneLineTokens_nil
  | e :: es =>
    obtain ⟨hfirst, hrest⟩ := List.forall_mem_cons.1 hwell
    simp only [textsOf, Except.bind_eq_ok_iff, Except.pure_eq_ok_iff] at h
    obtain ⟨text, htext, texts, htexts, rfl⟩ := h
    rw [Expr.tokensOf_cons, oneLineTokens_append, List.forall_mem_cons, oneLine_textOf_iff e hfirst htext,
      oneLine_textsOf_iff es hrest htexts]
  termination_by structural es

end

/-! ## Records -/

theorem oneLine_declareCode_iff {typeName name : String} {value? : Option Expr}
    (hwell : ∀ e ∈ value?, e.WellFormed) (h : declareCode scene typeName name value? = .ok text) :
    OneLine text.toList ↔ OneLine name.toList ∧ OneLineTokens (Expr.tokensOf value?.toList) := by
  unfold declareCode at h
  split at h
  · next type _ =>
    simp only [Except.bind_eq_ok_iff, Except.pure_eq_ok_iff] at h
    obtain ⟨shown, hshown, rfl⟩ := h
    have htype : OneLine (type.javaType).toList ∧ OneLine type.initial.toList := by cases type <;> decide
    have hvalue : OneLine shown.toList ↔ OneLineTokens (Expr.tokensOf value?.toList) := by
      cases value? with
      | none =>
        cases hshown
        exact iff_of_true htype.2 oneLineTokens_nil
      | some value => exact oneLine_textOf_iff value (hwell value rfl) hshown
    have hspace : OneLine " ".toList ∧ OneLine " = ".toList ∧ OneLine ";".toList := by decide
    show OneLine (type.javaType ++ " " ++ name ++ " = " ++ shown ++ ";").toList ↔ _
    simp only [oneLine_append_iff, htype, hspace, hvalue, true_and, and_true]
  · cases h

theorem oneLine_typeName {typeName name : String} {value? : Option Expr}
    (h : declareCode scene typeName name value? = .ok text) : OneLine typeName.toList := by
  unfold declareCode at h
  split at h
  · next type htype =>
    rw [← ValueType.name_of_ofName? htype]
    cases type <;> decide
  · cases h

theorem oneLine_statementCode_iff (hwell : ∀ e ∈ params, e.WellFormed)
    (h : statementCode scene tag params = .ok text) :
    OneLine text.toList ↔ OneLineTokens (Expr.tokensOf params) := by
  unfold statementCode at h
  split at h
  · cases h
  · next template hlookup =>
    split at h
    · simp only [Except.bind_eq_ok_iff, Except.pure_eq_ok_iff] at h
      obtain ⟨texts, htexts, rfl⟩ := h
      rw [oneLine_fill_iff (isOneLine_of_lookup_statements hlookup) (usesAll_of_lookup_statements hlookup),
        oneLine_textsOf_iff params hwell htexts]
    · simp [wrongArity] at h

theorem oneLine_counterName (number : Nat) : OneLine (counterName number).toList := by
  have hdigit {c : Char} (hc : c ∈ number.repr.toList) : c.isDigit = true := by
    rw [Nat.toList_repr] at hc
    exact Nat.isDigit_of_mem_toDigits (by decide) (by decide) hc
  have hdigits : OneLine number.repr.toList :=
    oneLine_iff_notMem.2 ⟨fun h => absurd (hdigit h) (by decide), fun h => absurd (hdigit h) (by decide)⟩
  exact (oneLine_prefixed_iff (by decide : OneLine "_repeat".toList)).2 hdigits

/-- **The code of a record is one line if its tokens are.** -/
theorem oneLine_codeOf_iff {number : Nat} (hwell : ∀ e ∈ params, e.WellFormed)
    (h : codeOf scene number tag params = .ok text) :
    OneLine text.toList ↔ OneLineTokens (Expr.tokensOf params) := by
  have hform := codeForm_of_codeOf h
  generalize BlockTag.of tag = role at hform
  cases hform with
  | ifThen hshown | elseIf hshown | whileTrue hshown =>
    exact (oneLine_between_iff (by decide) (by decide)).trans
      (oneLine_textOf_iff _ (hwell _ List.mem_cons_self) hshown)
  | elseDo | forever => exact iff_of_true (by decide) oneLineTokens_nil
  | @times count shown hshown =>
    have hcounter := oneLine_counterName number
    have hparts : OneLine "for (int ".toList ∧ OneLine " = 0; ".toList ∧ OneLine " < (int) (".toList ∧
      OneLine "); ".toList ∧ OneLine "++) \x7b".toList := by decide
    show OneLine ("for (int " ++ counterName number ++ " = 0; " ++ counterName number ++ " < (int) (" ++
      shown ++ "); " ++ counterName number ++ "++) \x7b").toList ↔ _
    simp only [oneLine_append_iff, hparts, hcounter, true_and, and_true]
    exact oneLine_textOf_iff count (hwell count List.mem_cons_self) hshown
  | declare hcode =>
    have hnone : ∀ e ∈ (none : Option Expr), e.WellFormed := by rintro _ ⟨⟩
    rw [oneLine_declareCode_iff hnone hcode, Expr.tokensOf_cons, Expr.tokensOf_literal rfl,
      Expr.tokensOf_literal rfl, oneLineTokens_append, oneLineTokens_singleton, oneLineTokens_singleton]
    exact (and_iff_left oneLineTokens_nil).trans (and_iff_right (oneLine_typeName hcode)).symm
  | @declareAs _ _ _ value hcode =>
    have hvalue : ∀ e ∈ some value, e.WellFormed := by
      rintro _ ⟨⟩
      exact hwell value (by simp)
    rw [oneLine_declareCode_iff hvalue hcode, Expr.tokensOf_cons, Expr.tokensOf_cons _ [value],
      Expr.tokensOf_literal rfl, Expr.tokensOf_literal rfl, oneLineTokens_append, oneLineTokens_append,
      oneLineTokens_singleton, oneLineTokens_singleton]
    exact (and_iff_right (oneLine_typeName hcode)).symm
  | @set target shown value hshown =>
    have hshows := oneLine_textOf_iff value (hwell value (by simp)) hshown
    rw [Expr.tokensOf_cons, Expr.tokensOf_reference, oneLineTokens_append, oneLineTokens_singleton,
      ← hshows]
    have hparts : OneLine " = ".toList ∧ OneLine ";".toList := by decide
    show OneLine (target ++ " = " ++ shown ++ ";").toList ↔ _
    simp only [oneLine_append_iff, hparts, and_true]
  | increase | decrease =>
    rw [Expr.tokensOf_reference, oneLineTokens_singleton]
    exact oneLine_suffixed_iff (by decide)
  | @call function args texts htexts =>
    have hargs := oneLine_textsOf_iff args (fun e he => hwell e (List.mem_cons_of_mem _ he)) htexts
    rw [Expr.tokensOf_cons, Expr.tokensOf_literal rfl, oneLineTokens_append, oneLineTokens_singleton,
      ← hargs, ← oneLine_intercalate_iff (by decide : OneLine ", ".toList)]
    have hparts : OneLine "_".toList ∧ OneLine "(".toList ∧ OneLine ");".toList := by decide
    simp only [oneLine_append_iff, hparts, true_and, and_true]
  | statement hcode => exact oneLine_statementCode_iff hwell hcode

/-! ## Lines -/

/-- Whether lines are one line each. -/
def OneLines (lines : List Line) : Prop := ∀ line ∈ lines, OneLine line.text.toList

variable {lines more : List Line} {opening : Line}

theorem oneLines_nil : OneLines [] := List.forall_mem_nil _

theorem oneLines_append_iff : OneLines (lines ++ more) ↔ OneLines lines ∧ OneLines more :=
  List.forall_mem_append

theorem oneLines_cons_iff : OneLines (opening :: lines) ↔ OneLine opening.text.toList ∧ OneLines lines :=
  List.forall_mem_cons

theorem oneLine_closing (level : Nat) : OneLine (Line.closing level).text.toList :=
  (by decide : OneLine "\x7d".toList)

theorem oneLines_bracedBy_iff :
    OneLines (bracedBy opening lines) ↔ OneLine opening.text.toList ∧ OneLines lines := by
  have hclosing : OneLines [Line.closing opening.level] :=
    List.forall_mem_singleton.2 (oneLine_closing opening.level)
  rw [bracedBy, oneLines_append_iff, oneLines_cons_iff, and_iff_left hclosing]

/-- Braces that close blocks are lines of their own. -/
theorem oneLines_withBraces_iff {opened : List Nat} {coded : List (Row × Line)} :
    OneLines (withBraces opened coded) ↔ OneLines (coded.map Prod.snd) := by
  constructor
  · rintro h line hline
    obtain ⟨⟨row, _⟩, hmem, rfl⟩ := List.mem_map.1 hline
    exact h _ (mem_withBraces hmem)
  · intro h line hline
    rcases closing_or_mem_of_mem_withBraces hline with ⟨level, rfl⟩ | ⟨row, hmem⟩
    · exact oneLine_closing level
    · exact h line (List.mem_map_of_mem hmem)

/-- The lines of rows are one line each if the tokens of the rows are. -/
theorem Coded.oneLines_iff {before : Nat} {coded : List (Row × Line)} (h : Coded scene before coded)
    (hwell : WellFormedRows (coded.map Prod.fst)) :
    OneLines (coded.map Prod.snd) ↔
      OneLineTokens ((coded.map Prod.fst).flatMap (Expr.tokensOf ·.params)) := by
  induction coded generalizing before with
  | nil => exact iff_of_true oneLines_nil oneLineTokens_nil
  | cons entry coded ih =>
    obtain ⟨row, line⟩ := entry
    obtain ⟨-, hcode, hrest⟩ := h
    rw [List.map_cons, wellFormedRows_cons] at hwell
    rw [List.map_cons, List.map_cons, List.flatMap_cons, oneLines_cons_iff, oneLineTokens_append,
      oneLine_codeOf_iff hwell.1 hcode, ih hrest hwell.2]

end Source

/-! ## Methods -/

/-- The names that the method of a handler is called for. -/
def Binding.tokens : Binding → List Token
  | .viewEvent view _ => [⟨.name, view⟩]
  | .moreBlock name => [⟨.name, name⟩]
  | .startUp | .activityEvent _ => []

/-- The tokens of a handler: those that its method is called for, and those in its blocks. -/
def Handler.tokens (h : Handler) : List Token :=
  h.binding.tokens ++ (rowsOf 0 h.blocks).flatMap (Expr.tokensOf ·.params)

namespace Source

variable {scene : Scene} {h : Handler} {lines : List Line}

theorem oneLine_methodName_iff (binding : Binding) :
    OneLine binding.methodName.toList ↔ OneLineTokens binding.tokens := by
  cases binding with
  | startUp => exact iff_of_true (by decide) oneLineTokens_nil
  | activityEvent event => exact iff_of_true (by cases event <;> decide) oneLineTokens_nil
  | viewEvent view event =>
    have hevent : OneLine event.name.toList := by cases event <;> decide
    have hmark : OneLine "_".toList := by decide
    show OneLine ("_" ++ view ++ "_" ++ event.name).toList ↔ OneLineTokens [_]
    simp only [oneLine_append_iff, oneLineTokens_singleton, hevent, hmark, true_and, and_true]
  | moreBlock name =>
    rw [Binding.tokens, oneLineTokens_singleton]
    exact oneLine_prefixed_iff (by decide : OneLine "_".toList)

theorem oneLine_signatureLine_iff (harguments : ∀ a ∈ h.arguments, OneLine (parameterText a).toList) :
    OneLine (signatureLine h).text.toList ↔ OneLineTokens h.binding.tokens := by
  rw [← oneLine_methodName_iff]
  have hparameters : OneLine (", ".intercalate (h.arguments.map parameterText)).toList :=
    (oneLine_intercalate_iff (by decide) _).2 (List.forall_mem_map.2 harguments)
  have hparts : OneLine "public void ".toList ∧ OneLine "(".toList ∧ OneLine ") \x7b".toList := by decide
  have hpublic : OneLine ("public void " ++ h.binding.methodName ++ "(" ++
      ", ".intercalate (h.arguments.map parameterText) ++ ") \x7b").toList ↔
      OneLine h.binding.methodName.toList := by
    simp only [oneLine_append_iff, hparts, hparameters, true_and, and_true]
  obtain ⟨key, binding, arguments, blocks⟩ := h
  cases binding with
  | startUp | activityEvent => exact oneLine_between_iff (by decide) (by decide)
  | viewEvent | moreBlock => exact hpublic

theorem oneLines_annotationLines (binding : Binding) : OneLines (annotationLines binding) := by
  cases binding with
  | activityEvent event => exact List.forall_mem_singleton.2 (by decide : OneLine "@Override".toList)
  | startUp | viewEvent | moreBlock => exact oneLines_nil

theorem oneLines_superLines (binding : Binding) : OneLines (superLines binding) := by
  cases binding with
  | activityEvent event =>
    unfold OneLines
    cases event <;> decide
  | startUp | viewEvent | moreBlock => exact oneLines_nil

/-- **The lines of a method are one line each exactly if no line ends in a token of its handler.** -/
theorem oneLines_methodLines_iff {around : Surroundings} {screen : String}
    (hvalid : ValidAll around (fun _ => False) h.blocks) (hwell : WellFormedRows (rowsOf 0 h.blocks))
    (harguments : ∀ a ∈ h.arguments, OneLine (parameterText a).toList)
    (hlines : methodLines scene screen h = .ok lines) : OneLines lines ↔ OneLineTokens h.tokens := by
  obtain ⟨coded, hrows, hcoded, rfl⟩ := exists_coded_of_methodLines hvalid hlines
  rw [← hrows] at hwell
  rw [oneLines_append_iff, and_iff_right (oneLines_annotationLines h.binding), oneLines_bracedBy_iff,
    oneLine_signatureLine_iff harguments, oneLines_append_iff,
    and_iff_right (oneLines_superLines h.binding), oneLines_withBraces_iff, hcoded.oneLines_iff hwell,
    Handler.tokens, oneLineTokens_append, hrows]

end Source

end BlockApp
