import BlockApp.Proofs.View.Names
import BlockApp.Source.Line
import BlockApp.Source.Literal
import BlockApp.Source.Template

/-!
# Brackets and string literals

Code is scanned a character at a time. A double quote begins a string literal, which ends at the next one
that is not protected by a backslash and has to end on its own line. Outside of literals, a parenthesis
or brace closes the last one that was opened and is still open.

A text may close what is open before it and leave something open behind it, and it does so wherever it
stands: what lies below those brackets is not touched. So texts put together do what they do one by one.

* `Scan.run` — the scan; `Takes` — what a text does to the open brackets
* `Takes.append`, `Takes.frame` — texts one after the other, and what is open around them
* `takes_literal` — a string literal ends where its text does, whatever the text is
* `takes_fill` — a template with arguments in it, of which none breaks out
-/

namespace BlockApp.Source

/-- What can be opened and closed in code. -/
inductive Bracket where
  | paren
  | brace
  deriving Repr, DecidableEq

namespace Bracket

/-- All brackets. -/
def all : List Bracket := [.paren, .brace]

/-- The character that opens a bracket. -/
def opening : Bracket → Char
  | .paren => '('
  | .brace => '\x7b'

/-- The character that closes a bracket. -/
def closing : Bracket → Char
  | .paren => ')'
  | .brace => '\x7d'

/-- The bracket that a character opens. -/
def ofOpening? (c : Char) : Option Bracket := all.find? (·.opening == c)

/-- The bracket that a character closes. -/
def ofClosing? (c : Char) : Option Bracket := all.find? (·.closing == c)

end Bracket

/-- Whether a scan is outside of literals, in one, or in one right behind a backslash. -/
inductive ScanMode where
  | code
  | literal
  | escaped
  deriving Repr, DecidableEq

/-- The point that a scan of code has reached, with what is still open, the innermost first. -/
structure Scan where
  mode : ScanMode
  opened : List Bracket
  deriving Repr, DecidableEq

namespace Scan

/-- Closes the innermost bracket if it is of this kind. -/
def close (bracket : Bracket) : List Bracket → Option Scan
  | [] => none
  | innermost :: opened => if innermost = bracket then some ⟨.code, opened⟩ else none

/-- Takes a character outside of literals, `none` if it closes what is not open. -/
def stepCode (opened : List Bracket) (c : Char) : Option Scan :=
  if c = '"' then some ⟨.literal, opened⟩
  else
    match Bracket.ofOpening? c, Bracket.ofClosing? c with
    | some bracket, _ => some ⟨.code, bracket :: opened⟩
    | none, some bracket => close bracket opened
    | none, none => some ⟨.code, opened⟩

/-- How a scan goes on behind a character inside of a literal, `none` if it ends the line. -/
def literalMode (mode : ScanMode) (c : Char) : Option ScanMode :=
  if c = '\n' ∨ c = '\r' then none
  else if mode = .escaped then some .literal
  else if c = '"' then some .code
  else if c = '\\' then some .escaped
  else some .literal

/-- Takes a character. -/
def step (scan : Scan) (c : Char) : Option Scan :=
  match scan.mode with
  | .code => stepCode scan.opened c
  | .literal | .escaped => (literalMode scan.mode c).map (⟨·, scan.opened⟩)

/-- Takes characters one after the other. -/
def run (scan : Scan) (s : List Char) : Option Scan := s.foldlM step scan

variable {scan scan' : Scan} {mode : ScanMode} {opened : List Bracket} {c : Char} {s t : List Char}

@[simp] theorem run_nil (scan : Scan) : scan.run [] = some scan := rfl

@[simp] theorem run_cons (scan : Scan) (c : Char) (s : List Char) :
    scan.run (c :: s) = (scan.step c).bind (·.run s) := by
  rw [run, List.foldlM_cons]
  rfl

@[simp] theorem run_append (scan : Scan) (s t : List Char) :
    scan.run (s ++ t) = (scan.run s).bind (·.run t) := by
  rw [run, List.foldlM_append]
  rfl

/-- The scan with more brackets open below all others. -/
def above (below : List Bracket) (scan : Scan) : Scan := ⟨scan.mode, scan.opened ++ below⟩

theorem close_above {bracket : Bracket} (below : List Bracket) (h : close bracket opened = some scan) :
    close bracket (opened ++ below) = some (scan.above below) := by
  cases opened with
  | nil => cases h
  | cons innermost opened =>
    rw [close] at h
    rw [List.cons_append, close]
    split at h
    · next hsame =>
      cases h
      exact if_pos hsame
    · cases h

/-- What is open below plays no part in a step that does not need it. -/
theorem step_above (below : List Bracket) (h : scan.step c = some scan') :
    (scan.above below).step c = some (scan'.above below) := by
  obtain ⟨mode, opened⟩ := scan
  cases mode with
  | literal | escaped =>
    simp only [step, above, Option.map_eq_some_iff] at h ⊢
    obtain ⟨next, hnext, rfl⟩ := h
    exact ⟨next, hnext, rfl⟩
  | code =>
    simp only [step, above, stepCode] at h ⊢
    split at h
    · next hquote =>
      cases h
      rw [if_pos hquote]
    · next hquote =>
      rw [if_neg hquote]
      split at h
      · cases h
        rfl
      · exact close_above below h
      · cases h
        rfl

theorem run_above (below : List Bracket) (h : scan.run s = some scan') :
    (scan.above below).run s = some (scan'.above below) := by
  induction s generalizing scan with
  | nil =>
    cases h
    rfl
  | cons c s ih =>
    rw [run_cons, Option.bind_eq_some_iff] at h
    obtain ⟨next, hstep, hrun⟩ := h
    rw [run_cons, step_above below hstep, Option.bind_some]
    exact ih hrun

end Scan

/-! ## What a text does to brackets -/

/-- Whether a text outside of literals closes the brackets `before` and leaves `after` open behind it. -/
def Takes (text : String) (before after : List Bracket) : Prop :=
  Scan.run ⟨.code, before⟩ text.toList = some ⟨.code, after⟩

instance {text : String} {before after : List Bracket} : Decidable (Takes text before after) :=
  inferInstanceAs (Decidable (_ = _))

/-- Whether all literals of a code are closed on their lines, and all brackets in their order. -/
def Nested (code : String) : Prop := Takes code [] []

variable {text more : String} {before between after : List Bracket}

/-- A scan of fixed text, whose characters are at hand. -/
theorem takes_ofList {s : List Char} (h : Scan.run ⟨.code, before⟩ s = some ⟨.code, after⟩) :
    Takes (String.ofList s) before after := by
  rw [Takes, String.toList_ofList, h]

theorem takes_empty (opened : List Bracket) : Takes "" opened opened := rfl

/-- Texts one after the other. -/
theorem Takes.append (h : Takes text before between) (hmore : Takes more between after) :
    Takes (text ++ more) before after := by
  rw [Takes, String.toList_append, Scan.run_append, h]
  exact hmore

/-- What is open around a text stays open. -/
theorem Takes.frame (h : Takes text before after) (below : List Bracket) :
    Takes text (before ++ below) (after ++ below) :=
  Scan.run_above below h

/-- A text that opens nothing can stand anywhere. -/
theorem Takes.anywhere (h : Takes text [] []) (opened : List Bracket) : Takes text opened opened :=
  h.frame opened

/-! ## Texts that a scan passes over -/

/-- Whether a text has none of the characters that a scan looks at. -/
def Quiet (s : List Char) : Prop := ∀ c ∈ s, c ∉ ['"', '(', ')', '\x7b', '\x7d']

instance {s : List Char} : Decidable (Quiet s) := List.decidableBAll _ s

/-- A character of a class that has none of those that a scan looks at. -/
theorem notMem_of_class {p : Char → Bool} (hnone : ['"', '(', ')', '\x7b', '\x7d'].any p = false)
    {c : Char} (h : p c = true) : c ∉ ['"', '(', ')', '\x7b', '\x7d'] :=
  fun hmark => List.any_eq_false.1 hnone c hmark h

theorem Quiet.append {s t : List Char} (h : Quiet s) (ht : Quiet t) : Quiet (s ++ t) :=
  List.forall_mem_append.2 ⟨h, ht⟩

theorem quiet_ofList {s : List Char} (h : Quiet s) : Quiet (String.ofList s).toList := by
  rwa [String.toList_ofList]

theorem Scan.run_of_quiet {s : List Char} (h : Quiet s) (opened : List Bracket) :
    (⟨.code, opened⟩ : Scan).run s = some ⟨.code, opened⟩ := by
  induction s with
  | nil => rfl
  | cons c s ih =>
    obtain ⟨hc, hs⟩ := List.forall_mem_cons.1 h
    simp only [List.mem_cons, List.not_mem_nil, or_false, not_or] at hc
    obtain ⟨hquote, hparen, hparen', hbrace, hbrace'⟩ := hc
    have hopening : Bracket.ofOpening? c = none := by
      simp [Bracket.ofOpening?, Bracket.all, Bracket.opening, Ne.symm hparen, Ne.symm hbrace]
    have hclosing : Bracket.ofClosing? c = none := by
      simp [Bracket.ofClosing?, Bracket.all, Bracket.closing, Ne.symm hparen', Ne.symm hbrace']
    have hstep : (⟨.code, opened⟩ : Scan).step c = some ⟨.code, opened⟩ := by
      simp only [step, stepCode, if_neg hquote, hopening, hclosing]
    rw [run_cons, hstep, Option.bind_some, ih hs]

theorem takes_of_quiet (h : Quiet text.toList) (opened : List Bracket) : Takes text opened opened :=
  Scan.run_of_quiet h opened

theorem quiet_of_isIdentifier {s : List Char} (h : Text.isIdentifier s = true) : Quiet s := by
  intro c hc hmark
  simp only [List.mem_cons, List.not_mem_nil, or_false] at hmark
  rcases hmark with rfl | rfl | rfl | rfl | rfl <;>
    exact Text.notMem_of_isIdentifier h (by decide) (by decide) hc

theorem takes_of_isIdentifier (h : Text.isIdentifier text.toList = true) (opened : List Bracket) :
    Takes text opened opened :=
  takes_of_quiet (quiet_of_isIdentifier h) opened

/-! ## String literals -/

namespace Scan

variable {opened : List Bracket}

/-- A character that means nothing in a literal. -/
theorem step_literal_of_plain {c : Char} (h : c ∉ ['\n', '\r', '"', '\\']) :
    (⟨.literal, opened⟩ : Scan).step c = some ⟨.literal, opened⟩ := by
  simp only [List.mem_cons, List.not_mem_nil, or_false, not_or] at h
  obtain ⟨hfeed, hreturn, hquote, hslash⟩ := h
  simp [step, literalMode, hfeed, hreturn, hquote, hslash]

theorem run_literal_of_plain {s : List Char} (h : ∀ c ∈ s, c ∉ ['\n', '\r', '"', '\\']) :
    (⟨.literal, opened⟩ : Scan).run s = some ⟨.literal, opened⟩ := by
  induction s with
  | nil => rfl
  | cons c s ih =>
    obtain ⟨hc, hs⟩ := List.forall_mem_cons.1 h
    rw [run_cons, step_literal_of_plain hc, Option.bind_some, ih hs]

/-- A backslash and what it protects. -/
theorem run_literal_of_escaped {c : Char} (h : c ≠ '\n') (h' : c ≠ '\r') :
    (⟨.literal, opened⟩ : Scan).run ['\\', c] = some ⟨.literal, opened⟩ := by
  have hslash : (⟨.literal, opened⟩ : Scan).step '\\' = some ⟨.escaped, opened⟩ := rfl
  have hstep : (⟨.escaped, opened⟩ : Scan).step c = some ⟨.literal, opened⟩ := by
    simp [step, literalMode, h, h']
  rw [run_cons, hslash, Option.bind_some, run_cons, hstep, Option.bind_some, run_nil]

end Scan

theorem plain_of_mem_fixedHex {places n : Nat} {c : Char}
    (h : c ∈ Text.fixedHex Text.hexLower places n) : c ∉ ['\n', '\r', '"', '\\'] := by
  have hdigit : ∀ d < 16, Text.hexLower d ∉ ['\n', '\r', '"', '\\'] := by decide
  obtain ⟨d, hd, rfl⟩ := Text.exists_digit_of_mem_fixedHex h
  exact hdigit d hd

/-- No character leaves the literal that it is written in. -/
theorem run_literalChar (c : Char) (opened : List Bracket) :
    (⟨.literal, opened⟩ : Scan).run (literalChar c) = some ⟨.literal, opened⟩ := by
  fun_cases literalChar c
  case case8 =>
    have hescape : codeUnitEscape c = ['\\', 'u'] ++ Text.fixedHex Text.hexLower 4 c.toNat := rfl
    rw [hescape, Scan.run_append, Scan.run_literal_of_escaped (by decide) (by decide), Option.bind_some]
    exact Scan.run_literal_of_plain fun d hd => plain_of_mem_fixedHex hd
  case case9 hslash hquote hfeed _ hreturn _ _ _ =>
    refine Scan.run_literal_of_plain fun d hd => ?_
    rw [List.mem_singleton.1 hd]
    simp [hslash, hquote, hfeed, hreturn]
  all_goals exact Scan.run_literal_of_escaped (by decide) (by decide)

/-- **A literal ends where its text does**, on its own line. -/
theorem takes_literal (value : String) (opened : List Bracket) :
    Takes (literal value) opened opened := by
  have hchars (s : List Char) :
      (⟨.literal, opened⟩ : Scan).run (s.flatMap literalChar) = some ⟨.literal, opened⟩ := by
    induction s with
    | nil => rfl
    | cons c s ih => rw [List.flatMap_cons, Scan.run_append, run_literalChar, Option.bind_some, ih]
  have hopen : (⟨.code, opened⟩ : Scan).run ['"'] = some ⟨.literal, opened⟩ := rfl
  have hclose : (⟨.literal, opened⟩ : Scan).run ['"'] = some ⟨.code, opened⟩ := rfl
  rw [Takes, literal, String.toList_ofList, literalChars, Scan.run_append, Scan.run_append, hopen,
    Option.bind_some, hchars, Option.bind_some, hclose]

/-! ## Templates and lists -/

/-- What a piece of a template does to the open brackets, if its slots are filled with texts that do
nothing. -/
def Piece.passed {arity : Nat} (opened : List Bracket) : Piece arity → Option (List Bracket)
  | .text s =>
    match Scan.run ⟨.code, opened⟩ s.toList with
    | some ⟨.code, after⟩ => some after
    | _ => none
  | .slot _ => some opened

/-- Whether the texts of a template close what they open. -/
def Template.isNested (template : Template) : Bool :=
  template.pieces.foldlM Piece.passed [] == some []

theorem Piece.takes_fill {arity : Nat} {piece : Piece arity} {args : List String}
    {hlength : args.length = arity} (hargs : ∀ text ∈ args, Takes text [] [])
    (h : piece.passed before = some after) : Takes (piece.fill args hlength) before after := by
  cases piece with
  | slot i =>
    cases h
    exact (hargs _ (List.get_mem _ _)).anywhere before
  | text s =>
    rw [Piece.passed] at h
    split at h
    · next heq =>
      cases h
      exact heq
    · cases h

/-- **No argument breaks out of a template.** -/
theorem takes_fill {template : Template} (h : template.isNested = true) {args : List String}
    (hlength : args.length = template.arity) (hargs : ∀ text ∈ args, Takes text [] []) :
    Takes (template.fill args hlength) [] [] := by
  have hpieces (pieces : List (Piece template.arity)) (before : List Bracket)
      (hrun : pieces.foldlM Piece.passed before = some []) :
      Takes (String.join (pieces.map (Piece.fill args hlength))) before [] := by
    induction pieces generalizing before with
    | nil =>
      cases hrun
      exact takes_empty []
    | cons piece pieces ih =>
      rw [List.foldlM_cons, Option.bind_eq_bind, Option.bind_eq_some_iff] at hrun
      obtain ⟨between, hpiece, hrest⟩ := hrun
      rw [List.map_cons, String.join_cons]
      exact (Piece.takes_fill hargs hpiece).append (ih between hrest)
  exact hpieces template.pieces [] (eq_of_beq h)

/-- Texts with a separator between them. -/
theorem takes_intercalate {sep : String} (hsep : Takes sep [] []) (texts : List String)
    (h : ∀ text ∈ texts, Takes text [] []) : Takes (sep.intercalate texts) [] [] := by
  match texts with
  | [] => exact takes_empty []
  | [text] =>
    rw [String.intercalate_singleton]
    exact h text List.mem_cons_self
  | text :: next :: texts =>
    obtain ⟨htext, hrest⟩ := List.forall_mem_cons.1 h
    rw [String.intercalate_cons_cons]
    exact (htext.append hsep).append (takes_intercalate hsep (next :: texts) hrest)

end BlockApp.Source
