import BlockApp.Source.Literal
import Mathlib.Algebra.Group.Nat.Defs

/-!
# Reading string literals

The text of a class is read in two phases. The first one looks for escapes of code units, wherever they
stand: a backslash with `u` behind it starts one, unless the number of backslashes right before it is odd,
and four hexadecimal digits have to follow. The second one takes what is left of a string literal up to the
next double quote that is not behind a backslash, and no line may end inside of it.

A literal that is written has escapes for both phases, and they stand next to each other as the characters of
its text do. What a character is written as leaves an even number of backslashes, so each phase reads it in
the same way whatever is next to it.

* `decodeUnits`, `readLiteral?` — the phases
* `Decodes`, `Reads` — what a part of code is read as, whatever is behind it
* `literal_reads_back` — a literal stands for its text
-/

namespace BlockApp.Source

/-! ## The phases -/

/-- The number that a hexadecimal digit of either case writes. -/
def hexValue? (c : Char) : Option Nat :=
  if '0' ≤ c ∧ c ≤ '9' then some (c.toNat - 0x30)
  else if 'a' ≤ c ∧ c ≤ 'f' then some (c.toNat - 0x61 + 10)
  else if 'A' ≤ c ∧ c ≤ 'F' then some (c.toNat - 0x41 + 10)
  else none

/-- The character of a code unit. Half of a surrogate pair is none. -/
def charOfUnit? (unit : Nat) : Option Char :=
  if unit.isValidChar then some (Char.ofNat unit) else none

/-- Reads an escape of a code unit behind its backslash: `u`, once or more, and four digits. -/
def readUnit? (s : List Char) : Option (Char × { rest : List Char // rest.length < s.length }) :=
  let behind := s.dropWhile (· == 'u')
  if h : 4 ≤ behind.length then do
    let digits ← (behind.take 4).mapM hexValue?
    let c ← charOfUnit? (digits.foldl (16 * · + ·) 0)
    return (c, ⟨behind.drop 4, by
      have : behind.length ≤ s.length := (List.dropWhile_suffix _).length_le
      rw [List.length_drop]
      omega⟩)
  else none

/-- The first phase. `odd` tells whether the number of backslashes right before the text is odd. -/
def decodeUnits (odd : Bool) (s : List Char) : Option (List Char) :=
  match s with
  | [] => some []
  | c :: rest =>
    if c ≠ '\\' then (decodeUnits false rest).map (c :: ·)
    else if rest.head? = some 'u' ∧ odd = false then do
      let (unit, ⟨after, _⟩) ← readUnit? rest
      (decodeUnits false after).map (unit :: ·)
    else (decodeUnits (!odd) rest).map ('\\' :: ·)
  termination_by s.length

/-- The character that an escape of a literal stands for, by what is behind its backslash. -/
def escapeMeaning? (c : Char) : Option Char :=
  match c with
  | '\\' => some '\\'
  | '"' => some '"'
  | 'n' => some '\n'
  | 't' => some '\t'
  | 'r' => some '\r'
  | 'b' => some '\x08'
  | 'f' => some '\x0c'
  | _ => none

/-- A character that ends a line. -/
def endsLine (c : Char) : Bool := c == '\n' || c == '\r'

/-- Reads a literal behind the quote that opens it: its text, and what is behind the quote that closes it. -/
def readQuoted? : List Char → Option (List Char × List Char)
  | [] => none
  | '"' :: rest => some ([], rest)
  | ['\\'] => none
  | '\\' :: c :: rest => do
    let meant ← escapeMeaning? c
    (readQuoted? rest).map fun (text, after) => (meant :: text, after)
  | c :: rest => if endsLine c then none else (readQuoted? rest).map fun (text, after) => (c :: text, after)

/-- The second phase, where a literal has to stand: its text, and what is behind it. -/
def readLiteral? : List Char → Option (List Char × List Char)
  | '"' :: rest => readQuoted? rest
  | _ => none

/-! ## One step -/

section Steps

variable {c d : Char} {s : List Char}

theorem decodeUnits_nil (odd : Bool) : decodeUnits odd [] = some [] := by
  rw [decodeUnits]

theorem decodeUnits_cons (h : c ≠ '\\') (odd : Bool) (s : List Char) :
    decodeUnits odd (c :: s) = (decodeUnits false s).map (c :: ·) := by
  rw [decodeUnits, if_pos h]

/-- A backslash that starts no escape, and what is behind it. It may be another backslash, which starts none
either. -/
theorem decodeUnits_pair (h : d ≠ 'u') (s : List Char) :
    decodeUnits false ('\\' :: d :: s) = (decodeUnits false s).map (['\\', d] ++ ·) := by
  have hmark : ¬((d :: s).head? = some 'u' ∧ false = false) := by simp [h]
  rw [decodeUnits, if_neg (not_not_intro rfl), if_neg hmark, Bool.not_false]
  by_cases hslash : d = '\\'
  · subst hslash
    have hodd : ¬(s.head? = some 'u' ∧ true = false) := by simp
    rw [decodeUnits, if_neg (not_not_intro rfl), if_neg hodd, Bool.not_true, Option.map_map]
    rfl
  · rw [decodeUnits_cons hslash, Option.map_map]
    rfl

theorem readQuoted?_pair (h : escapeMeaning? d = some c) (s : List Char) :
    readQuoted? ('\\' :: d :: s) = (readQuoted? s).map fun (text, after) => (c :: text, after) := by
  rw [readQuoted?, h]
  rfl

theorem readQuoted?_cons (hquote : c ≠ '"') (hslash : c ≠ '\\') (hline : endsLine c = false)
    (s : List Char) :
    readQuoted? (c :: s) = (readQuoted? s).map fun (text, after) => (c :: text, after) := by
  have hopen : readQuoted? (c :: s) =
      if endsLine c then none else (readQuoted? s).map fun (text, after) => (c :: text, after) :=
    readQuoted?.eq_5 c s hquote (fun hc _ => hslash hc) fun _ _ hc _ => hslash hc
  rw [hopen, hline, if_neg Bool.false_ne_true]

end Steps

/-! ## Escapes of code units -/

/-- The digits of a number, of either case, are read as its last places. -/
theorem mapM_hexValue?_fixedHex {digit : Nat → Char} (hdigit : ∀ d < 16, hexValue? (digit d) = some d)
    (places n : Nat) :
    ∃ digits, (Text.fixedHex digit places n).mapM hexValue? = some digits ∧
      digits.foldl (16 * · + ·) 0 = n % 16 ^ places := by
  induction places generalizing n with
  | zero => exact ⟨[], rfl, (Nat.mod_one n).symm⟩
  | succ places ih =>
    obtain ⟨digits, hdigits, hvalue⟩ := ih (n / 16)
    have hlast : hexValue? (digit (n % 16)) = some (n % 16) := hdigit _ (Nat.mod_lt n (by decide))
    refine ⟨digits ++ [n % 16], ?_, ?_⟩
    · rw [Text.fixedHex, List.mapM_append, hdigits]
      simp [hlast]
    · rw [List.foldl_append, hvalue, Nat.pow_succ']
      show 16 * (n / 16 % 16 ^ places) + n % 16 = n % (16 * 16 ^ places)
      rw [Nat.mod_mul, Nat.add_comm]

theorem charOfUnit?_toNat (c : Char) : charOfUnit? c.toNat = some c := by
  have hvalid : c.toNat.isValidChar := c.valid
  rw [charOfUnit?, if_pos hvalid, Char.ofNat_toNat]

/-- The digits of a character that has only one code unit are read as this character. -/
theorem readUnit?_fixedHex {c : Char} (h : c.toNat < 16 ^ 4) (rest : List Char) :
    ∃ after, readUnit? ('u' :: (Text.fixedHex Text.hexLower 4 c.toNat ++ rest)) = some (c, after) ∧
      after.1 = rest := by
  have hlower : ∀ d < 16, hexValue? (Text.hexLower d) = some d := by decide
  obtain ⟨digits, hdigits, hvalue⟩ := mapM_hexValue?_fixedHex hlower 4 c.toNat
  rw [Nat.mod_eq_of_lt h] at hvalue
  have hlength := Text.length_fixedHex Text.hexLower 4 c.toNat
  have hbehind : ('u' :: (Text.fixedHex Text.hexLower 4 c.toNat ++ rest)).dropWhile (· == 'u') =
      Text.fixedHex Text.hexLower 4 c.toNat ++ rest := by
    have hall : ∀ n < 16, (Text.hexLower n == 'u') = false := by decide
    cases hhex : Text.fixedHex Text.hexLower 4 c.toNat with
    | nil =>
      rw [hhex] at hlength
      exact absurd hlength (by decide)
    | cons first others =>
      obtain ⟨n, hn, rfl⟩ := Text.exists_digit_of_mem_fixedHex (hhex ▸ List.mem_cons_self)
      simp [hall n hn]
  have hdropped : (Text.fixedHex Text.hexLower 4 c.toNat ++ rest).drop 4 = rest :=
    List.drop_left' hlength
  have hlong : 4 ≤ (Text.fixedHex Text.hexLower 4 c.toNat ++ rest).length := by
    rw [List.length_append]
    omega
  unfold readUnit?
  simp only [hbehind, List.take_left' hlength, hdigits, dif_pos hlong, Option.bind_eq_bind,
    Option.bind_some, hvalue, charOfUnit?_toNat]
  exact ⟨_, rfl, hdropped⟩

/-! ## Parts of a literal -/

/-- Whether no line ends in a text. -/
def OneLine (s : List Char) : Prop := ∀ c ∈ s, endsLine c = false

instance {s : List Char} : Decidable (OneLine s) := List.decidableBAll _ s

/-- Whether a part of a literal is this code behind the first phase, whatever stands behind it. -/
def Decodes (chunk code : List Char) : Prop :=
  ∀ rest, decodeUnits false (chunk ++ rest) = (decodeUnits false rest).map (code ++ ·)

/-- Whether code in a literal is read as this text in the second phase, whatever stands behind it. -/
def Reads (code text : List Char) : Prop :=
  ∀ rest, readQuoted? (code ++ rest) = (readQuoted? rest).map fun (more, after) => (text ++ more, after)

/-- Whether a part of a literal stands for a text, in code where no line ends in either phase. -/
def StandsFor (chunk text : List Char) : Prop :=
  OneLine chunk ∧ ∃ code, Decodes chunk code ∧ OneLine code ∧ Reads code text

section Parts

variable {chunk chunk' code code' text text' s t : List Char} {c d : Char}

theorem oneLine_append (h : OneLine s) (h' : OneLine t) : OneLine (s ++ t) :=
  List.forall_mem_append.2 ⟨h, h'⟩

theorem Decodes.append (h : Decodes chunk code) (h' : Decodes chunk' code') :
    Decodes (chunk ++ chunk') (code ++ code') := by
  intro rest
  rw [List.append_assoc, h, h', Option.map_map]
  congr 1
  funext more
  exact (List.append_assoc code code' more).symm

theorem Reads.append (h : Reads code text) (h' : Reads code' text') :
    Reads (code ++ code') (text ++ text') := by
  intro rest
  rw [List.append_assoc, h, h', Option.map_map]
  congr 1
  funext ⟨more, after⟩
  show (text ++ (text' ++ more), after) = (text ++ text' ++ more, after)
  rw [List.append_assoc]

theorem standsFor_nil : StandsFor [] [] := by
  refine ⟨List.forall_mem_nil _, [], fun rest => ?_, List.forall_mem_nil _, fun rest => ?_⟩
  · simp
  · simp

/-- Parts that stand next to each other stand for their texts. -/
theorem StandsFor.append (h : StandsFor chunk text) (h' : StandsFor chunk' text') :
    StandsFor (chunk ++ chunk') (text ++ text') := by
  obtain ⟨hline, code, hdecodes, hcode, hreads⟩ := h
  obtain ⟨hline', code', hdecodes', hcode', hreads'⟩ := h'
  exact ⟨oneLine_append hline hline', code ++ code', hdecodes.append hdecodes',
    oneLine_append hcode hcode', hreads.append hreads'⟩

/-- An escape of the second phase is nothing to the first one. -/
theorem standsFor_pair (hmark : d ≠ 'u') (hline : endsLine d = false) (h : escapeMeaning? d = some c) :
    StandsFor ['\\', d] [c] := by
  have honeLine : OneLine ['\\', d] :=
    List.forall_mem_cons.2 ⟨by decide, List.forall_mem_singleton.2 hline⟩
  refine ⟨honeLine, ['\\', d], fun rest => ?_, honeLine, fun rest => ?_⟩
  · exact decodeUnits_pair hmark rest
  · exact readQuoted?_pair h rest

/-- A character that means nothing in either phase stands for itself. -/
theorem reads_plain (hquote : c ≠ '"') (hslash : c ≠ '\\') (hline : endsLine c = false) :
    Reads [c] [c] :=
  fun rest => readQuoted?_cons hquote hslash hline rest

theorem decodes_codeUnitEscape (h : c.toNat < 16 ^ 4) : Decodes (codeUnitEscape c) [c] := by
  intro rest
  obtain ⟨⟨after, hshorter⟩, hread, hafter⟩ := readUnit?_fixedHex h rest
  have hescape : codeUnitEscape c ++ rest =
      '\\' :: 'u' :: (Text.fixedHex Text.hexLower 4 c.toNat ++ rest) := rfl
  rw [hescape, decodeUnits, if_neg (not_not_intro rfl), if_pos ⟨rfl, rfl⟩, hread]
  show (decodeUnits false after).map (c :: ·) = _
  rw [show after = rest from hafter]
  rfl

theorem oneLine_codeUnitEscape (c : Char) : OneLine (codeUnitEscape c) := by
  have hall : ∀ n < 16, endsLine (Text.hexLower n) = false := by decide
  refine oneLine_append (by decide) fun d hd => ?_
  obtain ⟨n, hn, rfl⟩ := Text.exists_digit_of_mem_fixedHex hd
  exact hall n hn

/-- **A character is read back in both phases**, whatever stands behind it. -/
theorem standsFor_literalChar (c : Char) : StandsFor (literalChar c) [c] := by
  fun_cases literalChar c
  case case8 hslash hquote hfeed _ hreturn _ _ hcontrol =>
    have hsmall : c.toNat < 16 ^ 4 := by omega
    have hline : endsLine c = false := by simp [endsLine, hfeed, hreturn]
    exact ⟨oneLine_codeUnitEscape c, [c], decodes_codeUnitEscape hsmall,
      List.forall_mem_singleton.2 hline, reads_plain hquote hslash hline⟩
  case case9 hslash hquote hfeed _ hreturn _ _ _ =>
    have hline : endsLine c = false := by simp [endsLine, hfeed, hreturn]
    exact ⟨List.forall_mem_singleton.2 hline, [c], decodeUnits_cons hslash false,
      List.forall_mem_singleton.2 hline, reads_plain hquote hslash hline⟩
  all_goals
    subst c
    exact standsFor_pair (by decide) (by decide) rfl

theorem standsFor_flatMap (text : List Char) : StandsFor (text.flatMap literalChar) text := by
  induction text with
  | nil => exact standsFor_nil
  | cons c text ih =>
    rw [List.flatMap_cons]
    exact (standsFor_literalChar c).append ih

end Parts

/-! ## Literals -/

theorem toList_literal (text : String) :
    (literal text).toList = ['"'] ++ text.toList.flatMap literalChar ++ ['"'] :=
  String.toList_ofList

/-- What a literal is behind the first phase, and what the second one reads there. -/
theorem exists_code_of_literal (text : String) :
    ∃ code, Decodes (literal text).toList code ∧ OneLine code ∧
      ∀ rest, readLiteral? (code ++ rest) = some (text.toList, rest) := by
  obtain ⟨-, code, hdecodes, hline, hreads⟩ := standsFor_flatMap text.toList
  have hquote : Decodes ['"'] ['"'] := decodeUnits_cons (by decide) false
  have hquoteLine : OneLine ['"'] := by decide
  refine ⟨['"'] ++ code ++ ['"'], ?_, oneLine_append (oneLine_append hquoteLine hline) hquoteLine, ?_⟩
  · rw [toList_literal]
    exact (hquote.append hdecodes).append hquote
  · intro rest
    show readQuoted? (code ++ ['"'] ++ rest) = some (text.toList, rest)
    rw [List.append_assoc, hreads]
    show some (text.toList ++ [], rest) = some (text.toList, rest)
    rw [List.append_nil]

theorem oneLine_literal (text : String) : OneLine (literal text).toList := by
  have hquote : OneLine ['"'] := by decide
  rw [toList_literal]
  exact oneLine_append (oneLine_append hquote (standsFor_flatMap text.toList).1) hquote

/-- A literal is read as its text, and the code behind it as if there were no literal. -/
theorem read_literal_append (text : String) (rest : List Char) :
    (decodeUnits false ((literal text).toList ++ rest)).bind readLiteral? =
      (decodeUnits false rest).map fun after => (text.toList, after) := by
  obtain ⟨code, hdecodes, -, hreads⟩ := exists_code_of_literal text
  rw [hdecodes]
  cases decodeUnits false rest with
  | none => rfl
  | some after => exact hreads after

theorem literal_injective {text other : String} (h : literal other = literal text) : other = text := by
  have hother := read_literal_append other []
  rw [h, read_literal_append text [], decodeUnits_nil] at hother
  have hchars : text.toList = other.toList := by simpa using hother
  exact String.toList_inj.1 hchars.symm

/-- **A literal stands for its text.** Read in both phases it is one string literal, from its first character
to its last, and its text is the one that was written. It ends there whatever code stands behind it, and no
line ends in it in either phase. So no two texts have the same literal. -/
theorem literal_reads_back (text : String) :
    OneLine (literal text).toList ∧
    (∃ code, decodeUnits false (literal text).toList = some code ∧ OneLine code ∧
      readLiteral? code = some (text.toList, [])) ∧
    (∀ rest, (decodeUnits false ((literal text).toList ++ rest)).bind readLiteral? =
      (decodeUnits false rest).map fun after => (text.toList, after)) ∧
    ∀ other, literal other = literal text ↔ other = text := by
  obtain ⟨code, hdecodes, hline, hreads⟩ := exists_code_of_literal text
  have hdecoded := hdecodes []
  have hread := hreads []
  rw [List.append_nil, decodeUnits_nil, Option.map_some, List.append_nil] at hdecoded
  rw [List.append_nil] at hread
  exact ⟨oneLine_literal text, ⟨code, hdecoded, hline, hread⟩, read_literal_append text,
    fun other => ⟨literal_injective, congrArg literal⟩⟩

/-- Written as an escape of a code unit, a quote does end a literal; the literal of that escape has a second
backslash before it, and goes on. -/
example : (decodeUnits false "\"\\u0022\"".toList).bind readLiteral? = some ([], ['"']) ∧
    (decodeUnits false (literal "\\u0022").toList).bind readLiteral? = some ("\\u0022".toList, []) := by
  decide +kernel

end BlockApp.Source
