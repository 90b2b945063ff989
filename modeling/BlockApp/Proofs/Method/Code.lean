import BlockApp.Proofs.Nesting.Lossless
import BlockApp.Source.Method

/-!
# The code of a record

What a record is as a line of its method, said of its tag and parameters alone. The lines of a block and
of its branches are those of their records.

* `Source.codeOf` — the code of a tag with parameters
* `CodeForm`, `codeForm_of_codeOf`, `codeOf_of_codeForm` — the forms it has, one for each role of a tag
* `codeOf_getLast?`, `codeOf_head?` — its first and last characters tell what it opens and closes
* `blockLines_of_isLeaf`, `blockLines_loop`, `blockLines_ifThen`, `otherwiseLines_elseIf` — the line
  that a block or branch begins with
-/

namespace BlockApp.Source

variable {scene : Scene} {place : MethodScene} {level before number : Nat}

/-! ## Code -/

/-- The first value of a local variable in code. -/
def initialText (scene : Scene) (type : ValueType) : Option Expr → Except CodeFault String
  | some value => textOf scene value
  | none => .ok type.initial

/-- The code of a local variable's declaration. -/
def declareCode (scene : Scene) (typeName name : String) (value : Option Expr) :
    Except CodeFault String :=
  match ValueType.ofName? typeName with
  | some type => do return s!"{type.javaType} {name} = {← initialText scene type value};"
  | none => .error (.malformed (.localType typeName))

/-- The code of a statement: its template with the parameters filled in. -/
def statementCode (scene : Scene) (tag : String) (params : List Expr) : Except CodeFault String :=
  match statements.lookup tag with
  | none => .error (.unknownTag tag)
  | some template =>
    if h : params.length = template.arity then do
      let ⟨texts, ht⟩ ← textsOf scene params
      return template.fill texts (Template.length_texts ht h)
    else wrongArity tag template params

/-- The code of a record. `number` is that of its loop among the counted loops of the method. -/
def codeOf (scene : Scene) (number : Nat) (tag : String) (params : List Expr) :
    Except CodeFault String :=
  match BlockTag.of tag, params with
  | .ifThen, [condition] => do return s!"if ({← textOf scene condition}) \x7b"
  | .elseIf, [condition] => do return s!"\x7d else if ({← textOf scene condition}) \x7b"
  | .elseDo, [] => .ok "\x7d else \x7b"
  | .times, [count] => do
    let counter := counterName number
    let limit ← textOf scene count
    return s!"for (int {counter} = 0; {counter} < (int) ({limit}); {counter}++) \x7b"
  | .forever, [] => .ok "while (true) \x7b"
  | .whileTrue, [condition] => do return s!"while ({← textOf scene condition}) \x7b"
  | .declare, [.literal .enum typeName, .literal .enum name] => declareCode scene typeName name none
  | .declare, [.literal .enum typeName, .literal .enum name, value] =>
    declareCode scene typeName name (some value)
  | .set, [.reference .variable target, value] => do return s!"{target} = {← textOf scene value};"
  | .increase, [.reference .variable target] => .ok s!"{target}++;"
  | .decrease, [.reference .variable target] => .ok s!"{target}--;"
  | .call, .literal .enum function :: args => do
    let ⟨texts, _⟩ ← textsOf scene args
    let all := ", ".intercalate texts
    return s!"_{function}({all});"
  | .statement, params => statementCode scene tag params
  | _, _ => .error (.unknownTag tag)

/-! ## Forms of code -/

/-- The forms that code has: for each role of a tag, the parameters it takes and the text they give. -/
inductive CodeForm (scene : Scene) (number : Nat) (tag : String) : BlockTag → List Expr → String → Prop
  | ifThen {condition : Expr} {shown : String} (h : textOf scene condition = .ok shown) :
    CodeForm scene number tag .ifThen [condition] s!"if ({shown}) \x7b"
  | elseIf {condition : Expr} {shown : String} (h : textOf scene condition = .ok shown) :
    CodeForm scene number tag .elseIf [condition] s!"\x7d else if ({shown}) \x7b"
  | elseDo : CodeForm scene number tag .elseDo [] "\x7d else \x7b"
  | times {count : Expr} {limit : String} (h : textOf scene count = .ok limit) :
    CodeForm scene number tag .times [count]
      s!"for (int {counterName number} = 0; {counterName number} < (int) ({limit}); {counterName number}++) \x7b"
  | forever : CodeForm scene number tag .forever [] "while (true) \x7b"
  | whileTrue {condition : Expr} {shown : String} (h : textOf scene condition = .ok shown) :
    CodeForm scene number tag .whileTrue [condition] s!"while ({shown}) \x7b"
  | declare {typeName name text : String} (h : declareCode scene typeName name none = .ok text) :
    CodeForm scene number tag .declare [.literal .enum typeName, .literal .enum name] text
  | declareAs {typeName name text : String} {value : Expr}
    (h : declareCode scene typeName name (some value) = .ok text) :
    CodeForm scene number tag .declare [.literal .enum typeName, .literal .enum name, value] text
  | set {target shown : String} {value : Expr} (h : textOf scene value = .ok shown) :
    CodeForm scene number tag .set [.reference .variable target, value] s!"{target} = {shown};"
  | increase {target : String} :
    CodeForm scene number tag .increase [.reference .variable target] s!"{target}++;"
  | decrease {target : String} :
    CodeForm scene number tag .decrease [.reference .variable target] s!"{target}--;"
  | call {function : String} {args : List Expr}
    {texts : { texts : List String // texts.length = args.length }}
    (h : textsOf scene args = .ok texts) :
    CodeForm scene number tag .call (.literal .enum function :: args)
      ("_" ++ function ++ "(" ++ ", ".intercalate texts.1 ++ ");")
  | statement {params : List Expr} {text : String} (h : statementCode scene tag params = .ok text) :
    CodeForm scene number tag .statement params text

theorem codeForm_of_codeOf {tag : String} {params : List Expr} {text : String}
    (h : codeOf scene number tag params = .ok text) :
    CodeForm scene number tag (BlockTag.of tag) params text := by
  unfold codeOf at h
  -- only the role of the tag counts from here on
  generalize BlockTag.of tag = role at h ⊢
  split at h
  all_goals try simp only [Except.bind_eq_ok_iff, Except.pure_eq_ok_iff, Except.ok.injEq] at h
  · obtain ⟨shown, hshown, rfl⟩ := h
    exact .ifThen hshown
  · obtain ⟨shown, hshown, rfl⟩ := h
    exact .elseIf hshown
  · subst h
    exact .elseDo
  · obtain ⟨limit, hlimit, rfl⟩ := h
    exact .times hlimit
  · subst h
    exact .forever
  · obtain ⟨shown, hshown, rfl⟩ := h
    exact .whileTrue hshown
  · exact .declare h
  · exact .declareAs h
  · obtain ⟨shown, hshown, rfl⟩ := h
    exact .set hshown
  · subst h
    exact .increase
  · subst h
    exact .decrease
  · obtain ⟨texts, htexts, rfl⟩ := h
    exact .call htexts
  · exact .statement h
  · cases h

theorem codeOf_of_codeForm {tag : String} {role : BlockTag} {params : List Expr} {text : String}
    (hrole : BlockTag.of tag = role) (h : CodeForm scene number tag role params text) :
    codeOf scene number tag params = .ok text := by
  unfold codeOf
  rw [hrole]
  cases h with
  | ifThen hshown | elseIf hshown | whileTrue hshown | set hshown =>
    simp only [hshown]
    rfl
  | times hlimit =>
    simp only [hlimit]
    rfl
  | elseDo | forever | increase | decrease => rfl
  | declare hcode | declareAs hcode | statement hcode => exact hcode
  | call htexts =>
    simp only [htexts]
    rfl

/-! ## First and last characters -/

theorem getLast?_append (s : String) {t : String} {c : Char} (h : t.toList.getLast? = some c) :
    (s ++ t).toList.getLast? = some c := by
  rw [String.toList_append, List.getLast?_append, h, Option.some_or]

theorem head?_append {s : String} (t : String) {c : Char} (h : s.toList.head? = some c) :
    (s ++ t).toList.head? = some c := by
  rw [String.toList_append, List.head?_append, h, Option.some_or]

/-- A template ends as its last text does. -/
theorem Template.getLast?_fill {template : Template} {s : String} {c : Char}
    (h : template.pieces.getLast? = some (.text s)) (hs : s.toList.getLast? = some c)
    (texts : List String) (hlength : texts.length = template.arity) :
    (template.fill texts hlength).toList.getLast? = some c := by
  obtain ⟨pieces, hpieces⟩ := List.getLast?_eq_some_iff.1 h
  rw [Template.fill, hpieces, List.map_append, String.join_append]
  exact getLast?_append _ (by simpa [Piece.fill] using hs)

/-- Whether the last piece of a template is a text that ends with a semicolon. -/
def Template.endsStatement (template : Template) : Bool :=
  match template.pieces.getLast? with
  | some (.text s) => s.toList.getLast? == some ';'
  | _ => false

/-- The templates of statements end with a semicolon. -/
theorem getLast?_of_lookup_statements {tag : String} {template : Template}
    (h : statements.lookup tag = some template) :
    ∃ s, template.pieces.getLast? = some (.text s) ∧ s.toList.getLast? = some ';' := by
  have hall : statements.all (·.2.endsStatement) = true := by decide
  obtain ⟨before, after, hmem, -⟩ := List.lookup_eq_some_iff.1 h
  have hlast : template.endsStatement = true :=
    List.all_eq_true.1 hall (tag, template) (by rw [hmem]; simp)
  unfold Template.endsStatement at hlast
  split at hlast
  · next s hs => exact ⟨s, hs, eq_of_beq hlast⟩
  · simp at hlast

theorem statementCode_getLast? {tag : String} {params : List Expr} {text : String}
    (h : statementCode scene tag params = .ok text) : text.toList.getLast? = some ';' := by
  unfold statementCode at h
  split at h
  · simp at h
  · next template hlookup =>
    split at h
    · simp only [Except.bind_eq_ok_iff, Except.pure_eq_ok_iff] at h
      obtain ⟨⟨texts, ht⟩, -, rfl⟩ := h
      obtain ⟨s, hlast, hs⟩ := getLast?_of_lookup_statements hlookup
      exact Template.getLast?_fill hlast hs _ _
    · simp [wrongArity] at h

theorem declareCode_getLast? {typeName name text : String} {value : Option Expr}
    (h : declareCode scene typeName name value = .ok text) : text.toList.getLast? = some ';' := by
  unfold declareCode at h
  split at h
  · simp only [Except.bind_eq_ok_iff, Except.pure_eq_ok_iff] at h
    obtain ⟨value, -, rfl⟩ := h
    exact getLast?_append _ (by decide)
  · simp at h

/-- What opens a sequence of blocks ends with an opening brace, all else with a semicolon. -/
theorem codeOf_getLast? {tag : String} {params : List Expr} {text : String}
    (h : codeOf scene number tag params = .ok text) :
    text.toList.getLast? =
      some (if (BlockTag.of tag).isBranch || (BlockTag.of tag).holdsBlocks then '\x7b' else ';') := by
  have hform := codeForm_of_codeOf h
  generalize BlockTag.of tag = role at hform ⊢
  cases hform with
  | ifThen | elseIf | times | whileTrue => exact getLast?_append _ (by decide)
  | elseDo | forever => decide
  | declare hcode | declareAs hcode => exact declareCode_getLast? hcode
  | set | increase | decrease | call => exact getLast?_append _ (by decide)
  | statement hcode => exact statementCode_getLast? hcode

/-- Of what opens a sequence of blocks, the branches alone begin with a closing brace. -/
theorem codeOf_head? {tag : String} {params : List Expr} {text : String}
    (h : codeOf scene number tag params = .ok text)
    (hopens : ((BlockTag.of tag).isBranch || (BlockTag.of tag).holdsBlocks) = true) :
    text.toList.head? = some '\x7d' ↔ (BlockTag.of tag).isBranch = true := by
  have hform := codeForm_of_codeOf h
  generalize BlockTag.of tag = role at hform hopens ⊢
  cases hform with
  | @ifThen condition shown =>
    have hhead : (s!"if ({shown}) \x7b").toList.head? = some 'i' :=
      head?_append _ (head?_append _ (by decide))
    rw [hhead]
    decide
  | @elseIf condition shown =>
    have hhead : (s!"\x7d else if ({shown}) \x7b").toList.head? = some '\x7d' :=
      head?_append _ (head?_append _ (by decide))
    rw [hhead]
    decide
  | @times count limit =>
    simp only [String.append_assoc]
    rw [head?_append (s := toString "for (int ") _ (c := 'f') (by decide)]
    decide
  | @whileTrue condition shown =>
    have hhead : (s!"while ({shown}) \x7b").toList.head? = some 'w' :=
      head?_append _ (head?_append _ (by decide))
    rw [hhead]
    decide
  | elseDo | forever => decide
  | declare | declareAs | set | increase | decrease | call | statement =>
    simp [BlockTag.isBranch, BlockTag.holdsBlocks] at hopens

/-- No code is a closing brace alone. -/
theorem codeOf_ne_closing {tag : String} {params : List Expr} {text : String}
    (h : codeOf scene number tag params = .ok text) : text ≠ "\x7d" := by
  rintro rfl
  have hlast := codeOf_getLast? h
  split at hlast <;> exact absurd hlast (by decide)

/-! ## Lines -/

theorem paramText_eq_ok_iff {id text : String} {e : Expr} :
    paramText place id e = .ok text ↔ textOf place.scene e = .ok text := by
  rw [paramText, Except.mapError_eq_ok_iff]

theorem paramTexts_eq_ok_iff {id : String} {es : List Expr} {texts : List String} :
    paramTexts place id es = .ok texts ↔
      ∃ found, textsOf place.scene es = .ok found ∧ found.1 = texts := by
  unfold paramTexts
  cases textsOf place.scene es <;> simp [Except.map]

theorem statementLine_code {id tag : String} {params : List Expr} {line : Line}
    (h : statementLine place level id tag params = .ok line) :
    line.level = level ∧ statementCode place.scene tag params = .ok line.text := by
  rw [statementLine, Except.mapError_eq_ok_iff] at h
  unfold statementCode
  split at h
  · simp at h
  · next template hlookup =>
    split at h
    · next hlength =>
      simp only [Except.bind_eq_ok_iff, Except.pure_eq_ok_iff] at h
      obtain ⟨⟨texts, ht⟩, htexts, rfl⟩ := h
      simp [hlookup, hlength, htexts]
    · simp [wrongArity] at h

theorem declareLine_code {id name : String} {type : ValueType} {value : Option Expr} {line : Line}
    (h : declareLine place level id type name value = .ok line) :
    line.level = level ∧ declareCode place.scene type.name name value = .ok line.text := by
  cases value with
  | some value =>
    simp only [declareLine, Except.bind_eq_ok_iff, Except.pure_eq_ok_iff, paramText_eq_ok_iff] at h
    obtain ⟨text, htext, rfl⟩ := h
    simp [declareCode, ValueType.ofName?_name, initialText, htext]
  | none =>
    cases h
    simp [declareCode, ValueType.ofName?_name, initialText]

theorem assignLine_code {id target : String} {change : Change} {line : Line}
    (h : assignLine place level id target change = .ok line) :
    line.level = level ∧
      codeOf place.scene number change.tag (.reference .variable target :: change.params) =
        .ok line.text := by
  cases change with
  | set value =>
    simp only [assignLine, Except.bind_eq_ok_iff, Except.pure_eq_ok_iff, paramText_eq_ok_iff] at h
    obtain ⟨shown, hshown, _, rfl, rfl⟩ := h
    exact ⟨rfl, codeOf_of_codeForm rfl (.set hshown)⟩
  | increase | decrease =>
    cases h
    exact ⟨rfl, rfl⟩

theorem callLine_code {id function : String} {args : List Expr} {line : Line}
    (h : callLine place level id function args = .ok line) :
    line.level = level ∧
      codeOf place.scene number Block.callTag (.literal .enum function :: args) = .ok line.text := by
  simp only [callLine, Except.bind_eq_ok_iff, Except.pure_eq_ok_iff, paramTexts_eq_ok_iff] at h
  obtain ⟨texts, ⟨found, hfound, rfl⟩, rfl⟩ := h
  exact ⟨rfl, codeOf_of_codeForm (by decide) (.call hfound)⟩

theorem loopLine_code {id : String} {head : Loop} {line : Line}
    (h : loopLine place level (before + 1) id head = .ok line) :
    line.level = level ∧
      codeOf place.scene (countedWith before head) head.tag head.params = .ok line.text := by
  cases head with
  | times count =>
    simp only [loopLine, Except.bind_eq_ok_iff, Except.pure_eq_ok_iff, paramText_eq_ok_iff] at h
    obtain ⟨limit, hlimit, _, rfl, rfl⟩ := h
    exact ⟨rfl, codeOf_of_codeForm rfl (.times hlimit)⟩
  | forever =>
    cases h
    exact ⟨rfl, rfl⟩
  | whileTrue condition =>
    simp only [loopLine, Except.bind_eq_ok_iff, Except.pure_eq_ok_iff, paramText_eq_ok_iff] at h
    obtain ⟨shown, hshown, _, rfl, rfl⟩ := h
    exact ⟨rfl, codeOf_of_codeForm rfl (.whileTrue hshown)⟩

/-! ## Lines of blocks -/

/-- A block without others in it is one line. -/
theorem blockLines_of_isLeaf (number : Nat) {block : Block} (hleaf : block.isLeaf = true)
    {declarations : Declarations} (hformed : block.Formed declarations) {lines : List Line}
    (h : blockLines place level before block = .ok lines) :
    ∃ line, lines = [line] ∧ line.level = level ∧
      codeOf place.scene number block.tag block.params = .ok line.text := by
  cases block with
  | statement id tag params =>
    simp only [blockLines, Except.bind_eq_ok_iff, Except.pure_eq_ok_iff] at h
    obtain ⟨line, hline, rfl⟩ := h
    obtain ⟨hlevel, hcode⟩ := statementLine_code hline
    refine ⟨line, rfl, hlevel, ?_⟩
    have hrole : BlockTag.of tag = .statement := hformed
    exact codeOf_of_codeForm hrole (.statement hcode)
  | declare id type name value =>
    simp only [blockLines, Except.bind_eq_ok_iff, Except.pure_eq_ok_iff] at h
    obtain ⟨line, hline, rfl⟩ := h
    obtain ⟨hlevel, hcode⟩ := declareLine_code hline
    refine ⟨line, rfl, hlevel, ?_⟩
    cases value <;> exact hcode
  | assign id target change =>
    simp only [blockLines, Except.bind_eq_ok_iff, Except.pure_eq_ok_iff] at h
    obtain ⟨line, hline, rfl⟩ := h
    exact ⟨line, rfl, assignLine_code hline⟩
  | call id function args =>
    simp only [blockLines, Except.bind_eq_ok_iff, Except.pure_eq_ok_iff] at h
    obtain ⟨line, hline, rfl⟩ := h
    exact ⟨line, rfl, callLine_code hline⟩
  | loop | ifThen => simp [Block.isLeaf] at hleaf

/-- A loop is its line, those of its blocks, and a closing brace. -/
theorem blockLines_loop {id : String} {head : Loop} {body : List Block} {lines : List Line}
    (h : blockLines place level before (.loop id head body) = .ok lines) :
    ∃ line inner, lines = line :: inner ++ [Line.closing level] ∧ line.level = level ∧
      codeOf place.scene (countedWith before head) head.tag head.params = .ok line.text ∧
      sequenceLines place (level + 1) (countedWith before head) body = .ok inner := by
  simp only [blockLines, Except.bind_eq_ok_iff, Except.pure_eq_ok_iff] at h
  obtain ⟨line, hline, inner, hinner, rfl⟩ := h
  obtain ⟨rfl, hcode⟩ := loopLine_code hline
  exact ⟨line, inner, rfl, rfl, hcode, hinner⟩

/-- An `if` block is its line, those of its branches, and a closing brace. -/
theorem blockLines_ifThen (number : Nat) {id : String} {condition : Expr} {body : List Block}
    {otherwise : Otherwise} {lines : List Line}
    (h : blockLines place level before (.ifThen id condition body otherwise) = .ok lines) :
    ∃ line inner others, lines = line :: (inner ++ others) ++ [Line.closing level] ∧
      line.level = level ∧ codeOf place.scene number "if" [condition] = .ok line.text ∧
      sequenceLines place (level + 1) before body = .ok inner ∧
      otherwiseLines place id level (before + countedIn body) otherwise = .ok others := by
  simp only [blockLines, Except.bind_eq_ok_iff, Except.pure_eq_ok_iff, paramText_eq_ok_iff] at h
  obtain ⟨text, htext, inner, hinner, others, hothers, rfl⟩ := h
  exact ⟨_, inner, others, rfl, rfl, codeOf_of_codeForm (by decide) (.ifThen htext), hinner, hothers⟩

theorem otherwiseLines_elseDo (number : Nat) {id : String} {body : List Block} {lines : List Line}
    (h : otherwiseLines place id level before (.elseDo body) = .ok lines) :
    ∃ line inner, lines = line :: inner ∧ line.level = level ∧
      codeOf place.scene number "else" [] = .ok line.text ∧
      sequenceLines place (level + 1) before body = .ok inner := by
  simp only [otherwiseLines, Except.bind_eq_ok_iff, Except.pure_eq_ok_iff] at h
  obtain ⟨inner, hinner, rfl⟩ := h
  exact ⟨_, inner, rfl, rfl, rfl, hinner⟩

theorem otherwiseLines_elseIf (number : Nat) {id : String} {condition : Expr} {body : List Block}
    {otherwise : Otherwise} {lines : List Line}
    (h : otherwiseLines place id level before (.elseIf condition body otherwise) = .ok lines) :
    ∃ line inner others, lines = line :: (inner ++ others) ∧ line.level = level ∧
      codeOf place.scene number "elseIf" [condition] = .ok line.text ∧
      sequenceLines place (level + 1) before body = .ok inner ∧
      otherwiseLines place id level (before + countedIn body) otherwise = .ok others := by
  simp only [otherwiseLines, Except.bind_eq_ok_iff, Except.pure_eq_ok_iff, paramText_eq_ok_iff] at h
  obtain ⟨text, htext, inner, hinner, others, hothers, rfl⟩ := h
  exact ⟨_, inner, others, rfl, rfl, codeOf_of_codeForm (by decide) (.elseIf htext), hinner, hothers⟩

/-- Blocks one after the other are the lines of each. -/
theorem sequenceLines_cons {block : Block} {blocks : List Block} {lines : List Line}
    (h : sequenceLines place level before (block :: blocks) = .ok lines) :
    ∃ first rest, lines = first ++ rest ∧ blockLines place level before block = .ok first ∧
      sequenceLines place level (before + block.counted) blocks = .ok rest := by
  simp only [sequenceLines, Except.bind_eq_ok_iff, Except.pure_eq_ok_iff] at h
  obtain ⟨first, hfirst, rest, hrest, rfl⟩ := h
  exact ⟨first, rest, rfl, hfirst, hrest⟩

end BlockApp.Source
