import BlockApp.Proofs.Outcome
import BlockApp.Source.Expression

/-!
# Expressions are written completely

An expression has a text exactly if each of its parts can be written, at whatever depth it is. The text then
holds that of each part, as it is: every slot of a template is used, and what is put into one is not looked
at again, so braces in a literal stay where they are.

* `Expr.parts` — an expression and those inside of it
* `Supported` — a part that can be written, but for its arguments
* `Template.UsesAll` — a template that drops none of its arguments; all templates are such
* `exists_textOf_iff`, `shows_textOf` — which expressions have a text, and what is in it
-/

namespace BlockApp

/-! ## Parts -/

namespace Expr

mutual

/-- An expression and those inside of it, from left to right. -/
def parts : Expr → List Expr
  | .literal type value => [.literal type value]
  | .reference kind name => [.reference kind name]
  | .call tag args => .call tag args :: partsOf args

/-- Expressions and those inside of them, from left to right. -/
def partsOf : List Expr → List Expr
  | [] => []
  | e :: es => e.parts ++ partsOf es

end

theorem mem_partsOf_iff {part : Expr} {es : List Expr} : part ∈ partsOf es ↔ ∃ e ∈ es, part ∈ e.parts := by
  induction es with
  | nil => simp [partsOf]
  | cons e es ih => simp [partsOf, ih]

end Expr

namespace Source

variable {scene : Scene} {e part : Expr} {es : List Expr} {template : Template} {text tag value : String}
  {texts : List String}

/-- Whether an expression can be written, but for its arguments: an image is declared, a view is in the
layout, and a call is known and has as many arguments as its template takes. -/
def Supported (scene : Scene) : Expr → Prop
  | .literal .resource value => scene.resources.has .image value = true
  | .literal .string _ | .literal .number _ | .literal .boolean _ | .literal .color _
  | .literal .enum _ => True
  | .reference .view name => scene.views.has name = true
  | .reference .variable _ | .reference .argument _ => True
  | .call tag args => ∃ template, calls.lookup tag = some template ∧ args.length = template.arity

theorem exists_ite_eq_ok_iff {ε α : Type} {condition : Prop} [Decidable condition] {a : α} {fault : ε} :
    (∃ result, (if condition then .ok a else .error fault : Except ε α) = .ok result) ↔ condition := by
  split
  · next h => exact iff_of_true ⟨a, rfl⟩ h
  · next h => exact iff_of_false nofun h

theorem exists_literalText_iff {type : LiteralType} :
    (∃ text, literalText scene type value = .ok text) ↔ Supported scene (.literal type value) := by
  match type with
  | .resource => exact exists_ite_eq_ok_iff
  | .string | .number | .boolean | .color | .enum => exact iff_of_true ⟨_, rfl⟩ trivial

theorem exists_referenceText_iff {kind : ReferenceKind} {name : String} :
    (∃ text, referenceText scene kind name = .ok text) ↔ Supported scene (.reference kind name) := by
  match kind with
  | .view => exact exists_ite_eq_ok_iff
  | .variable | .argument => exact iff_of_true ⟨_, rfl⟩ trivial

/-- A call has a text if it fits its template and its arguments have. -/
theorem textOf_call_eq_ok_iff {args : List Expr} :
    textOf scene (.call tag args) = .ok text ↔
      ∃ template, calls.lookup tag = some template ∧ ∃ h : args.length = template.arity, ∃ texts,
        textsOf scene args = .ok texts ∧
          text = template.fill texts.1 (Template.length_texts texts.2 h) := by
  rw [textOf]
  cases hlookup : calls.lookup tag with
  | none => simp
  | some template =>
    simp only [Option.some.injEq, exists_eq_left']
    split
    · next hlength =>
      simp only [Except.bind_eq_ok_iff, Except.pure_eq_ok_iff, hlength, exists_true_left]
      exact exists_congr fun texts => and_congr_right fun _ => eq_comm
    · next hlength => simp [wrongArity, hlength]

mutual

/-- **An expression has a text exactly if all of its parts can be written.** -/
theorem exists_textOf_iff (e : Expr) :
    (∃ text, textOf scene e = .ok text) ↔ ∀ part ∈ e.parts, Supported scene part := by
  match e with
  | .literal type value => rw [Expr.parts, List.forall_mem_singleton, textOf, exists_literalText_iff]
  | .reference kind name => rw [Expr.parts, List.forall_mem_singleton, textOf, exists_referenceText_iff]
  | .call tag args =>
    rw [Expr.parts, List.forall_mem_cons, ← exists_textsOf_iff args]
    simp only [textOf_call_eq_ok_iff]
    constructor
    · rintro ⟨_, template, hlookup, hlength, texts, htexts, -⟩
      exact ⟨⟨template, hlookup, hlength⟩, texts, htexts⟩
    · rintro ⟨⟨template, hlookup, hlength⟩, texts, htexts⟩
      exact ⟨_, template, hlookup, hlength, texts, htexts, rfl⟩
  termination_by structural e

theorem exists_textsOf_iff (es : List Expr) :
    (∃ texts, textsOf scene es = .ok texts) ↔ ∀ part ∈ Expr.partsOf es, Supported scene part := by
  match es with
  | [] => exact iff_of_true ⟨_, rfl⟩ (by simp [Expr.partsOf])
  | e :: es =>
    rw [Expr.partsOf, List.forall_mem_append, ← exists_textOf_iff e, ← exists_textsOf_iff es]
    exact Except.exists_bind_eq_ok_iff fun _ => Except.exists_bind_pure_eq_ok_iff
  termination_by structural es

end

/-! ## Templates -/

/-- Whether a template has a slot for each of its arguments. -/
def Template.UsesAll (template : Template) : Prop :=
  ∀ i : Fin template.arity, Piece.slot i ∈ template.pieces

instance (template : Template) : Decidable template.UsesAll := inferInstanceAs (Decidable (∀ _, _))

theorem usesAll_of_lookup_calls (h : calls.lookup tag = some template) : template.UsesAll := by
  have hall : ∀ entry ∈ calls, entry.2.UsesAll := by decide
  obtain ⟨before, after, hcalls, -⟩ := List.lookup_eq_some_iff.1 h
  exact hall (tag, template) (by rw [hcalls]; simp)

theorem usesAll_of_lookup_statements (h : statements.lookup tag = some template) : template.UsesAll := by
  have hall : ∀ entry ∈ statements, entry.2.UsesAll := by decide
  obtain ⟨before, after, hstatements, -⟩ := List.lookup_eq_some_iff.1 h
  exact hall (tag, template) (by rw [hstatements]; simp)

/-- What a slot is filled with is in the text. -/
theorem Template.infix_fill (h : template.UsesAll) (hlength : texts.length = template.arity)
    (htext : text ∈ texts) : text.toList <:+: (template.fill texts hlength).toList := by
  obtain ⟨i, hi, rfl⟩ := List.mem_iff_getElem.1 htext
  have hpiece := h ⟨i, hlength ▸ hi⟩
  have hmem : texts[i] ∈ template.pieces.map (Piece.fill texts hlength) :=
    List.mem_map.2 ⟨_, hpiece, rfl⟩
  rw [Template.fill, String.toList_join, List.flatMap_def]
  exact List.infix_of_mem_flatten (List.mem_map_of_mem hmem)

/-! ## What is in a text -/

/-- Whether a character is a brace. -/
def isBrace (c : Char) : Bool := c == '\x7b' || c == '\x7d'

/-- The braces of a text. -/
def bracesIn (text : String) : List Char := text.toList.filter isBrace

theorem bracesIn_append (s t : String) : bracesIn (s ++ t) = bracesIn s ++ bracesIn t := by
  rw [bracesIn, String.toList_append, List.filter_append, bracesIn, bracesIn]

/-- Whether a text holds that of each part of an expression, with the braces of literals as they are. -/
def ShowsParts (scene : Scene) (text : String) (e : Expr) : Prop :=
  ∀ part ∈ e.parts, ∃ shown, textOf scene part = .ok shown ∧ shown.toList <:+: text.toList ∧
    ∀ type value, part = .literal type value → bracesIn shown = bracesIn value

theorem ShowsParts.mono {longer : String} (h : ShowsParts scene text e)
    (hinside : text.toList <:+: longer.toList) : ShowsParts scene longer e := by
  intro part hpart
  obtain ⟨shown, hshown, hin, hbraces⟩ := h part hpart
  exact ⟨shown, hshown, hin.trans hinside, hbraces⟩

theorem isBrace_of_mem_fixedHex {places n : Nat} {c : Char}
    (h : c ∈ Text.fixedHex Text.hexLower places n) : isBrace c = false := by
  have hdigit : ∀ d < 16, isBrace (Text.hexLower d) = false := by decide
  obtain ⟨d, hd, rfl⟩ := Text.exists_digit_of_mem_fixedHex h
  exact hdigit d hd

/-- A character of a literal has the brace that it is written for, if it is one. -/
theorem filter_literalChar (c : Char) : (literalChar c).filter isBrace = [c].filter isBrace := by
  fun_cases literalChar c
  case case8 hcontrol =>
    have hfirst : ∀ d ∈ ['\\', 'u'], isBrace d = false :=
      List.forall_mem_cons.2 ⟨rfl, List.forall_mem_singleton.2 rfl⟩
    have hnone : ∀ d ∈ codeUnitEscape c, isBrace d = false := by
      intro d hd
      rcases List.mem_append.1 hd with hd | hd
      · exact hfirst d hd
      · exact isBrace_of_mem_fixedHex hd
    have hc : isBrace c = false := by
      refine Bool.eq_false_iff.2 fun hbrace => ?_
      rw [isBrace, Bool.or_eq_true, beq_iff_eq, beq_iff_eq] at hbrace
      rcases hbrace with rfl | rfl <;> exact absurd hcontrol (by decide)
    rw [List.filter_eq_nil_iff.2 fun d hd => by simp [hnone d hd]]
    simp [hc]
  case case9 => rfl
  all_goals
    subst_vars
    decide

theorem bracesIn_literal (value : String) : bracesIn (literal value) = bracesIn value := by
  have hchars (s : List Char) : (s.flatMap literalChar).filter isBrace = s.filter isBrace := by
    induction s with
    | nil => rfl
    | cons c s ih => rw [List.flatMap_cons, List.filter_append, filter_literalChar, ih, ← List.filter_append,
        List.singleton_append]
  have hquote : ['"'].filter isBrace = [] := rfl
  rw [bracesIn, literal, String.toList_ofList, literalChars, List.filter_append, List.filter_append, hquote,
    hchars, List.append_nil, List.nil_append, bracesIn]

theorem bracesIn_literalText {type : LiteralType} (h : literalText scene type value = .ok text) :
    bracesIn text = bracesIn value := by
  match type with
  | .string =>
    cases h
    exact bracesIn_literal value
  | .number | .boolean | .enum =>
    cases h
    rfl
  | .color =>
    cases h
    exact bracesIn_append "0x" value
  | .resource =>
    unfold literalText at h
    dsimp only at h
    split at h
    · cases h
      exact bracesIn_append "R.drawable." value
    · cases h

mutual

/-- **The text of an expression holds that of each of its parts.** -/
theorem shows_textOf (e : Expr) {text : String} (h : textOf scene e = .ok text) :
    ShowsParts scene text e := by
  match e with
  | .literal type value =>
    refine List.forall_mem_singleton.2 ⟨text, h, List.infix_rfl, fun type' value' heq => ?_⟩
    cases heq
    exact bracesIn_literalText h
  | .reference kind name => exact List.forall_mem_singleton.2 ⟨text, h, List.infix_rfl, nofun⟩
  | .call tag args =>
    refine List.forall_mem_cons.2 ⟨⟨text, h, List.infix_rfl, nofun⟩, fun part hpart => ?_⟩
    obtain ⟨template, hlookup, hlength, texts, htexts, rfl⟩ := textOf_call_eq_ok_iff.1 h
    obtain ⟨arg, harg, hinside⟩ := Expr.mem_partsOf_iff.1 hpart
    obtain ⟨shown, hshown, hshows⟩ := shows_textsOf args htexts arg harg
    exact hshows.mono (template.infix_fill (usesAll_of_lookup_calls hlookup) _ hshown) part hinside
  termination_by structural e

theorem shows_textsOf (es : List Expr) {texts : { texts : List String // texts.length = es.length }}
    (h : textsOf scene es = .ok texts) :
    ∀ e ∈ es, ∃ text ∈ texts.1, ShowsParts scene text e := by
  match es with
  | [] => exact List.forall_mem_nil _
  | e :: es =>
    simp only [textsOf, Except.bind_eq_ok_iff, Except.pure_eq_ok_iff] at h
    obtain ⟨text, htext, rest, hrest, rfl⟩ := h
    refine List.forall_mem_cons.2 ⟨⟨text, List.mem_cons_self, shows_textOf e htext⟩, fun other hother => ?_⟩
    obtain ⟨shown, hshown, hshows⟩ := shows_textsOf es hrest other hother
    exact ⟨shown, List.mem_cons_of_mem _ hshown, hshows⟩
  termination_by structural es

end

end Source

end BlockApp
