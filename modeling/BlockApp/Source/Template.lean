/-!
# Templates

The shape of a statement or an expression: texts and slots for its arguments. A slot is a number below
the arity, so a template with the right number of arguments can always be filled.

* Filling is one pass: an argument is put in as it is, whatever it holds.
-/

namespace BlockApp.Source

/-- A part of a template with `arity` arguments. -/
inductive Piece (arity : Nat) where
  | text (s : String)
  | slot (i : Fin arity)
  deriving Repr, DecidableEq

/-- A template. -/
structure Template where
  arity : Nat
  pieces : List (Piece arity)
  imports : List String
  deriving Repr, DecidableEq

/-- The slot of an argument. -/
abbrev arg {arity : Nat} (i : Fin arity) : Piece arity := .slot i

instance {arity : Nat} : Coe String (Piece arity) := ⟨.text⟩

/-- A part of a template filled in. -/
def Piece.fill {arity : Nat} (args : List String) (h : args.length = arity) : Piece arity → String
  | .text s => s
  | .slot i => args.get (i.cast h.symm)

/-- A template filled in. -/
def Template.fill (template : Template) (args : List String) (h : args.length = template.arity) :
    String :=
  String.join (template.pieces.map (Piece.fill args h))

/-- As many texts as there are parameters fill a template that takes so many. -/
theorem Template.length_texts {α : Type} {template : Template} {texts : List String} {params : List α}
    (ht : texts.length = params.length) (h : params.length = template.arity) :
    texts.length = template.arity := ht.trans h

end BlockApp.Source
