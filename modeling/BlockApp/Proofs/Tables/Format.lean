import BlockApp.Proofs.Outcome
import BlockApp.Source.Template

/-!
# Tables and formats

Code can be made with tables of names alone: an entry is looked up by its key, the parameters of a block
are counted off, and the slots of a format are filled by number or by name. Each of these can come up
empty. That is a *gap*, and it is not among the failures that are reported.

* `Gap`, `Fault` — how making something ends without a result
* `reported` — what is made without tables has no gap
* `Format.fill` — a format filled in; `Format.fill_ofTemplate` — what is a template has no gap
-/

namespace BlockApp.Tables

open Source

variable {ε ε' α β : Type}

/-! ## Gaps -/

/-- What is asked for and not there. -/
inductive Gap where
  | entry (key : String)
  | param (index : Nat)
  | slot (index : Nat)
  deriving Repr, DecidableEq

/-- How making something ends without a result: with a failure to report, or at a gap. -/
inductive Fault (ε : Type) where
  | reported (failure : ε)
  | gap (missing : Gap)
  deriving Repr, DecidableEq

/-- A fault with its failure told in another way. -/
def Fault.map (f : ε → ε') : Fault ε → Fault ε'
  | .reported failure => .reported (f failure)
  | .gap missing => .gap missing

/-- What is made without tables, as something made with them. -/
def reported (x : Except ε α) : Except (Fault ε) α := x.mapError .reported

@[simp] theorem reported_ok (a : α) : reported (.ok a : Except ε α) = .ok a := rfl

@[simp] theorem reported_pure (a : α) : reported (pure a : Except ε α) = pure a := rfl

@[simp] theorem reported_bind (x : Except ε α) (f : α → Except ε β) :
    reported (x >>= f) = reported x >>= fun a => reported (f a) := by
  cases x <;> rfl

theorem reported_mapM {f : α → Except ε β} {g : α → Except (Fault ε) β} {xs : List α}
    (h : ∀ x ∈ xs, g x = reported (f x)) : xs.mapM g = reported (xs.mapM f) := by
  induction xs with
  | nil => rfl
  | cons x xs ih =>
    obtain ⟨hx, hxs⟩ := List.forall_mem_cons.1 h
    simp only [List.mapM_cons, hx, ih hxs, reported_bind, reported_pure]

/-- A failure is told in another way before or after. -/
theorem mapError_reported (f : ε → ε') (x : Except ε α) :
    (reported x).mapError (Fault.map f) = reported (x.mapError f) := by
  cases x <;> rfl

@[simp] theorem ok_bind (a : α) (f : α → Except ε β) : (Except.ok a >>= f) = f a := rfl

@[simp] theorem map_ok (f : α → β) (a : α) : (f <$> (Except.ok a : Except ε α)) = .ok (f a) := rfl

/-! ## Entries -/

/-- The entry of a key. -/
def entry (table : List (String × α)) (key : String) : Except (Fault ε) α :=
  match table.lookup key with
  | some found => .ok found
  | none => .error (.gap (.entry key))

theorem entry_of_lookup {table : List (String × α)} {key : String} {found : α}
    (h : table.lookup key = some found) : entry (ε := ε) table key = .ok found := by
  rw [entry, h]

/-! ## Formats -/

/-- A part of a format: a text, or a slot with a number or a name. -/
inductive Mark where
  | text (s : String)
  | numbered (index : Nat)
  | named (name : String)
  deriving Repr, DecidableEq

instance : Coe String Mark := ⟨.text⟩

/-- A format for `arity` parameters. -/
structure Format where
  arity : Nat
  marks : List Mark
  imports : List String
  deriving Repr, DecidableEq

/-- A part of a format filled in. -/
def Mark.fill (args : List String) (names : List (String × String)) : Mark → Except (Fault ε) String
  | .text s => .ok s
  | .numbered index =>
    match args[index]? with
    | some arg => .ok arg
    | none => .error (.gap (.slot index))
  | .named name => entry names name

/-- A format filled in. -/
def Format.fill (format : Format) (args : List String) (names : List (String × String)) :
    Except (Fault ε) String :=
  String.join <$> format.marks.mapM (Mark.fill args names)

/-- A part of a template without the bound on its slot. -/
def Mark.ofPiece {arity : Nat} : Piece arity → Mark
  | .text s => .text s
  | .slot i => .numbered i

/-- A template without the bounds on its slots. -/
def Format.ofTemplate (template : Template) : Format :=
  ⟨template.arity, template.pieces.map Mark.ofPiece, template.imports⟩

theorem Mark.fill_ofPiece {arity : Nat} (args : List String) (h : args.length = arity)
    (names : List (String × String)) (piece : Piece arity) :
    (ofPiece piece).fill (ε := ε) args names = .ok (piece.fill args h) := by
  cases piece with
  | text s => rfl
  | slot i =>
    have hi : (i : Nat) < args.length := h ▸ i.isLt
    simp [ofPiece, fill, Piece.fill, List.getElem?_eq_getElem hi]

/-- **What is a template has no gap** if there are as many arguments as it takes. -/
theorem Format.fill_ofTemplate (template : Template) (args : List String)
    (h : args.length = template.arity) (names : List (String × String)) :
    (ofTemplate template).fill (ε := ε) args names = .ok (template.fill args h) := by
  have hmarks : (template.pieces.map Mark.ofPiece).mapM (Mark.fill (ε := ε) args names) =
      .ok ((template.pieces).map (Piece.fill args h)) := by
    rw [List.mapM_map]
    exact Except.mapM_eq_ok_of_forall fun piece _ => Mark.fill_ofPiece args h names piece
  rw [fill, ofTemplate, hmarks]
  rfl

/-- Templates without the bounds on their slots. -/
def ofTemplates (templates : List (String × Template)) : List (String × Format) :=
  templates.map fun (tag, template) => (tag, .ofTemplate template)

theorem lookup_ofTemplates (templates : List (String × Template)) (tag : String) :
    (ofTemplates templates).lookup tag = (templates.lookup tag).map .ofTemplate := by
  induction templates with
  | nil => rfl
  | cons first templates ih =>
    rw [ofTemplates, List.map_cons, List.lookup_cons, List.lookup_cons]
    split
    · rfl
    · exact ih

end BlockApp.Tables
