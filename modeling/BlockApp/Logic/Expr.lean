/-!
# Expressions

The parameters of blocks: literals, references to variables, views and handler arguments, and calls
with parameters of their own.
-/

namespace BlockApp

/-- What a literal is. -/
inductive LiteralType where
  | string
  | number
  | boolean
  | color
  | enum
  | resource
  deriving Repr, DecidableEq

/-- What a reference points to. -/
inductive ReferenceKind where
  | variable
  | view
  | argument
  deriving Repr, DecidableEq

/-- A parameter of a block. -/
inductive Expr where
  | literal (type : LiteralType) (value : String)
  | reference (kind : ReferenceKind) (name : String)
  | call (tag : String) (args : List Expr)
  deriving Repr, BEq

/-- The name of a literal type. -/
def LiteralType.name : LiteralType → String
  | .string => "string"
  | .number => "number"
  | .boolean => "boolean"
  | .color => "color"
  | .enum => "enum"
  | .resource => "resource"

/-- The name of a kind of reference. -/
def ReferenceKind.name : ReferenceKind → String
  | .variable => "variable"
  | .view => "view"
  | .argument => "argument"

/-- A reference: its kind and the name it holds. -/
abbrev Reference := ReferenceKind × String

namespace Expr

mutual

/-- The references of an expression, from left to right. -/
def references : Expr → List Reference
  | .literal .. => []
  | .reference kind name => [(kind, name)]
  | .call _ args => referencesOf args

/-- The references of a list of expressions, from left to right. -/
def referencesOf : List Expr → List Reference
  | [] => []
  | e :: es => e.references ++ referencesOf es

end

theorem referencesOf_eq_flatMap (es : List Expr) : referencesOf es = es.flatMap references := by
  induction es with
  | nil => rfl
  | cons e es ih => rw [referencesOf, List.flatMap_cons, ih]

@[simp] theorem referencesOf_append (es fs : List Expr) :
    referencesOf (es ++ fs) = referencesOf es ++ referencesOf fs := by
  simp [referencesOf_eq_flatMap]

mutual

/-- Decides whether two expressions are equal. -/
def decEq : (e f : Expr) → Decidable (e = f)
  | .literal t v, .literal t' v' =>
    if h : t = t' ∧ v = v' then isTrue (by rw [h.1, h.2]) else isFalse (by simpa using h)
  | .reference k n, .reference k' n' =>
    if h : k = k' ∧ n = n' then isTrue (by rw [h.1, h.2]) else isFalse (by simpa using h)
  | .call t as, .call t' as' =>
    if h : t = t' then
      match decEqList as as' with
      | isTrue h' => isTrue (by rw [h, h'])
      | isFalse h' => isFalse (by simp [h'])
    else isFalse (by simp [h])
  | .literal .., .reference .. | .literal .., .call .. | .reference .., .literal ..
  | .reference .., .call .. | .call .., .literal .. | .call .., .reference .. => isFalse nofun

/-- Decides whether two lists of expressions are equal. -/
def decEqList : (es fs : List Expr) → Decidable (es = fs)
  | [], [] => isTrue rfl
  | [], _ :: _ | _ :: _, [] => isFalse nofun
  | e :: es, f :: fs =>
    match decEq e f with
    | isFalse h => isFalse (by simp [h])
    | isTrue h =>
      match decEqList es fs with
      | isTrue h' => isTrue (by rw [h, h'])
      | isFalse h' => isFalse (by simp [h'])

end

instance : DecidableEq Expr := decEq

end Expr

end BlockApp
