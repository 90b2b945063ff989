import BlockApp.Console.Literal
import BlockApp.Console.Style
import BlockApp.Text.Word

/-!
# Marked text

What the commands tell is marked text: tags in square brackets switch styles on and off. Nothing of it is
quoted, so a path or a setting with brackets in it can hold tags of its own, and can be wrong.

* `[name]` and `[name=parameters]` open a tag, `[/name]` closes the tag of that name that was opened last
  and `[/]` the one that was opened last of all. A tag may stay open.
* A backslash before a tag makes it text, and two stand for one.
* `Marked.pieces` recurses on a text that gets shorter with every tag (`length_readTag?`).
* `Marked.plainText?` gives the text without its tags. There is none if a tag closes nothing, if the
  parameters of an action are no literal, or if a style stops the output.
-/

namespace BlockApp.Console

/-- A tag that opens something. -/
structure Tag where
  name : List Char
  parameters : Option (List Char)
  deriving Repr, DecidableEq

namespace Tag

/-- The tag of the text between square brackets. -/
def ofText (text : List Char) : Tag :=
  ⟨text.takeWhile (· != '='),
    match text.dropWhile (· != '=') with
    | [] => none
    | _ :: parameters => some parameters⟩

/-- Whether a tag names an action instead of a style. -/
def isAction (tag : Tag) : Bool := tag.name.head? == some '@'

/-- The style of a tag. -/
def style (tag : Tag) : List Char :=
  match tag.parameters with
  | none => tag.name
  | some parameters => tag.name ++ ' ' :: parameters

/-- The arguments of an action: what stands in brackets after its name, which may be missing. -/
def arguments (parameters : List Char) : List Char :=
  let isNamePart := fun c => Text.isWordChar c || c == '.'
  let parameters := Text.trim parameters
  match parameters.dropWhile isNamePart with
  | [] => "()".toList
  | '(' :: rest =>
    if rest.getLast? = some ')' ∧ '\n' ∉ rest then '(' :: rest else parameters
  | _ => parameters

/-- Whether what a tag stands for can be shown. -/
def isShown (tag : Tag) : Bool := Style.isShown tag.style

/-- Whether a tag can be closed. -/
def canClose (tag : Tag) : Bool :=
  if tag.isAction then
    match tag.parameters with
    | none | some [] => true
    | some parameters => isLiteral (arguments parameters)
  else tag.isShown

end Tag

namespace Marked

/-- A piece of a marked text. -/
inductive Piece where
  | text (content : List Char)
  | tag (tag : Tag)
  deriving Repr, DecidableEq

/-- The characters that a tag may start with. -/
def startsTag (c : Char) : Bool :=
  ('a' ≤ c && c ≤ 'z') || c == '#' || c == '/' || c == '@'

/-- The characters that a tag may have. -/
def isTagPart (c : Char) : Bool := c != '[' && c != ']'

/-- Reads a tag with backslashes before it: their number, the text of the tag, and what follows it. -/
def readTag? : List Char → Option (Nat × List Char × List Char)
  | '\\' :: rest => (readTag? rest).map fun (slashes, text, left) => (slashes + 1, text, left)
  | '[' :: c :: rest =>
    if startsTag c then
      match rest.dropWhile isTagPart with
      | ']' :: left => some (0, c :: rest.takeWhile isTagPart, left)
      | _ => none
    else none
  | _ => none

/-- What follows a tag is shorter than what starts with it. -/
theorem length_readTag? {s text left : List Char} {slashes : Nat}
    (h : readTag? s = some (slashes, text, left)) : left.length < s.length := by
  induction s generalizing slashes text left with
  | nil => simp [readTag?] at h
  | cons c rest ih =>
    unfold readTag? at h
    split at h
    · next rest' hc =>
      obtain ⟨rfl, rfl⟩ := List.cons.inj hc
      simp only [Option.map_eq_some_iff] at h
      obtain ⟨⟨n, t, l⟩, hr, he⟩ := h
      simp only [Prod.mk.injEq] at he
      obtain ⟨_, _, rfl⟩ := he
      have := ih hr
      simp only [List.length_cons]
      omega
    · next d rest' hc =>
      split at h
      · split at h
        · next l hl =>
          have := (List.dropWhile_suffix isTagPart (l := rest')).length_le
          rw [hl] at this
          simp only [Option.some.injEq, Prod.mk.injEq] at h
          obtain ⟨_, _, rfl⟩ := h
          simp only [hc, List.length_cons] at this ⊢
          omega
        · simp at h
      · simp at h
    · simp at h

/-- Takes a marked text apart. A backslash before a square bracket that starts no tag is dropped. -/
def pieces : List Char → List Piece
  | [] => []
  | c :: rest =>
    match h : readTag? (c :: rest) with
    | some (slashes, text, left) =>
      have := length_readTag? h
      .text (List.replicate (slashes / 2) '\\') ::
        (if slashes % 2 = 0 then .tag (.ofText text) else .text ('[' :: text ++ [']'])) :: pieces left
    | none =>
      if c = '\\' ∧ rest.head? = some '[' then pieces rest else .text [c] :: pieces rest
  termination_by s => s.length
  decreasing_by all_goals simp only [List.length_cons] at *; omega

/-- Where there is no square bracket there is no tag. -/
theorem readTag?_of_notMem {s : List Char} (h : '[' ∉ s) : readTag? s = none := by
  induction s with
  | nil => rfl
  | cons c rest ih =>
    simp only [List.mem_cons, not_or] at h
    unfold readTag?
    split
    · next hc => obtain ⟨rfl, rfl⟩ := List.cons.inj hc; simp [ih h.2]
    · next hc => exact absurd (List.cons.inj hc).1.symm h.1
    · rfl

/-- Text without square brackets is shown as it is. -/
theorem pieces_of_notMem {s : List Char} (h : '[' ∉ s) : pieces s = s.map (.text [·]) := by
  induction s with
  | nil => simp [pieces]
  | cons c rest ih =>
    have hr : '[' ∉ rest := fun hm => h (List.mem_cons_of_mem _ hm)
    have head : rest.head? ≠ some '[' := fun hh => hr (List.mem_of_mem_head? (by simp [hh]))
    rw [pieces]
    split
    · next hs =>
      rw [readTag?_of_notMem h] at hs
      simp at hs
    · simp [head, ih hr]

/-- Closes the tag of a name, or the last tag if there is no name. -/
def close? (name : List Char) (tags : List Tag) : Option (List Tag) :=
  let found := if name = [] then some 0 else tags.findIdx? (·.name == name)
  found.bind fun i =>
    match tags[i]? with
    | some tag => if tag.canClose then some (tags.eraseIdx i) else none
    | none => none

/-- Shows pieces in tags that are open, the last one first. -/
def show? : List Tag → List Piece → Option (List Char)
  | tags, [] => if tags.all Tag.isShown then some [] else none
  | tags, .text content :: rest => (show? tags rest).map (content ++ ·)
  | tags, .tag tag :: rest =>
    match tag.name with
    | '/' :: name =>
      let name := Text.trim name
      match if name = [] then .ok [] else Style.canonical name with
      | .ok name => (close? name tags).bind (show? · rest)
      | .error _ => none
    | name =>
      match Style.canonical name with
      | .ok name => show? (⟨name, tag.parameters⟩ :: tags) rest
      | .error _ => none

/-- A marked text without its tags. -/
def plainText? (text : String) : Option String :=
  (show? [] (pieces text.toList)).map String.ofList

end Marked

end BlockApp.Console
