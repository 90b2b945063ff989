/-!
# Splitting at a separator

A text split at a separator has one more part than separators, and joining the parts with the
separator gives the text back. Lines are split at the line feed, fields at the TAB.
-/

namespace BlockApp.Text

/-- The parts between the occurrences of `sep`. The empty text is one empty part. -/
def splitAt (sep : Char) : List Char → List (List Char)
  | [] => [[]]
  | c :: rest =>
    if c = sep then [] :: splitAt sep rest
    else
      match splitAt sep rest with
      | [] => [[c]]
      | part :: parts => (c :: part) :: parts

theorem splitAt_ne_nil (sep : Char) (s : List Char) : splitAt sep s ≠ [] := by
  cases s with
  | nil => simp [splitAt]
  | cons c rest =>
    simp only [splitAt]
    split
    · simp
    · split <;> simp

/-- The parts with `sep` between them. -/
def joinWith (sep : Char) : List (List Char) → List Char
  | [] => []
  | [part] => part
  | part :: parts => part ++ sep :: joinWith sep parts

/-- **Splitting loses nothing**: the parts joined with the separator are the text. -/
theorem joinWith_splitAt (sep : Char) (s : List Char) : joinWith sep (splitAt sep s) = s := by
  induction s with
  | nil => rfl
  | cons c rest ih =>
    simp only [splitAt]
    split
    · next h =>
      cases hp : splitAt sep rest with
      | nil => exact absurd hp (splitAt_ne_nil sep rest)
      | cons part parts => simp [joinWith, ← hp, ih, h]
    · cases hp : splitAt sep rest with
      | nil => exact absurd hp (splitAt_ne_nil sep rest)
      | cons part parts =>
        rw [hp] at ih
        cases parts <;> simp_all [joinWith]

/-- No part holds the separator. -/
theorem sep_notMem_of_mem_splitAt {sep : Char} {s part : List Char} (h : part ∈ splitAt sep s) :
    sep ∉ part := by
  induction s generalizing part with
  | nil => simp_all [splitAt]
  | cons c rest ih =>
    simp only [splitAt] at h
    split at h
    · rcases List.mem_cons.1 h with rfl | h
      · simp
      · exact ih h
    · next hc =>
      cases hp : splitAt sep rest with
      | nil => exact absurd hp (splitAt_ne_nil sep rest)
      | cons first parts =>
        rw [hp] at h ih
        rcases List.mem_cons.1 h with rfl | h
        · have := @ih first (by simp)
          simp [this, Ne.symm hc]
        · exact ih (List.mem_cons_of_mem _ h)

/-- The text before and after the last occurrence of `sep`, `none` if there is none. -/
def splitLast? (sep : Char) : List Char → Option (List Char × List Char)
  | [] => none
  | c :: rest =>
    match splitLast? sep rest with
    | some (before, after) => some (c :: before, after)
    | none => if c = sep then some ([], rest) else none

/-- A text with the separator splits. -/
theorem splitLast?_ne_none {sep : Char} {s : List Char} (h : sep ∈ s) : splitLast? sep s ≠ none := by
  induction s with
  | nil => simp at h
  | cons c rest ih =>
    simp only [splitLast?]
    cases hr : splitLast? sep rest with
    | some parts => simp
    | none =>
      rcases List.mem_cons.1 h with rfl | h
      · simp
      · exact absurd hr (ih h)

/-- A text split at its last separator is put together from its parts. -/
theorem eq_of_splitLast? {sep : Char} {s before after : List Char}
    (h : splitLast? sep s = some (before, after)) : s = before ++ sep :: after ∧ sep ∉ after := by
  induction s generalizing before with
  | nil => simp [splitLast?] at h
  | cons c rest ih =>
    simp only [splitLast?] at h
    split at h
    · next b a hr =>
      simp only [Option.some.injEq, Prod.mk.injEq] at h
      obtain ⟨rfl, rfl⟩ := h
      have := ih hr
      simp [← this.1, this.2]
    · next hr =>
      split at h
      · next hc =>
        simp only [Option.some.injEq, Prod.mk.injEq] at h
        obtain ⟨rfl, rfl⟩ := h
        exact ⟨by simp [hc], fun hm => splitLast?_ne_none hm hr⟩
      · simp at h

end BlockApp.Text
