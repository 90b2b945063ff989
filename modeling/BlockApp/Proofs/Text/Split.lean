import BlockApp.Text.Split

/-!
# Parts of a text

A text split at a separator and parts joined with it undo each other, as long as the parts hold no separator.

* `Text.splitAt_append` — a text in two parts with a separator between them
* `Text.splitAt_joinWith` — joined parts are split where they were joined
* `Text.mem_joinWith`, `Text.mem_of_mem_splitAt` — what is in joined parts, and in the parts of a text
* `Text.forall_split_concat` — what holds of all characters with what is before them, one more at the end
-/

namespace BlockApp.Text

variable {sep c : Char} {s part : List Char} {parts : List (List Char)}

theorem splitAt_append (sep : Char) (s t : List Char) :
    splitAt sep (s ++ sep :: t) = splitAt sep s ++ splitAt sep t := by
  induction s with
  | nil => simp [splitAt]
  | cons c s ih =>
    rw [List.cons_append, splitAt, splitAt]
    split
    · rw [ih, List.cons_append]
    · rw [ih]
      cases hparts : splitAt sep s with
      | nil => exact absurd hparts (splitAt_ne_nil sep s)
      | cons part parts => rfl

theorem splitAt_eq_singleton (h : sep ∉ s) : splitAt sep s = [s] := by
  induction s with
  | nil => rfl
  | cons c s ih =>
    obtain ⟨hc, hs⟩ := not_or.1 (mt List.mem_cons.2 h)
    rw [splitAt, if_neg (Ne.symm hc), ih hs]

theorem joinWith_cons (sep : Char) (part : List Char) (parts : List (List Char)) :
    joinWith sep (part :: parts) = part ++ parts.flatMap (sep :: ·) := by
  induction parts generalizing part with
  | nil => simp [joinWith]
  | cons next parts ih =>
    rw [joinWith, ih, List.flatMap_cons, List.cons_append]
    simp

/-- Joined parts are split where they were joined. -/
theorem splitAt_joinWith (hne : parts ≠ []) (hparts : ∀ part ∈ parts, sep ∉ part) :
    splitAt sep (joinWith sep parts) = parts := by
  induction parts with
  | nil => exact absurd rfl hne
  | cons part parts ih =>
    obtain ⟨hpart, hrest⟩ := List.forall_mem_cons.1 hparts
    cases parts with
    | nil => exact splitAt_eq_singleton hpart
    | cons next parts =>
      rw [joinWith, splitAt_append, splitAt_eq_singleton hpart, ih (by simp) hrest,
        List.singleton_append]
      simp

/-- What is in joined parts is the separator or in one of them. -/
theorem mem_joinWith (h : c ∈ joinWith sep parts) : c = sep ∨ ∃ part ∈ parts, c ∈ part := by
  cases parts with
  | nil => exact absurd h List.not_mem_nil
  | cons part parts =>
    rw [joinWith_cons, List.mem_append, List.mem_flatMap] at h
    rcases h with hpart | ⟨found, hfound, hc⟩
    · exact .inr ⟨part, List.mem_cons_self, hpart⟩
    · exact (List.mem_cons.1 hc).imp_right fun hc => ⟨found, List.mem_cons_of_mem _ hfound, hc⟩

theorem mem_joinWith_of_mem (h : part ∈ parts) (hc : c ∈ part) : c ∈ joinWith sep parts := by
  cases parts with
  | nil => exact absurd h List.not_mem_nil
  | cons first parts =>
    rw [joinWith_cons, List.mem_append, List.mem_flatMap]
    rcases List.mem_cons.1 h with rfl | h
    · exact .inl hc
    · exact .inr ⟨part, h, List.mem_cons_of_mem _ hc⟩

/-- A part of a text holds characters of the text only. -/
theorem mem_of_mem_splitAt (h : part ∈ splitAt sep s) (hc : c ∈ part) : c ∈ s := by
  rw [← joinWith_splitAt sep s]
  exact mem_joinWith_of_mem h hc

/-- What holds of every character of a text and what is before it holds of one more at the end, if it holds
of that one and the text. -/
theorem forall_split_concat {P : List Char → Char → Prop} :
    (∀ before d after, s ++ [c] = before ++ d :: after → P before d) ↔
      (∀ before d after, s = before ++ d :: after → P before d) ∧ P s c := by
  constructor
  · intro h
    refine ⟨fun before d after hsplit => h before d (after ++ [c]) ?_, h s c [] rfl⟩
    rw [hsplit, List.append_assoc, List.cons_append]
  · rintro ⟨h, hlast⟩ before d after hsplit
    rcases List.eq_nil_or_concat after with rfl | ⟨middle, last, rfl⟩
    · obtain ⟨rfl, hchar⟩ := List.append_inj' hsplit rfl
      obtain rfl : c = d := List.head_eq_of_cons_eq hchar
      exact hlast
    · rw [List.concat_eq_append, ← List.cons_append, ← List.append_assoc] at hsplit
      exact h before d middle (List.append_inj' hsplit rfl).1

end BlockApp.Text
