/-!
# Sets of code points

A Unicode property is a set of code points, given as the list of its maximal runs `(first, last)`.
The property modules of this folder hold one such table each.
-/

namespace BlockApp.Text

/-- Whether code point `n` lies in one of the runs `(first, last)` of the table. -/
def inRuns (table : List (Nat × Nat)) (n : Nat) : Bool :=
  table.any fun run => run.1 ≤ n && n ≤ run.2

theorem inRuns_iff {table : List (Nat × Nat)} {n : Nat} :
    inRuns table n = true ↔ ∃ run ∈ table, run.1 ≤ n ∧ n ≤ run.2 := by
  simp [inRuns]

/-- A code point of any run of the table is in the set. -/
theorem inRuns_of_mem {table : List (Nat × Nat)} {first last n : Nat}
    (h : (first, last) ∈ table) (h₁ : first ≤ n) (h₂ : n ≤ last) : inRuns table n = true :=
  inRuns_iff.2 ⟨_, h, h₁, h₂⟩

end BlockApp.Text
