import BlockApp.Proofs.Store.Put
import BlockApp.Proofs.Text.Split

/-!
# Keys that end with a name

A key of a folder, a slash and a name leads to a file of that name, whatever the folder is. So keys with
different names at their ends lead to different locations.

* `Store.EndsIn.getLast?_of_locate`, `Store.EndsIn.locate_ne` — the name at the end of a location
-/

namespace BlockApp

/-- Whether a text is a name that leads to a file of that name: not empty, without a slash, not beginning
with a backslash, and no detour. -/
def Path.IsPlain (name : List Char) : Prop :=
  '/' ∉ name ∧ name.head? ≠ some '\\' ∧ name ≠ [] ∧ name ≠ ['.'] ∧ name ≠ ['.', '.']

theorem Path.namesOf_of_isPlain {name : List Char} (h : IsPlain name) :
    namesOf name = [String.ofList name] := by
  obtain ⟨hslash, -, hempty, hdot, -⟩ := h
  have hne : String.ofList name ≠ "" := by
    intro heq
    exact hempty (by simpa using congrArg String.toList heq)
  have hhere : String.ofList name ≠ "." := by
    intro heq
    exact hdot (by simpa using congrArg String.toList heq)
  simp [namesOf, Text.splitAt_eq_singleton hslash, hne, hhere]

theorem Path.namesOf_append (folder name : List Char) :
    namesOf (folder ++ '/' :: name) = namesOf folder ++ namesOf name := by
  rw [namesOf, Text.splitAt_append, List.map_append, List.filter_append]
  rfl

namespace Store

variable {store : Store} {key : String} {folder name : List Char} {location : Location}

/-- A key that ends with a name leads on by that name. -/
theorem keyNames_of_isPlain (hkey : key.toList = folder ++ '/' :: name) (hname : Path.IsPlain name) :
    ∃ names, keyNames key = names ++ [String.ofList name] := by
  unfold keyNames
  rw [hkey, List.dropWhile_append]
  split
  · refine ⟨[], ?_⟩
    have hnames := Path.namesOf_of_isPlain hname
    obtain ⟨hslash, hback, hempty, -⟩ := hname
    cases name with
    | nil => exact absurd rfl hempty
    | cons c rest =>
      have hc : c ≠ '/' := fun heq => hslash (heq ▸ List.mem_cons_self)
      have hc' : c ≠ '\\' := fun heq => hback (heq ▸ rfl)
      rw [List.dropWhile_cons_of_pos (by simp), List.dropWhile_cons_of_neg (by simp [hc, hc']),
        hnames, List.nil_append]
  · exact ⟨_, by rw [Path.namesOf_append, Path.namesOf_of_isPlain hname]⟩

/-- Whether a key is one of a folder, a slash and a name. -/
def EndsIn (key : String) (name : List Char) : Prop :=
  Path.IsPlain name ∧ ∃ folder, key.toList = folder ++ '/' :: name

/-- **A key that ends with a name leads to a location that does.** -/
theorem EndsIn.getLast?_of_locate (hkey : EndsIn key name) (h : store.locate key = .ok location) :
    location.getLast? = some (String.ofList name) := by
  obtain ⟨-, rfl, -⟩ := locate_eq_ok_iff.1 h
  obtain ⟨hname, folder, hkey⟩ := hkey
  obtain ⟨names, hnames⟩ := keyNames_of_isPlain hkey hname
  obtain ⟨-, -, -, -, hup⟩ := hname
  have hne : String.ofList name ≠ ".." := by
    intro heq
    exact hup (by simpa using congrArg String.toList heq)
  rw [hnames, Path.resolveNames_concat _ _ hne, List.getLast?_concat]

/-- Keys that end with different names lead to different locations. -/
theorem EndsIn.locate_ne {other : String} {name' : List Char} (hkey : EndsIn key name)
    (hother : EndsIn other name') (hne : name ≠ name') (h : store.locate key = .ok location) :
    store.locate other ≠ .ok location := by
  intro h'
  have hlast := hother.getLast?_of_locate h'
  rw [hkey.getLast?_of_locate h, Option.some.injEq, String.ofList_inj] at hlast
  exact hne hlast

end Store

end BlockApp
