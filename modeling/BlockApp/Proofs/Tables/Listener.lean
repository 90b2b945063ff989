import BlockApp.Failure.Basic
import BlockApp.Proofs.Tables.Names
import Mathlib.Data.List.Forall2
import Mathlib.Data.List.TakeWhile

/-!
# Listeners by tables

The lines that set the listener of a view's event, made from the table of events: each line is filled
with the names of the view and of the method, and the TABs that it starts with are taken for levels.

* `listenerLine` — a line by tables
* `listenerLines_eq` — for every event they are the lines that are made without tables
-/

namespace BlockApp.Tables

open Source

/-- A line whose text may start with TABs. An empty line has no depth. -/
def tabbed (level : Nat) (text : String) (imports : List String) : Line :=
  let line := Line.ofTabbed level text imports
  if line.text = "" then { line with level := 0 } else line

/-- A line of a listener that calls `method`. -/
def listenerLine (view method : String) (line : ListenerLine) : Except (Fault Failure) Line := do
  let text ← Format.fill ⟨0, line.marks, line.imports⟩ [] [("view", view), ("method", method)]
  return tabbed (2 + line.tabs) text line.imports

/-! ## Lines -/

variable {view method : String}

theorem head?_ofList (first : Char) (rest : List Char) :
    (String.ofList (first :: rest)).toList.head? = some first := by
  rw [String.toList_ofList, List.head?_cons]

/-- A text that does not start with a TAB is a line as it is. -/
theorem tabbed_of_head {level : Nat} {text : String} {first : Char} (imports : List String)
    (h : text.toList.head? = some first) (hfirst : first ≠ '\t') :
    tabbed level text imports = ⟨level, text, imports⟩ := by
  obtain ⟨rest, hrest⟩ := List.head?_eq_some_iff.1 h
  have htext : text ≠ "" := by
    rintro rfl
    cases h
  have hline : Line.ofTabbed level text imports = ⟨level, text, imports⟩ := by
    have hbeq : (first == '\t') = false := beq_false_of_ne hfirst
    simp only [Line.ofTabbed, hrest, List.takeWhile_cons, List.dropWhile_cons, hbeq]
    simp [← hrest]
  rw [tabbed, hline]
  exact if_neg htext

theorem listenerLine_text {first : Char} (tabs : Nat) (text : String)
    (h : text.toList.head? = some first) (hfirst : first ≠ '\t') :
    listenerLine view method ⟨tabs, [.text text], []⟩ = .ok (.plain (2 + tabs) text) := by
  have hfill : Format.fill (ε := Failure) ⟨0, [.text text], []⟩ []
      [("view", view), ("method", method)] = .ok text := by
    simp [Format.fill, Mark.fill]
  rw [listenerLine, hfill, ok_bind, tabbed_of_head [] h hfirst]
  rfl

/-- A line that calls a method, whose name does not start with a TAB. -/
theorem listenerLine_method (hmethod : method.toList.head? = some '_') (tabs : Nat) (text : String) :
    listenerLine view method ⟨tabs, [.named "method", .text text], []⟩ =
      .ok (.plain (2 + tabs) (method ++ text)) := by
  have hentry : entry (ε := Failure) [("view", view), ("method", method)] "method" = .ok method := rfl
  have hfill : Format.fill (ε := Failure) ⟨0, [.named "method", .text text], []⟩ []
      [("view", view), ("method", method)] = .ok (method ++ text) := by
    simp [Format.fill, Mark.fill, hentry]
  have hhead : (method ++ text).toList.head? = some '_' := by
    rw [String.toList_append, List.head?_append, hmethod, Option.some_or]
  rw [listenerLine, hfill, ok_bind, tabbed_of_head [] hhead (by decide)]
  rfl

/-- The line that sets a listener, wherever the name of its view starts. -/
theorem listenerLine_view (opening : String) (imports : List String)
    (h : opening.toList.head? = some '.') :
    listenerLine view method ⟨0, [.named "view", .text opening], imports⟩ =
      .ok (.ofTabbed 2 (view ++ opening) imports) := by
  have hentry : entry (ε := Failure) [("view", view), ("method", method)] "view" = .ok view := rfl
  have hfill : Format.fill (ε := Failure) ⟨0, [.named "view", .text opening], imports⟩ []
      [("view", view), ("method", method)] = .ok (view ++ opening) := by
    simp [Format.fill, Mark.fill, hentry]
  have htext : (Line.ofTabbed 2 (view ++ opening) imports).text ≠ "" := by
    intro hempty
    have hnil : (view ++ opening).toList.dropWhile (· == '\t') = [] := by
      simpa [Line.ofTabbed] using hempty
    rw [List.dropWhile_eq_nil_iff] at hnil
    have hmark : '.' ∈ (view ++ opening).toList := by
      rw [String.toList_append]
      exact List.mem_append_right _ (List.mem_of_head? h)
    exact absurd (hnil _ hmark) (by decide)
  rw [listenerLine, hfill, ok_bind]
  exact congrArg Except.ok (if_neg htext)

/-- The lines of a method of a listener. -/
theorem mapM_overriding {signature : String} {statements : List (List Mark)} {shown : List String}
    (hsignature : signature.toList.head? = some 'p')
    (hstatements : (statements.map fun marks => (⟨2, marks, []⟩ : ListenerLine)).mapM
      (listenerLine view method) = .ok (shown.map (Line.plain 4))) :
    (overriding signature statements).mapM (listenerLine view method) =
      .ok ((ListenerMethod.mk signature shown).lines 3) := by
  have hopening : (signature ++ " \x7b").toList.head? = some 'p' := by
    rw [String.toList_append, List.head?_append, hsignature, Option.some_or]
  have hfirst : ([⟨1, ["@Override"], []⟩, ⟨1, [.text (signature ++ " \x7b")], []⟩] :
      List ListenerLine).mapM (listenerLine view method) =
        .ok [.plain 3 "@Override", .plain 3 (signature ++ " \x7b")] := by
    simp only [List.mapM_cons, List.mapM_nil, listenerLine_text 1 _ hopening (by decide),
      listenerLine_text 1 "@Override" (head?_ofList _ _) (by decide)]
    rfl
  have hlast : ([⟨1, ["\x7d"], []⟩] : List ListenerLine).mapM (listenerLine view method) =
      .ok [.plain 3 "\x7d"] := by
    simp only [List.mapM_cons, List.mapM_nil,
      listenerLine_text 1 "\x7d" (head?_ofList _ _) (by decide)]
    rfl
  rw [overriding, Except.mapM_append_eq_ok_iff]
  refine ⟨_, _, Except.mapM_append_eq_ok_iff.2 ⟨_, _, hfirst, hstatements, rfl⟩, hlast, ?_⟩
  simp [ListenerMethod.lines, bracedBy, Line.closing, Line.plain]

theorem mapM_intercalate {ε α β : Type} {f : α → Except ε β} {between : List α} {between' : List β}
    (hbetween : between.mapM f = .ok between') {parts : List (List α)} {parts' : List (List β)}
    (h : List.Forall₂ (fun part part' => part.mapM f = .ok part') parts parts') :
    (between.intercalate parts).mapM f = .ok (between'.intercalate parts') := by
  induction h with
  | nil => rfl
  | cons hpart hrest ih =>
    cases hrest with
    | nil => simpa [List.intercalate] using hpart
    | cons hnext hrest =>
      simp only [List.intercalate, List.intersperse, List.flatten_cons] at ih ⊢
      exact Except.mapM_append_eq_ok_iff.2 ⟨_, _, hpart,
        Except.mapM_append_eq_ok_iff.2 ⟨_, _, hbetween, ih, rfl⟩, rfl⟩

/-- The lines of a listener. -/
theorem mapM_listener {opening : String} {imports : List String} {methods : List (List ListenerLine)}
    (shown : List ListenerMethod) (hopening : opening.toList.head? = some '.')
    (hmethods : List.Forall₂ (fun lines (m : ListenerMethod) =>
      lines.mapM (listenerLine view method) = .ok (m.lines 3)) methods shown) :
    (listener opening imports methods).mapM (listenerLine view method) =
      .ok (.ofTabbed 2 (view ++ opening) imports ::
        [Line.blank].intercalate (shown.map (ListenerMethod.lines 3)) ++ [.plain 2 "\x7d);"]) := by
  have hblank : ([⟨0, [""], []⟩] : List ListenerLine).mapM (listenerLine view method) =
      .ok [Line.blank] := rfl
  have hlast : ([⟨0, ["\x7d);"], []⟩] : List ListenerLine).mapM (listenerLine view method) =
      .ok [.plain 2 "\x7d);"] := by
    simp only [List.mapM_cons, List.mapM_nil,
      listenerLine_text 0 "\x7d);" (head?_ofList _ _) (by decide)]
    rfl
  have hbody := mapM_intercalate hblank (List.forall₂_map_right_iff.2 hmethods)
  exact Except.mapM_append_eq_ok_iff.2 ⟨_, _, Except.mapM_cons_eq_ok_iff.2 ⟨_, _,
    listenerLine_view opening imports hopening, hbody, rfl⟩, hlast, rfl⟩

/-- A method that hands on what the listener is told. -/
theorem mapM_overriding_call (hmethod : method.toList.head? = some '_') {signature : String}
    (hsignature : signature.toList.head? = some 'p') (text : String) :
    (overriding signature [[.named "method", .text text]]).mapM (listenerLine view method) =
      .ok ((ListenerMethod.mk signature [method ++ text]).lines 3) :=
  mapM_overriding hsignature (by
    simp only [List.map_cons, List.map_nil, List.mapM_cons, List.mapM_nil, listenerLine_method hmethod]
    rfl)

/-- A method that does nothing. -/
theorem mapM_overriding_nil {signature : String} (hsignature : signature.toList.head? = some 'p') :
    (overriding signature []).mapM (listenerLine view method) =
      .ok ((ListenerMethod.mk signature []).lines 3) :=
  mapM_overriding hsignature rfl

/-- **The lines of a listener are the same by tables**, and so is what else is known of its event. -/
theorem lookup_viewEvents (event : ViewEvent) :
    ∃ known, viewEvents.lookup event.name = some known ∧ known.arguments = event.arguments ∧
      known.viewTypes? = event.viewTypes? ∧
      ∀ view method : String, method.toList.head? = some '_' →
        known.listener.mapM (listenerLine view method) = .ok (listenerLines 2 view method event) := by
  cases event with
  | click | checkedChanged | itemClicked =>
    refine ⟨_, rfl, rfl, rfl, fun view method hmethod => ?_⟩
    exact mapM_listener (listenerMethods method _) (head?_ofList _ _)
      (.cons (mapM_overriding_call hmethod (head?_ofList _ _) _) .nil)
  | longClick =>
    refine ⟨_, rfl, rfl, rfl, fun view method hmethod => ?_⟩
    refine mapM_listener (listenerMethods method .longClick) (head?_ofList _ _)
      (.cons (mapM_overriding (head?_ofList _ _) ?_) .nil)
    simp only [List.map_cons, List.map_nil, List.mapM_cons, List.mapM_nil, listenerLine_method hmethod,
      listenerLine_text 2 "return true;" (head?_ofList _ _) (by decide)]
    rfl
  | textChanged | progressChanged =>
    refine ⟨_, rfl, rfl, rfl, fun view method hmethod => ?_⟩
    exact mapM_listener (listenerMethods method _) (head?_ofList _ _)
      (.cons (mapM_overriding_call hmethod (head?_ofList _ _) _)
        (.cons (mapM_overriding_nil (head?_ofList _ _))
          (.cons (mapM_overriding_nil (head?_ofList _ _)) .nil)))
  | itemSelected =>
    refine ⟨_, rfl, rfl, rfl, fun view method hmethod => ?_⟩
    exact mapM_listener (listenerMethods method .itemSelected) (head?_ofList _ _)
      (.cons (mapM_overriding_call hmethod (head?_ofList _ _) _)
        (.cons (mapM_overriding_nil (head?_ofList _ _)) .nil))

end BlockApp.Tables
