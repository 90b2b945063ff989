import BlockApp.Proofs.Outcome
import BlockApp.Source.ActivityClass

/-!
# The parts of a class

The lines of a class are made in parts, and each part can fail. Here the parts are put side by side: what
they are made of, and where their lines stand.

* `ActivityClass.Parts` — the lines that are made one by one, and all lines put together
* `ActivityClass.lines_eq_ok_iff` — a class is written if its parts can be made
* `ActivityClass.HasParts.exists_methodLines` — every handler has a method among them
-/

namespace BlockApp.ActivityClass

open Source

/-- The lines of a class that are made one by one: the fields of variables and components, the fields of
views, and for each handler those that set a listener and those of the method. -/
structure Parts where
  declared : List Line
  viewFields : List Line
  listeners : List (List Line)
  methods : List (List Line)

namespace Parts

/-- All fields, after an empty line if there are any. -/
def fields (parts : Parts) : List Line :=
  match parts.declared ++ parts.viewFields with
  | [] => []
  | lines => .blank :: lines

/-- The line that opens the method that sets up what the screen declares. -/
def setUpOpening : Line := .plain 1 "private void initialize(Bundle _savedInstanceState) \x7b"

/-- The method that sets up what the screen declares. -/
def setUp (c : ActivityClass) (parts : Parts) : List Line :=
  .blank :: bracedBy setUpOpening
    (windowLines c.window ++ c.views.referenced.map findViewLine ++
      c.logic.declarations.components.filterMap setupLine? ++ parts.listeners.flatten)

/-- All lines of the class. -/
def lines (c : ActivityClass) (parts : Parts) : List Line :=
  bracedBy c.openingLine
    (parts.fields ++ c.createLines ++ parts.setUp c ++ parts.methods.flatten)

end Parts

variable {c : ActivityClass} {lines : List Line} {parts : Parts}

/-- Whether parts are made of what a class is made of. -/
structure HasParts (c : ActivityClass) (parts : Parts) : Prop where
  declared : ∃ components,
    c.logic.declarations.components.mapM (componentField c.logic.screen) = .ok components ∧
      parts.declared = c.logic.declarations.vars.map variableField ++ components
  viewFields : c.views.referenced.mapM (viewField c.logic.screen) = .ok parts.viewFields
  listeners : c.logic.handlers.mapM c.listenerOf = .ok parts.listeners
  methods : (c.orderedHandlers ++ c.missingHandlers).mapM c.memberLines = .ok parts.methods

theorem fieldLines_eq_ok_iff :
    c.fieldLines = .ok lines ↔
      ∃ fieldPart, Source.fields c.logic.screen c.logic.declarations c.views = .ok fieldPart ∧
        lines = match fieldPart with
          | [] => []
          | fieldPart => .blank :: fieldPart := by
  unfold fieldLines
  rw [Except.bind_eq_ok_iff]
  constructor
  · rintro ⟨fieldPart, hfields, h⟩
    refine ⟨fieldPart, hfields, ?_⟩
    cases fieldPart <;> exact (Except.pure_eq_ok_iff.1 h).symm
  · rintro ⟨fieldPart, hfields, rfl⟩
    refine ⟨fieldPart, hfields, ?_⟩
    cases fieldPart <;> rfl

/-- **A class is written if its parts can be made**, and its lines are theirs. -/
theorem lines_eq_ok_iff : c.lines = .ok lines ↔ ∃ parts, c.HasParts parts ∧ lines = parts.lines c := by
  simp only [ActivityClass.lines, initializeLines, Source.fields, fieldLines_eq_ok_iff,
    Except.bind_eq_ok_iff, Except.pure_eq_ok_iff]
  constructor
  · rintro ⟨_, ⟨_, ⟨components, hcomponents, viewFields, hviews, rfl⟩, rfl⟩, _,
      ⟨listeners, hlisteners, rfl⟩, methods, hmethods, rfl⟩
    exact ⟨⟨_, viewFields, listeners, methods⟩, ⟨⟨components, hcomponents, rfl⟩, hviews, hlisteners,
      hmethods⟩, rfl⟩
  · rintro ⟨⟨_, viewFields, listeners, methods⟩, ⟨⟨components, hcomponents, rfl⟩, hviews, hlisteners,
      hmethods⟩, rfl⟩
    exact ⟨_, ⟨_, ⟨components, hcomponents, viewFields, hviews, rfl⟩, rfl⟩, _,
      ⟨listeners, hlisteners, rfl⟩, methods, hmethods, rfl⟩

/-- The text of a class has its lines. -/
theorem exists_parts_of_source {indent text : String} (h : c.source indent = .ok text) :
    ∃ parts, c.HasParts parts ∧ c.lines = .ok (parts.lines c) := by
  simp only [source, Except.bind_eq_ok_iff] at h
  obtain ⟨lines, hlines, -⟩ := h
  obtain ⟨parts, hparts, rfl⟩ := lines_eq_ok_iff.1 hlines
  exact ⟨parts, hparts, hlines⟩

/-! ## Methods -/

/-- Every handler is among those that methods are made of. -/
theorem mem_orderedHandlers {handler : Handler} (h : handler ∈ c.logic.handlers) :
    handler ∈ c.orderedHandlers := by
  have hall : handler ∈ c.allHandlers := by
    unfold allHandlers
    split
    · exact h
    · exact List.mem_append_left _ h
  refine List.mem_flatMap.2 ⟨handler.binding.rank, ?_, List.mem_filter.2 ⟨hall, beq_self_eq_true _⟩⟩
  cases handler.binding <;> simp [Binding.rank]

/-- The handlers that have a method are those of the screen, and empty ones: for its start, and for what
it declares and has no body. -/
theorem handler_of_mem_methods {handler : Handler}
    (h : handler ∈ c.orderedHandlers ++ c.missingHandlers) :
    handler ∈ c.logic.handlers ∨ handler = ⟨"", .startUp, [], []⟩ ∨
      ∃ declared ∈ c.logic.declarations.moreBlocks, handler =
        ⟨Binding.moreBlockKey declared.name, .moreBlock declared.name, declared.arguments, []⟩ := by
  rcases List.mem_append.1 h with hordered | hmissing
  · obtain ⟨rank, -, hmem⟩ := List.mem_flatMap.1 hordered
    have hall := (List.mem_filter.1 hmem).1
    unfold allHandlers at hall
    split at hall
    · exact .inl hall
    · rcases List.mem_append.1 hall with hmem | hstart
      · exact .inl hmem
      · exact .inr (.inl (List.mem_singleton.1 hstart))
  · obtain ⟨declared, hdeclared, hmade⟩ := List.mem_filterMap.1 hmissing
    dsimp only at hmade
    split at hmade
    · cases hmade
    · cases hmade
      exact .inr (.inr ⟨declared, hdeclared, rfl⟩)

/-- All that methods are made of have one. -/
theorem HasParts.exists_methodLines_of_mem (h : c.HasParts parts) {handler : Handler}
    (hhandler : handler ∈ c.orderedHandlers ++ c.missingHandlers) :
    ∃ body, methodLines c.scene c.logic.screen handler = .ok body ∧
      .blank :: body ∈ parts.methods := by
  obtain ⟨member, hmember, hlines⟩ := Except.exists_result_of_mapM h.methods hhandler
  simp only [memberLines, Except.bind_eq_ok_iff, Except.pure_eq_ok_iff] at hlines
  obtain ⟨body, hbody, rfl⟩ := hlines
  exact ⟨body, hbody, hmember⟩

/-- Every handler has a method. -/
theorem HasParts.exists_methodLines (h : c.HasParts parts) {handler : Handler}
    (hhandler : handler ∈ c.logic.handlers) :
    ∃ body, methodLines c.scene c.logic.screen handler = .ok body ∧
      .blank :: body ∈ parts.methods :=
  h.exists_methodLines_of_mem (List.mem_append_left _ (mem_orderedHandlers hhandler))

/-- A method stands in the class as one piece. -/
theorem Parts.infix_of_mem_methods {body : List Line} (h : .blank :: body ∈ parts.methods) :
    body <:+: parts.lines c := by
  have hmethods : body <:+: parts.methods.flatten :=
    (List.suffix_cons _ _).isInfix.trans (List.infix_of_mem_flatten h)
  refine hmethods.trans ⟨c.openingLine :: (parts.fields ++ c.createLines ++ parts.setUp c),
    [.closing c.openingLine.level], ?_⟩
  simp [Parts.lines, bracedBy]

end BlockApp.ActivityClass
