import BlockApp.Proofs.Class.Views
import BlockApp.Proofs.Logic.WellFormed
import BlockApp.Proofs.Tables.Code
import BlockApp.Proofs.Tables.Listener

/-!
# Classes by tables

The class of a screen made with tables: the fields of what it declares, the statements that set the
window and the components up, the listeners, and the methods. The parts are made in the order of the
class, each with its own lookups.

* `lines`, `source` — the class by tables
* `listenerLines_eq` — the lines of a listener, told from their table
* `source_eq` — for a class whose logic is sound and whose views are known it is the class that is made
  without tables
-/

namespace BlockApp.Tables

open Source

variable {ε : Type}

/-! ## Fields -/

/-- The field of a variable or list. -/
def variableField (d : VariableDeclaration) : Except (Fault Failure) Line := do
  let known ← entry (if d.isList then lists else values) d.type.name
  return ⟨1, fieldText known.javaType d.name (some known.initial), known.imports⟩

/-- The field of a component. -/
def componentField (screen : String) (d : ComponentDeclaration) : Except (Fault Failure) Line :=
  match components.lookup d.type with
  | none => .error (.reported (.component d.type screen (.declaration d.name)))
  | some known => .ok ⟨1, fieldText known.javaType d.name known.initial?, known.imports⟩

/-- The field of a view. -/
def viewField (view : ViewEntry) : Except (Fault Failure) Line := do
  let name ← entry viewImports view.type
  return ⟨1, fieldText view.type view.id none, [name]⟩

/-- The fields of a class. -/
def fields (screen : String) (declarations : Declarations) (views : ViewIndex) :
    Except (Fault Failure) (List Line) := do
  let vars ← declarations.vars.mapM variableField
  let components ← declarations.components.mapM (componentField screen)
  let referenced ← views.referenced.mapM viewField
  return vars ++ components ++ referenced

/-- The fields of the class, after an empty line if there are any. -/
def fieldLines (c : ActivityClass) : Except (Fault Failure) (List Line) := do
  match ← fields c.logic.screen c.logic.declarations c.views with
  | [] => return []
  | lines => return Line.blank :: lines

/-! ## Setting up -/

/-- The statement for a setting of a window, if it needs one. -/
def settingLines (table : List (String × Option String)) (name needed : String) :
    Except (Fault Failure) (List Line) := do
  return match ← entry table name with
    | some text => [⟨2, text, [needed]⟩]
    | none => []

/-- The statements that set up the window. -/
def windowLines : Option Activity → Except (Fault Failure) (List Line)
  | none => .ok []
  | some window => do
    let turning ← settingLines orientations window.orientation.name "android.content.pm.ActivityInfo"
    let typing ← settingLines keyboards window.keyboard.name "android.view.WindowManager"
    return turning ++ typing

/-- The text of the statement that sets a component up. -/
def setupText? (setup? : Option Format) (name extra : String) : Except (Fault ε) (Option String) :=
  match setup? with
  | none => .ok none
  | some format => some <$> format.fill [] [("name", name), ("extra", literal extra)]

/-- The statement that sets a component up. -/
def setupLine? (d : ComponentDeclaration) : Except (Fault Failure) (Option Line) := do
  let known ← entry components d.type
  let text? ← setupText? known.setup? d.name d.extra
  return text?.map (.plain 2)

/-- Whether views of a type have an event. -/
def EventEntry.appliesTo (known : EventEntry) (type : String) : Bool :=
  match known.viewTypes? with
  | none => true
  | some types => types.contains type

/-- The lines that set the listener of a handler, none if it is not of a view's event. -/
def listenerOf (c : ActivityClass) (h : Handler) : Except (Fault Failure) (List Line) :=
  match h.binding with
  | .viewEvent view event =>
    let fault := CodeFault.failure c.logic.screen h.key ""
    match c.views.entry? view with
    | none => .error (.reported (fault (.malformed (.targetNotInLayout view c.layout))))
    | some target => do
      let known ← entry viewEvents event.name
      if known.appliesTo target.type then
        known.listener.mapM (listenerLine view h.binding.methodName)
      else .error (.reported (fault (.malformed (.eventForOther event.name target.type view))))
  | .startUp | .activityEvent _ | .moreBlock _ => .ok []

/-- The method that sets up what the screen declares. -/
def initializeLines (c : ActivityClass) : Except (Fault Failure) (List Line) := do
  let window ← windowLines c.window
  let setups ← c.logic.declarations.components.mapM setupLine?
  let listeners ← c.logic.handlers.mapM (listenerOf c)
  return .blank ::
    bracedBy (.plain 1 "private void initialize(Bundle _savedInstanceState) \x7b")
      (window ++ c.views.referenced.map ActivityClass.findViewLine ++ setups.filterMap id ++
        listeners.flatten)

/-! ## Methods -/

/-- What the blocks of a more block are told. -/
def moreBlockArguments (declared : MoreBlock) : Except (Fault ε) (List Argument) :=
  declared.parameters.mapM fun p => do
    return ⟨← entry parameterTypes (String.singleton p.type.letter), p.name⟩

/-- An empty handler of a more block that has none. -/
def missingHandler? (c : ActivityClass) (declared : MoreBlock) :
    Except (Fault Failure) (Option Handler) :=
  let key := Binding.moreBlockKey declared.name
  if c.logic.handlers.any (·.key == key) then .ok none
  else do return some ⟨key, .moreBlock declared.name, ← moreBlockArguments declared, []⟩

/-- The lines of a method before those of its blocks. -/
def superLines : Binding → Except (Fault Failure) (List Line)
  | .activityEvent event => do
    return if ← entry activityEvents event.name then [.plain 2 s!"super.{event.name}();"] else []
  | .startUp | .viewEvent .. | .moreBlock _ => .ok []

/-- The method of a handler after an empty line. -/
def memberLines (c : ActivityClass) (h : Handler) : Except (Fault Failure) (List Line) := do
  let first ← superLines h.binding
  let lines ← sequenceLines ⟨c.scene, c.logic.screen, h.key⟩ 2 0 h.blocks
  return .blank :: (annotationLines h.binding ++ bracedBy (signatureLine h) (first ++ lines))

/-! ## Classes -/

/-- The lines of the class. -/
def lines (c : ActivityClass) : Except (Fault Failure) (List Line) := do
  let fieldPart ← fieldLines c
  let initializePart ← initializeLines c
  let methods ← c.orderedHandlers.mapM (memberLines c)
  let missing ← c.logic.declarations.moreBlocks.mapM (missingHandler? c)
  let others ← (missing.filterMap id).mapM (memberLines c)
  return bracedBy c.openingLine
    (fieldPart ++ c.createLines ++ initializePart ++ (methods ++ others).flatten)

/-- The text of the class. -/
def source (c : ActivityClass) (indent : String) : Except (Fault Failure) String := do
  let lines ← lines c
  return joinLines ([s!"package {c.metadata.packageName};", ""] ++
    (ActivityClass.importsOf lines).map (fun name => s!"import {name};") ++ [""] ++
    lines.map (·.shown indent))

/-! ## Fields have no gap -/

variable {c : ActivityClass} {screen : String}

theorem variableField_eq (d : VariableDeclaration) :
    variableField d = .ok (Source.variableField d) := by
  obtain ⟨shape, name⟩ := d
  cases shape with
  | single type =>
    show (entry values type.name >>= _) = _
    rw [entry_of_lookup (lookup_values type)]
    rfl
  | list element =>
    show (entry lists element.value.name >>= _) = _
    rw [entry_of_lookup (lookup_lists element)]
    rfl

/-- What is known of a component of a known type. -/
structure ComponentEntry.IsOf (known : ComponentEntry) (type : ComponentClass) : Prop where
  javaType : known.javaType = type.name
  initial : known.initial? = type.initial?
  imports : known.imports = type.imports
  setup : ∀ name extra : String,
    setupText? (ε := Failure) known.setup? name extra = .ok (type.setup? name extra)

theorem lookup_components_name (type : ComponentClass) :
    ∃ known, components.lookup type.name = some known ∧ known.IsOf type := by
  cases type with
  | intent | calendar | timer => exact ⟨_, rfl, rfl, rfl, rfl, fun name extra => rfl⟩
  | sharedPreferences =>
    refine ⟨_, rfl, rfl, rfl, rfl, fun name extra => ?_⟩
    have hname : entry (ε := Failure) [("name", name), ("extra", literal extra)] "name" = .ok name := rfl
    have hextra : entry (ε := Failure) [("name", name), ("extra", literal extra)] "extra" =
      .ok (literal extra) := rfl
    simp [setupText?, Format.fill, Mark.fill, hname, hextra, ComponentClass.setup?, toString,
      String.append_assoc]
  | vibrator =>
    refine ⟨_, rfl, rfl, rfl, rfl, fun name extra => ?_⟩
    have hname : entry (ε := Failure) [("name", name), ("extra", literal extra)] "name" = .ok name := rfl
    simp [setupText?, Format.fill, Mark.fill, hname, ComponentClass.setup?, toString]

theorem lookup_components_eq_none {name : String} (h : ComponentClass.ofName? name = none) :
    components.lookup name = none := by
  rw [ComponentClass.ofName?, List.find?_eq_none] at h
  have hkeys : components.map (·.1) = ComponentClass.all.map (·.name) := rfl
  rw [List.lookup_eq_none_iff]
  intro found hfound
  rw [bne_iff_ne]
  rintro rfl
  have hmem : found.1 ∈ ComponentClass.all.map (·.name) := hkeys ▸ List.mem_map_of_mem hfound
  obtain ⟨type, htype, hname⟩ := List.mem_map.1 hmem
  exact h type htype (beq_iff_eq.2 hname)

theorem componentField_eq (screen : String) (d : ComponentDeclaration) :
    componentField screen d = reported (Source.componentField screen d) := by
  rw [componentField, Source.componentField]
  cases h : ComponentClass.ofName? d.type with
  | none => rw [lookup_components_eq_none h]; rfl
  | some type =>
    obtain ⟨known, hlookup, hknown⟩ := lookup_components_name type
    rw [ComponentClass.name_of_ofName? h] at hlookup
    rw [hlookup]
    simp only [hknown.javaType, hknown.initial, hknown.imports]
    rfl

theorem viewField_eq {view : ViewEntry} {type : Component} (h : view.type = type.name) :
    viewField view = reported (Source.viewField screen view) := by
  rw [viewField, Source.viewField, h, entry_of_lookup (lookup_viewImports type), Component.ofName?_name]
  rfl

theorem fields_eq {declarations : Declarations} {views : ViewIndex} (h : views.Known) :
    fields screen declarations views = reported (Source.fields screen declarations views) := by
  have hvars : declarations.vars.mapM variableField =
      .ok (declarations.vars.map Source.variableField) :=
    Except.mapM_eq_ok_of_forall fun d _ => variableField_eq d
  have hviews : views.referenced.mapM viewField =
      reported (views.referenced.mapM (Source.viewField screen)) := by
    refine reported_mapM fun view hview => ?_
    obtain ⟨type, htype⟩ := h view (List.mem_filter.1 hview).1
    exact viewField_eq htype
  rw [fields, Source.fields, hvars, hviews, reported_mapM fun d _ => componentField_eq screen d]
  simp only [ok_bind, reported_bind, reported_pure]

theorem fieldLines_eq (h : c.views.Known) : fieldLines c = reported c.fieldLines := by
  rw [fieldLines, ActivityClass.fieldLines, fields_eq h]
  cases Source.fields c.logic.screen c.logic.declarations c.views with
  | error failure => rfl
  | ok lines => cases lines <;> rfl

/-- What has fields has components of known types. -/
theorem known_of_fieldLines {lines : List Line} (h : c.fieldLines = .ok lines) :
    ∀ d ∈ c.logic.declarations.components, ∃ type, ComponentClass.ofName? d.type = some type := by
  obtain ⟨fieldPart, hfields, -⟩ := ActivityClass.fieldLines_eq_ok_iff.1 h
  simp only [Source.fields, Except.bind_eq_ok_iff] at hfields
  obtain ⟨components, hcomponents, -⟩ := hfields
  intro d hd
  obtain ⟨line, -, hline⟩ := Except.exists_result_of_mapM hcomponents hd
  rw [Source.componentField] at hline
  cases hname : ComponentClass.ofName? d.type with
  | none => rw [hname] at hline; cases hline
  | some type => exact ⟨type, rfl⟩

/-! ## Setting up has no gap -/

theorem windowLines_eq (window : Option Activity) :
    windowLines window = .ok (ActivityClass.windowLines window) := by
  cases window with
  | none => rfl
  | some window =>
    obtain ⟨name, orientation, keyboard⟩ := window
    cases orientation <;> cases keyboard <;> rfl

theorem setupLine?_eq {d : ComponentDeclaration} {type : ComponentClass}
    (h : ComponentClass.ofName? d.type = some type) :
    setupLine? d = .ok (Source.setupLine? d) := by
  obtain ⟨known, hlookup, hknown⟩ := lookup_components_name type
  rw [ComponentClass.name_of_ofName? h] at hlookup
  rw [setupLine?, Source.setupLine?, entry_of_lookup hlookup, ok_bind, hknown.setup, ok_bind, h]
  show _ = Except.ok (type.setup? d.name d.extra >>= fun text => some (Line.plain 2 text))
  cases type.setup? d.name d.extra <;> rfl

theorem setups_eq {declared : List ComponentDeclaration}
    (h : ∀ d ∈ declared, ∃ type, ComponentClass.ofName? d.type = some type) :
    declared.mapM setupLine? = .ok (declared.map Source.setupLine?) := by
  refine Except.mapM_eq_ok_of_forall fun d hd => ?_
  obtain ⟨type, htype⟩ := h d hd
  exact setupLine?_eq htype

/-! ## Listeners and methods have no gap -/

theorem head?_methodName (view : String) (event : ViewEvent) :
    (Binding.viewEvent view event).methodName.toList.head? = some '_' := by
  have hname : (Binding.viewEvent view event).methodName = "_" ++ (view ++ "_" ++ event.name) := by
    simp [Binding.methodName, toString, String.append_assoc]
  rw [hname, String.toList_append, List.head?_append]
  rfl

theorem listenerOf_eq (c : ActivityClass) (h : Handler) :
    listenerOf c h = reported (c.listenerOf h) := by
  unfold listenerOf ActivityClass.listenerOf
  cases hbinding : h.binding with
  | startUp | activityEvent | moreBlock => rfl
  | viewEvent view event =>
    simp only
    cases c.views.entry? view with
    | none => rfl
    | some target =>
      obtain ⟨known, hlookup, -, htypes, hlines⟩ := lookup_viewEvents event
      have happlies : known.appliesTo target.type = event.appliesTo target.type :=
        congrArg (fun types? : Option (List String) => match types? with
          | none => true
          | some types => types.contains target.type) htypes
      simp only [entry_of_lookup hlookup, ok_bind, happlies,
        hlines view _ (head?_methodName view event)]
      split <;> rfl

theorem initializeLines_eq (h : ∀ d ∈ c.logic.declarations.components,
    ∃ type, ComponentClass.ofName? d.type = some type) :
    initializeLines c = reported c.initializeLines := by
  rw [initializeLines, ActivityClass.initializeLines, windowLines_eq, setups_eq h,
    reported_mapM fun handler _ => listenerOf_eq c handler]
  simp only [ok_bind, reported_bind, reported_pure, List.filterMap_map, Function.id_comp]

theorem moreBlockArguments_eq (declared : MoreBlock) :
    moreBlockArguments (ε := ε) declared = .ok declared.arguments := by
  refine Except.mapM_eq_ok_of_forall fun p _ => ?_
  rw [entry_of_lookup (lookup_parameterTypes p.type)]
  rfl

theorem missingHandlers_eq (c : ActivityClass) :
    ∃ missing, c.logic.declarations.moreBlocks.mapM (missingHandler? c) = .ok missing ∧
      missing.filterMap id = c.missingHandlers := by
  refine ⟨_, Except.mapM_eq_ok_of_forall (g := fun declared =>
    if c.logic.handlers.any (·.key == Binding.moreBlockKey declared.name) then none
    else some ⟨Binding.moreBlockKey declared.name, .moreBlock declared.name, declared.arguments, []⟩)
      fun declared _ => ?_, ?_⟩
  · simp only [missingHandler?, moreBlockArguments_eq]
    split <;> rfl
  · rw [List.filterMap_map]
    rfl

theorem superLines_eq (binding : Binding) : superLines binding = .ok (Source.superLines binding) := by
  cases binding with
  | startUp | viewEvent | moreBlock => rfl
  | activityEvent event =>
    rw [superLines, entry_of_lookup (lookup_activityEvents event)]
    rfl

theorem memberLines_eq {h : Handler} {around : Surroundings}
    (hvalid : ValidAll around (fun _ => False) h.blocks) :
    memberLines c h = reported (c.memberLines h) := by
  rw [memberLines, ActivityClass.memberLines, methodLines, superLines_eq,
    sequenceLines_eq _ _ _ _ hvalid]
  simp only [ok_bind, reported_bind, reported_pure, bind_assoc, pure_bind]

/-! ## Classes have no gap -/

/-- The blocks of every handler that has a method are allowed. -/
theorem valid_of_mem_methods (h : c.logic.Sound) {handler : Handler}
    (hmem : handler ∈ c.orderedHandlers ++ c.missingHandlers) :
    ∃ around, ValidAll around (fun _ => False) handler.blocks := by
  rcases ActivityClass.handler_of_mem_methods hmem with hscreen | rfl | ⟨declared, -, rfl⟩
  · exact ⟨_, (h.handlers handler hscreen).valid⟩
  · exact ⟨⟨c.logic.declarations, []⟩, trivial⟩
  · exact ⟨⟨c.logic.declarations, []⟩, trivial⟩

theorem lines_eq (hlogic : c.logic.Sound) (hviews : c.views.Known) :
    lines c = reported c.lines := by
  rw [lines, ActivityClass.lines, fieldLines_eq hviews]
  cases hfields : c.fieldLines with
  | error failure => rfl
  | ok fieldPart =>
    obtain ⟨missing, hmissing, hothers⟩ := missingHandlers_eq c
    have hmember : ∀ handler ∈ c.orderedHandlers ++ c.missingHandlers,
        memberLines c handler = reported (c.memberLines handler) := by
      intro handler hhandler
      obtain ⟨around, hvalid⟩ := valid_of_mem_methods hlogic hhandler
      exact memberLines_eq hvalid
    have hmethods := reported_mapM fun handler h => hmember handler (List.mem_append_left _ h)
    have hempty := reported_mapM fun handler h => hmember handler (List.mem_append_right _ h)
    rw [initializeLines_eq (known_of_fieldLines hfields), hmethods, hmissing]
    simp only [ok_bind, hothers, hempty, reported_ok, reported_bind, reported_pure, List.mapM_append,
      bind_assoc, pure_bind]

/-- **A class is the same by tables**, if its logic is sound and its views are of known types. -/
theorem source_eq (hlogic : c.logic.Sound) (hviews : c.views.Known) (indent : String) :
    source c indent = reported (c.source indent) := by
  rw [source, ActivityClass.source, lines_eq hlogic hviews]
  simp only [reported_bind, reported_pure]

end BlockApp.Tables
