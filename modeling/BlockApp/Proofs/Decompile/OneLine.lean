import BlockApp.Proofs.Decompile.Brackets
import BlockApp.Proofs.Method.OneLine

/-!
# Lines of a class that are one line

A class is written with the names of what its screen declares, the names of its views and the tokens of its
handlers. Each of its lines is one line of text unless a token ends it: whatever stands in a line of the
set-up also stands in a field or a method. In a project these tokens are taken from the logic section and the
view section, and what they may hold there is all that can end a line.

* `ActivityClass.tokens` — the tokens that a class is written with
* `ActivityClass.Framed` — what is no token of a class is one line
* `ActivityClass.oneLines_lines_iff` — the lines of a class
* `ActivityClass.oneLines_of_classOf` — the classes of a project
* `Token.accepted_of_sections` — what the tokens of all sections can hold
-/

namespace BlockApp

open Source

/-- Of the characters that end a line, only a line feed can be in a token. -/
theorem Token.Accepted.oneLine_iff {t : Token} (h : t.Accepted) :
    OneLine t.text.toList ↔ '\n' ∉ t.text.toList := by
  obtain ⟨s, hmatch, htext⟩ := h
  have hreturn : '\r' ∉ t.text.toList := by
    have hnone : '\r' ∉ s := fun hmem => absurd (hmatch.char hmem) (by decide +kernel)
    rcases htext with htext | htext
    · rwa [htext]
    · rw [htext, List.mem_append, List.mem_singleton]
      exact not_or_intro hnone (by decide)
  rw [oneLine_iff_notMem, and_iff_left hreturn]

namespace Source

variable {lines : List Line} {line : Line}

theorem oneLineTokens_map_iff {α : Type} {f : α → Token} {as : List α} :
    OneLineTokens (as.map f) ↔ ∀ a ∈ as, OneLine (f a).text.toList := List.forall_mem_map

theorem oneLineTokens_flatMap_iff {α : Type} {f : α → List Token} {as : List α} :
    OneLineTokens (as.flatMap f) ↔ ∀ a ∈ as, OneLineTokens (f a) := List.forall_mem_flatMap

theorem oneLines_singleton (h : OneLine line.text.toList) : OneLines [line] := List.forall_mem_singleton.2 h

theorem oneLines_flatten_iff {parts : List (List Line)} :
    OneLines parts.flatten ↔ ∀ part ∈ parts, OneLines part := List.forall_mem_flatten

theorem oneLine_of_isBareIdentifier {s : List Char} (h : Text.isBareIdentifier s = true) : OneLine s := by
  have hpart {c : Char} (hc : c ∈ s) := Text.isNamePart_of_isBareIdentifier h hc
  exact oneLine_iff_notMem.2 ⟨fun h => absurd (hpart h) (by decide), fun h => absurd (hpart h) (by decide)⟩

theorem oneLine_empty : OneLine "".toList := List.forall_mem_nil _

/-! ## Fields -/

theorem oneLine_fieldText_iff {type name : String} {value : Option String} (htype : OneLine type.toList)
    (hvalue : ∀ text ∈ value, OneLine text.toList) :
    OneLine (fieldText type name value).toList ↔ OneLine name.toList := by
  have hparts : OneLine "private ".toList ∧ OneLine " ".toList ∧ OneLine " = ".toList ∧
    OneLine ";".toList := by decide
  cases value with
  | none =>
    show OneLine ("private " ++ type ++ " " ++ name ++ ";").toList ↔ _
    simp only [oneLine_append_iff, hparts, htype, true_and, and_true]
  | some text =>
    have htext := hvalue text rfl
    show OneLine ("private " ++ type ++ " " ++ name ++ " = " ++ text ++ ";").toList ↔ _
    simp only [oneLine_append_iff, hparts, htype, htext, true_and, and_true]

theorem oneLine_variableField_iff (declared : VariableDeclaration) :
    OneLine (variableField declared).text.toList ↔ OneLine declared.name.toList := by
  obtain ⟨shape, name⟩ := declared
  have hshape : OneLine shape.javaType.toList ∧ OneLine shape.initial.toList := by
    cases shape with
    | single type => cases type <;> decide
    | list element => cases element <;> decide
  refine oneLine_fieldText_iff hshape.1 fun text htext => ?_
  cases htext
  exact hshape.2

theorem oneLine_componentField_iff {screen : String} {declared : ComponentDeclaration}
    (h : componentField screen declared = .ok line) :
    OneLine line.text.toList ↔ OneLine declared.name.toList := by
  unfold componentField at h
  split at h
  · cases h
  · next type _ =>
    cases h
    have hclass : OneLine type.name.toList ∧ ∀ text ∈ type.initial?, OneLine text.toList := by
      cases type <;> decide
    exact oneLine_fieldText_iff hclass.1 hclass.2

theorem oneLine_viewField_iff {screen : String} {entry : ViewEntry} (h : viewField screen entry = .ok line) :
    OneLine line.text.toList ↔ OneLine entry.id.toList := by
  unfold viewField at h
  split at h
  · cases h
  · next type htype =>
    cases h
    have hname : OneLine entry.type.toList := by
      rw [← Component.name_of_ofName? htype]
      cases type <;> decide
    have hnone : ∀ text ∈ (none : Option String), OneLine text.toList := by rintro _ ⟨⟩
    exact oneLine_fieldText_iff hname hnone

/-! ## Setting up -/

theorem oneLine_setupLine? {declared : ComponentDeclaration} (hname : OneLine declared.name.toList)
    (h : setupLine? declared = some line) : OneLine line.text.toList := by
  simp only [setupLine?, Option.bind_eq_bind, Option.bind_eq_some_iff] at h
  obtain ⟨type, -, text, htext, h⟩ := h
  cases h
  cases type with
  | intent | calendar | timer => cases htext
  | sharedPreferences =>
    cases htext
    have hcall : OneLine " = getSharedPreferences(".toList := oneLine_ofList (by decide)
    have hmode : OneLine ", Context.MODE_PRIVATE);".toList := oneLine_ofList (by decide)
    have hextra := oneLine_literal declared.extra
    show OneLine (declared.name ++ " = getSharedPreferences(" ++ literal declared.extra ++
      ", Context.MODE_PRIVATE);").toList
    simp only [oneLine_append_iff, hcall, hmode, hname, hextra, true_and]
  | vibrator =>
    cases htext
    exact (oneLine_suffixed_iff (oneLine_ofList (by decide))).2 hname

theorem oneLine_findViewLine {entry : ViewEntry} (h : OneLine entry.id.toList) :
    OneLine (ActivityClass.findViewLine entry).text.toList := by
  have hfind : OneLine " = findViewById(R.id.".toList := oneLine_ofList (by decide)
  have hclose : OneLine ");".toList := oneLine_ofList (by decide)
  show OneLine (entry.id ++ " = findViewById(R.id." ++ entry.id ++ ");").toList
  simp only [oneLine_append_iff, hfind, hclose, h, true_and]

theorem oneLines_windowLines (window : Option Activity) : OneLines (ActivityClass.windowLines window) := by
  cases window with
  | none => exact oneLines_nil
  | some window =>
    refine oneLines_append_iff.2 ⟨?_, ?_⟩
    · cases window.orientation with
      | both => exact oneLines_nil
      | portrait | landscape => exact oneLines_singleton (oneLine_ofList (by decide))
    · cases window.keyboard with
      | unspecified => exact oneLines_nil
      | visible | hidden => exact oneLines_singleton (oneLine_ofList (by decide))

/-! ## Listeners -/

theorem oneLine_ofTabbed (level : Nat) {text : String} (imports : List String) (h : OneLine text.toList) :
    OneLine (Line.ofTabbed level text imports).text.toList := by
  rw [Line.ofTabbed, String.toList_ofList]
  exact fun c hc => h c ((List.dropWhile_sublist _).subset hc)

theorem oneLine_listenerOpening {view : String} (h : OneLine view.toList) (event : ViewEvent) :
    OneLine (listenerOpening view event).toList := by
  cases event <;> exact (oneLine_suffixed_iff (oneLine_ofList (by decide))).2 h

theorem oneLine_listenerMethods {method : String} (h : OneLine method.toList) (event : ViewEvent) :
    ∀ m ∈ listenerMethods method event,
      OneLine m.signature.toList ∧ ∀ statement ∈ m.statements, OneLine statement.toList := by
  have hcall {args : List Char} (hargs : OneLine args) : OneLine (method ++ String.ofList args).toList :=
    (oneLine_suffixed_iff (oneLine_ofList hargs)).2 h
  cases event <;> simp only [listenerMethods, List.forall_mem_cons, List.not_mem_nil, IsEmpty.forall_iff,
    implies_true, and_true]
  case longClick =>
    exact ⟨oneLine_ofList (by decide), hcall (by decide), oneLine_ofList (by decide)⟩
  case textChanged | progressChanged =>
    exact ⟨⟨oneLine_ofList (by decide), hcall (by decide)⟩,
      oneLine_ofList (by decide), oneLine_ofList (by decide)⟩
  case itemSelected =>
    exact ⟨⟨oneLine_ofList (by decide), hcall (by decide)⟩,
      oneLine_ofList (by decide)⟩
  all_goals exact ⟨oneLine_ofList (by decide), hcall (by decide)⟩

theorem oneLines_listenerMethod {m : ListenerMethod} (level : Nat) (hsignature : OneLine m.signature.toList)
    (hstatements : ∀ statement ∈ m.statements, OneLine statement.toList) : OneLines (m.lines level) := by
  rw [ListenerMethod.lines, oneLines_cons_iff, oneLines_bracedBy_iff]
  have hopening : OneLine (m.signature ++ " \x7b").toList :=
    (oneLine_suffixed_iff (oneLine_ofList (by decide))).2 hsignature
  exact ⟨oneLine_ofList (by decide), hopening, List.forall_mem_map.2 hstatements⟩

theorem oneLines_listenerLines {view method : String} (hview : OneLine view.toList)
    (hmethod : OneLine method.toList) (level : Nat) (event : ViewEvent) :
    OneLines (listenerLines level view method event) := by
  have hopening := oneLine_ofTabbed level (listenerImports event) (oneLine_listenerOpening hview event)
  have hclosing : OneLines [Line.plain level "\x7d);"] := oneLines_singleton (oneLine_ofList (by decide))
  have hmethods : ∀ part ∈ (listenerMethods method event).map (ListenerMethod.lines (level + 1)),
      OneLines part := by
    intro part hpart
    obtain ⟨m, hm, rfl⟩ := List.mem_map.1 hpart
    obtain ⟨hsignature, hstatements⟩ := oneLine_listenerMethods hmethod event m hm
    exact oneLines_listenerMethod (level + 1) hsignature hstatements
  have hblank : OneLines [Line.blank] := oneLines_singleton oneLine_empty
  exact oneLines_append_iff.2 ⟨oneLines_cons_iff.2 ⟨hopening, forall_mem_intercalate hblank _ hmethods⟩,
    hclosing⟩

end Source

/-! ## Classes -/

namespace ActivityClass

variable {c : ActivityClass} {parts : Parts} {lines : List Line} {handler : Handler}

/-- The tokens that a class is written with: the names of what the screen declares and of the views that logic
refers to, and the tokens of all handlers that have a method. -/
def tokens (c : ActivityClass) : List Token :=
  c.logic.declarations.vars.map (fun declared => ⟨.name, declared.name⟩) ++
    c.logic.declarations.components.map (fun declared => ⟨.name, declared.name⟩) ++
    c.views.referenced.map (fun entry => ⟨.name, entry.id⟩) ++
    (c.orderedHandlers ++ c.missingHandlers).flatMap (·.tokens)

/-- Whether what is no token of a class is one line: its name and that of its layout, and the names of
parameters. -/
structure Framed (c : ActivityClass) : Prop where
  name : OneLine c.name.toList
  layout : OneLine c.layout.toList
  logic : c.logic.Sound
  parameters : ∀ declared ∈ c.logic.declarations.moreBlocks, ∀ parameter ∈ declared.parameters,
    OneLine parameter.name.toList

theorem oneLine_parameterText {a : Argument} (htype : OneLine a.javaType.toList)
    (hname : OneLine a.name.toList) : OneLine (parameterText a).toList := by
  have hparts : OneLine "final ".toList ∧ OneLine " _".toList := by decide
  show OneLine ("final " ++ a.javaType ++ " _" ++ a.name).toList
  simp only [oneLine_append_iff, hparts, htype, hname, and_self]

theorem oneLine_arguments_moreBlock (hc : c.Framed) {declared : MoreBlock}
    (h : declared ∈ c.logic.declarations.moreBlocks) :
    ∀ a ∈ declared.arguments, OneLine (parameterText a).toList := by
  intro a ha
  obtain ⟨parameter, hparameter, rfl⟩ := List.mem_map.1 ha
  have htype : OneLine parameter.type.javaType.toList := by cases parameter.type <;> decide
  exact oneLine_parameterText htype (hc.parameters declared h parameter hparameter)

/-- What a handler of the screen is told is named on one line. -/
theorem oneLine_arguments (hc : c.Framed) (h : handler ∈ c.logic.handlers) :
    ∀ a ∈ handler.arguments, OneLine (parameterText a).toList := by
  have harguments := (hc.logic.handlers handler h).arguments
  cases hbinding : handler.binding with
  | startUp | activityEvent =>
    rw [hbinding] at harguments
    rw [← Except.ok.inj harguments]
    exact List.forall_mem_nil _
  | viewEvent view event =>
    rw [hbinding] at harguments
    rw [← Except.ok.inj harguments]
    cases event <;> decide
  | moreBlock name =>
    rw [hbinding, Binding.argumentsIn?] at harguments
    split at harguments
    · next declared hdeclared =>
      rw [← Except.ok.inj harguments]
      exact oneLine_arguments_moreBlock hc (List.mem_of_find?_eq_some hdeclared)
    · cases harguments

/-- The method of a handler is one line each exactly if its tokens are: the handlers that are no handlers of
the screen have no blocks. -/
theorem oneLines_memberLines_iff (hc : c.Framed) (h : handler ∈ c.orderedHandlers ++ c.missingHandlers)
    (hlines : c.memberLines handler = .ok lines) : OneLines lines ↔ OneLineTokens handler.tokens := by
  simp only [memberLines, Except.bind_eq_ok_iff, Except.pure_eq_ok_iff] at hlines
  obtain ⟨body, hbody, rfl⟩ := hlines
  have hblank : OneLine Line.blank.text.toList := oneLine_empty
  rw [oneLines_cons_iff, and_iff_right hblank]
  have hnone : ValidAll ⟨c.logic.declarations, []⟩ (fun _ => False) [] := trivial
  rcases handler_of_mem_methods h with hmem | rfl | ⟨declared, hdeclared, rfl⟩
  · have hsound := hc.logic.handlers handler hmem
    exact oneLines_methodLines_iff hsound.valid hsound.wellFormed (oneLine_arguments hc hmem) hbody
  · exact oneLines_methodLines_iff hnone (List.forall_mem_nil _) (List.forall_mem_nil _) hbody
  · exact oneLines_methodLines_iff hnone (List.forall_mem_nil _) (oneLine_arguments_moreBlock hc hdeclared)
      hbody

/-! ### Parts -/

theorem oneLines_methods_iff (hc : c.Framed) (hparts : c.HasParts parts) :
    OneLines parts.methods.flatten ↔
      OneLineTokens ((c.orderedHandlers ++ c.missingHandlers).flatMap (·.tokens)) := by
  rw [oneLines_flatten_iff, oneLineTokens_flatMap_iff]
  exact Except.forall_mem_iff_of_mapM hparts.methods fun handler hhandler lines hlines =>
    oneLines_memberLines_iff hc hhandler hlines

/-- The fields hold the names of what they are for, and nothing else that could end a line. -/
theorem oneLines_fields_iff (hparts : c.HasParts parts) :
    OneLines parts.fields ↔
      OneLineTokens (c.logic.declarations.vars.map (fun declared => ⟨.name, declared.name⟩) ++
        c.logic.declarations.components.map (fun declared => ⟨.name, declared.name⟩) ++
        c.views.referenced.map (fun entry => ⟨.name, entry.id⟩)) := by
  have hblank : OneLine Line.blank.text.toList := oneLine_empty
  have hfields : OneLines parts.fields ↔ OneLines (parts.declared ++ parts.viewFields) := by
    unfold Parts.fields
    split
    · next hnone => rw [hnone]
    · rw [oneLines_cons_iff, and_iff_right hblank]
  obtain ⟨components, hcomponents, hdeclared⟩ := hparts.declared
  have hvars : OneLines (c.logic.declarations.vars.map variableField) ↔
      ∀ declared ∈ c.logic.declarations.vars, OneLine declared.name.toList := by
    refine List.forall_mem_map.trans (forall_congr' fun declared => forall_congr' fun _ => ?_)
    exact oneLine_variableField_iff declared
  have hcomponentLines : OneLines components ↔
      ∀ declared ∈ c.logic.declarations.components, OneLine declared.name.toList :=
    Except.forall_mem_iff_of_mapM hcomponents fun _ _ _ => oneLine_componentField_iff
  have hviews : OneLines parts.viewFields ↔ ∀ entry ∈ c.views.referenced, OneLine entry.id.toList :=
    Except.forall_mem_iff_of_mapM hparts.viewFields fun _ _ _ => oneLine_viewField_iff
  rw [hfields, hdeclared, oneLines_append_iff, oneLines_append_iff, hvars, hcomponentLines, hviews,
    oneLineTokens_append, oneLineTokens_append, oneLineTokens_map_iff, oneLineTokens_map_iff,
    oneLineTokens_map_iff]

theorem oneLines_createLines (hc : c.Framed) : OneLines c.createLines := by
  have hlayout : OneLine ("setContentView(R.layout." ++ c.layout ++ ");").toList :=
    (oneLine_between_iff (oneLine_ofList (by decide)) (oneLine_ofList (by decide))).2 hc.layout
  have hhead : OneLines [.blank, .plain 1 "@Override"] :=
    oneLines_cons_iff.2 ⟨oneLine_empty, oneLines_singleton (oneLine_ofList (by decide))⟩
  have hopening : OneLine "protected void onCreate(Bundle _savedInstanceState) \x7b".toList :=
    oneLine_ofList (by decide)
  have hsuper : OneLine "super.onCreate(_savedInstanceState);".toList := oneLine_ofList (by decide)
  have hsetup : OneLine "initialize(_savedInstanceState);".toList := oneLine_ofList (by decide)
  have hlogic : OneLines [.plain 2 "initializeLogic();"] := oneLines_singleton (oneLine_ofList (by decide))
  exact oneLines_append_iff.2 ⟨hhead, oneLines_bracedBy_iff.2 ⟨hopening, oneLines_cons_iff.2
    ⟨hsuper, oneLines_cons_iff.2 ⟨hlayout, oneLines_cons_iff.2 ⟨hsetup, hlogic⟩⟩⟩⟩⟩

theorem oneLine_openingLine (hc : c.Framed) : OneLine c.openingLine.text.toList := by
  have hclass : OneLine "public class ".toList := oneLine_ofList (by decide)
  unfold openingLine
  split <;> exact (oneLine_between_iff hclass (oneLine_ofList (by decide))).2 hc.name

/-- What is set up has a field or is what a method is called for. -/
theorem oneLines_setUp (hparts : c.HasParts parts) (h : OneLineTokens c.tokens) :
    OneLines (parts.setUp c) := by
  rw [tokens, oneLineTokens_append, oneLineTokens_append, oneLineTokens_append, oneLineTokens_map_iff,
    oneLineTokens_map_iff, oneLineTokens_map_iff, oneLineTokens_flatMap_iff] at h
  obtain ⟨⟨⟨-, hcomponents⟩, hviews⟩, hhandlers⟩ := h
  have hopening : OneLine Parts.setUpOpening.text.toList := oneLine_ofList (by decide)
  have hfound : OneLines (c.views.referenced.map findViewLine) :=
    List.forall_mem_map.2 fun entry hentry => oneLine_findViewLine (hviews entry hentry)
  have hsetups : OneLines (c.logic.declarations.components.filterMap setupLine?) := by
    intro line hline
    obtain ⟨declared, hmem, hmade⟩ := List.mem_filterMap.1 hline
    exact oneLine_setupLine? (hcomponents declared hmem) hmade
  have hlisteners : OneLines parts.listeners.flatten := by
    refine oneLines_flatten_iff.2 fun part hpart => ?_
    obtain ⟨handler, hhandler, hmade⟩ := Except.exists_source_of_mapM hparts.listeners hpart
    have htokens := hhandlers handler (List.mem_append_left _ (mem_orderedHandlers hhandler))
    rw [Handler.tokens, oneLineTokens_append] at htokens
    cases hbinding : handler.binding with
    | viewEvent view event =>
      obtain ⟨-, -, rfl⟩ := exists_entry_of_listenerOf hbinding hmade
      have hmethod := (oneLine_methodName_iff handler.binding).2 htokens.1
      rw [hbinding, Binding.tokens, oneLineTokens_singleton] at htokens
      exact oneLines_listenerLines htokens.1 hmethod 2 event
    | startUp | activityEvent | moreBlock =>
      simp only [listenerOf, hbinding] at hmade
      cases hmade
      exact oneLines_nil
  exact oneLines_cons_iff.2 ⟨oneLine_empty, oneLines_bracedBy_iff.2 ⟨hopening, oneLines_append_iff.2
    ⟨oneLines_append_iff.2 ⟨oneLines_append_iff.2 ⟨oneLines_windowLines c.window, hfound⟩, hsetups⟩,
      hlisteners⟩⟩⟩

/-- **The lines of a class are one line each exactly if no line ends in one of its tokens.** -/
theorem oneLines_lines_iff (hc : c.Framed) (h : c.lines = .ok lines) :
    OneLines lines ↔ OneLineTokens c.tokens := by
  obtain ⟨parts, hparts, rfl⟩ := lines_eq_ok_iff.1 h
  have hparted : OneLineTokens c.tokens ↔ OneLines parts.fields ∧ OneLines parts.methods.flatten := by
    rw [oneLines_fields_iff hparts, oneLines_methods_iff hc hparts, tokens, oneLineTokens_append]
  rw [Parts.lines, oneLines_bracedBy_iff, and_iff_right (oneLine_openingLine hc), oneLines_append_iff,
    oneLines_append_iff, oneLines_append_iff, and_iff_left (oneLines_createLines hc), and_right_comm,
    ← hparted, and_iff_left_iff_imp]
  exact oneLines_setUp hparts

end ActivityClass

/-! ## Classes of a project -/

namespace LogicSection

variable {logic : LogicSection} {group : LogicGroup} {t : Token}

theorem mem_tokens (hgroup : group ∈ logic.groups) (ht : t ∈ group.content.tokens) : t ∈ logic.tokens :=
  List.mem_flatMap.2 ⟨group, hgroup, ht⟩

/-- What a screen declares stands in a group of the section. -/
theorem exists_group_of_declared {α : Type} {part : GroupContent → List α} {screen : String} {a : α}
    (h : a ∈ ((logic.ofScreen screen).map (·.content)).flatMap part) :
    ∃ group ∈ logic.groups, a ∈ part group.content := by
  obtain ⟨_, hcontent, ha⟩ := List.mem_flatMap.1 h
  obtain ⟨group, hgroup, rfl⟩ := List.mem_map.1 hcontent
  exact ⟨group, (List.mem_filter.1 hgroup).1, ha⟩

end LogicSection

namespace GroupContent

variable {content : GroupContent}

theorem moreBlocks_of_mem {declared : MoreBlock} (h : declared ∈ content.declaredMoreBlocks) :
    ∃ all, content = .moreBlocks all ∧ declared ∈ all := by
  cases content with
  | moreBlocks all => exact ⟨all, rfl, h⟩
  | vars | components | handler => exact absurd h List.not_mem_nil

theorem name_mem_of_declaredVariables {declared : VariableDeclaration}
    (h : declared ∈ content.declaredVariables) : ⟨.name, declared.name⟩ ∈ content.tokens := by
  cases content with
  | vars all => exact List.mem_map.2 ⟨declared, h, rfl⟩
  | components | moreBlocks | handler => exact absurd h List.not_mem_nil

theorem name_mem_of_declaredComponents {declared : ComponentDeclaration}
    (h : declared ∈ content.declaredComponents) : ⟨.name, declared.name⟩ ∈ content.tokens := by
  cases content with
  | components all => exact List.mem_flatMap.2 ⟨declared, h, List.mem_pair.2 (.inr rfl)⟩
  | vars | moreBlocks | handler => exact absurd h List.not_mem_nil

theorem name_mem_of_declaredMoreBlocks {declared : MoreBlock} (h : declared ∈ content.declaredMoreBlocks) :
    ⟨.name, declared.name⟩ ∈ content.tokens := by
  obtain ⟨all, rfl, hmem⟩ := moreBlocks_of_mem h
  exact List.mem_flatMap.2 ⟨declared, hmem, List.mem_cons_self⟩

theorem mem_tokens_of_handlerRecords? {records : List BlockRecord}
    (h : content.handlerRecords? = some records) {record : BlockRecord} (hrecord : record ∈ records)
    {t : Token} (ht : t ∈ Expr.tokensOf record.params) : t ∈ content.tokens := by
  cases content with
  | handler all =>
    cases h
    exact List.mem_flatMap.2 ⟨record, hrecord, ht⟩
  | vars | components | moreBlocks => cases h

end GroupContent

namespace LogicTree

/-- Whether the names that a screen declares and the tokens of its blocks are among these, and the parameters
of its more blocks are complete names. -/
structure TokensIn (tree : LogicTree) (tokens : List Token) : Prop where
  vars : ∀ d ∈ tree.declarations.vars, ⟨.name, d.name⟩ ∈ tokens
  components : ∀ d ∈ tree.declarations.components, ⟨.name, d.name⟩ ∈ tokens
  moreBlocks : ∀ d ∈ tree.declarations.moreBlocks, ⟨.name, d.name⟩ ∈ tokens
  rows : ∀ handler ∈ tree.handlers, ∀ row ∈ rowsOf 0 handler.blocks,
    ∀ t ∈ Expr.tokensOf row.params, t ∈ tokens
  parameters : ∀ d ∈ tree.declarations.moreBlocks, ∀ p ∈ d.parameters,
    (⟨.name, p.name⟩ : Token).Complete

variable {text screen : String} {logic : LogicSection} {tree : LogicTree}

theorem tokensIn_none (tokens : List Token) : (none screen).TokensIn tokens :=
  ⟨List.forall_mem_nil _, List.forall_mem_nil _, List.forall_mem_nil _, List.forall_mem_nil _,
    List.forall_mem_nil _⟩

/-- The tokens of a screen are among those of its section. -/
theorem tokensIn_of_ofScreen (hread : LogicSection.ofText text = .ok logic)
    (h : ofScreen logic screen = .ok tree) : tree.TokensIn logic.tokens := by
  have hdeclarations := declarations_of_ofScreen h
  refine ⟨fun d hd => ?_, fun d hd => ?_, fun d hd => ?_, fun handler hhandler row hrow t ht => ?_,
    fun d hd p hp => ?_⟩
  · rw [hdeclarations] at hd
    obtain ⟨group, hgroup, hd⟩ := LogicSection.exists_group_of_declared hd
    exact LogicSection.mem_tokens hgroup (GroupContent.name_mem_of_declaredVariables hd)
  · rw [hdeclarations] at hd
    obtain ⟨group, hgroup, hd⟩ := LogicSection.exists_group_of_declared hd
    exact LogicSection.mem_tokens hgroup (GroupContent.name_mem_of_declaredComponents hd)
  · rw [hdeclarations] at hd
    obtain ⟨group, hgroup, hd⟩ := LogicSection.exists_group_of_declared hd
    exact LogicSection.mem_tokens hgroup (GroupContent.name_mem_of_declaredMoreBlocks hd)
  · obtain ⟨used, key, records, hmem, hrecords⟩ := exists_records_of_ofScreen h hhandler
    obtain ⟨group, hgroup, -, hcontent⟩ := exists_group_of_mem_handlers hmem
    obtain ⟨-, -, -, -, hrows, -⟩ := Handler.ofRecords_eq_ok_iff.1 hrecords
    rw [hrows] at hrow
    obtain ⟨record, hrecord, rfl⟩ := List.mem_map.1 hrow
    exact LogicSection.mem_tokens hgroup (GroupContent.mem_tokens_of_handlerRecords? hcontent hrecord ht)
  · rw [hdeclarations] at hd
    obtain ⟨group, hgroup, hd⟩ := LogicSection.exists_group_of_declared hd
    obtain ⟨all, hall, hmem⟩ := GroupContent.moreBlocks_of_mem hd
    exact LogicSection.complete_parameter hread hgroup hall hmem hp

theorem tokensIn_logicOf (hread : LogicSection.ofText text = .ok logic) {trees : List LogicTree}
    (htrees : logic.trees = .ok trees) (activity : String) :
    (Artifacts.logicOf trees activity).TokensIn logic.tokens := by
  unfold Artifacts.logicOf
  cases hfind : trees.find? (·.screen == activity) with
  | none => exact tokensIn_none logic.tokens
  | some tree =>
    obtain ⟨screen, -, hmade⟩ := Except.exists_source_of_mapM htrees (List.mem_of_find?_eq_some hfind)
    exact tokensIn_of_ofScreen hread hmade

end LogicTree

namespace ActivityClass

variable {c : ActivityClass} {parts : Parts} {texts : Sections String} {skipped : List String}
  {project : Project} {logicTrees : List LogicTree} {viewTrees : List ViewTree} {tree : ViewTree}
  {logicTokens viewTokens : List Token}

/-- A handler is called for a view of the screen or a more block that it declares. -/
theorem mem_of_mem_binding_tokens (hlogic : c.logic.TokensIn logicTokens) (hsound : c.logic.Sound)
    (hviews : ∀ entry ∈ c.views.entries, ⟨.name, entry.id⟩ ∈ viewTokens) (hparts : c.HasParts parts)
    {handler : Handler} (hhandler : handler ∈ c.logic.handlers) {t : Token}
    (ht : t ∈ handler.binding.tokens) : t ∈ logicTokens ∨ t ∈ viewTokens := by
  obtain ⟨lines, -, hlines⟩ := Except.exists_result_of_mapM hparts.listeners hhandler
  have harguments := (hsound.handlers handler hhandler).arguments
  cases hbinding : handler.binding with
  | startUp | activityEvent =>
    rw [hbinding] at ht
    exact absurd ht List.not_mem_nil
  | viewEvent view event =>
    obtain ⟨entry, hentry, -⟩ := exists_entry_of_listenerOf hbinding hlines
    obtain ⟨hmem, rfl⟩ := ViewIndex.exists_entry_of_entry? hentry
    rw [hbinding, Binding.tokens, List.mem_singleton] at ht
    exact .inr (ht ▸ hviews entry hmem)
  | moreBlock name =>
    rw [hbinding, Binding.argumentsIn?] at harguments
    split at harguments
    · next declared hdeclared =>
      obtain ⟨rfl, -⟩ := hsound.named.of_moreBlock? hdeclared
      rw [hbinding, Binding.tokens, List.mem_singleton] at ht
      exact .inl (ht ▸ hlogic.moreBlocks declared (List.mem_of_find?_eq_some hdeclared))
    · cases harguments

theorem mem_of_mem_tokens (hlogic : c.logic.TokensIn logicTokens) (hsound : c.logic.Sound)
    (hviews : ∀ entry ∈ c.views.entries, ⟨.name, entry.id⟩ ∈ viewTokens) (hparts : c.HasParts parts)
    {t : Token} (ht : t ∈ c.tokens) : t ∈ logicTokens ∨ t ∈ viewTokens := by
  rw [tokens, List.mem_append, List.mem_append, List.mem_append] at ht
  rcases ht with ((ht | ht) | ht) | ht
  · obtain ⟨declared, hdeclared, rfl⟩ := List.mem_map.1 ht
    exact .inl (hlogic.vars declared hdeclared)
  · obtain ⟨declared, hdeclared, rfl⟩ := List.mem_map.1 ht
    exact .inl (hlogic.components declared hdeclared)
  · obtain ⟨entry, hentry, rfl⟩ := List.mem_map.1 ht
    exact .inr (hviews entry (ViewIndex.mem_entries_of_mem_referenced hentry))
  · obtain ⟨handler, hhandler, ht⟩ := List.mem_flatMap.1 ht
    rcases handler_of_mem_methods hhandler with hmem | rfl | ⟨declared, hdeclared, rfl⟩
    · rcases List.mem_append.1 ht with hbinding | hrows
      · exact mem_of_mem_binding_tokens hlogic hsound hviews hparts hmem hbinding
      · obtain ⟨row, hrow, ht⟩ := List.mem_flatMap.1 hrows
        exact .inl (hlogic.rows handler hmem row hrow t ht)
    · exact absurd ht List.not_mem_nil
    · have hname : t = ⟨.name, declared.name⟩ := List.mem_singleton.1 ht
      exact .inl (hname ▸ hlogic.moreBlocks declared hdeclared)

/-- The views of a class are those of the view section. -/
theorem id_mem_of_classOf (hview : project.view.trees = .ok viewTrees) (htree : tree ∈ viewTrees)
    (h : Artifacts.classOf project logicTrees tree = .ok c) :
    ∀ entry ∈ c.views.entries, ⟨.name, entry.id⟩ ∈ project.view.tokens := by
  simp only [Artifacts.classOf, Except.bind_eq_ok_iff, Except.pure_eq_ok_iff] at h
  obtain ⟨views, hviews, rfl⟩ := h
  intro entry hentry
  obtain ⟨node, hnode, type, -, rfl⟩ := ViewIndex.entry_of_ofTree hviews hentry
  obtain ⟨screen, hscreen, hmade⟩ := Except.exists_source_of_mapM hview htree
  have hrecord := ViewTree.record_mem_of_ofScreen hmade hnode
  refine List.mem_flatMap.2 ⟨screen, hscreen, List.mem_flatMap.2 ⟨node.record, hrecord, ?_⟩⟩
  exact List.mem_append_left _ (List.mem_append_left _ List.mem_cons_self)

/-- What is no token of a class is one line: the names of screens and of parameters are complete. -/
theorem framed_of_classOf (hproject : Project.ofTexts texts skipped = .ok project)
    (hlogic : project.logic.trees = .ok logicTrees) (hview : project.view.trees = .ok viewTrees)
    (htree : tree ∈ viewTrees) (h : Artifacts.classOf project logicTrees tree = .ok c) : c.Framed := by
  obtain ⟨-, hlogicText, -⟩ := Project.sections_of_ofTexts hproject
  have hscreen := ViewTree.isBareIdentifier_screen hproject hview htree
  have hsound := (sound_of_classOf hproject hlogic hview htree h).logic
  simp only [Artifacts.classOf, Except.bind_eq_ok_iff, Except.pure_eq_ok_iff] at h
  obtain ⟨views, -, rfl⟩ := h
  refine ⟨oneLine_of_isBareIdentifier (isBareIdentifier_activityClassName hscreen),
    oneLine_of_isBareIdentifier hscreen, hsound, fun d hd p hp => ?_⟩
  have htokens := LogicTree.tokensIn_logicOf hlogicText hlogic (activityClassName tree.screen)
  have hcomplete := htokens.parameters d hd p hp
  exact oneLine_of_isBareIdentifier (Text.isBareIdentifier_iff.2 hcomplete)

/-- **Where a line ends in the class of a screen.** The tokens of the class are tokens of the logic section or
of the view section, and its lines are one line each exactly if there is no line feed in these. -/
theorem oneLines_of_classOf (hproject : Project.ofTexts texts skipped = .ok project)
    (hlogic : project.logic.trees = .ok logicTrees) (hview : project.view.trees = .ok viewTrees)
    (htree : tree ∈ viewTrees) (h : Artifacts.classOf project logicTrees tree = .ok c) {lines : List Line}
    (hlines : c.lines = .ok lines) :
    (∀ t ∈ c.tokens, t ∈ project.logic.tokens ∨ t ∈ project.view.tokens) ∧
      (OneLines lines ↔ ∀ t ∈ c.tokens, '\n' ∉ t.text.toList) := by
  obtain ⟨-, hlogicText, hviewText⟩ := Project.sections_of_ofTexts hproject
  have hframed := framed_of_classOf hproject hlogic hview htree h
  have htokensIn : c.logic.TokensIn project.logic.tokens := by
    simp only [Artifacts.classOf, Except.bind_eq_ok_iff, Except.pure_eq_ok_iff] at h
    obtain ⟨views, -, rfl⟩ := h
    exact LogicTree.tokensIn_logicOf hlogicText hlogic _
  obtain ⟨parts, hparts, -⟩ := lines_eq_ok_iff.1 hlines
  have hmem : ∀ t ∈ c.tokens, t ∈ project.logic.tokens ∨ t ∈ project.view.tokens := fun t ht =>
    mem_of_mem_tokens htokensIn hframed.logic (id_mem_of_classOf hview htree h) hparts ht
  refine ⟨hmem, (oneLines_lines_iff hframed hlines).trans ?_⟩
  refine forall_congr' fun t => forall_congr' fun ht => ?_
  rcases hmem t ht with hlogicToken | hviewToken
  · exact (LogicSection.accepted_of_ofText hlogicText hlogicToken).oneLine_iff
  · exact (ViewSection.accepted_of_ofText hviewText hviewToken).oneLine_iff

end ActivityClass

/-! ## All sections -/

/-- **What the tokens of all sections can hold.** In whatever a section is read from, each name, list of flags,
number and colour is one of its kind, with decimal digits of any script and with one line feed behind it or
none, and it is complete exactly if it has no line feed and no character that is not ASCII. The names of
attributes and of parameters are complete. The tokens of a class are tokens of the logic section or the view
section, and its lines are one line each exactly if these have no line feed. -/
theorem Token.accepted_of_sections (texts : Sections String) (skipped : List String) :
    (∀ logic, LogicSection.ofText texts.logic = .ok logic →
      (∀ t ∈ logic.tokens, t.Accepted) ∧
      ∀ group ∈ logic.groups, ∀ declared, group.content = .moreBlocks declared →
        ∀ d ∈ declared, ∀ p ∈ d.parameters, (⟨.name, p.name⟩ : Token).Complete) ∧
    (∀ view, ViewSection.ofText texts.view skipped = .ok view →
      (∀ t ∈ view.tokens, t.Accepted) ∧
      ∀ screen ∈ view.screens, ∀ record ∈ screen.records, ∀ attr ∈ record.attributes,
        (⟨.name, attr.name⟩ : Token).Complete) ∧
    (∀ resources, ResourceSection.ofText texts.resource = .ok resources →
      ∀ t ∈ resources.tokens, t.Accepted) ∧
    (∀ files, FileSection.ofText texts.file = .ok files → ∀ t ∈ files.tokens, t.Accepted) ∧
    (∀ libraries, LibrarySection.ofText texts.library = .ok libraries →
      ∀ t ∈ libraries.tokens, t.Accepted) ∧
    (∀ t : Token, t.Accepted → (t.Complete ↔ ∀ c ∈ t.text.toList, c ≠ '\n' ∧ c.toNat < 128)) ∧
    ∀ project settings selection artifacts, Project.ofTexts texts skipped = .ok project →
      Artifacts.ofProject settings project selection = .ok artifacts → ∀ entry ∈ artifacts.sources,
        ∃ logicTrees viewTrees tree c lines, project.logic.trees = .ok logicTrees ∧
          project.view.trees = .ok viewTrees ∧ tree ∈ viewTrees ∧
          Artifacts.classOf project logicTrees tree = .ok c ∧ c.source settings.indent = .ok entry.2 ∧
          c.lines = .ok lines ∧
          (∀ t ∈ c.tokens, t ∈ project.logic.tokens ∨ t ∈ project.view.tokens) ∧
          (OneLines lines ↔ ∀ t ∈ c.tokens, '\n' ∉ t.text.toList) := by
  refine ⟨fun logic h => ⟨fun t ht => LogicSection.accepted_of_ofText h ht, ?_⟩,
    fun view h => ⟨fun t ht => ViewSection.accepted_of_ofText h ht, ?_⟩,
    fun resources h t ht => ResourceSection.accepted_of_ofText h ht,
    fun files h t ht => FileSection.accepted_of_ofText h ht,
    fun libraries h t ht => LibrarySection.accepted_of_ofText h ht,
    fun t h => h.complete_iff, ?_⟩
  · intro group hgroup declared hcontent d hd p hp
    exact LogicSection.complete_parameter h hgroup hcontent hd hp
  · intro screen hscreen record hrecord attr hattr
    exact ViewSection.complete_attribute h hscreen hrecord hattr
  · intro project settings selection artifacts hproject hartifacts entry hentry
    obtain ⟨logicTrees, viewTrees, layouts, sources, hlogic, hview, -, -, -, hsources, rfl⟩ :=
      Artifacts.ofProject_eq_ok_iff.1 hartifacts
    rcases Artifacts.mem_of_mem_insertOnto hentry with hnil | hentry
    · exact absurd hnil List.not_mem_nil
    · obtain ⟨tree, htree, hmade⟩ := Except.exists_source_of_mapM hsources hentry
      obtain ⟨-, c, hclass, htext⟩ := Artifacts.sourceEntry_eq_ok_iff.1 hmade
      obtain ⟨parts, -, hlines⟩ := ActivityClass.exists_parts_of_source htext
      have hmem := (List.mem_filter.1 htree).1
      exact ⟨logicTrees, viewTrees, tree, c, _, hlogic, hview, hmem, hclass, htext, hlines,
        ActivityClass.oneLines_of_classOf hproject hlogic hview hmem hclass hlines⟩

/-- Sections with a variable that has a line feed behind its name, and a number with a digit of another
script. -/
def sectionsOfTokens : Sections String :=
  { sectionsOfView "@main.xml\nv\tLinearLayout\t\t\n" with
    logic := "@MainActivity.java_var\nnumber\tcount\\n\n@MainActivity.java_onStart\n1\t0\trepeat\tn:٣\n" }

/-- Both are accepted, and neither is complete: the line of the field ends behind the name. -/
theorem Token.accepted_of_sections_incomplete :
    (∃ logic, LogicSection.ofText sectionsOfTokens.logic = .ok logic ∧
      ∀ t ∈ [(⟨.name, "count\n"⟩ : Token), ⟨.number, "٣"⟩],
        t ∈ logic.tokens ∧ t.Accepted ∧ ¬t.Complete) ∧
    ∃ project artifacts, Project.ofTexts sectionsOfTokens [] = .ok project ∧
      Artifacts.ofProject shortSettings project .all = .ok artifacts ∧
      ∃ entry ∈ artifacts.sources, ∃ c : ActivityClass, c.source shortSettings.indent = .ok entry.2 ∧
        ∃ lines, c.lines = .ok lines ∧ ¬OneLines lines := by
  obtain ⟨hlogicSection, -, -, -, -, hcomplete, hjava⟩ := accepted_of_sections sectionsOfTokens []
  constructor
  · have hread : (LogicSection.ofText sectionsOfTokens.logic).map (·.tokens) =
        .ok [⟨.name, "count\n"⟩, ⟨.number, "٣"⟩] := by
      decide +kernel
    obtain ⟨logic, hlogic, htokens⟩ := Except.map_eq_ok_iff.1 hread
    refine ⟨logic, hlogic, fun t ht => ?_⟩
    have hmem : t ∈ logic.tokens := htokens ▸ ht
    have haccepted := (hlogicSection _ hlogic).1 t hmem
    refine ⟨hmem, haccepted, fun h => ?_⟩
    have hchars := (hcomplete t haccepted).1 h
    rcases List.mem_pair.1 ht with rfl | rfl
    · exact absurd rfl (hchars '\n' (by decide)).1
    · exact absurd (hchars '٣' (by decide)).2 (by decide)
  · have hmade : ((Project.ofTexts sectionsOfTokens []).bind fun project =>
        project.logic.trees.bind fun logicTrees => project.view.trees.bind fun viewTrees =>
          (Artifacts.ofProject shortSettings project .all).bind fun artifacts =>
            (viewTrees.mapM fun tree => (Artifacts.classOf project logicTrees tree).map fun c =>
              decide (⟨.name, "count\n"⟩ ∈ c.tokens)).map (artifacts.sources.length, ·)) =
        .ok (1, [true]) := by
      decide +kernel
    obtain ⟨project, hproject, hmade⟩ := Except.bind_eq_ok_iff.1 hmade
    obtain ⟨logicTrees, hlogic, hmade⟩ := Except.bind_eq_ok_iff.1 hmade
    obtain ⟨viewTrees, hview, hmade⟩ := Except.bind_eq_ok_iff.1 hmade
    obtain ⟨artifacts, hartifacts, hmade⟩ := Except.bind_eq_ok_iff.1 hmade
    obtain ⟨found, hfound, hmade⟩ := Except.map_eq_ok_iff.1 hmade
    obtain ⟨hlength, rfl⟩ := Prod.mk.inj hmade
    obtain ⟨entry, hentries⟩ := List.length_eq_one_iff.1 hlength
    have hentry : entry ∈ artifacts.sources := hentries ▸ List.mem_singleton_self entry
    obtain ⟨logicTrees', viewTrees', tree, c, lines, hlogic', hview', htree, hclass, htext, hlines, -,
      hiff⟩ := hjava _ _ _ _ hproject hartifacts entry hentry
    cases hlogic.symm.trans hlogic'
    cases hview.symm.trans hview'
    -- the class that the theorem speaks of is the one that was looked at
    obtain ⟨held, hheld, hlooked⟩ := Except.exists_result_of_mapM hfound htree
    obtain ⟨c', hclass', hdecided⟩ := Except.map_eq_ok_iff.1 hlooked
    cases hclass.symm.trans hclass'
    have hmem : (⟨.name, "count\n"⟩ : Token) ∈ c.tokens :=
      of_decide_eq_true (hdecided.trans (List.mem_singleton.1 hheld))
    refine ⟨project, artifacts, hproject, hartifacts, entry, hentry, c, htext, lines, hlines, fun h => ?_⟩
    exact hiff.1 h _ hmem (by decide)

end BlockApp
