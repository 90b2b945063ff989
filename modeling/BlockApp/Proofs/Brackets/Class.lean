import BlockApp.Proofs.Brackets.Code
import BlockApp.Proofs.Class.Views

/-!
# Brackets in classes

All lines of a class, with what stands between the methods: the fields, the statements that set views and
components up, the listeners. A listener is an argument of a call, so between its first and its last line
a brace and the parenthesis of the call are open.

* `nests_methodLines` — the method of a handler
* `nests_listenerLines` — the lines that set a listener
* `ActivityClass.nested_source` — the text of a class
-/

namespace BlockApp

open Source

namespace Source

variable {indent : String} {lines : List Line} {line : Line}

/-! ## Methods -/

theorem quiet_javaType (type : ParameterType) : Quiet type.javaType.toList := by
  cases type <;> decide

/-- Whether the name of a method and its parameters have none of the characters that a scan looks at. -/
structure PlainSignature (handler : Handler) : Prop where
  name : Quiet handler.binding.methodName.toList
  arguments : ∀ a ∈ handler.arguments, Quiet a.javaType.toList ∧ Quiet a.name.toList

theorem plain_arguments_viewEvent (event : ViewEvent) :
    ∀ a ∈ event.arguments, Quiet a.javaType.toList ∧ Quiet a.name.toList := by
  cases event <;> decide

theorem plain_arguments_moreBlock {declared : MoreBlock} (h : declared.Named) :
    ∀ a ∈ declared.arguments, Quiet a.javaType.toList ∧ Quiet a.name.toList := by
  intro a ha
  obtain ⟨parameter, hparameter, rfl⟩ := List.mem_map.1 ha
  exact ⟨quiet_javaType parameter.type, quiet_of_isIdentifier (h.2 parameter hparameter)⟩

theorem quiet_methodName_moreBlock {name : String} (h : Text.isIdentifier name.toList = true) :
    Quiet (Binding.moreBlock name).methodName.toList := by
  have hsplit : (Binding.moreBlock name).methodName = "_" ++ name := rfl
  rw [hsplit, String.toList_append]
  exact (quiet_ofList (by decide) : Quiet "_".toList).append (quiet_of_isIdentifier h)

theorem quiet_methodName_viewEvent {view : String} (h : Text.isIdentifier view.toList = true)
    (event : ViewEvent) : Quiet (Binding.viewEvent view event).methodName.toList := by
  have hevent : Quiet event.name.toList := by cases event <;> decide
  have hsplit : (Binding.viewEvent view event).methodName = "_" ++ view ++ "_" ++ event.name := rfl
  rw [hsplit, String.toList_append, String.toList_append, String.toList_append]
  have hmark : Quiet "_".toList := quiet_ofList (by decide)
  exact ((hmark.append (quiet_of_isIdentifier h)).append hmark).append hevent

theorem quiet_parameterImports (arguments : List Argument) :
    ∀ name ∈ parameterImports arguments, Quiet name.toList := by
  unfold parameterImports
  split <;> decide

theorem takes_signatureLine {handler : Handler} (h : PlainSignature handler) :
    (signatureLine handler).Takes [] [.brace] := by
  have hname := takes_of_quiet h.name []
  have hparameters : Takes (", ".intercalate (handler.arguments.map parameterText)) [] [] := by
    refine takes_intercalate (takes_ofList rfl) _ fun text htext => ?_
    obtain ⟨a, ha, rfl⟩ := List.mem_map.1 htext
    obtain ⟨htype, hname⟩ := h.arguments a ha
    exact (((takes_ofList rfl : Takes "final " [] []).append (takes_of_quiet htype [])).append
      (takes_ofList rfl : Takes " _" [] [])).append (takes_of_quiet hname [])
  have hpublic := ((((takes_ofList rfl : Takes "public void " [] []).append hname).append
    (takes_ofList rfl : Takes "(" [] [.paren])).append (hparameters.anywhere [.paren])).append
    (takes_ofList rfl : Takes ") \x7b" [.paren] [.brace])
  refine ⟨?_, quiet_parameterImports handler.arguments⟩
  obtain ⟨key, binding, arguments, blocks⟩ := handler
  cases binding with
  | startUp => exact (takes_ofList rfl : Takes "private void initializeLogic() \x7b" [] [.brace])
  | activityEvent event =>
    exact ((takes_ofList rfl : Takes "public void " [] []).append hname).append
      (takes_ofList rfl : Takes "() \x7b" [] [.brace])
  | viewEvent view event => exact hpublic
  | moreBlock name => exact hpublic

theorem nests_annotationLines (hindent : Quiet indent.toList) (binding : Binding) :
    Nests indent (annotationLines binding) [] [] := by
  cases binding with
  | activityEvent event => exact (Line.takes_plain (takes_ofList rfl)).nests hindent
  | startUp | viewEvent | moreBlock => exact nests_nil []

theorem nests_superLines (hindent : Quiet indent.toList) (binding : Binding) :
    Nests indent (superLines binding) [] [] := by
  cases binding with
  | activityEvent event =>
    rw [superLines]
    split
    · refine (Line.takes_plain ?_).nests hindent
      cases event <;> decide
    · exact nests_nil []
  | startUp | viewEvent | moreBlock => exact nests_nil []

/-- **The lines of a method close what they open.** -/
theorem nests_methodLines (hindent : Quiet indent.toList) {scene : Scene} {screen : String}
    {handler : Handler} (hsignature : PlainSignature handler)
    (hwell : WellFormedRows (rowsOf 0 handler.blocks))
    (h : methodLines scene screen handler = .ok lines) : Nests indent lines [] [] := by
  simp only [methodLines, Except.bind_eq_ok_iff, Except.pure_eq_ok_iff] at h
  obtain ⟨body, hbody, rfl⟩ := h
  have hinner := (nests_superLines hindent handler.binding).append
    (nests_sequenceLines hindent 0 2 0 handler.blocks hwell hbody)
  exact (nests_annotationLines hindent handler.binding).append
    (nests_bracedBy hindent (takes_signatureLine hsignature) (hinner.frame [.brace]))

/-! ## Listeners -/

theorem Nests.flatten {parts : List (List Line)} (h : ∀ part ∈ parts, Nests indent part [] []) :
    Nests indent parts.flatten [] [] := by
  induction parts with
  | nil => exact nests_nil []
  | cons part parts ih =>
    obtain ⟨hpart, hrest⟩ := List.forall_mem_cons.1 h
    exact hpart.append (ih hrest)

theorem nests_blank (hindent : Quiet indent.toList) : Nests indent [.blank] [] [] :=
  (Line.takes_plain (takes_empty [])).nests hindent

theorem nests_intercalate_blank (hindent : Quiet indent.toList) :
    (parts : List (List Line)) → (∀ part ∈ parts, Nests indent part [] []) →
      Nests indent ([Line.blank].intercalate parts) [] []
  | [], _ => nests_nil []
  | [part], h => by simpa [List.intercalate] using h part List.mem_cons_self
  | part :: next :: parts, h => by
    obtain ⟨hpart, hrest⟩ := List.forall_mem_cons.1 h
    have hinner := nests_intercalate_blank hindent (next :: parts) hrest
    simp only [List.intercalate, List.intersperse, List.flatten_cons] at hinner ⊢
    exact hpart.append ((nests_blank hindent).append hinner)

theorem takes_listenerOpening {view : String} (h : Quiet view.toList) (event : ViewEvent) :
    Takes (listenerOpening view event) [] [.brace, .paren] := by
  have hview := takes_of_quiet h []
  cases event <;> exact hview.append (takes_ofList (by decide +kernel))

theorem quiet_listenerImports (event : ViewEvent) :
    ∀ name ∈ listenerImports event, Quiet name.toList := by
  cases event <;> decide

theorem takes_listenerSignature (method : String) (event : ViewEvent) :
    ∀ m ∈ listenerMethods method event, Takes m.signature [] [] := by
  cases event <;> simp only [listenerMethods, List.forall_mem_cons, List.not_mem_nil, IsEmpty.forall_iff,
    implies_true, and_true]
  case textChanged | progressChanged =>
    refine ⟨?_, ?_, ?_⟩ <;> exact takes_ofList (by decide +kernel)
  case itemSelected => refine ⟨?_, ?_⟩ <;> exact takes_ofList (by decide +kernel)
  all_goals exact takes_ofList (by decide +kernel)

theorem takes_listenerStatement {method : String} (h : Quiet method.toList) (event : ViewEvent) :
    ∀ m ∈ listenerMethods method event, ∀ statement ∈ m.statements, Takes statement [] [] := by
  have hcall (args : String) (hargs : Takes args [] []) : Takes (method ++ args) [] [] :=
    (takes_of_quiet h []).append hargs
  cases event <;> simp only [listenerMethods, List.forall_mem_cons, List.not_mem_nil, IsEmpty.forall_iff,
    implies_true, and_true]
  case longClick => exact ⟨hcall _ (takes_ofList rfl), takes_ofList rfl⟩
  all_goals exact hcall _ (takes_ofList rfl)

theorem nests_listenerMethod (hindent : Quiet indent.toList) {m : ListenerMethod} (level : Nat)
    (hsignature : Takes m.signature [] [])
    (hstatements : ∀ statement ∈ m.statements, Takes statement [] []) :
    Nests indent (m.lines level) [] [] := by
  have hbody : Nests indent (m.statements.map (.plain (level + 1))) [] [] := by
    have hparts : ∀ part ∈ m.statements.map fun s => [Line.plain (level + 1) s],
        Nests indent part [] [] := by
      intro part hpart
      obtain ⟨statement, hstatement, rfl⟩ := List.mem_map.1 hpart
      exact (Line.takes_plain (hstatements statement hstatement)).nests hindent
    have hflat := Nests.flatten hparts
    rwa [← List.flatMap_def, ← List.map_eq_flatMap] at hflat
  have hopening := hsignature.append (takes_ofList rfl : Takes " \x7b" [] [.brace])
  exact ((Line.takes_plain (takes_ofList rfl : Takes "@Override" [] [])).nests hindent).append
    (nests_bracedBy hindent (Line.takes_plain hopening) (hbody.frame [.brace]))

/-- TABs at the beginning of a line are taken off. -/
theorem takes_ofTabbed (level : Nat) {text : String} {imports : List String}
    {before after : List Bracket} (h : Takes text before after)
    (himports : ∀ name ∈ imports, Quiet name.toList) :
    (Line.ofTabbed level text imports).Takes before after := by
  refine ⟨?_, himports⟩
  have htabs : Quiet (text.toList.takeWhile (· == '\t')) := by
    intro c hc hmark
    have htab := List.mem_takeWhile_imp hc
    rw [beq_iff_eq] at htab
    rw [htab] at hmark
    exact absurd hmark (by decide)
  have hrun : Scan.run ⟨.code, before⟩ text.toList = some ⟨.code, after⟩ := h
  rw [← List.takeWhile_append_dropWhile (p := (· == '\t')) (l := text.toList), Scan.run_append,
    Scan.run_of_quiet htabs, Option.bind_some] at hrun
  rw [Line.ofTabbed, Takes, String.toList_ofList]
  exact hrun

/-- **The lines of a listener close what they open.** -/
theorem nests_listenerLines (hindent : Quiet indent.toList) {view method : String}
    (hview : Quiet view.toList) (hmethod : Quiet method.toList) (level : Nat) (event : ViewEvent) :
    Nests indent (listenerLines level view method event) [] [] := by
  have hopening := (takes_ofTabbed level (takes_listenerOpening hview event)
    (quiet_listenerImports event)).nests hindent
  have hmethods : ∀ part ∈ (listenerMethods method event).map (ListenerMethod.lines (level + 1)),
      Nests indent part [] [] := by
    intro part hpart
    obtain ⟨m, hm, rfl⟩ := List.mem_map.1 hpart
    exact nests_listenerMethod hindent (level + 1) (takes_listenerSignature method event m hm)
      (takes_listenerStatement hmethod event m hm)
  have hclosing : Takes "\x7d);" [.brace, .paren] [] := takes_ofList rfl
  exact (hopening.append ((nests_intercalate_blank hindent _ hmethods).frame [.brace, .paren])).append
    ((Line.takes_plain hclosing).nests hindent)

/-! ## Fields -/

theorem takes_fieldText {type name : String} {value : Option String} (htype : Quiet type.toList)
    (hname : Text.isIdentifier name.toList = true) (hvalue : ∀ text ∈ value, Takes text [] []) :
    Takes (fieldText type name value) [] [] := by
  have hhead := (((takes_ofList rfl : Takes "private " [] []).append (takes_of_quiet htype [])).append
    (takes_ofList rfl : Takes " " [] [])).append (takes_of_isIdentifier hname [])
  cases value with
  | none => exact hhead.append (takes_ofList rfl : Takes ";" [] [])
  | some text =>
    exact ((hhead.append (takes_ofList rfl : Takes " = " [] [])).append (hvalue text rfl)).append
      (takes_ofList rfl : Takes ";" [] [])

theorem takes_variableField {declared : VariableDeclaration}
    (hname : Text.isIdentifier declared.name.toList = true) : (variableField declared).Takes [] [] := by
  obtain ⟨shape, name⟩ := declared
  have hshape : Quiet shape.javaType.toList ∧ Takes shape.initial [] [] ∧
      ∀ name ∈ shape.imports, Quiet name.toList := by
    cases shape with
    | single type => cases type <;> decide
    | list element => cases element <;> decide
  obtain ⟨htype, hinitial, himports⟩ := hshape
  refine ⟨takes_fieldText htype hname fun text htext => ?_, himports⟩
  cases htext
  exact hinitial

theorem takes_componentField {screen : String} {declared : ComponentDeclaration} (h : declared.Named)
    (hline : componentField screen declared = .ok line) : line.Takes [] [] := by
  unfold componentField at hline
  split at hline
  · cases hline
  · next type _ =>
    cases hline
    have hclass : Quiet type.name.toList ∧ (∀ text ∈ type.initial?, Takes text [] []) ∧
        ∀ name ∈ type.imports, Quiet name.toList := by cases type <;> decide
    obtain ⟨htype, hinitial, himports⟩ := hclass
    exact ⟨takes_fieldText htype h.2 hinitial, himports⟩

theorem takes_viewField {screen : String} {entry : ViewEntry}
    (hname : Text.isIdentifier entry.id.toList = true) (hline : viewField screen entry = .ok line) :
    line.Takes [] [] := by
  unfold viewField at hline
  split at hline
  · cases hline
  · next type htype =>
    cases hline
    have hclass : Quiet type.name.toList ∧ Quiet type.qualifiedName.toList := by cases type <;> decide
    rw [Component.name_of_ofName? htype] at hclass
    have hvalue : ∀ text ∈ (none : Option String), Takes text [] [] := by simp
    exact ⟨takes_fieldText hclass.1 hname hvalue, List.forall_mem_singleton.2 hclass.2⟩

/-- What sets a component up closes what it opens, whatever the text for its setup is. -/
theorem takes_setupLine? {declared : ComponentDeclaration} (h : declared.Named)
    (hline : setupLine? declared = some line) : line.Takes [] [] := by
  simp only [setupLine?, Option.bind_eq_bind, Option.bind_eq_some_iff] at hline
  obtain ⟨type, -, text, htext, hline⟩ := hline
  cases hline
  have hname := takes_of_isIdentifier h.2 []
  refine Line.takes_plain ?_
  cases type with
  | intent | calendar | timer => cases htext
  | sharedPreferences =>
    cases htext
    exact ((hname.append (takes_ofList rfl : Takes " = getSharedPreferences(" [] [.paren])).append
      (takes_literal declared.extra [.paren])).append
      (takes_ofList rfl : Takes ", Context.MODE_PRIVATE);" [.paren] [])
  | vibrator =>
    cases htext
    exact hname.append (takes_ofList rfl)

end Source

namespace ActivityClass

variable {c : ActivityClass} {parts : Parts} {indent : String} {lines : List Line}

/-! ## Handlers -/

/-- Whether the names in a class are plain, and its logic is that of a screen. -/
structure Sound (c : ActivityClass) : Prop where
  name : Quiet c.name.toList
  layout : Quiet c.layout.toList
  packageName : Quiet c.metadata.packageName.toList
  logic : c.logic.Sound
  views : ∀ entry ∈ c.views.entries, Text.isIdentifier entry.id.toList = true

/-- A view whose event a handler is for is in the layout. -/
theorem exists_entry_of_listenerOf {handler : Handler} {view : String} {event : ViewEvent}
    (hbinding : handler.binding = .viewEvent view event) (h : c.listenerOf handler = .ok lines) :
    ∃ entry, c.views.entry? view = some entry ∧
      lines = listenerLines 2 view handler.binding.methodName event := by
  simp only [listenerOf, hbinding] at h
  split at h
  · cases h
  · next entry hentry =>
    split at h
    · cases h
      exact ⟨entry, hentry, by rw [hbinding]⟩
    · cases h

theorem Sound.isIdentifier_of_entry? (hc : c.Sound) {view : String} {entry : ViewEntry}
    (h : c.views.entry? view = some entry) : Text.isIdentifier view.toList = true := by
  obtain ⟨hentry, rfl⟩ := ViewIndex.exists_entry_of_entry? h
  exact hc.views entry hentry

theorem nests_listenerOf (hindent : Quiet indent.toList) (hc : c.Sound) {handler : Handler}
    (h : c.listenerOf handler = .ok lines) : Nests indent lines [] [] := by
  cases hbinding : handler.binding with
  | viewEvent view event =>
    obtain ⟨entry, hentry, rfl⟩ := exists_entry_of_listenerOf hbinding h
    have hview := hc.isIdentifier_of_entry? hentry
    rw [hbinding]
    exact nests_listenerLines hindent (quiet_of_isIdentifier hview)
      (quiet_methodName_viewEvent hview event) 2 event
  | startUp | activityEvent | moreBlock =>
    simp only [listenerOf, hbinding] at h
    cases h
    exact nests_nil []

theorem plainSignature {handler : Handler} {binding : Binding} {arguments : List Argument}
    (hbinding : handler.binding = binding) (harguments : handler.arguments = arguments)
    (hname : Quiet binding.methodName.toList)
    (hplain : ∀ a ∈ arguments, Quiet a.javaType.toList ∧ Quiet a.name.toList) :
    PlainSignature handler :=
  ⟨hbinding ▸ hname, harguments ▸ hplain⟩

/-- A handler of the screen has a plain signature if its listener can be set. -/
theorem plainSignature_of_mem (hc : c.Sound) {handler : Handler} (hmem : handler ∈ c.logic.handlers)
    (h : c.listenerOf handler = .ok lines) : PlainSignature handler := by
  have harguments := (hc.logic.handlers handler hmem).arguments
  cases hbinding : handler.binding with
  | startUp =>
    rw [hbinding] at harguments
    exact plainSignature hbinding (Except.ok.inj harguments).symm (by decide) (by decide)
  | activityEvent event =>
    rw [hbinding] at harguments
    exact plainSignature hbinding (Except.ok.inj harguments).symm (by cases event <;> decide) (by decide)
  | viewEvent view event =>
    rw [hbinding] at harguments
    obtain ⟨entry, hentry, -⟩ := exists_entry_of_listenerOf hbinding h
    exact plainSignature hbinding (Except.ok.inj harguments).symm
      (quiet_methodName_viewEvent (hc.isIdentifier_of_entry? hentry) event)
      (plain_arguments_viewEvent event)
  | moreBlock name =>
    rw [hbinding, Binding.argumentsIn?] at harguments
    split at harguments
    · next declared hdeclared =>
      obtain ⟨rfl, hnamed⟩ := hc.logic.named.of_moreBlock? hdeclared
      exact plainSignature hbinding (Except.ok.inj harguments).symm (quiet_methodName_moreBlock hnamed.1)
        (plain_arguments_moreBlock hnamed)
    · cases harguments

theorem nests_memberLines (hindent : Quiet indent.toList) {handler : Handler}
    (hsignature : PlainSignature handler) (hwell : WellFormedRows (rowsOf 0 handler.blocks))
    (h : c.memberLines handler = .ok lines) : Nests indent lines [] [] := by
  simp only [memberLines, Except.bind_eq_ok_iff, Except.pure_eq_ok_iff] at h
  obtain ⟨body, hbody, rfl⟩ := h
  exact (nests_blank hindent).append (nests_methodLines hindent hsignature hwell hbody)

/-- Every handler that has a method is one of the screen or has no blocks. -/
theorem plain_of_mem_methods (hc : c.Sound) {listeners : List (List Line)}
    (hlisteners : c.logic.handlers.mapM c.listenerOf = .ok listeners) {handler : Handler}
    (h : handler ∈ c.orderedHandlers ++ c.missingHandlers) :
    PlainSignature handler ∧ WellFormedRows (rowsOf 0 handler.blocks) := by
  rcases handler_of_mem_methods h with hmem | rfl | ⟨declared, hdeclared, rfl⟩
  · obtain ⟨lines, -, hlines⟩ := Except.exists_result_of_mapM hlisteners hmem
    exact ⟨plainSignature_of_mem hc hmem hlines, (hc.logic.handlers handler hmem).wellFormed⟩
  · exact ⟨plainSignature rfl rfl (by decide) (by decide), List.forall_mem_nil _⟩
  · have hnamed := hc.logic.named.moreBlocks declared hdeclared
    exact ⟨plainSignature rfl rfl (quiet_methodName_moreBlock hnamed.1)
      (plain_arguments_moreBlock hnamed), List.forall_mem_nil _⟩

/-! ## Parts -/

theorem nests_of_forall (hindent : Quiet indent.toList) (h : ∀ line ∈ lines, line.Takes [] []) :
    Nests indent lines [] [] := by
  induction lines with
  | nil => exact nests_nil []
  | cons line lines ih =>
    obtain ⟨hline, hrest⟩ := List.forall_mem_cons.1 h
    exact (hline.nests hindent).append (ih hrest)

theorem nests_fields (hindent : Quiet indent.toList) (hc : c.Sound) (hparts : c.HasParts parts) :
    Nests indent parts.fields [] [] := by
  have hall : ∀ line ∈ parts.declared ++ parts.viewFields, line.Takes [] [] := by
    obtain ⟨components, hcomponents, hdeclared⟩ := hparts.declared
    rw [hdeclared]
    refine List.forall_mem_append.2 ⟨List.forall_mem_append.2 ⟨fun line hline => ?_, fun line hline => ?_⟩,
      fun line hline => ?_⟩
    · obtain ⟨declared, hmem, rfl⟩ := List.mem_map.1 hline
      exact takes_variableField (hc.logic.named.vars declared hmem)
    · obtain ⟨declared, hmem, hmade⟩ := Except.exists_source_of_mapM hcomponents hline
      exact takes_componentField (hc.logic.named.components declared hmem) hmade
    · obtain ⟨entry, hmem, hmade⟩ := Except.exists_source_of_mapM hparts.viewFields hline
      exact takes_viewField (hc.views entry (ViewIndex.mem_entries_of_mem_referenced hmem)) hmade
  unfold Parts.fields
  split
  · exact nests_nil []
  · exact (nests_blank hindent).append (nests_of_forall hindent hall)

theorem nests_createLines (hindent : Quiet indent.toList) (hc : c.Sound) :
    Nests indent c.createLines [] [] := by
  have hlayout : Takes s!"setContentView(R.layout.{c.layout});" [] [] :=
    ((takes_ofList rfl : Takes "setContentView(R.layout." [] [.paren]).append
      (takes_of_quiet hc.layout [.paren])).append (takes_ofList rfl : Takes ");" [.paren] [])
  have hbody : Nests indent [.plain 2 "super.onCreate(_savedInstanceState);",
      .plain 2 s!"setContentView(R.layout.{c.layout});",
      .plain 2 "initialize(_savedInstanceState);", .plain 2 "initializeLogic();"] [] [] :=
    nests_of_forall hindent (List.forall_mem_cons.2 ⟨Line.takes_plain (takes_ofList rfl), List.forall_mem_cons.2
      ⟨Line.takes_plain hlayout, List.forall_mem_cons.2 ⟨Line.takes_plain (takes_ofList rfl),
        List.forall_mem_singleton.2 (Line.takes_plain (takes_ofList rfl))⟩⟩⟩)
  have hhead : Nests indent [.blank, .plain 1 "@Override"] [] [] :=
    (nests_blank hindent).append ((Line.takes_plain (takes_ofList rfl)).nests hindent)
  exact hhead.append (nests_bracedBy hindent ⟨takes_ofList rfl, List.forall_mem_singleton.2
    (quiet_ofList (by decide))⟩ (hbody.frame [.brace]))

theorem nests_windowLines (hindent : Quiet indent.toList) (window : Option Activity) :
    Nests indent (windowLines window) [] [] := by
  refine nests_of_forall hindent ?_
  cases window with
  | none => exact List.forall_mem_nil _
  | some window =>
    refine List.forall_mem_append.2 ⟨?_, ?_⟩
    · cases window.orientation with
      | both => exact List.forall_mem_nil _
      | portrait | landscape =>
        exact List.forall_mem_singleton.2 ⟨takes_ofList rfl, List.forall_mem_singleton.2
          (quiet_ofList (by decide))⟩
    · cases window.keyboard with
      | unspecified => exact List.forall_mem_nil _
      | visible | hidden =>
        exact List.forall_mem_singleton.2 ⟨takes_ofList (by decide +kernel), List.forall_mem_singleton.2
          (quiet_ofList (by decide))⟩

theorem takes_findViewLine {entry : ViewEntry} (h : Text.isIdentifier entry.id.toList = true) :
    (findViewLine entry).Takes [] [] :=
  Line.takes_plain ((((takes_of_isIdentifier h []).append
    (takes_ofList rfl : Takes " = findViewById(R.id." [] [.paren])).append
    (takes_of_isIdentifier h [.paren])).append (takes_ofList rfl : Takes ");" [.paren] []))

theorem nests_setUp (hindent : Quiet indent.toList) (hc : c.Sound) (hparts : c.HasParts parts) :
    Nests indent (parts.setUp c) [] [] := by
  have hviews : Nests indent (c.views.referenced.map findViewLine) [] [] :=
    nests_of_forall hindent (List.forall_mem_map.2 fun entry hentry =>
      takes_findViewLine (hc.views entry (ViewIndex.mem_entries_of_mem_referenced hentry)))
  have hsetups : Nests indent (c.logic.declarations.components.filterMap setupLine?) [] [] :=
    nests_of_forall hindent fun line hline => by
      obtain ⟨declared, hmem, hmade⟩ := List.mem_filterMap.1 hline
      exact takes_setupLine? (hc.logic.named.components declared hmem) hmade
  have hlisteners : Nests indent parts.listeners.flatten [] [] := Nests.flatten fun part hpart => by
    obtain ⟨handler, -, hmade⟩ := Except.exists_source_of_mapM hparts.listeners hpart
    exact nests_listenerOf hindent hc hmade
  have hbody := (((nests_windowLines hindent c.window).append hviews).append hsetups).append hlisteners
  exact (nests_blank hindent).append (nests_bracedBy hindent (Line.takes_plain (takes_ofList rfl))
    (hbody.frame [.brace]))

theorem takes_openingLine (hc : c.Sound) : c.openingLine.Takes [] [.brace] := by
  have hname := (takes_ofList rfl : Takes "public class " [] []).append (takes_of_quiet hc.name [])
  unfold openingLine
  split
  · exact ⟨hname.append (takes_ofList rfl), List.forall_mem_singleton.2 (quiet_ofList (by decide))⟩
  · exact ⟨hname.append (takes_ofList rfl), List.forall_mem_singleton.2 (quiet_ofList (by decide))⟩

/-- **The lines of a class close what they open.** -/
theorem nests_lines (hindent : Quiet indent.toList) (hc : c.Sound) (h : c.lines = .ok lines) :
    Nests indent lines [] [] := by
  obtain ⟨parts, hparts, rfl⟩ := lines_eq_ok_iff.1 h
  have hmethods : Nests indent parts.methods.flatten [] [] := Nests.flatten fun part hpart => by
    obtain ⟨handler, hmem, hmade⟩ := Except.exists_source_of_mapM hparts.methods hpart
    obtain ⟨hsignature, hwell⟩ := plain_of_mem_methods hc hparts.listeners hmem
    exact nests_memberLines hindent hsignature hwell hmade
  have hbody := (((nests_fields hindent hc hparts).append (nests_createLines hindent hc)).append
    (nests_setUp hindent hc hparts)).append hmethods
  exact nests_bracedBy hindent (takes_openingLine hc) (hbody.frame [.brace])

/-! ## The text of a class -/

theorem quiet_of_mem_importsOf (h : ∀ line ∈ lines, ∀ name ∈ line.imports, Quiet name.toList)
    {name : String} (hname : name ∈ importsOf lines) : Quiet name.toList := by
  rw [importsOf, List.mem_eraseDups, List.mem_mergeSort] at hname
  obtain ⟨line, hline, hname⟩ := List.mem_flatMap.1 hname
  exact h line hline name hname

theorem takes_joinLines {texts : List String} (h : ∀ text ∈ texts, Takes text [] []) :
    Takes (joinLines texts) [] [] := by
  induction texts with
  | nil => exact takes_empty []
  | cons text texts ih =>
    obtain ⟨htext, hrest⟩ := List.forall_mem_cons.1 h
    rw [joinLines, List.map_cons, String.join_cons]
    exact (htext.append (takes_lineFeed [])).append (ih hrest)

/-- **All literals of a class are closed on their lines, and all brackets in their order.** -/
theorem nested_source (hindent : Quiet indent.toList) (hc : c.Sound) {text : String}
    (h : c.source indent = .ok text) : Nested text := by
  simp only [source, Except.bind_eq_ok_iff, Except.pure_eq_ok_iff] at h
  obtain ⟨lines, hlines, rfl⟩ := h
  have hnests := nests_lines hindent hc hlines
  have hpackage : Takes s!"package {c.metadata.packageName};" [] [] :=
    ((takes_ofList rfl : Takes "package " [] []).append (takes_of_quiet hc.packageName [])).append
      (takes_ofList rfl : Takes ";" [] [])
  have himports : ∀ text ∈ (importsOf lines).map (fun name => s!"import {name};"), Takes text [] [] := by
    intro text htext
    obtain ⟨name, hname, rfl⟩ := List.mem_map.1 htext
    exact ((takes_ofList rfl : Takes "import " [] []).append
      (takes_of_quiet (quiet_of_mem_importsOf hnests.imports hname) [])).append
      (takes_ofList rfl : Takes ";" [] [])
  have hheader : ∀ text ∈ [s!"package {c.metadata.packageName};", ""], Takes text [] [] :=
    List.forall_mem_cons.2 ⟨hpackage, List.forall_mem_singleton.2 (takes_empty [])⟩
  have hgap : ∀ text ∈ [""], Takes text [] [] := List.forall_mem_singleton.2 (takes_empty [])
  rw [joinLines_append]
  exact (takes_joinLines (List.forall_mem_append.2 ⟨List.forall_mem_append.2 ⟨hheader, himports⟩,
    hgap⟩)).append hnests.text

end ActivityClass

end BlockApp
