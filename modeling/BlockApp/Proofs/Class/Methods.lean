import BlockApp.Proofs.Class.Functions
import BlockApp.Proofs.Class.Signatures
import BlockApp.Proofs.Logic.Reading

/-!
# Methods of a class

Every handler of a screen becomes one method of its class, and a class has one method for the start of its
screen, be there a handler for it or not. The methods stand by the kind of their handlers, and those of one
kind in the order of the section.

* `ActivityClass.filter_orderedHandlers` — within a kind the handlers keep their order
* `ActivityClass.Keyed` — handlers with keys of their own, each of which is the only one of its key
* `ActivityClass.HasMethods` — the methods of a class, each with the handler that it is made of
* `ActivityClass.handlers_have_methods` — the methods that the handlers of a screen become, and which of
  them can have the same name
-/

namespace BlockApp

open Source

namespace ActivityClass

variable {c : ActivityClass} {parts : Parts} {handler : Handler}

/-! ## Handlers by kind -/

/-- Within a kind, handlers keep their order. -/
theorem filter_orderedHandlers (c : ActivityClass) (rank : Nat) :
    c.orderedHandlers.filter (·.binding.rank == rank) =
      c.allHandlers.filter (·.binding.rank == rank) := by
  have hpart : ∀ other : Nat, (c.allHandlers.filter (·.binding.rank == other)).filter
      (·.binding.rank == rank) =
        if other = rank then c.allHandlers.filter (·.binding.rank == rank) else [] := by
    intro other
    rw [List.filter_filter]
    split
    · next hsame => simp [hsame]
    · next hother =>
      refine List.filter_eq_nil_iff.2 fun handler _ => ?_
      simp only [Bool.and_eq_true, beq_iff_eq]
      exact fun h => hother (h.2.symm.trans h.1)
  rw [orderedHandlers, List.filter_flatMap]
  simp only [List.flatMap_cons, List.flatMap_nil, hpart, List.append_nil]
  by_cases hrank : rank < 4
  · obtain rfl | rfl | rfl | rfl : rank = 0 ∨ rank = 1 ∨ rank = 2 ∨ rank = 3 := by omega
    all_goals simp
  · -- no handler is of any other kind
    have hnone : c.allHandlers.filter (·.binding.rank == rank) = [] := by
      refine List.filter_eq_nil_iff.2 fun handler _ hsame => hrank ?_
      rw [← eq_of_beq hsame]
      exact handler.binding.rank_lt
    simp [hnone]

/-- The handlers stand by their kinds. -/
theorem pairwise_orderedHandlers (c : ActivityClass) :
    c.orderedHandlers.Pairwise fun first later => first.binding.rank ≤ later.binding.rank := by
  rw [orderedHandlers, List.pairwise_flatMap]
  constructor
  · intro rank _
    refine List.pairwise_of_forall_mem_list fun first hfirst later hlater => ?_
    rw [eq_of_beq (List.mem_filter.1 hfirst).2, eq_of_beq (List.mem_filter.1 hlater).2]
  · have hranks : [0, 1, 2, 3].Pairwise (· ≤ · : Nat → Nat → Prop) := by decide
    refine hranks.imp fun hle first hfirst later hlater => ?_
    rwa [eq_of_beq (List.mem_filter.1 hfirst).2, eq_of_beq (List.mem_filter.1 hlater).2]

/-! ## Handlers by key -/

/-- Whether handlers have keys of their own, which say when they run. -/
structure Keyed (c : ActivityClass) : Prop where
  nodup : (c.logic.handlers.map (·.key)).Nodup
  read : ∀ handler ∈ c.logic.handlers, Binding.ofKey? handler.key = some handler.binding

theorem filter_key_of_nodup {handlers : List Handler} (h : (handlers.map (·.key)).Nodup)
    (hmem : handler ∈ handlers) : handlers.filter (·.key == handler.key) = [handler] := by
  induction handlers with
  | nil => exact absurd hmem List.not_mem_nil
  | cons first handlers ih =>
    obtain ⟨hnew, hnodup⟩ := List.nodup_cons.1 h
    rcases List.mem_cons.1 hmem with rfl | hlater
    · rw [List.filter_cons, if_pos (beq_self_eq_true _), List.filter_eq_nil_iff.2]
      intro other hother hsame
      exact hnew (List.mem_map.2 ⟨other, hother, eq_of_beq hsame⟩)
    · rw [List.filter_cons, if_neg, ih hnodup hlater]
      intro hsame
      exact hnew (List.mem_map.2 ⟨handler, hlater, (eq_of_beq hsame).symm⟩)

theorem mem_allHandlers (h : handler ∈ c.allHandlers) :
    handler ∈ c.logic.handlers ∨ handler = ⟨"", .startUp, [], []⟩ := by
  unfold allHandlers at h
  split at h
  · exact .inl h
  · exact (List.mem_append.1 h).imp_right List.mem_singleton.1

theorem filter_allHandlers (p : Handler → Bool) (h : p ⟨"", .startUp, [], []⟩ = false) :
    c.allHandlers.filter p = c.logic.handlers.filter p := by
  unfold allHandlers
  split
  · rfl
  · rw [List.filter_append, List.filter_cons_of_neg (by rw [h]; exact Bool.false_ne_true)]
    exact List.append_nil _

namespace Keyed

variable {other : Handler} (h : c.Keyed)

include h in
theorem binding_eq_of_key (hmem : handler ∈ c.logic.handlers) (hother : other ∈ c.logic.handlers)
    (hsame : other.key = handler.key) : other.binding = handler.binding := by
  have hread := h.read other hother
  rw [hsame, h.read handler hmem] at hread
  exact (Option.some.inj hread).symm

include h in
theorem key_of_startUp (hmem : handler ∈ c.logic.handlers) (hbinding : handler.binding = .startUp) :
    handler.key = Binding.startUpKey := by
  rw [← Binding.key_of_ofKey? (h.read handler hmem), hbinding]
  rfl

include h in
/-- A handler is the only one with its key, wherever it stands among the others. -/
theorem filter_key_orderedHandlers (hmem : handler ∈ c.logic.handlers) :
    c.orderedHandlers.filter (·.key == handler.key) = [handler] := by
  have hkey : handler.key ≠ "" := by
    intro hempty
    have hread := h.read handler hmem
    rw [hempty] at hread
    cases hread
  -- handlers with this key are of one kind, and within a kind nothing is moved
  have hkind : ∀ other ∈ c.allHandlers, (other.key == handler.key) =
      (other.key == handler.key && other.binding.rank == handler.binding.rank) := by
    intro other hother
    by_cases hsame : other.key = handler.key
    · rcases mem_allHandlers hother with hother | rfl
      · rw [h.binding_eq_of_key hmem hother hsame, beq_self_eq_true, Bool.and_true]
      · exact absurd hsame.symm hkey
    · rw [beq_eq_false_iff_ne.2 hsame, Bool.false_and]
  have hordered : ∀ other ∈ c.orderedHandlers, other ∈ c.allHandlers := by
    intro other hother
    obtain ⟨rank, -, hmem⟩ := List.mem_flatMap.1 hother
    exact (List.mem_filter.1 hmem).1
  calc
    c.orderedHandlers.filter (·.key == handler.key)
    _ = (c.orderedHandlers.filter (·.binding.rank == handler.binding.rank)).filter
          (·.key == handler.key) := by
      rw [List.filter_filter]
      exact List.filter_congr fun other hother => hkind other (hordered other hother)
    _ = c.allHandlers.filter (·.key == handler.key) := by
      rw [filter_orderedHandlers, List.filter_filter]
      exact (List.filter_congr hkind).symm
    _ = [handler] := by
      rw [filter_allHandlers (·.key == handler.key) (beq_eq_false_iff_ne.2 hkey.symm),
        filter_key_of_nodup h.nodup hmem]

include h in
/-- There is one handler for the start of the screen: the one of its key, or one without blocks. -/
theorem exists_start : ∃ handler, c.orderedHandlers.filter (·.binding.rank == 0) = [handler] ∧
    handler.binding = .startUp ∧ (Binding.startUpKey ∉ c.logic.handlers.map (·.key) →
      handler = ⟨"", .startUp, [], []⟩) := by
  rw [filter_orderedHandlers]
  by_cases hstart : ∃ handler ∈ c.logic.handlers, handler.binding = .startUp
  · obtain ⟨handler, hmem, hbinding⟩ := hstart
    have hkeys : ∀ other ∈ c.logic.handlers, (other.binding.rank == 0) = (other.key == handler.key) := by
      intro other hother
      rw [Bool.eq_iff_iff, beq_iff_eq, beq_iff_eq, Binding.rank_eq_zero_iff]
      constructor
      · intro hstart
        rw [h.key_of_startUp hother hstart, h.key_of_startUp hmem hbinding]
      · intro hsame
        rw [h.binding_eq_of_key hmem hother hsame, hbinding]
    have hany : c.logic.handlers.any (·.binding == .startUp) = true :=
      List.any_eq_true.2 ⟨handler, hmem, by rw [hbinding]; rfl⟩
    refine ⟨handler, ?_, hbinding, fun hnone => ?_⟩
    · rw [allHandlers, if_pos hany, List.filter_congr hkeys, filter_key_of_nodup h.nodup hmem]
    · exact absurd (List.mem_map.2 ⟨handler, hmem, h.key_of_startUp hmem hbinding⟩) hnone
  · have hany : ¬ c.logic.handlers.any (·.binding == .startUp) = true := by
      rw [List.any_eq_true]
      rintro ⟨handler, hmem, hbinding⟩
      exact hstart ⟨handler, hmem, eq_of_beq hbinding⟩
    have hnone : c.logic.handlers.filter (·.binding.rank == 0) = [] := by
      refine List.filter_eq_nil_iff.2 fun handler hmem hrank => hstart ⟨handler, hmem, ?_⟩
      exact Binding.rank_eq_zero_iff.1 (eq_of_beq hrank)
    refine ⟨⟨"", .startUp, [], []⟩, ?_, rfl, fun _ => rfl⟩
    rw [allHandlers, if_neg hany, List.filter_append, hnone]
    rfl

include h in
/-- Within a kind, handlers have the order of their keys. -/
theorem map_key_orderedHandlers {rank : Nat} (hrank : 0 < rank) :
    (c.orderedHandlers.filter (·.binding.rank == rank)).map (·.key) =
      (c.logic.handlers.map (·.key)).filter fun key => (Binding.ofKey? key).any (·.rank == rank) := by
  have hstart : ((⟨"", .startUp, [], []⟩ : Handler).binding.rank == rank) = false :=
    beq_eq_false_iff_ne.2 (Nat.ne_of_lt hrank)
  rw [filter_orderedHandlers, filter_allHandlers (·.binding.rank == rank) hstart, List.filter_map]
  refine congrArg (List.map _) (List.filter_congr fun handler hmem => ?_)
  rw [Function.comp_apply, h.read handler hmem]
  rfl

end Keyed

/-- What is made for a declared more block without blocks. -/
theorem exists_declared_of_mem_missingHandlers (h : handler ∈ c.missingHandlers) :
    ∃ declared ∈ c.logic.declarations.moreBlocks,
      Binding.moreBlockKey declared.name ∉ c.logic.handlers.map (·.key) ∧
        handler = ⟨Binding.moreBlockKey declared.name, .moreBlock declared.name, declared.arguments, []⟩ := by
  obtain ⟨declared, hdeclared, hmade⟩ := List.mem_filterMap.1 h
  dsimp only at hmade
  split at hmade
  · cases hmade
  · next hnone =>
    refine ⟨declared, hdeclared, fun hmem => hnone ?_, (Option.some.inj hmade).symm⟩
    obtain ⟨other, hother, hkey⟩ := List.mem_map.1 hmem
    exact List.any_eq_true.2 ⟨other, hother, beq_iff_eq.2 hkey⟩

theorem filter_key_missingHandlers (hmem : handler ∈ c.logic.handlers) :
    c.missingHandlers.filter (·.key == handler.key) = [] := by
  refine List.filter_eq_nil_iff.2 fun other hother hsame => ?_
  obtain ⟨declared, -, hnone, rfl⟩ := exists_declared_of_mem_missingHandlers hother
  exact hnone (List.mem_map.2 ⟨handler, hmem, (eq_of_beq hsame).symm⟩)

theorem filter_start_missingHandlers (c : ActivityClass) :
    c.missingHandlers.filter (·.binding.rank == 0) = [] := by
  refine List.filter_eq_nil_iff.2 fun other hother hrank => ?_
  obtain ⟨declared, -, -, rfl⟩ := exists_declared_of_mem_missingHandlers hother
  cases hrank

/-! ## Methods -/

/-- A method of a class, with the handler that it is made of. -/
structure Method where
  handler : Handler
  lines : List Line

/-- The methods in the lines of a class, for the handlers that a section has in its order: `own` are those
of the handlers and of the start of the screen, `empty` those of declared more blocks without blocks. They
stand at the end of the class, and besides them only the two that set the screen up begin in it. -/
structure HasMethods (c : ActivityClass) (handlers : List (String × List BlockRecord)) (lines : List Line)
    (own empty : List Method) : Prop where
  rendered : ∀ method ∈ own ++ empty, methodLines c.scene c.logic.screen method.handler = .ok method.lines
  placed : ∃ before, lines = before ++
    (own ++ empty).flatMap (fun method => .blank :: method.lines) ++ [.closing 0]
  complete : signatures lines =
    [createSignature, Parts.setUpOpening] ++ (own ++ empty).map fun method => signatureLine method.handler
  once : ∀ key records, (key, records) ∈ handlers → ∃ method ∈ own,
    (own ++ empty).filter (·.handler.key == key) = [method] ∧
      Binding.ofKey? key = some method.handler.binding ∧
        rowsOf 0 method.handler.blocks = records.map (·.row)
  start : ∃ method ∈ own,
    (own ++ empty).filter (·.handler.binding.methodName == "initializeLogic") = [method] ∧
      (Binding.startUpKey ∉ handlers.map Prod.fst →
        method.lines = bracedBy (.plain 1 "private void initializeLogic() \x7b") [])
  byKind : own.Pairwise fun first later => first.handler.binding.rank ≤ later.handler.binding.rank
  inOrder : ∀ rank, 0 < rank → (own.filter (·.handler.binding.rank == rank)).map (·.handler.key) =
    (handlers.map Prod.fst).filter fun key => (Binding.ofKey? key).any (·.rank == rank)
  others : ∀ method ∈ empty, ∃ declared ∈ c.logic.declarations.moreBlocks,
    Binding.moreBlockKey declared.name ∉ handlers.map Prod.fst ∧ method.handler =
      ⟨Binding.moreBlockKey declared.name, .moreBlock declared.name, declared.arguments, []⟩

theorem exists_methods_of_mapM {handlers : List Handler} {members : List (List Line)}
    (h : handlers.mapM c.memberLines = .ok members) :
    ∃ methods : List Method, methods.map (·.handler) = handlers ∧
      members.flatten = methods.flatMap (fun method => .blank :: method.lines) ∧
      ∀ method ∈ methods, methodLines c.scene c.logic.screen method.handler = .ok method.lines := by
  induction handlers generalizing members with
  | nil =>
    cases h
    exact ⟨[], rfl, rfl, List.forall_mem_nil _⟩
  | cons handler handlers ih =>
    obtain ⟨member, rest, hmember, hrest, rfl⟩ := Except.mapM_cons_eq_ok_iff.1 h
    simp only [memberLines, Except.bind_eq_ok_iff, Except.pure_eq_ok_iff] at hmember
    obtain ⟨body, hbody, rfl⟩ := hmember
    obtain ⟨methods, hhandlers, hflatten, hrendered⟩ := ih hrest
    refine ⟨⟨handler, body⟩ :: methods, congrArg _ hhandlers, ?_,
      List.forall_mem_cons.2 ⟨hbody, hrendered⟩⟩
    rw [List.flatten_cons, hflatten, List.flatMap_cons]

/-- One handler among some, and none among others, is one method among theirs. -/
theorem exists_method_of_filter {own empty : List Method} {p : Handler → Bool}
    (hown : (own.map (·.handler)).filter p = [handler])
    (hempty : (empty.map (·.handler)).filter p = []) :
    ∃ method ∈ own, (own ++ empty).filter (fun method => p method.handler) = [method] ∧
      method.handler = handler := by
  rw [List.filter_map] at hown hempty
  obtain ⟨method, hmethod, rfl⟩ := List.map_eq_singleton_iff.1 hown
  refine ⟨method, (List.mem_filter.1 (hmethod ▸ List.mem_singleton_self _)).1, ?_, rfl⟩
  rw [List.filter_append]
  show own.filter (p ∘ _) ++ empty.filter (p ∘ _) = _
  rw [hmethod, List.map_eq_nil_iff.1 hempty]
  rfl

/-! ## Classes of a section -/

section

variable {logic : LogicSection} {screen : String}

/-- No two handlers of a screen have the same key if no two groups have the same place. -/
theorem nodup_keys (h : (logic.groups.map LogicSection.place).Nodup) (screen : String) :
    ((logic.handlers screen).map Prod.fst).Nodup := by
  have hkeys : ((logic.ofScreen screen).map (·.key)).Nodup := by
    have hsame : ((logic.ofScreen screen).map LogicSection.place).Nodup :=
      h.sublist (List.filter_sublist.map _)
    rw [List.Nodup, List.pairwise_map] at hsame ⊢
    refine hsame.imp_of_mem fun {first later} hfirst hlater hne hkey => hne ?_
    have hscreen := (eq_of_beq (List.mem_filter.1 hfirst).2).trans
      (eq_of_beq (List.mem_filter.1 hlater).2).symm
    exact Prod.ext hscreen hkey
  refine hkeys.sublist ?_
  -- groups of declarations are left out
  unfold LogicSection.handlers
  induction logic.ofScreen screen with
  | nil => exact .slnil
  | cons group groups ih =>
    rw [List.filterMap_cons]
    cases group.content.handlerRecords? with
    | none => exact ih.cons _
    | some records => exact ih.cons_cons _

variable (hlogic : LogicTree.ofScreen logic screen = .ok c.logic)

include hlogic in
theorem keyed_of_ofScreen (hplaces : (logic.groups.map LogicSection.place).Nodup) : c.Keyed where
  nodup := by
    rw [LogicTree.keys_of_ofScreen hlogic]
    exact nodup_keys hplaces screen
  read handler hmem := (key_of_ofScreen hlogic hmem).1

include hlogic in
theorem exists_valid_of_ofScreen (h : handler ∈ c.orderedHandlers ++ c.missingHandlers) :
    ∃ around, ValidAll around (fun _ => False) handler.blocks := by
  rcases handler_of_mem_methods h with hmem | rfl | ⟨declared, -, rfl⟩
  · obtain ⟨used, key, records, -, hrecords⟩ := LogicTree.exists_records_of_ofScreen hlogic hmem
    obtain ⟨-, -, -, hvalid, -⟩ := Handler.ofRecords_eq_ok_iff.1 hrecords
    exact ⟨_, hvalid⟩
  · exact ⟨⟨c.logic.declarations, []⟩, trivial⟩
  · exact ⟨⟨c.logic.declarations, []⟩, trivial⟩

include hlogic in
/-- The methods of a class, put together. -/
theorem exists_hasMethods (hplaces : (logic.groups.map LogicSection.place).Nodup)
    (hparts : c.HasParts parts) :
    ∃ own empty, c.HasMethods (logic.handlers screen) (parts.lines c) own empty := by
  have hkeyed := keyed_of_ofScreen hlogic hplaces
  have hkeys := LogicTree.keys_of_ofScreen hlogic
  obtain ⟨methods, hhandlers, hflatten, hrendered⟩ := exists_methods_of_mapM hparts.methods
  obtain ⟨own, empty, rfl, hown, hempty⟩ := List.map_eq_append_iff.1 hhandlers
  refine ⟨own, empty, hrendered, ?_, ?_, ?_, ?_, ?_, ?_, ?_⟩
  · refine ⟨c.openingLine :: (parts.fields ++ c.createLines ++ parts.setUp c), ?_⟩
    rw [Parts.lines, bracedBy, level_openingLine, hflatten]
    rfl
  · rw [hparts.signatures_lines fun handler h => exists_valid_of_ofScreen hlogic h, ← hhandlers,
      List.map_map]
    rfl
  · intro key records hmem
    obtain ⟨handler, hhandler, rfl, hrows⟩ := LogicTree.exists_handler_of_ofScreen hlogic hmem
    obtain ⟨method, hmethod, hfilter, rfl⟩ := exists_method_of_filter
      (hown ▸ hkeyed.filter_key_orderedHandlers hhandler)
      (hempty ▸ filter_key_missingHandlers hhandler)
    exact ⟨method, hmethod, hfilter, hkeyed.read _ hhandler, hrows⟩
  · obtain ⟨handler, hstart, hbinding, hnone⟩ := hkeyed.exists_start
    obtain ⟨method, hmethod, hfilter, rfl⟩ :=
      exists_method_of_filter (hown ▸ hstart) (hempty ▸ filter_start_missingHandlers c)
    refine ⟨method, hmethod, ?_, fun hkey => ?_⟩
    · simpa only [Binding.methodName_beq_start] using hfilter
    · have hlines := hrendered method (List.mem_append_left _ hmethod)
      rw [hnone (hkeys ▸ hkey)] at hlines
      exact (Except.ok.inj hlines).symm
  · have hkinds := pairwise_orderedHandlers c
    rw [← hown, List.pairwise_map] at hkinds
    exact hkinds
  · intro rank hrank
    rw [← hkeys, ← hkeyed.map_key_orderedHandlers hrank, ← hown, List.filter_map, List.map_map]
    rfl
  · intro method hmethod
    rw [← hkeys]
    exact exists_declared_of_mem_missingHandlers (hempty ▸ List.mem_map_of_mem hmethod)

end

/-- **Handlers and methods.** The class of a screen has one method for each key of a handler, made of that
handler, and one for the start of the screen, which is empty if no handler has its key. They stand by kind,
and in a kind in the order of the section. Different keys have methods of one name exactly if one is of a
view's event and the other is of a more block named like it, since a key is recovered from what it means.
No two groups of the section have the same place, which is so in any that is read. -/
theorem handlers_have_methods {logic : LogicSection} {screen indent shown : String}
    (hplaces : (logic.groups.map LogicSection.place).Nodup)
    (hlogic : LogicTree.ofScreen logic screen = .ok c.logic) (hsource : c.source indent = .ok shown) :
    (∃ head lines own empty, shown = joinLines (head ++ lines.map (·.shown indent)) ∧
      c.lines = .ok lines ∧ c.HasMethods (logic.handlers screen) lines own empty) ∧
    (∀ k k' binding binding', Binding.ofKey? k = some binding → Binding.ofKey? k' = some binding' →
      k ≠ k' → (binding.methodName = binding'.methodName ↔
        (∃ view event, binding = .viewEvent view event ∧ k' = k ++ "_moreBlock") ∨
        ∃ view event, binding' = .viewEvent view event ∧ k = k' ++ "_moreBlock")) ∧
    (∀ k view event, Binding.ofKey? k = some (.viewEvent view event) → k = view ++ "_" ++ event.name) ∧
    ∀ k name, Binding.ofKey? k = some (.moreBlock name) → k = name ++ "_moreBlock" := by
  refine ⟨?_, fun k k' binding binding' => Binding.methodName_eq_iff,
    fun k view event h => (Binding.key_of_ofKey? h).symm, fun k name h => (Binding.key_of_ofKey? h).symm⟩
  obtain ⟨parts, hparts, hlines⟩ := exists_parts_of_source hsource
  obtain ⟨head, hshown⟩ := exists_head_of_source hsource hlines
  obtain ⟨own, empty, hmethods⟩ := exists_hasMethods hlogic hplaces hparts
  exact ⟨head, _, own, empty, hshown, hlines, hmethods⟩

/-- A logic section with a more block that is named like the key of a view's event. -/
def sharedNameLogic : LogicSection :=
  ⟨[⟨"main", "func", .moreBlocks [⟨"edit1_onClick", []⟩]⟩, ⟨"main", "edit1_onClick_moreBlock", .handler []⟩,
    ⟨"main", "edit1_onClick", .handler []⟩, ⟨"main", "onStart", .handler []⟩]⟩

/-- The class of its screen. -/
def sharedNameClass : ActivityClass where
  name := "MainActivity"
  layout := "main"
  logic := ⟨"main", sharedNameLogic.declarations "main",
    [⟨"edit1_onClick_moreBlock", .moreBlock "edit1_onClick", [], []⟩,
      ⟨"edit1_onClick", .viewEvent "edit1" .click, [⟨"View", "view"⟩], []⟩,
      ⟨"onStart", .activityEvent .start, [], []⟩]⟩
  views := ⟨"main", [⟨"edit1", "EditText", true⟩]⟩
  window := none
  metadata := ⟨"a.b", "A", 1, "1"⟩
  libraries := ⟨[]⟩
  resources := ⟨[]⟩

/-- The class has the methods of its three handlers, of which two have the same name. -/
theorem handlers_have_methods_sharedName :
    (sharedNameLogic.groups.map LogicSection.place).Nodup ∧
    LogicTree.ofScreen sharedNameLogic "main" = .ok sharedNameClass.logic ∧
    (∃ lines own empty, sharedNameClass.lines = .ok lines ∧
      sharedNameClass.HasMethods (sharedNameLogic.handlers "main") lines own empty) ∧
    (Binding.viewEvent "edit1" .click).methodName = (Binding.moreBlock "edit1_onClick").methodName := by
  have hplaces : (sharedNameLogic.groups.map LogicSection.place).Nodup := by decide
  have hlogic : LogicTree.ofScreen sharedNameLogic "main" = .ok sharedNameClass.logic := rfl
  obtain ⟨shown, hshown⟩ : ∃ shown, sharedNameClass.source "" = .ok shown :=
    Except.exists_of_isOk (by decide +kernel)
  obtain ⟨⟨head, lines, own, empty, -, hlines, hmethods⟩, hnames, -⟩ :=
    handlers_have_methods hplaces hlogic hshown
  refine ⟨hplaces, hlogic, ⟨lines, own, empty, hlines, hmethods⟩, ?_⟩
  exact (hnames "edit1_onClick" "edit1_onClick_moreBlock" _ _ (by decide +kernel) (by decide +kernel)
    (by decide)).2 (.inl ⟨"edit1", .click, rfl, rfl⟩)

end ActivityClass

end BlockApp
