import BlockApp.Proofs.Class.Parts
import BlockApp.Proofs.Class.Texts
import BlockApp.Proofs.Method.Braces
import BlockApp.Proofs.Method.Records

/-!
# Signatures of a class

A method of a class begins with a line one level inside of the class that ends in an opening brace. These
lines, in their order, say which methods a class has: the two that set the screen up, and one for each of
the handlers that methods are made of. Fields end in a semicolon, and what stands in a method is deeper.

* `Source.signatures` — the lines that begin a method
* `Source.signatures_methodLines` — a method has one of them
* `ActivityClass.HasParts.signatures_lines` — all of them, in a whole class
-/

namespace BlockApp

namespace Source

variable {line opening : Line} {lines inner : List Line}

/-- The lines of a class that begin a method: one level inside of the class, with an opening brace at the
end. -/
def signatures (lines : List Line) : List Line := lines.filter fun line => line.level == 1 && line.opens

theorem signatures_append (lines more : List Line) :
    signatures (lines ++ more) = signatures lines ++ signatures more :=
  List.filter_append lines more

/-- Whether a line is in a method, or at least does not begin one. -/
def Line.BeginsNone (line : Line) : Prop := line.level = 1 → line.opens = false

theorem signatures_cons_of_beginsNone (h : line.BeginsNone) :
    signatures (line :: lines) = signatures lines := by
  refine List.filter_cons_of_neg ?_
  rw [Bool.and_eq_true, beq_iff_eq, not_and, Bool.not_eq_true]
  exact h

theorem signatures_eq_nil (h : ∀ line ∈ lines, line.BeginsNone) : signatures lines = [] := by
  induction lines with
  | nil => rfl
  | cons line lines ih =>
    obtain ⟨hline, hlines⟩ := List.forall_mem_cons.1 h
    rw [signatures_cons_of_beginsNone hline, ih hlines]

theorem beginsNone_of_level (h : line.level ≠ 1) : line.BeginsNone := fun hlevel => absurd hlevel h

theorem beginsNone_plain {level : Nat} {text : String} (h : level ≠ 1) :
    (Line.plain level text).BeginsNone :=
  beginsNone_of_level h

theorem beginsNone_of_getLast? {c : Char} (h : line.text.toList.getLast? = some c) (hc : c ≠ '\x7b') :
    line.BeginsNone := by
  intro _
  rw [Line.opens, h]
  simpa using hc

theorem beginsNone_closing (level : Nat) : (Line.closing level).BeginsNone :=
  fun _ => show ("\x7d".toList.getLast? == some '\x7b') = false by decide

/-- Lines in braces begin one method if what is in the braces begins none. -/
theorem signatures_bracedBy (hlevel : opening.level = 1) (hopens : opening.opens = true)
    (hinner : ∀ line ∈ inner, line.BeginsNone) : signatures (bracedBy opening inner) = [opening] := by
  have hfirst : signatures (opening :: inner) = opening :: signatures inner :=
    List.filter_cons_of_pos (by rw [hlevel, hopens]; rfl)
  rw [bracedBy, signatures_append, hfirst, signatures_eq_nil hinner,
    signatures_cons_of_beginsNone (beginsNone_closing _)]
  rfl

/-! ## Fields -/

theorem beginsNone_fieldText {type name : String} {value : Option String} {level : Nat}
    {imports : List String} : (Line.mk level (fieldText type name value) imports).BeginsNone := by
  have hlast : (fieldText type name value).toList.getLast? = some ';' := by
    cases value <;> exact getLast?_append _ (by decide)
  exact beginsNone_of_getLast? hlast (by decide)

theorem beginsNone_componentField {screen : String} {d : ComponentDeclaration}
    (h : componentField screen d = .ok line) : line.BeginsNone := by
  unfold componentField at h
  split at h
  · cases h
  · cases h
    exact beginsNone_fieldText

theorem beginsNone_viewField {screen : String} {entry : ViewEntry}
    (h : viewField screen entry = .ok line) : line.BeginsNone := by
  unfold viewField at h
  split at h
  · cases h
  · cases h
    exact beginsNone_fieldText

/-! ## Listeners -/

theorem beginsNone_blank : Line.blank.BeginsNone := beginsNone_of_level (by decide)

theorem beginsNone_listenerMethod (m : ListenerMethod) {level : Nat} (h : 1 < level) :
    ∀ line ∈ m.lines level, line.BeginsNone := by
  simp only [ListenerMethod.lines, bracedBy, List.cons_append, List.forall_mem_cons,
    List.forall_mem_append, List.forall_mem_map]
  refine ⟨beginsNone_of_level ?_, beginsNone_of_level ?_, fun _ _ => beginsNone_of_level ?_,
    beginsNone_closing _, List.forall_mem_nil _⟩
  · exact Nat.ne_of_gt h
  · exact Nat.ne_of_gt h
  · exact Nat.ne_of_gt (Nat.lt_succ_of_lt h)

/-- Nothing of a listener begins a method of the class. -/
theorem beginsNone_listenerLines (view method : String) (event : ViewEvent) :
    ∀ line ∈ listenerLines 2 view method event, line.BeginsNone := by
  simp only [listenerLines, List.cons_append, List.forall_mem_cons, List.forall_mem_append]
  refine ⟨beginsNone_of_level ?_, forall_mem_intercalate ?_ _ ?_, beginsNone_of_level (by decide),
    List.forall_mem_nil _⟩
  · show 2 + _ ≠ 1
    omega
  · exact fun line hline => List.mem_singleton.1 hline ▸ beginsNone_blank
  · simp only [List.forall_mem_map]
    exact fun m _ => beginsNone_listenerMethod m (by decide)

/-! ## Methods of handlers -/

theorem beginsNone_annotationLines (binding : Binding) :
    ∀ line ∈ annotationLines binding, line.BeginsNone := by
  cases binding with
  | activityEvent event =>
    rw [annotationLines, List.forall_mem_singleton]
    exact fun _ => show ("@Override".toList.getLast? == some '\x7b') = false by decide
  | startUp | viewEvent | moreBlock => exact List.forall_mem_nil _

theorem beginsNone_superLines (binding : Binding) : ∀ line ∈ superLines binding, line.BeginsNone := by
  cases binding with
  | activityEvent event =>
    rw [superLines]
    split
    · exact List.forall_mem_singleton.2 (beginsNone_plain (by decide))
    · exact List.forall_mem_nil _
  | startUp | viewEvent | moreBlock => exact List.forall_mem_nil _

theorem beginsNone_withBraces {scene : Scene} {coded : List (Row × Line)} {before : Nat}
    {opened : List Nat} (h : Coded scene before coded) :
    ∀ line ∈ withBraces opened coded, line.BeginsNone := by
  intro line hmem
  rcases closing_or_mem_of_mem_withBraces hmem with ⟨level, rfl⟩ | ⟨row, hrow⟩
  · exact beginsNone_closing level
  · obtain ⟨hlevel, -⟩ := h.of_mem hrow
    exact beginsNone_of_level (by omega)

/-- A method begins once, with the signature of its handler. -/
theorem signatures_methodLines {scene : Scene} {screen : String} {h : Handler} {around : Surroundings}
    (hvalid : ValidAll around (fun _ => False) h.blocks)
    (hlines : methodLines scene screen h = .ok lines) : signatures lines = [signatureLine h] := by
  obtain ⟨coded, -, hcoded, rfl⟩ := exists_coded_of_methodLines hvalid hlines
  obtain ⟨hlevel, -, hopens⟩ := signatureLine_shape h
  rw [signatures_append, signatures_eq_nil (beginsNone_annotationLines _), List.nil_append]
  exact signatures_bracedBy hlevel hopens
    (List.forall_mem_append.2 ⟨beginsNone_superLines _, beginsNone_withBraces hcoded⟩)

end Source

namespace ActivityClass

open Source

variable {c : ActivityClass} {parts : Parts}

/-- The line that begins the method that is called when the screen is made. -/
def createSignature : Line :=
  ⟨1, "protected void onCreate(Bundle _savedInstanceState) \x7b", ["android.os.Bundle"]⟩

theorem level_openingLine (c : ActivityClass) : c.openingLine.level = 0 := by
  unfold openingLine
  split <;> rfl

theorem signatures_createLines (c : ActivityClass) : signatures c.createLines = [createSignature] := by
  rfl

theorem beginsNone_windowLines (window : Option Activity) :
    ∀ line ∈ windowLines window, line.BeginsNone := by
  have hlevel : ∀ line ∈ windowLines window, line.level = 2 := by
    cases window with
    | none => exact List.forall_mem_nil _
    | some window =>
      rw [windowLines, List.forall_mem_append]
      constructor
      · cases window.orientation <;> decide
      · cases window.keyboard <;> decide
  exact fun line hline => beginsNone_of_level (by rw [hlevel line hline]; decide)

theorem beginsNone_setupLine? {d : ComponentDeclaration} {line : Line} (h : setupLine? d = some line) :
    line.BeginsNone := by
  simp only [setupLine?, Option.bind_eq_bind, Option.bind_eq_some_iff, Option.pure_def,
    Option.some.injEq] at h
  obtain ⟨type, -, text, -, rfl⟩ := h
  exact beginsNone_plain (by decide)

theorem beginsNone_listenerOf {handler : Handler} {lines : List Line}
    (h : c.listenerOf handler = .ok lines) : ∀ line ∈ lines, line.BeginsNone := by
  unfold listenerOf at h
  split at h
  · dsimp only at h
    split at h
    · cases h
    · split at h
      · cases h
        exact beginsNone_listenerLines _ _ _
      · cases h
  all_goals
    cases h
    exact List.forall_mem_nil _

/-- The methods of handlers begin with their signatures, in the order of the handlers. -/
theorem signatures_flatten_of_mapM {handlers : List Handler} {methods : List (List Line)}
    (h : handlers.mapM c.memberLines = .ok methods)
    (hvalid : ∀ handler ∈ handlers, ∃ around, ValidAll around (fun _ => False) handler.blocks) :
    signatures methods.flatten = handlers.map signatureLine := by
  induction handlers generalizing methods with
  | nil =>
    cases h
    rfl
  | cons handler handlers ih =>
    obtain ⟨member, rest, hmember, hrest, rfl⟩ := Except.mapM_cons_eq_ok_iff.1 h
    simp only [memberLines, Except.bind_eq_ok_iff, Except.pure_eq_ok_iff] at hmember
    obtain ⟨body, hbody, rfl⟩ := hmember
    obtain ⟨⟨around, hfirst⟩, hlater⟩ := List.forall_mem_cons.1 hvalid
    rw [List.flatten_cons, List.cons_append, signatures_cons_of_beginsNone beginsNone_blank,
      signatures_append, signatures_methodLines hfirst hbody, ih hrest hlater]
    rfl

namespace HasParts

variable (h : c.HasParts parts)

include h in
theorem signatures_setUp : signatures (parts.setUp c) = [Parts.setUpOpening] := by
  have hopens : Parts.setUpOpening.opens = true :=
    show ("private void initialize(Bundle _savedInstanceState) \x7b".toList.getLast? == some '\x7b') = true
      by decide
  rw [Parts.setUp, signatures_cons_of_beginsNone beginsNone_blank]
  refine signatures_bracedBy rfl hopens ?_
  simp only [List.forall_mem_append]
  refine ⟨⟨⟨beginsNone_windowLines _, fun line hline => ?_⟩, fun line hline => ?_⟩, fun line hline => ?_⟩
  · obtain ⟨entry, -, rfl⟩ := List.mem_map.1 hline
    exact beginsNone_plain (by decide)
  · obtain ⟨d, -, hd⟩ := List.mem_filterMap.1 hline
    exact beginsNone_setupLine? hd
  · obtain ⟨listener, hlistener, hmem⟩ := List.mem_flatten.1 hline
    obtain ⟨handler, -, hlines⟩ := Except.exists_source_of_mapM h.listeners hlistener
    exact beginsNone_listenerOf hlines line hmem

include h in
theorem signatures_fields : signatures parts.fields = [] := by
  have hall : ∀ line ∈ parts.declared ++ parts.viewFields, line.BeginsNone := by
    obtain ⟨components, hcomponents, hdeclared⟩ := h.declared
    rw [hdeclared]
    simp only [List.forall_mem_append]
    refine ⟨⟨fun line hline => ?_, fun line hline => ?_⟩, fun line hline => ?_⟩
    · obtain ⟨d, -, rfl⟩ := List.mem_map.1 hline
      exact beginsNone_fieldText
    · obtain ⟨d, -, hfield⟩ := Except.exists_source_of_mapM hcomponents hline
      exact beginsNone_componentField hfield
    · obtain ⟨entry, -, hfield⟩ := Except.exists_source_of_mapM h.viewFields hline
      exact beginsNone_viewField hfield
  unfold Parts.fields
  split
  · rfl
  · next lines hlines =>
    rw [signatures_cons_of_beginsNone beginsNone_blank]
    exact signatures_eq_nil hall

include h in
/-- **The signatures of a class** are those of the methods that set the screen up, and behind them one for
each of the handlers that methods are made of. -/
theorem signatures_lines
    (hvalid : ∀ handler ∈ c.orderedHandlers ++ c.missingHandlers,
      ∃ around, ValidAll around (fun _ => False) handler.blocks) :
    signatures (parts.lines c) = [createSignature, Parts.setUpOpening] ++
      (c.orderedHandlers ++ c.missingHandlers).map signatureLine := by
  have hclass : signatures (parts.lines c) =
      signatures (parts.fields ++ c.createLines ++ parts.setUp c ++ parts.methods.flatten) := by
    have hopening : c.openingLine.BeginsNone :=
      beginsNone_of_level (by rw [level_openingLine]; decide)
    rw [Parts.lines, bracedBy, List.cons_append, signatures_cons_of_beginsNone hopening,
      signatures_append, signatures_cons_of_beginsNone (beginsNone_closing _)]
    exact List.append_nil _
  rw [hclass, signatures_append, signatures_append, signatures_append, h.signatures_fields,
    signatures_createLines, h.signatures_setUp, signatures_flatten_of_mapM h.methods hvalid]
  rfl

end HasParts

end ActivityClass

end BlockApp
