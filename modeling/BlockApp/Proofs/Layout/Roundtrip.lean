import BlockApp.Layout.Document
import BlockApp.Proofs.Layout.Nodes
import BlockApp.Proofs.Outcome

/-!
# Layouts are read back

The elements of views have names that can be written, whatever texts their values are. So a layout that can
be made is read back as the elements of its views.

* `Identifies` — the attributes of a view's element: its identifier first, no name twice
* `Element.Shows` — an element for every view, in the same tree
* `fits_elementOf` — the element of a view has names that can be written, and shows the view
* `ofTree_reads_back` — a layout is read back as the elements of its views
-/

namespace BlockApp.Layout

/-! ## Attributes of a view -/

/-- What attributes of a view's element have from the first one on: the identifier of the view in front,
names that can be written, and no name twice. -/
structure Identifies (id : String) (attributes : List (AttributeName × String)) : Prop where
  first : attributes.head? = some (idName, "@+id/" ++ id)
  names : ∀ attr ∈ attributes, isMarkupName attr.1.chars = true
  nodup : (attributes.map (·.1)).Nodup

/-- Whether a name can be set beside an identifier. -/
structure Settable (name : AttributeName) : Prop where
  written : isMarkupName name.chars = true
  ne_id : name ≠ idName

theorem settable_target {entry : String × AttributeRule} (h : entry ∈ attributeRules) :
    Settable entry.2.target := by
  have hwritten : ∀ entry ∈ attributeRules, isMarkupName entry.2.target.chars = true := by decide
  have hne : ∀ entry ∈ attributeRules, entry.2.target ≠ idName := by decide
  exact ⟨hwritten entry h, hne entry h⟩

theorem settable_orientation : Settable orientationName := ⟨by decide, by decide⟩

theorem settable_context : Settable contextName := ⟨by decide, by decide⟩

section Attributes

variable {assets : Assets} {screen id : String} {inside : Option Component} {record : ViewRecord}
  {attributes settings : List (AttributeName × String)} {name : AttributeName} {value : String}

theorem mem_setAttribute {attr : AttributeName × String}
    (h : attr ∈ setAttribute attributes name value) : attr ∈ attributes ∨ attr = (name, value) := by
  induction attributes with
  | nil => exact Or.inr (List.mem_singleton.1 h)
  | cons first attributes ih =>
    obtain ⟨other, old⟩ := first
    rw [setAttribute] at h
    split at h
    · rcases List.mem_cons.1 h with rfl | h
      · exact Or.inr rfl
      · exact Or.inl (List.mem_cons_of_mem _ h)
    · rcases List.mem_cons.1 h with rfl | h
      · exact Or.inl List.mem_cons_self
      · exact (ih h).imp_left (List.mem_cons_of_mem _)

namespace Identifies

/-- Setting an attribute leaves the identifier in front. -/
theorem setAttribute (h : Identifies id attributes) (hname : Settable name) (value : String) :
    Identifies id (Layout.setAttribute attributes name value) := by
  refine ⟨?_, ?_, ?_⟩
  · obtain ⟨rest, rfl⟩ := List.head?_eq_some_iff.1 h.first
    rw [Layout.setAttribute, if_neg (Ne.symm hname.ne_id)]
    rfl
  · intro attr hattr
    rcases mem_setAttribute hattr with hattr | rfl
    · exact h.names attr hattr
    · exact hname.written
  · rw [names_setAttribute]
    split
    · exact h.nodup
    · next hnew =>
      rw [List.nodup_append]
      refine ⟨h.nodup, by simp, fun other hother same hsame => ?_⟩
      rw [List.mem_singleton.1 hsame]
      rintro rfl
      exact hnew hother

/-- Setting attributes one after the other leaves the identifier in front. -/
theorem setAll (h : Identifies id attributes) (hsettings : ∀ setting ∈ settings, Settable setting.1) :
    Identifies id (Layout.setAll attributes settings) := by
  induction settings generalizing attributes with
  | nil => exact h
  | cons setting settings ih =>
    obtain ⟨hsetting, hsettings⟩ := List.forall_mem_cons.1 hsettings
    exact ih (h.setAttribute hsetting setting.2) hsettings

end Identifies

/-- What an attribute of a view sets can be set beside an identifier. -/
theorem settable_attributeOf {attr : ViewAttribute} {setting : AttributeName × String}
    (h : attributeOf assets screen inside record attr = .ok (some setting)) : Settable setting.1 := by
  unfold attributeOf at h
  simp only at h
  split at h
  · exact absurd h nofun
  · next rule hrule =>
    split at h
    · exact absurd h nofun
    · split at h
      · exact absurd h nofun
      · simp only [Except.bind_eq_ok_iff, Except.pure_eq_ok_iff, Option.some.injEq] at h
        obtain ⟨value, -, rfl⟩ := h
        obtain ⟨hlookup, -⟩ := Option.filter_eq_some_iff.1 hrule
        obtain ⟨before, after, hrules, -⟩ := List.lookup_eq_some_iff.1 hlookup
        have hentry : (attr.name, rule) ∈ attributeRules := by
          rw [hrules]
          exact List.mem_append_right _ List.mem_cons_self
        exact settable_target hentry

theorem identifies_attributesOf {type : Component}
    (h : attributesOf assets screen inside type record = .ok attributes) :
    Identifies record.id attributes := by
  simp only [attributesOf, Except.bind_eq_ok_iff, Except.pure_eq_ok_iff] at h
  obtain ⟨settings, hsettings, rfl⟩ := h
  have hid : Identifies record.id [(idName, "@+id/" ++ record.id)] := by
    refine ⟨rfl, List.forall_mem_singleton.2 ?_, List.pairwise_singleton _ _⟩
    show isMarkupName idName.chars = true
    decide
  refine hid.setAll fun setting hsetting => ?_
  -- What is set comes from an attribute of the view, or it is the direction of a linear layout.
  rcases List.mem_append.1 hsetting with hsetting | hsetting
  · obtain ⟨result, hresult, hsome⟩ := List.mem_filterMap.1 hsetting
    obtain ⟨attr, -, hattr⟩ := Except.exists_source_of_mapM hsettings hresult
    exact settable_attributeOf (hattr.trans (congrArg Except.ok hsome))
  · split at hsetting
    · rw [List.mem_singleton.1 hsetting]
      exact settable_orientation
    · exact absurd hsetting List.not_mem_nil

end Attributes

/-! ## Elements of views -/

namespace Element

mutual

/-- Whether an element is of a view: of its type and with its identifier in front, and with an element in it
for each view in the view. -/
def Shows : Element → ViewNode → Prop
  | mk tag attributes children, .mk record nodes =>
    tag = record.type ∧ attributes.head? = some (idName, "@+id/" ++ record.id) ∧
      ShowAll children nodes

/-- Whether elements are of views, one of each in their order. -/
def ShowAll : List Element → List ViewNode → Prop
  | [], [] => True
  | element :: elements, node :: nodes => element.Shows node ∧ ShowAll elements nodes
  | _, _ => False

end

/-- Whether an element is of a view and can be written. -/
structure Fits (element : Element) (node : ViewNode) : Prop where
  named : element.Named
  shows : element.Shows node

/-- Setting an attribute of an element leaves what it is of. -/
theorem Fits.set {element : Element} {node : ViewNode} (h : element.Fits node) {name : AttributeName}
    (hname : Settable name) (value : String) : (element.set name value).Fits node := by
  obtain ⟨tag, attributes, children⟩ := element
  obtain ⟨record, nodes⟩ := node
  obtain ⟨⟨htag, hchildren⟩, htype, hfirst, hshow⟩ := h
  have hid : Identifies record.id attributes := ⟨hfirst, htag.names, htag.nodup⟩
  have hset := hid.setAttribute hname value
  exact ⟨⟨⟨htag.tag, hset.names, hset.nodup⟩, hchildren⟩, htype, hset.first, hshow⟩

end Element

theorem isBareIdentifier_name (type : Component) : Text.isBareIdentifier type.name.toList = true := by
  cases type <;> decide

section Views

variable {assets : Assets} {screen : String}

mutual

/-- The element of a view is of it and can be written. -/
theorem fits_elementOf (inside : Option Component) : ∀ (node : ViewNode) (element : Element),
    elementOf assets screen inside node = .ok element → element.Fits node
  | .mk record children, element, h => by
    rw [elementOf] at h
    split at h
    · exact absurd h nofun
    · next type htype =>
      simp only [Except.bind_eq_ok_iff, Except.pure_eq_ok_iff] at h
      obtain ⟨attributes, hattributes, elements, helements, rfl⟩ := h
      obtain ⟨hfirst, hnames, hnodup⟩ := identifies_attributesOf hattributes
      obtain ⟨hnamed, hshow⟩ := fits_elementsOf type children elements helements
      exact ⟨⟨⟨isBareIdentifier_name type, hnames, hnodup⟩, hnamed⟩,
        Component.name_of_ofName? htype, hfirst, hshow⟩

theorem fits_elementsOf (inside : Component) : ∀ (nodes : List ViewNode) (elements : List Element),
    elementsOf assets screen inside nodes = .ok elements →
      Element.AllNamed elements ∧ Element.ShowAll elements nodes
  | [], elements, h => by
    cases h
    exact ⟨trivial, trivial⟩
  | node :: nodes, elements, h => by
    simp only [elementsOf, Except.bind_eq_ok_iff, Except.pure_eq_ok_iff] at h
    obtain ⟨element, helement, others, hothers, rfl⟩ := h
    obtain ⟨hnamed, hshows⟩ := fits_elementOf (some inside) node element helement
    obtain ⟨hallNamed, hshowAll⟩ := fits_elementsOf inside nodes others hothers
    exact ⟨⟨hnamed, hallNamed⟩, hshows, hshowAll⟩

end

/-- The root of a layout is of the root of its views. -/
theorem fits_rootOf {metadata : Metadata} {tree : ViewTree} {root : Element}
    (h : rootOf assets metadata tree = .ok root) : root.Fits tree.root := by
  simp only [rootOf, Except.bind_eq_ok_iff, Except.pure_eq_ok_iff] at h
  obtain ⟨element, helement, rfl⟩ := h
  have hfits := fits_elementOf none tree.root element helement
  -- A screen that is an activity names its class in one more attribute of the root.
  split
  · exact hfits.set settable_context _
  · exact hfits

end Views

/-! ## Layouts -/

/-- An element with the namespaces declared that it uses is read back. -/
theorem Element.resolve_node_uses {element : Element} (h : element.Named) :
    (element.node (Namespace.all.filter element.uses)).resolve [] = some element := by
  refine resolve_node _ [] element h fun attr hattr => ?_
  have hmem : attr.1.space ∈ Namespace.all.filter element.uses :=
    List.mem_filter.2 ⟨attr.1.space.mem_all, uses_iff.2 ⟨attr, hattr, rfl⟩⟩
  rw [List.append_nil]
  exact lookup_meaning hmem

/-- A layout with an indentation of spaces and TABs is read back. It is one element: that of the root of the
views, with an element for each view in the same tree, the same names in their order and the same values. It
declares the namespaces that are used in it and no others. -/
theorem ofTree_reads_back {assets : Assets} {metadata : Metadata} {indent text : String} {tree : ViewTree}
    (hindent : ∀ c ∈ indent.toList, c = ' ' ∨ c = '\t')
    (h : ofTree assets metadata indent tree = .ok text) :
    ∃ body root node, text = documentHeader ++ body ∧ rootOf assets metadata tree = .ok root ∧
      root.Shows tree.root ∧ readMarkup body.toList = some node ∧ node.resolve [] = some root ∧
        node.DeclaresUsed := by
  simp only [ofTree, Except.bind_eq_ok_iff, Except.pure_eq_ok_iff] at h
  obtain ⟨root, hroot, rfl⟩ := h
  obtain ⟨hnamed, hshows⟩ := fits_rootOf hroot
  have hspaces : (Namespace.all.filter root.uses).Nodup := by
    refine List.Nodup.sublist List.filter_sublist ?_
    decide
  refine ⟨_, root, _, rfl, hroot, hshows, ?_, Element.resolve_node_uses hnamed,
    Element.declaresUsed_node root⟩
  rw [String.toList_ofList]
  exact readMarkup_elementChars hindent hspaces hnamed

/-- Views with quotes, brackets and line breaks in their values. -/
def noteTree : ViewTree :=
  ⟨"note", .mk ⟨2, "page", "LinearLayout", none, []⟩
    [.mk ⟨3, "title", "TextView", some "page",
      [⟨"text", .text, "\"<a>\"\t& 'b'\r"⟩, ⟨"gravity", .enum, "left\n"⟩]⟩ [],
     .mk ⟨4, "rows", "ListView", some "page", [⟨"listitem", .resource, "row"⟩]⟩ []]⟩

/-- What is there beside these views. -/
def noteAssets : Assets := ⟨⟨[]⟩, ⟨[⟨"note", .portrait, .unspecified⟩], ["row"]⟩⟩

/-- The element of these views. -/
def noteRoot : Element :=
  .mk "LinearLayout"
    [(⟨.android, "id"⟩, "@+id/page"), (⟨.android, "orientation"⟩, "vertical"),
     (⟨.tools, "context"⟩, "a.b.NoteActivity")]
    [.mk "TextView"
      [(⟨.android, "id"⟩, "@+id/title"), (⟨.android, "text"⟩, "\\\"<a>\\\"\\t& \\'b\\'\r"),
       (⟨.android, "gravity"⟩, "left\n")] [],
     .mk "ListView" [(⟨.android, "id"⟩, "@+id/rows"), (⟨.tools, "listitem"⟩, "@layout/row")] []]

theorem ofTree_reads_back_note :
    ∃ body node,
      ofTree noteAssets ⟨"a.b", "A", 1, "1"⟩ "\t " noteTree = .ok (documentHeader ++ body) ∧
      readMarkup body.toList = some node ∧ node.resolve [] = some noteRoot ∧
        noteRoot.Shows noteTree.root ∧ node.DeclaresUsed := by
  have hroot : rootOf noteAssets ⟨"a.b", "A", 1, "1"⟩ noteTree = .ok noteRoot := rfl
  have hmade : ofTree noteAssets ⟨"a.b", "A", 1, "1"⟩ "\t " noteTree =
      .ok (document "\t " noteRoot) := by
    rw [ofTree, hroot]
    rfl
  obtain ⟨body, root, node, htext, hroot', hshows, hread, hresolve, hdeclares⟩ :=
    ofTree_reads_back (by simp) hmade
  rw [hroot] at hroot'
  cases hroot'
  rw [htext] at hmade
  exact ⟨body, node, hmade, hread, hresolve, hshows, hdeclares⟩

end BlockApp.Layout
