import BlockApp.Proofs.Layout.Attributes

/-!
# Views are translated

A screen has a layout exactly if each of its views can be translated, wherever it stands. The layout has an
element for each view, in the same tree, and each element has what the attributes of its view say.

* `Accepted` — a view of a known type whose attributes can be translated
* `Translates` — an element is a view's and has what the view says, and so on for the views in it
* `exists_elementOf_iff`, `translates_elementOf` — one case for a view and one for a list of views
* `ofTree_translates` — which screens have a layout, and what is in it
-/

namespace BlockApp.Layout

variable {assets : Assets} {screen : String}

/-- Whether a view can be translated, but for the views in it. -/
structure Accepted (assets : Assets) (record : ViewRecord) : Prop where
  type : ∃ type, Component.ofName? record.type = some type
  attributes : ∀ attr ∈ record.attributes, Translatable assets record.type attr

mutual

/-- Whether an element is that of a view which stands inside of one of a type, or is the root: it has the tag
of the view's type, what the view says, and an element for each view in the view. -/
def Translates (assets : Assets) (inside : Option Component) (context? : Option String) :
    Element → ViewNode → Prop
  | .mk tag attributes children, .mk record nodes =>
    ∃ type, Component.ofName? record.type = some type ∧ tag = type.name ∧
      Conveys assets inside type record context? attributes ∧ TranslateAll assets type children nodes

/-- Whether elements are those of views inside of one of a type, one of each in their order. -/
def TranslateAll (assets : Assets) (inside : Component) : List Element → List ViewNode → Prop
  | [], [] => True
  | element :: elements, node :: nodes =>
    Translates assets (some inside) none element node ∧ TranslateAll assets inside elements nodes
  | _, _ => False

end

mutual

/-- **A view has an element exactly if it and all views in it can be translated.** -/
theorem exists_elementOf_iff (inside : Option Component) : ∀ node : ViewNode,
    (∃ element, elementOf assets screen inside node = .ok element) ↔
      ∀ view ∈ node.walk, Accepted assets view.record
  | .mk record children => by
    rw [ViewNode.walk, List.forall_mem_cons, elementOf]
    split
    · next hnone =>
      refine iff_of_false nofun fun haccepted => ?_
      obtain ⟨type, htype⟩ := haccepted.1.type
      exact absurd (hnone.symm.trans htype) nofun
    · next type htype =>
      rw [← exists_elementsOf_iff type children]
      have haccepted : (∃ attributes, attributesOf assets screen inside type record = .ok attributes) ↔
          Accepted assets record :=
        exists_attributesOf_iff.trans ⟨fun hattributes => ⟨⟨type, htype⟩, hattributes⟩, (·.attributes)⟩
      refine Iff.trans ?_ (and_congr_left' haccepted)
      exact Except.exists_bind_eq_ok_iff fun _ => Except.exists_bind_pure_eq_ok_iff

theorem exists_elementsOf_iff (inside : Component) : ∀ nodes : List ViewNode,
    (∃ elements, elementsOf assets screen inside nodes = .ok elements) ↔
      ∀ view ∈ ViewNode.walkAll nodes, Accepted assets view.record
  | [] => iff_of_true ⟨[], rfl⟩ (by simp [ViewNode.walkAll])
  | node :: nodes => by
    rw [ViewNode.walkAll, List.forall_mem_append, ← exists_elementOf_iff (some inside) node,
      ← exists_elementsOf_iff inside nodes]
    exact Except.exists_bind_eq_ok_iff fun _ => Except.exists_bind_pure_eq_ok_iff

end

mutual

/-- **The element of a view is its translation**, and so are those in it. -/
theorem translates_elementOf (inside : Option Component) : ∀ (node : ViewNode) (element : Element),
    elementOf assets screen inside node = .ok element → Translates assets inside none element node
  | .mk record children, element, h => by
    rw [elementOf] at h
    split at h
    · exact absurd h nofun
    · next type htype =>
      simp only [Except.bind_eq_ok_iff, Except.pure_eq_ok_iff] at h
      obtain ⟨attributes, hattributes, elements, helements, rfl⟩ := h
      exact ⟨type, htype, rfl, conveys_attributesOf htype hattributes,
        translateAll_elementsOf type children elements helements⟩

theorem translateAll_elementsOf (inside : Component) : ∀ (nodes : List ViewNode) (elements : List Element),
    elementsOf assets screen inside nodes = .ok elements → TranslateAll assets inside elements nodes
  | [], elements, h => by
    cases h
    trivial
  | node :: nodes, elements, h => by
    simp only [elementsOf, Except.bind_eq_ok_iff, Except.pure_eq_ok_iff] at h
    obtain ⟨element, helement, others, hothers, rfl⟩ := h
    exact ⟨translates_elementOf (some inside) node element helement,
      translateAll_elementsOf inside nodes others hothers⟩

end

end BlockApp.Layout
