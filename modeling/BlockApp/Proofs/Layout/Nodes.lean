import BlockApp.Proofs.Layout.Places

/-!
# Elements are read as they are

An element that is written is read as an element with the same names and values, every character of them, and
with the same elements inside. Where the marks in it are declared they mean its namespaces again.

* `Element.node` — an element as it is read
* `leads_elementChars` — an element that is written leads over its tags
* `assemble_tags` — tags make up the element that they are of
* `readMarkup_elementChars` — an element that is written is read as it is
* `Element.resolve_node` — the marks in an element mean its namespaces
* `Element.declaresUsed_node` — what is declared is what is used
-/

namespace BlockApp.Layout

/-! ## Tags of an element -/

namespace Node

mutual

/-- The tags of an element. -/
def tags : Node → List Tag
  | mk name attributes [] => [.empty ⟨name, attributes⟩]
  | mk name attributes (child :: others) =>
    .opening ⟨name, attributes⟩ :: (child.tags ++ tagsAll others ++ [.closing name])

/-- The tags of elements. -/
def tagsAll : List Node → List Tag
  | [] => []
  | node :: nodes => node.tags ++ tagsAll nodes

end

end Node

mutual

/-- The tags of an element make it up, behind those before it. -/
theorem assemble_tags (opened : List (Head × List Node)) (made : List Node) (rest : List Tag) :
    ∀ node : Node, assemble opened made (node.tags ++ rest) = assemble opened (made ++ [node]) rest
  | .mk name attributes [] => by
    rw [Node.tags, List.singleton_append, assemble]
  | .mk name attributes (child :: others) => by
    rw [Node.tags, List.cons_append, List.append_assoc, List.append_assoc, assemble, assemble_tags,
      assemble_tagsAll, List.singleton_append, assemble, if_pos rfl]
    rfl

theorem assemble_tagsAll (opened : List (Head × List Node)) (made : List Node) (rest : List Tag) :
    ∀ nodes : List Node,
      assemble opened made (Node.tagsAll nodes ++ rest) = assemble opened (made ++ nodes) rest
  | [] => by rw [Node.tagsAll, List.nil_append, List.append_nil]
  | node :: nodes => by
    rw [Node.tagsAll, List.append_assoc, assemble_tags, assemble_tagsAll, List.append_assoc]
    rfl

end

/-! ## Elements as they are read -/

theorem Namespace.mem_all (space : Namespace) : space ∈ all := by cases space <;> decide

/-- The declaration of a namespace as an attribute. -/
def Namespace.declaration (space : Namespace) : List Char × List Char :=
  (declarer ++ space.mark.toList, space.address.toList)

/-- What the declaration of a namespace declares. -/
def Namespace.meaning (space : Namespace) : List Char × List Char :=
  (space.mark.toList, space.address.toList)

/-- An attribute as it is read. -/
def plain (attr : AttributeName × String) : List Char × List Char := (attr.1.chars, attr.2.toList)

/-- The attributes of a tag as they are read. `spaces` are declared in it. -/
def plainAll (spaces : List Namespace) (attributes : List (AttributeName × String)) :
    List (List Char × List Char) :=
  spaces.map (·.declaration) ++ attributes.map plain

namespace Element

mutual

/-- An element as it is read. `spaces` are declared in its tag. -/
def node (spaces : List Namespace) : Element → Node
  | mk tag attributes children => .mk tag.toList (plainAll spaces attributes) (nodes children)

/-- Elements as they are read, with no declarations. -/
def nodes : List Element → List Node
  | [] => []
  | element :: elements => element.node [] :: nodes elements

end

/-- Whether the names in a tag are names, no attribute twice. -/
structure NamedTag (tag : String) (attributes : List (AttributeName × String)) : Prop where
  tag : Text.isBareIdentifier tag.toList = true
  names : ∀ attr ∈ attributes, isMarkupName attr.1.chars = true
  nodup : (attributes.map (·.1)).Nodup

mutual

/-- Whether the names in an element are names, no attribute twice in a tag. -/
def Named : Element → Prop
  | mk tag attributes children => NamedTag tag attributes ∧ AllNamed children

/-- Whether the names in elements are names. -/
def AllNamed : List Element → Prop
  | [] => True
  | element :: elements => element.Named ∧ AllNamed elements

end

end Element

theorem AttributeName.chars_injective {name other : AttributeName} (h : name.chars = other.chars) :
    name = other := by
  obtain ⟨space, text⟩ := name
  obtain ⟨space', text'⟩ := other
  cases space <;> cases space' <;>
    simp_all [AttributeName.chars, Namespace.mark, String.toList_inj]

theorem isMarkupName_declaration (space : Namespace) : isMarkupName space.declaration.1 = true := by
  cases space <;> decide

/-- The name of a plain attribute does not begin as that of a declaration does. -/
theorem head?_plain (attr : AttributeName × String) : (plain attr).1.head? ≠ some 'x' := by
  obtain ⟨⟨space, text⟩, value⟩ := attr
  cases space <;> simp [plain, AttributeName.chars, Namespace.mark]

theorem declaration_ne_plain (space : Namespace) (attr : AttributeName × String) :
    space.declaration.1 ≠ (plain attr).1 := by
  have hdeclared : space.declaration.1.head? = some 'x' := by cases space <;> rfl
  intro h
  exact head?_plain attr (h ▸ hdeclared)

theorem declaration_injective {space space' : Namespace}
    (h : space.declaration.1 = space'.declaration.1) : space = space' := by
  revert h
  cases space <;> cases space' <;> decide

section

variable {tag : String} {attributes : List (AttributeName × String)} {spaces : List Namespace}

theorem Element.NamedTag.isMarkupName_plainAll (h : NamedTag tag attributes) :
    ∀ attr ∈ plainAll spaces attributes, isMarkupName attr.1 = true := by
  intro attr hattr
  rcases List.mem_append.1 hattr with hattr | hattr
  · obtain ⟨space, -, rfl⟩ := List.mem_map.1 hattr
    exact isMarkupName_declaration space
  · obtain ⟨own, hown, rfl⟩ := List.mem_map.1 hattr
    exact h.names own hown

theorem Element.NamedTag.nodup_plainAll (h : NamedTag tag attributes) (hspaces : spaces.Nodup) :
    ((plainAll spaces attributes).map (·.1)).Nodup := by
  rw [plainAll, List.map_append, List.map_map, List.map_map, List.nodup_append]
  refine ⟨?_, ?_, ?_⟩
  -- Two names are only the same as they are written if they are the same name of the same namespace.
  · exact List.Pairwise.map _ (fun _ _ hne hsame => hne (declaration_injective hsame)) hspaces
  · have hnames : ((attributes.map (·.1)).map AttributeName.chars).Nodup :=
      List.Pairwise.map _ (fun _ _ hne hsame => hne (AttributeName.chars_injective hsame)) h.nodup
    rwa [List.map_map] at hnames
  · intro name hname other hother
    obtain ⟨space, -, rfl⟩ := List.mem_map.1 hname
    obtain ⟨attr, -, rfl⟩ := List.mem_map.1 hother
    exact declaration_ne_plain space attr

theorem flatMap_plainAll :
    ((plainAll spaces attributes).flatMap fun attr => assignment attr.1 attr.2) =
      spaces.flatMap declarationChars ++ attributes.flatMap attributeChars := by
  rw [plainAll, List.flatMap_append, List.flatMap_map, List.flatMap_map]
  rfl

end

/-! ## Characters to tags -/

section

variable {unit : List Char}

mutual

/-- An element that is written leads over its tags. -/
theorem leads_elementChars (hunit : ∀ c ∈ unit, c = ' ' ∨ c = '\t') {spaces : List Namespace}
    (hspaces : spaces.Nodup) (depth : Nat) : ∀ element : Element, element.Named →
      Leads .content (elementChars unit depth (spaces.flatMap declarationChars) element)
        (element.node spaces).tags .content
  | .mk tag attributes [], ⟨htag, _⟩ => by
    obtain ⟨next, hnext, hhead⟩ := leads_head (isMarkupName_of_isBareIdentifier htag.tag)
      htag.isMarkupName_plainAll (htag.nodup_plainAll hspaces)
    rw [flatMap_plainAll, ← List.append_assoc] at hhead
    rw [elementChars, Element.node, Element.nodes, Node.tags]
    exact hhead.append (leads_empty hnext)
  | .mk tag attributes (child :: others), ⟨htag, hchild, hothers⟩ => by
    have hname := isMarkupName_of_isBareIdentifier htag.tag
    obtain ⟨next, hnext, hhead⟩ := leads_head hname
      htag.isMarkupName_plainAll (htag.nodup_plainAll hspaces)
    rw [flatMap_plainAll, ← List.append_assoc] at hhead
    -- Only the tag in hand carries declarations: further inside no namespaces are declared again.
    have hinside := ((leads_breakChars hunit (depth + 1)).append
      (leads_elementChars hunit List.nodup_nil (depth + 1) child hchild)).append
        (leads_othersChars hunit depth others hothers)
    have hwhole := ((hhead.append (leads_opening hnext)).append hinside).append
      ((leads_lastBreakChars hunit depth).append (leads_closing hname))
    simpa [elementChars, Element.node, Element.nodes, Node.tags] using hwhole

theorem leads_othersChars (hunit : ∀ c ∈ unit, c = ' ' ∨ c = '\t') (depth : Nat) :
    ∀ elements : List Element, Element.AllNamed elements →
      Leads .content (othersChars unit depth elements) (Node.tagsAll (Element.nodes elements)) .content
  | [], _ => Leads.nil
  | element :: elements, ⟨helement, helements⟩ => by
    rw [othersChars, Element.nodes, Node.tagsAll]
    exact ((leads_breakChars hunit (depth + 1)).append
      (leads_elementChars hunit List.nodup_nil (depth + 1) element helement)).append
        (leads_othersChars hunit depth elements helements)

end

/-- An element that is written is read as it is. -/
theorem readMarkup_elementChars (hunit : ∀ c ∈ unit, c = ' ' ∨ c = '\t') {spaces : List Namespace}
    (hspaces : spaces.Nodup) {element : Element} (h : element.Named) :
    readMarkup (elementChars unit 0 (spaces.flatMap declarationChars) element ++ ['\n']) =
      some (element.node spaces) := by
  -- The last line feed is white space behind the root.
  have hscan := leads_elementChars hunit hspaces 0 element h ['\n']
  have hend : scan .content ['\n'] = some [] := rfl
  rw [readMarkup, hscan, hend, Option.map_some, Option.bind_some, assemble_tags]
  rfl

end

/-! ## Marks to namespaces -/

section

variable {scope : List (List Char × List Char)} {spaces : List Namespace}
  {attributes : List (AttributeName × String)}

theorem declaration?_declaration (space : Namespace) :
    declaration? space.declaration = some space.meaning := by
  cases space <;> decide

theorem declaration?_plain (attr : AttributeName × String) : declaration? (plain attr) = none := by
  rw [declaration?, if_neg]
  intro hprefix
  obtain ⟨rest, hrest⟩ := List.isPrefixOf_iff_prefix.1 hprefix
  refine head?_plain attr ?_
  rw [← hrest]
  rfl

theorem markOf_plain (attr : AttributeName × String) :
    markOf (plain attr) = attr.1.space.mark.toList := by
  obtain ⟨⟨space, text⟩, value⟩ := attr
  cases space <;> simp [markOf, plain, AttributeName.chars, Namespace.mark]

theorem filterMap_plainAll :
    (plainAll spaces attributes).filterMap declaration? = spaces.map (·.meaning) := by
  have hspaces : (declaration? ∘ fun space : Namespace => space.declaration) =
      some ∘ fun space : Namespace => space.meaning := funext declaration?_declaration
  have hown : declaration? ∘ plain = fun _ => none := funext declaration?_plain
  rw [plainAll, List.filterMap_append, List.filterMap_map, List.filterMap_map, hspaces, hown]
  simp

theorem filter_plainAll :
    ((plainAll spaces attributes).filter fun attr => (declaration? attr).isNone) =
      attributes.map plain := by
  rw [plainAll, List.filter_append, List.filter_eq_nil_iff.2, List.filter_eq_self.2, List.nil_append]
  · intro attr hattr
    obtain ⟨own, -, rfl⟩ := List.mem_map.1 hattr
    rw [declaration?_plain]
    rfl
  · intro attr hattr
    obtain ⟨space, -, rfl⟩ := List.mem_map.1 hattr
    rw [declaration?_declaration]
    exact Bool.false_ne_true

theorem resolveAttribute_plain {attr : AttributeName × String}
    (h : scope.lookup attr.1.space.mark.toList = some attr.1.space.address.toList) :
    resolveAttribute scope (plain attr) = some attr := by
  have hspace : Namespace.all.find? (·.address.toList == attr.1.space.address.toList) =
      some attr.1.space := by
    cases attr.1.space <;> decide
  have hname : attr.1.chars.drop (attr.1.space.mark.toList.length + 1) = attr.1.name.toList := by
    rw [AttributeName.chars, List.drop_append]
    simp
  rw [resolveAttribute, markOf_plain, h, Option.bind_eq_bind, Option.bind_some, hspace,
    Option.bind_eq_bind, Option.bind_some, plain, hname, String.ofList_toList, String.ofList_toList]
  rfl

theorem mapM_resolveAttribute
    (h : ∀ attr ∈ attributes,
      scope.lookup attr.1.space.mark.toList = some attr.1.space.address.toList) :
    (attributes.map plain).mapM (resolveAttribute scope) = some attributes := by
  induction attributes with
  | nil => rfl
  | cons attr attributes ih =>
    obtain ⟨hattr, hattributes⟩ := List.forall_mem_cons.1 h
    rw [List.map_cons, List.mapM_cons, resolveAttribute_plain hattr, ih hattributes]
    rfl

/-- A declared mark means its namespace. -/
theorem lookup_meaning {space : Namespace} (h : space ∈ spaces) :
    (spaces.map (·.meaning)).lookup space.mark.toList = some space.address.toList := by
  induction spaces with
  | nil => exact absurd h List.not_mem_nil
  | cons first spaces ih =>
    rw [List.map_cons, Namespace.meaning, List.lookup_cons]
    by_cases hsame : space = first
    · rw [hsame, beq_self_eq_true]
    · have hmark : (space.mark.toList == first.mark.toList) = false := by
        revert hsame
        cases space <;> cases first <;> decide
      rw [hmark]
      exact ih ((List.mem_cons.1 h).resolve_left hsame)

end

namespace Element

mutual

/-- The attributes of an element and of those in it. -/
def attributesIn : Element → List (AttributeName × String)
  | mk _ attributes children => attributes ++ attributesInAll children

/-- The attributes of elements and of those in them. -/
def attributesInAll : List Element → List (AttributeName × String)
  | [] => []
  | element :: elements => element.attributesIn ++ attributesInAll elements

end

mutual

theorem uses_eq_any (space : Namespace) : ∀ element : Element,
    element.uses space = element.attributesIn.any (·.1.space == space)
  | mk tag attributes children => by
    rw [uses, attributesIn, List.any_append, anyUses_eq_any]

theorem anyUses_eq_any (space : Namespace) : ∀ elements : List Element,
    anyUses space elements = (attributesInAll elements).any (·.1.space == space)
  | [] => rfl
  | element :: elements => by
    rw [anyUses, attributesInAll, List.any_append, uses_eq_any, anyUses_eq_any]

end

theorem uses_iff {space : Namespace} {element : Element} :
    element.uses space = true ↔ ∃ attr ∈ element.attributesIn, attr.1.space = space := by
  simp [uses_eq_any]

mutual

theorem attributesIn_node (spaces : List Namespace) : ∀ element : Element,
    (element.node spaces).attributesIn = plainAll spaces element.attributesIn
  | mk tag attributes children => by
    rw [node, Node.attributesIn, attributesIn, attributesInAll_nodes, plainAll, plainAll, List.map_append,
      List.append_assoc]

theorem attributesInAll_nodes : ∀ elements : List Element,
    Node.attributesInAll (nodes elements) = (attributesInAll elements).map plain
  | [] => rfl
  | element :: elements => by
    rw [nodes, Node.attributesInAll, attributesInAll, attributesIn_node, attributesInAll_nodes,
      List.map_append]
    rfl

end

mutual

/-- The marks in an element mean its namespaces, if those that it uses are declared. -/
theorem resolve_node (spaces : List Namespace) (scope : List (List Char × List Char)) :
    ∀ element : Element, element.Named →
      (∀ attr ∈ element.attributesIn, (spaces.map (·.meaning) ++ scope).lookup
        attr.1.space.mark.toList = some attr.1.space.address.toList) →
      (element.node spaces).resolve scope = some element
  | mk tag attributes children, ⟨htag, hchildren⟩, hscope => by
    -- A reader takes what is before a colon for a mark, so the names of elements may have none.
    have hcolon : ':' ∉ tag.toList := fun hmem =>
      absurd (Text.isNamePart_of_isBareIdentifier htag.tag hmem) (by decide)
    rw [attributesIn, List.forall_mem_append] at hscope
    have hinside := resolveAll_nodes (spaces.map (·.meaning) ++ scope) children hchildren hscope.2
    have hown := mapM_resolveAttribute hscope.1
    rw [node, Node.resolve]
    simp only [filterMap_plainAll, filter_plainAll, hown, hinside, if_neg hcolon, String.ofList_toList]
    rfl

theorem resolveAll_nodes (scope : List (List Char × List Char)) :
    ∀ elements : List Element, AllNamed elements →
      (∀ attr ∈ attributesInAll elements,
        scope.lookup attr.1.space.mark.toList = some attr.1.space.address.toList) →
      Node.resolveAll scope (nodes elements) = some elements
  | [], _, _ => rfl
  | element :: elements, ⟨helement, helements⟩, hscope => by
    rw [attributesInAll, List.forall_mem_append] at hscope
    rw [nodes, Node.resolveAll, resolve_node [] scope element helement hscope.1,
      resolveAll_nodes scope elements helements hscope.2]
    rfl

end

theorem declared_node (spaces : List Namespace) (element : Element) :
    (element.node spaces).declared = spaces.map (·.meaning) := by
  cases element
  rw [node, Node.declared, filterMap_plainAll]

/-- An element with the namespaces declared that it uses declares what is used. -/
theorem declaresUsed_node (element : Element) :
    (element.node (Namespace.all.filter element.uses)).DeclaresUsed := by
  constructor
  · rw [attributesIn_node, filterMap_plainAll, declared_node]
  · intro mark
    rw [declared_node, attributesIn_node, List.map_map, List.mem_map]
    constructor
    · rintro ⟨space, hspace, rfl⟩
      obtain ⟨attr, hattr, rfl⟩ := uses_iff.1 (List.mem_filter.1 hspace).2
      exact ⟨plain attr, List.mem_append_right _ (List.mem_map_of_mem hattr), declaration?_plain attr,
        markOf_plain attr⟩
    · rintro ⟨attr, hattr, hplain, rfl⟩
      rcases List.mem_append.1 hattr with hattr | hattr
      · obtain ⟨space, -, rfl⟩ := List.mem_map.1 hattr
        rw [declaration?_declaration] at hplain
        exact absurd hplain (Option.some_ne_none _)
      · obtain ⟨own, hown, rfl⟩ := List.mem_map.1 hattr
        exact ⟨own.1.space, List.mem_filter.2 ⟨own.1.space.mem_all, uses_iff.2 ⟨own, hown, rfl⟩⟩,
          (markOf_plain own).symm⟩

end Element

end BlockApp.Layout
