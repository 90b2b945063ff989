import BlockApp.Proofs.Outcome
import BlockApp.Proofs.View.Search
import Mathlib.Logic.Relation

/-!
# Which records make a tree

The records of a screen make a tree exactly if they form one: distinct names, one root, parents that are
there, and a way up from each record to the root. The tree then has the same records and the same parents.

A parent may stand after its children, and records may be each other's parents. The first makes no
difference, as children are looked up in all records, and the second shows in what the root reaches.

* `Rooted` — what the records of a tree have in common
* `ViewNode.mem_records_grow_iff` — a grown tree holds exactly what its root reaches
* `ViewNode.children_grow` — the children of each view are the records that name it, in their order
* `ViewTree.ofScreen_iff_rooted` — which records make a tree, and how it is related to them
-/

namespace BlockApp

/-! ## Rooted records -/

/-- Whether a record is the parent of another, among these records. -/
def IsParent (records : List ViewRecord) (record parent : ViewRecord) : Prop :=
  parent ∈ records ∧ record.parent = some parent.id

/-- Whether records form one tree: their names are distinct, one of them has no parent, the parents of the
others are there, from each of them parents lead to the root, and views that scroll hold one view at most. -/
structure Rooted (records : List ViewRecord) : Prop where
  distinct : (records.map (·.id)).Nodup
  oneRoot : records.countP (·.parent == none) = 1
  parents : ∀ record ∈ records, ∀ parent, record.parent = some parent → parent ∈ records.map (·.id)
  lead : ∀ record ∈ records, ∀ root ∈ records, root.parent = none →
    Relation.ReflTransGen (IsParent records) record root
  fewChildren : ∀ record ∈ records,
    record.type = "ScrollView" ∨ record.type = "HorizontalScrollView" →
      (records.filter (·.parent == some record.id)).length ≤ 1

namespace ViewNode

variable {pool : List ViewRecord} {top record x : ViewRecord} {node : ViewNode}

/-- Parents lead up where children lead down. -/
theorem reaches_iff_lead (htop : top ∈ pool) (hrecord : record ∈ pool) :
    Reaches pool top record ↔ Relation.ReflTransGen (IsParent pool) record top := by
  constructor
  · intro h
    clear hrecord
    induction h with
    | self => exact .refl
    | @child parent child h hmem hparent ih =>
      have hpool : parent ∈ pool := by
        rcases h.eq_or_mem with rfl | hpool
        · exact htop
        · exact hpool
      exact .head ⟨hpool, hparent⟩ ih
  · intro h
    induction h using Relation.ReflTransGen.head_induction_on with
    | refl => exact .self
    | head hstep _ ih => exact .child (ih hstep.1) hrecord hstep.2

/-! ## What a grown tree holds -/

/-- What is reached is the top or is reached from one of its children without the others. -/
theorem Reaches.cases_top (h : Reaches pool top x) :
    x = top ∨ ∃ child ∈ childrenIn pool top.id, Reaches (othersIn pool top.id) child x := by
  induction h with
  | self => exact .inl rfl
  | @child parent x h hmem hparent ih =>
    by_cases hid : parent.id = top.id
    · exact .inr ⟨x, mem_childrenIn_iff.2 ⟨hmem, hid ▸ hparent⟩, .self⟩
    · rcases ih with rfl | ⟨child, hchild, hreaches⟩
      · exact absurd rfl hid
      · refine .inr ⟨child, hchild, .child hreaches (mem_othersIn_iff.2 ⟨hmem, ?_⟩) hparent⟩
        rw [hparent]
        exact fun heq => hid (Option.some.inj heq)

theorem mem_records_of_reaches (h : Reaches pool record x) : x ∈ (grow pool record).records := by
  induction hsize : pool.length using Nat.strongRecOn generalizing pool record with
  | ind size ih =>
    rw [records_grow, List.mem_cons]
    rcases h.cases_top with rfl | ⟨child, hchild, hreaches⟩
    · exact .inl rfl
    · exact .inr (List.mem_flatMap.2
        ⟨child, hchild, ih _ (hsize ▸ length_othersIn_lt hchild) hreaches rfl⟩)

/-- **A grown tree holds exactly what its root reaches.** -/
theorem mem_records_grow_iff : x ∈ (grow pool record).records ↔ Reaches pool record x :=
  ⟨reaches_of_mem_records, mem_records_of_reaches⟩

/-! ## The children of a view -/

theorem record_grow (pool : List ViewRecord) (record : ViewRecord) : (grow pool record).record = record := by
  rw [grow_eq]
  rfl

theorem children_grow_root (pool : List ViewRecord) (record : ViewRecord) :
    (grow pool record).children.map (·.record) = childrenIn pool record.id := by
  rw [grow_eq, children, List.map_map]
  calc
    (childrenIn pool record.id).map ((·.record) ∘ grow (othersIn pool record.id)) =
        (childrenIn pool record.id).map id := List.map_congr_left fun child _ => record_grow _ child
    _ = childrenIn pool record.id := List.map_id _

theorem walk_grow (pool : List ViewRecord) (record : ViewRecord) :
    (grow pool record).walk =
      grow pool record :: (childrenIn pool record.id).flatMap fun child =>
        (grow (othersIn pool record.id) child).walk := by
  rw [grow_eq, walk, walkAll_eq_flatMap, List.flatMap_map]

/-- The records that name another parent are all left. -/
theorem childrenIn_othersIn {parent other : String} (h : other ≠ parent) :
    childrenIn (othersIn pool parent) other = childrenIn pool other := by
  rw [childrenIn, othersIn, List.filter_filter, childrenIn]
  refine List.filter_congr fun record _ => ?_
  by_cases hparent : record.parent = some other
  · simp [hparent, h]
  · simp [hparent]

/-- **The children of a view are the records that name it**, in the order of the records, if no name is
met twice. -/
theorem children_grow (hids : (grow pool record).ids.Nodup) (hnode : node ∈ (grow pool record).walk) :
    node.children.map (·.record) = childrenIn pool node.record.id := by
  induction hsize : pool.length using Nat.strongRecOn generalizing pool record with
  | ind size ih =>
    rw [ids, walk_grow, List.map_cons, List.map_flatMap, List.nodup_cons, record_grow,
      List.nodup_flatMap] at hids
    obtain ⟨hroot, hchildren, -⟩ := hids
    rw [walk_grow] at hnode
    rcases List.mem_cons.1 hnode with rfl | hnode
    · rw [record_grow]
      exact children_grow_root pool record
    · obtain ⟨child, hchild, hnode⟩ := List.mem_flatMap.1 hnode
      -- below a child the root's name is not met again, so that none of its children is missing
      have hne : node.record.id ≠ record.id := by
        rintro heq
        exact hroot (List.mem_flatMap.2 ⟨child, hchild, List.mem_map.2 ⟨node, hnode, heq⟩⟩)
      rw [← childrenIn_othersIn hne]
      exact ih _ (hsize ▸ length_othersIn_lt hchild) (hchildren child hchild) hnode rfl

end ViewNode

/-! ## Trees of screens -/

/-- Whether a tree has the views of records: its walk meets each record once, its root is the record
without a parent, and the children of a view are the records that name it, in their order. -/
structure ViewTree.Reproduces (tree : ViewTree) (records : List ViewRecord) : Prop where
  walk : (tree.walk.map (·.record)).Perm records
  root : tree.root.record ∈ records ∧ tree.root.record.parent = none
  parent : ∀ node ∈ tree.walk, ∀ child ∈ node.children, child.record.parent = some node.record.id
  children : ∀ node ∈ tree.walk,
    node.children.map (·.record) = records.filter (·.parent == some node.record.id)

namespace ViewTree

variable {screen : ViewScreen} {tree : ViewTree} {records : List ViewRecord} {root : ViewRecord}
  {node : ViewNode}

theorem orphan?_eq_none_iff :
    orphan? records = none ↔
      ∀ record ∈ records, ∀ parent, record.parent = some parent → parent ∈ records.map (·.id) := by
  rw [orphan?, List.findSome?_eq_none_iff]
  refine forall₂_congr fun record _ => ?_
  cases record.parent with
  | none => simp
  | some parent => simp [-List.mem_map]

/-- Only views that scroll have a bound. -/
theorem mostChildren?_eq_some_iff {name : String} {most : Nat} :
    ((Component.ofName? name).bind Component.mostChildren?) = some most ↔
      (name = "ScrollView" ∨ name = "HorizontalScrollView") ∧ most = 1 := by
  constructor
  · intro h
    obtain ⟨type, htype, hmost⟩ := Option.bind_eq_some_iff.1 h
    have hname := Component.name_of_ofName? htype
    cases type <;> cases hmost
    · exact ⟨.inl hname.symm, rfl⟩
    · exact ⟨.inr hname.symm, rfl⟩
  · rintro ⟨rfl | rfl, rfl⟩ <;> rfl

theorem overfull?_eq_none_iff :
    overfull? node = none ↔
      (node.record.type = "ScrollView" ∨ node.record.type = "HorizontalScrollView" →
        node.children.length ≤ 1) := by
  constructor
  · intro h hscrolls
    obtain ⟨type, htype, hmost⟩ :=
      Option.bind_eq_some_iff.1 (mostChildren?_eq_some_iff.2 ⟨hscrolls, rfl⟩)
    simpa [overfull?, htype, hmost] using h
  · intro h
    cases htype : Component.ofName? node.record.type with
    | none => simp [overfull?, htype]
    | some type =>
      cases hmost : type.mostChildren? with
      | none => simp [overfull?, htype, hmost]
      | some most =>
        obtain ⟨hscrolls, rfl⟩ :=
          mostChildren?_eq_some_iff.1 (Option.bind_eq_some_iff.2 ⟨type, htype, hmost⟩)
        simp [overfull?, htype, hmost, h hscrolls]

theorem firstOverfull?_eq_none_iff :
    firstOverfull? node = none ↔ ∀ view ∈ node.walk, overfull? view = none := by
  rw [firstOverfull?, List.findSome?_eq_none_iff]
  exact forall₂_congr fun view _ => Option.map_eq_none_iff

theorem countP_eq_one_iff :
    records.countP (·.parent == none) = 1 ↔ ∃ root, records.filter (·.parent == none) = [root] := by
  rw [List.countP_eq_length_filter, List.length_eq_one_iff]

/-- The root is the only record without a parent. -/
theorem eq_root_of_filter (h : records.filter (·.parent == none) = [root]) {record : ViewRecord}
    (hmem : record ∈ records) (hnone : record.parent = none) : record = root := by
  have hfilter : record ∈ records.filter (·.parent == none) := List.mem_filter.2 ⟨hmem, by simp [hnone]⟩
  rwa [h, List.mem_singleton] at hfilter

/-! ### Records and grown trees -/

section Grown

variable (hids : (records.map (·.id)).Nodup) (hroot : records.filter (·.parent == none) = [root])

include hroot in
/-- A grown tree holds records only. -/
theorem mem_of_mem_records_grow {record : ViewRecord} (h : record ∈ (ViewNode.grow records root).records) :
    record ∈ records := by
  rcases (ViewNode.reaches_of_mem_records h).eq_or_mem with rfl | hmem
  · exact (root_mem_of_filter hroot).1
  · exact hmem

include hids hroot

/-- A record is in the grown tree exactly if the search meets its name. -/
theorem mem_records_grow_iff_mem_reached {record : ViewRecord} (hmem : record ∈ records) :
    record ∈ (ViewNode.grow records root).records ↔ record.id ∈ reached records root := by
  obtain ⟨hroot', hnone⟩ := root_mem_of_filter hroot
  rw [ViewNode.mem_records_grow_iff, mem_reached_iff hids hroot' hnone]
  constructor
  · intro h
    exact ⟨record, h, rfl⟩
  · rintro ⟨found, hfound, hid⟩
    have hrecords : found ∈ records :=
      mem_of_mem_records_grow hroot (ViewNode.mem_records_grow_iff.2 hfound)
    rwa [← List.inj_on_of_nodup_map hids hrecords hmem hid]

/-- A grown tree has the children that the records tell. -/
theorem length_children_of_mem_walk {view : ViewNode} (h : view ∈ (ViewNode.grow records root).walk) :
    view.children.length = (records.filter (·.parent == some view.record.id)).length := by
  obtain ⟨hmem, hnone⟩ := root_mem_of_filter hroot
  rw [← List.length_map, ViewNode.children_grow (ViewNode.nodup_ids_grow hids hmem hnone) h]
  rfl

/-- A tree can be made of records with distinct names and one root if the rest holds of them. -/
theorem exists_ofRoot_iff (name : String) :
    (∃ tree, ofRoot name records root = .ok tree) ↔ Rooted records := by
  obtain ⟨hmem, hnone⟩ := root_mem_of_filter hroot
  simp only [ofRoot_eq_ok_iff, orphan?_eq_none_iff, firstOverfull?_eq_none_iff, overfull?_eq_none_iff]
  constructor
  · rintro ⟨-, hparents, hmet, hfew, rfl⟩
    have hrecords {record : ViewRecord} (hrecord : record ∈ records) :=
      (mem_records_grow_iff_mem_reached hids hroot hrecord).2 (hmet record hrecord)
    refine ⟨hids, countP_eq_one_iff.2 ⟨root, hroot⟩, hparents, fun record hrecord other hother htop => ?_,
      fun record hrecord hscrolls => ?_⟩
    · obtain rfl := eq_root_of_filter hroot hother htop
      exact (ViewNode.reaches_iff_lead hmem hrecord).1 (ViewNode.reaches_of_mem_records (hrecords hrecord))
    · obtain ⟨view, hview, rfl⟩ := List.mem_map.1 (hrecords hrecord)
      rw [← length_children_of_mem_walk hids hroot hview]
      exact hfew view hview hscrolls
  · intro h
    refine ⟨_, h.parents, fun record hrecord => ?_, fun view hview hscrolls => ?_, rfl⟩
    · have hreaches := (ViewNode.reaches_iff_lead hmem hrecord).2 (h.lead record hrecord root hmem hnone)
      exact (mem_reached_iff hids hmem hnone).2 ⟨record, hreaches, rfl⟩
    · rw [length_children_of_mem_walk hids hroot hview]
      have hrecord := mem_of_mem_records_grow hroot (List.mem_map_of_mem hview)
      exact h.fewChildren view.record hrecord hscrolls

end Grown

/-! ### Screens -/

theorem exists_ofScreen_iff : (∃ tree, ofScreen screen = .ok tree) ↔ Rooted screen.records := by
  simp only [ofScreen_eq_ok_iff]
  constructor
  · rintro ⟨tree, hids, root, hroot, h⟩
    exact (exists_ofRoot_iff hids hroot screen.name).1 ⟨tree, h⟩
  · intro h
    obtain ⟨root, hroot⟩ := countP_eq_one_iff.1 h.oneRoot
    obtain ⟨tree, htree⟩ := (exists_ofRoot_iff h.distinct hroot screen.name).2 h
    exact ⟨tree, h.distinct, root, hroot, htree⟩

/-- What makes no tree is refused as such. -/
theorem ofScreen_cases (screen : ViewScreen) :
    (∃ tree, ofScreen screen = .ok tree) ∨
      ∃ id problem, ofScreen screen = .error (.viewTree screen.name id problem) := by
  unfold ofScreen
  split
  · exact .inr ⟨_, _, rfl⟩
  split
  · unfold ofRoot
    split
    · exact .inr ⟨_, _, rfl⟩
    dsimp only
    split
    · exact .inr ⟨_, _, rfl⟩
    split
    · exact .inr ⟨_, _, rfl⟩
    · exact .inl ⟨_, rfl⟩
  · exact .inr ⟨_, _, rfl⟩

theorem reproduces_of_ofScreen (h : ofScreen screen = .ok tree) :
    tree.screen = screen.name ∧ tree.Reproduces screen.records := by
  obtain ⟨hids, root, hroot, h⟩ := ofScreen_eq_ok_iff.1 h
  obtain ⟨-, hmet, -, rfl⟩ := ofRoot_eq_ok_iff.1 h
  obtain ⟨hmem, hnone⟩ := root_mem_of_filter hroot
  have hchildren : ∀ view ∈ (ViewNode.grow screen.records root).walk,
      view.children.map (·.record) = screen.records.filter (·.parent == some view.record.id) :=
    fun view hview => ViewNode.children_grow (ViewNode.nodup_ids_grow hids hmem hnone) hview
  refine ⟨rfl, ?walk, ?root, fun view hview child hchild => ?parent, hchildren⟩
  case walk =>
    have hnodup := ViewNode.nodup_records_grow hids fun _ => hnone
    refine (List.perm_ext_iff_of_nodup hnodup hids.of_map).2 fun record => ⟨fun hrecord => ?_,
      fun hrecord => ?_⟩
    · exact mem_of_mem_records_grow hroot hrecord
    · exact (mem_records_grow_iff_mem_reached hids hroot hrecord).2 (hmet record hrecord)
  case root =>
    rw [ViewNode.record_grow]
    exact ⟨hmem, hnone⟩
  case parent =>
    have hrecord : child.record ∈ view.children.map (·.record) := List.mem_map_of_mem hchild
    rw [hchildren view hview] at hrecord
    exact eq_of_beq (List.mem_filter.1 hrecord).2

/-- **The records of a screen make a tree exactly if they form one**, and the tree has them as its views.
Other records are refused as no tree. -/
theorem ofScreen_iff_rooted (screen : ViewScreen) :
    ((∃ tree, ofScreen screen = .ok tree) ↔ Rooted screen.records) ∧
    (¬Rooted screen.records →
      ∃ id problem, ofScreen screen = .error (.viewTree screen.name id problem)) ∧
    ∀ tree, ofScreen screen = .ok tree →
      tree.screen = screen.name ∧ tree.Reproduces screen.records := by
  refine ⟨exists_ofScreen_iff, fun hnot => ?_, fun tree => reproduces_of_ofScreen⟩
  exact (ofScreen_cases screen).resolve_left fun h => hnot (exists_ofScreen_iff.1 h)

/-- A screen with a child before its parent. -/
def forwardScreen : ViewScreen where
  name := "main"
  records :=
    [⟨2, "label", "TextView", some "box", []⟩, ⟨3, "top", "ScrollView", none, []⟩,
      ⟨4, "box", "LinearLayout", some "top", []⟩, ⟨5, "ok", "Button", some "box", []⟩]

/-- A screen with two views in each other. -/
def cyclicScreen : ViewScreen where
  name := "main"
  records :=
    [⟨2, "top", "LinearLayout", none, []⟩, ⟨3, "a", "LinearLayout", some "b", []⟩,
      ⟨4, "b", "LinearLayout", some "a", []⟩]

theorem ofScreen_iff_rooted_forward :
    (∃ tree, ofScreen forwardScreen = .ok tree ∧ tree.Reproduces forwardScreen.records) ∧
      ¬Rooted cyclicScreen.records ∧
      ∃ id problem, ofScreen cyclicScreen = .error (.viewTree "main" id problem) := by
  obtain ⟨tree, htree⟩ : ∃ tree, ofScreen forwardScreen = .ok tree :=
    Except.exists_of_isOk (by decide +kernel)
  have hcyclic : ¬Rooted cyclicScreen.records := by
    intro h
    obtain ⟨tree, hcyclic⟩ := (ofScreen_iff_rooted cyclicScreen).1.2 h
    have hfails : (ofScreen cyclicScreen).isOk = false := by decide +kernel
    rw [hcyclic] at hfails
    cases hfails
  exact ⟨⟨tree, htree, ((ofScreen_iff_rooted forwardScreen).2.2 tree htree).2⟩, hcyclic,
    (ofScreen_iff_rooted cyclicScreen).2.1 hcyclic⟩

end ViewTree

end BlockApp
