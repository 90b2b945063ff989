import BlockApp.Proofs.View.Rooted

/-!
# Walking over records that may be in a cycle

The views of a screen are linked by their parents, and the links may be in a cycle. A walk visits a view and
then walks from each of its children, wherever it has been before: from a view in a cycle it would not end.
From the root it does. The tree that is grown from the records has the children that the links tell, so its
views are the visits of the walk.

* `Walks` — what a walk visits
* `walks_walk`, `walks_grow` — the walk over a tree as a walk over the records
* `ViewTree.search_and_walk_end` — the search and the walk from a root, whatever else is in the records
-/

namespace BlockApp

open ViewNode

variable {records views visited visited' : List ViewRecord} {root : ViewRecord}

/-- The visits of a walk over records from some views, in their order. It ends if there is a derivation. -/
inductive Walks (records : List ViewRecord) : (views visited : List ViewRecord) → Prop where
  | nil : Walks records [] []
  | cons {view : ViewRecord} {views below others : List ViewRecord}
      (hbelow : Walks records (childrenIn records view.id) below) (hothers : Walks records views others) :
      Walks records (view :: views) (view :: (below ++ others))

/-- A walk has one outcome. -/
theorem Walks.unique (h : Walks records views visited) (h' : Walks records views visited') :
    visited = visited' := by
  induction h generalizing visited' with
  | nil =>
    cases h'
    rfl
  | cons _ _ ihbelow ihothers =>
    cases h' with
    | cons hbelow hothers => rw [ihbelow hbelow, ihothers hothers]

/-! ## Walks over trees -/

/-- Whether the views of a tree have the children that records tell. -/
def ViewNode.Links (records : List ViewRecord) (node : ViewNode) : Prop :=
  node.children.map (·.record) = childrenIn records node.record.id

/-- **The walk over a tree that has the children that records tell is a walk over the records.** -/
theorem walks_walkAll : ∀ {nodes : List ViewNode}, (∀ node ∈ walkAll nodes, node.Links records) →
    Walks records (nodes.map (·.record)) ((walkAll nodes).map (·.record))
  | [], _ => .nil
  | .mk view children :: nodes, h => by
    -- once for the children of the first tree, and once for the other trees
    rw [walkAll, walk, List.cons_append, List.forall_mem_cons] at h
    obtain ⟨hview, hlater⟩ := h
    have hbelow := walks_walkAll fun node hnode => hlater node (List.mem_append_left _ hnode)
    have hothers := walks_walkAll fun node hnode => hlater node (List.mem_append_right _ hnode)
    have hchildren : children.map (·.record) = childrenIn records view.id := hview
    rw [hchildren] at hbelow
    rw [walkAll, walk, List.cons_append, List.map_cons, List.map_cons, List.map_append]
    exact .cons hbelow hothers

/-- The walk over a grown tree is the walk over its records. -/
theorem walks_grow (hids : (grow records root).ids.Nodup) :
    Walks records [root] (grow records root).records := by
  have hlinks : ∀ node ∈ walkAll [grow records root], node.Links records := by
    intro node hnode
    rw [walkAll_eq_flatMap, List.flatMap_singleton] at hnode
    exact children_grow hids hnode
  have hwalks := walks_walkAll hlinks
  rwa [walkAll_eq_flatMap, List.flatMap_singleton, List.map_singleton, record_grow] at hwalks

namespace ViewTree

/-- **The search and the walk from a root end**, if the names of the records are distinct and the root has no
parent; other records may be parents of themselves and of each other. The search meets no view twice, and
needs no more turns than there are records. The walk visits no view twice. Both get to exactly the records
from which parents lead to the root. -/
theorem search_and_walk_end (hids : (records.map (·.id)).Nodup) (hmem : root ∈ records)
    (hnone : root.parent = none) :
    (ViewSearch.turns records records.length (.start root)).pending = [] ∧
    (∀ n, (ViewSearch.turns records n (.start root)).met.Nodup) ∧
    (∀ n, (ViewSearch.turns records n (.start root)).pending = [] → ∀ record,
      record ∈ (ViewSearch.turns records n (.start root)).met ↔
        record ∈ records ∧ Relation.ReflTransGen (IsParent records) record root) ∧
    (∃ visited, Walks records [root] visited) ∧
    ∀ visited, Walks records [root] visited → visited.Nodup ∧ ∀ record,
      record ∈ visited ↔ record ∈ records ∧ Relation.ReflTransGen (IsParent records) record root := by
  have hcourse := (ViewSearch.onCourse_start records root).turns hids hmem hnone
  have hlead : ∀ record, Reaches records root record ↔
      record ∈ records ∧ Relation.ReflTransGen (IsParent records) record root := by
    intro record
    constructor
    · intro h
      have hrecord : record ∈ records := by
        rcases h.eq_or_mem with rfl | hrecord
        · exact hmem
        · exact hrecord
      exact ⟨hrecord, (reaches_iff_lead hmem hrecord).1 h⟩
    · rintro ⟨hrecord, h⟩
      exact (reaches_iff_lead hmem hrecord).2 h
  have hwalks : Walks records [root] (grow records root).records :=
    walks_grow (nodup_ids_grow hids hmem hnone)
  refine ⟨ViewSearch.pending_eq_nil hids hmem hnone, fun n => ?_, fun n hover record => ?_, ⟨_, hwalks⟩,
    fun visited hvisited => ?_⟩
  · exact (List.nodup_append.1 (hcourse n).nodup).1
  · rw [(hcourse n).mem_met_iff hover, hlead]
  · obtain rfl := hwalks.unique hvisited
    refine ⟨nodup_records_grow hids fun _ => hnone, fun record => ?_⟩
    rw [mem_records_grow_iff, hlead]

/-- A root with a view in it, a view that is its own parent, and two in each other. -/
def tangledRecords : List ViewRecord :=
  [⟨2, "me", "LinearLayout", some "me", []⟩, ⟨3, "top", "LinearLayout", none, []⟩,
    ⟨4, "a", "LinearLayout", some "b", []⟩, ⟨5, "ok", "Button", some "top", []⟩,
    ⟨6, "b", "LinearLayout", some "a", []⟩]

/-- The root of the tangled records. -/
def tangledRoot : ViewRecord := ⟨3, "top", "LinearLayout", none, []⟩

theorem search_and_walk_end_tangled :
    (tangledRecords.map (·.id)).Nodup ∧ tangledRoot ∈ tangledRecords ∧
    (ViewSearch.turns tangledRecords tangledRecords.length (.start tangledRoot)).pending = [] ∧
    reached tangledRecords tangledRoot = ["ok", "top"] ∧
    ∃ visited, Walks tangledRecords [tangledRoot] visited ∧ visited.Nodup := by
  have hids : (tangledRecords.map (·.id)).Nodup := by decide
  have hmem : tangledRoot ∈ tangledRecords := by simp [tangledRecords, tangledRoot]
  obtain ⟨hover, -, -, ⟨visited, hwalks⟩, hvisits⟩ := search_and_walk_end hids hmem rfl
  exact ⟨hids, hmem, hover, rfl, visited, hwalks, (hvisits visited hwalks).1⟩

end ViewTree

end BlockApp
