import BlockApp.View.Tree
import Mathlib.Data.List.Nodup

/-!
# Views are met once

A view has one parent, so a tree that is grown from records meets each of them once at most: what is
reached from one child of a view is not reached from another.

* `ViewNode.Reaches` — the records below a record in a pool
* `ViewNode.nodup_records_grow` — a grown tree holds no record twice
* `ViewTree.ofScreen_eq_ok_iff` — when the records of a screen make a tree, and which
* `ViewTree.nodup_ids_of_ofScreen` — the identifiers of a tree are distinct
-/

namespace BlockApp

namespace ViewNode

/-- The records below a record in a pool, itself among them. -/
inductive Reaches (pool : List ViewRecord) (top : ViewRecord) : ViewRecord → Prop where
  | self : Reaches pool top top
  | child {record child : ViewRecord} (h : Reaches pool top record) (hmem : child ∈ pool)
      (hparent : child.parent = some record.id) : Reaches pool top child

/-- The records of a view and of the views in it, in the order of `walk`. -/
def records (node : ViewNode) : List ViewRecord := node.walk.map (·.record)

variable {pool others : List ViewRecord} {top first second record child x : ViewRecord}

theorem ids_eq_map_records (node : ViewNode) : node.ids = node.records.map (·.id) := by
  rw [ids, records, List.map_map]
  rfl

/-! ## What is reached -/

theorem mem_childrenIn_iff {parent : String} :
    child ∈ childrenIn pool parent ↔ child ∈ pool ∧ child.parent = some parent := by
  rw [childrenIn, List.mem_filter, beq_iff_eq]

theorem mem_othersIn_iff {parent : String} :
    child ∈ othersIn pool parent ↔ child ∈ pool ∧ child.parent ≠ some parent := by
  rw [othersIn, List.mem_filter, bne_iff_ne]

theorem Reaches.mono (h : Reaches others top x) (hsub : ∀ record ∈ others, record ∈ pool) :
    Reaches pool top x := by
  induction h with
  | self => exact .self
  | child _ hmem hparent ih => exact .child ih (hsub _ hmem) hparent

/-- What a child reaches, its parent reaches. -/
theorem Reaches.of_child (h : Reaches pool child x) (hmem : child ∈ pool)
    (hparent : child.parent = some record.id) : Reaches pool record x := by
  induction h with
  | self => exact .child .self hmem hparent
  | child _ hmem hparent ih => exact .child ih hmem hparent

theorem Reaches.eq_or_mem (h : Reaches pool top x) : x = top ∨ x ∈ pool := by
  cases h with
  | self => exact .inl rfl
  | child _ hmem _ => exact .inr hmem

/-- What a child reaches is in the pool that it was taken out of. -/
theorem Reaches.mem_of_mem_childrenIn {parent : String} (hchild : child ∈ childrenIn pool parent)
    (h : Reaches (othersIn pool parent) child x) : x ∈ pool := by
  rcases h.eq_or_mem with rfl | hmem
  · exact (mem_childrenIn_iff.1 hchild).1
  · exact (mem_othersIn_iff.1 hmem).1

/-- **What is reached from one child is not reached from another.** -/
theorem Reaches.eq_of_siblings {parent : String} (hids : (pool.map (·.id)).Nodup)
    (hfirst : first ∈ childrenIn pool parent) (hsecond : second ∈ childrenIn pool parent)
    (h : Reaches (othersIn pool parent) first x) (h' : Reaches (othersIn pool parent) second x) :
    first = second := by
  have hnot {child : ViewRecord} (hchild : child ∈ childrenIn pool parent) :
      child ∉ othersIn pool parent :=
    fun hmem => (mem_othersIn_iff.1 hmem).2 (mem_childrenIn_iff.1 hchild).2
  induction h with
  | self =>
    cases h' with
    | self => rfl
    | child _ hmem _ => exact absurd hmem (hnot hfirst)
  | child hreach hmem hparent ih =>
    cases h' with
    | self => exact absurd hmem (hnot hsecond)
    | child hreach' _ hparent' =>
      -- the parents of the record have one name, so they are one record
      have hid := Option.some.inj (hparent.symm.trans hparent')
      obtain rfl := List.inj_on_of_nodup_map hids (hreach.mem_of_mem_childrenIn hfirst)
        (hreach'.mem_of_mem_childrenIn hsecond) hid
      exact ih hreach'

/-! ## Grown trees -/

theorem grow_eq (pool : List ViewRecord) (record : ViewRecord) :
    grow pool record =
      mk record ((childrenIn pool record.id).map (grow (othersIn pool record.id))) := by
  rw [grow]
  simp only [List.map_attach_eq_pmap, List.pmap_eq_map]

theorem records_grow (pool : List ViewRecord) (record : ViewRecord) :
    (grow pool record).records =
      record :: (childrenIn pool record.id).flatMap fun child =>
        (grow (othersIn pool record.id) child).records := by
  rw [grow_eq, records, walk, walkAll_eq_flatMap, List.flatMap_map, List.map_cons, List.map_flatMap]
  rfl

/-- A grown tree holds what its root reaches. -/
theorem reaches_of_mem_records (h : x ∈ (grow pool record).records) : Reaches pool record x := by
  induction hsize : pool.length using Nat.strongRecOn generalizing pool record with
  | ind size ih =>
    rw [records_grow] at h
    rcases List.mem_cons.1 h with rfl | h
    · exact .self
    · obtain ⟨child, hchild, hx⟩ := List.mem_flatMap.1 h
      have hreaches := ih _ (hsize ▸ length_othersIn_lt hchild) hx rfl
      obtain ⟨hmem, hparent⟩ := mem_childrenIn_iff.1 hchild
      exact (hreaches.mono fun _ hother => (mem_othersIn_iff.1 hother).1).of_child hmem hparent

/-- **A grown tree holds no record twice**, if the records have distinct names and the root is no child
of one of them. -/
theorem nodup_records_grow (hids : (pool.map (·.id)).Nodup)
    (hroot : record ∈ pool → record.parent = none) : (grow pool record).records.Nodup := by
  induction hsize : pool.length using Nat.strongRecOn generalizing pool record with
  | ind size ih =>
    have hothers : ((othersIn pool record.id).map (·.id)).Nodup :=
      hids.sublist (List.filter_sublist.map _)
    rw [records_grow, List.nodup_cons, List.nodup_flatMap]
    refine ⟨fun hmem => ?_, fun child hchild => ?_, ?_⟩
    · obtain ⟨child, hchild, hrecord⟩ := List.mem_flatMap.1 hmem
      have hreaches := reaches_of_mem_records hrecord
      have hnone := hroot (hreaches.mem_of_mem_childrenIn hchild)
      cases hreaches with
      | self =>
        have hparent := (mem_childrenIn_iff.1 hchild).2
        rw [hnone] at hparent
        cases hparent
      | child _ _ hparent =>
        rw [hnone] at hparent
        cases hparent
    · refine ih _ (hsize ▸ length_othersIn_lt hchild) hothers (fun hmem => ?_) rfl
      exact absurd (mem_childrenIn_iff.1 hchild).2 (mem_othersIn_iff.1 hmem).2
    · refine (hids.of_map.filter _).pairwise_of_forall_ne fun first hfirst second hsecond hne => ?_
      intro x hx hx'
      exact hne (Reaches.eq_of_siblings hids hfirst hsecond (reaches_of_mem_records hx)
        (reaches_of_mem_records hx'))

/-- A tree that is grown from one of the records holds no name twice. -/
theorem nodup_ids_grow (hids : (pool.map (·.id)).Nodup) (hmem : record ∈ pool)
    (hroot : record.parent = none) : (grow pool record).ids.Nodup := by
  have hrecords : ∀ x ∈ (grow pool record).records, x ∈ pool := by
    intro x hx
    rcases (reaches_of_mem_records hx).eq_or_mem with rfl | hpool
    · exact hmem
    · exact hpool
  rw [ids_eq_map_records]
  refine (nodup_records_grow hids fun _ => hroot).map_on fun x hx y hy hid => ?_
  exact List.inj_on_of_nodup_map hids (hrecords x hx) (hrecords y hy) hid

end ViewNode

/-! ## Trees of screens -/

namespace ViewTree

variable {screen : ViewScreen} {tree : ViewTree}

/-- No identifier is met again if they are distinct and none of them was met before. -/
theorem repeated?_eq_none_iff {seen : List String} {records : List ViewRecord} :
    repeated? seen records = none ↔
      (records.map (·.id)).Nodup ∧ ∀ record ∈ records, record.id ∉ seen := by
  induction records generalizing seen with
  | nil => simp [repeated?]
  | cons record records ih =>
    rw [repeated?, List.map_cons, List.nodup_cons, List.forall_mem_cons]
    by_cases hseen : record.id ∈ seen
    · simp [hseen]
    · rw [if_neg hseen, ih]
      simp only [List.mem_cons, not_or, List.mem_map, not_exists, not_and]
      constructor
      · rintro ⟨hnodup, hall⟩
        exact ⟨⟨fun other hother => (hall other hother).1, hnodup⟩, hseen,
          fun other hother => (hall other hother).2⟩
      · rintro ⟨⟨hne, hnodup⟩, -, hall⟩
        exact ⟨hnodup, fun other hother => ⟨hne other hother, hall other hother⟩⟩

theorem ofRoot_eq_ok_iff {name : String} {records : List ViewRecord} {root : ViewRecord} :
    ofRoot name records root = .ok tree ↔
      orphan? records = none ∧
        (∀ record ∈ records, record.id ∈ reached records root) ∧
        firstOverfull? (ViewNode.grow records root) = none ∧
        tree = ⟨name, ViewNode.grow records root⟩ := by
  unfold ofRoot
  cases horphan : orphan? records with
  | some found => simp
  | none =>
    have hmissing : (records.map (·.id)).filter (!(reached records root).contains ·) = [] ↔
        ∀ record ∈ records, record.id ∈ reached records root := by
      simp [List.filter_eq_nil_iff]
    rw [← hmissing]
    simp only [true_and]
    cases (records.map (·.id)).filter (!(reached records root).contains ·) with
    | cons id ids => simp
    | nil =>
      cases firstOverfull? (ViewNode.grow records root) with
      | some found => simp
      | none => simp [eq_comm]

/-- **When the records of a screen make a tree**, and which. -/
theorem ofScreen_eq_ok_iff :
    ofScreen screen = .ok tree ↔
      (screen.records.map (·.id)).Nodup ∧
        ∃ root, screen.records.filter (·.parent == none) = [root] ∧
          ofRoot screen.name screen.records root = .ok tree := by
  unfold ofScreen
  cases hrepeated : repeated? [] screen.records with
  | some found =>
    have hnot := mt repeated?_eq_none_iff.2 (by rw [hrepeated]; simp)
    simp only [List.not_mem_nil, not_false_eq_true, implies_true, and_true] at hnot
    simp [hnot]
  | none =>
    have hnodup := (repeated?_eq_none_iff.1 hrepeated).1
    simp only [hnodup, true_and]
    split
    · next root hroot => exact ⟨fun h => ⟨root, hroot, h⟩, fun ⟨other, hother, h⟩ => by
        cases hroot.symm.trans hother
        exact h⟩
    · next hroots => exact iff_of_false nofun fun ⟨root, hroot, _⟩ => hroots root hroot

/-- The root of a tree is a record without a parent. -/
theorem root_mem_of_filter {records : List ViewRecord} {root : ViewRecord}
    (h : records.filter (·.parent == none) = [root]) : root ∈ records ∧ root.parent = none := by
  have hmem : root ∈ records.filter (·.parent == none) := h ▸ List.mem_singleton_self root
  rw [List.mem_filter, beq_iff_eq] at hmem
  exact hmem

/-- The views of a tree are the records of its screen. -/
theorem record_mem_of_ofScreen (h : ofScreen screen = .ok tree) {node : ViewNode}
    (hnode : node ∈ tree.walk) : node.record ∈ screen.records := by
  obtain ⟨-, root, hroot, h⟩ := ofScreen_eq_ok_iff.1 h
  obtain ⟨-, -, -, rfl⟩ := ofRoot_eq_ok_iff.1 h
  have hreaches := ViewNode.reaches_of_mem_records (List.mem_map_of_mem hnode)
  rcases hreaches.eq_or_mem with heq | hmem
  · rw [heq]
    exact (root_mem_of_filter hroot).1
  · exact hmem

end ViewTree

end BlockApp
