import BlockApp.Proofs.View.Tree
import Mathlib.Data.List.Perm.Subperm

/-!
# The search for the views below a root

A search does not look whether a view has been met before, and parents may lead in a cycle. It ends all the
same, as records have distinct names and the root has no parent. A view gets pending when its parent is met,
and it has one parent only: if its parent is met once, so is the view. That is an invariant of the turns, and
it bounds them by the number of records.

* `ViewSearch.OnCourse` — the invariant: no view twice, and the children of what is met are there
* `ViewSearch.OnCourse.turns` — a search keeps to it
* `ViewSearch.pending_eq_nil` — with as many turns as records, the search is over
* `ViewTree.mem_reached_iff` — the views met are those that the root reaches
-/

namespace BlockApp

open ViewNode

variable {records : List ViewRecord} {root view child record : ViewRecord} {search : ViewSearch}

namespace ViewSearch

/-- The views that a search has met and those that are pending. -/
def seen (search : ViewSearch) : List ViewRecord := search.met ++ search.pending

/-- What holds between the turns of a search from a root. A view that is there is the root or has a parent
that was met. -/
structure OnCourse (records : List ViewRecord) (root : ViewRecord) (search : ViewSearch) : Prop where
  nodup : search.seen.Nodup
  root_mem : root ∈ search.seen
  reaches : ∀ view ∈ search.seen, Reaches records root view
  origin : ∀ view ∈ search.seen, view = root ∨ ∃ parent ∈ search.met, view.parent = some parent.id
  children : ∀ view ∈ search.met, ∀ child ∈ childrenIn records view.id, child ∈ search.seen

/-! ## Turns -/

theorem turn_cons (records met pending : List ViewRecord) (view : ViewRecord) :
    turn records ⟨met, view :: pending⟩ =
      ⟨view :: met, (childrenIn records view.id).reverse ++ pending⟩ := rfl

/-- What is there after a turn is what was there before and the children of the view met. -/
theorem mem_seen_turn_iff {met pending : List ViewRecord} :
    record ∈ (turn records ⟨met, view :: pending⟩).seen ↔
      record ∈ (⟨met, view :: pending⟩ : ViewSearch).seen ∨ record ∈ childrenIn records view.id := by
  simp only [turn_cons, seen, List.mem_append, List.mem_cons, List.mem_reverse]
  constructor
  · rintro ((rfl | hmet) | (hchild | hpending))
    · exact .inl (.inr (.inl rfl))
    · exact .inl (.inl hmet)
    · exact .inr hchild
    · exact .inl (.inr (.inr hpending))
  · rintro ((hmet | (rfl | hpending)) | hchild)
    · exact .inl (.inr hmet)
    · exact .inl (.inl rfl)
    · exact .inr (.inr hpending)
    · exact .inr (.inl hchild)

theorem seen_turn_perm (records met pending : List ViewRecord) (view : ViewRecord) :
    (turn records ⟨met, view :: pending⟩).seen.Perm
      (childrenIn records view.id ++ (⟨met, view :: pending⟩ : ViewSearch).seen) := by
  have hmoved : (view :: met ++ ((childrenIn records view.id).reverse ++ pending)).Perm
      ((childrenIn records view.id).reverse ++ (view :: met ++ pending)) := by
    rw [← List.append_assoc, ← List.append_assoc]
    exact List.perm_append_comm.append_right pending
  have hback : (view :: met ++ pending).Perm (met ++ view :: pending) := List.perm_middle.symm
  exact hmoved.trans ((List.reverse_perm _).append hback)

theorem onCourse_start (records : List ViewRecord) (root : ViewRecord) : OnCourse records root (start root) where
  nodup := List.nodup_singleton root
  root_mem := List.mem_singleton_self root
  reaches := fun view hview => by
    rw [List.mem_singleton.1 hview]
    exact .self
  origin := fun view hview => .inl (List.mem_singleton.1 hview)
  children := fun view hview => absurd hview List.not_mem_nil

section Course

variable (hids : (records.map (·.id)).Nodup) (hmem : root ∈ records) (hnone : root.parent = none)

include hmem in
/-- What is there is one of the records. -/
theorem OnCourse.mem_records (h : OnCourse records root search) (hview : view ∈ search.seen) :
    view ∈ records := by
  rcases (h.reaches view hview).eq_or_mem with rfl | hrecord
  · exact hmem
  · exact hrecord

include hids hmem hnone

/-- **A child is not there before its parent is met.** -/
theorem OnCourse.child_not_mem {met pending : List ViewRecord}
    (h : OnCourse records root ⟨met, view :: pending⟩) (hchild : child ∈ childrenIn records view.id) :
    child ∉ (⟨met, view :: pending⟩ : ViewSearch).seen := by
  intro hseen
  have hparent : child.parent = some view.id := (mem_childrenIn_iff.1 hchild).2
  rcases h.origin child hseen with rfl | ⟨parent, hmet, hother⟩
  · rw [hnone] at hparent
    cases hparent
  · -- the parent that was met has the name of the view, so it is the view
    have hid : parent.id = view.id := Option.some.inj (hother.symm.trans hparent)
    have hview : view ∈ (⟨met, view :: pending⟩ : ViewSearch).seen :=
      List.mem_append_right met List.mem_cons_self
    obtain rfl := List.inj_on_of_nodup_map hids (h.mem_records hmem (List.mem_append_left _ hmet))
      (h.mem_records hmem hview) hid
    exact (List.nodup_append.1 h.nodup).2.2 parent hmet parent List.mem_cons_self rfl

/-- **A turn keeps a search on its course.** -/
theorem OnCourse.turn (h : OnCourse records root search) : OnCourse records root (search.turn records) := by
  obtain ⟨met, _ | ⟨view, pending⟩⟩ := search
  · exact h
  have hview : view ∈ (⟨met, view :: pending⟩ : ViewSearch).seen :=
    List.mem_append_right met List.mem_cons_self
  constructor
  case nodup =>
    rw [(seen_turn_perm records met pending view).nodup_iff, List.nodup_append]
    refine ⟨hids.of_map.filter _, h.nodup, fun first hfirst second hsecond heq => ?_⟩
    subst heq
    exact h.child_not_mem hids hmem hnone hfirst hsecond
  case root_mem => exact mem_seen_turn_iff.2 (.inl h.root_mem)
  case reaches =>
    intro record hrecord
    rcases mem_seen_turn_iff.1 hrecord with hseen | hchild
    · exact h.reaches record hseen
    · obtain ⟨hrecords, hparent⟩ := mem_childrenIn_iff.1 hchild
      exact .child (h.reaches view hview) hrecords hparent
  case origin =>
    intro record hrecord
    rcases mem_seen_turn_iff.1 hrecord with hseen | hchild
    · rcases h.origin record hseen with rfl | ⟨parent, hmet, hparent⟩
      · exact .inl rfl
      · exact .inr ⟨parent, List.mem_cons_of_mem view hmet, hparent⟩
    · exact .inr ⟨view, List.mem_cons_self, (mem_childrenIn_iff.1 hchild).2⟩
  case children =>
    intro parent hparent child hchild
    rcases List.mem_cons.1 hparent with rfl | hmet
    · exact mem_seen_turn_iff.2 (.inr hchild)
    · exact mem_seen_turn_iff.2 (.inl (h.children parent hmet child hchild))

theorem OnCourse.turns (h : OnCourse records root search) (n : Nat) :
    OnCourse records root (turns records n search) := by
  induction n generalizing search with
  | zero => exact h
  | succ n ih => exact ih (h.turn hids hmem hnone)

end Course

/-! ## The end of a search -/

/-- **What a search has met in the end is what the root reaches.** -/
theorem OnCourse.mem_met_iff (h : OnCourse records root search) (hover : search.pending = []) :
    record ∈ search.met ↔ Reaches records root record := by
  have hseen : search.seen = search.met := by rw [seen, hover, List.append_nil]
  constructor
  · intro hmet
    exact h.reaches record (hseen ▸ hmet)
  · intro hreaches
    induction hreaches with
    | self => exact hseen ▸ h.root_mem
    | child _ hchild hparent ih =>
      exact hseen ▸ h.children _ ih _ (mem_childrenIn_iff.2 ⟨hchild, hparent⟩)

/-- A search that is over stays as it is. -/
theorem turns_eq_self (h : search.pending = []) (n : Nat) : turns records n search = search := by
  obtain ⟨met, pending⟩ := search
  subst h
  induction n with
  | zero => rfl
  | succ n ih => exact ih

/-- Each turn meets a view unless the search is over. -/
theorem pending_eq_nil_or_length_met (records : List ViewRecord) (n : Nat) (search : ViewSearch) :
    (turns records n search).pending = [] ∨
      (turns records n search).met.length = search.met.length + n := by
  induction n generalizing search with
  | zero => exact .inr rfl
  | succ n ih =>
    obtain ⟨met, _ | ⟨view, pending⟩⟩ := search
    · exact .inl (congrArg ViewSearch.pending (turns_eq_self rfl (n + 1)))
    · rcases ih (turn records ⟨met, view :: pending⟩) with hover | hlength
      · exact .inl hover
      · refine .inr (hlength.trans ?_)
        change met.length + 1 + n = met.length + (n + 1)
        omega

section Over

variable (hids : (records.map (·.id)).Nodup) (hmem : root ∈ records) (hnone : root.parent = none)

include hids hmem hnone

/-- **With as many turns as records, a search is over**: another view would be one more than there are. -/
theorem pending_eq_nil : (turns records records.length (start root)).pending = [] := by
  have hcourse := (onCourse_start records root).turns hids hmem hnone records.length
  rcases pending_eq_nil_or_length_met records records.length (start root) with hover | hlength
  · exact hover
  · have hseen : (turns records records.length (start root)).seen.length ≤ records.length :=
      (hcourse.nodup.subperm fun view hview => hcourse.mem_records hmem hview).length_le
    rw [seen, List.length_append, hlength] at hseen
    exact List.eq_nil_of_length_eq_zero (by omega)

end Over

end ViewSearch

/-- The names that are met are those of what the root reaches. -/
theorem ViewTree.mem_reached_iff (hids : (records.map (·.id)).Nodup) (hmem : root ∈ records)
    (hnone : root.parent = none) {id : String} :
    id ∈ reached records root ↔ ∃ record, Reaches records root record ∧ record.id = id := by
  have hcourse := (ViewSearch.onCourse_start records root).turns hids hmem hnone records.length
  have hover := ViewSearch.pending_eq_nil hids hmem hnone
  rw [reached, List.mem_map]
  simp only [hcourse.mem_met_iff hover]

end BlockApp
