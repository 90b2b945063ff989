import BlockApp.Failure.Basic
import BlockApp.View.Component
import BlockApp.View.Section

/-!
# View trees

The views of a screen as a tree. A record names its parent, so the tree is grown from the one view
without a parent: the children of a view are the records that name it, in their order.

* `ViewNode.grow` takes the children of a view out of the records that are left. That loses none of
  the others: a record has one parent.
* `ViewSearch` looks for the views below the root: a pending view is met, and its children are pending. It does
  not look whether a view has been met before.
* `ViewTree.ofScreen` checks first that the names are distinct, that there is one root and that parents
  exist, and then that the search meets every record: a cycle of parents is out of reach.

Termination: `grow` goes on with fewer records when there is a child to go on with. A search is given as many
turns as there are records, and has none pending after them.
-/

namespace BlockApp

/-- A view with its children. -/
inductive ViewNode where
  | mk (record : ViewRecord) (children : List ViewNode)
  deriving Repr

/-- The views of a screen. -/
structure ViewTree where
  screen : String
  root : ViewNode
  deriving Repr

namespace ViewNode

/-- The record of a view. -/
def record : ViewNode → ViewRecord
  | mk record _ => record

/-- The children of a view. -/
def children : ViewNode → List ViewNode
  | mk _ children => children

mutual

/-- A view and the views in it, parents before children. -/
def walk : ViewNode → List ViewNode
  | mk record children => mk record children :: walkAll children

/-- Views and the views in them, in order. -/
def walkAll : List ViewNode → List ViewNode
  | [] => []
  | node :: nodes => node.walk ++ walkAll nodes

end

theorem walkAll_eq_flatMap (nodes : List ViewNode) : walkAll nodes = nodes.flatMap walk := by
  induction nodes with
  | nil => rfl
  | cons node nodes ih => rw [walkAll, List.flatMap_cons, ih]

/-- The identifiers of a view and of the views in it, in the order of `walk`. -/
def ids (node : ViewNode) : List String := node.walk.map (·.record.id)

/-- The records of a pool that name a parent. -/
def childrenIn (pool : List ViewRecord) (parent : String) : List ViewRecord :=
  pool.filter (·.parent == some parent)

/-- The records of a pool that do not name a parent. -/
def othersIn (pool : List ViewRecord) (parent : String) : List ViewRecord :=
  pool.filter (·.parent != some parent)

theorem length_othersIn_lt {pool : List ViewRecord} {parent : String} {child : ViewRecord}
    (h : child ∈ childrenIn pool parent) : (othersIn pool parent).length < pool.length := by
  rw [childrenIn, List.mem_filter] at h
  rw [othersIn, List.length_filter_lt_length_iff_exists]
  exact ⟨child, h.1, by simp [eq_of_beq h.2]⟩

/-- The tree of a record and the records below it in a pool. -/
def grow (pool : List ViewRecord) (record : ViewRecord) : ViewNode :=
  mk record ((childrenIn pool record.id).attach.map fun ⟨child, h⟩ =>
    have := length_othersIn_lt h
    grow (othersIn pool record.id) child)
  termination_by pool.length

end ViewNode

/-- A search for the views below a root: those met, the last one first, and those pending, the next one
first. -/
structure ViewSearch where
  met : List ViewRecord
  pending : List ViewRecord
  deriving Repr

namespace ViewSearch

/-- The search from a root. -/
def start (root : ViewRecord) : ViewSearch := ⟨[], [root]⟩

/-- One turn of a search. The next view is met, and its children are pending before all others, the last
child first. -/
def turn (records : List ViewRecord) : ViewSearch → ViewSearch
  | ⟨met, []⟩ => ⟨met, []⟩
  | ⟨met, view :: pending⟩ =>
    ⟨view :: met, (ViewNode.childrenIn records view.id).reverse ++ pending⟩

/-- Some turns of a search. -/
def turns (records : List ViewRecord) : Nat → ViewSearch → ViewSearch
  | 0, search => search
  | n + 1, search => turns records n (search.turn records)

end ViewSearch

namespace ViewTree

/-- The identifiers of the views that a search from a root meets. -/
def reached (records : List ViewRecord) (root : ViewRecord) : List String :=
  (ViewSearch.turns records records.length (ViewSearch.start root)).met.map (·.id)

/-- The views of a tree, parents before children. -/
def walk (tree : ViewTree) : List ViewNode := tree.root.walk

/-- The first record whose identifier one before it has. -/
def repeated? (seen : List String) : List ViewRecord → Option ViewRecord
  | [] => none
  | record :: records => if record.id ∈ seen then some record else repeated? (record.id :: seen) records

/-- The first record whose parent is not there. -/
def orphan? (records : List ViewRecord) : Option (ViewRecord × String) :=
  records.findSome? fun record =>
    record.parent.bind fun parent =>
      if parent ∈ records.map (·.id) then none else some (record, parent)

/-- The problem with the number of views in a view. -/
def overfull? (node : ViewNode) : Option ViewProblem := do
  let type ← Component.ofName? node.record.type
  let most ← type.mostChildren?
  if most < node.children.length then
    some (.tooManyChildren node.record.type node.children.length most)
  else none

/-- The first view of a tree that holds too many. -/
def firstOverfull? (root : ViewNode) : Option (String × ViewProblem) :=
  root.walk.findSome? fun node => (overfull? node).map (node.record.id, ·)

/-- The tree of records that have one root. -/
def ofRoot (screen : String) (records : List ViewRecord) (root : ViewRecord) :
    Except Failure ViewTree :=
  match orphan? records with
  | some (record, parent) => .error (.viewTree screen record.id (.noParent parent record.line))
  | none =>
    match (records.map (·.id)).filter (!(reached records root).contains ·) with
    | id :: ids => .error (.viewTree screen id (.unreachable (id :: ids)))
    | [] =>
      let node := ViewNode.grow records root
      match firstOverfull? node with
      | some (id, problem) => .error (.viewTree screen id problem)
      | none => .ok ⟨screen, node⟩

/-- The tree of the views of a screen. -/
def ofScreen (screen : ViewScreen) : Except Failure ViewTree :=
  match repeated? [] screen.records with
  | some record => .error (.viewTree screen.name record.id (.duplicateId record.line))
  | none =>
    match screen.records.filter (·.parent == none) with
    | [root] => ofRoot screen.name screen.records root
    | roots =>
      .error (.viewTree screen.name (",".intercalate (roots.map (·.id))) (.rootCount roots.length))

end ViewTree

/-- The views of every screen, in the order of the section. -/
def ViewSection.trees (view : ViewSection) : Except Failure (List ViewTree) :=
  view.screens.mapM ViewTree.ofScreen

end BlockApp
