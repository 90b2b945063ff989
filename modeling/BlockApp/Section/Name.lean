/-!
# The six sections

Every project consists of six sections. They are written, checked and decrypted in the order of
`SectionName.all`.
-/

namespace BlockApp

/-- A section of a project. -/
inductive SectionName where
  | logic
  | view
  | file
  | library
  | resource
  | project
  deriving Repr, DecidableEq

namespace SectionName

/-- The sections in their order. -/
def all : List SectionName := [.logic, .view, .file, .library, .resource, .project]

/-- The name of a section in containers, folders and messages. -/
def name : SectionName → String
  | .logic => "logic"
  | .view => "view"
  | .file => "file"
  | .library => "library"
  | .resource => "resource"
  | .project => "project"

/-- The section of a name. -/
def ofName? (name : String) : Option SectionName := all.find? (·.name == name)

theorem mem_all (s : SectionName) : s ∈ all := by cases s <;> decide

theorem ofName?_name (s : SectionName) : ofName? s.name = some s := by cases s <;> decide

theorem name_injective {s t : SectionName} (h : s.name = t.name) : s = t := by
  have := ofName?_name s
  rw [h, ofName?_name] at this
  exact (Option.some.inj this).symm

end SectionName

/-- One value for every section. -/
structure Sections (α : Type) where
  logic : α
  view : α
  file : α
  library : α
  resource : α
  project : α
  deriving Repr, DecidableEq

namespace Sections

variable {α β ε : Type}

/-- The value of a section. -/
def get (sections : Sections α) : SectionName → α
  | .logic => sections.logic
  | .view => sections.view
  | .file => sections.file
  | .library => sections.library
  | .resource => sections.resource
  | .project => sections.project

/-- The values made by a function, section by section in their order; the first failure wins. -/
def build (f : SectionName → Except ε α) : Except ε (Sections α) := do
  let logic ← f .logic
  let view ← f .view
  let file ← f .file
  let library ← f .library
  let resource ← f .resource
  let project ← f .project
  return ⟨logic, view, file, library, resource, project⟩

/-- The sections in their order with their values. -/
def toList (sections : Sections α) : List (SectionName × α) :=
  SectionName.all.map fun name => (name, sections.get name)

/-- A function on every value. -/
def map (f : α → β) (sections : Sections α) : Sections β :=
  ⟨f sections.logic, f sections.view, f sections.file, f sections.library, f sections.resource,
    f sections.project⟩

@[simp] theorem get_map (f : α → β) (sections : Sections α) (name : SectionName) :
    (sections.map f).get name = f (sections.get name) := by
  cases name <;> rfl

theorem ext_get {s t : Sections α} (h : ∀ name, s.get name = t.get name) : s = t := by
  cases s
  cases t
  simpa [get] using
    And.intro (h .logic) (And.intro (h .view) (And.intro (h .file) (And.intro (h .library)
      (And.intro (h .resource) (h .project)))))

/-- Values are built exactly when each of them is. -/
theorem build_eq_ok_iff {f : SectionName → Except ε α} {sections : Sections α} :
    build f = .ok sections ↔ ∀ name, f name = .ok (sections.get name) := by
  constructor
  · intro h name
    simp only [build] at h
    cases h₁ : f .logic with
    | error e => simp [h₁, bind, Except.bind] at h
    | ok logic =>
      cases h₂ : f .view with
      | error e => simp [h₁, h₂, bind, Except.bind] at h
      | ok view =>
        cases h₃ : f .file with
        | error e => simp [h₁, h₂, h₃, bind, Except.bind] at h
        | ok file =>
          cases h₄ : f .library with
          | error e => simp [h₁, h₂, h₃, h₄, bind, Except.bind] at h
          | ok library =>
            cases h₅ : f .resource with
            | error e => simp [h₁, h₂, h₃, h₄, h₅, bind, Except.bind] at h
            | ok resource =>
              cases h₆ : f .project with
              | error e => simp [h₁, h₂, h₃, h₄, h₅, h₆, bind, Except.bind] at h
              | ok project =>
                simp only [h₁, h₂, h₃, h₄, h₅, h₆, bind, Except.bind, pure, Except.pure,
                  Except.ok.injEq] at h
                subst h
                cases name <;> assumption
  · intro h
    simp [build, h .logic, h .view, h .file, h .library, h .resource, h .project, get, bind,
      Except.bind, pure, Except.pure]

end Sections

end BlockApp
