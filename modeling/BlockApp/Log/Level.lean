/-!
# Log levels
-/

namespace BlockApp

/-- How serious an event is. -/
inductive LogLevel where
  | debug
  | info
  | warning
  | error
  | critical
  deriving Repr, DecidableEq

namespace LogLevel

/-- The place of a level in the order of levels. -/
def rank : LogLevel → Nat
  | .debug => 0
  | .info => 1
  | .warning => 2
  | .error => 3
  | .critical => 4

/-- The name of a level. -/
def name : LogLevel → String
  | .debug => "DEBUG"
  | .info => "INFO"
  | .warning => "WARNING"
  | .error => "ERROR"
  | .critical => "CRITICAL"

/-- Levels are ordered by how serious they are. -/
instance : LE LogLevel := ⟨fun a b => a.rank ≤ b.rank⟩

instance (a b : LogLevel) : Decidable (a ≤ b) := inferInstanceAs (Decidable (a.rank ≤ b.rank))

end LogLevel

end BlockApp
