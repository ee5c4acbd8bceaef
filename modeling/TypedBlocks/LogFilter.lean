/-!
# The level filter of log records

Records of the editor's own parts pass at every level while it is under development; all others pass
from `info` upwards.
-/

namespace TypedBlocks

/-- How grave a log record is, the gravest first. -/
inductive Level where
  | error
  | warn
  | info
  | debug
  | trace
  deriving DecidableEq

/-- Position of a level, the gravest at zero. -/
def Level.rank : Level → Nat
  | .error => 0
  | .warn => 1
  | .info => 2
  | .debug => 3
  | .trace => 4

namespace LogFilter

/-- What the targets of the editor's own parts begin with. -/
def ownTarget : String := "blockwire"

/-- The least grave level that passes for a target. -/
def limit (development : Bool) (target : String) : Level :=
  if development ∧ ownTarget.toList <+: target.toList then .trace else .info

/-- Does a record pass? -/
def admits (development : Bool) (target : String) (level : Level) : Bool :=
  level.rank ≤ (limit development target).rank

end LogFilter

end TypedBlocks
