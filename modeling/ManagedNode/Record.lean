import ManagedNode.Fault

/-!
Log records: a level, a text and named fields. Operations that log answer with the records
that they wrote, in order.

* `Record`, with the `Level` at which it is written and the `FieldValue`s that it carries.
* `Fault.report`: the record of a fault that is absorbed rather than passed on.
-/

namespace ManagedNode

/-- How loudly a record is written. -/
inductive Level
  | trace
  | debug
  | info
  | warn
  | error
  deriving DecidableEq, Repr, Inhabited

/-- The word for a level. -/
def Level.name : Level → String
  | trace => "TRACE"
  | debug => "DEBUG"
  | info => "INFO"
  | warn => "WARN"
  | error => "ERROR"

/-- What the field of a record may hold. -/
inductive FieldValue
  | text (s : String)
  | count (n : Nat)
  | flag (b : Bool)
  deriving DecidableEq, Repr

/-- One entry of the log. -/
structure Record where
  level : Level
  message : String
  fields : List (String × FieldValue) := []
  deriving DecidableEq, Repr

/-- The level at which a fault is reported; a fatal fault has no level of its own. -/
def Severity.level : Severity → Level
  | .trace => .trace
  | .debug => .debug
  | .info => .info
  | .warn => .warn
  | .error | .fatal => .error

/-- The record of a fault, with its subsystem and its kind as fields. -/
def Fault.report (f : Fault) : Record where
  level := f.severity.level
  message := f.message
  fields := [("domain", .text f.subsystem.name), ("kind", .text f.kind.name)]

end ManagedNode
