/-!
Faults: what a refused operation answers with, and how two faults met on one path become one.

* `Severity`, with its order: how loudly a fault is reported.
* `Fault`: subsystem, kind, severity, message and a `Payload` of ids or context.
* `Fault.unwinding`: a fault met while cleaning up after another one is kept inside it, so
  that neither text is lost; `Fault.secondary?` takes it out again.
-/

namespace ManagedNode

/-- The number of a lifecycle state. -/
abbrev StateId := UInt8

/-- The number of a lifecycle transition. -/
abbrev TransitionId := UInt8

/-! ### Severity -/

/-- How loudly a fault is reported, from the faintest to the worst. -/
inductive Severity
  | trace
  | debug
  | info
  | warn
  | error
  | fatal
  deriving DecidableEq, Repr, Inhabited

namespace Severity

/-- The place of a severity, counted from the faintest. -/
def rank : Severity → Nat
  | trace => 0
  | debug => 1
  | info => 2
  | warn => 3
  | error => 4
  | fatal => 5

instance : LE Severity := ⟨fun a b => a.rank ≤ b.rank⟩

instance (a b : Severity) : Decidable (a ≤ b) := inferInstanceAs (Decidable (a.rank ≤ b.rank))

instance : Max Severity := maxOfLe

instance : Ord Severity := ⟨fun a b => compare a.rank b.rank⟩

/-- The word for a severity, as it opens the text of a fault. -/
def name : Severity → String
  | trace => "Trace"
  | debug => "Debug"
  | info => "Info"
  | warn => "Warn"
  | error => "Error"
  | fatal => "Fatal"

theorem le_def {a b : Severity} : a ≤ b ↔ a.rank ≤ b.rank := Iff.rfl

theorem max_def (a b : Severity) : max a b = if a ≤ b then b else a := rfl

end Severity

/-! ### Subsystem and kind -/

/-- The part of the engine that raised a fault. -/
inductive Subsystem
  /-- Bringing a machine up, triggering it, tearing it down. -/
  | lifecycle
  /-- Registering and looking up states and transitions. -/
  | registry
  /-- Announcing transitions and serving requests. -/
  | communication
  | other
  deriving DecidableEq, Repr, Inhabited

/-- The word for a subsystem. -/
def Subsystem.name : Subsystem → String
  | lifecycle => "Lifecycle"
  | registry => "Registry"
  | communication => "Communication"
  | other => "Other"

/-- What went wrong, apart from where. -/
inductive FaultKind
  /-- A malformed value, or a transition that cannot be resolved. -/
  | invalidArgument
  /-- Storage could not grow. -/
  | storageExhausted
  | stateAlreadyRegistered
  | stateNotRegistered
  /-- A lookup found nothing, and the miss has to travel as a fault. -/
  | notFound
  /-- The operation does not fit the present condition of its target. -/
  | invalidState
  /-- An announcement could not be carried to its receiver. -/
  | transport
  | unspecified
  deriving DecidableEq, Repr, Inhabited

/-- The word for a kind. -/
def FaultKind.name : FaultKind → String
  | invalidArgument => "InvalidArgument"
  | storageExhausted => "BadAlloc"
  | stateAlreadyRegistered => "StateAlreadyRegistered"
  | stateNotRegistered => "StateNotRegistered"
  | notFound => "NotFound"
  | invalidState => "InvalidState"
  | transport => "Transport"
  | unspecified => "Unspecified"

/-! ### Faults -/

mutual

/-- The ids or the context that a fault carries beside its text. -/
inductive Payload
  | nothing
  | context (key value : String)
  | state (id : StateId)
  | transition (id : TransitionId)
  /-- A transition asked for in a state that it does not leave. -/
  | edge (origin : StateId) (via : TransitionId)
  /-- The fault that cleaning up after this one ran into. -/
  | unwind (secondary : Fault)

/-- A refusal: where it came from, what it is, how bad it is, and its text. -/
structure Fault where
  subsystem : Subsystem
  kind : FaultKind
  severity : Severity
  message : String
  payload : Payload

end

deriving instance DecidableEq for Fault, Payload

instance : Inhabited Payload := ⟨.nothing⟩

namespace Fault

/-- A fault of which only the severity is settled; the fields left open are `other`,
`unspecified`, the empty text and no payload. -/
def draft (severity : Severity) : Fault :=
  ⟨.other, .unspecified, severity, "", .nothing⟩

instance : Inhabited Fault := ⟨draft .error⟩

/-- The text of a fault with its severity in front. -/
def display (f : Fault) : String := s!"{f.severity.name}: {f.message}"

/-- The fault `primary`, whose clean-up ran into `secondary`. Subsystem and kind stay those of
the primary; the louder of the two severities is kept, since the clean-up may have done worse
than the operation; both texts are kept in order, and the secondary fault whole. -/
def unwinding (primary secondary : Fault) : Fault where
  subsystem := primary.subsystem
  kind := primary.kind
  severity := max primary.severity secondary.severity
  message := s!"{primary.message}, while unwinding: {secondary.message}"
  payload := .unwind secondary

/-- The fault met while unwinding this one, if there was one. -/
def secondary? (f : Fault) : Option Fault :=
  match f.payload with
  | .unwind inner => some inner
  | _ => none

variable (p s : Fault)

@[simp] theorem subsystem_unwinding : (p.unwinding s).subsystem = p.subsystem := rfl

@[simp] theorem kind_unwinding : (p.unwinding s).kind = p.kind := rfl

@[simp] theorem severity_unwinding :
    (p.unwinding s).severity = max p.severity s.severity := rfl

@[simp] theorem secondary?_unwinding : (p.unwinding s).secondary? = some s := rfl

end Fault

end ManagedNode
