import ManagedNode.Machine

/-!
Outcomes: what an operation on a machine answers, leaves behind and shows to others.

* `Event`: a record that the machine wrote, or a call that it made of a boundary.
* `Outcome`: the result, the machine afterwards, and the trace of events in their order.
* `Machine.callHeld`: a call made straight to the boundary that the machine holds.
-/

namespace ManagedNode

/-- Something that others can see of an operation. -/
inductive Event
  /-- The machine wrote a record. -/
  | wrote (record : Record)
  /-- The machine called a boundary, which answered so and wrote these records. -/
  | called (call : Call) (result : Except Fault Unit) (records : List Record)

/-- The records that an event adds to the log. -/
def Event.records : Event → List Record
  | wrote record => [record]
  | called _ _ records => records

/-- The call of an event, if it is one. -/
def Event.call? : Event → Option Call
  | wrote _ => none
  | called call _ _ => some call

/-- The event of a call that was answered with this reply. -/
def Reply.event {β μ : Type} (r : Reply β μ) (call : Call) : Event :=
  .called call r.result r.records

/-- What an operation on a machine answers, leaves and shows. -/
structure Outcome (β μ : Type) where
  result : Except Fault Unit
  /-- The machine afterwards, also when the operation was refused. -/
  machine : Machine β μ
  trace : List Event := []

/-- The log of a trace. -/
def Event.log (trace : List Event) : List Record := trace.flatMap Event.records

/-- The calls of a trace, in their order. -/
def Event.calls (trace : List Event) : List Call := trace.filterMap Event.call?

namespace Machine

variable {β μ : Type}

/-- The outcome of an operation that is refused before anything happens. -/
def refuse (m : Machine β μ) (fault : Fault) : Outcome β μ :=
  { result := .error fault, machine := m }

/-- Call the boundary held, if there is one. -/
def callHeld [Boundary β μ] (m : Machine β μ) (call : Call) : Option (Outcome β μ) :=
  m.boundary.map fun b =>
    let reply := Boundary.respond call b m.medium
    { result := reply.result
      machine := { m with boundary := some reply.boundary, medium := reply.medium }
      trace := [reply.event call] }

end Machine

end ManagedNode
