import ManagedNode.Machine.Outcome

/-!
The beginning and the end of a machine's life.

* `Machine.bringUp`: the boundary comes up first, and nothing else is built if it refuses. The
  standard lifecycle is loaded next, if asked for; a refusal there takes everything down again.
* `Machine.tearDown`: the boundary goes down, then everything else, whatever the boundary says.
-/

namespace ManagedNode

/-- What a boundary is to bring up under these options. -/
def Options.mode (o : Options) : Mode := if o.services then .full else .publisherOnly

namespace Machine

variable {β μ : Type} [Boundary β μ]

/-- Give up on a machine whose boundary is up, but whose topology could not be built for the
reason `fault`. A boundary that also fails to go down adds its own fault. -/
def abandon (m : Machine β μ) (b : β) (fault : Fault) : Outcome β μ :=
  let reply := Boundary.respond .tearDown b m.medium
  { result := .error (match reply.result with
      | .ok () => fault
      | .error secondary => fault.unwinding secondary)
    machine := { m with
      topology := m.topology.clear, handle := none, boundary := none, medium := reply.medium }
    trace := [reply.event .tearDown] }

/-- The machine that holds a boundary as it answered to coming up, under these options. -/
def holding (m : Machine β μ) (reply : Reply β μ) (options : Options) : Machine β μ :=
  { m with boundary := some reply.boundary, options, medium := reply.medium }

/-- Build what the options of a machine ask for, once its boundary `b` is up. -/
def furnish (m : Machine β μ) (b : β) : Outcome β μ :=
  if m.options.standardStates then
    match m.loadStandard with
    | (.ok (), started) => { result := .ok (), machine := started }
    | (.error fault, failed) => failed.abandon b fault
  else { result := .ok (), machine := m }

/-- Bring the machine up with a boundary. A machine that holds one already refuses, and does
not touch the new one. -/
def bringUp (m : Machine β μ) (b : β) (options : Options) : Outcome β μ :=
  if m.boundary.isSome then m.refuse .alreadyUp
  else
    let call := Call.bringUp options.mode
    let reply := Boundary.respond call b m.medium
    match reply.result with
    | .error fault =>
        { result := .error fault
          machine := { m with medium := reply.medium }
          trace := [reply.event call] }
    | .ok () =>
        let furnished := (m.holding reply options).furnish reply.boundary
        { furnished with trace := reply.event call :: furnished.trace }

/-- The record of a boundary that failed to go down. -/
def tearDownRecord (fault : Fault) : Record :=
  ⟨.error, s!"failed to finalize lifecycle com interface: {fault.display}", []⟩

/-- The machine with nothing in it, in the next generation. -/
def emptied (m : Machine β μ) : Machine β μ :=
  { topology := m.topology.clear, medium := m.medium }

/-- Take the machine down. Everything goes, also when the boundary fails; its fault is logged
and is the result. Safe on a machine that was never brought up. -/
def tearDown (m : Machine β μ) : Outcome β μ :=
  match m.boundary with
  | none => { result := .ok (), machine := m.emptied }
  | some b =>
      let reply := Boundary.respond .tearDown b m.medium
      { result := reply.result
        machine := { m.emptied with medium := reply.medium }
        trace := reply.event .tearDown :: (match reply.result with
          | .ok () => []
          | .error fault => [.wrote (tearDownRecord fault)]) }

end Machine

end ManagedNode
