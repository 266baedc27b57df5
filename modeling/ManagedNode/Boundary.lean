import ManagedNode.State
import ManagedNode.Record

/-!
Boundaries: what a machine announces its transitions through.

* `Call`: the three things that a machine asks of its boundary.
* `Boundary`: a type of boundaries, with how one of them responds to a call and whether it
  serves requests. A boundary lives in a medium that it shares with others, such as the channels
  that its announcements travel on.
* `Silent`: the boundary that announces nothing.
-/

namespace ManagedNode

/-- What a boundary brings up. -/
inductive Mode
  /-- Announcements and the services. -/
  | full
  /-- Announcements alone. -/
  | publisherOnly
  deriving DecidableEq, Repr

/-- The word for a mode. -/
def Mode.name : Mode → String
  | full => "Full"
  | publisherOnly => "PublisherOnly"

/-- What a machine asks of its boundary. -/
inductive Call
  /-- Come up. -/
  | bringUp (mode : Mode)
  /-- Announce that the machine moved from one state to another. -/
  | announce (start goal : State)
  /-- Go down; safe also on a boundary that never came up. -/
  | tearDown
  deriving DecidableEq, Repr

/-- How a boundary responds to a call. -/
structure Reply (β μ : Type) where
  result : Except Fault Unit
  /-- The boundary afterwards, also when it refused. -/
  boundary : β
  /-- The medium afterwards. -/
  medium : μ
  /-- What the boundary wrote to the log. -/
  records : List Record := []

/-- The boundaries of type `β`, which share a medium of type `μ`. -/
class Boundary (β : Type) (μ : outParam Type) where
  /-- The response of a boundary to a call. -/
  respond : Call → β → μ → Reply β μ
  /-- Does the boundary serve requests? -/
  serving : β → Bool

/-! ### The silent boundary -/

/-- The boundary of a machine that nobody else watches. It only remembers whether its services
would be up. -/
structure Silent where
  services : Bool := false
  deriving DecidableEq, Repr, Inhabited

/-- A silent boundary grants every call. -/
def Silent.respond : Call → Silent → Unit → Reply Silent Unit
  | .bringUp mode, _, _ => { result := .ok (), boundary := ⟨mode == .full⟩, medium := () }
  | .announce _ _, b, _ => { result := .ok (), boundary := b, medium := () }
  | .tearDown, _, _ => { result := .ok (), boundary := ⟨false⟩, medium := () }

instance : Boundary Silent Unit := ⟨Silent.respond, Silent.services⟩

end ManagedNode
