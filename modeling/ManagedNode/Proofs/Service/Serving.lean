import ManagedNode.Proofs.Boundary.Broadcaster
import ManagedNode.Proofs.Machine.Request
import ManagedNode.Service

/-!
Machines that broadcast, and what a request to change their state comes to.

* `BroadcastMachine.Reachable`: the broadcasting machines that hosts can come by, where the
  boundary held may also be called or replaced in place. They are reachable machines
  (`Reachable.machine`), and their boundary is linked to the hub (`Reachable.linked`).
* `Shared.Serves`: the lock is granted, and the boundary held serves and sends on a channel of the
  hub. This is all that the services need of a machine.
* `Serves.changeState_hit`, `Serves.changeState_miss`, `Serves.changeState_unoccupied`: a request
  moves the machine along an edge and sends one notice of it, or changes nothing.
-/

namespace ManagedNode

namespace BroadcastMachine

variable {m : BroadcastMachine}

/-- The broadcasting machines that hosts can come by. -/
inductive Reachable : BroadcastMachine → Prop
  | zero (hub : Hub Notice) : Reachable { medium := hub }
  | perform {m : BroadcastMachine} (op : Machine.Operation Broadcaster) :
      Reachable m → (∀ b options, op = .bringUp b options → b.Reachable m.medium) →
      Reachable (m.perform op).machine
  /-- The topology is overwritten by a copy of another. -/
  | overwrite {m : BroadcastMachine} {topology : Topology} :
      Reachable m → topology.Reachable → Reachable (m.withTopology topology)
  /-- The boundary that is held is called in place. -/
  | call {m : BroadcastMachine} {o : Outcome Broadcaster (Hub Notice)} (call : Call) :
      Reachable m → m.callHeld call = some o → Reachable o.machine
  /-- The boundary that is held is replaced in place by another. -/
  | replace {m : BroadcastMachine} {b : Broadcaster} :
      Reachable m → b.Reachable m.medium → Reachable { m with boundary := m.boundary.map fun _ => b }
  /-- Others use the hub meanwhile, or let go of their channels in it. -/
  | meanwhile {m : BroadcastMachine} {hub : Hub Notice} :
      Reachable m → m.medium.Grows hub → Reachable { m with medium := hub }

/-- The boundary that is held is linked to the hub. -/
def Linked (m : BroadcastMachine) : Prop := ∀ b ∈ m.boundary, b.Linked m.medium

namespace Linked

lemma triggered {t : Transition} {announce : Bool} {o : Outcome Broadcaster (Hub Notice)}
    (h : Linked m) (ho : Machine.Triggered m t announce o) : Linked o.machine := by
  cases ho with
  | refused => exact h
  | unheld => exact h
  | quiet => exact h
  | announced he hb =>
      intro b' hb'
      cases hb'
      exact (h _ hb).respond _

lemma broughtUp {b : Broadcaster} {options : Options} {o : Outcome Broadcaster (Hub Notice)}
    (h : Linked m) (hb : b.Linked m.medium) (ho : Machine.BroughtUp m b options o) :
    Linked o.machine := by
  cases ho with
  | alreadyUp => exact h
  | boundaryFailed hnone => simp [Linked, hnone]
  | furnished hnone hreply hok hfurnished =>
      have hlinked := hb.respond (.bringUp options.mode)
      subst hreply
      cases hfurnished with
      | bare =>
          intro b' hb'
          cases hb'
          exact hlinked
      | loaded =>
          intro b' hb'
          cases hb'
          exact hlinked
      | abandoned => simp [Linked, Machine.abandon]

/-- The step: an operation leaves the boundary that is held linked, when the boundaries that are
handed to the machine are. -/
lemma perform (h : Linked m) (op : Machine.Operation Broadcaster)
    (hop : ∀ b options, op = .bringUp b options → b.Linked m.medium) :
    Linked (m.perform op).machine := by
  cases op with
  | bringUp b options => exact h.broughtUp (hop b options rfl) (m.broughtUp b options)
  | trigger t announce => exact h.triggered (m.triggered t announce)
  | request q announce =>
      exact Machine.request_induction (P := Linked) h fun t => h.triggered (m.triggered t announce)
  | tearDown => simp [Linked, Machine.perform, m.boundary_tearDown]
  | loadStandard | occupy | edit =>
      exact Machine.inward_induction (P := Linked) rfl fun _ _ => h

end Linked

namespace Reachable

/-- The run: a reachable machine holds no boundary, or one that is linked to the hub. -/
lemma linked (h : Reachable m) : Linked m := by
  induction h with
  | zero hub => simp [Linked]
  | perform op _ hop ih => exact ih.perform op fun b options hb => (hop b options hb).linked
  | overwrite _ _ ih => exact ih
  | call call _ hcall ih =>
      obtain ⟨b, hb, rfl⟩ := Option.map_eq_some_iff.mp hcall
      intro b' hb'
      cases hb'
      exact (ih b hb).respond call
  | replace _ hb ih =>
      intro b' hb'
      obtain ⟨-, -, rfl⟩ := Option.map_eq_some_iff.mp hb'
      exact hb.linked
  | meanwhile _ hgrows ih => exact fun b hb => (ih b hb).mono hgrows

/-- A reachable broadcasting machine is a reachable machine: what is done to its boundary and to
the hub from outside is a disturbance. -/
lemma machine (h : Reachable m) : Machine.Reachable m := by
  induction h with
  | zero hub => exact .zero hub
  | perform op _ _ ih => exact ih.perform op
  | overwrite _ ht ih => exact ih.overwrite ht
  | call _ _ hcall ih => exact ih.callHeld hcall
  | replace _ _ ih => exact ih.disturb _ _
  | @meanwhile m hub _ _ ih => simpa using ih.disturb id hub

end Reachable

/-- Everything sent so far on the channel of the boundary that is held. -/
def sent (m : BroadcastMachine) : List Notice :=
  ((m.boundary.bind Broadcaster.publisher).map m.medium.sentOn).getD []

/-- The machine moved from one state to another, after a notice of the move has been sent on a
channel. -/
def announced (m : BroadcastMachine) (channel : ChannelId) (start goal : State) :
    BroadcastMachine :=
  { m.moveTo goal with medium := m.medium.send channel (.between start goal) }

/-- A boundary with a publisher announces a move without fail, and stays as it is. -/
lemma moveAnnounced_of_publisher {b : Broadcaster} {channel : ChannelId}
    (hb : m.boundary = some b) (hp : b.publisher = some channel) (t : Transition)
    (start goal : State) :
    (m.moveAnnounced t start goal b).result = .ok () ∧
      (m.moveAnnounced t start goal b).machine = m.announced channel start goal := by
  have hreply : Boundary.respond (.announce start goal) b m.medium = _ :=
    Broadcaster.announce_of_publisher hp start goal m.medium
  simp only [Machine.moveAnnounced, hreply, announced, Machine.moveTo, hb, and_self]

end BroadcastMachine

/-! ### Shared machines -/

namespace Shared

variable {s : Shared} {b : Broadcaster} {channel : ChannelId} {occupied : State} {q : Selector}
  {t : Transition}

/-- The lock is granted, and the boundary held serves and sends on this channel of the hub. -/
structure Serves (s : Shared) (b : Broadcaster) (channel : ChannelId) : Prop where
  unpoisoned : s.poisoned = false
  boundary_eq : s.machine.boundary = some b
  serving : b.serving = true
  publisher_eq : b.publisher = some channel
  lt_length : channel < s.machine.medium.channels.length
  wellFormed : s.machine.topology.WellFormed

/-- The services of a reachable machine have a channel to announce on. -/
lemma exists_serves (h : s.machine.Reachable) (hpoisoned : s.poisoned = false)
    (hserving : s.machine.boundary.any Broadcaster.serving = true) :
    ∃ b channel, s.Serves b channel := by
  obtain ⟨b, hb, hup⟩ := (Option.any_eq_true ..).mp hserving
  have hlinked := h.linked b hb
  obtain ⟨channel, hchannel, hlt⟩ := hlinked.exists_publisher hup
  exact ⟨b, channel, hpoisoned, hb, hup, hchannel, hlt, h.machine.wellFormed⟩

namespace Serves

lemma gate_eq (h : s.Serves b channel) : s.gate = .ok s.machine := by
  simp [gate, h.unpoisoned, h.boundary_eq, h.serving]

lemma sent_eq (h : s.Serves b channel) :
    s.machine.sent = s.machine.medium.sentOn channel := by
  simp [BroadcastMachine.sent, h.boundary_eq, h.publisher_eq]

/-- The state that is answered is the one occupied. -/
lemma currentState_eq (h : s.Serves b channel) (hs : s.machine.current? = some occupied) :
    s.currentState = .ok occupied.description := by
  rw [currentState, h.gate_eq]
  simp only [bind, Except.bind, hs]
  rfl

/-- The services still answer after a move that was announced. -/
lemma announced (h : s.Serves b channel) (start goal : State) :
    Serves { s with machine := s.machine.announced channel start goal } b channel where
  unpoisoned := h.unpoisoned
  boundary_eq := h.boundary_eq
  serving := h.serving
  publisher_eq := h.publisher_eq
  lt_length := by
    calc channel < s.machine.medium.channels.length := h.lt_length
      _ ≤ (s.machine.medium.send channel (.between start goal)).channels.length :=
        Hub.grows_modify _
  wellFormed := h.wellFormed

/-- One notice is sent of a move that was announced. -/
lemma sent_announced (h : s.Serves b channel) (start goal : State) :
    (s.machine.announced channel start goal).sent =
      s.machine.sent ++ [.between start goal] := by
  rw [(h.announced start goal).sent_eq, h.sent_eq]
  exact Hub.sentOn_send h.lt_length

/-- The services still answer when the topology has grown. -/
lemma withTopology {topology : Topology} (h : s.Serves b channel)
    (hgrows : s.machine.topology.Grows topology) :
    Serves { s with machine := s.machine.withTopology topology } b channel where
  unpoisoned := h.unpoisoned
  boundary_eq := h.boundary_eq
  serving := h.serving
  publisher_eq := h.publisher_eq
  lt_length := h.lt_length
  wellFormed := h.wellFormed.grows hgrows

/-- Without a present state a request is refused and changes nothing. -/
lemma changeState_unoccupied (h : s.Serves b channel) (hs : s.machine.current? = none) :
    (s.changeState q).shared = s ∧ (s.changeState q).verdict = .refused .noCurrentState := by
  rw [changeState, h.gate_eq]
  simp [Machine.request_of_none hs, Machine.refuse, Verdict.ofTrigger, hs]

/-- A request for which nothing leaves the present state is refused and changes nothing. -/
lemma changeState_miss (h : s.Serves b channel) (hs : s.machine.current? = some occupied)
    (hfind : occupied.find? q = none) :
    (s.changeState q).shared = s ∧
      (s.changeState q).verdict = .refused (occupied.missFault q) := by
  rw [changeState, h.gate_eq]
  simp [Machine.request_of_miss hs hfind, Verdict.ofTrigger, hs]

/-- A request moves the machine along the first edge that it asks for, and announces that. -/
lemma changeState_hit (h : s.Serves b channel) (hs : s.machine.current? = some occupied)
    (hfind : occupied.find? q = some t) :
    ∃ goal, s.machine.topology.Edge occupied t goal ∧
      (s.changeState q).verdict = ⟨true, "transition ok -> " ++ goal.label⟩ ∧
      (s.changeState q).shared =
        { s with machine := s.machine.announced channel occupied goal } ∧
      (s.changeState q).shared.machine.current? = some goal := by
  obtain ⟨goal, hedge⟩ := Machine.exists_edge_of_find? h.wellFormed hs hfind
  have htaken : s.machine.request q true = s.machine.moveAnnounced t occupied goal b :=
    (Machine.request_of_find? hs hfind).trans (Machine.trigger_of_edge hedge h.boundary_eq)
  obtain ⟨hresult, hmachine⟩ := BroadcastMachine.moveAnnounced_of_publisher h.boundary_eq
    h.publisher_eq t occupied goal
  have hcurrent : (s.machine.announced channel occupied goal).current? = some goal :=
    Machine.current?_moveTo hedge.goal_eq
  refine ⟨goal, hedge, ?_⟩
  rw [changeState, h.gate_eq]
  simp only [htaken, hresult, hmachine, hcurrent, Verdict.ofTrigger]
  exact ⟨rfl, trivial, trivial⟩

end Serves

end Shared

end ManagedNode
