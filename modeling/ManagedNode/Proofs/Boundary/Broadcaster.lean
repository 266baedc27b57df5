import Mathlib.Order.Basic
import ManagedNode.Boundary.Broadcaster

/-!
What a broadcaster keeps, in whatever order it is called.

* `Hub.sentOn`: what was sent on one channel so far. Sending adds one event at its end, on an
  open channel as on a closed one (`Hub.sentOn_send`).
* `Broadcaster.Reachable`: the broadcasters of a process, with the hub that they share.
* `Broadcaster.Linked`: services are up only beside a publisher, and a publisher is a channel of
  the hub. Every response keeps this (`Linked.respond`), so that a broadcaster that serves
  announces without fail (`Linked.exists_publisher`).
-/

namespace ManagedNode

/-! ### Hubs -/

namespace Hub

variable {α : Type} {h h' : Hub α} {id : ChannelId} {a : α}

/-- Everything sent so far on a channel, closed or not. -/
def sentOn (h : Hub α) (id : ChannelId) : List α :=
  ((h.channel? id).map fun c => c.sent.toList).getD []

/-- The other hub has no fewer channels, so that every number given out is still good. -/
def Grows (h h' : Hub α) : Prop := h.channels.length ≤ h'.channels.length

lemma grows_modify (f : Channel α → Channel α) : h.Grows (h.modify id f) := by
  simp [Grows, modify]

lemma grows_establish (capacity : Nat) : h.Grows (h.establish capacity) := by
  simp [Grows, establish]

/-- An event that is sent comes after all others. -/
lemma sentOn_send (hid : id < h.channels.length) :
    (h.send id a).sentOn id = h.sentOn id ++ [a] := by
  simp [sentOn, send, modify, channel?, Channel.send, List.getElem?_eq_getElem hid]

end Hub

/-! ### Broadcasters -/

namespace Broadcaster

variable {b : Broadcaster} {h h' : Hub Notice}

/-- The broadcasters that can be come by, each in a hub where it is used. -/
inductive Reachable : Broadcaster → Hub Notice → Prop
  | ofNode (node : String) (h : Hub Notice) : Reachable { node } h
  | respond {b : Broadcaster} {h : Hub Notice} (call : Call) :
      Reachable b h → Reachable (b.respond call h).boundary (b.respond call h).medium
  /-- Others use the hub meanwhile. -/
  | meanwhile {b : Broadcaster} {h h' : Hub Notice} :
      Reachable b h → h.Grows h' → Reachable b h'

/-- The invariant of a broadcaster in its hub. -/
structure Linked (b : Broadcaster) (h : Hub Notice) : Prop where
  isSome_publisher : b.serving = true → b.publisher.isSome = true
  lt_length : ∀ channel ∈ b.publisher, channel < h.channels.length

/-- Coming up is refused and changes nothing, or opens the next channel of the hub. -/
lemma bringUp_cases (b : Broadcaster) (mode : Mode) (h : Hub Notice) :
    (∃ fault, b.bringUp mode h = { result := .error fault, boundary := b, medium := h }) ∨
      b.bringUp mode h =
        { result := .ok ()
          boundary := { b with publisher := some h.nextId, services := b.servicesAfter mode }
          medium := h.establish channelCapacity
          records := [b.upRecord (b.servicesAfter mode).isSome] } := by
  rw [bringUp]
  split_ifs
  · exact Or.inl ⟨_, rfl⟩
  · exact Or.inl ⟨_, rfl⟩
  · exact Or.inr rfl

/-- Announcing leaves the broadcaster as it is. -/
lemma boundary_announce (b : Broadcaster) (start goal : State) (h : Hub Notice) :
    (b.announce start goal h).boundary = b := by
  rw [announce]
  cases b.publisher <;> rfl

/-- A channel that is let go of stays in the hub. -/
lemma grows_release (b : Broadcaster) (h : Hub Notice) : h.Grows (b.release h) := by
  rw [release]
  cases b.publisher with
  | none => exact Nat.le_refl _
  | some channel => exact Hub.grows_modify _

/-- No call takes a channel from the hub. -/
lemma grows_respond (b : Broadcaster) (call : Call) (h : Hub Notice) :
    h.Grows (b.respond call h).medium := by
  cases call with
  | bringUp mode =>
      rcases b.bringUp_cases mode h with ⟨fault, hb⟩ | hb
      · rw [respond, hb]
        exact Nat.le_refl _
      · rw [respond, hb]
        exact Hub.grows_establish _
  | announce start goal =>
      rw [respond, announce]
      cases b.publisher with
      | none => exact Nat.le_refl _
      | some channel => exact Hub.grows_modify _
  | tearDown => exact b.grows_release h

/-- A broadcaster that was never called has neither publisher nor services. -/
lemma linked_ofNode (node : String) (h : Hub Notice) : Linked { node } h where
  isSome_publisher := fun hserving => by cases hserving
  lt_length := by simp

namespace Linked

/-- More channels in the hub do no harm. -/
lemma mono (hb : b.Linked h) (hgrows : h.Grows h') : b.Linked h' := by
  refine ⟨hb.isSome_publisher, fun channel hc => ?_⟩
  calc channel < h.channels.length := hb.lt_length channel hc
    _ ≤ h'.channels.length := hgrows

/-- The step: whatever a broadcaster is called for, its services are up only beside a publisher
afterwards, and the publisher is a channel of the hub. -/
lemma respond (hb : b.Linked h) (call : Call) :
    (b.respond call h).boundary.Linked (b.respond call h).medium := by
  cases call with
  | bringUp mode =>
      rcases b.bringUp_cases mode h with ⟨fault, hr⟩ | hr
      · rw [Broadcaster.respond, hr]
        exact hb
      · rw [Broadcaster.respond, hr]
        refine ⟨fun _ => rfl, fun channel hc => ?_⟩
        obtain rfl : h.nextId = channel := Option.some.inj hc
        simp [Hub.nextId, Hub.establish]
  | announce start goal =>
      have hgrows := b.grows_respond (.announce start goal) h
      rw [Broadcaster.respond] at hgrows ⊢
      rw [boundary_announce]
      exact hb.mono hgrows
  | tearDown =>
      refine ⟨fun hserving => ?_, fun channel hc => ?_⟩
      · cases hserving
      · cases hc

/-- A broadcaster that serves has a publisher, on which it announces without fail. -/
lemma exists_publisher (hb : b.Linked h) (hserving : b.serving = true) :
    ∃ channel, b.publisher = some channel ∧ channel < h.channels.length := by
  obtain ⟨channel, hchannel⟩ := Option.isSome_iff_exists.mp (hb.isSome_publisher hserving)
  exact ⟨channel, hchannel, hb.lt_length channel hchannel⟩

end Linked

/-- The run: every broadcaster that can be come by is linked to its hub. -/
lemma Reachable.linked (hb : b.Reachable h) : b.Linked h := by
  induction hb with
  | ofNode node h => exact linked_ofNode node h
  | respond call _ ih => exact ih.respond call
  | meanwhile _ hgrows ih => exact ih.mono hgrows

/-- What announcing comes to once there is a publisher. -/
lemma announce_of_publisher {channel : ChannelId} (hp : b.publisher = some channel)
    (start goal : State) (h : Hub Notice) :
    b.announce start goal h =
      { result := .ok (), boundary := b
        medium := h.send channel (.between start goal)
        records := if h.isHeard channel then [] else [b.unheardRecord] } := by
  rw [announce, hp]

/-- What announcing comes to while there is none. -/
lemma announce_of_publisher_none (hp : b.publisher = none) (start goal : State) (h : Hub Notice) :
    b.announce start goal h =
      { result := .error (.broadcasterDown "publish transition event"), boundary := b
        medium := h } := by
  rw [announce, hp]

/-- When a broadcaster comes up. -/
lemma bringUp_eq_ok_iff (b : Broadcaster) (mode : Mode) (h : Hub Notice) :
    (b.bringUp mode h).result = .ok () ↔ b.node ≠ "" ∧ b.publisher = none := by
  rw [bringUp]
  split_ifs with hnode hpublisher
  · simp [hnode]
  · simp [Option.isSome_iff_ne_none.mp hpublisher]
  · simpa [hnode] using hpublisher

/-- The hub matters to an answer only by the number of the next channel. -/
lemma respond_congr (b : Broadcaster) (c : Call) (hnext : h.nextId = h'.nextId) :
    (b.respond c h).result = (b.respond c h').result ∧
      (b.respond c h).boundary = (b.respond c h').boundary := by
  cases c with
  | bringUp mode =>
      simp only [respond, bringUp, hnext]
      split_ifs <;> exact ⟨rfl, rfl⟩
  | announce start goal =>
      simp only [respond, announce]
      cases b.publisher <;> exact ⟨rfl, rfl⟩
  | tearDown => exact ⟨rfl, rfl⟩

/-- A broadcaster keeps its name. -/
lemma node_respond (b : Broadcaster) (c : Call) (h : Hub Notice) :
    (b.respond c h).boundary.node = b.node := by
  cases c with
  | bringUp mode =>
      rcases b.bringUp_cases mode h with ⟨fault, hb⟩ | hb <;> rw [respond, hb]
  | announce start goal => rw [respond, boundary_announce]
  | tearDown => rfl

/-- A call that is refused changes neither the broadcaster nor the hub. -/
lemma respond_of_error {c : Call} {fault : Fault} (hr : (b.respond c h).result = .error fault) :
    (b.respond c h).boundary = b ∧ (b.respond c h).medium = h := by
  cases c with
  | bringUp mode =>
      rcases b.bringUp_cases mode h with ⟨fault', hb⟩ | hb
      · rw [respond, hb]
        exact ⟨rfl, rfl⟩
      · rw [respond, hb] at hr
        cases hr
  | announce start goal =>
      rw [respond, announce] at hr ⊢
      cases hp : b.publisher with
      | none => exact ⟨rfl, rfl⟩
      | some channel =>
          rw [hp] at hr
          cases hr
  | tearDown => cases hr

end Broadcaster

end ManagedNode
