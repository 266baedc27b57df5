import Mathlib.Data.List.Find
import ManagedNode.Proofs.Service.Serving

/-!
The transitions that are offered are those that can be asked for.

The list of the transitions that leave the present state is made by describing each of them, with
both of its ends looked up; a request scans the same transitions, looks the ends up again and
takes one of them. Here the two are compared.

* `Topology.describe?_of_edge`: an edge is described by the states that it joins.
* `Selector.describes`: does a description answer a request? `Topology.find?_describeAll` finds the
  same transition among the descriptions as among the transitions.
* `Serves.changeState_offered`: what a request comes to, by the first description that answers it.
* `Shared.Agrees`, `Shared.changeState_agrees`: a request succeeds exactly when it is answered by a
  transition that is offered, and leads where that says.
-/

namespace ManagedNode

/-- Is this described transition the one asked for? -/
def Selector.describes : Selector → TransitionDescription → Bool
  | byId id, d => d.id == id
  | byLabel label, d => d.label == label

namespace Topology

variable {m : Topology} {s goal : State} {t : Transition}

/-- An edge is described by the states that it joins. -/
lemma describe?_of_edge (h : m.Edge s t goal) :
    m.describe? t = some ⟨t.id, t.label, s.description, goal.description⟩ := by
  rw [describe?, h.ends_eq]
  simp [h.start_eq, h.goal_eq]

/-- Among the descriptions of the transitions leaving a state, the first that is asked for is that
of the first transition that is asked for: none of them is left out. -/
lemma find?_describeAll (hm : m.WellFormed) (hs : s ∈ m.states) (q : Selector) :
    (m.describeAll s.outgoing).find? q.describes = (s.find? q).bind m.describe? := by
  rw [describeAll, List.find?_filterMap, State.find?]
  congr 1
  refine List.find?_congr fun t ht => ?_
  obtain ⟨goal, hedge⟩ := hm.exists_edge hs ht
  rw [describe?_of_edge hedge]
  cases q <;> rfl

end Topology

namespace Shared

variable {s : Shared} {b : Broadcaster} {channel : ChannelId} {q : Selector}

/-- The transitions that are offered are those leaving the state occupied now. -/
lemma Serves.availableTransitions_eq (h : s.Serves b channel) :
    s.availableTransitions = .ok (s.machine.topology.describeAll s.machine.available) := by
  rw [availableTransitions, h.gate_eq]
  rfl

/-- What a request comes to, by the first description that answers it among the transitions that
are offered. -/
lemma Serves.changeState_offered (h : s.Serves b channel) (q : Selector) :
    match (s.machine.topology.describeAll s.machine.available).find? q.describes with
    | none => (s.changeState q).shared = s ∧ ∃ fault, (s.changeState q).verdict = .refused fault
    | some d =>
        (s.changeState q).verdict = ⟨true, "transition ok -> " ++ d.goal.label⟩ ∧
          (s.changeState q).shared.currentState = .ok d.goal := by
  cases hs : s.machine.current? with
  | none =>
      obtain ⟨hshared, hverdict⟩ := h.changeState_unoccupied (q := q) hs
      have havailable : s.machine.available = [] := by rw [Machine.available, hs]; rfl
      rw [havailable]
      exact ⟨hshared, _, hverdict⟩
  | some occupied =>
      have havailable : s.machine.available = occupied.outgoing := by
        rw [Machine.available, hs]
        rfl
      rw [havailable, Topology.find?_describeAll h.wellFormed (Machine.mem_states_of_current? hs)]
      cases hfind : occupied.find? q with
      | none =>
          obtain ⟨hshared, hverdict⟩ := h.changeState_miss hs hfind
          exact ⟨hshared, _, hverdict⟩
      | some t =>
          obtain ⟨goal, hedge, hverdict, hshared, hcurrent⟩ := h.changeState_hit hs hfind
          rw [Option.bind_some, Topology.describe?_of_edge hedge]
          refine ⟨hverdict, ?_⟩
          rw [hshared] at hcurrent ⊢
          exact (h.announced occupied goal).currentState_eq hcurrent

/-- A request agrees with the transitions that were offered just before it: it succeeds exactly
when one of them answers it; then the first such transition says which state is answered
afterwards, and the message names that state; otherwise the machine is left as it is. -/
structure Agrees (s : Shared) (q : Selector) (offered : List TransitionDescription) : Prop where
  success_iff : (s.changeState q).verdict.success = true ↔ ∃ d ∈ offered, q.describes d = true
  of_some : ∀ d, offered.find? q.describes = some d →
    (s.changeState q).shared.currentState = .ok d.goal ∧
      (s.changeState q).verdict.message = "transition ok -> " ++ d.goal.label
  of_none : offered.find? q.describes = none →
    (s.changeState q).shared = s ∧ ∃ fault, (s.changeState q).verdict = .refused fault

lemma Serves.agrees (h : s.Serves b channel) (q : Selector) :
    s.Agrees q (s.machine.topology.describeAll s.machine.available) := by
  have hoffered := h.changeState_offered q
  constructor
  · rw [← List.find?_isSome]
    split at hoffered
    · next hnone =>
        obtain ⟨-, fault, hverdict⟩ := hoffered
        simp [hverdict, hnone, Verdict.refused]
    · next d hsome =>
        obtain ⟨hverdict, -⟩ := hoffered
        simp [hverdict, hsome]
  · intro d hd
    rw [hd] at hoffered
    obtain ⟨hverdict, hcurrent⟩ := hoffered
    exact ⟨hcurrent, by rw [hverdict]⟩
  · intro hnone
    rwa [hnone] at hoffered

/-- **Requests agree with what is offered**, on every reachable machine whose services answer.
Announcing never fails there, since whatever serves has a publisher. -/
theorem changeState_agrees (h : s.machine.Reachable) (hpoisoned : s.poisoned = false)
    (hserving : s.machine.boundary.any Broadcaster.serving = true) (q : Selector) :
    (∃ offered, s.availableTransitions = .ok offered ∧ s.Agrees q offered) ∧
      ∀ b ∈ s.machine.boundary, b.publisher.isSome = true ∧
        ∀ start goal hub, (b.announce start goal hub).result = .ok () := by
  obtain ⟨b, channel, hserves⟩ := exists_serves h hpoisoned hserving
  refine ⟨⟨_, hserves.availableTransitions_eq, hserves.agrees q⟩, ?_⟩
  intro b' hb'
  obtain rfl : b = b' := Option.some.inj (hserves.boundary_eq.symm.trans hb')
  refine ⟨by rw [hserves.publisher_eq]; rfl, fun start goal hub => ?_⟩
  rw [Broadcaster.announce_of_publisher hserves.publisher_eq]

/-- The standard lifecycle, with a broadcaster that was taken down and brought up again in place. -/
theorem changeState_agrees_reopened :
    let up : BroadcastMachine := Machine.run { medium := {} } [.bringUp { node := "talker" } {}]
    let q : Selector := .byLabel "configure"
    ∃ down reopened, up.callHeld .tearDown = some down ∧
      down.machine.callHeld (.bringUp .full) = some reopened ∧
      let s : Shared := { machine := reopened.machine }
      s.machine.Reachable ∧ s.poisoned = false ∧
        s.machine.boundary.any Broadcaster.serving = true ∧
        (∃ offered, s.availableTransitions = .ok offered ∧ s.Agrees q offered) ∧
        ∀ b ∈ s.machine.boundary, b.publisher.isSome = true ∧
          ∀ start goal hub, (b.announce start goal hub).result = .ok () := by
  intro up q
  have hup : BroadcastMachine.Reachable up := by
    refine .perform _ (.zero {}) ?_
    rintro b options ⟨⟩
    exact .ofNode _ _
  refine ⟨_, _, rfl, rfl, ?_⟩
  intro s
  have h : s.machine.Reachable := .call (.bringUp .full) (.call .tearDown hup rfl) rfl
  exact ⟨h, rfl, rfl, changeState_agrees h rfl rfl q⟩

end Shared

end ManagedNode
