import ManagedNode.Proofs.Broadcast.Reading
import ManagedNode.Proofs.Service.Introspection
import ManagedNode.Proofs.Service.Walk

/-!
The gate of the services, and the requests that only read.

Whether the services answer depends on the lock and on the boundary that is held, and hosts change
both: they bring machines up with services or without, take them down, call the boundary in place or
replace it, and may fail while they hold the lock. Meanwhile clients ask, and receivers read. A
broadcaster that nobody holds any longer is dropped, and its channel closes.

* `Shared.Shut`, `Shared.Answering`: the answers of the services while a fault keeps the gate shut,
  and while it is open.
* `Stage`, `Stage.Act`, `Stage.react`: a shared machine with everybody who has subscribed to its
  notices, and what may be done with them in any order. A broadcaster that is dropped has no more
  notices for its receivers (`Stage.receive_dropping`).
* `Reading`, `Stage.Script`: the requests that only read, and a run of acts into which such requests
  are put. They change nothing (`Stage.react_read`), and so the other acts of the run come to the
  same without them (`Stage.others_reactions`, `Stage.after_full`).
* `Stage.answering_of_opens`: the services answer as soon as they have been brought up.
* `Stage.Gated`, `Stage.gated`: all of this, on every stage that hosts can come by.
-/

namespace ManagedNode

namespace Shared

variable {s : Shared} {b : Broadcaster} {channel : ChannelId} {fault : Fault}

/-! ### The answers of the services -/

/-- The gate is kept shut by a fault, which is the answer to every request. -/
structure Shut (s : Shared) (fault : Fault) : Prop where
  kind_eq : fault.kind = .invalidState
  /-- A request to change the state is refused, and neither moves the machine nor shows a trace. -/
  changeState_eq : ∀ q, s.changeState q =
    { verdict := ⟨false, s!"transition failed: {fault.display}"⟩, shared := s, trace := [] }
  currentState_eq : s.currentState = .error fault
  allStates_eq : s.allStates = .error fault
  availableTransitions_eq : s.availableTransitions = .error fault
  transitionGraph_eq : s.transitionGraph = .error fault

/-- The gate is open: every request is answered by the machine. -/
structure Answering (s : Shared) : Prop where
  currentState_eq : s.currentState = match s.machine.current? with
    | some occupied => .ok occupied.description
    | none => .error .nothingOccupied
  allStates_eq : s.allStates = .ok s.machine.topology.described
  availableTransitions_eq :
    s.availableTransitions = .ok (s.machine.topology.describeAll s.machine.available)
  transitionGraph_eq :
    s.transitionGraph = .ok (s.machine.topology.describeAll s.machine.topology.transitions)
  agrees : ∀ q, s.Agrees q (s.machine.topology.describeAll s.machine.available)

lemma shut_of_gate (hkind : fault.kind = .invalidState) (hgate : s.gate = .error fault) :
    s.Shut fault where
  kind_eq := hkind
  changeState_eq := fun q => by rw [changeState, hgate]; rfl
  currentState_eq := by rw [currentState, hgate]; rfl
  allStates_eq := by rw [allStates, hgate]; rfl
  availableTransitions_eq := by rw [availableTransitions, hgate]; rfl
  transitionGraph_eq := by rw [transitionGraph, hgate]; rfl

/-- A lock that is not granted shuts the gate, whatever the machine holds. -/
lemma shut_of_poisoned (h : s.poisoned = true) : s.Shut .lockPoisoned :=
  shut_of_gate rfl (by simp [gate, h])

lemma shut_of_not_serving (hpoisoned : s.poisoned = false)
    (hserving : s.machine.boundary.any Broadcaster.serving = false) : s.Shut .notServing :=
  shut_of_gate rfl (by simp [gate, hpoisoned, hserving])

lemma Serves.answering (h : s.Serves b channel) : s.Answering where
  currentState_eq := by
    cases hs : s.machine.current? with
    | none => exact h.currentState_of_none hs
    | some occupied => exact h.currentState_eq hs
  allStates_eq := h.allStates_eq
  availableTransitions_eq := h.availableTransitions_eq
  transitionGraph_eq := h.transitionGraph_eq
  agrees := h.agrees

/-- The services of a machine that hosts can come by answer whenever the gate is open. -/
lemma answering_of_serving (h : s.machine.Reachable) (hpoisoned : s.poisoned = false)
    (hserving : s.machine.boundary.any Broadcaster.serving = true) : s.Answering := by
  obtain ⟨b, channel, hserves⟩ := exists_serves h hpoisoned hserving
  exact hserves.answering

/-- A request leaves the machine as it is, or is one that the machine is asked itself. -/
lemma machine_changeState (s : Shared) (q : Selector) :
    (s.changeState q).shared.machine = s.machine ∨
      (s.changeState q).shared.machine = (s.machine.request q true).machine := by
  rw [changeState, gate]
  split_ifs
  · exact Or.inl rfl
  · exact Or.inr rfl
  · exact Or.inl rfl

end Shared

/-! ### The stage -/

/-- A request to the services that only reads. -/
inductive Reading
  | currentState
  | allStates
  | availableTransitions
  | transitionGraph
  deriving DecidableEq, Repr

/-- The visit that such a request is. -/
def Reading.visit : Reading → Visit
  | currentState => .currentState
  | allStates => .allStates
  | availableTransitions => .availableTransitions
  | transitionGraph => .transitionGraph

/-- A shared machine, with everybody who has subscribed to its notices. -/
structure Stage where
  shared : Shared
  /-- The receivers in the order of subscription; one that was dropped leaves its place empty. -/
  receivers : List (Option Receiver) := []

namespace Stage

/-- What hosts, clients and receivers may do. -/
inductive Act
  /-- A client asks for a change of state. -/
  | changeState (q : Selector)
  | read (r : Reading)
  /-- The host operates the machine. -/
  | operate (op : Machine.Operation Broadcaster)
  /-- The host calls the boundary that is held. -/
  | call (c : Call)
  /-- The host puts another boundary in the place of the one that is held. -/
  | replace (b : Broadcaster)
  | overwrite (topology : Topology)
  /-- Others use the hub. -/
  | meanwhile (hub : Hub Notice)
  /-- A holder of the lock fails. -/
  | poison
  | subscribe
  /-- A receiver, by its place, reads without waiting. -/
  | receive (i : ℕ)
  /-- A receiver is dropped. -/
  | leave (i : ℕ)

/-- What is seen of an act. -/
inductive Reaction
  | verdict (v : Verdict) (trace : List Event)
  | answer (a : Answer)
  | outcome (result : Except Fault Unit) (trace : List Event)
  | found (found : Received Notice)
  /-- There is nothing to answer, or nobody there. -/
  | silence

variable (x : Stage)

/-- The hub that the notices travel through. -/
def hub : Hub Notice := x.shared.machine.medium

/-- The stage with another machine behind the same lock. -/
def withMachine (m : BroadcastMachine) : Stage :=
  { x with shared := { x.shared with machine := m } }

/-- The stage after the hub has been used. -/
def withHub (hub : Hub Notice) : Stage := x.withMachine { x.shared.machine with medium := hub }

/-- The stage when a broadcaster, if there is one, is held by nobody any longer: its receivers can read
what is left. -/
def dropping (b : Option Broadcaster) : Stage :=
  x.withHub (b.elim x.hub fun b => b.release x.hub)

/-- The broadcaster that nobody holds after an operation: one that was handed over and refused. -/
def dropped? : Machine.Operation Broadcaster → Except Fault Unit → Option Broadcaster
  | .bringUp b _, .error _ => some b
  | _, _ => none

/-- The receiver at a place. -/
def receiver? (i : ℕ) : Option Receiver := x.receivers[i]?.join

/-- A receiver for the notices of the boundary that is held. -/
def subscribe? (m : BroadcastMachine) : Option (Except Fault (Receiver × Hub Notice)) :=
  m.boundary.map fun b => b.subscribe? m.medium

/-- What is seen of an act, and the stage after it. -/
def react : Act → Reaction × Stage
  | .changeState q =>
      let changed := x.shared.changeState q
      (.verdict changed.verdict changed.trace, { x with shared := changed.shared })
  | .read r =>
      let served := x.shared.serve r.visit
      (.answer served.1, { x with shared := served.2 })
  | .operate op =>
      let o := x.shared.machine.perform op
      (.outcome o.result o.trace, (x.withMachine o.machine).dropping (dropped? op o.result))
  | .call c =>
      match x.shared.machine.callHeld c with
      | some o => (.outcome o.result o.trace, x.withMachine o.machine)
      | none => (.silence, x)
  | .replace b =>
      let m := x.shared.machine
      (.silence,
        (x.withMachine { m with boundary := m.boundary.map fun _ => b }).dropping m.boundary)
  | .overwrite topology => (.silence, x.withMachine (x.shared.machine.withTopology topology))
  | .meanwhile hub => (.silence, x.withHub hub)
  | .poison => (.silence, { x with shared := { x.shared with poisoned := true } })
  | .subscribe =>
      match subscribe? x.shared.machine with
      | some (.ok (r, hub)) =>
          (.outcome (.ok ()) [], { x.withHub hub with receivers := x.receivers ++ [some r] })
      | some (.error fault) => (.outcome (.error fault) [], x)
      | none => (.silence, x)
  | .receive i =>
      match x.receiver? i with
      | some r =>
          let (found, moved) := x.hub.receive r
          (.found found, { x with receivers := x.receivers.set i (some moved) })
      | none => (.silence, x)
  | .leave i =>
      match x.receiver? i with
      | some r => (.silence, { x.withHub (x.hub.leave r) with receivers := x.receivers.set i none })
      | none => (.silence, x)

/-- The stage after a run of acts. -/
def after (x : Stage) : List Act → Stage
  | [] => x
  | a :: acts => (x.react a).2.after acts

/-- What is seen of a run of acts. -/
def reactions (x : Stage) : List Act → List Reaction
  | [] => []
  | a :: acts => (x.react a).1 :: (x.react a).2.reactions acts

/-- What is handed to the machine in an act can be come by where the hub is. -/
def Supplies : Act → Prop
  | .operate (.bringUp b _) => b.Reachable x.hub
  | .replace b => b.Reachable x.hub
  | .overwrite topology => topology.Reachable
  | .meanwhile hub => x.hub.Grows hub
  | _ => True

/-- The stages that hosts can come by, with the lock in order or not. -/
inductive Reachable : Stage → Prop
  | zero (hub : Hub Notice) : Reachable { shared := { machine := { medium := hub } } }
  | react {x : Stage} (a : Act) : Reachable x → x.Supplies a → Reachable (x.react a).2

variable {x}

/-! ### Dropped broadcasters -/

/-- To the machine, a channel that is let go of is one that others use. -/
lemma reachable_dropping (h : x.shared.machine.Reachable) (b : Option Broadcaster) :
    (x.dropping b).shared.machine.Reachable := by
  refine h.meanwhile ?_
  cases b with
  | none => exact Nat.le_refl _
  | some b => exact b.grows_release _

/-- When the notices of a broadcaster that was dropped have all been read, this is the end of them. -/
lemma receive_dropping {b : Broadcaster} {r : Receiver} {c : Channel Notice}
    (hb : b.publisher = some r.channel) (hc : x.hub.channel? r.channel = some c)
    (hread : c.unread r.position = []) :
    (x.dropping (some b)).hub.receive r = (.closed, r) := by
  have hhub : (x.dropping (some b)).hub = x.hub.close r.channel := by
    change b.release x.hub = _
    rw [Broadcaster.release, hb]
  have hchannel : (x.hub.close r.channel).channel? r.channel = some c.close :=
    Hub.channel?_modify hc _
  have hclosed : c.close.receive r.position = (.closed, r.position) :=
    Channel.receive_of_unread_nil hread
  rw [hhub, Hub.receive_of_channel? hchannel, hclosed]

/-- One broadcaster is replaced, and another is refused since it was up when it was handed over. -/
example :
    let replaced : Stage := Stage.after { shared := { machine := { medium := {} } } }
      [.operate (.bringUp { node := "talker" } { standardStates := false }), .subscribe,
        .replace { node := "walker" }]
    let refused : Stage := Stage.after
      { shared := { machine := { medium := ({} : Hub Notice).establish 32 } }
        receivers := [some ⟨0, 0⟩] }
      [.operate (.bringUp { node := "talker", publisher := some 0 } {})]
    (replaced.react (.receive 0)).1 = .found .closed ∧
      (refused.react (.receive 0)).1 = .found .closed :=
  ⟨rfl, rfl⟩

/-! ### Reachable stages -/

/-- The machine on a stage is one that hosts can come by. -/
lemma Reachable.machine (h : x.Reachable) : x.shared.machine.Reachable := by
  induction h with
  | zero hub => exact .zero hub
  | @react x a _ ha ih =>
      cases a with
      | changeState q =>
          rcases x.shared.machine_changeState q with hm | hm
          · exact hm ▸ ih
          · exact hm ▸ ih.perform (.request q true) (by simp)
      | read r => cases r <;> exact ih
      | operate op =>
          refine reachable_dropping (ih.perform op fun b options hop => ?_) _
          subst hop
          exact ha
      | call c =>
          rw [Stage.react]
          cases hcall : x.shared.machine.callHeld c with
          | none => exact ih
          | some o => exact ih.call c hcall
      | replace b => exact reachable_dropping (ih.replace ha) _
      | overwrite topology => exact ih.overwrite ha
      | meanwhile hub => exact ih.meanwhile ha
      | poison => exact ih
      | subscribe =>
          rw [Stage.react]
          split
          · next r hub hsubscribe =>
              obtain ⟨b, -, hb⟩ := Option.map_eq_some_iff.mp hsubscribe
              refine ih.meanwhile ?_
              rw [Broadcaster.subscribe?] at hb
              split at hb
              · cases hb
              · cases hb
                exact Hub.grows_modify _
          · exact ih
          · exact ih
      | receive i =>
          rw [Stage.react]
          split <;> exact ih
      | leave i =>
          rw [Stage.react]
          split
          · exact ih.meanwhile (Hub.grows_modify _)
          · exact ih

/-! ### Requests that only read -/

/-- The step: a request that only reads leaves everything on the stage as it is. -/
lemma react_read (x : Stage) (r : Reading) : (x.react (.read r)).2 = x := by
  cases r <;> rfl

/-- A run of acts into which requests that only read have been put. -/
abbrev Script := List (Reading ⊕ Act)

namespace Script

/-- The acts of the whole script. -/
def full (script : Script) : List Act := script.map (Sum.elim .read id)

/-- The acts without the requests that were put in. -/
def bare (script : Script) : List Act := script.filterMap Sum.getRight?

/-- Of a list with one entry for each act of the whole script, those for the acts of the run. -/
def others {α : Type} : Script → List α → List α
  | .inl _ :: script, _ :: l => others script l
  | .inr _ :: script, a :: l => a :: others script l
  | _, _ => []

end Script

/-- The two runs, with the requests that were put in and without them, lead to the same stage. -/
lemma after_full (script : Script) : ∀ x : Stage, x.after script.full = x.after script.bare := by
  induction script with
  | nil => exact fun x => rfl
  | cons entry script ih =>
      intro x
      cases entry with
      | inl r =>
          calc x.after (Script.full (.inl r :: script))
            _ = (x.react (.read r)).2.after (Script.full script) := rfl
            _ = x.after (Script.full script) := by rw [x.react_read r]
            _ = x.after (Script.bare script) := ih x
      | inr a => exact ih (x.react a).2

/-- In the two runs the same is seen of all acts that are in both. -/
lemma others_reactions (script : Script) :
    ∀ x : Stage, script.others (x.reactions script.full) = x.reactions script.bare := by
  induction script with
  | nil => exact fun x => rfl
  | cons entry script ih =>
      intro x
      cases entry with
      | inl r =>
          calc Script.others (.inl r :: script) (x.reactions (Script.full (.inl r :: script)))
            _ = Script.others script ((x.react (.read r)).2.reactions (Script.full script)) := rfl
            _ = Script.others script (x.reactions (Script.full script)) := by rw [x.react_read r]
            _ = x.reactions (Script.bare script) := ih x
      | inr a => exact congrArg _ (ih (x.react a).2)

/-! ### Bringing the services up -/

/-- Is this an act that brings services up, if it succeeds? -/
def Act.opens : Act → Bool
  | operate (.bringUp _ options) => options.services
  | call (.bringUp mode) => mode = .full
  | _ => false

end Stage

/-- A broadcaster that has come up in full mode serves. -/
lemma Broadcaster.serving_bringUp {b : Broadcaster} {hub : Hub Notice}
    (h : (b.bringUp .full hub).result = .ok ()) :
    (b.bringUp .full hub).boundary.serving = true := by
  rcases b.bringUp_cases .full hub with ⟨fault, hr⟩ | hr
  · rw [hr] at h
    cases h
  · rw [hr]
    rfl

/-- A machine that has been brought up with services holds a boundary that serves. -/
lemma BroadcastMachine.serving_of_broughtUp {m : BroadcastMachine} {b : Broadcaster}
    {options : Options} {o : Outcome Broadcaster (Hub Notice)} (hservices : options.services = true)
    (ho : Machine.BroughtUp m b options o) (hok : o.result = .ok ()) :
    o.machine.boundary.any Broadcaster.serving = true := by
  have hmode : options.mode = .full := by rw [Options.mode, if_pos hservices]
  cases ho with
  | alreadyUp => cases hok
  | boundaryFailed => cases hok
  | furnished _ hreply hup hfurnished =>
      subst hreply
      rw [hmode] at hup
      have hserving : (Boundary.respond (.bringUp .full) b m.medium).boundary.serving = true :=
        Broadcaster.serving_bringUp hup
      cases hfurnished with
      | bare => simpa [Machine.holding, hmode] using hserving
      | loaded => simpa [Machine.holding, hmode] using hserving
      | abandoned => cases hok

namespace Stage

variable {x : Stage} {a : Act} {trace : List Event}

/-- A boundary that serves is held after an act that has brought services up. -/
lemma serving_of_opens (ha : a.opens = true) (hok : (x.react a).1 = .outcome (.ok ()) trace) :
    (x.react a).2.shared.machine.boundary.any Broadcaster.serving = true := by
  cases a with
  | operate op =>
      cases op with
      | bringUp b options =>
          obtain ⟨hresult, -⟩ := Reaction.outcome.inj hok
          exact BroadcastMachine.serving_of_broughtUp ha (Machine.broughtUp _ b options) hresult
      | _ => cases ha
  | call c =>
      cases c with
      | bringUp mode =>
          obtain rfl : mode = .full := of_decide_eq_true ha
          rw [react] at hok ⊢
          cases hcall : x.shared.machine.callHeld (.bringUp .full) with
          | none =>
              rw [hcall] at hok
              cases hok
          | some o =>
              rw [hcall] at hok
              obtain ⟨hresult, -⟩ := Reaction.outcome.inj hok
              obtain ⟨b, -, rfl⟩ := Option.map_eq_some_iff.mp hcall
              exact Broadcaster.serving_bringUp hresult
      | _ => cases ha
  | _ => cases ha

/-- Bringing services up does not touch the lock. -/
lemma poisoned_of_opens (ha : a.opens = true) :
    (x.react a).2.shared.poisoned = x.shared.poisoned := by
  cases a with
  | operate op => rfl
  | call c =>
      rw [react]
      cases x.shared.machine.callHeld c <;> rfl
  | _ => cases ha

/-- The services answer as soon as they have been brought up, unless the lock is not granted. -/
lemma answering_of_opens (h : x.Reachable) (hpoisoned : x.shared.poisoned = false)
    (ha : a.opens = true) (hsupplies : x.Supplies a)
    (hok : (x.react a).1 = .outcome (.ok ()) trace) : (x.react a).2.shared.Answering :=
  Shared.answering_of_serving (h.react a hsupplies).machine ((poisoned_of_opens ha).trans hpoisoned)
    (serving_of_opens ha hok)

/-! ### The gate -/

/-- What the gate and the requests that only read come to on a stage. -/
structure Gated (x : Stage) : Prop where
  of_poisoned : x.shared.poisoned = true → x.shared.Shut .lockPoisoned
  of_not_serving : x.shared.poisoned = false →
    x.shared.machine.boundary.any Broadcaster.serving = false → x.shared.Shut .notServing
  of_serving : x.shared.poisoned = false →
    x.shared.machine.boundary.any Broadcaster.serving = true → x.shared.Answering
  /-- While the gate is shut, no request changes anything: neither the machine, nor the hub, nor a
  receiver. -/
  react_of_shut : ∀ fault, x.shared.Shut fault → ∀ q, (x.react (.changeState q)).2 = x
  /-- A request that only reads never does. -/
  react_read : ∀ r, (x.react (.read r)).2 = x
  /-- Put into any run, at any points, such requests change neither what is seen of the other acts
  nor the stage in the end. -/
  others_eq : ∀ script : Script,
    script.others (x.reactions script.full) = x.reactions script.bare
  after_eq : ∀ script : Script, x.after script.full = x.after script.bare
  /-- The services answer again once they have been brought up. -/
  of_opens : x.shared.poisoned = false → ∀ (a : Act) (trace : List Event), a.opens = true →
    x.Supplies a → (x.react a).1 = .outcome (.ok ()) trace → (x.react a).2.shared.Answering

/-- **The services are gated, and reading is free**, on every stage that hosts can come by. -/
theorem gated (h : x.Reachable) : x.Gated where
  of_poisoned := Shared.shut_of_poisoned
  of_not_serving := Shared.shut_of_not_serving
  of_serving := Shared.answering_of_serving h.machine
  react_of_shut := by
    intro fault hshut q
    rw [react, hshut.changeState_eq q]
  react_read := x.react_read
  others_eq := fun script => others_reactions script x
  after_eq := fun script => after_full script x
  of_opens := fun hpoisoned _ _ ha hsupplies hok => answering_of_opens h hpoisoned ha hsupplies hok

/-- A machine without services, which was taken down before a receiver had read the last notice. -/
theorem gated_reopened :
    let loop : Transition := { id := 1, label := "again", ends := some ⟨7, 7⟩ }
    let down : Stage := Stage.after { shared := { machine := { medium := {} } } }
      [.operate (.bringUp { node := "talker" } { services := false, standardStates := false }),
        .operate (.edit (.register ⟨7, "seven", []⟩)), .operate (.edit (.connect loop)),
        .operate (.occupy 7), .subscribe, .operate (.trigger loop true), .operate .tearDown]
    let reopen : Act := .operate (.bringUp { node := "talker" } { standardStates := false })
    down.Reachable ∧ down.shared.allStates = .error .notServing ∧
      (down.react (.receive 0)).1 = .found (.event ⟨⟨7, "seven"⟩, ⟨7, "seven"⟩⟩) ∧
      reopen.opens = true ∧ (∃ trace, (down.react reopen).1 = .outcome (.ok ()) trace) ∧
      (down.react reopen).2.shared.allStates = .ok [] ∧ down.Gated := by
  intro loop down reopen
  have h : down.Reachable := by
    refine .react _ (.react _ (.react _ (.react _ (.react _ (.react _
      (.react _ (.zero {}) ?_) ?_) ?_) ?_) ?_) ?_) ?_
    · exact .ofNode _ _
    all_goals exact trivial
  exact ⟨h, rfl, rfl, rfl, ⟨_, rfl⟩, rfl, gated h⟩

end Stage

end ManagedNode
