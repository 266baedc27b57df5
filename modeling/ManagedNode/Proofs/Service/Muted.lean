import ManagedNode.Proofs.Machine.Taking
import ManagedNode.Proofs.Service.Serving

/-!
Moves that are to be announced while no channel is open.

A machine that holds no boundary refuses such a move before it is made. One that holds a broadcaster
makes the move and has it announced then: a broadcaster that has been taken down in place refuses
with the same kind of fault, but the machine is in the other state by that time.

* `BroadcastMachine.Muted`: there is no channel to announce on. Taking the boundary down in place
  leaves a machine muted, and it stays so in every run in which nothing is brought up
  (`BroadcastMachine.muted_run_of_tearDown`).
* `BroadcastMachine.Unheard`: what becomes of a move to `goal` that nobody can be told of.
* `BroadcastMachine.unheard_of_muted`: on a muted machine, every move that is to be announced comes
  to that, whether a transition was triggered or asked for.
-/

namespace ManagedNode

namespace BroadcastMachine

open Machine (Operation)

variable {m : BroadcastMachine} {o : Outcome Broadcaster (Hub Notice)} {b : Broadcaster}
  {s start goal : State} {t : Transition}

/-! ### Muted machines -/

/-- No boundary is held, or the one that is held has no channel. -/
def Muted (m : BroadcastMachine) : Prop := ∀ b ∈ m.boundary, b.publisher = none

/-- A machine whose boundary has been taken down in place is muted. -/
lemma muted_of_tearDown (h : m.callHeld .tearDown = some o) : Muted o.machine := by
  obtain ⟨b, -, rfl⟩ := Option.map_eq_some_iff.mp h
  intro b' hb'
  cases hb'
  rfl

namespace Muted

/-- Announcing opens no channel. -/
lemma triggered {announce : Bool} (h : Muted m) (ho : Machine.Triggered m t announce o) :
    Muted o.machine := by
  cases ho with
  | refused => exact h
  | unheld => exact h
  | quiet => exact h
  | @announced start goal b he hb =>
      have hsame := b.boundary_announce start goal m.medium
      intro b' hb'
      cases hb'
      exact (congrArg Broadcaster.publisher hsame).trans (h b hb)

/-- The step: only bringing up opens a channel. -/
lemma perform (h : Muted m) (op : Operation Broadcaster)
    (hop : ∀ b options, op ≠ .bringUp b options) : Muted (m.perform op).machine := by
  cases op with
  | bringUp b options => exact absurd rfl (hop b options)
  | trigger t announce => exact h.triggered (m.triggered t announce)
  | request q announce =>
      exact Machine.request_induction (P := Muted) h fun t => h.triggered (m.triggered t announce)
  | tearDown => simp [Muted, Machine.perform, m.boundary_tearDown]
  | loadStandard | occupy | edit =>
      exact Machine.inward_induction (P := Muted) rfl fun _ _ => h

/-- The run: nothing opens a channel where nothing is brought up. -/
lemma run (h : Muted m) (ops : List (Operation Broadcaster))
    (hops : ∀ op ∈ ops, ∀ b options, op ≠ .bringUp b options) : Muted (m.run ops) := by
  induction ops generalizing m with
  | nil => exact h
  | cons op ops ih =>
      obtain ⟨hop, hrest⟩ := List.forall_mem_cons.mp hops
      exact ih (h.perform op hop) hrest

end Muted

/-- A boundary that was taken down in place, and nothing brought up after that. -/
lemma muted_run_of_tearDown (h : m.callHeld .tearDown = some o) (ops : List (Operation Broadcaster))
    (hops : ∀ op ∈ ops, ∀ b options, op ≠ .bringUp b options) : Muted (o.machine.run ops) :=
  (muted_of_tearDown h).run ops hops

/-! ### Moves that nobody can be told of -/

/-- The move to `goal` is refused. It is made nevertheless if a boundary is held, so that the state
occupied is the same as before only if there is none, or if that state was `goal` already. -/
structure Unheard (m : BroadcastMachine) (goal : State) (o : Outcome Broadcaster (Hub Notice)) :
    Prop where
  result_eq : ∃ fault, o.result = .error fault ∧ fault.kind = .invalidState
  machine_eq : o.machine = if m.boundary.isSome then m.moveTo goal else m
  current?_eq_iff : o.machine.current? = m.current? ↔
    m.boundary = none ∨ m.current? = some goal

/-- A broadcaster without a channel cannot announce a move, and is left as it is. -/
lemma moveAnnounced_of_muted (hb : m.boundary = some b) (hp : b.publisher = none) (t : Transition)
    (start goal : State) :
    (m.moveAnnounced t start goal b).result =
        .error (.broadcasterDown "publish transition event") ∧
      (m.moveAnnounced t start goal b).machine = m.moveTo goal := by
  have hreply : Boundary.respond (.announce start goal) b m.medium = _ :=
    Broadcaster.announce_of_publisher_none hp start goal m.medium
  simp only [Machine.moveAnnounced, hreply, Machine.moveTo, ← hb, and_self]

/-- On a muted machine, triggering a transition with an announcement is a move that is unheard. -/
lemma Muted.unheard_trigger (hmuted : Muted m) (h : m.topology.Resolves t start goal) :
    m.Unheard goal (m.trigger t true) := by
  have he : m.endpoints t = .ok (start, goal) := Machine.resolves_iff.mp h
  have hmoved : (m.moveTo goal).current? = some goal := Machine.current?_moveTo h.state?_goal
  cases hb : m.boundary with
  | none =>
      have ho : m.trigger t true = m.refuse .noBoundary := by rw [Machine.trigger, he, hb]
      rw [ho]
      exact ⟨⟨_, rfl, rfl⟩, by simp [hb, Machine.refuse], by simp [hb, Machine.refuse]⟩
  | some b =>
      have ho : m.trigger t true = m.moveAnnounced t start goal b := by
        rw [Machine.trigger, he, hb]
      obtain ⟨hresult, hmachine⟩ := moveAnnounced_of_muted hb (hmuted b hb) t start goal
      rw [ho]
      refine ⟨⟨_, hresult, rfl⟩, by simp [hb, hmachine], ?_⟩
      rw [hmachine, hmoved]
      simp [hb, eq_comm]

/-- **A move that is to be announced while no channel is open** is refused on every reachable
machine, but only a machine that holds no boundary stays where it is. -/
theorem unheard_of_muted (h : m.Reachable) (hmuted : Muted m) :
    (∀ t start goal, m.topology.Resolves t start goal → m.Unheard goal (m.trigger t true)) ∧
      ∀ q s t, m.current? = some s → s.find? q = some t →
        ∃ goal, m.topology.Edge s t goal ∧ m.Unheard goal (m.request q true) := by
  refine ⟨fun t start goal hends => hmuted.unheard_trigger hends, fun q s t hs hfind => ?_⟩
  obtain ⟨goal, hedge⟩ := Machine.exists_edge_of_find? h.machine.wellFormed hs hfind
  rw [Machine.request_of_find? hs hfind]
  exact ⟨goal, hedge, hmuted.unheard_trigger hedge.resolves⟩

/-- A boundary that is taken down in place, after which the topology is edited: the loop at the state
occupied leaves the machine where it is, the way to the other state does not. -/
theorem unheard_of_muted_edited :
    let there : Transition := { id := 1, label := "there", ends := some ⟨7, 8⟩ }
    let loop : Transition := { id := 2, label := "again", ends := some ⟨7, 7⟩ }
    let up : BroadcastMachine := Machine.run { medium := {} }
      [.bringUp { node := "talker" } { standardStates := false },
        .edit (.register ⟨7, "seven", []⟩), .edit (.connect loop), .occupy 7]
    ∃ down, up.callHeld .tearDown = some down ∧
      let m : BroadcastMachine :=
        down.machine.run [.edit (.register ⟨8, "eight", []⟩), .edit (.connect there)]
      m.Reachable ∧ Muted m ∧
        (m.request (.byId 2) true).machine.current? = m.current? ∧
        (m.request (.byId 1) true).machine.current? = some ⟨8, "eight", []⟩ ∧
        (∀ t start goal, m.topology.Resolves t start goal → m.Unheard goal (m.trigger t true)) ∧
          ∀ q s t, m.current? = some s → s.find? q = some t →
            ∃ goal, m.topology.Edge s t goal ∧ m.Unheard goal (m.request q true) := by
  intro there loop up
  refine ⟨_, rfl, ?_⟩
  intro m
  have hup : Reachable up := by
    refine .perform _ (.perform _ (.perform _ (.perform _ (.zero {}) ?_) ?_) ?_) ?_
    · rintro b options ⟨⟩
      exact .ofNode _ _
    all_goals exact nofun
  have h : m.Reachable := .perform _ (.perform _ (.call .tearDown hup rfl) nofun) nofun
  have hmuted : Muted m := by
    refine muted_run_of_tearDown (m := up) rfl _ ?_
    simp
  exact ⟨h, hmuted, rfl, rfl, unheard_of_muted h hmuted⟩

/-- The move of a machine whose boundary was taken down in place is refused, and stands. -/
theorem muted_move_stands :
    let there : Transition := { id := 1, label := "there", ends := some ⟨7, 8⟩ }
    let up : BroadcastMachine := Machine.run { medium := {} }
      [.bringUp { node := "talker" } { standardStates := false },
        .edit (.register ⟨7, "seven", []⟩), .edit (.register ⟨8, "eight", []⟩),
        .edit (.connect there), .occupy 7]
    ∃ down, up.callHeld .tearDown = some down ∧
      let m : BroadcastMachine := down.machine
      m.Reachable ∧ Muted m ∧ m.topology.Resolves there ⟨7, "seven", [there]⟩ ⟨8, "eight", []⟩ ∧
        (m.trigger there true).result = .error (.broadcasterDown "publish transition event") ∧
        m.current? = some ⟨7, "seven", [there]⟩ ∧
        (m.trigger there true).machine.current? = some ⟨8, "eight", []⟩ := by
  intro there up
  refine ⟨_, rfl, ?_⟩
  intro m
  have hup : Reachable up := by
    refine .perform _ (.perform _ (.perform _ (.perform _ (.perform _ (.zero {}) ?_) ?_) ?_) ?_) ?_
    · rintro b options ⟨⟩
      exact .ofNode _ _
    all_goals exact nofun
  have h : m.Reachable := .call .tearDown hup rfl
  exact ⟨h, muted_of_tearDown (m := up) rfl, ⟨rfl, rfl⟩, rfl, rfl, rfl⟩

end BroadcastMachine

end ManagedNode
