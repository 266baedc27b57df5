import ManagedNode.Proofs.Machine.Taking

/-!
The log of a machine spells its walk.

A machine that takes a transition writes one record of it, when everything has happened: the state
that it left is looked up by the handle that it had before, and the state that it is in by the one
that it has now. A second record follows if the boundary could not announce the move. Of what comes
to nothing there is a record only if a request found nothing to take.

* `Event.own`: the records that a machine writes itself, without those of its boundary.
* `Machine.Attempt`: to trigger a transition, or to ask for one. `Machine.taken?` is the transition
  that is taken, by what is registered and held at the time, and `Machine.missed?` the record of a
  request that finds nothing.
* `Machine.Logs`: the records of one attempt. It is shown of every attempt on every machine
  (`Machine.logs_perform`).
* `Move.Chain`, `Machine.Recounts`: what the records of a run of attempts say. They lead from the
  state occupied at first to the one that is occupied at the end (`Machine.log_spells_walk`).
-/

namespace ManagedNode

/-! ### Records -/

namespace Event

/-- The record of an event, if the machine wrote it. -/
def own? : Event → Option Record
  | wrote record => some record
  | called _ _ _ => none

/-- The records that the machine wrote itself. -/
def own (trace : List Event) : List Record := trace.filterMap own?

end Event

lemma State.level_missRecord (s : State) (q : Selector) : (s.missRecord q).level = .warn := by
  cases q <;> rfl

/-- What the record of a move tells: the labels of the states that were left and entered, and of
the transition between them. -/
structure Move where
  start : String
  goal : String
  transition : String
  deriving DecidableEq, Repr

namespace Move

/-- The record of a move. -/
def record (v : Move) : Record where
  level := .trace
  message := "lifecycle transition"
  fields := [("start", .text v.start), ("goal", .text v.goal), ("transition", .text v.transition)]

/-- The moves lead from one label to another, each starting at the label where the one before it
ended. -/
def Chain : String → List Move → String → Prop
  | first, [], last => first = last
  | first, v :: moves, last => v.start = first ∧ Chain v.goal moves last

end Move

namespace Machine

variable {β μ : Type} {m : Machine β μ} {s start goal : State} {t : Transition} {a : Attempt}
  {o : Outcome β μ}

/-! ### Attempts -/

/-- An attempt to take a transition: one that is handed over, or the first that leaves the state
occupied and is asked for. -/
inductive Attempt
  | trigger (t : Transition) (announce : Bool)
  | request (q : Selector) (announce : Bool)

/-- Is the move to be announced? -/
def Attempt.announce : Attempt → Bool
  | trigger _ announce => announce
  | request _ announce => announce

/-- The operation that an attempt is. -/
def Attempt.operation : Attempt → Operation β
  | trigger t announce => .trigger t announce
  | request q announce => .request q announce

/-- The transition that an attempt takes, if nothing is missing for it. -/
def taken? (m : Machine β μ) : Attempt → Option Transition
  | .trigger t announce => if m.takes t announce then some t else none
  | .request q announce => (m.current?.bind fun s => s.find? q).filter fun t => m.takes t announce

/-- The record of a miss: a state is occupied, and nothing that leaves it is asked for. -/
def missed? (m : Machine β μ) : Attempt → Option Record
  | .trigger _ _ => none
  | .request q _ =>
      (m.current?.filter fun s => (s.find? q).isNone).map fun s => s.missRecord q

/-- What a fault adds to the records of a move: one warning, with the label of the transition and the
text of the fault. -/
def warnings (t : Transition) : Except Fault Unit → List Record
  | .ok () => []
  | .error fault =>
      [{ level := .warn
         message := s!"state changed but the transition notification failed: {fault.display}"
         fields := [("transition", .text t.label)] }]

/-- The records of an attempt. -/
structure Logs [Boundary β μ] (m : Machine β μ) (a : Attempt) (o : Outcome β μ) : Prop where
  /-- What is taken is recorded once, by the labels of the states occupied before and after it, and
  then with a warning if the result is a fault: the move was to be announced, and that failed. -/
  of_taken : ∀ t, m.taken? a = some t →
    (∃ start goal, m.topology.Resolves t start goal ∧ o.Applies m start goal a.announce) ∧
      Event.own o.trace =
        Move.record ⟨m.currentLabel, o.machine.currentLabel, t.label⟩ :: warnings t o.result
  of_refused : m.taken? a = none →
    o.machine = m ∧ (∃ fault, o.result = .error fault) ∧
      Event.own o.trace = (m.missed? a).toList
  /-- A request that found nothing took nothing, and is recorded as a warning. -/
  of_missed : ∀ record, m.missed? a = some record → m.taken? a = none ∧ record.level = .warn

/-! ### The records of one attempt -/

lemma currentLabel_eq (hs : m.current? = some s) : m.currentLabel = s.label := by
  rw [currentLabel, hs]
  rfl

/-- Without a handle, or with one of another generation, no state is occupied. -/
lemma currentLabel_of_stale
    (hstale : ∀ handle ∈ m.handle, handle.generation ≠ m.topology.generation) :
    m.currentLabel = "" := by
  have hs : m.current? = none :=
    Option.bind_eq_none_iff.mpr fun handle h =>
      Topology.resolve?_of_generation_ne (hstale handle h)
  rw [currentLabel, hs]
  rfl

variable [Boundary β μ]

/-- The records of an announced move: it is told by the labels of both states, and then whether it
could not be announced. -/
lemma own_moveAnnounced (m : Machine β μ) (t : Transition) (start goal : State) (b : β) :
    Event.own (m.moveAnnounced t start goal b).trace =
      Move.record ⟨m.currentLabel, goal.label, t.label⟩ ::
        warnings t (m.moveAnnounced t start goal b).result := by
  simp only [moveAnnounced]
  cases (Boundary.respond (.announce start goal) b m.medium).result <;> rfl

/-- Of what was refused there is no record. -/
lemma logs_refuse (htaken : m.taken? a = none) (hmissed : m.missed? a = none) (fault : Fault) :
    m.Logs a (m.refuse fault) where
  of_taken := by simp [htaken]
  of_refused := fun _ => ⟨rfl, ⟨fault, rfl⟩, by rw [hmissed]; rfl⟩
  of_missed := by simp [hmissed]

/-- Of what was applied there are the records of a move. -/
lemma logs_of_applies (htaken : m.taken? a = some t) (hmissed : m.missed? a = none)
    (hends : m.topology.Resolves t start goal) (happlies : o.Applies m start goal a.announce)
    (hown : Event.own o.trace =
      Move.record ⟨m.currentLabel, goal.label, t.label⟩ :: warnings t o.result) :
    m.Logs a o where
  of_taken := by
    intro t' ht'
    obtain rfl : t = t' := Option.some.inj (htaken.symm.trans ht')
    rw [currentLabel_eq happlies.current?_eq]
    exact ⟨⟨start, goal, hends, happlies⟩, hown⟩
  of_refused := by simp [htaken]
  of_missed := by simp [hmissed]

/-- The records of a transition that is handed over. -/
lemma logs_trigger (m : Machine β μ) (t : Transition) (announce : Bool) :
    m.Logs (.trigger t announce) (m.trigger t announce) := by
  have ho := m.triggered t announce
  generalize m.trigger t announce = o at ho ⊢
  cases ho with
  | refused he => exact logs_refuse (by simp [taken?, takes_of_error he]) rfl _
  | unheld he hb => exact logs_refuse (by simp [taken?, takes_of_endpoints he, hb]) rfl _
  | quiet he =>
      have hends := resolves_iff.mpr he
      exact logs_of_applies (by simp [taken?, takes_of_endpoints he]) rfl hends (applies_move hends)
        rfl
  | announced he hb =>
      have hends := resolves_iff.mpr he
      exact logs_of_applies (by simp [taken?, takes_of_endpoints he, hb]) rfl hends
        (applies_moveAnnounced hends hb) (m.own_moveAnnounced _ _ _ _)

/-- The records of a transition that is asked for: those of the one that is found. -/
lemma logs_request (m : Machine β μ) (q : Selector) (announce : Bool) :
    m.Logs (.request q announce) (m.request q announce) := by
  cases hs : m.current? with
  | none =>
      rw [request_of_none hs]
      exact logs_refuse (by simp [taken?, hs]) (by simp [missed?, hs]) _
  | some s =>
      cases hfind : s.find? q with
      | none =>
          have hmissed : m.missed? (.request q announce) = some (s.missRecord q) := by
            simp [missed?, hs, hfind, Option.filter_some]
          have hnone : m.taken? (.request q announce) = none := by simp [taken?, hs, hfind]
          rw [request_of_miss hs hfind]
          refine ⟨by simp [hnone], fun _ => ⟨rfl, ⟨_, rfl⟩, ?_⟩, fun record hrecord => ?_⟩
          · rw [hmissed]
            rfl
          · obtain rfl := Option.some.inj (hmissed.symm.trans hrecord)
            exact ⟨hnone, s.level_missRecord q⟩
      | some t =>
          have hlogs := m.logs_trigger t announce
          have htaken : m.taken? (.request q announce) = m.taken? (.trigger t announce) := by
            simp [taken?, hs, hfind, Option.filter_some]
          have hmissed : m.missed? (.request q announce) = m.missed? (.trigger t announce) := by
            simp [missed?, hs, hfind, Option.filter_some]
          rw [request_of_find? hs hfind]
          refine ⟨?_, ?_, ?_⟩
          · rw [htaken]
            exact hlogs.of_taken
          · rw [htaken, hmissed]
            exact hlogs.of_refused
          · rw [htaken, hmissed]
            exact hlogs.of_missed

/-- The step: every attempt has these records. -/
lemma logs_perform (m : Machine β μ) (a : Attempt) : m.Logs a (m.perform a.operation) := by
  cases a with
  | trigger t announce => exact m.logs_trigger t announce
  | request q announce => exact m.logs_request q announce

/-! ### Runs -/

/-- The records that the machine writes itself in a run of attempts. -/
def ownLog (m : Machine β μ) : List Attempt → List Record
  | [] => []
  | a :: attempts =>
      Event.own (m.perform a.operation).trace ++ (m.perform a.operation).machine.ownLog attempts

/-- The transitions that are taken in a run of attempts. -/
def takenIn (m : Machine β μ) : List Attempt → List Transition
  | [] => []
  | a :: attempts => (m.taken? a).toList ++ (m.perform a.operation).machine.takenIn attempts

/-- What the log of a run of attempts says of the moves in it. -/
structure Recounts (m : Machine β μ) (attempts : List Attempt) (moves : List Move) : Prop where
  log_eq : (m.ownLog attempts).filter (fun r => r.level = .trace) = moves.map Move.record
  /-- There is one move for each transition that was taken. -/
  transitions_eq : moves.map Move.transition = (m.takenIn attempts).map Transition.label
  /-- Each move starts where the one before it ended. -/
  chain : Move.Chain m.currentLabel moves (m.run (attempts.map Attempt.operation)).currentLabel

/-- The records at the level of moves, of one attempt. -/
lemma Logs.filter_own (h : m.Logs a o) :
    (Event.own o.trace).filter (fun r => r.level = .trace) =
      (m.taken? a).toList.map fun t =>
        Move.record ⟨m.currentLabel, o.machine.currentLabel, t.label⟩ := by
  cases htaken : m.taken? a with
  | some t =>
      obtain ⟨-, hown⟩ := h.of_taken t htaken
      rw [hown]
      cases o.result <;> rfl
  | none =>
      obtain ⟨-, -, hown⟩ := h.of_refused htaken
      rw [hown]
      cases hmissed : m.missed? a with
      | none => rfl
      | some record =>
          obtain ⟨-, hlevel⟩ := h.of_missed record hmissed
          simp [hlevel]

/-- The run: the log recounts the moves of any attempts. -/
lemma exists_recounts (m : Machine β μ) (attempts : List Attempt) :
    ∃ moves, m.Recounts attempts moves := by
  induction attempts generalizing m with
  | nil => exact ⟨[], rfl, rfl, rfl⟩
  | cons a attempts ih =>
      have hlogs := m.logs_perform a
      have hfilter := hlogs.filter_own
      obtain ⟨moves, hlog, htransitions, hchain⟩ := ih (m.perform a.operation).machine
      cases htaken : m.taken? a with
      | some t =>
          rw [htaken] at hfilter
          refine ⟨⟨m.currentLabel, (m.perform a.operation).machine.currentLabel, t.label⟩ :: moves,
            ?_, ?_, rfl, hchain⟩
          · rw [ownLog, List.filter_append, hfilter, hlog]
            rfl
          · rw [takenIn, htaken, List.map_append, ← htransitions]
            rfl
      | none =>
          obtain ⟨hmachine, -, -⟩ := hlogs.of_refused htaken
          rw [htaken] at hfilter
          refine ⟨moves, ?_, ?_, ?_⟩
          · rw [ownLog, List.filter_append, hfilter, hlog]
            rfl
          · rw [takenIn, htaken, List.map_append, ← htransitions]
            rfl
          · rw [hmachine] at hchain
            rwa [List.map_cons, run, hmachine]

/-- **The log spells the walk.** Every attempt to take a transition, on every machine and whatever
its boundary answers, has the records of what came of it. Those of the moves in a run lead from the
state occupied at first to the one that is occupied at the end, each from where the one before it
ended. -/
theorem log_spells_walk (m : Machine β μ) :
    ((∀ handle ∈ m.handle, handle.generation ≠ m.topology.generation) → m.currentLabel = "") ∧
      (∀ a, m.Logs a (m.perform a.operation)) ∧ ∀ attempts, ∃ moves, m.Recounts attempts moves :=
  ⟨currentLabel_of_stale, m.logs_perform, m.exists_recounts⟩

/-- A broadcaster that never came up is put in the place of the one that is held. It cannot announce
the way there, which is told by a warning; the way back is not to be announced. -/
theorem log_spells_walk_unannounced :
    let there : Transition := { id := 1, label := "there", ends := some ⟨7, 8⟩ }
    let back : Transition := { id := 2, label := "back", ends := some ⟨8, 7⟩ }
    let up : Machine Broadcaster (Hub Notice) := Machine.run { medium := {} }
      [.bringUp { node := "talker" } { standardStates := false },
        .edit (.register ⟨7, "seven", []⟩), .edit (.register ⟨8, "eight", []⟩),
        .edit (.connect there), .edit (.connect back), .occupy 7]
    let m : Machine Broadcaster (Hub Notice) :=
      { up with boundary := up.boundary.map fun _ => { node := "talker" } }
    let attempts : List Attempt := [.request (.byLabel "there") true, .trigger back false]
    m.ownLog attempts =
        [⟨.trace, "lifecycle transition",
            [("start", .text "seven"), ("goal", .text "eight"), ("transition", .text "there")]⟩,
          ⟨.warn, "state changed but the transition notification failed: " ++
            "Warn: cannot publish transition event: com interface is not initialized",
            [("transition", .text "there")]⟩,
          ⟨.trace, "lifecycle transition",
            [("start", .text "eight"), ("goal", .text "seven"), ("transition", .text "back")]⟩] ∧
      (∀ a, m.Logs a (m.perform a.operation)) ∧ ∃ moves, m.Recounts attempts moves := by
  intro there back up m attempts
  obtain ⟨-, hlogs, hrecounts⟩ := log_spells_walk m
  exact ⟨rfl, hlogs, hrecounts attempts⟩

/-- The state that was occupied is gone with its topology, and another has its name. What a machine
leaves then has no label; a request that finds nothing does not come between two moves. -/
example :
    let there : Transition := { id := 1, label := "there", ends := some ⟨7, 8⟩ }
    let back : Transition := { id := 2, label := "back", ends := some ⟨8, 7⟩ }
    let m : Machine Silent Unit := Machine.run { medium := () }
      [.bringUp {} { standardStates := false }, .edit (.register ⟨7, "seven", []⟩), .occupy 7,
        .edit .clear, .edit (.register ⟨7, "seven", []⟩), .edit (.register ⟨8, "eight", []⟩),
        .edit (.connect there), .edit (.connect back)]
    m.ownLog [.trigger there true, .request (.byId 9) true, .request (.byLabel "back") false] =
      [Move.record ⟨"", "eight", "there"⟩, State.missRecord ⟨8, "eight", [back]⟩ (.byId 9),
        Move.record ⟨"eight", "seven", "back"⟩] :=
  rfl

end Machine

end ManagedNode
