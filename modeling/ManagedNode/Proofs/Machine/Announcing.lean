import ManagedNode.Proofs.Machine.Taking

/-!
Announcements that tell the truth.

A boundary is told of a move by the two ends of the transition that was triggered. That is the truth
if the machine was at the start of it. A request triggers only what leaves the state occupied; but a
host can hand over any transition, and nothing asks where it starts.

* `Outcome.Truthful`, `Machine.TruthfulRun`: every announcement names the state occupied before the
  operation and the one occupied after it.
* `Machine.Strays`, `Machine.Straight`: a transition is announced that does not leave the state
  occupied; and a run in which that never happens.
* `Machine.truthful_perform_iff`, `Machine.truthfulRun_iff`: an operation tells the truth exactly if
  it does not stray, and so does a run.
* `Machine.truthful_iff_departs`: what this comes to on a reachable machine that occupies a state.
-/

namespace ManagedNode

variable {β μ : Type}

/-! ### What is announced -/

namespace Outcome

/-- What is announced is the state occupied before, and the state occupied after. -/
def Truthful (o : Outcome β μ) (m : Machine β μ) : Prop :=
  ∀ start goal, Call.announce start goal ∈ Event.calls o.trace →
    m.current? = some start ∧ o.machine.current? = some goal

variable {o : Outcome β μ} {m : Machine β μ} {start goal : State} {kind : FaultKind}

/-- Who announces nothing tells no lie. -/
lemma truthful_of_silent (h : ∀ start goal, Call.announce start goal ∉ Event.calls o.trace) :
    o.Truthful m :=
  fun start goal hcall => absurd hcall (h start goal)

lemma truthful_of_calls_eq_nil (h : Event.calls o.trace = []) : o.Truthful m :=
  truthful_of_silent (by simp [h])

lemma Refuses.truthful (h : o.Refuses m kind) : o.Truthful m := truthful_of_calls_eq_nil h.calls_eq

/-- A transition that is taken leads where it is said to lead, so that only its start is left to
ask for. -/
lemma Applies.truthful_iff [Boundary β μ] (h : o.Applies m start goal true) :
    o.Truthful m ↔ m.current? = some start := by
  obtain ⟨-, -, -, -, -, hcalls⟩ := h.of_announced rfl
  constructor
  · intro htruthful
    exact (htruthful start goal (by simp [hcalls])).1
  · intro hstart start' goal' hcall
    obtain ⟨rfl, rfl⟩ : start' = start ∧ goal' = goal := by simpa [hcalls] using hcall
    exact ⟨hstart, h.current?_eq⟩

end Outcome

namespace Machine

variable [Boundary β μ] {m : Machine β μ} {s start goal : State} {t : Transition}

/-! ### One operation -/

/-- The operation announces a transition that does not leave the state occupied. -/
def Strays (m : Machine β μ) : Operation β → Prop
  | .trigger t true => ∃ start goal, m.topology.Resolves t start goal ∧
      m.boundary.isSome = true ∧ m.current? ≠ some start
  | _ => False

/-- Triggering tells the truth unless it strays. -/
lemma truthful_trigger_iff (m : Machine β μ) (t : Transition) (announce : Bool) :
    (m.trigger t announce).Truthful m ↔ ¬m.Strays (.trigger t announce) := by
  have ho := m.triggered t announce
  generalize m.trigger t announce = o at ho ⊢
  cases ho with
  | refused he =>
      refine iff_of_true (Outcome.truthful_of_calls_eq_nil rfl) ?_
      cases announce with
      | false => exact not_false
      | true =>
          rintro ⟨start, goal, hends, -, -⟩
          simp [resolves_iff, he] at hends
  | unheld he hb =>
      refine iff_of_true (Outcome.truthful_of_calls_eq_nil rfl) ?_
      rintro ⟨start, goal, -, hheld, -⟩
      simp [hb] at hheld
  | quiet he => exact iff_of_true (Outcome.truthful_of_calls_eq_nil rfl) not_false
  | @announced start goal b he hb =>
      have hends := resolves_iff.mpr he
      rw [(applies_moveAnnounced hends hb).truthful_iff]
      constructor
      · rintro hstart ⟨start', goal', hends', -, hne⟩
        obtain ⟨rfl, rfl⟩ : start = start' ∧ goal = goal' := by
          simpa [he] using resolves_iff.mp hends'
        exact hne hstart
      · intro hstraight
        by_contra hne
        exact hstraight ⟨start, goal, hends, by simp [hb], hne⟩

omit [Boundary β μ] in
/-- Who triggers an edge from the state occupied does not stray. -/
lemma not_strays_of_edge (hs : m.current? = some s) (hedge : m.topology.Edge s t goal)
    (announce : Bool) : ¬m.Strays (.trigger t announce) := by
  cases announce with
  | false => exact not_false
  | true =>
      rintro ⟨start, goal', hends, -, hne⟩
      obtain rfl : start = s := Option.some.inj (hends.start_eq.symm.trans hedge.resolves.start_eq)
      exact hne hs

/-- Requests never do: what they trigger leaves the state occupied. -/
lemma truthful_request (hwf : m.topology.WellFormed) (q : Selector) (announce : Bool) :
    (m.request q announce).Truthful m := by
  cases hs : m.current? with
  | none => exact ((answers_request hwf q announce).of_unoccupied hs).truthful
  | some s =>
      cases hfind : s.find? q with
      | none =>
          rw [← find?_leaving hwf hs] at hfind
          exact ((answers_request hwf q announce).of_miss s hs hfind).truthful
      | some t =>
          obtain ⟨goal, hedge⟩ := exists_edge_of_find? hwf hs hfind
          rw [request_of_find? hs hfind, truthful_trigger_iff]
          exact not_strays_of_edge hs hedge announce

/-- Coming up and going down are not announced as moves. -/
lemma BroughtUp.truthful {b : β} {options : Options} {o : Outcome β μ}
    (h : BroughtUp m b options o) : o.Truthful m := by
  refine Outcome.truthful_of_silent fun start goal => ?_
  cases h with
  | alreadyUp => simp [refuse, Event.calls]
  | boundaryFailed => simp [Event.calls, Event.call?, Reply.event]
  | furnished _ _ _ hfurnished =>
      cases hfurnished <;> simp [abandon, Event.calls, Event.call?, Reply.event]

lemma truthful_tearDown (m : Machine β μ) : m.tearDown.Truthful m := by
  refine Outcome.truthful_of_silent fun start goal => ?_
  rw [tearDown]
  cases m.boundary with
  | none => simp [Event.calls]
  | some b =>
      cases hr : (Boundary.respond .tearDown b m.medium).result <;>
        simp [Event.calls, Event.call?, Reply.event, hr]

/-- The step: an operation tells the truth exactly if it does not stray. -/
lemma truthful_perform_iff (hwf : m.topology.WellFormed) (op : Operation β) :
    (m.perform op).Truthful m ↔ ¬m.Strays op := by
  cases op with
  | bringUp b options => exact iff_of_true (m.broughtUp b options).truthful not_false
  | loadStandard => exact iff_of_true (Outcome.truthful_of_calls_eq_nil rfl) not_false
  | occupy id =>
      refine iff_of_true (Outcome.truthful_of_calls_eq_nil ?_) not_false
      rcases m.occupy_cases id with ⟨-, ho⟩ | ⟨-, ho⟩ <;>
        (rw [perform, ho]; rfl)
  | trigger t announce => exact m.truthful_trigger_iff t announce
  | request q announce => exact iff_of_true (truthful_request hwf q announce) not_false
  | tearDown => exact iff_of_true m.truthful_tearDown not_false
  | edit e => exact iff_of_true (Outcome.truthful_of_calls_eq_nil rfl) not_false

/-! ### Runs -/

/-- Every operation of the run tells the truth. -/
def TruthfulRun (m : Machine β μ) : List (Operation β) → Prop
  | [] => True
  | op :: ops => (m.perform op).Truthful m ∧ (m.perform op).machine.TruthfulRun ops

/-- No operation of the run strays. -/
def Straight (m : Machine β μ) : List (Operation β) → Prop
  | [] => True
  | op :: ops => ¬m.Strays op ∧ (m.perform op).machine.Straight ops

/-- The run: it tells the truth exactly if it is straight. -/
lemma truthfulRun_iff (h : m.Reachable) (ops : List (Operation β)) :
    m.TruthfulRun ops ↔ m.Straight ops := by
  induction ops generalizing m with
  | nil => exact Iff.rfl
  | cons op ops ih =>
      rw [TruthfulRun, Straight, truthful_perform_iff h.wellFormed, ih (h.perform op)]

omit [Boundary β μ] in
/-- A transition whose ends are registered leaves the state occupied exactly if it names its id. -/
lemma current?_eq_start_iff (hwf : m.topology.WellFormed) (hs : m.current? = some s)
    (hends : m.topology.Resolves t start goal) :
    m.current? = some start ↔ t.start? = some s.id := by
  obtain ⟨id, hid, hstart⟩ := Option.bind_eq_some_iff.mp hends.start_eq
  have hoccupied : m.topology.state? s.id = some s :=
    (Topology.state?_eq_some_iff hwf.ids_nodup).mpr ⟨mem_states_of_current? hs, rfl⟩
  constructor
  · intro hcurrent
    obtain rfl : s = start := Option.some.inj (hs.symm.trans hcurrent)
    rw [hid, Topology.id_of_state? hstart]
  · intro hdeparts
    obtain rfl : id = s.id := Option.some.inj (hid.symm.trans hdeparts)
    rw [hs, ← hoccupied, hstart]

/-- The machine's own record of an announced move names the state that it left, whatever is
announced. -/
lemma wrote_moveRecord {b : β} (hs : m.current? = some s) :
    .wrote (moveRecord s.label goal.label t.label) ∈ (m.moveAnnounced t start goal b).trace := by
  have hlabel : m.currentLabel = s.label := by simp [currentLabel, hs]
  simp [moveAnnounced, hlabel]

/-- **Announcements are truthful exactly where the transition leaves the state occupied.** On a
reachable machine that occupies a state and holds a boundary, triggering a transition with registered
ends announces these ends and moves the machine to the goal, wherever it was before; what the machine
records itself is right in any case. Requests always tell the truth. A run does exactly if it triggers
no transition from where the machine is not. -/
theorem truthful_iff_departs (h : m.Reachable) (hs : m.current? = some s) :
    (∀ t start goal, m.topology.Resolves t start goal → m.boundary.isSome = true →
      Event.calls (m.trigger t true).trace = [.announce start goal] ∧
        (m.trigger t true).machine.current? = some goal ∧
        .wrote (moveRecord s.label goal.label t.label) ∈ (m.trigger t true).trace ∧
        ((m.trigger t true).Truthful m ↔ t.start? = some s.id)) ∧
      (∀ q announce, (m.request q announce).Truthful m) ∧
      ∀ ops, m.TruthfulRun ops ↔ m.Straight ops := by
  refine ⟨fun t start goal hends hheld => ?_, truthful_request h.wellFormed, truthfulRun_iff h⟩
  obtain ⟨b, hb⟩ := Option.isSome_iff_exists.mp hheld
  have htaken : m.trigger t true = m.moveAnnounced t start goal b := by
    rw [trigger, resolves_iff.mp hends, hb]
  have happlies := applies_moveAnnounced hends hb
  obtain ⟨-, -, -, -, -, hcalls⟩ := happlies.of_announced rfl
  rw [htaken]
  refine ⟨hcalls, happlies.current?_eq, wrote_moveRecord hs, ?_⟩
  rw [happlies.truthful_iff, current?_eq_start_iff h.wellFormed hs hends]

/-- Of two ways between the same states, the machine is at the start of one. -/
theorem truthful_iff_departs_between :
    let there : Transition := { id := 1, label := "there", ends := some ⟨7, 8⟩ }
    let back : Transition := { id := 2, label := "back", ends := some ⟨8, 7⟩ }
    let m : Machine Silent Unit := Machine.run { medium := () }
      [.bringUp {} { standardStates := false }, .edit (.register ⟨7, "seven", []⟩),
        .edit (.register ⟨8, "eight", []⟩), .edit (.connect there), .edit (.connect back), .occupy 7]
    m.Reachable ∧ m.current? = some ⟨7, "seven", [there]⟩ ∧ (m.trigger there true).Truthful m ∧
      ¬(m.trigger back true).Truthful m := by
  intro there back m
  have h : m.Reachable := (Reachable.zero ()).run _
  have hs : m.current? = some ⟨7, "seven", [there]⟩ := rfl
  obtain ⟨htrigger, -, -⟩ := truthful_iff_departs h hs
  obtain ⟨-, -, -, hthere⟩ := htrigger there _ _ ⟨rfl, rfl⟩ rfl
  obtain ⟨-, -, -, hback⟩ := htrigger back _ _ ⟨rfl, rfl⟩ rfl
  exact ⟨h, hs, hthere.mpr rfl, fun htruthful => absurd (hback.mp htruthful) (by decide)⟩

/-- A registered transition is triggered from a third state. It is announced as a move from its start,
and recorded as one from the state that was left. -/
theorem announced_from_elsewhere :
    let edge : Transition := { id := 5, label := "go", ends := some ⟨2, 3⟩ }
    let m : Machine Silent Unit := Machine.run { medium := () }
      [.bringUp {} { standardStates := false }, .edit (.register ⟨1, "one", []⟩),
        .edit (.register ⟨2, "two", []⟩), .edit (.register ⟨3, "three", []⟩),
        .edit (.connect edge), .occupy 1]
    m.Reachable ∧ edge ∈ m.topology.transitions ∧ m.current? = some ⟨1, "one", []⟩ ∧
      (m.trigger edge true).result = .ok () ∧
      Event.calls (m.trigger edge true).trace =
        [.announce ⟨2, "two", [edge]⟩ ⟨3, "three", []⟩] ∧
      .wrote (moveRecord "one" "three" "go") ∈ (m.trigger edge true).trace ∧
      ¬(m.trigger edge true).Truthful m := by
  intro edge m
  have h : m.Reachable := (Reachable.zero ()).run _
  have hcalls : Event.calls (m.trigger edge true).trace =
      [.announce ⟨2, "two", [edge]⟩ ⟨3, "three", []⟩] := rfl
  refine ⟨h, .head _, rfl, rfl, hcalls, .tail _ (.head _), fun htruthful => ?_⟩
  obtain ⟨hstart, -⟩ := htruthful _ _ (by rw [hcalls]; exact .head _)
  exact absurd hstart (by decide)

end Machine

end ManagedNode
