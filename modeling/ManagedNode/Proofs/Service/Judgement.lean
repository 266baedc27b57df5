import ManagedNode.Proofs.Machine.Taking
import ManagedNode.Proofs.Service.Serving

/-!
What is told of a request, against what came of it.

Whether a request changed anything is told from its result and from the ids of the states occupied
before and after: a fault after which another state is occupied came from announcing a move that
stands. Over boundaries whose announcements may fail in any way, this is the truth about every move
to another state. A loop is taken without a change of state, so that a loop that could not be
announced passes for a request that was refused.

* `Machine.verdict`: the verdict on a request that is announced, over any boundary.
* `Machine.Offers`, `Machine.Follows`: a transition that leaves the state occupied is asked for, and
  the edge that the request goes along then (`Machine.offers_iff`).
* `Machine.Follows.verdict_eq`: the verdict on a request that goes along an edge.
* `Machine.Judged`, `Machine.judged_request`: every verdict on a reachable machine, and when exactly
  it is true. These are the verdicts that services tell (`Shared.verdict_changeState`).
-/

namespace ManagedNode

/-- The verdict on a request that is to be announced, from its result and from the ids of the states
occupied before and after. -/
def Machine.verdict {β μ : Type} [Boundary β μ] (m : Machine β μ) (q : Selector) : Verdict :=
  (Verdict.ofTrigger (m.request q true).result (m.current?.map State.id)
    (m.request q true).machine.current?).1

/-- A machine that serves requests tells this verdict. -/
lemma Shared.verdict_changeState (s : Shared) (h : s.gate = .ok s.machine) (q : Selector) :
    (s.changeState q).verdict = s.machine.verdict q := by
  rw [changeState, h]
  rfl

namespace Machine

variable {β μ : Type} {m : Machine β μ} {b : β} {q : Selector} {s goal : State} {t : Transition}

/-! ### What is asked for -/

/-- A transition that leaves the state occupied is asked for. -/
def Offers (m : Machine β μ) (q : Selector) : Prop :=
  ∃ s, m.current? = some s ∧ ∃ t ∈ m.topology.leaving s.id, q.selects t = true

/-- Of the transitions that leave the state occupied, `t` is the first that is asked for, and leads
from there to `goal`. -/
structure Follows (m : Machine β μ) (q : Selector) (s : State) (t : Transition) (goal : State) :
    Prop where
  current?_eq : m.current? = some s
  find?_eq : (m.topology.leaving s.id).find? q.selects = some t
  edge : m.topology.Edge s t goal

/-- Whatever is offered leads somewhere. -/
lemma offers_iff (hwf : m.topology.WellFormed) :
    m.Offers q ↔ ∃ s t goal, m.Follows q s t goal := by
  constructor
  · rintro ⟨s, hs, hsome⟩
    obtain ⟨t, ht⟩ := Option.isSome_iff_exists.mp (List.find?_isSome.mpr hsome)
    have hfind : s.find? q = some t := by rw [← find?_leaving hwf hs, ht]
    obtain ⟨goal, hedge⟩ := exists_edge_of_find? hwf hs hfind
    exact ⟨s, t, goal, hs, ht, hedge⟩
  · rintro ⟨s, t, goal, h⟩
    exact ⟨s, h.current?_eq, t, List.mem_of_find?_eq_some h.find?_eq, List.find?_some h.find?_eq⟩

/-- An edge that leads to the id where it starts leads to the state where it starts. -/
lemma Follows.eq_of_id_eq (h : m.Follows q s t goal) (hid : goal.id = s.id) : goal = s := by
  have hgoal := h.edge.goal_eq
  rw [hid, h.edge.start_eq] at hgoal
  exact (Option.some.inj hgoal).symm

/-! ### Verdicts -/

variable [Boundary β μ]

/-- A request goes along the edge that it follows, and that is announced. -/
lemma Follows.request_eq (hwf : m.topology.WellFormed) (h : m.Follows q s t goal)
    (hb : m.boundary = some b) : m.request q true = m.moveAnnounced t s goal b := by
  have hfind : s.find? q = some t := by rw [← find?_leaving hwf h.current?_eq, h.find?_eq]
  rw [request_of_find? h.current?_eq hfind, trigger_of_edge h.edge hb]

/-- The verdict on a request that goes along an edge: a fault is told as a success that could not be
announced, unless the edge is a loop. -/
lemma Follows.verdict_eq (hwf : m.topology.WellFormed) (h : m.Follows q s t goal)
    (hb : m.boundary = some b) :
    m.verdict q = match (m.request q true).result with
      | .ok () => ⟨true, s!"transition ok -> {goal.label}"⟩
      | .error fault =>
          if goal = s then .refused fault
          else ⟨true,
            s!"transition ok -> {goal.label}, notification failed: {fault.display}"⟩ := by
  have hafter : (m.request q true).machine.current? = some goal := by
    rw [h.request_eq hwf hb]
    exact current?_moveTo h.edge.goal_eq
  rw [verdict, hafter, h.current?_eq]
  cases (m.request q true).result with
  | ok => rfl
  | error fault =>
      have hiff : goal.id = s.id ↔ goal = s := ⟨h.eq_of_id_eq, congrArg State.id⟩
      by_cases hloop : goal = s
      · simp [Verdict.ofTrigger, hloop]
      · simp [Verdict.ofTrigger, hloop, hiff]

/-- The request goes along a loop, and that cannot be announced. -/
def Circles (m : Machine β μ) (q : Selector) : Prop :=
  ∃ s t fault, m.Follows q s t s ∧ (m.request q true).result = .error fault

/-- What is told of a request, and what came of it. -/
structure Judged (m : Machine β μ) (q : Selector) : Prop where
  /-- Success is told of what was offered, but for loops that could not be announced. -/
  success_iff : (m.verdict q).success = true ↔ m.Offers q ∧ ¬m.Circles q
  /-- Whatever was offered was taken, loops included, and a failed announcement is in the message. -/
  of_follows : ∀ s t goal, m.Follows q s t goal →
    (m.request q true).Applies m s goal true ∧
      m.verdict q = match (m.request q true).result with
        | .ok () => ⟨true, s!"transition ok -> {goal.label}"⟩
        | .error fault =>
            if goal = s then .refused fault
            else ⟨true, s!"transition ok -> {goal.label}, notification failed: {fault.display}"⟩
  of_not_offers : ¬m.Offers q →
    (m.request q true).machine = m ∧
      ∃ fault, fault.kind = .invalidArgument ∧ m.verdict q = .refused fault

/-- A request for which nothing is offered comes to nothing, and that is told. -/
lemma verdict_of_not_offers (hwf : m.topology.WellFormed) (h : ¬m.Offers q) :
    (m.request q true).machine = m ∧
      ∃ fault, fault.kind = .invalidArgument ∧ m.verdict q = .refused fault := by
  have hrefuses : (m.request q true).Refuses m .invalidArgument := by
    have hanswers := answers_request hwf q true
    cases hs : m.current? with
    | none => exact hanswers.of_unoccupied hs
    | some s =>
        refine hanswers.of_miss s hs (List.find?_eq_none.mpr fun t ht hselects => ?_)
        exact h ⟨s, hs, t, ht, hselects⟩
  obtain ⟨fault, hresult, hkind⟩ := hrefuses.result_eq
  refine ⟨hrefuses.machine_eq, fault, hkind, ?_⟩
  rw [verdict, hrefuses.machine_eq, hresult]
  simp [Verdict.ofTrigger]

/-- Success is told of a request that goes along an edge, unless this is a loop that could not be
announced. -/
lemma Follows.success_iff (hwf : m.topology.WellFormed) (h : m.Follows q s t goal)
    (hb : m.boundary = some b) : (m.verdict q).success = true ↔ ¬m.Circles q := by
  -- Only one edge is followed, so that a loop that is followed is this one.
  have hloop : ∀ {s' t'}, m.Follows q s' t' s' → goal = s := by
    intro s' t' h'
    obtain rfl : s = s' := Option.some.inj (h.current?_eq.symm.trans h'.current?_eq)
    obtain rfl : t = t' := Option.some.inj (h.find?_eq.symm.trans h'.find?_eq)
    have hends := h.edge.ends_eq.symm.trans h'.edge.ends_eq
    exact h.eq_of_id_eq (by simpa using hends)
  rw [h.verdict_eq hwf hb]
  cases hresult : (m.request q true).result with
  | ok =>
      have hnot : ¬m.Circles q := by
        rintro ⟨s', t', fault, -, hfault⟩
        rw [hresult] at hfault
        cases hfault
      simp [hnot]
  | error fault =>
      by_cases hgoal : goal = s
      · subst hgoal
        have hcircles : m.Circles q := ⟨_, t, fault, h, hresult⟩
        simp [hcircles, Verdict.refused]
      · have hnot : ¬m.Circles q := by
          rintro ⟨s', t', fault', h', -⟩
          exact hgoal (hloop h')
        simp [hgoal, hnot]

/-- **What is told of a request is true, but for loops that could not be announced**, on every
reachable machine that holds a boundary, whatever this answers; and this is what services tell. -/
theorem judged_request (h : m.Reachable) (hb : m.boundary.isSome = true) (q : Selector) :
    m.Judged q ∧ ∀ s : Shared, s.gate = .ok s.machine →
      (s.changeState q).verdict = s.machine.verdict q := by
  have hwf := h.wellFormed
  obtain ⟨b, hb⟩ := Option.isSome_iff_exists.mp hb
  refine ⟨?_, fun s hs => s.verdict_changeState hs q⟩
  constructor
  · by_cases hoffers : m.Offers q
    · obtain ⟨s, t, goal, hfollows⟩ := (offers_iff hwf).mp hoffers
      simp [hoffers, hfollows.success_iff hwf hb]
    · obtain ⟨-, fault, -, hverdict⟩ := verdict_of_not_offers hwf hoffers
      simp [hoffers, hverdict, Verdict.refused]
  · intro s t goal hfollows
    refine ⟨?_, hfollows.verdict_eq hwf hb⟩
    rw [hfollows.request_eq hwf hb]
    exact applies_moveAnnounced hfollows.edge.resolves hb
  · exact verdict_of_not_offers hwf

/-- A broadcaster that was taken down in place cannot announce the way to the other state: that is
told as a success, with what the broadcaster answered. -/
theorem judged_request_unannounced :
    let there : Transition := { id := 1, label := "there", ends := some ⟨7, 8⟩ }
    let up : Machine Broadcaster (Hub Notice) := Machine.run { medium := {} }
      [.bringUp { node := "talker" } { standardStates := false },
        .edit (.register ⟨7, "seven", []⟩), .edit (.register ⟨8, "eight", []⟩),
        .edit (.connect there), .occupy 7]
    ∃ down, up.callHeld .tearDown = some down ∧
      let m : Machine Broadcaster (Hub Notice) := down.machine
      m.Reachable ∧ m.boundary.isSome = true ∧
        m.Follows (.byLabel "there") ⟨7, "seven", [there]⟩ there ⟨8, "eight", []⟩ ∧
        m.verdict (.byLabel "there") =
          ⟨true, "transition ok -> eight, notification failed: " ++
            "Warn: cannot publish transition event: com interface is not initialized"⟩ ∧
        m.Judged (.byLabel "there") := by
  intro there up
  refine ⟨_, rfl, ?_⟩
  intro m
  have hup : up.Reachable := (Reachable.zero _).run _
  have h : m.Reachable := hup.callHeld rfl
  have hedge : m.topology.Edge ⟨7, "seven", [there]⟩ there ⟨8, "eight", []⟩ :=
    ⟨.head _, rfl, rfl, rfl⟩
  exact ⟨h, rfl, ⟨rfl, rfl, hedge⟩, by decide, (judged_request h rfl _).1⟩

/-- The loop at the state occupied is offered and taken, but told as refused. -/
theorem taken_loop_told_as_refused :
    let loop : Transition := { id := 1, label := "again", ends := some ⟨7, 7⟩ }
    let up : Machine Broadcaster (Hub Notice) := Machine.run { medium := {} }
      [.bringUp { node := "talker" } { standardStates := false },
        .edit (.register ⟨7, "seven", []⟩), .edit (.connect loop), .occupy 7]
    ∃ down, up.callHeld .tearDown = some down ∧
      let m : Machine Broadcaster (Hub Notice) := down.machine
      m.Reachable ∧ m.boundary.isSome = true ∧
        m.Follows (.byId 1) ⟨7, "seven", [loop]⟩ loop ⟨7, "seven", [loop]⟩ ∧
        m.verdict (.byId 1) = .refused (.broadcasterDown "publish transition event") ∧
        ¬((m.verdict (.byId 1)).success = true ↔ m.Offers (.byId 1)) := by
  intro loop up
  refine ⟨_, rfl, ?_⟩
  intro m
  have hup : up.Reachable := (Reachable.zero _).run _
  have hedge : m.topology.Edge ⟨7, "seven", [loop]⟩ loop ⟨7, "seven", [loop]⟩ :=
    ⟨.head _, rfl, rfl, rfl⟩
  have hoffers : m.Offers (.byId 1) := ⟨_, rfl, loop, .head _, rfl⟩
  have hverdict : m.verdict (.byId 1) = .refused (.broadcasterDown "publish transition event") := by
    decide
  refine ⟨hup.callHeld rfl, rfl, ⟨rfl, rfl, hedge⟩, hverdict, fun hiff => ?_⟩
  have hsuccess := hiff.mpr hoffers
  rw [hverdict] at hsuccess
  cases hsuccess

end Machine

end ManagedNode
