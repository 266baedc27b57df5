import ManagedNode.Proofs.Service.Serving

/-!
The notices that a machine sends spell its walk.

* `Visit`, `Shared.serve`, `Shared.after`, `Shared.answers`: requests to the services of a shared
  machine and registrations by its host, one after another.
* `Notice.Chain`: notices of which each starts where the one before it ended.
* `Shared.Served`, `Serves.served`: a visit moves the machine along an edge and sends one notice, or
  refuses, or lets the topology grow.
* `Shared.Spells`: what the notices sent in a run of visits say. It is kept by one more visit
  (`Spells.concat`), and so it holds of every run.
-/

namespace ManagedNode

/-! ### Visits -/

/-- A visit to a shared machine: a request to its services, or a registration by its host. -/
inductive Visit
  | changeState (q : Selector)
  | currentState
  | allStates
  | availableTransitions
  | transitionGraph
  | register (s : State)
  | connect (t : Transition)

/-- The answer to a visit. -/
inductive Answer
  | verdict (v : Verdict)
  | state (r : Except Fault StateDescription)
  | states (r : Except Fault (List StateDescription))
  | transitions (r : Except Fault (List TransitionDescription))
  | registered (r : Except Fault Unit)

/-- Does the answer say that the state was changed? -/
def Answer.isSuccess : Answer → Bool
  | verdict v => v.success
  | _ => false

namespace Shared

/-- The host edits the topology of the machine. -/
def edit (s : Shared) (e : Topology.Edit) : Answer × Shared :=
  let edited := s.machine.perform (.edit e)
  (.registered edited.result, { s with machine := edited.machine })

/-- The answer to a visit, and the machine after it. -/
def serve (s : Shared) : Visit → Answer × Shared
  | .changeState q =>
      let changed := s.changeState q
      (.verdict changed.verdict, changed.shared)
  | .currentState => (.state s.currentState, s)
  | .allStates => (.states s.allStates, s)
  | .availableTransitions => (.transitions s.availableTransitions, s)
  | .transitionGraph => (.transitions s.transitionGraph, s)
  | .register state => s.edit (.register state)
  | .connect t => s.edit (.connect t)

/-- The machine after a run of visits. -/
def after (s : Shared) : List Visit → Shared
  | [] => s
  | v :: visits => (s.serve v).2.after visits

/-- The answers to a run of visits. -/
def answers (s : Shared) : List Visit → List Answer
  | [] => []
  | v :: visits => (s.serve v).1 :: (s.serve v).2.answers visits

/-- How many visits of a run change the state. -/
def successes (s : Shared) (visits : List Visit) : ℕ := (s.answers visits).countP Answer.isSuccess

lemma after_concat (visits : List Visit) (v : Visit) :
    ∀ s : Shared, s.after (visits ++ [v]) = ((s.after visits).serve v).2 := by
  induction visits with
  | nil => exact fun s => rfl
  | cons v' visits ih => exact fun s => ih _

lemma answers_concat (visits : List Visit) (v : Visit) :
    ∀ s : Shared, s.answers (visits ++ [v]) = s.answers visits ++ [((s.after visits).serve v).1] := by
  induction visits with
  | nil => exact fun s => rfl
  | cons v' visits ih => exact fun s => congrArg _ (ih _)

lemma successes_concat (s : Shared) (visits : List Visit) (v : Visit) :
    s.successes (visits ++ [v]) =
      s.successes visits + if ((s.after visits).serve v).1.isSuccess then 1 else 0 := by
  rw [successes, answers_concat, List.countP_append, List.countP_singleton, successes]

end Shared

/-! ### Chains of notices -/

/-- The notices lead from one state to another, each starting where the one before it ended. -/
def Notice.Chain : StateDescription → List Notice → StateDescription → Prop
  | first, [], last => first = last
  | first, notice :: notices, last => notice.start = first ∧ Chain notice.goal notices last

lemma Notice.Chain.append {notices notices' : List Notice} {middle last : StateDescription}
    (h' : Chain middle notices' last) :
    ∀ {first}, Chain first notices middle → Chain first (notices ++ notices') last := by
  induction notices with
  | nil =>
      rintro first rfl
      exact h'
  | cons notice notices ih =>
      rintro first ⟨hstart, hrest⟩
      exact ⟨hstart, ih hrest⟩

namespace Shared

variable {s : Shared} {b : Broadcaster} {channel : ChannelId} {occupied : State} {q : Selector}
  {visits : List Visit} {first last : StateDescription} {notices : List Notice}

/-! ### One visit -/

/-- What a visit can come to while the services answer and a state is occupied. -/
inductive Served (s : Shared) (channel : ChannelId) (occupied : State) :
    Visit → Answer × Shared → Prop
  | moved {q : Selector} {t : Transition} {goal : State}
      (hedge : s.machine.topology.Edge occupied t goal)
      (hcurrent : (s.machine.announced channel occupied goal).current? = some goal) :
      Served s channel occupied (.changeState q)
        (.verdict ⟨true, "transition ok -> " ++ goal.label⟩,
          { s with machine := s.machine.announced channel occupied goal })
  | refused {q : Selector} {fault : Fault} :
      Served s channel occupied (.changeState q) (.verdict (.refused fault), s)
  | grown {v : Visit} {answer : Answer} {topology : Topology} (hv : ∀ q, v ≠ .changeState q)
      (hanswer : answer.isSuccess = false) (hgrows : s.machine.topology.Grows topology) :
      Served s channel occupied v
        (answer, { s with machine := s.machine.withTopology topology })

/-- Every visit comes to one of these. -/
lemma Serves.served (h : s.Serves b channel) (hs : s.machine.current? = some occupied)
    (v : Visit) : s.Served channel occupied v (s.serve v) := by
  have hread {v : Visit} {answer : Answer} (hv : ∀ q, v ≠ .changeState q)
      (hanswer : answer.isSuccess = false) : s.Served channel occupied v (answer, s) :=
    .grown hv hanswer .refl
  cases v with
  | changeState q =>
      rw [serve]
      cases hfind : occupied.find? q with
      | none =>
          obtain ⟨hshared, hverdict⟩ := h.changeState_miss hs hfind
          rw [hshared, hverdict]
          exact .refused
      | some t =>
          obtain ⟨goal, hedge, hverdict, hshared, hcurrent⟩ := h.changeState_hit hs hfind
          rw [hshared] at hcurrent ⊢
          rw [hverdict]
          exact .moved hedge hcurrent
  | currentState => exact hread (by simp) rfl
  | allStates => exact hread (by simp) rfl
  | availableTransitions => exact hread (by simp) rfl
  | transitionGraph => exact hread (by simp) rfl
  | register state =>
      exact .grown (by simp) rfl (s.machine.topology.grows_perform_register state)
  | connect t =>
      exact .grown (by simp) rfl (s.machine.topology.grows_perform_connect t)

/-! ### A run of visits -/

/-- What a request says of the present moment: if it succeeds, then `notice` is the notice of an
edge that leaves the state occupied now; if it does not, then nothing has changed. -/
structure Tells (s : Shared) (q : Selector) (notice : Option Notice) : Prop where
  of_success : (s.changeState q).verdict.success = true →
    ∃ occupied t goal, s.machine.current? = some occupied ∧
      s.machine.topology.Edge occupied t goal ∧ notice = some (.between occupied goal)
  of_failure : (s.changeState q).verdict.success = false → (s.changeState q).shared = s

/-- What the notices that are sent in a run of visits say, when the states occupied before and
after it are told as `first` and `last`. -/
structure Spells (s : Shared) (visits : List Visit) (first : StateDescription)
    (notices : List Notice) (last : StateDescription) : Prop where
  sent_eq : (s.after visits).machine.sent = s.machine.sent ++ notices
  length_eq : notices.length = s.successes visits
  chain : Notice.Chain first notices last
  currentState_eq : (s.after visits).currentState = .ok last
  tells : ∀ before q, before ++ [.changeState q] <+: visits →
    (s.after before).Tells q notices[s.successes before]?

/-- More notices do not change what is told by the ones before. -/
lemma Tells.append {i : ℕ} (h : s.Tells q notices[i]?) (notices' : List Notice) :
    s.Tells q (notices ++ notices')[i]? := by
  refine ⟨fun hsuccess => ?_, h.of_failure⟩
  obtain ⟨occupied, t, goal, hs, hedge, hnotice⟩ := h.of_success hsuccess
  obtain ⟨hi, -⟩ := List.getElem?_eq_some_iff.mp hnotice
  exact ⟨occupied, t, goal, hs, hedge, by rw [List.getElem?_append_left hi, hnotice]⟩

/-- One more visit, with the notices that it sends. -/
lemma Spells.concat {v : Visit} {answer : Answer} {next : Shared} {notices' : List Notice}
    {last' : StateDescription} (h : s.Spells visits first notices last)
    (hserve : (s.after visits).serve v = (answer, next))
    (hsent : next.machine.sent = (s.after visits).machine.sent ++ notices')
    (hlength : notices'.length = if answer.isSuccess then 1 else 0)
    (hchain : Notice.Chain last notices' last') (hlast : next.currentState = .ok last')
    (htells : ∀ q, v = .changeState q → (s.after visits).Tells q notices'.head?) :
    s.Spells (visits ++ [v]) first (notices ++ notices') last' where
  sent_eq := by rw [after_concat, hserve, hsent, h.sent_eq, List.append_assoc]
  length_eq := by rw [List.length_append, h.length_eq, hlength, successes_concat, hserve]
  chain := hchain.append h.chain
  currentState_eq := by rw [after_concat, hserve, hlast]
  tells := by
    intro before q hbefore
    rcases List.prefix_concat_iff.mp hbefore with heq | hprefix
    · obtain ⟨rfl, hv⟩ := List.append_inj' heq rfl
      have hget : (notices ++ notices')[s.successes before]? = notices'.head? := by
        rw [← h.length_eq, List.getElem?_append_right le_rfl, Nat.sub_self, List.head?_eq_getElem?]
      rw [hget]
      exact htells q (List.singleton_inj.mp hv).symm
    · exact (h.tells before q hprefix).append notices'

/-- The step: the services answer after one more visit, and the notices spell the walk up to
there. -/
lemma Serves.spells_concat {now : State} {v : Visit} (h : (s.after visits).Serves b channel)
    (hnow : (s.after visits).machine.current? = some now)
    (hspells : s.Spells visits first notices now.description) :
    ∃ notices now, (s.after (visits ++ [v])).Serves b channel ∧
      (s.after (visits ++ [v])).machine.current? = some now ∧
      s.Spells (visits ++ [v]) first notices now.description := by
  have hserved := h.served hnow v
  rw [after_concat]
  generalize hserve : (s.after visits).serve v = served at hserved
  cases hserved with
  | @moved q t goal hedge hcurrent =>
      have hserves := h.announced now goal
      have hverdict : ((s.after visits).changeState q).verdict =
          ⟨true, "transition ok -> " ++ goal.label⟩ := by
        simp only [serve, Prod.mk.injEq, Answer.verdict.injEq] at hserve
        exact hserve.1
      refine ⟨_, goal, hserves, hcurrent, hspells.concat hserve (h.sent_announced now goal) rfl
        ⟨rfl, rfl⟩ (hserves.currentState_eq hcurrent) ?_⟩
      rintro q' ⟨⟩
      refine ⟨fun _ => ⟨now, t, goal, hnow, hedge, rfl⟩, fun hfailure => ?_⟩
      rw [hverdict] at hfailure
      cases hfailure
  | @refused q fault =>
      obtain ⟨hverdict, hshared⟩ : ((s.after visits).changeState q).verdict = .refused fault ∧
          ((s.after visits).changeState q).shared = s.after visits := by
        simpa [serve] using hserve
      refine ⟨_, now, h, hnow, hspells.concat hserve (List.append_nil _).symm rfl rfl
        (h.currentState_eq hnow) ?_⟩
      rintro q' ⟨⟩
      refine ⟨fun hsuccess => ?_, fun _ => hshared⟩
      rw [hverdict] at hsuccess
      cases hsuccess
  | grown hv hanswer hgrows =>
      obtain ⟨now', hnow', hdescription⟩ := Machine.current?_withTopology hgrows.toExtends hnow
      have hserves := h.withTopology hgrows
      have hlast := hserves.currentState_eq hnow'
      refine ⟨_, now', hserves, hnow', hspells.concat hserve (List.append_nil _).symm
        (by simp [hanswer]) hdescription.symm hlast ?_⟩
      exact fun q hq => absurd hq (hv q)

/-- The run: the services answer throughout, and the notices spell the walk to the state that is
occupied at the end. The induction is on the last visit, since the chain grows at its end. -/
lemma Serves.spells (h : s.Serves b channel) (hs : s.machine.current? = some occupied)
    (visits : List Visit) :
    ∃ notices now, (s.after visits).Serves b channel ∧
      (s.after visits).machine.current? = some now ∧
      s.Spells visits occupied.description notices now.description := by
  induction visits using List.reverseRecOn with
  | nil =>
      refine ⟨[], occupied, h, hs, by simp [after], rfl, rfl, h.currentState_eq hs, ?_⟩
      intro before q hbefore
      simp at hbefore
  | append_singleton visits v ih =>
      obtain ⟨notices, now, hserves, hnow, hspells⟩ := ih
      exact hserves.spells_concat hnow hspells

/-- **Announcements spell the walk.** While the services of a reachable machine are asked to change
its state, in any order with requests that only read and with registrations by the host, one
notice is sent for every success, on the channel of the boundary held at first; the notices lead
from the state occupied at first to the one that is answered at the end, each along an edge that
left the state occupied at its moment; and a request that fails changes nothing. -/
theorem announcements_spell_walk (h : s.machine.Reachable) (hpoisoned : s.poisoned = false)
    (hserving : s.machine.boundary.any Broadcaster.serving = true)
    (hs : s.machine.current? = some occupied) (visits : List Visit) :
    (s.after visits).machine.boundary = s.machine.boundary ∧
      ∃ notices last, s.Spells visits occupied.description notices last := by
  obtain ⟨b, channel, hserves⟩ := exists_serves h hpoisoned hserving
  obtain ⟨notices, now, hserves', -, hspells⟩ := hserves.spells hs visits
  exact ⟨hserves'.boundary_eq.trans hserves.boundary_eq.symm, notices, now.description, hspells⟩

/-- A loop taken once, between a request for the state and a request for nothing that leaves it. -/
theorem announcements_spell_walk_loop :
    let loop : Transition := { id := 1, label := "again", ends := some ⟨7, 7⟩ }
    let m : BroadcastMachine := Machine.run { medium := {} }
      [.bringUp { node := "talker" } { standardStates := false },
        .edit (.register ⟨7, "seven", []⟩), .edit (.connect loop), .occupy 7]
    let s : Shared := { machine := m }
    let visits : List Visit :=
      [.changeState (.byLabel "again"), .currentState, .changeState (.byId 9)]
    s.machine.Reachable ∧ s.poisoned = false ∧
      s.machine.boundary.any Broadcaster.serving = true ∧
      s.machine.current? = some ⟨7, "seven", [loop]⟩ ∧ s.successes visits = 1 ∧
      (s.after visits).machine.boundary = s.machine.boundary ∧
      ∃ notices last, s.Spells visits ⟨7, "seven"⟩ notices last := by
  intro loop m s visits
  have h : s.machine.Reachable := by
    refine .perform _ (.perform _ (.perform _ (.perform _ (.zero {}) ?_) ?_) ?_) ?_
    · rintro b options ⟨⟩
      exact .ofNode _ _
    all_goals exact nofun
  have hs : s.machine.current? = some ⟨7, "seven", [loop]⟩ := rfl
  exact ⟨h, rfl, rfl, hs, rfl, announcements_spell_walk h rfl rfl hs visits⟩

end Shared

end ManagedNode
