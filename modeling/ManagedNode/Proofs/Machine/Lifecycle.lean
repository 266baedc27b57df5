import Mathlib.Data.List.Find
import ManagedNode.Proofs.Machine.Request
import ManagedNode.Proofs.Topology.Standard

/-!
The standard lifecycle is walked as its table says, on any host.

A machine finds its way by what is registered: it scans the copies of the transitions that leave the
state it occupies, and looks their ends up in a topology that the host may have filled before. The
table of the standard lifecycle says where each request leads. Here the two are compared along runs
of requests.

* `Standard.Leads`, `Standard.next?`, `Standard.walk`: where the rows of the table lead. At most one
  row answers a request in a state (`Standard.row_unique`), so that reading the table in its order
  says the same as any row that answers (`Standard.next?_eq_some_iff`).
* `Standard.Orderly`: the shape of the lifecycle, which every row keeps.
* `Machine.Stands`: a machine that occupies a standard state of a loaded lifecycle. A request keeps
  this (`Stands.perform`), and so does a run of requests (`Stands.run`).
* `Machine.standard_walk`: the walk of every machine that has loaded the lifecycle.
-/

namespace ManagedNode

/-! ### The table -/

lemma Verb.label_injective {v v' : Verb} (h : v.label = v'.label) : v = v' := by
  cases v <;> cases v' <;> simp_all [Verb.label]

namespace Standard

variable {now next : StandardState} {q : Selector} {r : Row}

/-- Some row of the table starts at `now`, answers the request and ends at `next`. -/
def Leads (now : StandardState) (q : Selector) (next : StandardState) : Prop :=
  ∃ r ∈ rows, r.start = now ∧ q.selects r.transition = true ∧ r.goal = next

/-- The first row that starts at `now` and answers the request. -/
def row? (now : StandardState) (q : Selector) : Option Row :=
  rows.find? fun r => r.start = now ∧ q.selects r.transition = true

/-- Where the table leads from `now`, if a row answers the request. -/
def next? (now : StandardState) (q : Selector) : Option StandardState := (row? now q).map Row.goal

/-- Where requests lead from `now`, one after another; one that no row answers leads nowhere. -/
def walk (now : StandardState) : List Selector → StandardState
  | [] => now
  | q :: requests => walk ((next? now q).getD now) requests

/-- Two rows that start at the same state differ in their ids and in their labels. -/
lemma row_unique : ∀ r ∈ rows, ∀ r' ∈ rows, r.start = r'.start →
    r.id = r'.id ∨ r.verb = r'.verb → r = r' := by
  decide

/-- Two rows that start at the same state do not answer the same request. -/
lemma eq_of_selects {r' : Row} (hr : r ∈ rows) (hr' : r' ∈ rows) (hstart : r.start = r'.start)
    (hq : q.selects r.transition = true) (hq' : q.selects r'.transition = true) : r = r' := by
  refine row_unique r hr r' hr' hstart ?_
  cases q with
  | byId id => exact Or.inl ((eq_of_beq hq).trans (eq_of_beq hq').symm)
  | byLabel label => exact Or.inr (Verb.label_injective ((eq_of_beq hq).trans (eq_of_beq hq').symm))

lemma row?_eq_some_iff :
    row? now q = some r ↔ r ∈ rows ∧ r.start = now ∧ q.selects r.transition = true := by
  constructor
  · intro h
    have hanswers := List.find?_some h
    rw [decide_eq_true_eq] at hanswers
    exact ⟨List.mem_of_find?_eq_some h, hanswers⟩
  · rintro ⟨hr, hstart, hq⟩
    refine Topology.find?_eq_some_of_unique hr (decide_eq_true ⟨hstart, hq⟩) fun r' hr' hanswers => ?_
    obtain ⟨hstart', hq'⟩ := of_decide_eq_true hanswers
    exact eq_of_selects hr' hr (hstart'.trans hstart.symm) hq' hq

/-- Reading the table in its order finds what any row says. -/
lemma next?_eq_some_iff : next? now q = some next ↔ Leads now q next := by
  simp only [next?, Option.map_eq_some_iff, row?_eq_some_iff, Leads, and_assoc]

lemma next?_eq_none_iff : next? now q = none ↔ ∀ next, ¬ Leads now q next := by
  simp only [Option.eq_none_iff_forall_ne_some, ne_eq, next?_eq_some_iff]

/-- The shape of the lifecycle, for a row that leads from `now` to `next`. -/
structure Orderly (now next : StandardState) : Prop where
  ne_unknown : next ≠ .unknown
  of_primary : now.state.isPrimary = true → next.state.isPrimary = false
  of_transition : now.state.isPrimary = false →
    next.state.isPrimary = true ∨ next = .errorProcessing
  of_errorProcessing : now = .errorProcessing → next = .unconfigured ∨ next = .finalized
  ne_finalized : now ≠ .finalized

lemma orderly_of_mem (hr : r ∈ rows) : Orderly r.start r.goal where
  ne_unknown := by revert r; decide
  of_primary := by revert r; decide
  of_transition := by revert r; decide
  of_errorProcessing := by revert r; decide
  ne_finalized := by revert r; decide

lemma Leads.orderly (h : Leads now q next) : Orderly now next := by
  obtain ⟨r, hr, rfl, -, rfl⟩ := h
  exact orderly_of_mem hr

/-- No row starts at the final state. -/
lemma row?_finalized (q : Selector) : row? .finalized q = none := by
  rw [← Option.map_eq_none_iff, ← next?, next?_eq_none_iff]
  intro next h
  exact h.orderly.ne_finalized rfl

lemma walk_ne_unknown (requests : List Selector) (hnow : now ≠ .unknown) :
    walk now requests ≠ .unknown := by
  induction requests generalizing now with
  | nil => exact hnow
  | cons q requests ih =>
      refine ih ?_
      cases hnext : next? now q with
      | none => exact hnow
      | some next => exact (next?_eq_some_iff.mp hnext).orderly.ne_unknown

end Standard

open Standard (Row)

/-- What a standard state keeps for a request is the transition of the row that answers it. -/
lemma StandardState.find?_loaded (now : StandardState) (q : Selector) :
    now.loaded.find? q = (Standard.row? now q).map Row.transition := by
  simp only [State.find?, loaded, along, List.find?_map, List.find?_filter, Standard.row?]
  congr 2
  funext r
  simp

/-- The rows of the table are edges of every topology that has loaded them. -/
lemma Topology.edge_joined {host : Topology} (hnodup : host.ids.Nodup)
    (hfree : ∀ s : StandardState, s.id ∉ host.ids) {r : Row} (hr : r ∈ Standard.rows) :
    (host.joined Standard.rows).Edge r.start.loaded r.transition r.goal.loaded where
  mem := List.mem_append_right _ (List.mem_map_of_mem hr)
  ends_eq := rfl
  start_eq := state?_joined hnodup hfree r.start
  goal_eq := state?_joined hnodup hfree r.goal

/-! ### Machines that walk -/

/-- A request made of a machine, with or without an announcement. -/
structure Request where
  selector : Selector
  announce : Bool
  deriving DecidableEq, Repr

namespace Machine

variable {β μ : Type} [Boundary β μ] {m : Machine β μ} {host : Topology} {held : Bool}
  {now : StandardState} {r : Request} {row : Row}

/-- A request as an operation of a machine. -/
def Operation.ofRequest (r : Request) : Operation β := .request r.selector r.announce

/-- A machine that has loaded the standard lifecycle into a host, and occupies one of its states. -/
structure Stands (m : Machine β μ) (host : Topology) (held : Bool) (now : StandardState) :
    Prop where
  nodup : host.ids.Nodup
  free : ∀ s : StandardState, s.id ∉ host.ids
  topology_eq : m.topology = host.joined Standard.rows
  current?_eq : m.current? = some now.loaded
  isSome_boundary : m.boundary.isSome = held

omit [Boundary β μ] in
/-- Loading the standard lifecycle succeeds just when none of its ids is taken. -/
lemma loadStandard_eq_ok_iff (hm : m.topology.ids.Nodup) :
    m.loadStandard.1 = .ok () ↔ ∀ s : StandardState, s.id ∉ m.topology.ids := by
  rw [← Topology.taken?_eq_none_iff]
  rcases m.loadStandard_cases with ⟨loaded, hw, hl⟩ | ⟨fault, hw, hl⟩
  · rw [hl, Topology.taken?_eq_none_iff]
    exact iff_of_true rfl (Topology.eq_joined_of_withStandard hm hw).1
  · obtain ⟨s, htaken, rfl⟩ := Topology.taken?_of_withStandard hm hw
    rw [hl, htaken]
    exact iff_of_false nofun nofun

namespace Stands

omit [Boundary β μ] in
/-- A machine that has loaded the lifecycle occupies its initial state. -/
lemma loadStandard (hm : m.topology.ids.Nodup) (hload : m.loadStandard.1 = .ok ()) :
    m.loadStandard.2.Stands m.topology m.boundary.isSome .initial := by
  rcases m.loadStandard_cases with ⟨loaded, hw, hl⟩ | ⟨fault, -, hl⟩
  · obtain ⟨hfree, rfl⟩ := Topology.eq_joined_of_withStandard hm hw
    rw [hl]
    refine ⟨hm, hfree, rfl, ?_, rfl⟩
    exact Topology.bind_handle?_resolve?.trans (Topology.state?_joined hm hfree .initial)
  · rw [hl] at hload
    cases hload

/-- A request that a row answers moves the machine to the goal of the row. -/
lemma request_of_row (h : m.Stands host held now)
    (hrow : Standard.row? now r.selector = some row) (hheld : r.announce = true → held = true) :
    (m.request r.selector r.announce).machine.Stands host held row.goal ∧
      (r.announce = false → (m.request r.selector r.announce).result = .ok ()) := by
  have hfind : now.loaded.find? r.selector = some row.transition := by
    rw [StandardState.find?_loaded, hrow]
    rfl
  -- The ends are looked up in the whole topology, where the host has taken none of their ids.
  obtain ⟨hmem, rfl, -⟩ := Standard.row?_eq_some_iff.mp hrow
  have hedge := Topology.edge_joined h.nodup h.free hmem
  rw [← h.topology_eq] at hedge
  have hmoved : (m.moveTo row.goal.loaded).current? = some row.goal.loaded :=
    current?_moveTo hedge.goal_eq
  rw [request_of_find? h.current?_eq hfind, trigger, endpoints_of_edge hedge]
  cases hannounce : r.announce with
  | false =>
      refine ⟨?_, fun _ => rfl⟩
      exact ⟨h.nodup, h.free, h.topology_eq, hmoved, h.isSome_boundary⟩
  | true =>
      have hsome : m.boundary.isSome = true := h.isSome_boundary.trans (hheld hannounce)
      obtain ⟨b, hb⟩ := Option.isSome_iff_exists.mp hsome
      rw [hb]
      refine ⟨?_, by simp⟩
      exact ⟨h.nodup, h.free, h.topology_eq, hmoved, (hheld hannounce).symm⟩

/-- A request that no row answers is refused and changes nothing. -/
lemma request_of_none (h : m.Stands host held now)
    (hrow : Standard.row? now r.selector = none) :
    (m.request r.selector r.announce).machine = m ∧
      ∃ fault, (m.request r.selector r.announce).result = .error fault ∧
        fault.kind = .invalidArgument := by
  have hfind : now.loaded.find? r.selector = none := by
    rw [StandardState.find?_loaded, hrow]
    rfl
  rw [request_of_miss h.current?_eq hfind]
  exact ⟨rfl, _, rfl, State.kind_missFault _ _⟩

/-- The step: after a request, the machine occupies the state where the table leads. -/
lemma perform (h : m.Stands host held now) (hheld : r.announce = true → held = true) :
    (m.perform (.ofRequest r)).machine.Stands host held
      ((Standard.next? now r.selector).getD now) := by
  rw [Standard.next?]
  cases hrow : Standard.row? now r.selector with
  | some row =>
      obtain ⟨hmoved, -⟩ := h.request_of_row hrow hheld
      exact hmoved
  | none =>
      obtain ⟨hsame, -⟩ := h.request_of_none hrow
      show (m.request r.selector r.announce).machine.Stands host held now
      rw [hsame]
      exact h

/-- The run: after any requests, the machine occupies the state where they lead by the table. -/
lemma run {requests : List Request} (h : m.Stands host held now)
    (hheld : ∀ r ∈ requests, r.announce = true → held = true) :
    (m.run (requests.map .ofRequest)).Stands host held
      (Standard.walk now (requests.map Request.selector)) := by
  induction requests generalizing m now with
  | nil => exact h
  | cons r requests ih =>
      obtain ⟨hr, hrest⟩ := List.forall_mem_cons.mp hheld
      exact ih (h.perform hr) hrest

/-- In the final state every request is refused, and nothing changes ever after. -/
lemma run_of_finalized (h : m.Stands host held .finalized) (more : List Request) :
    m.run (more.map .ofRequest) = m := by
  induction more with
  | nil => rfl
  | cons r more ih =>
      obtain ⟨hsame, -⟩ := h.request_of_none (Standard.row?_finalized r.selector)
      calc m.run ((r :: more).map .ofRequest)
          = (m.request r.selector r.announce).machine.run (more.map .ofRequest) := rfl
        _ = m.run (more.map .ofRequest) := by rw [hsame]
        _ = m := ih

end Stands

/-- What the table says of one more request to a machine that occupies `now`: any row that answers
it leads on, and if there is none, nothing changes. -/
structure Obeys (m : Machine β μ) (now : StandardState) (r : Request) : Prop where
  of_leads : ∀ next, Standard.Leads now r.selector next →
    Standard.Orderly now next ∧
      (m.perform (.ofRequest r)).machine.current? = some next.loaded ∧
      (r.announce = false → (m.perform (.ofRequest r)).result = .ok ())
  of_none : (∀ next, ¬ Standard.Leads now r.selector next) →
    (m.perform (.ofRequest r)).machine = m ∧
      ∃ fault, (m.perform (.ofRequest r)).result = .error fault ∧ fault.kind = .invalidArgument

lemma Stands.obeys (h : m.Stands host held now) (hheld : r.announce = true → held = true) :
    m.Obeys now r where
  of_leads := by
    rintro next hleads
    refine ⟨hleads.orderly, ?_⟩
    obtain ⟨row, hrow, rfl⟩ := Option.map_eq_some_iff.mp (Standard.next?_eq_some_iff.mpr hleads)
    obtain ⟨hmoved, hok⟩ := h.request_of_row hrow hheld
    exact ⟨hmoved.current?_eq, hok⟩
  of_none := by
    intro hnone
    have hnext := Standard.next?_eq_none_iff.mpr hnone
    exact h.request_of_none (Option.map_eq_none_iff.mp hnext)

/-- **The standard lifecycle is walked as its table says**, on every machine that has loaded it,
whatever else is registered there. After any requests the machine occupies the state where the table
leads, which is never `unknown`; one more request obeys the table; and from `finalized` nothing
leads on, ever. -/
theorem standard_walk (h : m.Reachable) (hload : m.loadStandard.1 = .ok ())
    (requests : List Request)
    (hheld : ∀ r ∈ requests, r.announce = true → m.boundary.isSome = true) :
    let reached := m.loadStandard.2.run (requests.map .ofRequest)
    let now := Standard.walk .initial (requests.map Request.selector)
    reached.current? = some now.loaded ∧ now ≠ .unknown ∧
      (∀ r : Request, (r.announce = true → m.boundary.isSome = true) → reached.Obeys now r) ∧
      (now = .finalized → ∀ more : List Request,
        reached.run (more.map .ofRequest) = reached ∧ ∀ r : Request, ∃ fault,
          (reached.perform (.ofRequest r)).result = .error fault ∧
            fault.kind = .invalidArgument) := by
  intro reached now
  have hinitial := Stands.loadStandard h.wellFormed.ids_nodup hload
  have hreached : reached.Stands m.topology m.boundary.isSome now := hinitial.run hheld
  refine ⟨hreached.current?_eq, ?_, ?_, ?_⟩
  · exact Standard.walk_ne_unknown _ (by decide)
  · intro r hr
    exact hreached.obeys hr
  · intro hfinal more
    rw [hfinal] at hreached
    refine ⟨hreached.run_of_finalized more, fun r => ?_⟩
    obtain ⟨-, hrefused⟩ := hreached.request_of_none (Standard.row?_finalized r.selector)
    exact hrefused

/-- A host has a state of its own with a transition called like a standard one, and another with the
id of a standard one. The machine is walked from its initial state to its final one, through a
request that no row answers. -/
theorem standard_walk_hosted :
    let docked : Transition := { id := 10, label := "configure", ends := some ⟨42, 42⟩ }
    let m : Machine Silent Unit := Machine.run { medium := () }
      [.edit (.register ⟨42, "docked", []⟩), .edit (.connect docked),
        .bringUp {} { standardStates := false }, .occupy 42]
    let requests : List Request :=
      [⟨.byLabel "configure", true⟩, ⟨.byId 30, true⟩, ⟨.byId 10, false⟩,
        ⟨.byLabel "shutdown", true⟩, ⟨.byLabel "transition_failure", false⟩]
    m.Reachable ∧ m.loadStandard.1 = .ok () ∧
      (∀ r ∈ requests, r.announce = true → m.boundary.isSome = true) ∧
      let reached := m.loadStandard.2.run (requests.map .ofRequest)
      let now := Standard.walk .initial (requests.map Request.selector)
      now = .finalized ∧ reached.current? = some now.loaded ∧
        (∀ r : Request, (r.announce = true → m.boundary.isSome = true) → reached.Obeys now r) ∧
        ∀ more : List Request, reached.run (more.map .ofRequest) = reached := by
  intro docked m requests
  have h : m.Reachable := .perform _ (.perform _ (.perform _ (.perform _ (.zero ()))))
  have hheld : ∀ r ∈ requests, r.announce = true → m.boundary.isSome = true := fun _ _ _ => rfl
  have hfree : ∀ s : StandardState, s.id ∉ m.topology.ids := by
    have hids : m.topology.ids = [42] := rfl
    intro s
    rw [hids]
    cases s <;> decide
  have hload := (loadStandard_eq_ok_iff h.wellFormed.ids_nodup).mpr hfree
  obtain ⟨hcurrent, -, hobeys, hfinal⟩ := standard_walk h hload requests hheld
  have hnow : Standard.walk .initial (requests.map Request.selector) = .finalized := by decide
  exact ⟨h, hload, hheld, hnow, hcurrent, hobeys, fun more => (hfinal hnow more).1⟩

end Machine

end ManagedNode
