import ManagedNode.Proofs.Machine.Taking
import ManagedNode.Proofs.Topology.Standard

/-!
Transitions under their own names.

A transition is looked up by its id among all transitions, and by its id or its label among those
that leave a state. Each search answers with the first match, and no name is refused when a
transition is registered. Whatever is registered is found under its own names exactly when no two
transitions share one.

* `Transition.SharesName`, `Topology.Unambiguous`, `Topology.Fresh`: no two registered transitions
  share a name, and none of them shares one with a transition that is not registered yet.
* `Topology.unambiguous_connect_iff`: the step. A topology stays unambiguous exactly when the
  transition that is registered is fresh.
* `Topology.Unambiguous.performAll`: the run. Edits that register fresh transitions only lead from
  an unambiguous topology to an unambiguous topology.
* `Topology.Known`: a transition that is found under its own names, and leads every machine from its
  start to its goal. All transitions of a reachable topology are known exactly when it is
  unambiguous (`Topology.known_iff_unambiguous`).
-/

namespace ManagedNode

/-! ### Names -/

namespace Transition

variable {t t' : Transition} {q : Selector}

/-- What the transition can be asked for by. -/
def names (t : Transition) : List Selector := [.byId t.id, .byLabel t.label]

/-- The two have the same id, or leave the same state under the same label. -/
def SharesName (t t' : Transition) : Prop :=
  t.id = t'.id ∨ t.start? = t'.start? ∧ t.label = t'.label

instance : DecidableRel SharesName := fun t t' =>
  inferInstanceAs (Decidable (t.id = t'.id ∨ t.start? = t'.start? ∧ t.label = t'.label))

lemma SharesName.symm (h : t.SharesName t') : t'.SharesName t :=
  h.imp Eq.symm fun h => ⟨h.1.symm, h.2.symm⟩

lemma selects_of_mem_names (hq : q ∈ t.names) : q.selects t = true := by
  rcases List.mem_pair.mp hq with rfl | rfl <;> exact beq_self_eq_true _

/-- Another transition that leaves the same state answers to a name of this one only if it shares
that name. -/
lemma sharesName_of_selects (hq : q ∈ t.names) (hstart : t'.start? = t.start?)
    (hselects : q.selects t' = true) : t'.SharesName t := by
  rcases List.mem_pair.mp hq with rfl | rfl
  · exact Or.inl (eq_of_beq hselects)
  · exact Or.inr ⟨hstart, eq_of_beq hselects⟩

end Transition

namespace Topology

variable {m m' : Topology} {t t' : Transition} {start goal : State}

/-- No two registered transitions share a name. -/
def Unambiguous (m : Topology) : Prop :=
  ∀ t ∈ m.transitions, ∀ t' ∈ m.transitions, t.SharesName t' → t = t'

/-- No other transition that is registered shares a name with this one. -/
def Fresh (m : Topology) (t : Transition) : Prop :=
  ∀ t' ∈ m.transitions, t'.SharesName t → t' = t

instance (m : Topology) : Decidable m.Unambiguous :=
  inferInstanceAs (Decidable (∀ t ∈ m.transitions, ∀ t' ∈ m.transitions, t.SharesName t' → t = t'))

instance (m : Topology) : DecidablePred m.Fresh := fun t =>
  inferInstanceAs (Decidable (∀ t' ∈ m.transitions, t'.SharesName t → t' = t))

/-! ### Registering under fresh names -/

/-- With more transitions at the end, a topology is unambiguous if it was before, if the new ones
do not share names, and if they are fresh. -/
lemma unambiguous_append_iff {ts : List Transition}
    (htransitions : m'.transitions = m.transitions ++ ts) :
    m'.Unambiguous ↔ m.Unambiguous ∧ (∀ t ∈ ts, ∀ t' ∈ ts, t.SharesName t' → t = t') ∧
      ∀ t ∈ ts, m.Fresh t := by
  simp only [Unambiguous, Fresh, htransitions, List.forall_mem_append]
  constructor
  · rintro ⟨hold, hnew⟩
    refine ⟨fun t ht => (hold t ht).1, fun t ht => (hnew t ht).2, fun t ht t' ht' => ?_⟩
    exact (hold t' ht').2 t ht
  · rintro ⟨hold, hnew, hfresh⟩
    refine ⟨fun t ht => ⟨hold t ht, fun t' ht' => hfresh t' ht' t ht⟩,
      fun t ht => ⟨fun t' ht' hshares => ?_, hnew t ht⟩⟩
    exact (hfresh t ht t' ht' hshares.symm).symm

/-- Registering a transition keeps a topology unambiguous exactly when the transition is fresh. -/
lemma unambiguous_connect_iff (h : m.connect t = .ok m') :
    m'.Unambiguous ↔ m.Unambiguous ∧ m.Fresh t := by
  obtain ⟨ends, position, -, -, -, rfl⟩ := connect_eq_ok h
  rw [unambiguous_append_iff rfl]
  simp

/-- The transitions that an edit registers, if it is accepted. -/
def Edit.transitions : Edit → List Transition
  | .register _ => []
  | .connect t => [t]
  | .loadStandard => Standard.rows.map Standard.Row.transition
  | .clear => []

/-- The transitions that one edit registers do not share names. -/
lemma Edit.unambiguous (e : Edit) :
    ∀ t ∈ e.transitions, ∀ t' ∈ e.transitions, t.SharesName t' → t = t' := by
  cases e with
  | register s => simp [transitions]
  | connect t => simp [transitions]
  | loadStandard => decide
  | clear => simp [transitions]

/-- An edit is refused, appends what it registers, or clears the topology. -/
lemma transitions_perform (hm : m.WellFormed) (e : Edit) :
    (m.perform e).2.transitions = m.transitions ∨
      (m.perform e).2.transitions = m.transitions ++ e.transitions ∨
      (m.perform e).2.transitions = [] := by
  cases e with
  | register s =>
      rw [perform]
      cases hr : m.register s with
      | error fault => exact Or.inl rfl
      | ok m' =>
          rw [register_eq_ok hr]
          exact Or.inl rfl
  | connect t =>
      rw [perform]
      cases hc : m.connect t with
      | error fault => exact Or.inl rfl
      | ok m' =>
          obtain ⟨ends, position, -, -, -, rfl⟩ := connect_eq_ok hc
          exact Or.inr (Or.inl rfl)
  | loadStandard =>
      rcases m.loadStandard_cases with ⟨m', hw, hl⟩ | ⟨fault, -, hl⟩
      · obtain ⟨-, rfl⟩ := eq_joined_of_withStandard hm.ids_nodup hw
        rw [perform, hl]
        exact Or.inr (Or.inl rfl)
      · rw [perform, hl]
        exact Or.inr (Or.inr rfl)
  | clear => exact Or.inr (Or.inr rfl)

/-- Every transition that the edits register is fresh by then. -/
def Careful (m : Topology) : List Edit → Prop
  | [] => True
  | e :: es => (∀ t ∈ e.transitions, m.Fresh t) ∧ (m.perform e).2.Careful es

namespace Unambiguous

/-- The step: an edit that registers fresh transitions keeps a topology unambiguous. -/
lemma perform (h : m.Unambiguous) (hm : m.WellFormed) {e : Edit}
    (hfresh : ∀ t ∈ e.transitions, m.Fresh t) : (m.perform e).2.Unambiguous := by
  rcases transitions_perform hm e with hsame | hmore | hnone
  · rwa [Unambiguous, hsame]
  · exact (unambiguous_append_iff hmore).mpr ⟨h, e.unambiguous, hfresh⟩
  · simp [Unambiguous, hnone]

/-- The run: so do edits of this kind, one after another. -/
lemma performAll (h : m.Unambiguous) (hm : m.Reachable) {es : List Edit} (hes : m.Careful es) :
    (m.performAll es).Unambiguous := by
  induction es generalizing m with
  | nil => exact h
  | cons e es ih =>
      obtain ⟨hfresh, hrest⟩ := hes
      exact ih (h.perform hm.wellFormed hfresh) (hm.perform e) hrest

end Unambiguous

/-! ### Known transitions -/

/-- The edge is found under the names of its transition, among all transitions and among those that
its start keeps, and leads every machine that occupies its start to its goal. -/
structure Known (m : Topology) (start : State) (t : Transition) (goal : State) : Prop
    extends m.Edge start t goal where
  transition?_eq : m.transition? t.id = some t
  find?_eq : ∀ q ∈ t.names, start.find? q = some t
  current?_eq : ∀ {β μ : Type} [Boundary β μ] (machine : Machine β μ), machine.topology = m →
    machine.current? = some start → ∀ q ∈ t.names, ∀ announce,
      (announce = true → machine.boundary.isSome = true) →
        (machine.request q announce).machine.current? = some goal

/-- What the start of an edge keeps is found there, if names are not shared. -/
lemma Unambiguous.find?_eq (h : m.Unambiguous) (hm : m.WellFormed) (hedge : m.Edge start t goal) :
    ∀ q ∈ t.names, start.find? q = some t := by
  intro q hq
  have hleaving : start.outgoing = m.leaving start.id :=
    hm.outgoing_eq start (mem_of_state? hedge.start_eq)
  rw [State.find?, hleaving]
  refine find?_eq_some_of_unique (mem_leaving.mpr ⟨hedge.mem, hedge.start?_eq⟩)
    (Transition.selects_of_mem_names hq) fun t' ht' hselects => ?_
  obtain ⟨hmem, hstart⟩ := mem_leaving.mp ht'
  have hshares : t'.SharesName t :=
    Transition.sharesName_of_selects hq (hstart.trans hedge.start?_eq.symm) hselects
  exact h t' hmem t hedge.mem hshares

/-- A request for which an edge is found leads to its goal. Only for an announcement is a boundary
needed, and it does not matter what that answers. -/
lemma Edge.current?_request {β μ : Type} [Boundary β μ] {machine : Machine β μ} {q : Selector}
    {announce : Bool} (hedge : machine.topology.Edge start t goal)
    (hs : machine.current? = some start) (hfind : start.find? q = some t)
    (hheld : announce = true → machine.boundary.isSome = true) :
    (machine.request q announce).machine.current? = some goal := by
  rw [Machine.request_of_find? hs hfind]
  have happlies := (machine.decides_trigger t announce).of_held start goal hedge.resolves hheld
  exact happlies.current?_eq

/-- Where names are not shared, every edge is known. -/
lemma Unambiguous.known (h : m.Unambiguous) (hm : m.WellFormed) (hedge : m.Edge start t goal) :
    m.Known start t goal where
  toEdge := hedge
  transition?_eq := find?_eq_some_of_unique hedge.mem (beq_self_eq_true _)
    fun t' ht' hid => h t' ht' t hedge.mem (Or.inl (eq_of_beq hid))
  find?_eq := h.find?_eq hm hedge
  current?_eq := by
    rintro β μ _ machine rfl hs q hq announce hheld
    exact hedge.current?_request hs (h.find?_eq hm hedge q hq) hheld

/-- Two transitions that are known do not share a name. -/
lemma Known.eq_of_sharesName {start' goal' : State} (hm : m.WellFormed)
    (h : m.Known start t goal) (h' : m.Known start' t' goal') (hshares : t.SharesName t') :
    t = t' := by
  rcases hshares with hid | ⟨hstart, hlabel⟩
  · have hfound := h.transition?_eq
    rw [hid, h'.transition?_eq] at hfound
    exact (Option.some.inj hfound).symm
  · -- They leave the same state, so that both are looked for in one list.
    have hfound := h.find?_eq (.byLabel t.label) (.tail _ (.head _))
    rw [hm.eq_start h.toEdge (mem_of_state? h'.start_eq) (hstart.trans h'.start?_eq), hlabel,
      h'.find?_eq (.byLabel t'.label) (.tail _ (.head _))] at hfound
    exact (Option.some.inj hfound).symm

/-- **Every transition is found and taken under its own names exactly when no two share one**, in
every reachable topology. Registering a transition can end that: nothing asks whether it is fresh. -/
theorem known_iff_unambiguous (h : m.Reachable) :
    ((∀ t ∈ m.transitions, ∃ start goal, m.Known start t goal) ↔ m.Unambiguous) ∧
      ∀ t m', m.connect t = .ok m' → (m'.Unambiguous ↔ m.Unambiguous ∧ m.Fresh t) := by
  have hm := h.wellFormed
  refine ⟨⟨fun hknown t ht t' ht' hshares => ?_, fun hunambiguous t ht => ?_⟩,
    fun t m' => unambiguous_connect_iff⟩
  · obtain ⟨start, goal, hstart⟩ := hknown t ht
    obtain ⟨start', goal', hstart'⟩ := hknown t' ht'
    exact hstart.eq_of_sharesName hm hstart' hshares
  · obtain ⟨start, goal, hedge⟩ := hm.exists_edge_of_mem ht
    exact ⟨start, goal, hunambiguous.known hm hedge⟩

/-- The standard lifecycle, and a transition from a state of the host's own. Its label is taken in
the lifecycle, but not in the state that it leaves. -/
theorem known_iff_unambiguous_hosted :
    let host : Transition := { id := 70, label := "configure", ends := some ⟨70, 1⟩ }
    let m := ({} : Topology).performAll
      [.loadStandard, .register ⟨70, "host", []⟩, .connect host]
    m.Reachable ∧ host ∈ m.transitions ∧ (∀ t ∈ m.transitions, ∃ start goal, m.Known start t goal) ∧
      ((∀ t ∈ m.transitions, ∃ start goal, m.Known start t goal) ↔ m.Unambiguous) ∧
      ∀ t m', m.connect t = .ok m' → (m'.Unambiguous ↔ m.Unambiguous ∧ m.Fresh t) := by
  intro host m
  have h : m.Reachable := Reachable.empty.performAll _
  have hcareful : ({} : Topology).Careful
      [.loadStandard, .register ⟨70, "host", []⟩, .connect host] := by
    refine ⟨by simp [Fresh], by simp [Edit.transitions], ?_, trivial⟩
    rw [Edit.transitions, List.forall_mem_singleton]
    decide
  have hunambiguous : m.Unambiguous :=
    Unambiguous.performAll (by simp [Unambiguous]) .empty hcareful
  exact ⟨h, by decide, (known_iff_unambiguous h).1.mpr hunambiguous, known_iff_unambiguous h⟩

/-- Two transitions of the same names that leave the same state: the second is never found, nor
taken. -/
theorem shadowed_transition :
    let first : Transition := { id := 5, label := "go", ends := some ⟨1, 2⟩ }
    let second : Transition := { id := 5, label := "go", ends := some ⟨1, 3⟩ }
    let m := ({} : Topology).performAll
      [.register ⟨1, "a", []⟩, .register ⟨2, "b", []⟩, .register ⟨3, "c", []⟩,
        .connect first, .connect second]
    let start : State := ⟨1, "a", [first, second]⟩
    m.Reachable ∧ ¬m.Unambiguous ∧ m.Edge start second ⟨3, "c", []⟩ ∧
      (¬∃ start goal, m.Known start second goal) ∧ m.transition? second.id = some first ∧
      (∀ q ∈ second.names, start.find? q = some first) ∧
      ∀ {β μ : Type} [Boundary β μ] (machine : Machine β μ), machine.topology = m →
        machine.current? = some start → ∀ q ∈ second.names,
          (machine.request q false).machine.current? = some ⟨2, "b", []⟩ := by
  intro first second m start
  have h : m.Reachable := Reachable.empty.performAll _
  have hfind : ∀ q ∈ second.names, start.find? q = some first := by decide
  have hfirst : m.Edge start first ⟨2, "b", []⟩ := ⟨.head _, rfl, rfl, rfl⟩
  have hunknown : ¬∃ start goal, m.Known start second goal := by
    rintro ⟨start, goal, hknown⟩
    exact absurd hknown.transition?_eq (by decide)
  refine ⟨h, by decide, ⟨.tail _ (.head _), rfl, rfl, rfl⟩, hunknown, rfl, hfind, ?_⟩
  intro β μ _ machine htopology hs q hq
  rw [← htopology] at hfirst
  exact hfirst.current?_request hs (hfind q hq) nofun

end Topology

end ManagedNode
