import ManagedNode.Topology.Standard
import ManagedNode.Proofs.Topology.Lookup

/-!
Everything that can be done to a topology, and the topologies that come of it.

* `Topology.Edit`, `Topology.perform`: one edit, accepted or refused, and what it leaves.
  `Topology.performAll` is a run of edits.
* `Topology.Reachable`: the topologies that any sequence of edits leads to from the empty one,
  where a topology may also be replaced by a copy of another such topology.
* `Topology.Grows`: growth by accepted registrations alone. Every edit either grows the topology
  or clears it (`perform_cases`), so that a property of all reachable topologies has to be shown
  for the two registrations and for the empty topology only.
-/

namespace ManagedNode

namespace Topology

variable {m m' m'' : Topology}

/-! ### Edits -/

/-- What can be asked of a topology. -/
inductive Edit
  | register (s : State)
  | connect (t : Transition)
  | loadStandard
  | clear

/-- The topology after a registration: the new one, or the old one if it was refused. -/
def settle (m : Topology) : Except Fault Topology → Except Fault Unit × Topology
  | .ok m' => (.ok (), m')
  | .error fault => (.error fault, m)

/-- The result of an edit, and the topology after it. -/
def perform (m : Topology) : Edit → Except Fault Unit × Topology
  | .register s => m.settle (m.register s)
  | .connect t => m.settle (m.connect t)
  | .loadStandard => m.loadStandard
  | .clear => (.ok (), m.clear)

/-- The topologies that edits lead to from the empty one. -/
inductive Reachable : Topology → Prop
  | empty : Reachable {}
  | perform {m : Topology} (e : Edit) : Reachable m → Reachable (m.perform e).2
  /-- One topology is overwritten by a copy of another. -/
  | overwrite {m m' : Topology} : Reachable m → Reachable m' → Reachable m'

/-- The topology after edits one after another. -/
def performAll (m : Topology) (es : List Edit) : Topology := es.foldl (fun m e => (m.perform e).2) m

lemma Reachable.performAll (h : m.Reachable) (es : List Edit) : (m.performAll es).Reachable := by
  induction es generalizing m with
  | nil => exact h
  | cons e es ih => exact ih (h.perform e)

/-! ### Growth -/

/-- The topology `m'` comes of `m` by registrations that were all accepted. -/
inductive Grows (m : Topology) : Topology → Prop
  | refl : Grows m m
  | register {m' m'' : Topology} {s : State} :
      Grows m m' → m'.register s = .ok m'' → Grows m m''
  | connect {m' m'' : Topology} {t : Transition} :
      Grows m m' → m'.connect t = .ok m'' → Grows m m''

namespace Grows

lemma trans (h : m.Grows m') (h' : m'.Grows m'') : m.Grows m'' := by
  induction h' with
  | refl => exact h
  | register _ hr ih => exact ih.register hr
  | connect _ hc ih => exact ih.connect hc

/-- A topology that grows keeps its generation and the places of its states. -/
lemma toExtends (h : m.Grows m') : m.Extends m' := by
  induction h with
  | refl => exact .refl m
  | register _ hr ih => exact ih.trans (extends_register hr)
  | connect _ hc ih => exact ih.trans (extends_connect hc)

end Grows

lemma grows_register {s : State} (h : m.register s = .ok m') : m.Grows m' := .register .refl h

lemma grows_connect {t : Transition} (h : m.connect t = .ok m') : m.Grows m' := .connect .refl h

/-- Two steps in a row succeed when the first does, and the second from there. -/
lemma bind_eq_ok {α α' : Type} {x : Except Fault α} {f : α → Except Fault α'} {r : α'} :
    x >>= f = .ok r ↔ ∃ a, x = .ok a ∧ f a = .ok r := by
  cases x with
  | error fault => simp [bind, Except.bind]
  | ok a => simp [bind, Except.bind]

/-- A fold of steps that each grow the topology grows it. -/
lemma grows_foldlM {α : Type} {f : Topology → α → Except Fault Topology}
    (hf : ∀ {m a m'}, f m a = .ok m' → m.Grows m') (l : List α) :
    ∀ {m}, l.foldlM f m = .ok m' → m.Grows m' := by
  induction l with
  | nil =>
      intro m h
      cases h
      exact .refl
  | cons a l ih =>
      intro m h
      rw [List.foldlM_cons, bind_eq_ok] at h
      obtain ⟨m₁, ha, hl⟩ := h
      have hhead : m.Grows m₁ := hf ha
      have htail : m₁.Grows m' := ih hl
      exact hhead.trans htail

/-- Loading the standard lifecycle is growth, where it succeeds. -/
lemma grows_withStandard (h : m.withStandard = .ok m') : m.Grows m' := by
  rw [withStandard, bind_eq_ok] at h
  obtain ⟨m₁, hstates, htransitions⟩ := h
  have hregister : m.Grows m₁ := grows_foldlM grows_register _ hstates
  have hconnect : m₁.Grows m' := grows_foldlM grows_connect _ htransitions
  exact hregister.trans hconnect

/-- Registering states one after another appends their ids. -/
lemma ids_foldlM_register (l : List StandardState) :
    ∀ {m : Topology}, l.foldlM (fun m s => m.register s.state) m = .ok m' →
      m'.ids = m.ids ++ l.map StandardState.id := by
  induction l with
  | nil =>
      intro m h
      cases h
      simp
  | cons s l ih =>
      intro m h
      rw [List.foldlM_cons, bind_eq_ok] at h
      obtain ⟨m₁, hs, hl⟩ := h
      rw [ih hl, ids_register hs]
      simp [StandardState.state]

/-- The state that a loaded lifecycle starts in is registered. -/
lemma initial_mem_of_withStandard (h : m.withStandard = .ok m') :
    StandardState.initial.id ∈ m'.ids := by
  rw [withStandard, bind_eq_ok] at h
  obtain ⟨m₁, hstates, htransitions⟩ := h
  have hconnect : m₁.Grows m' := grows_foldlM grows_connect _ htransitions
  have hids : m₁.ids = m.ids ++ StandardState.all.map StandardState.id :=
    ids_foldlM_register _ hstates
  refine hconnect.toExtends.mem_ids ?_
  rw [hids]
  exact List.mem_append_right _ (List.mem_map_of_mem (StandardState.mem_all _))

/-- What loading the standard lifecycle leaves: the loaded topology, or a cleared one and the
fault of the first refusal. -/
lemma loadStandard_cases (m : Topology) :
    (∃ m', m.withStandard = .ok m' ∧ m.loadStandard = (.ok (), m')) ∨
      ∃ fault, m.withStandard = .error fault ∧ m.loadStandard = (.error fault, m.clear) := by
  rw [loadStandard]
  cases m.withStandard with
  | ok m' => exact Or.inl ⟨m', rfl, rfl⟩
  | error fault => exact Or.inr ⟨fault, rfl, rfl⟩

/-- An edit that leaves what a registration gives, if it is accepted, lets the topology grow. -/
lemma grows_settle {r : Except Fault Topology} (hr : ∀ m', r = .ok m' → m.Grows m') :
    m.Grows (m.settle r).2 := by
  cases r with
  | ok m' => exact hr m' rfl
  | error fault => exact .refl

lemma grows_perform_register (m : Topology) (s : State) : m.Grows (m.perform (.register s)).2 :=
  grows_settle fun _ hr => grows_register hr

lemma grows_perform_connect (m : Topology) (t : Transition) :
    m.Grows (m.perform (.connect t)).2 :=
  grows_settle fun _ hc => grows_connect hc

/-- What an edit can do: it grows the topology, by nothing if it was refused, or clears it. -/
lemma perform_cases (m : Topology) (e : Edit) :
    m.Grows (m.perform e).2 ∨ (m.perform e).2 = m.clear := by
  cases e with
  | register s => exact Or.inl (m.grows_perform_register s)
  | connect t => exact Or.inl (m.grows_perform_connect t)
  | loadStandard =>
      rcases m.loadStandard_cases with ⟨m', hw, hl⟩ | ⟨fault, -, hl⟩
      · have hgrows : m.Grows m' := grows_withStandard hw
        exact Or.inl (by rwa [perform, hl])
      · exact Or.inr (by rw [perform, hl])
  | clear => exact Or.inr rfl

/-- What holds of the empty topology of every generation, and is kept by growth, holds of every
reachable topology. -/
lemma Reachable.of_grows {P : Topology → Prop} (hempty : ∀ n, P { generation := n })
    (hgrows : ∀ {m m'}, m.Grows m' → P m → P m') (h : m.Reachable) : P m := by
  induction h with
  | empty => exact hempty 0
  | perform e _ ih =>
      rcases perform_cases _ e with hg | hc
      · exact hgrows hg ih
      · rw [hc]; exact hempty _
  | overwrite _ _ _ ih => exact ih

end Topology

end ManagedNode
