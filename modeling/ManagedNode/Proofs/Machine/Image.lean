import ManagedNode.Proofs.Machine.Run

/-!
Machines that differ only in what no operation can tell.

Two things about a machine are beyond the reach of its operations: how many generations its
topology has been through, and what its boundaries are made of, beyond how they respond. A machine
in which both are changed is an image of the first. Operations on the image come to the image of
what they come to on the first, with the same result and the same trace, so that whatever is shown
for one of the two machines holds of the other.

* `Topology.later`, `Handle.later`: a topology and a handle of it, some generations later.
* `Boundary.Hom`: a map of boundaries, and of their mediums, that responses are carried along.
* `Machine.image`, `Outcome.image`: a machine and an outcome, along such a map and some generations
  later.
* `Machine.perform_image`: an operation on the image of a machine.
-/

namespace ManagedNode

/-! ### Later generations -/

/-- The handle of the same position, `k` generations later. -/
def Handle.later (h : Handle) (k : ℕ) : Handle := { h with generation := h.generation + k }

namespace Topology

variable {m : Topology} {id : StateId} {k : ℕ}

/-- The topology with the same states and transitions, `k` generations later. -/
def later (m : Topology) (k : ℕ) : Topology := { m with generation := m.generation + k }

@[simp] lemma states_later : (m.later k).states = m.states := rfl

@[simp] lemma transitions_later : (m.later k).transitions = m.transitions := rfl

@[simp] lemma registers_later : (m.later k).registers id = m.registers id := rfl

@[simp] lemma position?_later : (m.later k).position? id = m.position? id := rfl

lemma clear_later : (m.later k).clear = m.clear.later k := by
  simp only [clear, later, mk.injEq, true_and]
  omega

lemma handle?_later : (m.later k).handle? id = (m.handle? id).map (Handle.later · k) := by
  rw [handle?, handle?, Option.map_map]
  rfl

/-- A handle resolves in a topology as it does when both are later by the same. -/
lemma resolve?_later (h : Handle) : (m.later k).resolve? (h.later k) = m.resolve? h := by
  simp only [resolve?, later, Handle.later, Nat.add_right_cancel_iff]
  rfl

lemma register_later (s : State) :
    (m.later k).register s = (m.register s).map (Topology.later · k) := by
  rw [register, register, registers_later]
  split_ifs
  · rfl
  · cases State.named s.id s.label <;> rfl

lemma connect_later (t : Transition) :
    (m.later k).connect t = (m.connect t).map (Topology.later · k) := by
  rw [connect, connect]
  cases t.ends with
  | none => rfl
  | some ends =>
      simp only [position?_later, registers_later]
      cases m.position? ends.start with
      | none => rfl
      | some position =>
          by_cases hgoal : m.registers ends.goal = true
          · simp [hgoal, Except.map, later]
          · simp [hgoal, Except.map]

/-- Steps that do not look at the generation, one after another. -/
lemma foldlM_later {α : Type} {f : Topology → α → Except Fault Topology}
    (hf : ∀ m a, f (m.later k) a = (f m a).map (Topology.later · k)) (l : List α) :
    ∀ m, l.foldlM f (m.later k) = (l.foldlM f m).map (Topology.later · k) := by
  induction l with
  | nil => exact fun m => rfl
  | cons a l ih =>
      intro m
      rw [List.foldlM_cons, List.foldlM_cons, hf]
      cases f m a with
      | error fault => rfl
      | ok m₁ => exact ih m₁

lemma withStandard_later :
    (m.later k).withStandard = m.withStandard.map (Topology.later · k) := by
  rw [withStandard, withStandard, withStandardStates,
    foldlM_later fun m s => register_later s.state, ← withStandardStates]
  cases m.withStandardStates with
  | error fault => rfl
  | ok m₁ => exact foldlM_later (fun m r => connect_later r.transition) _ m₁

lemma loadStandard_later :
    (m.later k).loadStandard = (m.loadStandard.1, m.loadStandard.2.later k) := by
  rw [loadStandard, loadStandard, withStandard_later]
  cases m.withStandard with
  | error fault => exact congrArg _ clear_later
  | ok m₁ => rfl

lemma settle_later (r : Except Fault Topology) :
    (m.later k).settle (r.map (Topology.later · k)) =
      ((m.settle r).1, (m.settle r).2.later k) := by
  cases r <;> rfl

/-- An edit has the same result on a later topology, and leaves the later of what it leaves. -/
lemma perform_later (e : Edit) :
    (m.later k).perform e = ((m.perform e).1, (m.perform e).2.later k) := by
  cases e with
  | register s => rw [perform, perform, register_later, settle_later]
  | connect t => rw [perform, perform, connect_later, settle_later]
  | loadStandard => exact loadStandard_later
  | clear => exact congrArg _ clear_later

end Topology

/-! ### Maps of boundaries -/

variable {β μ β' μ' : Type}

/-- A reply along a map of boundaries and of their mediums. -/
def Reply.map (f : β → β') (g : μ → μ') (r : Reply β μ) : Reply β' μ' :=
  { r with boundary := f r.boundary, medium := g r.medium }

/-- A map of boundaries and of their mediums that responses are carried along: what a boundary
answers, what it writes to the log and whether it serves are the same before and after it. -/
structure Boundary.Hom (β μ β' μ' : Type) [Boundary β μ] [Boundary β' μ'] where
  boundary : β → β'
  medium : μ → μ'
  respond_eq : ∀ call b h,
    Boundary.respond call (boundary b) (medium h) =
      (Boundary.respond call b h).map boundary medium
  serving_eq : ∀ b, Boundary.serving (boundary b) = Boundary.serving b

/-- The map that changes nothing. -/
def Boundary.Hom.refl (β : Type) {μ : Type} [Boundary β μ] : Boundary.Hom β μ β μ where
  boundary := fun b => b
  medium := fun h => h
  respond_eq := fun _ _ _ => rfl
  serving_eq := fun _ => rfl

/-- The event of a call does not show what the boundary and its medium are made of. -/
@[simp] lemma Reply.event_map (f : β → β') (g : μ → μ') (r : Reply β μ) (call : Call) :
    (r.map f g).event call = r.event call := rfl

@[simp] lemma Reply.result_map (f : β → β') (g : μ → μ') (r : Reply β μ) :
    (r.map f g).result = r.result := rfl

@[simp] lemma Reply.boundary_map (f : β → β') (g : μ → μ') (r : Reply β μ) :
    (r.map f g).boundary = f r.boundary := rfl

/-! ### Images of machines -/

/-- An operation along a map of boundaries. -/
def Machine.Operation.map (f : β → β') : Machine.Operation β → Machine.Operation β'
  | .bringUp b options => .bringUp (f b) options
  | .loadStandard => .loadStandard
  | .occupy id => .occupy id
  | .trigger t announce => .trigger t announce
  | .request q announce => .request q announce
  | .tearDown => .tearDown
  | .edit e => .edit e

variable [Boundary β μ] [Boundary β' μ']

/-- The machine with its boundary and its medium along a map, and its topology `k` generations
later. -/
def Machine.image (φ : Boundary.Hom β μ β' μ') (k : ℕ) (m : Machine β μ) : Machine β' μ' where
  topology := m.topology.later k
  handle := m.handle.map (Handle.later · k)
  options := m.options
  boundary := m.boundary.map φ.boundary
  medium := φ.medium m.medium

/-- The outcome with the image of its machine. -/
def Outcome.image (φ : Boundary.Hom β μ β' μ') (k : ℕ) (o : Outcome β μ) : Outcome β' μ' where
  result := o.result
  machine := o.machine.image φ k
  trace := o.trace

namespace Machine

variable (φ : Boundary.Hom β μ β' μ') (k : ℕ) (m : Machine β μ)

@[simp] lemma topology_image : (m.image φ k).topology = m.topology.later k := rfl

@[simp] lemma options_image : (m.image φ k).options = m.options := rfl

@[simp] lemma boundary_image : (m.image φ k).boundary = m.boundary.map φ.boundary := rfl

@[simp] lemma medium_image : (m.image φ k).medium = φ.medium m.medium := rfl

@[simp] lemma current?_image : (m.image φ k).current? = m.current? := by
  rw [current?, current?]
  cases hh : m.handle with
  | none => simp [image, hh]
  | some h =>
      have hres : (m.topology.later k).resolve? (h.later k) = m.topology.resolve? h :=
        Topology.resolve?_later h
      simp [image, hh, hres]

@[simp] lemma currentLabel_image : (m.image φ k).currentLabel = m.currentLabel := by
  rw [currentLabel, current?_image]
  rfl

@[simp] lemma available_image : (m.image φ k).available = m.available := by
  rw [available, current?_image]
  rfl

@[simp] lemma isReady_image : (m.image φ k).isReady = m.isReady := by
  rw [isReady, isReady]
  cases hb : m.boundary with
  | none => simp [image, hb]
  | some b => simp [image, hb, φ.serving_eq]

lemma refuse_image (fault : Fault) : (m.image φ k).refuse fault = (m.refuse fault).image φ k := rfl

/-! ### Operations on an image -/

lemma occupy_image (id : StateId) :
    (m.image φ k).occupy id = (m.occupy id).map (Machine.image φ k) := by
  rw [occupy, occupy, topology_image, Topology.handle?_later]
  cases m.topology.handle? id <;> rfl

lemma loadStandard_image :
    (m.image φ k).loadStandard = (m.loadStandard.1, m.loadStandard.2.image φ k) := by
  rw [loadStandard, loadStandard, topology_image, Topology.loadStandard_later]
  rcases m.topology.loadStandard with ⟨fault | _, topology⟩
  · rfl
  · have ho := (m.withTopology topology).occupy_image φ k StandardState.initial.id
    rw [show (m.withTopology topology).image φ k =
      (m.image φ k).withTopology (topology.later k) from rfl] at ho
    simp only [ho]
    cases (m.withTopology topology).occupy StandardState.initial.id <;> rfl

lemma endpoints_image (t : Transition) : (m.image φ k).endpoints t = m.endpoints t := rfl

lemma moveTo_image (goal : State) : (m.image φ k).moveTo goal = (m.moveTo goal).image φ k := by
  simp only [moveTo, image, Topology.handle?_later]

lemma move_image (t : Transition) (goal : State) :
    (m.image φ k).move t goal = (m.move t goal).image φ k := by
  rw [move, moveTo_image, currentLabel_image]
  rfl

lemma moveAnnounced_image (t : Transition) (start goal : State) (b : β) :
    (m.image φ k).moveAnnounced t start goal (φ.boundary b) =
      (m.moveAnnounced t start goal b).image φ k := by
  have hreply := φ.respond_eq (.announce start goal) b m.medium
  rw [moveAnnounced, moveTo_image, currentLabel_image]
  simp only [medium_image, hreply]
  rfl

lemma trigger_image (t : Transition) (announce : Bool) :
    (m.image φ k).trigger t announce = (m.trigger t announce).image φ k := by
  rw [trigger, trigger, endpoints_image]
  cases m.endpoints t with
  | error fault => rfl
  | ok ends =>
      obtain ⟨start, goal⟩ := ends
      cases announce with
      | false => exact m.move_image φ k t goal
      | true =>
          cases hb : m.boundary with
          | none =>
              simp only [boundary_image, hb, Option.map_none]
              exact m.refuse_image φ k .noBoundary
          | some b =>
              simp only [boundary_image, hb, Option.map_some]
              exact m.moveAnnounced_image φ k t start goal b

lemma request_image (q : Selector) (announce : Bool) :
    (m.image φ k).request q announce = (m.request q announce).image φ k := by
  rw [request, request, current?_image]
  cases m.current? with
  | none => rfl
  | some s =>
      simp only
      cases (s.lookup q).1 with
      | none => rfl
      | some t => simp only [trigger_image]; rfl

lemma abandon_image (b : β) (fault : Fault) :
    (m.image φ k).abandon (φ.boundary b) fault = (m.abandon b fault).image φ k := by
  have hreply := φ.respond_eq .tearDown b m.medium
  rw [abandon, topology_image, Topology.clear_later]
  simp only [medium_image, hreply]
  rfl

lemma holding_image (reply : Reply β μ) (options : Options) :
    (m.image φ k).holding (reply.map φ.boundary φ.medium) options =
      (m.holding reply options).image φ k := rfl

lemma furnish_image (b : β) :
    (m.image φ k).furnish (φ.boundary b) = (m.furnish b).image φ k := by
  rw [furnish, furnish, loadStandard_image, options_image]
  split_ifs
  · rcases m.loadStandard with ⟨fault | _, loaded⟩
    · exact loaded.abandon_image φ k b fault
    · rfl
  · rfl

lemma bringUp_image (b : β) (options : Options) :
    (m.image φ k).bringUp (φ.boundary b) options = (m.bringUp b options).image φ k := by
  have hreply := φ.respond_eq (.bringUp options.mode) b m.medium
  rw [bringUp, bringUp, boundary_image, Option.isSome_map]
  split_ifs
  · rfl
  · simp only [medium_image, hreply, Reply.result_map]
    cases (Boundary.respond (.bringUp options.mode) b m.medium).result with
    | error fault => rfl
    | ok _ =>
        simp only [holding_image, Reply.event_map, Reply.boundary_map, furnish_image]
        rfl

lemma emptied_image : (m.image φ k).emptied = m.emptied.image φ k := by
  rw [emptied, topology_image, Topology.clear_later]
  rfl

lemma tearDown_image : (m.image φ k).tearDown = m.tearDown.image φ k := by
  rw [tearDown, tearDown, emptied_image]
  cases hb : m.boundary with
  | none =>
      simp only [boundary_image, hb, Option.map_none]
      rfl
  | some b =>
      have hreply := φ.respond_eq .tearDown b m.medium
      simp only [boundary_image, hb, Option.map_some, medium_image, hreply]
      rfl

/-- What an operation comes to on the image of a machine is the image of what it comes to on the
machine. -/
theorem perform_image (op : Operation β) :
    (m.image φ k).perform (op.map φ.boundary) = (m.perform op).image φ k := by
  cases op with
  | bringUp b options => exact m.bringUp_image φ k b options
  | loadStandard =>
      simp only [Operation.map, perform, loadStandard_image]
      rfl
  | occupy id =>
      simp only [Operation.map, perform, occupy_image]
      cases m.occupy id <;> rfl
  | trigger t announce => exact m.trigger_image φ k t announce
  | request q announce => exact m.request_image φ k q announce
  | tearDown => exact m.tearDown_image φ k
  | edit e =>
      simp only [Operation.map, perform, topology_image, Topology.perform_later]
      rfl

end Machine

end ManagedNode
