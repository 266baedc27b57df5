import Mathlib.Data.List.Nodup
import ManagedNode.Topology.Description

/-!
What the lookups of a topology find, by the list of the registered ids.

* `Topology.ids`: the ids of the registered states, in the order of registration. `registers`
  and `position?` are membership and position in this list.
* `Topology.register_eq_ok_iff`, `Topology.connect_of_ends`: what is accepted, and what becomes of it.
* `Topology.Extends`: the same generation with more states at the end. Positions that were found
  before are found again (`Extends.position?_eq`), and hold states with the same description
  (`Extends.stateAt?`).
* `Topology.state?_eq_some_iff`: when no id is registered twice, the state found under an id is
  the registered state with that id.
-/

namespace ManagedNode

namespace Topology

variable {m m' m'' : Topology} {id : StateId} {i : ℕ} {s : State}

/-- The ids of the registered states, in the order of registration. -/
def ids (m : Topology) : List StateId := m.states.map State.id

lemma registers_iff : m.registers id = true ↔ id ∈ m.ids := by
  simp [registers, ids]

lemma getElem?_ids : m.ids[i]? = (m.stateAt? i).map State.id := List.getElem?_map ..

lemma position?_eq_findIdx? : m.position? id = m.ids.findIdx? (· == id) := by
  rw [ids, List.findIdx?_map]
  rfl

/-- A position that is found holds a state with the id. -/
lemma getElem?_ids_of_position? (h : m.position? id = some i) : m.ids[i]? = some id := by
  rw [position?_eq_findIdx?, List.findIdx?_eq_some_iff_getElem] at h
  obtain ⟨hi, hid, -⟩ := h
  rw [List.getElem?_eq_getElem hi, eq_of_beq hid]

lemma isSome_position? : (m.position? id).isSome = true ↔ id ∈ m.ids := by
  simp [position?_eq_findIdx?, List.findIdx?_isSome]

lemma exists_position? (h : id ∈ m.ids) : ∃ i, m.position? id = some i :=
  Option.isSome_iff_exists.mp (isSome_position?.mpr h)

lemma mem_ids_of_position? (h : m.position? id = some i) : id ∈ m.ids :=
  isSome_position?.mp (by rw [h]; rfl)

/-- The state found under an id is the one at the position found for it. -/
lemma state?_eq_bind : m.state? id = (m.position? id).bind m.stateAt? :=
  List.find?_eq_bind_findIdx?_getElem?

lemma mem_of_state? (h : m.state? id = some s) : s ∈ m.states := List.mem_of_find?_eq_some h

lemma id_of_state? (h : m.state? id = some s) : s.id = id := by
  simpa using List.find?_some h

lemma mem_of_stateAt? (h : m.stateAt? i = some s) : s ∈ m.states := List.mem_of_getElem? h

lemma isSome_state? : (m.state? id).isSome = true ↔ id ∈ m.ids := by
  rw [← registers_eq_isSome, registers_iff]

lemma exists_state? (h : id ∈ m.ids) : ∃ s, m.state? id = some s :=
  Option.isSome_iff_exists.mp (isSome_state?.mpr h)

/-! ### Distinct ids -/

/-- A search finds the only match. -/
lemma find?_eq_some_of_unique {α : Type} {l : List α} {p : α → Bool} {a : α} (ha : a ∈ l)
    (hp : p a = true) (hunique : ∀ b ∈ l, p b = true → b = a) : l.find? p = some a := by
  obtain ⟨b, hb⟩ := Option.isSome_iff_exists.mp (List.find?_isSome.mpr ⟨a, ha, hp⟩)
  rw [hb, hunique b (List.mem_of_find?_eq_some hb) (List.find?_some hb)]

/-- With distinct ids, the position found for an id is the only place where it stands. -/
lemma position?_eq_some_iff (hm : m.ids.Nodup) :
    m.position? id = some i ↔ m.ids[i]? = some id := by
  refine ⟨getElem?_ids_of_position?, fun h => ?_⟩
  obtain ⟨j, hj⟩ := exists_position? (List.mem_of_getElem? h)
  obtain ⟨hi, -⟩ := List.getElem?_eq_some_iff.mp h
  have hij : i = j := (List.getElem?_inj hi hm).mp (h.trans (getElem?_ids_of_position? hj).symm)
  rw [hj, hij]

/-- With distinct ids, the state found under an id is the registered state with that id. -/
lemma state?_eq_some_iff (hm : m.ids.Nodup) :
    m.state? id = some s ↔ s ∈ m.states ∧ s.id = id := by
  refine ⟨fun h => ⟨mem_of_state? h, id_of_state? h⟩, ?_⟩
  rintro ⟨hs, rfl⟩
  refine find?_eq_some_of_unique hs (beq_self_eq_true _) fun s' hs' hid => ?_
  exact List.inj_on_of_nodup_map hm hs' hs (eq_of_beq hid)

/-- With distinct ids, changing a state at its position is changing it wherever its id stands. -/
lemma modify_eq_map (hm : m.ids.Nodup) (h : m.position? id = some i) (f : State → State) :
    m.states.modify i f = m.states.map fun s => if s.id = id then f s else s := by
  refine List.ext_getElem? fun j => ?_
  rw [List.getElem?_modify, List.getElem?_map]
  cases hj : m.states[j]? with
  | none => rfl
  | some s =>
      have hs : m.ids[j]? = some s.id := by rw [getElem?_ids, stateAt?, hj]; rfl
      have hij : i = j ↔ s.id = id := by
        rw [← Option.some_inj (a := s.id), ← hs, ← position?_eq_some_iff hm, h, Option.some_inj]
      by_cases hid : s.id = id
      · simp [hid, hij.mpr hid]
      · simp [hid, mt hij.mp hid]

/-! ### Registering -/

/-- A state is accepted when its id is free and it has a label. -/
lemma register_eq_ok_iff : m.register s = .ok m' ↔
    s.id ∉ m.ids ∧ s.label ≠ "" ∧
      m' = { m with states := m.states ++ [{ id := s.id, label := s.label }] } := by
  rw [← registers_iff, register]
  by_cases hid : m.registers s.id = true
  · simp [hid]
  · by_cases hlabel : s.label = ""
    · simp [hid, hlabel, bind, Except.bind]
    · simp [hid, hlabel, State.named_of_ne hlabel, bind, Except.bind, pure, Except.pure, eq_comm]

/-- A transition between registered states is accepted. With distinct ids, it goes to the list of the
state where it starts, and to no other. -/
lemma connect_of_ends {t : Transition} {start goal : StateId} (hm : m.ids.Nodup)
    (hends : t.ends = some ⟨start, goal⟩)
    (hstart : start ∈ m.ids) (hgoal : goal ∈ m.ids) :
    m.connect t = .ok { m with
      states := m.states.map fun s => if s.id = start then s.leaveBy t else s
      transitions := m.transitions ++ [t] } := by
  obtain ⟨position, hposition⟩ := exists_position? hstart
  have hregisters : m.registers goal = true := registers_iff.mpr hgoal
  have hstates := modify_eq_map hm hposition fun s => s.leaveBy t
  rw [connect, hends]
  simp only [hposition, hregisters, hstates]
  rfl

/-! ### Extension -/

/-- The registered states as they are told to others, in the order of registration. -/
def described (m : Topology) : List StateDescription := m.states.map State.description

lemma ids_eq_map_described : m.ids = m.described.map StateDescription.id := by
  rw [described, List.map_map]
  rfl

lemma getElem?_described : m.described[i]? = (m.stateAt? i).map State.description :=
  List.getElem?_map ..

/-- The topology `m'` is of the same generation as `m`, and has the states of `m`, with their ids
and labels and in their order, before any others. -/
structure Extends (m m' : Topology) : Prop where
  generation_eq : m'.generation = m.generation
  described_prefix : m.described <+: m'.described

namespace Extends

lemma refl (m : Topology) : m.Extends m := ⟨rfl, List.prefix_refl _⟩

lemma trans (h : m.Extends m') (h' : m'.Extends m'') : m.Extends m'' :=
  ⟨h'.generation_eq.trans h.generation_eq, h.described_prefix.trans h'.described_prefix⟩

lemma ids_prefix (h : m.Extends m') : m.ids <+: m'.ids := by
  rw [ids_eq_map_described, ids_eq_map_described]
  exact h.described_prefix.map _

lemma mem_ids (h : m.Extends m') (hid : id ∈ m.ids) : id ∈ m'.ids := h.ids_prefix.subset hid

/-- A position that was found is found again. -/
lemma position?_eq (h : m.Extends m') (hi : m.position? id = some i) :
    m'.position? id = some i := by
  rw [position?_eq_findIdx?] at hi ⊢
  exact h.ids_prefix.findIdx?_eq_some hi

/-- The state at a position keeps its description. -/
lemma stateAt? (h : m.Extends m') (hs : m.stateAt? i = some s) :
    ∃ s', m'.stateAt? i = some s' ∧ s'.description = s.description := by
  have hi : m.described[i]? = some s.description := by rw [getElem?_described, hs]; rfl
  obtain ⟨added, hadded⟩ := h.described_prefix
  obtain ⟨hlt, -⟩ := List.getElem?_eq_some_iff.mp hi
  have hi' : m'.described[i]? = some s.description := by
    rw [← hadded, List.getElem?_append_left hlt, hi]
  rw [getElem?_described] at hi'
  exact Option.map_eq_some_iff.mp hi'

end Extends

/-- Registering a state extends the topology by its description. -/
lemma described_register (h : m.register s = .ok m') :
    m'.described = m.described ++ [s.description] := by
  rw [register_eq_ok h]
  simp [described, State.description]

lemma ids_register (h : m.register s = .ok m') : m'.ids = m.ids ++ [s.id] := by
  rw [ids_eq_map_described, described_register h, List.map_append, ← ids_eq_map_described]
  rfl

lemma extends_register (h : m.register s = .ok m') : m.Extends m' :=
  ⟨by rw [register_eq_ok h], by rw [described_register h]; exact List.prefix_append _ _⟩

/-- Registering a transition leaves every state at its place, with its description. -/
lemma described_connect {t : Transition} (h : m.connect t = .ok m') :
    m'.described = m.described := by
  obtain ⟨ends, position, -, -, -, rfl⟩ := connect_eq_ok h
  refine List.ext_getElem? fun j => ?_
  simp only [getElem?_described, Topology.stateAt?, List.getElem?_modify, Option.map_eq_map,
    Option.map_map]
  congr 1
  funext s
  by_cases hj : position = j <;> simp [hj, State.description]

lemma ids_connect {t : Transition} (h : m.connect t = .ok m') : m'.ids = m.ids := by
  rw [ids_eq_map_described, described_connect h, ← ids_eq_map_described]

lemma extends_connect {t : Transition} (h : m.connect t = .ok m') : m.Extends m' := by
  refine ⟨?_, (described_connect h).symm ▸ List.prefix_refl _⟩
  obtain ⟨ends, position, -, -, -, rfl⟩ := connect_eq_ok h
  rfl

end Topology

end ManagedNode
