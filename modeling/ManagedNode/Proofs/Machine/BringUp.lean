import ManagedNode.Proofs.Machine.Run
import ManagedNode.Proofs.Topology.Standard

/-!
The complete outcome of bringing a machine up.

Bringing up asks three things in turn: that no boundary is held, that the new boundary comes up, and
that the standard lifecycle can be loaded, if it is asked for. Whatever is denied decides what is
left of the machine.

* `Machine.replyUp`, `Machine.replyDown`: what the new boundary answers to coming up, and to going
  down again right afterwards.
* `Machine.Emergence`: the complete outcome, by what is granted and denied. It is shown for each way
  in which bringing up can end, and so it holds of every reachable machine
  (`Machine.bringUp_emergence`).
-/

namespace ManagedNode

namespace Machine

variable {β μ : Type} [Boundary β μ] {m : Machine β μ} {b : β} {options : Options} {fault : Fault}

/-- What a new boundary answers to coming up. -/
def replyUp (m : Machine β μ) (b : β) (options : Options) : Reply β μ :=
  Boundary.respond (.bringUp options.mode) b m.medium

/-- What a new boundary answers to going down, right after it has come up. -/
def replyDown (m : Machine β μ) (b : β) (options : Options) : Reply β μ :=
  Boundary.respond .tearDown (m.replyUp b options).boundary (m.replyUp b options).medium

/-- A fault, with the fault of a clean-up that failed as well. -/
def unwound (fault : Fault) (cleanUp : Except Fault Unit) : Fault :=
  match cleanUp with
  | .ok () => fault
  | .error secondary => fault.unwinding secondary

/-- The complete outcome of bringing a machine up with a boundary and options. -/
structure Emergence (m : Machine β μ) (b : β) (options : Options) (o : Outcome β μ) : Prop where
  result_eq_ok_iff : o.result = .ok () ↔
    m.boundary = none ∧ (m.replyUp b options).result = .ok () ∧
      (options.standardStates = false ∨ ∀ s : StandardState, s.id ∉ m.topology.ids)
  /-- A machine that is up holds the boundary as it answered, under the options given. -/
  of_ok : o.result = .ok () →
    o.machine.boundary = some (m.replyUp b options).boundary ∧ o.machine.options = options
  of_ok_standard : o.result = .ok () → options.standardStates = true →
    o.machine.topology = m.topology.joined Standard.rows ∧
      o.machine.current? = some StandardState.initial.loaded
  of_ok_bare : o.result = .ok () → options.standardStates = false →
    o.machine.topology = m.topology ∧ o.machine.handle = m.handle ∧
      o.machine.current? = m.current?
  of_held : m.boundary.isSome = true → o = m.refuse .alreadyUp
  /-- A boundary that does not come up leaves a trace in its medium alone. -/
  of_refused : ∀ fault, m.boundary = none → (m.replyUp b options).result = .error fault →
    o.result = .error fault ∧ o.machine = { m with medium := (m.replyUp b options).medium }
  /-- A lifecycle that cannot be loaded takes everything down. -/
  of_taken : m.boundary = none → (m.replyUp b options).result = .ok () →
    options.standardStates = true → ∀ s : StandardState, s.id ∈ m.topology.ids →
    o.machine.boundary = none ∧ o.machine.topology.states = [] ∧
      o.machine.topology.transitions = [] ∧ o.machine.current? = none ∧
      ∃ t, m.topology.taken? = some t ∧
        m.topology.loadStandard.1 = .error (.stateAlreadyRegistered t.id) ∧
        o.result = .error
          (unwound (.stateAlreadyRegistered t.id) (m.replyDown b options).result)

/-! ### Each way to end -/

lemma emergence_refuse (hb : m.boundary.isSome = true) :
    Emergence m b options (m.refuse .alreadyUp) := by
  have hheld : m.boundary ≠ none := Option.isSome_iff_ne_none.mp hb
  exact
    { result_eq_ok_iff := iff_of_false nofun fun h => hheld h.1
      of_ok := nofun
      of_ok_standard := nofun
      of_ok_bare := nofun
      of_held := fun _ => rfl
      of_refused := fun _ h => absurd h hheld
      of_taken := fun h => absurd h hheld }

lemma emergence_boundaryFailed {o : Outcome β μ} (hb : m.boundary = none)
    (hup : (m.replyUp b options).result = .error fault) (hresult : o.result = .error fault)
    (hmachine : o.machine = { m with medium := (m.replyUp b options).medium }) :
    Emergence m b options o := by
  have hnot : o.result ≠ .ok () := by simp [hresult]
  have hdown : (m.replyUp b options).result ≠ .ok () := by simp [hup]
  exact
    { result_eq_ok_iff := iff_of_false hnot fun h => hdown h.2.1
      of_ok := fun h => absurd h hnot
      of_ok_standard := fun h => absurd h hnot
      of_ok_bare := fun h => absurd h hnot
      of_held := fun h => by simp [hb] at h
      of_refused := fun fault' _ h => ⟨hresult.trans (hup.symm.trans h), hmachine⟩
      of_taken := fun _ h => absurd h hdown }

/-- Once the boundary is up, the standard lifecycle decides. -/
lemma Furnished.emergence {o : Outcome β μ} (hm : m.topology.ids.Nodup) (hb : m.boundary = none)
    (hup : (m.replyUp b options).result = .ok ()) {trace : List Event}
    (h : Furnished (m.holding (m.replyUp b options) options) (m.replyUp b options).boundary o) :
    Emergence m b options { o with trace } := by
  have hheld : m.boundary.isSome = true → False := by simp [hb]
  have hrefused : ∀ fault, (m.replyUp b options).result ≠ .error fault := by simp [hup]
  cases h with
  | bare hbare =>
      replace hbare : options.standardStates = false := hbare
      exact
        { result_eq_ok_iff := iff_of_true rfl ⟨hb, hup, Or.inl hbare⟩
          of_ok := fun _ => ⟨rfl, rfl⟩
          of_ok_standard := fun _ h => by simp [hbare] at h
          of_ok_bare := fun _ _ => ⟨rfl, rfl, rfl⟩
          of_held := fun h => (hheld h).elim
          of_refused := fun fault _ h => absurd h (hrefused fault)
          of_taken := fun _ _ h => by simp [hbare] at h }
  | loaded hstandard hw =>
      replace hstandard : options.standardStates = true := hstandard
      obtain ⟨hfree, rfl⟩ := Topology.eq_joined_of_withStandard hm hw
      have hcurrent : (m.topology.joined Standard.rows).state? StandardState.initial.id =
          some StandardState.initial.loaded := Topology.state?_joined hm hfree .initial
      exact
        { result_eq_ok_iff := iff_of_true rfl ⟨hb, hup, Or.inr hfree⟩
          of_ok := fun _ => ⟨rfl, rfl⟩
          of_ok_standard := fun _ _ => ⟨rfl, Topology.bind_handle?_resolve?.trans hcurrent⟩
          of_ok_bare := fun _ h => by simp [hstandard] at h
          of_held := fun h => (hheld h).elim
          of_refused := fun fault _ h => absurd h (hrefused fault)
          of_taken := fun _ _ _ s hs => absurd hs (hfree s) }
  | abandoned hstandard hw =>
      replace hstandard : options.standardStates = true := hstandard
      replace hw : m.topology.withStandard = .error _ := hw
      obtain ⟨s, htaken, rfl⟩ := Topology.taken?_of_withStandard hm hw
      have hload : m.topology.loadStandard.1 = .error (.stateAlreadyRegistered s.id) := by
        rw [Topology.loadStandard, hw]
      have hnot : ∀ fault : Fault, (.error fault : Except Fault Unit) ≠ .ok () := by simp
      exact
        { result_eq_ok_iff := iff_of_false (hnot _) fun h => by
            rcases h.2.2 with hbare | hfree
            · simp [hstandard] at hbare
            · exact hfree s (Topology.id_mem_of_taken? htaken)
          of_ok := fun h => absurd h (hnot _)
          of_ok_standard := fun h => absurd h (hnot _)
          of_ok_bare := fun h => absurd h (hnot _)
          of_held := fun h => (hheld h).elim
          of_refused := fun fault _ h => absurd h (hrefused fault)
          of_taken := fun _ _ _ _ _ => ⟨rfl, rfl, rfl, rfl, s, htaken, hload, rfl⟩ }

/-- **The complete outcome of bringing a machine up**, over boundaries that answer in any way. -/
theorem bringUp_emergence (h : m.Reachable) (b : β) (options : Options) :
    Emergence m b options (m.bringUp b options) := by
  have hm : m.topology.ids.Nodup := h.wellFormed.ids_nodup
  have ho := m.broughtUp b options
  generalize m.bringUp b options = o at ho ⊢
  cases ho with
  | alreadyUp hb => exact emergence_refuse hb
  | boundaryFailed hb hreply hfault =>
      subst hreply
      exact emergence_boundaryFailed hb hfault rfl rfl
  | furnished hb hreply hok hfurnished =>
      subst hreply
      exact hfurnished.emergence hm hb hok

/-- A host that has taken an id of the standard lifecycle is left with nothing. -/
theorem bringUp_emergence_taken :
    let host : Machine Silent Unit :=
      Machine.run { medium := () } [.edit (.register ⟨3, "working", []⟩)]
    host.Reachable ∧ Emergence host {} {} (host.bringUp {} {}) ∧
      (host.bringUp {} {}).result = .error (.stateAlreadyRegistered 3) ∧
      (host.bringUp {} {}).machine.topology.states = [] := by
  intro host
  have h : host.Reachable := .perform _ (.zero ())
  exact ⟨h, bringUp_emergence h {} {}, rfl, rfl⟩

end Machine

end ManagedNode
