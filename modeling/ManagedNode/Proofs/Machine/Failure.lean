import ManagedNode.Proofs.Fault.Unwinding
import ManagedNode.Proofs.Machine.BringUp
import ManagedNode.Proofs.Machine.Renewal

/-!
Machines that failed to come up.

Bringing up fails before anything is built, and then leaves the machine as it was; or it fails at the
standard lifecycle, and then takes down again what it brought up.

* `Machine.Attempted`, `Machine.attempted`: the ways in which bringing up ends, and what is left.
* `Machine.Botched`, `Machine.bringUp_compounds`: the boundary may not go down again. Its fault is
  then joined to that of the lifecycle, of which everything is kept but the severity: a fatal
  clean-up makes the whole fatal.
* `Machine.Marked`, `Machine.failed_bringUp_options`: the options given are not taken back with the
  rest. This can be seen where they ask for no services: a topology that is built by hand afterwards
  is ready, as it would not be under the options from before or under the usual ones.
-/

namespace ManagedNode

/-! ### A boundary that does not go down -/

/-- A boundary that comes up and hears every announcement, but goes down with a fault. -/
structure Stubborn where
  fault : Fault
  deriving DecidableEq

/-- A stubborn boundary refuses to go down, and grants everything else. -/
def Stubborn.respond : Call → Stubborn → Unit → Reply Stubborn Unit
  | .tearDown, b, _ => { result := .error b.fault, boundary := b, medium := () }
  | .bringUp _, b, _ => { result := .ok (), boundary := b, medium := () }
  | .announce _ _, b, _ => { result := .ok (), boundary := b, medium := () }

instance : Boundary Stubborn Unit := ⟨Stubborn.respond, fun _ => false⟩

namespace Topology

variable {m : Topology} {fault : Fault}

/-- Loading the lifecycle answers with the fault for which that is refused. -/
lemma withStandard_of_loadStandard (hload : m.loadStandard.1 = .error fault) :
    m.withStandard = .error fault := by
  rcases m.loadStandard_cases with ⟨loaded, -, hl⟩ | ⟨fault', hw, hl⟩
  · simp [hl] at hload
  · obtain rfl : fault' = fault := by simpa [hl] using hload
    exact hw

/-- That fault is an error. -/
lemma severity_of_loadStandard (hm : m.ids.Nodup) (hload : m.loadStandard.1 = .error fault) :
    fault.severity = .error := by
  obtain ⟨s, -, rfl⟩ := taken?_of_withStandard hm (withStandard_of_loadStandard hload)
  rfl

end Topology

namespace Machine

variable {β μ : Type} [Boundary β μ] {m : Machine β μ} {b : β} {options : Options}
  {op : Operation β} {fault primary secondary : Fault}

/-! ### What is left of a machine -/

/-- A machine that is given up is a new one, a generation later, but for its options. -/
lemma machine_abandon (m : Machine β μ) (b : β) (fault : Fault) :
    (m.abandon b fault).machine =
      later { medium := (Boundary.respond .tearDown b m.medium).medium, options := m.options }
        (m.topology.generation + 1) := by
  simp [abandon, later, image, Topology.clear, Topology.later, Boundary.Hom.refl]

/-- How bringing up ends: it does not get as far as the standard lifecycle, and then leaves the
machine as it was if it fails; or the lifecycle is loaded; or that is refused, and nothing is left
but the options. -/
inductive Attempted (m : Machine β μ) (b : β) (options : Options) :
    Except Fault Unit → Machine β μ → Prop
  | short {result : Except Fault Unit} {left : Machine β μ}
      (hbuilds : m.builds b options = false)
      (hleft : ∀ fault, result = .error fault → ∃ medium, left = { m with medium }) :
      Attempted m b options result left
  | loaded {topology : Topology} {left : Machine β μ} (hbuilds : m.builds b options = true)
      (hload : m.topology.withStandard = .ok topology) : Attempted m b options (.ok ()) left
  | refused {fault : Fault} {left : Machine β μ} (hbuilds : m.builds b options = true)
      (hload : m.topology.withStandard = .error fault)
      (hleft : left = later { medium := (m.replyDown b options).medium, options }
        (m.topology.generation + 2)) :
      Attempted m b options (.error (unwound fault (m.replyDown b options).result)) left

lemma attempted (m : Machine β μ) (b : β) (options : Options) :
    Attempted m b options (m.bringUp b options).result (m.bringUp b options).machine := by
  have ho := m.broughtUp b options
  generalize m.bringUp b options = o at ho ⊢
  cases ho with
  | alreadyUp hb =>
      have hnot : m.builds b options = false := by
        rw [builds, ← Option.not_isSome, hb]
        rfl
      exact .short hnot fun _ _ => ⟨m.medium, rfl⟩
  | boundaryFailed hb hreply hfault =>
      subst hreply
      exact .short (by simp [builds, hfault, Except.isOk, Except.toBool]) fun _ _ => ⟨_, rfl⟩
  | furnished hb hreply hok hfurnished =>
      subst hreply
      have hbuilds : m.builds b options = options.standardStates := by
        simp [builds, hb, hok, Except.isOk, Except.toBool]
      cases hfurnished with
      | bare hbare => exact .short (hbuilds.trans hbare) nofun
      | loaded hstandard hload => exact .loaded (hbuilds.trans hstandard) hload
      | @abandoned fault hstandard hload =>
          exact .refused (hbuilds.trans hstandard) hload (machine_abandon _ _ fault)

/-! ### The fault -/

/-- The standard lifecycle could not be loaded because of `primary`, after the boundary had come up;
and the boundary did not go down again because of `secondary`. -/
structure Botched (m : Machine β μ) (b : β) (options : Options) (primary secondary : Fault) :
    Prop where
  boundary_eq : m.boundary = none
  up_eq : (m.replyUp b options).result = .ok ()
  standardStates_eq : options.standardStates = true
  load_eq : m.topology.loadStandard.1 = .error primary
  down_eq : (m.replyDown b options).result = .error secondary

lemma Botched.builds_eq (h : m.Botched b options primary secondary) :
    m.builds b options = true := by
  have hup := h.up_eq
  rw [replyUp] at hup
  simp [builds, h.boundary_eq, h.standardStates_eq, hup, Except.isOk, Except.toBool]

/-- Bringing up answers both faults in one. -/
lemma Botched.result_eq (h : m.Botched b options primary secondary) :
    (m.bringUp b options).result = .error (primary.unwinding secondary) := by
  have hw : m.topology.withStandard = .error primary := Topology.withStandard_of_loadStandard h.load_eq
  have ho := m.attempted b options
  generalize (m.bringUp b options).result = result at ho ⊢
  cases ho with
  | short hbuilds => simp [h.builds_eq] at hbuilds
  | loaded _ hload => simp [hw] at hload
  | refused _ hload =>
      rw [hw] at hload
      cases hload
      rw [h.down_eq, unwound]

/-- **A fault keeps what it is when its clean-up fails, but for its severity.** Two faults that
become one, and any number of them, keep where the first came from and what it was; its severity they
keep exactly if nothing louder was met. Bringing up a reachable machine answers such a fault when the
lifecycle cannot be loaded and the boundary does not go down again: it is an error then, unless the
boundary failed fatally. -/
theorem bringUp_compounds (h : m.Reachable) :
    (∀ primary secondary : Fault, (primary.unwinding secondary).Compounds primary secondary) ∧
      (∀ u : Unwinding, u.KeepsFirst) ∧
      ∀ b options primary secondary, m.Botched b options primary secondary →
        ∃ fault, (m.bringUp b options).result = .error fault ∧ fault.Compounds primary secondary ∧
          (fault.severity = primary.severity ↔ secondary.severity ≠ .fatal) := by
  refine ⟨Fault.compounds_unwinding, Unwinding.keepsFirst, fun b options primary secondary hb => ?_⟩
  have hcompounds := primary.compounds_unwinding secondary
  refine ⟨_, hb.result_eq, hcompounds, ?_⟩
  rw [hcompounds.severity_eq_iff, Topology.severity_of_loadStandard h.wellFormed.ids_nodup hb.load_eq,
    Severity.le_error_iff]

/-- The clean-up fails less loudly than what it cleans up after, though with two faults of its own. -/
theorem bringUp_compounds_nested :
    let host : Machine Stubborn Unit :=
      Machine.run { medium := () } [.edit (.register ⟨3, "working", []⟩)]
    let cleanUp : Fault := (Fault.deliveryFailed "line cut").unwinding (.broadcasterDown "close")
    host.Reachable ∧ host.Botched ⟨cleanUp⟩ {} (.stateAlreadyRegistered 3) cleanUp ∧
      ((host.bringUp ⟨cleanUp⟩ {}).result =
        .error ((Fault.stateAlreadyRegistered 3).unwinding cleanUp)) ∧
      (∀ primary secondary : Fault, (primary.unwinding secondary).Compounds primary secondary) ∧
      (∀ u : Unwinding, u.KeepsFirst) ∧
      ∀ b options primary secondary, host.Botched b options primary secondary →
        ∃ fault, (host.bringUp b options).result = .error fault ∧
          fault.Compounds primary secondary ∧
          (fault.severity = primary.severity ↔ secondary.severity ≠ .fatal) := by
  intro host cleanUp
  have h : host.Reachable := (Reachable.zero ()).run _
  exact ⟨h, ⟨rfl, rfl, rfl, rfl, rfl⟩, rfl, bringUp_compounds h⟩

/-- A clean-up that fails fatally makes a fatal fault of an error. -/
theorem fatal_cleanUp_is_kept :
    let host : Machine Stubborn Unit :=
      Machine.run { medium := () } [.edit (.register ⟨3, "working", []⟩)]
    let primary := Fault.stateAlreadyRegistered 3
    let cleanUp : Fault := ⟨.communication, .transport, .fatal, "line cut", .nothing⟩
    host.Reachable ∧ host.Botched ⟨cleanUp⟩ {} primary cleanUp ∧
      (host.bringUp ⟨cleanUp⟩ {}).result = .error (primary.unwinding cleanUp) ∧
      (primary.unwinding cleanUp).severity = .fatal ∧
      (primary.unwinding cleanUp).severity ≠ primary.severity := by
  intro host primary cleanUp
  have h : host.Reachable := (Reachable.zero ()).run _
  exact ⟨h, ⟨rfl, rfl, rfl, rfl, rfl⟩, rfl, rfl, by decide⟩

/-! ### The options -/

/-- The operation neither begins a life nor ends one. -/
def Operation.isManual : Operation β → Bool
  | .bringUp _ _ | .tearDown => false
  | _ => true

/-- The options are kept, and a boundary is held exactly if one was held before. -/
structure Retains (m m' : Machine β μ) : Prop where
  options_eq : m'.options = m.options
  isSome_boundary : m'.boundary.isSome = m.boundary.isSome

lemma Triggered.retains {t : Transition} {announce : Bool} {o : Outcome β μ}
    (h : Triggered m t announce o) : m.Retains o.machine := by
  cases h with
  | refused => exact ⟨rfl, rfl⟩
  | unheld => exact ⟨rfl, rfl⟩
  | quiet => exact ⟨rfl, rfl⟩
  | announced he hb => exact ⟨rfl, by simp [moveAnnounced, hb]⟩

/-- The step: what is done by hand changes neither. -/
lemma retains_perform (hop : op.isManual = true) : m.Retains (m.perform op).machine := by
  cases op with
  | bringUp b options => cases hop
  | trigger t announce => exact (m.triggered t announce).retains
  | request q announce =>
      exact request_induction (P := m.Retains) ⟨rfl, rfl⟩ fun t =>
        (m.triggered t announce).retains
  | tearDown => cases hop
  | loadStandard | occupy | edit =>
      exact inward_induction (P := m.Retains) rfl fun _ _ => ⟨rfl, rfl⟩

/-- The run: a machine that is worked on by hand keeps its options, and holds a boundary exactly if it
did before. -/
lemma retains_run {ops : List (Operation β)} (hops : ∀ op ∈ ops, op.isManual = true) :
    m.Retains (m.run ops) := by
  induction ops generalizing m with
  | nil => exact ⟨rfl, rfl⟩
  | cons op ops ih =>
      obtain ⟨hop, hrest⟩ := List.forall_mem_cons.mp hops
      obtain ⟨hoptions, hboundary⟩ := m.retains_perform hop
      obtain ⟨hoptions', hboundary'⟩ := ih (m := (m.perform op).machine) hrest
      exact ⟨hoptions'.trans hoptions, hboundary'.trans hboundary⟩

/-- Without a boundary, a machine is ready if something is registered and no services were asked
for. -/
lemma isReady_of_unheld (hb : m.boundary = none) :
    m.isReady = true ↔ m.topology.states ≠ [] ∧ m.options.services = false := by
  simp [isReady, hb]

/-- The options that bringing up leaves when it fails: those given if the standard lifecycle is what
failed, and the machine's own otherwise. -/
def optionsLeft (m : Machine β μ) (b : β) (options : Options) : Options :=
  if m.builds b options then options else m.options

/-- A machine that failed to come up is held to these options, and to nothing else of the attempt. -/
lemma options_of_failed (hfail : (m.bringUp b options).result = .error fault) :
    (m.bringUp b options).machine.options = m.optionsLeft b options ∧
      (m.boundary = none → (m.bringUp b options).machine.boundary = none) ∧
      (m.builds b options = true → ∀ actions, (m.bringUp b options).machine.observe actions =
        observe { medium := (m.bringUp b options).machine.medium, options } actions) := by
  have ho := m.attempted b options
  generalize (m.bringUp b options).result = result at ho hfail
  generalize (m.bringUp b options).machine = left at ho ⊢
  cases ho with
  | short hbuilds hleft =>
      obtain ⟨medium, rfl⟩ := hleft fault hfail
      simp [optionsLeft, hbuilds]
  | loaded => cases hfail
  | refused hbuilds _ hleft =>
      subst hleft
      refine ⟨by rw [optionsLeft, if_pos hbuilds]; rfl, fun _ => boundary_later .., fun _ actions => ?_⟩
      exact observe_later ..

/-- Bringing up gets as far as the standard lifecycle, under options without services that are not
the machine's own. -/
structure Marked (m : Machine β μ) (b : β) (options : Options) : Prop where
  builds_eq : m.builds b options = true
  services_eq : options.services = false
  options_ne : m.options ≠ options

/-- Options under which the lifecycle is loaded are the usual ones, but perhaps for the services. -/
lemma eq_default_iff_of_builds (hbuilds : m.builds b options = true) :
    options = {} ↔ options.services = true := by
  have hstandard : options.standardStates = true := by
    simp only [builds, Bool.and_eq_true] at hbuilds
    exact hbuilds.1.2
  obtain ⟨services, standardStates⟩ := options
  simp_all

/-- The options left are those from before or the usual ones, unless the machine is marked. -/
lemma optionsLeft_eq_iff :
    (m.optionsLeft b options = m.options ∨ m.optionsLeft b options = {}) ↔
      ¬m.Marked b options := by
  by_cases hbuilds : m.builds b options = true
  · rw [optionsLeft, if_pos hbuilds, eq_default_iff_of_builds hbuilds]
    constructor
    · rintro (heq | hservices) hmarked
      · exact hmarked.options_ne heq.symm
      · simp [hmarked.services_eq] at hservices
    · intro hmarked
      by_contra! hneither
      exact hmarked ⟨hbuilds, by simpa using hneither.2, hneither.1.symm⟩
  · rw [optionsLeft, if_neg hbuilds]
    exact iff_of_true (.inl rfl) fun hmarked => hbuilds hmarked.builds_eq

/-- **What a machine is held to that failed to come up.** Its options are those given if the
lifecycle was what failed, and those from before otherwise; so they are from before, or the usual
ones, except after options without services that the machine did not have. Of a failure at the
lifecycle nothing else is left. As long as the machine is worked on by hand the options stay, and
without a boundary the topology built meanwhile is ready exactly if they ask for no services. -/
theorem failed_bringUp_options (hfail : (m.bringUp b options).result = .error fault) :
    let left := (m.bringUp b options).machine
    left.options = m.optionsLeft b options ∧
      (left.options = m.options ∨ left.options = {} ↔ ¬m.Marked b options) ∧
      (m.builds b options = true →
        ∀ actions, left.observe actions = observe { medium := left.medium, options } actions) ∧
      ∀ ops : List (Operation β), (∀ op ∈ ops, op.isManual = true) →
        (left.run ops).options = m.optionsLeft b options ∧
          (m.boundary = none → ((left.run ops).isReady = true ↔
            (left.run ops).topology.states ≠ [] ∧ (m.optionsLeft b options).services = false)) := by
  intro left
  obtain ⟨hoptions, hboundary, hobserve⟩ := options_of_failed hfail
  refine ⟨hoptions, by rw [hoptions, optionsLeft_eq_iff], hobserve, fun ops hops => ?_⟩
  obtain ⟨hrun, hheld⟩ := left.retains_run hops
  refine ⟨hrun.trans hoptions, fun hnone => ?_⟩
  have hunheld : (left.run ops).boundary = none := by
    rw [hboundary hnone] at hheld
    exact Option.isNone_iff_eq_none.mp (Option.isSome_eq_false_iff.mp hheld)
  rw [isReady_of_unheld hunheld, hrun, hoptions]

/-- A lifecycle that is refused while the boundary does not go down again, and a topology that is
built by hand afterwards. -/
theorem failed_bringUp_options_stubborn :
    let host : Machine Stubborn Unit :=
      Machine.run { medium := () } [.edit (.register ⟨3, "working", []⟩)]
    let quiet : Options := { services := false }
    let left := (host.bringUp ⟨.broadcasterDown "close"⟩ quiet).machine
    let ops : List (Operation Stubborn) := [.edit (.register ⟨7, "seven", []⟩), .occupy 7]
    (host.bringUp ⟨.broadcasterDown "close"⟩ quiet).result =
        .error ((Fault.stateAlreadyRegistered 3).unwinding (.broadcasterDown "close")) ∧
      (∀ op ∈ ops, op.isManual = true) ∧ host.Marked ⟨.broadcasterDown "close"⟩ quiet ∧
      ¬(left.options = host.options ∨ left.options = {}) ∧ (left.run ops).options = quiet := by
  intro host quiet left ops
  have hfail : (host.bringUp ⟨.broadcasterDown "close"⟩ quiet).result =
      .error ((Fault.stateAlreadyRegistered 3).unwinding (.broadcasterDown "close")) := rfl
  have hops : ∀ op ∈ ops, op.isManual = true := by simp [ops, Operation.isManual]
  have hmarked : host.Marked ⟨.broadcasterDown "close"⟩ quiet := ⟨rfl, rfl, by decide⟩
  obtain ⟨-, hleft, -, hrun⟩ := failed_bringUp_options hfail
  exact ⟨hfail, hops, hmarked, fun hkept => hleft.mp hkept hmarked, (hrun ops hops).1⟩

/-- The options of the attempt decide whether the host's own topology is ready. -/
theorem failed_options_stay :
    let host : Machine Silent Unit :=
      Machine.run { medium := () } [.edit (.register ⟨3, "working", []⟩)]
    let quiet : Options := { services := false }
    let left := (host.bringUp {} quiet).machine
    let rebuilt := left.run [.edit (.register ⟨7, "seven", []⟩)]
    host.Reachable ∧ (host.bringUp {} quiet).result = .error (.stateAlreadyRegistered 3) ∧
      left.options ≠ host.options ∧ left.options ≠ {} ∧ rebuilt.isReady = true ∧
      isReady { rebuilt with options := host.options } = false := by
  intro host quiet left rebuilt
  have h : host.Reachable := (Reachable.zero ()).run _
  exact ⟨h, rfl, by decide, by decide, rfl, rfl⟩

end Machine

end ManagedNode
