import ManagedNode.Transition

/-!
The standard lifecycle of a managed node: eleven states and twenty-five transitions.

* `StandardState`: the states, primary ones first, with ids and labels.
* `Verb`: what a transition is called; five verbs are asked for from outside, three tell how
  the work of a transition state ended.
* `Standard.rows`: the transitions, each a `Row` of id, verb, start and goal.

The ids are those of the common lifecycle messages, so that they can be sent as they are.
-/

namespace ManagedNode

/-- The states of the standard lifecycle. -/
inductive StandardState
  | unknown
  | unconfigured
  | inactive
  | active
  | finalized
  | configuring
  | cleaningUp
  | shuttingDown
  | activating
  | deactivating
  | errorProcessing
  deriving DecidableEq, Repr, Inhabited

namespace StandardState

/-- The id of a standard state; those of transition states start at ten. -/
def id : StandardState → StateId
  | unknown => 0
  | unconfigured => 1
  | inactive => 2
  | active => 3
  | finalized => 4
  | configuring => 10
  | cleaningUp => 11
  | shuttingDown => 12
  | activating => 13
  | deactivating => 14
  | errorProcessing => 15

/-- The label of a standard state. -/
def label : StandardState → String
  | unknown => "unknown"
  | unconfigured => "unconfigured"
  | inactive => "inactive"
  | active => "active"
  | finalized => "finalized"
  | configuring => "configuring"
  | cleaningUp => "cleaningup"
  | shuttingDown => "shuttingdown"
  | activating => "activating"
  | deactivating => "deactivating"
  | errorProcessing => "errorprocessing"

/-- Every standard state, in the order of registration. -/
def all : List StandardState :=
  [unknown, unconfigured, inactive, active, finalized, configuring, cleaningUp, shuttingDown,
    activating, deactivating, errorProcessing]

/-- Where a machine with the standard lifecycle starts. -/
def initial : StandardState := unconfigured

theorem label_ne_empty (s : StandardState) : s.label ≠ "" := by cases s <;> decide

theorem mem_all (s : StandardState) : s ∈ all := by cases s <;> decide

theorem id_injective {s t : StandardState} (h : s.id = t.id) : s = t := by
  cases s <;> cases t <;> simp_all [id]

end StandardState

/-- What the standard transitions are called. -/
inductive Verb
  | configure
  | cleanUp
  | activate
  | deactivate
  | shutDown
  /-- The work of a transition state succeeded. -/
  | success
  /-- The work of a transition state failed, and the node goes back. -/
  | failure
  /-- The work of a transition state broke down. -/
  | breakdown
  deriving DecidableEq, Repr, Inhabited

/-- The label of the transitions with this verb. -/
def Verb.label : Verb → String
  | configure => "configure"
  | cleanUp => "cleanup"
  | activate => "activate"
  | deactivate => "deactivate"
  | shutDown => "shutdown"
  | success => "transition_success"
  | failure => "transition_failure"
  | breakdown => "transition_error"

theorem Verb.label_ne_empty (v : Verb) : v.label ≠ "" := by cases v <;> decide

namespace Standard

/-- One transition of the standard lifecycle. -/
structure Row where
  id : TransitionId
  verb : Verb
  start : StandardState
  goal : StandardState
  deriving DecidableEq, Repr

/-- The transition that a row stands for. -/
def Row.transition (r : Row) : Transition where
  id := r.id
  label := r.verb.label
  ends := some ⟨r.start.id, r.goal.id⟩
  labelled := fun _ => r.verb.label_ne_empty

open StandardState Verb

/-- Every standard transition, in the order of registration. Requests from outside have ids of
one digit; the outcomes of one transition state share their tens. -/
def rows : List Row :=
  [⟨1, .configure, unconfigured, configuring⟩,
    ⟨10, success, configuring, inactive⟩,
    ⟨11, failure, configuring, unconfigured⟩,
    ⟨12, breakdown, configuring, errorProcessing⟩,
    ⟨2, cleanUp, inactive, cleaningUp⟩,
    ⟨20, success, cleaningUp, unconfigured⟩,
    ⟨21, failure, cleaningUp, inactive⟩,
    ⟨22, breakdown, cleaningUp, errorProcessing⟩,
    ⟨3, .activate, inactive, activating⟩,
    ⟨30, success, activating, active⟩,
    ⟨31, failure, activating, inactive⟩,
    ⟨32, breakdown, activating, errorProcessing⟩,
    ⟨4, .deactivate, active, deactivating⟩,
    ⟨40, success, deactivating, inactive⟩,
    ⟨41, failure, deactivating, active⟩,
    ⟨42, breakdown, deactivating, errorProcessing⟩,
    ⟨5, shutDown, unconfigured, shuttingDown⟩,
    ⟨6, shutDown, inactive, shuttingDown⟩,
    ⟨7, shutDown, active, shuttingDown⟩,
    ⟨50, success, shuttingDown, finalized⟩,
    ⟨51, failure, shuttingDown, finalized⟩,
    ⟨52, breakdown, shuttingDown, errorProcessing⟩,
    ⟨60, success, errorProcessing, unconfigured⟩,
    ⟨61, failure, errorProcessing, finalized⟩,
    ⟨62, breakdown, errorProcessing, finalized⟩]

end Standard

end ManagedNode
