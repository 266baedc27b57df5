import ManagedNode.Fault.Catalogue

/-!
Transitions: labelled edges between two states, which they name by id.

* `Transition`: id, label and two `Ends`. A transition without ends is a cleared one, which
  connects nothing; a transition with ends always has a label.
* `Transition.between`: the one way to make a transition with ends.
* `Selector`: a transition asked for by its id or by its label.
-/

namespace ManagedNode

/-- The two states that a transition connects. -/
structure Ends where
  start : StateId
  goal : StateId
  deriving DecidableEq, Repr

/-- A directed edge of a lifecycle graph. Its ends are ids, so that it stays valid however the
graph around it grows. -/
structure Transition where
  id : TransitionId := 0
  label : String := ""
  /-- `none` in a cleared transition. -/
  ends : Option Ends := none
  /-- Only a cleared transition may lack a label. -/
  labelled : ends ≠ none → label ≠ "" := by simp
  deriving DecidableEq, Repr

namespace Transition

/-- The transition that names and connects nothing. -/
def cleared : Transition := {}

instance : Inhabited Transition := ⟨cleared⟩

/-- The transition between two states, if its label is not empty. That the states are
registered anywhere is checked when the transition is. -/
def between (id : TransitionId) (label : String) (start goal : StateId) :
    Except Fault Transition :=
  if h : label = "" then .error (.emptyTransitionLabel id)
  else .ok { id := id, label := label, ends := some ⟨start, goal⟩, labelled := fun _ => h }

/-- The state that the transition leaves. -/
def start? (t : Transition) : Option StateId := t.ends.map Ends.start

/-- The state that the transition enters. -/
def goal? (t : Transition) : Option StateId := t.ends.map Ends.goal

theorem label_ne_empty {t : Transition} {e : Ends} (h : t.ends = some e) : t.label ≠ "" :=
  t.labelled (by simp [h])

end Transition

/-! ### Asking for a transition -/

/-- A transition asked for by its id or by its label. -/
inductive Selector
  | byId (id : TransitionId)
  | byLabel (label : String)
  deriving DecidableEq, Repr

/-- Is this transition the one asked for? -/
def Selector.selects : Selector → Transition → Bool
  | byId id, t => t.id == id
  | byLabel label, t => t.label == label

end ManagedNode
