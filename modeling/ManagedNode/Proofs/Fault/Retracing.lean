import Mathlib.Data.Nat.Notation
import ManagedNode.Proofs.Fault.Unwinding

/-!
What is still told of every fault that came together with others.

The text of the whole has the texts of all of them, in the order in which they were met. The faults
are kept themselves on one side only: a fault that is made of two has the secondary one in it, in
place of whatever the primary one carried. So there is a way back from the whole along the secondary
faults, from each to the next, but none into a primary one.

* `Fault.retrace`: the fault that is come to by going this way for a number of steps.
* `Unwinding.chain`: the faults met one while unwinding the other, each met beside a whole of its own
  (`Unwinding.exists_chain`: every whole is such a chain). `Unwinding.retrace_chain` says what is
  come to from a chain.
* `Unwinding.message_fault`: the text of the whole. How faults came together is seen in the payload
  only (`Unwinding.fault_eq_of_faults_eq`).
* `Unwinding.retold`: all that is told of the parts, for every way of coming together.
-/

namespace ManagedNode

/-- The fault found by taking the secondary fault out of a fault, and of that one in turn, so many
times. -/
def Fault.retrace : ℕ → Fault → Option Fault
  | 0, f => some f
  | n + 1, f => f.secondary?.bind (retrace n)

namespace Unwinding

variable {u v : Unwinding}

/-! ### The text of the whole -/

lemma faults_ne_nil : u.faults ≠ [] := List.ne_nil_of_mem first_mem_faults

lemma head?_faults : u.faults.head? = some u.first := by
  induction u with
  | alone f => rfl
  | met primary secondary ih _ => rw [faults, List.head?_append, ih, first, Option.some_or]

/-- The text of the whole joins the texts of all faults, in the order in which they were met. -/
lemma message_fault :
    u.fault.message = String.intercalate ", while unwinding: " (u.faults.map Fault.message) := by
  induction u with
  | alone f => exact String.intercalate_singleton.symm
  | met primary secondary ihp ihs =>
      have hp : primary.faults.map Fault.message ≠ [] := mt List.map_eq_nil_iff.mp faults_ne_nil
      have hs : secondary.faults.map Fault.message ≠ [] := mt List.map_eq_nil_iff.mp faults_ne_nil
      have hmade := primary.fault.compounds_unwinding secondary.fault
      rw [fault, hmade.message_eq, ihp, ihs, faults, List.map_append,
        String.intercalate_append_of_ne_nil hp hs]

/-- The same faults in the same order come to the same whole, but for its payload: how they came
together is seen there only. -/
lemma fault_eq_of_faults_eq (h : u.faults = v.faults) :
    { u.fault with payload := .nothing } = { v.fault with payload := .nothing } := by
  have hfirst : u.first = v.first := by
    rw [← Option.some_inj, ← head?_faults, ← head?_faults, h]
  have hseverity : ∀ c, u.fault.severity ≤ c ↔ v.fault.severity ≤ c := by
    intro c
    rw [severity_fault_le_iff, severity_fault_le_iff, h]
  simp only [Fault.mk.injEq, and_true]
  refine ⟨?_, ?_, ?_, ?_⟩
  · rw [subsystem_fault, subsystem_fault, hfirst]
  · rw [kind_fault, kind_fault, hfirst]
  · exact Severity.le_antisymm ((hseverity _).mpr (Nat.le_refl _)) ((hseverity _).mp (Nat.le_refl _))
  · rw [message_fault, message_fault, h]

/-! ### The way back -/

/-- Faults of which each was met while unwinding the one before it, with `u` as the last. -/
def chain (primaries : List Unwinding) (u : Unwinding) : Unwinding := primaries.foldr met u

lemma chain_append (primaries more : List Unwinding) (u : Unwinding) :
    chain (primaries ++ more) u = chain primaries (chain more u) := List.foldr_append

/-- Everything that came together is a chain, along its secondary sides. -/
lemma exists_chain (u : Unwinding) : ∃ primaries f, u = chain primaries (alone f) := by
  induction u with
  | alone f => exact ⟨[], f, rfl⟩
  | met primary secondary _ ih =>
      obtain ⟨primaries, f, rfl⟩ := ih
      exact ⟨primary :: primaries, f, rfl⟩

/-- One step back is to what was met last, as it was then. -/
lemma secondary?_fault_met (primary secondary : Unwinding) :
    (met primary secondary).fault.secondary? = some secondary.fault := rfl

/-- The way back from a chain passes its primary sides, one by one, and goes on from the last. -/
lemma retrace_chain (primaries : List Unwinding) (u : Unwinding) (n : ℕ) :
    (chain primaries u).fault.retrace (primaries.length + n) = u.fault.retrace n := by
  induction primaries with
  | nil => rw [List.length_nil, Nat.zero_add, chain, List.foldr_nil]
  | cons primary primaries ih =>
      rw [List.length_cons, Nat.add_right_comm, Fault.retrace, chain, List.foldr_cons,
        secondary?_fault_met, Option.bind_some]
      exact ih

/-- All the places of a way of coming together: the whole, and the places of its two sides. -/
def places : Unwinding → List Unwinding
  | alone f => [alone f]
  | met primary secondary => met primary secondary :: (primary.places ++ secondary.places)

/-- What is told of the faults that came together: all of their texts, where the first came from and
what it is, and at each place the fault of the secondary side. -/
structure Retold (u : Unwinding) : Prop where
  message_eq :
    u.fault.message = String.intercalate ", while unwinding: " (u.faults.map Fault.message)
  head?_faults : u.faults.head? = some u.first
  subsystem_eq : u.fault.subsystem = u.first.subsystem
  kind_eq : u.fault.kind = u.first.kind
  /-- How the faults came together is seen in the payload only. -/
  fault_eq : ∀ v : Unwinding, u.faults = v.faults →
    { u.fault with payload := .nothing } = { v.fault with payload := .nothing }
  secondary?_eq : ∀ primary secondary, met primary secondary ∈ u.places →
    (met primary secondary).fault.secondary? = some secondary.fault
  exists_chain : ∃ primaries f, u = chain primaries (alone f)
  /-- What a chain ends with is found whole, however long this end is. -/
  retrace_eq_some : ∀ primaries more f, u = chain (primaries ++ more) (alone f) →
    u.fault.retrace primaries.length = some (chain more (alone f)).fault
  /-- From the last fault, the way goes on by what that fault carried before. -/
  retrace_eq : ∀ primaries f, u = chain primaries (alone f) →
    ∀ n, u.fault.retrace (primaries.length + n) = f.retrace n

/-- **No text and no secondary fault is lost**, however deep and on whichever sides faults came
together. -/
theorem retold (u : Unwinding) : u.Retold where
  message_eq := message_fault
  head?_faults := head?_faults
  subsystem_eq := subsystem_fault
  kind_eq := kind_fault
  fault_eq := fun _ h => fault_eq_of_faults_eq h
  secondary?_eq := fun primary secondary _ => secondary?_fault_met primary secondary
  exists_chain := u.exists_chain
  retrace_eq_some := by
    rintro primaries more f rfl
    rw [chain_append]
    exact retrace_chain primaries (chain more (alone f)) 0
  retrace_eq := by
    rintro primaries f rfl n
    exact retrace_chain primaries (alone f) n

/-- Three faults have one text in both nestings, but the one in the middle is found in one only. -/
example (a b c : Fault) :
    (met (met (alone a) (alone b)) (alone c)).fault.retrace 1 = some c ∧
      (met (alone a) (met (alone b) (alone c))).fault.retrace 1 = some (b.unwinding c) :=
  ⟨rfl, rfl⟩

end Unwinding

end ManagedNode
