import Mathlib.Logic.Function.Basic
import ManagedNode.Fault

/-!
What faults keep that were met while unwinding others.

A fault and the one met while cleaning up after it become one fault, and this may meet others in
turn, on either side. Where the whole came from and what it is are always those of the fault that
came first. It is as loud as the loudest of them all, so that the severity of the first is kept only
if nothing louder was met.

* `Fault.Compounds`: what a fault that is made of two keeps of each.
* `Unwinding`: how any number of faults came together. `Unwinding.severity_fault_le_iff` says that
  the whole is as loud as the loudest part, by induction on the way in which they did.
* `Unwinding.keepsFirst`: what the whole keeps of the first.
-/

namespace ManagedNode

/-! ### Severities -/

namespace Severity

variable {a b c : Severity}

lemma rank_injective : Function.Injective rank := by
  intro a b h
  cases a <;> cases b <;> simp_all [rank]

lemma le_antisymm (h : a ≤ b) (h' : b ≤ a) : a = b := rank_injective (Nat.le_antisymm h h')

lemma rank_max : (max a b).rank = max a.rank b.rank := by
  rw [max_def]
  by_cases h : a ≤ b
  · rw [if_pos h]
    exact (Nat.max_eq_right h).symm
  · rw [if_neg h]
    exact (Nat.max_eq_left (Nat.le_of_not_le h)).symm

/-- The louder of two is no louder than a third exactly if neither of them is. -/
lemma max_le_iff : max a b ≤ c ↔ a ≤ c ∧ b ≤ c := by
  rw [le_def, le_def, le_def, rank_max, Nat.max_le]

/-- The louder of two is the first exactly if the second is no louder. -/
lemma max_eq_left_iff : max a b = a ↔ b ≤ a := by
  rw [← rank_injective.eq_iff, rank_max, le_def]
  omega

/-- Only a fatal fault is louder than an error. -/
lemma le_error_iff : a ≤ .error ↔ a ≠ .fatal := by cases a <;> decide

end Severity

/-! ### Two faults -/

namespace Fault

/-- The fault is made of `primary` and of `secondary`, met while cleaning up after it. Where it came
from and what it is are those of the primary fault, the texts of both are in its text, and the
secondary fault can be taken out of it whole. Its severity is the louder of the two. -/
structure Compounds (f primary secondary : Fault) : Prop where
  subsystem_eq : f.subsystem = primary.subsystem
  kind_eq : f.kind = primary.kind
  message_eq : f.message = primary.message ++ ", while unwinding: " ++ secondary.message
  secondary?_eq : f.secondary? = some secondary
  severity_eq : f.severity = max primary.severity secondary.severity
  severity_eq_iff : f.severity = primary.severity ↔ secondary.severity ≤ primary.severity

lemma compounds_unwinding (primary secondary : Fault) :
    (primary.unwinding secondary).Compounds primary secondary where
  subsystem_eq := rfl
  kind_eq := rfl
  message_eq := rfl
  secondary?_eq := rfl
  severity_eq := rfl
  severity_eq_iff := Severity.max_eq_left_iff

end Fault

/-! ### Any number of faults -/

/-- How faults came together: one alone, or some that were met while unwinding others. -/
inductive Unwinding
  | alone (f : Fault)
  | met (primary secondary : Unwinding)

namespace Unwinding

variable {u : Unwinding}

/-- The fault that they became. -/
def fault : Unwinding → Fault
  | alone f => f
  | met primary secondary => primary.fault.unwinding secondary.fault

/-- The faults that came together, in the order in which they were met. -/
def faults : Unwinding → List Fault
  | alone f => [f]
  | met primary secondary => primary.faults ++ secondary.faults

/-- The fault that came first. -/
def first : Unwinding → Fault
  | alone f => f
  | met primary _ => primary.first

lemma first_mem_faults : u.first ∈ u.faults := by
  induction u with
  | alone f => exact List.mem_singleton_self f
  | met primary secondary ih _ => exact List.mem_append_left _ ih

lemma subsystem_fault : u.fault.subsystem = u.first.subsystem := by
  induction u with
  | alone f => rfl
  | met primary secondary ih _ => exact ih

lemma kind_fault : u.fault.kind = u.first.kind := by
  induction u with
  | alone f => rfl
  | met primary secondary ih _ => exact ih

/-- The whole is as loud as the loudest of the faults. -/
lemma severity_fault_le_iff {c : Severity} :
    u.fault.severity ≤ c ↔ ∀ f ∈ u.faults, f.severity ≤ c := by
  induction u with
  | alone f => simp [fault, faults]
  | met primary secondary ihp ihs =>
      rw [fault, Fault.severity_unwinding, Severity.max_le_iff, ihp, ihs, faults,
        List.forall_mem_append]

/-- What the whole keeps of the fault that came first: where that came from and what it is, always;
how loud it is, only if nothing louder was met. -/
structure KeepsFirst (u : Unwinding) : Prop where
  subsystem_eq : u.fault.subsystem = u.first.subsystem
  kind_eq : u.fault.kind = u.first.kind
  severity_eq_iff :
    u.fault.severity = u.first.severity ↔ ∀ f ∈ u.faults, f.severity ≤ u.first.severity

lemma keepsFirst (u : Unwinding) : u.KeepsFirst where
  subsystem_eq := subsystem_fault
  kind_eq := kind_fault
  severity_eq_iff := by
    rw [← severity_fault_le_iff]
    have hle : u.fault.severity ≤ u.fault.severity := Nat.le_refl _
    have hfirst : u.first.severity ≤ u.fault.severity :=
      severity_fault_le_iff.mp hle u.first first_mem_faults
    exact ⟨fun h => h ▸ hle, fun h => Severity.le_antisymm h hfirst⟩

end Unwinding

end ManagedNode
