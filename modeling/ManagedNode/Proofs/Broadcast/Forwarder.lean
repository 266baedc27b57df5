import Mathlib.Data.List.DropRight
import ManagedNode.Broadcast.Forwarder

/-!
What one poll of a forwarder does, in closed form.

A poll reads in rounds. All that they come to is told by the events that the forwarder has not read
when it is polled: those that the channel no longer keeps are reported, once, and the others are
handed to the sink in order, up to the first that it refuses.

* `Channel.unread`, `Channel.missed`, `Channel.kept`: the events that a position has not read, how
  many of them are lost, and the ones that are not.
* `Polled`: the three ways in which a poll can leave a forwarder, with all that it did.
* `Forwarder.polled`: every poll is one of these.
-/

namespace ManagedNode

/-! ### What there is to read -/

namespace Channel

variable {α : Type} {c : Channel α} {p : Nat} {a : α} {l : List α}

/-- The events that a receiver has not read. -/
def unread (c : Channel α) (position : Nat) : List α := c.sent.toList.drop position

/-- How many of the unread events can no longer be read. -/
def missed (c : Channel α) (position : Nat) : Nat := (c.unread position).length - c.capacity

/-- The unread events that can still be read: as many of the last ones as the channel keeps. -/
def kept (c : Channel α) (position : Nat) : List α := (c.unread position).rtake c.capacity

lemma length_unread : (c.unread p).length = c.sent.size - p := by simp [unread]

lemma length_kept_add_missed : (c.kept p).length + c.missed p = (c.unread p).length := by
  simp only [kept, missed, List.rtake, List.length_drop]
  omega

lemma missed_eq_oldest_sub : c.missed p = c.oldest - p := by
  rw [missed, length_unread, oldest]
  omega

/-- Whatever is not missed is kept. -/
lemma kept_of_missed_eq_zero (h : c.missed p = 0) : c.kept p = c.unread p := by
  rw [missed] at h
  rw [kept, List.rtake, h, List.drop_zero]

/-- A receiver that missed events goes on with what is kept. -/
lemma unread_oldest (h : 0 < c.missed p) : c.unread c.oldest = c.kept p := by
  have hbehind : c.oldest = p + c.missed p := by
    rw [missed_eq_oldest_sub] at h ⊢
    omega
  change c.sent.toList.drop c.oldest = (c.sent.toList.drop p).drop (c.missed p)
  rw [List.drop_drop, hbehind]

lemma kept_sublist_unread : (c.kept p).Sublist (c.unread p) := List.drop_sublist _ _

/-- The event that is sent comes after the unread ones. -/
lemma unread_send (h : p ≤ c.sent.size) : (c.send a).unread p = c.unread p ++ [a] := by
  have hlength : p ≤ c.sent.toList.length := by simpa using h
  simp [unread, send, List.drop_append_of_le_length hlength]

lemma unread_size : c.unread c.sent.size = [] := by simp [unread]

/-! ### What is found -/

lemma receive_of_missed (h : 0 < c.missed p) :
    c.receive p = (.lagged (c.missed p), c.oldest) := by
  rw [missed_eq_oldest_sub] at h ⊢
  exact if_pos (by omega)

lemma receive_of_unread_cons (h : c.missed p = 0) (hunread : c.unread p = a :: l) :
    c.receive p = (.event a, p + 1) ∧ c.unread (p + 1) = l := by
  have hlt : ¬ p < c.oldest := by
    rw [missed_eq_oldest_sub] at h
    omega
  have hget : c.sent[p]? = some a := by
    rw [← Array.getElem?_toList, ← List.head?_drop, ← unread, hunread, List.head?_cons]
  have hrest : c.unread (p + 1) = l := by
    rw [unread, ← List.tail_drop, ← unread, hunread, List.tail_cons]
  exact ⟨by rw [receive, if_neg hlt, hget], hrest⟩

lemma receive_of_unread_nil (hunread : c.unread p = []) :
    c.receive p = (if c.isOpen then .empty else .closed, p) := by
  have hsize : c.sent.size ≤ p := by
    have hlength := congrArg List.length hunread
    rw [length_unread, List.length_nil] at hlength
    omega
  have hlt : ¬ p < c.oldest := by
    rw [oldest]
    omega
  rw [receive, if_neg hlt, Array.getElem?_eq_none hsize]

end Channel

/-! ### A poll -/

variable {σ α : Type} {sink : Sink σ α} {c : Channel α} {s : σ} {f : Forwarder}
  {count : Nat} {offered : List α} {records : List Record} {p : Poll σ α}

/-- The report of missed events: one warning with their number, if there are any. -/
def lagRecords (missed : Nat) : List Record :=
  if missed = 0 then []
  else
    [{ level := .warn
       message := "transition event receiver lagged"
       fields := [("skipped", .count missed)] }]

/-- How a poll leaves a forwarder that has handed on `count` events before and finds `offered`. -/
inductive Polled (sink : Sink σ α) (c : Channel α) (s : σ) (count : Nat) (offered : List α)
    (records : List Record) : Poll σ α → Prop
  /-- The sink has accepted them all, and more may come. -/
  | waiting {s' : σ} (hopen : c.isOpen = true) (haccepted : offered.foldlM sink s = .ok s') :
      Polled sink c s count offered records
        { status := .waiting ⟨c.sent.size, count + offered.length⟩
          sink := s'
          accepted := offered
          records }
  /-- The sink has accepted them all, and nothing more will come. -/
  | closed {s' : σ} (hclosed : c.isOpen = false) (haccepted : offered.foldlM sink s = .ok s') :
      Polled sink c s count offered records
        { status := .ended (.ok (count + offered.length))
          sink := s'
          accepted := offered
          records }
  /-- The sink has refused the event `a`, after those of `taken`. -/
  | refused {s' : σ} {taken rest : List α} {a : α} {reason : Fault}
      (hoffered : offered = taken ++ a :: rest) (haccepted : taken.foldlM sink s = .ok s')
      (hrefused : sink s' a = .error reason) :
      Polled sink c s count offered records
        { status := .ended (.error (.deliveryFailed reason.message))
          sink := s'
          accepted := taken
          records }

namespace Polled

/-- One more event in front, which the sink accepts. -/
lemma cons {a : α} {s' : σ} (ha : sink s a = .ok s')
    (h : Polled sink c s' (count + 1) offered records p) :
    Polled sink c s count (a :: offered) records { p with accepted := a :: p.accepted } := by
  have hfold : ∀ l : List α, (a :: l).foldlM sink s = l.foldlM sink s' := fun l => by
    rw [List.foldlM_cons, ha]
    rfl
  cases h with
  | waiting hopen haccepted =>
      rw [Nat.add_assoc, Nat.add_comm 1]
      exact .waiting hopen ((hfold _).trans haccepted)
  | closed hclosed haccepted =>
      rw [Nat.add_assoc, Nat.add_comm 1]
      exact .closed hclosed ((hfold _).trans haccepted)
  | @refused _ taken _ _ _ hoffered haccepted hrefused =>
      subst hoffered
      exact .refused (List.cons_append ..).symm ((hfold _).trans haccepted) hrefused

/-- A report in front. -/
lemma report (r : Record) (h : Polled sink c s count offered records p) :
    Polled sink c s count offered (r :: records) { p with records := r :: p.records } := by
  cases h with
  | waiting hopen haccepted => exact .waiting hopen haccepted
  | closed hclosed haccepted => exact .closed hclosed haccepted
  | refused hoffered haccepted hrefused => exact .refused hoffered haccepted hrefused

/-- A sink cannot accept events of which it refuses one. -/
lemma foldlM_of_refused {s' : σ} {taken rest : List α} {a : α} {reason : Fault}
    (haccepted : taken.foldlM sink s = .ok s') (hrefused : sink s' a = .error reason) :
    (taken ++ a :: rest).foldlM sink s = .error reason := by
  rw [List.foldlM_append, haccepted]
  change (a :: rest).foldlM sink s' = _
  rw [List.foldlM_cons, hrefused]
  rfl

/-- A poll ends well just when the channel is closed and the sink accepts what it is offered. -/
lemma ended_ok_iff (h : Polled sink c s count offered records p) (n : Nat) :
    p.status = .ended (.ok n) ↔
      c.isOpen = false ∧ (∃ s', offered.foldlM sink s = .ok s') ∧ n = count + offered.length := by
  cases h with
  | waiting hopen haccepted => simp [hopen]
  | closed hclosed haccepted => simp [hclosed, haccepted, eq_comm]
  | refused hoffered haccepted hrefused =>
      subst hoffered
      simp [foldlM_of_refused haccepted hrefused]

end Polled

namespace Forwarder

/-! ### The rounds of a poll -/

section Rounds

variable {a : α} {position missed : Nat} {s' : σ} {reason : Fault}

lemma run_of_event (h : c.receive f.position = (.event a, position)) (ha : sink s a = .ok s') :
    f.run sink c s =
      let rest := run sink c s' ⟨position, f.forwarded + 1⟩
      { rest with accepted := a :: rest.accepted } := by
  rw [run]
  split <;> simp_all

lemma run_of_refused (h : c.receive f.position = (.event a, position))
    (ha : sink s a = .error reason) :
    f.run sink c s =
      { status := .ended (.error (.deliveryFailed reason.message)), sink := s } := by
  rw [run]
  split <;> simp_all

lemma run_of_lagged (h : c.receive f.position = (.lagged missed, position)) :
    f.run sink c s =
      let rest := run sink c s ⟨position, f.forwarded⟩
      { rest with records := lagRecord missed :: rest.records } := by
  rw [run]
  split <;> simp_all

lemma run_of_empty (h : c.receive f.position = (.empty, position)) :
    f.run sink c s = { status := .waiting f, sink := s } := by
  rw [run]
  split <;> simp_all

lemma run_of_closed (h : c.receive f.position = (.closed, position)) :
    f.run sink c s = { status := .ended (.ok f.forwarded), sink := s } := by
  rw [run]
  split <;> simp_all

end Rounds

/-! ### The whole poll -/

/-- A forwarder that has read everything waits, or ends with the channel. -/
lemma polled_of_unread_nil (hle : f.position ≤ c.sent.size) (hunread : c.unread f.position = []) :
    Polled sink c s f.forwarded [] [] (f.run sink c s) := by
  have hreceive := Channel.receive_of_unread_nil hunread
  cases hopen : c.isOpen with
  | true =>
      have hsize : f.position = c.sent.size := by
        have hlength := congrArg List.length hunread
        rw [Channel.length_unread, List.length_nil] at hlength
        omega
      have hwaiting : Polled sink c s f.forwarded [] []
          { status := .waiting ⟨c.sent.size, f.forwarded⟩, sink := s } := .waiting hopen rfl
      rw [hopen] at hreceive
      rw [run_of_empty hreceive]
      rwa [← hsize] at hwaiting
  | false =>
      rw [hopen] at hreceive
      rw [run_of_closed hreceive]
      exact .closed hopen rfl

/-- Polling a forwarder that missed nothing hands on all that is unread. -/
lemma polled_of_missed_eq_zero (hmissed : c.missed f.position = 0)
    (hle : f.position ≤ c.sent.size) :
    Polled sink c s f.forwarded (c.unread f.position) [] (f.run sink c s) := by
  -- Along the unread events; the position and the count move on with them.
  generalize hunread : c.unread f.position = l
  induction l generalizing f s with
  | nil => exact polled_of_unread_nil hle hunread
  | cons a l ih =>
      obtain ⟨hreceive, hrest⟩ := Channel.receive_of_unread_cons hmissed hunread
      have hnext : c.missed (f.position + 1) = 0 := by
        rw [Channel.missed_eq_oldest_sub] at hmissed ⊢
        omega
      have hlt : f.position + 1 ≤ c.sent.size := by
        have hlength := congrArg List.length hunread
        rw [Channel.length_unread, List.length_cons] at hlength
        omega
      cases ha : sink s a with
      | ok s' =>
          rw [run_of_event hreceive ha]
          exact .cons ha (ih (f := ⟨f.position + 1, f.forwarded + 1⟩) hnext hlt hrest)
      | error reason =>
          rw [run_of_refused hreceive ha]
          exact .refused (List.nil_append _).symm rfl ha

/-- **What a poll does**, whatever the forwarder missed and whatever the sink accepts. -/
theorem polled (sink : Sink σ α) (s : σ) (hle : f.position ≤ c.sent.size) :
    Polled sink c s f.forwarded (c.kept f.position) (lagRecords (c.missed f.position))
      (f.run sink c s) := by
  rcases Nat.eq_zero_or_pos (c.missed f.position) with hmissed | hmissed
  · rw [Channel.kept_of_missed_eq_zero hmissed, lagRecords, if_pos hmissed]
    exact polled_of_missed_eq_zero hmissed hle
  · have hcaughtUp : c.missed c.oldest = 0 := by
      rw [Channel.missed_eq_oldest_sub, Nat.sub_self]
    have hle : c.oldest ≤ c.sent.size := Nat.sub_le _ _
    have hrest : Polled sink c s f.forwarded (c.unread c.oldest) []
        (run sink c s ⟨c.oldest, f.forwarded⟩) :=
      polled_of_missed_eq_zero (f := ⟨c.oldest, f.forwarded⟩) hcaughtUp hle
    rw [Channel.unread_oldest hmissed] at hrest
    rw [run_of_lagged (Channel.receive_of_missed hmissed), lagRecords,
      if_neg (Nat.ne_of_gt hmissed)]
    exact hrest.report _

end Forwarder

end ManagedNode
