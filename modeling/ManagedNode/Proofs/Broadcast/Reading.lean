import Mathlib.Data.List.Infix
import ManagedNode.Proofs.Broadcast.Relay

/-!
What a receiver comes to find on a channel, reading now and then.

* `Channel.Finds`: what may be found at a position, by what was published on the channel so far.
  There is one such thing (`Finds.unique`), and it is what the channel gives (`Carries.finds`).
* `Received.Accounts`: what was found, one after another, accounts for every event that was passed.
* `Reader`, `Reader.Follows`: a receiver by its history, and the account of this history. It is kept
  when more is published (`Follows.mono`) and when the receiver reads once more (`Follows.find`).
-/

namespace ManagedNode

variable {α : Type}

/-! ### What is found -/

namespace Received

/-- By how many events a receiver moves on. -/
def span : Received α → ℕ
  | event _ => 1
  | lagged missed => missed
  | empty => 0
  | closed => 0

/-- The event that was read. -/
def event? : Received α → Option α
  | event a => some a
  | _ => none

/-- What was found, one after another, accounts for the events that were passed: each was read in
its turn, or was counted in a report of lost ones. -/
inductive Accounts : List (Received α) → List α → Prop
  | nothing : Accounts [] []
  | event {found : List (Received α)} {passed : List α} (h : Accounts found passed) (a : α) :
      Accounts (found ++ [.event a]) (passed ++ [a])
  | lagged {found : List (Received α)} {passed : List α} (h : Accounts found passed)
      (lost : List α) : Accounts (found ++ [.lagged lost.length]) (passed ++ lost)
  | empty {found : List (Received α)} {passed : List α} (h : Accounts found passed) :
      Accounts (found ++ [.empty]) passed
  | closed {found : List (Received α)} {passed : List α} (h : Accounts found passed) :
      Accounts (found ++ [.closed]) passed

namespace Accounts

variable {found : List (Received α)} {passed : List α}

/-- The events that were read are among those that were passed, in their order. -/
lemma events_sublist (h : Accounts found passed) : (found.filterMap event?).Sublist passed := by
  induction h with
  | nothing => exact .slnil
  | event _ a ih =>
      rw [List.filterMap_append]
      exact ih.append (.refl [a])
  | lagged _ lost ih =>
      rw [List.filterMap_append]
      exact ih.append (List.nil_sublist lost)
  | empty _ ih => simpa [List.filterMap_append, List.filterMap_cons, event?] using ih
  | closed _ ih => simpa [List.filterMap_append, List.filterMap_cons, event?] using ih

end Accounts

end Received

namespace Channel

variable {c : Channel α} {capacity position : ℕ} {published : List α} {isOpen : Bool}
  {found found' : Received α}

/-- What is found at a position of a channel that keeps `capacity` events, after all those of
`published` were sent on it. -/
inductive Finds (capacity : ℕ) (published : List α) (isOpen : Bool) (position : ℕ) :
    Received α → Prop
  /-- An event that is among the last ones can be read. -/
  | event {a : α} (hkept : published.length ≤ position + capacity)
      (hget : published[position]? = some a) : Finds capacity published isOpen position (.event a)
  /-- All those that are not among the last ones are lost. -/
  | lagged {missed : ℕ} (hpos : 0 < missed)
      (hlost : position + missed + capacity = published.length) :
      Finds capacity published isOpen position (.lagged missed)
  | empty (hopen : isOpen = true) (hall : position = published.length) :
      Finds capacity published isOpen position .empty
  | closed (hclosed : isOpen = false) (hall : position = published.length) :
      Finds capacity published isOpen position .closed

/-- Nothing else is found at the same position at the same time. -/
lemma Finds.unique (h : Finds capacity published isOpen position found)
    (h' : Finds capacity published isOpen position found') : found = found' := by
  have hlt : ∀ {a : α}, published[position]? = some a → position < published.length := by
    intro a ha
    obtain ⟨hlt, -⟩ := List.getElem?_eq_some_iff.mp ha
    exact hlt
  cases h with
  | event hkept hget =>
      have hposition := hlt hget
      cases h' with
      | event _ hget' => rw [Option.some.inj (hget.symm.trans hget')]
      | lagged hpos hlost => omega
      | empty _ hall => omega
      | closed _ hall => omega
  | @lagged missed hpos hlost =>
      cases h' with
      | event hkept _ => omega
      | @lagged missed' hpos' hlost' => rw [show missed = missed' from by omega]
      | empty _ hall => omega
      | closed _ hall => omega
  | empty hopen hall =>
      cases h' with
      | event _ hget => have := hlt hget; omega
      | lagged hpos hlost => omega
      | empty => rfl
      | closed hclosed => simp [hopen] at hclosed
  | closed hclosed hall =>
      cases h' with
      | event _ hget => have := hlt hget; omega
      | lagged hpos hlost => omega
      | empty hopen => simp [hclosed] at hopen
      | closed => rfl

/-- The channel carries what was published, and is open or closed. -/
structure Carries (c : Channel α) (capacity : ℕ) (published : List α) (isOpen : Bool) : Prop where
  capacity_eq : c.capacity = capacity
  sent_eq : c.sent.toList = published
  isOpen_eq : c.isOpen = isOpen

namespace Carries

lemma send (h : c.Carries capacity published isOpen) (a : α) :
    (c.send a).Carries capacity (published ++ [a]) isOpen :=
  ⟨h.capacity_eq, by rw [← h.sent_eq]; exact Array.toList_push, h.isOpen_eq⟩

lemma close (h : c.Carries capacity published isOpen) :
    c.close.Carries capacity published false :=
  ⟨h.capacity_eq, h.sent_eq, rfl⟩

lemma subscribe (h : c.Carries capacity published isOpen) :
    c.subscribe.Carries capacity published isOpen :=
  ⟨h.capacity_eq, h.sent_eq, h.isOpen_eq⟩

lemma leave (h : c.Carries capacity published isOpen) :
    c.leave.Carries capacity published isOpen :=
  ⟨h.capacity_eq, h.sent_eq, h.isOpen_eq⟩

/-- What a channel gives at a position is what is found there, and the receiver moves on past it. -/
lemma finds (h : c.Carries capacity published isOpen) (hle : position ≤ published.length) :
    Finds capacity published isOpen position (c.receive position).1 ∧
      (c.receive position).2 = position + (c.receive position).1.span := by
  obtain ⟨rfl, rfl, rfl⟩ := h
  have hsize : c.sent.toList.length = c.sent.size := Array.length_toList
  rcases Nat.eq_zero_or_pos (c.missed position) with hmissed | hmissed
  · have hkept := hmissed
    rw [missed, length_unread] at hkept
    cases hunread : c.unread position with
    | nil =>
        have hall : position = c.sent.toList.length := by
          have hlength := congrArg List.length hunread
          rw [length_unread, List.length_nil] at hlength
          omega
        rw [receive_of_unread_nil hunread]
        cases hopen : c.isOpen with
        | true => exact ⟨.empty rfl hall, rfl⟩
        | false => exact ⟨.closed rfl hall, rfl⟩
    | cons a rest =>
        obtain ⟨hreceive, -⟩ := receive_of_unread_cons hmissed hunread
        have hget : c.sent.toList[position]? = some a := by
          rw [← List.head?_drop, ← unread, hunread, List.head?_cons]
        rw [hreceive]
        exact ⟨.event (by omega) hget, rfl⟩
  · rw [receive_of_missed hmissed]
    rw [missed_eq_oldest_sub, oldest] at hmissed
    refine ⟨.lagged ?_ ?_, ?_⟩
    · rw [missed_eq_oldest_sub, oldest]
      exact hmissed
    · rw [missed_eq_oldest_sub, oldest]
      omega
    · rw [Received.span, missed_eq_oldest_sub, oldest]
      omega

end Carries

end Channel

/-! ### Hubs -/

namespace Hub

variable {h : Hub α} {id id' : ChannelId} {c : Channel α} {capacity : ℕ}
  {published published' : List α} {isOpen isOpen' : Bool}

/-- The channel with this number carries what was published. -/
def Carries (h : Hub α) (id : ChannelId) (capacity : ℕ) (published : List α) (isOpen : Bool) :
    Prop :=
  ∃ c, h.channel? id = some c ∧ c.Carries capacity published isOpen

lemma Carries.modify {f : Channel α → Channel α} (h₁ : h.Carries id capacity published isOpen)
    (hf : ∀ {c : Channel α}, c.Carries capacity published isOpen →
      (f c).Carries capacity published' isOpen') :
    (h.modify id f).Carries id capacity published' isOpen' := by
  obtain ⟨c, hc, hcarries⟩ := h₁
  exact ⟨f c, channel?_modify hc f, hf hcarries⟩

lemma Carries.modify_other (h₁ : h.Carries id capacity published isOpen) (hne : id ≠ id')
    (f : Channel α → Channel α) : (h.modify id' f).Carries id capacity published isOpen := by
  obtain ⟨c, hc, hcarries⟩ := h₁
  refine ⟨c, ?_, hcarries⟩
  simpa [channel?, Hub.modify, List.getElem?_modify, Ne.symm hne] using hc

lemma Carries.establish (h₁ : h.Carries id capacity published isOpen) (capacity' : ℕ) :
    (h.establish capacity').Carries id capacity published isOpen := by
  obtain ⟨c, hc, hcarries⟩ := h₁
  obtain ⟨hlt, -⟩ := List.getElem?_eq_some_iff.mp hc
  refine ⟨c, ?_, hcarries⟩
  rw [channel?, Hub.establish, List.getElem?_append_left hlt]
  exact hc

/-- A new channel carries nothing yet. -/
lemma carries_establish (h : Hub α) (capacity : ℕ) :
    (h.establish capacity).Carries h.nextId capacity [] true :=
  ⟨{ capacity }, List.getElem?_concat_length, rfl, rfl, rfl⟩

/-- What a receiver finds is what its channel gives at its position. -/
lemma receive_of_channel? {r : Receiver} (hc : h.channel? r.channel = some c) :
    h.receive r =
      ((c.receive r.position).1, { r with position := (c.receive r.position).2 }) := by
  rw [Hub.receive, hc]

end Hub

/-! ### The history of a receiver -/

/-- A receiver by its history. -/
structure Reader (α : Type) where
  /-- The epoch in which it subscribed, counted from zero. -/
  epoch : ℕ
  /-- How many events had been published in the epoch before. -/
  since : ℕ
  /-- What it has found, one after another. -/
  found : List (Received α) := []
  deriving Repr

namespace Reader

variable {r : Reader α} {published published' : List α} {capacity : ℕ} {isOpen : Bool}
  {found : Received α}

/-- How many events of its epoch are behind the reader. -/
def position (r : Reader α) : ℕ := r.since + (r.found.map Received.span).sum

/-- The events that it has read. -/
def events (r : Reader α) : List α := r.found.filterMap Received.event?

/-- The reader after it has found one thing more. -/
def find (r : Reader α) (found : Received α) : Reader α := { r with found := r.found ++ [found] }

lemma position_find (r : Reader α) (found : Received α) :
    (r.find found).position = r.position + found.span := by
  simp [position, find, Nat.add_assoc]

/-- The account of a reader. Of the events that were published after it subscribed, those before its
position were read or reported, and the others are still ahead. -/
structure Follows (r : Reader α) (published : List α) : Prop where
  position_le : r.position ≤ published.length
  accounts : ∃ passed, Received.Accounts r.found passed ∧
    published.drop r.since = passed ++ published.drop r.position

namespace Follows

/-- A reader that has just subscribed. -/
lemma subscribe (epoch : ℕ) (published : List α) :
    Follows { epoch, since := published.length } published where
  position_le := Nat.le_refl _
  accounts := ⟨[], .nothing, rfl⟩

lemma since_le (h : r.Follows published) : r.since ≤ published.length := by
  have hle := h.position_le
  rw [position] at hle
  omega

/-- What is published next is ahead of the reader. -/
lemma mono (h : r.Follows published) (hlonger : published <+: published') :
    r.Follows published' := by
  obtain ⟨added, rfl⟩ := hlonger
  obtain ⟨passed, haccounts, hdrop⟩ := h.accounts
  refine ⟨?_, passed, haccounts, ?_⟩
  · have hle := h.position_le
    rw [List.length_append]
    omega
  · rw [List.drop_append_of_le_length h.since_le, List.drop_append_of_le_length h.position_le,
      hdrop, List.append_assoc]

/-- One thing more is found. -/
lemma find (h : r.Follows published)
    (hfound : Channel.Finds capacity published isOpen r.position found) :
    (r.find found).Follows published := by
  obtain ⟨passed, haccounts, hdrop⟩ := h.accounts
  have hle := h.position_le
  have hsame : found.span = 0 → (r.find found).position = r.position := by
    intro hspan
    rw [position_find, hspan, Nat.add_zero]
  cases hfound with
  | @event a hkept hget =>
      obtain ⟨hlt, ha⟩ := List.getElem?_eq_some_iff.mp hget
      have hnext : published.drop r.position = a :: published.drop (r.position + 1) := by
        rw [List.drop_eq_getElem_cons hlt, ha]
      refine ⟨by rw [position_find, Received.span]; omega, _, haccounts.event a, ?_⟩
      rw [position_find, Received.span, List.append_assoc]
      exact hdrop.trans (congrArg _ hnext)
  | @lagged missed hpos hlost =>
      -- What was lost is the beginning of what lay ahead.
      have hlength : ((published.drop r.position).take missed).length = missed := by
        rw [List.length_take, List.length_drop]
        omega
      have hnext : published.drop r.position =
          (published.drop r.position).take missed ++ published.drop (r.position + missed) := by
        rw [← List.drop_drop, List.take_append_drop]
      have haccounts' := haccounts.lagged ((published.drop r.position).take missed)
      rw [hlength] at haccounts'
      refine ⟨by rw [position_find, Received.span]; omega, _, haccounts', ?_⟩
      rw [position_find, Received.span, List.append_assoc]
      exact hdrop.trans (congrArg _ hnext)
  | empty =>
      refine ⟨?_, passed, haccounts.empty, ?_⟩ <;> rw [hsame rfl]
      · exact hle
      · exact hdrop
  | closed =>
      refine ⟨?_, passed, haccounts.closed, ?_⟩ <;> rw [hsame rfl]
      · exact hle
      · exact hdrop

/-- The events that were read are among those published after the reader subscribed, in their
order. -/
lemma events_sublist (h : r.Follows published) : r.events.Sublist (published.drop r.since) := by
  obtain ⟨passed, haccounts, hdrop⟩ := h.accounts
  rw [hdrop]
  exact haccounts.events_sublist.trans (List.sublist_append_left _ _)

end Follows

end Reader

end ManagedNode
