import Mathlib.Algebra.Ring.Nat
import ManagedNode.Proofs.Broadcast.Forwarder

/-!
A forwarder at work: what becomes of the events that are sent while it listens.

Senders, the end of the sender and polls may come in any order, and the sink may refuse any event.
The events that were sent while the forwarder listened are counted from outside, and are then all
accounted for: the sink accepted them, the log says that they were skipped, or they are unread.

* `Relay`, `Signal`, `Relay.step`, `Relay.run`: a forwarder with its surroundings, and what
  happens to them.
* `Outlasts`: what signals leave of the channel, which keeps its capacity and loses its sender by
  being closed only.
* `Underway`: the account while the forwarder waits. `Conserved`: the account at any time. Each
  signal keeps it (`Conserved.step`).
* `Relay.conserved_run`: the account after any run, and what the next poll would do.
-/

namespace ManagedNode

variable {σ α : Type}

/-! ### Skipped events -/

/-- How many events a record says were skipped. -/
def Record.skipped (r : Record) : Nat :=
  match r.fields.lookup "skipped" with
  | some (.count n) => n
  | _ => 0

/-- How many events the records say were skipped, all together. -/
def skippedIn (records : List Record) : Nat := (records.map Record.skipped).sum

lemma skippedIn_append (records more : List Record) :
    skippedIn (records ++ more) = skippedIn records + skippedIn more := by
  simp [skippedIn]

lemma skippedIn_lagRecords (missed : Nat) : skippedIn (lagRecords missed) = missed := by
  rw [lagRecords]
  split_ifs with h
  · rw [h]
    rfl
  · simp [skippedIn, Record.skipped]

/-! ### Hubs -/

namespace Hub

variable {h : Hub α} {id : ChannelId} {c : Channel α}

lemma channel?_modify (hc : h.channel? id = some c) (f : Channel α → Channel α) :
    (h.modify id f).channel? id = some (f c) := by
  rw [channel?] at hc
  rw [channel?, modify, List.getElem?_modify_eq, hc]
  rfl

lemma poll_of_channel? (hc : h.channel? id = some c) (sink : Sink σ α) (s : σ) (f : Forwarder) :
    h.poll id sink s f = (f.run sink c s, h.modify id (f.run sink c s).settle) := by
  rw [poll, hc]

lemma isOpen_of_close : ∀ c ∈ (h.close id).channel? id, c.isOpen = false := by
  intro c hc
  cases hold : h.channel? id with
  | none => simp_all [channel?, close, modify]
  | some old =>
      rw [close, channel?_modify hold] at hc
      cases hc
      rfl

end Hub

/-! ### Relays -/

/-- A forwarder with the hub and the sink that it works between, and the histories that tell what
it has done. -/
structure Relay (σ α : Type) where
  hub : Hub α
  sink : σ
  status : Forwarding
  /-- What was sent on the channel while the forwarder listened. -/
  sent : List α := []
  /-- What the sink has accepted. -/
  accepted : List α := []
  /-- What the forwarder has written to the log. -/
  records : List Record := []

/-- What may happen to a relay. -/
inductive Signal (α : Type)
  | send (a : α)
  /-- The sender of the channel is dropped. -/
  | close
  | poll

namespace Relay

/-- A forwarder that starts to listen to a channel. -/
def start (h : Hub α) (id : ChannelId) (s : σ) : Relay σ α where
  hub := (h.subscribe id).2
  sink := s
  status := .waiting ⟨(h.subscribe id).1.position, 0⟩

/-- What a signal does. Nothing can be sent without a sender, and a forwarder that has ended is not
polled. -/
def step (sink : Sink σ α) (id : ChannelId) (r : Relay σ α) : Signal α → Relay σ α
  | .send a =>
      if (r.hub.channel? id).any Channel.isOpen then
        { r with
          hub := r.hub.send id a
          sent := if r.status.hasEnded then r.sent else r.sent ++ [a] }
      else r
  | .close => { r with hub := r.hub.close id }
  | .poll =>
      match r.status with
      | .waiting f =>
          let (p, hub) := r.hub.poll id sink r.sink f
          { r with
            hub
            sink := p.sink
            status := p.status
            accepted := r.accepted ++ p.accepted
            records := r.records ++ p.records }
      | .ended _ => r

/-- What is sent without a sender is not sent at all. -/
lemma step_send (sink : Sink σ α) (id : ChannelId) (r : Relay σ α) (a : α) :
    r.step sink id (.send a) = r ∨
      (r.hub.channel? id).any Channel.isOpen = true ∧
        r.step sink id (.send a) =
          { r with
            hub := r.hub.send id a
            sent := if r.status.hasEnded then r.sent else r.sent ++ [a] } := by
  by_cases hopen : (r.hub.channel? id).any Channel.isOpen = true
  · exact Or.inr ⟨hopen, if_pos hopen⟩
  · exact Or.inl (if_neg hopen)

/-- A relay after some signals. -/
def run (sink : Sink σ α) (id : ChannelId) (r : Relay σ α) (signals : List (Signal α)) :
    Relay σ α :=
  signals.foldl (step sink id) r

end Relay

variable {sink : Sink σ α} {id : ChannelId} {r : Relay σ α} {c c' : Channel α} {f : Forwarder}
  {signals : List (Signal α)}

/-! ### The channel -/

/-- What signals leave of a channel: it can hold as much as before, and it has no sender any more if
it had none, or has been closed. -/
structure Outlasts (signals : List (Signal α)) (c c' : Channel α) : Prop where
  capacity_eq : c'.capacity = c.capacity
  isOpen_eq_false_iff : c'.isOpen = false ↔ c.isOpen = false ∨ .close ∈ signals

namespace Outlasts

/-- Signals that leave a channel alone, but for what is in it. -/
lemma of_not_mem (hsignals : .close ∉ signals) (hcapacity : c'.capacity = c.capacity)
    (hopen : c'.isOpen = c.isOpen) : Outlasts signals c c' :=
  ⟨hcapacity, by rw [hopen, or_iff_left hsignals]⟩

lemma append {d : Channel α} {more : List (Signal α)} (h : Outlasts signals c c')
    (hmore : Outlasts more c' d) : Outlasts (signals ++ more) c d := by
  refine ⟨hmore.capacity_eq.trans h.capacity_eq, ?_⟩
  rw [hmore.isOpen_eq_false_iff, h.isOpen_eq_false_iff, List.mem_append, or_assoc]

/-- One signal. -/
lemma exists_step (sink : Sink σ α) (hc : r.hub.channel? id = some c) (signal : Signal α) :
    ∃ c', (r.step sink id signal).hub.channel? id = some c' ∧ Outlasts [signal] c c' := by
  cases signal with
  | send a =>
      rcases r.step_send sink id a with hstep | ⟨-, hstep⟩
      · rw [hstep]
        exact ⟨c, hc, .of_not_mem (by simp) rfl rfl⟩
      · rw [hstep]
        exact ⟨c.send a, Hub.channel?_modify hc _, .of_not_mem (by simp) rfl rfl⟩
  | close => exact ⟨c.close, Hub.channel?_modify hc _, rfl, by simp [Channel.close]⟩
  | poll =>
      cases hstatus : r.status with
      | waiting f =>
          have hsettle : ∀ p : Poll σ α, Outlasts [.poll] c (p.settle c) := by
            intro p
            rw [Poll.settle]
            split_ifs <;> exact .of_not_mem (by simp) rfl rfl
          simp only [Relay.step, hstatus, Hub.poll_of_channel? hc]
          exact ⟨_, Hub.channel?_modify hc _, hsettle _⟩
      | ended result =>
          simp only [Relay.step, hstatus]
          exact ⟨c, hc, .of_not_mem (by simp) rfl rfl⟩

/-- Any signals. -/
lemma exists_run (sink : Sink σ α) (hc : r.hub.channel? id = some c) (signals : List (Signal α)) :
    ∃ c', (r.run sink id signals).hub.channel? id = some c' ∧ Outlasts signals c c' := by
  induction signals generalizing r c with
  | nil => exact ⟨c, hc, .of_not_mem List.not_mem_nil rfl rfl⟩
  | cons signal signals ih =>
      obtain ⟨d, hd, hstep⟩ := exists_step sink hc signal
      obtain ⟨c', hc', hrun⟩ := ih hd
      exact ⟨c', hc', hstep.append hrun⟩

end Outlasts

/-! ### The account -/

/-- The account while the forwarder waits. -/
structure Underway (id : ChannelId) (r : Relay σ α) (c : Channel α) (f : Forwarder) : Prop where
  channel?_eq : r.hub.channel? id = some c
  heard : c.isHeard = true
  position_le : f.position ≤ c.sent.size
  forwarded_eq : f.forwarded = r.accepted.length
  /-- The unread events are the last ones, and what the sink accepted was sent before them. -/
  exists_past : ∃ past, r.sent = past ++ c.unread f.position ∧ r.accepted.Sublist past
  balance : r.sent.length =
    r.accepted.length + skippedIn r.records + (c.unread f.position).length

/-- The account at any time. -/
structure Conserved (id : ChannelId) (r : Relay σ α) : Prop where
  accepted_sublist : r.accepted.Sublist r.sent
  of_waiting : ∀ f, r.status = .waiting f → ∃ c, Underway id r c f
  of_ok : ∀ n, r.status = .ended (.ok n) → n = r.accepted.length ∧
    r.sent.length = r.accepted.length + skippedIn r.records ∧
    ∀ c ∈ r.hub.channel? id, c.isOpen = false

namespace Underway

lemma conserved (h : Underway id r c f) (hstatus : r.status = .waiting f) : Conserved id r where
  accepted_sublist := by
    obtain ⟨past, hsent, haccepted⟩ := h.exists_past
    rw [hsent]
    exact haccepted.trans (List.sublist_append_left _ _)
  of_waiting := fun f' hf' => by
    cases hstatus.symm.trans hf'
    exact ⟨c, h⟩
  of_ok := fun n hn => nomatch hstatus.symm.trans hn

/-- What is sent next is unread. -/
lemma send (h : Underway id r c f) (a : α) :
    Underway id { r with hub := r.hub.send id a, sent := r.sent ++ [a] } (c.send a) f := by
  obtain ⟨past, hsent, haccepted⟩ := h.exists_past
  have hunread : (c.send a).unread f.position = c.unread f.position ++ [a] :=
    Channel.unread_send h.position_le
  have hle : f.position ≤ (c.send a).sent.size := by
    simpa [Channel.send] using Nat.le_succ_of_le h.position_le
  exact
    { channel?_eq := Hub.channel?_modify h.channel?_eq _
      heard := h.heard
      position_le := hle
      forwarded_eq := h.forwarded_eq
      exists_past := ⟨past, by rw [hunread, hsent, List.append_assoc], haccepted⟩
      balance := by
        have hbalance := h.balance
        simp only [hunread, List.length_append, List.length_singleton]
        omega }

/-- Without a sender, what is unread stays unread. -/
lemma close (h : Underway id r c f) :
    Underway id { r with hub := r.hub.close id } c.close f :=
  { h with channel?_eq := Hub.channel?_modify h.channel?_eq _ }

/-- A poll that reads everything leaves nothing unread, and reports what it does not hand on. -/
lemma balance_kept (h : Underway id r c f) :
    (r.accepted ++ c.kept f.position).Sublist r.sent ∧
      r.sent.length = (r.accepted ++ c.kept f.position).length +
        skippedIn (r.records ++ lagRecords (c.missed f.position)) := by
  obtain ⟨past, hsent, haccepted⟩ := h.exists_past
  have hbalance := h.balance
  have hkept := c.length_kept_add_missed (p := f.position)
  constructor
  · rw [hsent]
    exact haccepted.append Channel.kept_sublist_unread
  · rw [skippedIn_append, skippedIn_lagRecords, List.length_append]
    omega

/-- A poll keeps the account. -/
lemma poll (h : Underway id r c f) (hstatus : r.status = .waiting f) :
    Conserved id (r.step sink id .poll) := by
  have hpolled := Forwarder.polled sink r.sink h.position_le
  obtain ⟨hsublist, hbalance⟩ := h.balance_kept
  have hcount : f.forwarded + (c.kept f.position).length =
      (r.accepted ++ c.kept f.position).length := by
    rw [h.forwarded_eq, List.length_append]
  have hchannel := fun p : Poll σ α => Hub.channel?_modify h.channel?_eq p.settle
  simp only [Relay.step, hstatus, Hub.poll_of_channel? h.channel?_eq]
  generalize f.run sink c r.sink = p at hpolled ⊢
  cases hpolled with
  | waiting hopen haccepted =>
      refine conserved (c := c) (f := ⟨c.sent.size, _⟩) ?_ rfl
      exact
        { channel?_eq := hchannel _
          heard := h.heard
          position_le := Nat.le_refl _
          forwarded_eq := hcount
          exists_past := ⟨r.sent, by simp [Channel.unread_size], hsublist⟩
          balance := by rw [Channel.unread_size]; exact hbalance }
  | closed hclosed haccepted =>
      refine ⟨hsublist, nofun, fun n hn => ?_⟩
      cases hn
      refine ⟨hcount, hbalance, fun c' hc' => ?_⟩
      cases (hchannel _).symm.trans hc'
      exact hclosed
  | @refused s' taken rest a reason hoffered haccepted hrefused =>
      have htaken : taken.Sublist (c.kept f.position) :=
        hoffered ▸ List.sublist_append_left _ _
      exact ⟨(htaken.append_left _).trans hsublist, nofun, nofun⟩

end Underway

namespace Conserved

/-- Nothing that happens after the end is counted. -/
lemma step_of_ended (h : Conserved id r) {result : Except Fault Nat}
    (hstatus : r.status = .ended result) (signal : Signal α) :
    Conserved id (r.step sink id signal) := by
  have hwaiting : ∀ f, r.status ≠ .waiting f := by simp [hstatus]
  cases signal with
  | send a =>
      rcases Relay.step_send sink id r a with hstep | ⟨hopen, hstep⟩
      · exact hstep.symm ▸ h
      · have hsent : (if r.status.hasEnded then r.sent else r.sent ++ [a]) = r.sent :=
          if_pos (by rw [hstatus]; rfl)
        rw [hstep, hsent]
        refine ⟨h.accepted_sublist, fun f hf => absurd hf (hwaiting f), fun n hn => ?_⟩
        -- A forwarder that ended well has outlived the sender.
        obtain ⟨-, -, hclosed⟩ := h.of_ok n hn
        obtain ⟨c, hc, hsender⟩ := (Option.any_eq_true _ _).mp hopen
        simp [hclosed c hc] at hsender
  | close =>
      refine ⟨h.accepted_sublist, fun f hf => absurd hf (hwaiting f), fun n hn => ?_⟩
      obtain ⟨hcount, hbalance, -⟩ := h.of_ok n hn
      exact ⟨hcount, hbalance, Hub.isOpen_of_close⟩
  | poll =>
      have hstep : r.step sink id .poll = r := by simp only [Relay.step, hstatus]
      exact hstep.symm ▸ h

lemma start {h : Hub α} (hc : h.channel? id = some c) (s : σ) :
    Conserved id (Relay.start h id s) := by
  have hposition : (h.subscribe id).1.position = c.sent.size := by
    simp [Hub.subscribe, hc]
  have hunread : c.subscribe.unread (h.subscribe id).1.position = [] := by
    rw [hposition]
    exact Channel.unread_size
  refine Underway.conserved (c := c.subscribe) ?_ rfl
  exact
    { channel?_eq := Hub.channel?_modify hc _
      heard := by simp [Channel.isHeard, Channel.subscribe]
      position_le := hposition.le
      forwarded_eq := rfl
      exists_past := ⟨[], by rw [hunread]; rfl, List.nil_sublist _⟩
      balance := by rw [hunread]; rfl }

/-- Every signal keeps the account. -/
lemma step (h : Conserved id r) (signal : Signal α) : Conserved id (r.step sink id signal) := by
  cases hstatus : r.status with
  | waiting f =>
      obtain ⟨c, hc⟩ := h.of_waiting f hstatus
      cases signal with
      | send a =>
          rcases Relay.step_send sink id r a with hstep | ⟨-, hstep⟩
          · exact hstep.symm ▸ h
          · have hsent : (if r.status.hasEnded then r.sent else r.sent ++ [a]) = r.sent ++ [a] :=
              if_neg (by rw [hstatus]; nofun)
            rw [hstep, hsent]
            exact (hc.send a).conserved hstatus
      | close => exact hc.close.conserved hstatus
      | poll => exact hc.poll hstatus
  | ended result => exact h.step_of_ended hstatus signal

lemma run (h : Conserved id r) (signals : List (Signal α)) :
    Conserved id (r.run sink id signals) := by
  induction signals generalizing r with
  | nil => exact h
  | cons signal signals ih => exact ih (h.step signal)

end Conserved

namespace Relay

/-- **Conservation, order and the account of what was skipped**, after any run: what the next poll
would do is told by what the forwarder has not read, and by whether the sender is still there. -/
theorem conserved_run {h : Hub α} (hc : h.channel? id = some c) (sink : Sink σ α) (s : σ)
    (signals : List (Signal α)) :
    let r := (start h id s).run sink id signals
    Conserved id r ∧ ∃ c', r.hub.channel? id = some c' ∧ Outlasts signals c c' ∧
      ∀ f, r.status = .waiting f → Underway id r c' f ∧
        let p := (r.hub.poll id sink r.sink f).1
        Polled sink c' r.sink f.forwarded (c'.kept f.position)
            (lagRecords (c'.missed f.position)) p ∧
          ((∃ n, p.status = .ended (.ok n)) ↔
            c'.isOpen = false ∧ ∃ s', (c'.kept f.position).foldlM sink r.sink = .ok s') := by
  intro r
  have hr : Conserved id r := (Conserved.start hc s).run signals
  have hsubscribed : (start h id s).hub.channel? id = some c.subscribe := Hub.channel?_modify hc _
  obtain ⟨c', hc', houtlasts⟩ := Outlasts.exists_run sink hsubscribed signals
  refine ⟨hr, c', hc', ⟨houtlasts.capacity_eq, houtlasts.isOpen_eq_false_iff⟩, fun f hf => ?_⟩
  obtain ⟨d, hunderway⟩ := hr.of_waiting f hf
  obtain rfl : d = c' := Option.some.inj (hunderway.channel?_eq.symm.trans hc')
  have hpolled := Forwarder.polled sink r.sink hunderway.position_le
  rw [Hub.poll_of_channel? hc']
  exact ⟨hunderway, hpolled, by simp [hpolled.ended_ok_iff]⟩

/-- Five events on a channel that keeps two, for a sink that has room for two. -/
theorem conserved_run_behind :
    let h : Hub Nat := ({} : Hub Nat).establish 2
    let sink : Sink Nat Nat := fun room _ =>
      if room = 0 then .error (.draft .error) else .ok (room - 1)
    let r := (start h 0 2).run sink 0
      [.send 1, .poll, .send 2, .send 3, .send 4, .send 5, .close, .poll]
    h.channel? 0 = some { capacity := 2 } ∧ Conserved 0 r ∧ r.sent = [1, 2, 3, 4, 5] ∧
      r.accepted = [1, 4] ∧
      r.records = [⟨.warn, "transition event receiver lagged", [("skipped", .count 2)]⟩] := by
  intro h sink r
  refine ⟨rfl, (conserved_run (c := { capacity := 2 }) rfl sink 2 _).1, ?_⟩
  simp [r, sink, h, run, start, step, Hub.establish, Hub.subscribe, Hub.channel?, Hub.modify,
    Hub.send, Hub.close, Hub.poll, Channel.send, Channel.close, Channel.subscribe, Poll.settle,
    Forwarding.hasEnded, Forwarder.run, Channel.receive, Channel.oldest, lagRecord]

end Relay

end ManagedNode
