import ManagedNode.Proofs.Boundary.Broadcaster
import ManagedNode.Proofs.Broadcast.Reading

/-!
A broadcaster with its receivers, and the logbook that is kept of them.

An epoch begins when the broadcaster comes up and ends when it goes down. Receivers outlive their
epoch, and new epochs begin while they are still about. Whatever happens is written down by somebody
who sees the acts and their answers, but neither the channels nor the broadcaster.

* `Station`, `Station.Act`, `Station.react`: a broadcaster with all its receivers, and what may be
  done with them in any order.
* `Epoch`, `Logbook`, `Logbook.write`: what is written down. `Watched.run` is a run of acts with its
  logbook.
* `Station.Airs`: the hub has one channel for each epoch, which carries what was published in it.
  `Station.Attends`: each receiver stands on the channel of its epoch. Every act keeps both
  (`Watched.Faithful.step`), and so does every run (`Watched.Faithful.run`).
-/

namespace ManagedNode

open Broadcaster (channelCapacity)

/-! ### Stations -/

/-- A broadcaster in its hub, with everybody who has subscribed to it. -/
structure Station where
  broadcaster : Broadcaster
  hub : Hub Notice
  /-- The receivers in the order of subscription; one that was dropped leaves its place empty. -/
  receivers : List (Option Receiver) := []

namespace Station

/-- What may be done at a station. -/
inductive Act
  | call (c : Call)
  | subscribe
  /-- A receiver, by its place, reads without waiting. -/
  | receive (i : ℕ)
  /-- A receiver is dropped. -/
  | leave (i : ℕ)
  deriving DecidableEq, Repr

/-- How the station answers. -/
inductive Reaction
  | answered (result : Except Fault Unit)
  | found (found : Received Notice)
  /-- There is no such receiver. -/
  | absent

/-- The receiver at a place. -/
def receiver? (x : Station) (i : ℕ) : Option Receiver := x.receivers[i]?.join

/-- The answer to an act, and the station after it. -/
def react (x : Station) : Act → Reaction × Station
  | .call c =>
      let reply := x.broadcaster.respond c x.hub
      (.answered reply.result, { x with broadcaster := reply.boundary, hub := reply.medium })
  | .subscribe =>
      match x.broadcaster.subscribe? x.hub with
      | .ok (r, hub) => (.answered (.ok ()), { x with hub, receivers := x.receivers ++ [some r] })
      | .error fault => (.answered (.error fault), x)
  | .receive i =>
      match x.receiver? i with
      | some r =>
          (.found (x.hub.receive r).1,
            { x with receivers := x.receivers.set i (some (x.hub.receive r).2) })
      | none => (.absent, x)
  | .leave i =>
      match x.receiver? i with
      | some r =>
          (.answered (.ok ()), { x with hub := x.hub.leave r, receivers := x.receivers.set i none })
      | none => (.absent, x)

end Station

/-! ### The logbook -/

/-- An epoch: in which mode the broadcaster came up, and what it has published since. -/
structure Epoch where
  mode : Mode
  published : List Notice := []
  deriving DecidableEq, Repr

/-- What is written down of a station. -/
structure Logbook where
  /-- The epochs that are over, in their order. -/
  past : List Epoch := []
  present : Option Epoch := none
  /-- Every receiver that has subscribed, dropped or not. -/
  readers : List (Reader Notice) := []

namespace Logbook

open Station (Act Reaction)

/-- All epochs so far. -/
def epochs (l : Logbook) : List Epoch := l.past ++ l.present.toList

/-- Does the epoch with this number last? -/
def lasts (l : Logbook) (k : ℕ) : Bool := l.past.length ≤ k

/-- What has been published in the present epoch. -/
def publishedNow (l : Logbook) : List Notice := (l.present.map Epoch.published).getD []

/-- What is written down of an act and its answer. -/
def write (l : Logbook) : Act → Reaction → Logbook
  | .call (.bringUp mode), .answered (.ok ()) =>
      { l with past := l.epochs, present := some { mode } }
  | .call (.announce start goal), .answered (.ok ()) =>
      { l with present := l.present.map fun e =>
          { e with published := e.published ++ [.between start goal] } }
  | .call .tearDown, .answered (.ok ()) => { l with past := l.epochs, present := none }
  | .subscribe, .answered (.ok ()) =>
      { l with readers :=
          l.readers ++ [{ epoch := l.past.length, since := l.publishedNow.length }] }
  | .receive i, .found found => { l with readers := l.readers.modify i (·.find found) }
  | _, _ => l

end Logbook

/-- A station and the logbook that is kept of it. -/
structure Watched where
  station : Station
  logbook : Logbook := {}

namespace Watched

/-- One act, which is written down. -/
def step (w : Watched) (a : Station.Act) : Watched where
  station := (w.station.react a).2
  logbook := w.logbook.write a (w.station.react a).1

/-- A sequence of acts. -/
def run (w : Watched) (acts : List Station.Act) : Watched := acts.foldl step w

end Watched

/-! ### How the logbook grows -/

namespace Logbook

variable {l : Logbook} {e : Epoch} {k : ℕ} {mode : Mode}

/-- An epoch is over, or is the present one. -/
lemma epochs_cases (he : l.epochs[k]? = some e) :
    l.past[k]? = some e ∨ k = l.past.length ∧ l.present = some e := by
  rcases Nat.lt_or_ge k l.past.length with hlt | hge
  · rw [epochs, List.getElem?_append_left hlt] at he
    exact Or.inl he
  · rw [epochs, List.getElem?_append_right hge] at he
    cases hpresent : l.present with
    | none => simp [hpresent] at he
    | some e' =>
        rw [hpresent, Option.toList_some, List.getElem?_singleton] at he
        split_ifs at he with hk
        exact Or.inr ⟨by omega, he⟩

lemma epochs_of_none (hpresent : l.present = none) : l.epochs = l.past := by
  rw [epochs, hpresent, Option.toList_none, List.append_nil]

lemma length_epochs (hpresent : l.present = some e) : l.epochs.length = l.past.length + 1 := by
  rw [epochs, hpresent, Option.toList_some, List.length_append, List.length_singleton]

lemma getElem?_epochs (hpresent : l.present = some e) : l.epochs[l.past.length]? = some e := by
  rw [epochs, hpresent, Option.toList_some, List.getElem?_concat_length]

/-- The epochs of the one logbook go on in the other. -/
def Grows (l l' : Logbook) : Prop :=
  ∀ (k : ℕ) (e : Epoch), l.epochs[k]? = some e →
    ∃ e', l'.epochs[k]? = some e' ∧ e.published <+: e'.published

lemma grows_of_epochs {l' : Logbook} (h : l.epochs <+: l'.epochs) : l.Grows l' := by
  intro k e he
  obtain ⟨added, hadded⟩ := h
  obtain ⟨hlt, -⟩ := List.getElem?_eq_some_iff.mp he
  refine ⟨e, ?_, List.prefix_refl _⟩
  rw [← hadded, List.getElem?_append_left hlt, he]

/-- A call is written down in the epochs, and nowhere else. -/
lemma grows_write_call (l : Logbook) (c : Call) (result : Except Fault Unit) :
    l.Grows (l.write (.call c) (.answered result)) ∧
      (l.write (.call c) (.answered result)).readers = l.readers := by
  have hsame : l.Grows l := grows_of_epochs (List.prefix_refl _)
  cases result with
  | error fault => cases c <;> exact ⟨hsame, rfl⟩
  | ok _ =>
      cases c with
      | bringUp mode => exact ⟨grows_of_epochs (List.prefix_append _ _), rfl⟩
      | tearDown => exact ⟨grows_of_epochs (List.prefix_append _ _), rfl⟩
      | announce start goal =>
          refine ⟨fun k e he => ?_, rfl⟩
          rcases epochs_cases he with hpast | ⟨rfl, hpresent⟩
          · obtain ⟨hlt, -⟩ := List.getElem?_eq_some_iff.mp hpast
            refine ⟨e, ?_, List.prefix_refl _⟩
            exact (List.getElem?_append_left hlt).trans hpast
          · refine ⟨{ e with published := e.published ++ [.between start goal] }, ?_,
              List.prefix_append _ _⟩
            exact getElem?_epochs (l := l.write (.call (.announce start goal)) (.answered (.ok ())))
              (congrArg (Option.map _) hpresent)

end Logbook

namespace Station

variable {b : Broadcaster} {h : Hub Notice} {l l' : Logbook} {base i : ℕ}
  {receivers : List (Option Receiver)}

/-- The broadcaster and its hub are as the logbook says: from the channel `base` on there is one for
each epoch, of which only that of the present epoch is open. -/
structure Airs (base : ℕ) (b : Broadcaster) (h : Hub Notice) (l : Logbook) : Prop where
  length_eq : h.channels.length = base + l.epochs.length
  past : ∀ k e, l.past[k]? = some e → h.Carries (base + k) channelCapacity e.published false
  present : ∀ e ∈ l.present, h.Carries (base + l.past.length) channelCapacity e.published true
  publisher_eq : b.publisher = l.present.map fun _ => base + l.past.length
  serving_eq : b.serving = l.present.any fun e => e.mode = .full

namespace Airs

lemma publisher_eq_none_iff (ha : Airs base b h l) : b.publisher = none ↔ l.present = none := by
  rw [ha.publisher_eq, Option.map_eq_none_iff]

/-- The channel of an epoch, which is open while the epoch lasts. -/
lemma carries (ha : Airs base b h l) {k : ℕ} {e : Epoch} (he : l.epochs[k]? = some e) :
    h.Carries (base + k) channelCapacity e.published (l.lasts k) := by
  rcases Logbook.epochs_cases he with hpast | ⟨rfl, hpresent⟩
  · obtain ⟨hlt, -⟩ := List.getElem?_eq_some_iff.mp hpast
    rw [Logbook.lasts, decide_eq_false (by omega)]
    exact ha.past k e hpast
  · rw [Logbook.lasts, decide_eq_true (Nat.le_refl _)]
    exact ha.present e hpresent

/-- Nothing but the epochs matters of the logbook. -/
lemma congr (ha : Airs base b h l) (hpast : l'.past = l.past) (hpresent : l'.present = l.present) :
    Airs base b h l' where
  length_eq := by rw [ha.length_eq, Logbook.epochs, Logbook.epochs, hpast, hpresent]
  past := by rw [hpast]; exact ha.past
  present := by rw [hpast, hpresent]; exact ha.present
  publisher_eq := by rw [hpast, hpresent, ha.publisher_eq]
  serving_eq := by rw [hpresent, ha.serving_eq]

/-- What is done to a channel without touching what it carries does not matter. -/
lemma modify (ha : Airs base b h l) (id : ChannelId) {f : Channel Notice → Channel Notice}
    (hf : ∀ {c : Channel Notice} {published isOpen}, c.Carries channelCapacity published isOpen →
      (f c).Carries channelCapacity published isOpen) : Airs base b (h.modify id f) l := by
  have hkeep : ∀ {id' published isOpen}, h.Carries id' channelCapacity published isOpen →
      (h.modify id f).Carries id' channelCapacity published isOpen := by
    intro id' published isOpen hcarries
    by_cases hid : id' = id
    · subst hid
      exact hcarries.modify hf
    · exact hcarries.modify_other hid f
  refine ⟨?_, fun k e he => hkeep (ha.past k e he), fun e he => hkeep (ha.present e he),
    ha.publisher_eq, ha.serving_eq⟩
  have hlength : (h.modify id f).channels.length = h.channels.length := List.length_modify ..
  rw [hlength, ha.length_eq]

/-- A broadcaster that comes up opens a channel for a new epoch. -/
lemma bringUp (ha : Airs base b h l) (mode : Mode) :
    Airs base (b.bringUp mode h).boundary (b.bringUp mode h).medium
      (l.write (.call (.bringUp mode)) (.answered (b.bringUp mode h).result)) := by
  rcases b.bringUp_cases mode h with ⟨fault, hr⟩ | hr
  · rw [hr]
    exact ha
  · have hok : (b.bringUp mode h).result = .ok () := by rw [hr]
    obtain ⟨-, hdown⟩ := (b.bringUp_eq_ok_iff mode h).mp hok
    have hpresent : l.present = none := ha.publisher_eq_none_iff.mp hdown
    have hepochs : l.epochs = l.past := Logbook.epochs_of_none hpresent
    -- The channel that is opened is the one that belongs to the new epoch.
    have hnext : h.nextId = base + l.epochs.length := ha.length_eq
    rw [hr]
    constructor
    · simp only [Logbook.write, Hub.establish, Logbook.epochs, List.length_append,
        Option.toList_some, List.length_singleton] at hnext ⊢
      rw [ha.length_eq, Logbook.epochs, List.length_append]
      omega
    · intro k e he
      rw [Logbook.write, hepochs] at he
      exact (ha.past k e he).establish _
    · rintro e ⟨⟩
      have hnew := h.carries_establish channelCapacity
      rwa [hnext] at hnew
    · exact congrArg some hnext
    · cases mode with
      | full => rfl
      | publisherOnly =>
          have hserving := ha.serving_eq
          rw [hpresent] at hserving
          exact hserving

/-- A broadcaster in an epoch publishes on the channel of the epoch. -/
lemma announce (ha : Airs base b h l) (start goal : State) :
    Airs base (b.announce start goal h).boundary (b.announce start goal h).medium
      (l.write (.call (.announce start goal)) (.answered (b.announce start goal h).result)) := by
  cases hpresent : l.present with
  | none =>
      rw [Broadcaster.announce, ha.publisher_eq_none_iff.mpr hpresent]
      exact ha
  | some e =>
      have hpublisher : b.publisher = some (base + l.past.length) := by
        rw [ha.publisher_eq, hpresent]
        rfl
      rw [Broadcaster.announce_of_publisher hpublisher]
      constructor
      · have hlength := ha.length_eq
        rw [Logbook.length_epochs hpresent] at hlength
        rw [Logbook.length_epochs (congrArg (Option.map _) hpresent)]
        exact (List.length_modify ..).trans hlength
      · intro k e' he'
        obtain ⟨hlt, -⟩ := List.getElem?_eq_some_iff.mp he'
        exact (ha.past k e' he').modify_other (Nat.ne_of_lt (Nat.add_lt_add_left hlt base)) _
      · intro e' he'
        rw [Logbook.write, hpresent] at he'
        cases he'
        exact (ha.present e hpresent).modify fun hc => hc.send _
      · rw [Logbook.write, hpresent, hpublisher]
        rfl
      · have hserving := ha.serving_eq
        rw [hpresent] at hserving
        rw [Logbook.write, hpresent]
        exact hserving

/-- A broadcaster that goes down closes the channel of the epoch. -/
lemma tearDown (ha : Airs base b h l) :
    Airs base (b.tearDown h).boundary (b.tearDown h).medium
      (l.write (.call .tearDown) (.answered (b.tearDown h).result)) := by
  cases hpresent : l.present with
  | none =>
      have hepochs : l.epochs = l.past := Logbook.epochs_of_none hpresent
      rw [Broadcaster.tearDown, Broadcaster.release, ha.publisher_eq_none_iff.mpr hpresent]
      refine ⟨?_, fun k e he => ?_, by simp [Logbook.write], rfl, rfl⟩
      · rw [ha.length_eq, Logbook.epochs_of_none (l := l.write _ _) rfl]
        rfl
      · rw [Logbook.write, hepochs] at he
        exact ha.past k e he
  | some e =>
      have hpublisher : b.publisher = some (base + l.past.length) := by
        rw [ha.publisher_eq, hpresent]
        rfl
      rw [Broadcaster.tearDown, Broadcaster.release, hpublisher]
      refine ⟨?_, fun k e' he' => ?_, by simp [Logbook.write], rfl, rfl⟩
      · have hlength : (h.close (base + l.past.length)).channels.length = h.channels.length :=
          List.length_modify ..
        rw [hlength, ha.length_eq, Logbook.epochs_of_none (l := l.write _ _) rfl]
        rfl
      · rcases Logbook.epochs_cases he' with hpast | ⟨rfl, hpresent'⟩
        · obtain ⟨hlt, -⟩ := List.getElem?_eq_some_iff.mp hpast
          exact (ha.past k e' hpast).modify_other (Nat.ne_of_lt (Nat.add_lt_add_left hlt base)) _
        · exact (ha.present e' hpresent').modify fun hc => hc.close

/-- Whatever a broadcaster is called for, it stays as the logbook says. -/
lemma respond (ha : Airs base b h l) (c : Call) :
    Airs base (b.respond c h).boundary (b.respond c h).medium
      (l.write (.call c) (.answered (b.respond c h).result)) := by
  cases c with
  | bringUp mode => exact ha.bringUp mode
  | announce start goal => exact ha.announce start goal
  | tearDown => exact ha.tearDown

end Airs

/-- The receivers are as the logbook says: each stands on the channel of its epoch, behind
everything that it has read or was told to have lost. -/
structure Attends (base : ℕ) (receivers : List (Option Receiver)) (l : Logbook) : Prop where
  length_eq : receivers.length = l.readers.length
  receiver : ∀ (i : ℕ) (r : Receiver), receivers[i]?.join = some r →
    ∃ reader, l.readers[i]? = some reader ∧ r = ⟨base + reader.epoch, reader.position⟩
  reader : ∀ (i : ℕ) (reader : Reader Notice), l.readers[i]? = some reader →
    ∃ e, l.epochs[reader.epoch]? = some e ∧ reader.Follows e.published

namespace Attends

lemma mono (hr : Attends base receivers l) (hgrows : l.Grows l')
    (hreaders : l'.readers = l.readers) : Attends base receivers l' := by
  refine ⟨by rw [hreaders, hr.length_eq], by rw [hreaders]; exact hr.receiver, ?_⟩
  intro i reader hreader
  rw [hreaders] at hreader
  obtain ⟨e, he, hfollows⟩ := hr.reader i reader hreader
  obtain ⟨e', he', hlonger⟩ := hgrows reader.epoch e he
  exact ⟨e', he', hfollows.mono hlonger⟩

/-- A receiver that subscribes has nothing behind it that it will read. -/
lemma subscribe (hr : Attends base receivers l) {e : Epoch} (hpresent : l.present = some e) :
    Attends base (receivers ++ [some ⟨base + l.past.length, e.published.length⟩])
      (l.write .subscribe (.answered (.ok ()))) := by
  have hnow : l.publishedNow = e.published := by rw [Logbook.publishedNow, hpresent]; rfl
  have hlength := hr.length_eq
  rw [Logbook.write, hnow]
  constructor
  · simp only [List.length_append, List.length_singleton, hlength]
  · intro i r hi
    rcases Nat.lt_trichotomy i receivers.length with hlt | rfl | hgt
    · rw [List.getElem?_append_left hlt] at hi
      rw [List.getElem?_append_left (hlength ▸ hlt)]
      exact hr.receiver i r hi
    · rw [List.getElem?_concat_length] at hi
      cases hi
      rw [hlength, List.getElem?_concat_length]
      exact ⟨_, rfl, rfl⟩
    · rw [List.getElem?_eq_none (by rw [List.length_append, List.length_singleton]; omega)] at hi
      cases hi
  · intro i reader hi
    rcases Nat.lt_or_ge i l.readers.length with hlt | hge
    · rw [List.getElem?_append_left hlt] at hi
      exact hr.reader i reader hi
    · rw [List.getElem?_append_right hge, List.getElem?_singleton] at hi
      split_ifs at hi
      cases hi
      exact ⟨e, Logbook.getElem?_epochs hpresent, .subscribe _ _⟩

/-- A receiver that reads moves on past what it has found. -/
lemma receive (hr : Attends base receivers l) {reader : Reader Notice} {e : Epoch}
    {found : Received Notice} {isOpen : Bool} (hreader : l.readers[i]? = some reader)
    (he : l.epochs[reader.epoch]? = some e)
    (hfound : Channel.Finds channelCapacity e.published isOpen reader.position found) :
    Attends base
      (receivers.set i (some ⟨base + reader.epoch, reader.position + found.span⟩))
      (l.write (.receive i) (.found found)) := by
  have hself : (l.readers.modify i (·.find found))[i]? = some (reader.find found) := by
    rw [List.getElem?_modify_eq, hreader]
    rfl
  have hother : ∀ {j : ℕ}, i ≠ j → (l.readers.modify i (·.find found))[j]? = l.readers[j]? := by
    intro j hij
    exact List.getElem?_modify_ne _ _ hij
  rw [Logbook.write]
  constructor
  · rw [List.length_set, List.length_modify, hr.length_eq]
  · intro j r hj
    rw [List.getElem?_set] at hj
    split_ifs at hj with hij
    · subst hij
      cases hj
      exact ⟨reader.find found, hself, by rw [Reader.position_find]; rfl⟩
    · cases hj
    · obtain ⟨reader', hreader', rfl⟩ := hr.receiver j r hj
      exact ⟨reader', (hother hij).trans hreader', rfl⟩
  · intro j reader' hj
    by_cases hij : i = j
    · subst hij
      cases hself.symm.trans hj
      obtain ⟨e', he', hfollows⟩ := hr.reader i reader hreader
      cases he.symm.trans he'
      exact ⟨e, he, hfollows.find hfound⟩
    · exact hr.reader j reader' ((hother hij).symm.trans hj)

/-- A receiver is dropped. -/
lemma leave (hr : Attends base receivers l) (i : ℕ) : Attends base (receivers.set i none) l := by
  refine ⟨by rw [List.length_set, hr.length_eq], ?_, hr.reader⟩
  intro j r hj
  rw [List.getElem?_set] at hj
  split_ifs at hj
  · cases hj
  · cases hj
  · exact hr.receiver j r hj

end Attends

end Station

/-! ### Every act is written down faithfully -/

namespace Watched

open Station (Act Airs Attends)

variable {w : Watched} {base i : ℕ} {r : Receiver}

/-- The station is as the logbook says. -/
structure Faithful (base : ℕ) (w : Watched) : Prop where
  airs : Airs base w.station.broadcaster w.station.hub w.logbook
  attends : Attends base w.station.receivers w.logbook

/-- What a receiver of the station is, and what it finds. -/
structure Finding (w : Watched) (base i : ℕ) (r : Receiver) (reader : Reader Notice) (e : Epoch) :
    Prop where
  reader_eq : w.logbook.readers[i]? = some reader
  epoch_eq : w.logbook.epochs[reader.epoch]? = some e
  finds : Channel.Finds channelCapacity e.published (w.logbook.lasts reader.epoch) reader.position
    (w.station.hub.receive r).1
  moved : (w.station.hub.receive r).2 =
    ⟨base + reader.epoch, reader.position + (w.station.hub.receive r).1.span⟩

lemma Faithful.finding (hw : w.Faithful base) (hr : w.station.receiver? i = some r) :
    ∃ reader e, w.Finding base i r reader e := by
  obtain ⟨reader, hreader, rfl⟩ := hw.attends.receiver i r hr
  obtain ⟨e, he, hfollows⟩ := hw.attends.reader i reader hreader
  obtain ⟨c, hc, hcarries⟩ := hw.airs.carries he
  obtain ⟨hfinds, hmoved⟩ := hcarries.finds hfollows.position_le
  have hreceive := Hub.receive_of_channel? (r := ⟨base + reader.epoch, reader.position⟩) hc
  refine ⟨reader, e, hreader, he, ?_, ?_⟩
  · rw [hreceive]
    exact hfinds
  · rw [hreceive]
    exact congrArg (Receiver.mk _) hmoved

/-- Subscribing is answered by the publisher. -/
lemma react_subscribe (hw : w.Faithful base) :
    (w.logbook.present = none ∧
        w.station.react .subscribe =
          (.answered (.error (.broadcasterDown "subscribe")), w.station)) ∨
      ∃ e, w.logbook.present = some e ∧
        w.station.react .subscribe =
          (.answered (.ok ()), { w.station with
            hub := w.station.hub.modify (base + w.logbook.past.length) Channel.subscribe
            receivers := w.station.receivers ++
              [some ⟨base + w.logbook.past.length, e.published.length⟩] }) := by
  have hpublisher := hw.airs.publisher_eq
  cases hpresent : w.logbook.present with
  | none =>
      rw [hpresent, Option.map_none] at hpublisher
      refine Or.inl ⟨rfl, ?_⟩
      simp only [Station.react, Broadcaster.subscribe?, hpublisher]
  | some e =>
      rw [hpresent, Option.map_some] at hpublisher
      obtain ⟨c, hc, hcarries⟩ := hw.airs.present e hpresent
      have hsize : c.sent.size = e.published.length := by
        rw [← hcarries.sent_eq, Array.length_toList]
      refine Or.inr ⟨e, rfl, ?_⟩
      simp only [Station.react, Broadcaster.subscribe?, hpublisher, Hub.subscribe, hc,
        Option.map_some, Option.getD_some, hsize]

/-- Acts of a receiver that is not there change nothing, and nothing is written down. -/
lemma step_of_absent (hr : w.station.receiver? i = none) :
    w.step (.receive i) = w ∧ w.step (.leave i) = w := by
  constructor <;> simp only [step, Station.react, hr, Logbook.write]

/-- The step: every act is written down so that the station stays as the logbook says. -/
lemma Faithful.step (hw : w.Faithful base) (a : Act) : (w.step a).Faithful base := by
  cases a with
  | call c =>
      obtain ⟨hgrows, hreaders⟩ := w.logbook.grows_write_call c
        (w.station.broadcaster.respond c w.station.hub).result
      exact ⟨hw.airs.respond c, hw.attends.mono hgrows hreaders⟩
  | subscribe =>
      rcases react_subscribe hw with ⟨hpresent, hreact⟩ | ⟨e, hpresent, hreact⟩
      · rw [Watched.step, hreact]
        exact hw
      · rw [Watched.step, hreact]
        have hairs := hw.airs.modify (base + w.logbook.past.length) fun hc => hc.subscribe
        exact ⟨hairs.congr rfl rfl, hw.attends.subscribe hpresent⟩
  | receive i =>
      cases hr : w.station.receiver? i with
      | none =>
          rw [(step_of_absent hr).1]
          exact hw
      | some r =>
          obtain ⟨reader, e, hfinding⟩ := hw.finding hr
          have hattends := hw.attends.receive hfinding.reader_eq hfinding.epoch_eq hfinding.finds
          rw [← hfinding.moved] at hattends
          simp only [Watched.step, Station.react, hr]
          exact ⟨hw.airs.congr rfl rfl, hattends⟩
  | leave i =>
      cases hr : w.station.receiver? i with
      | none =>
          rw [(step_of_absent hr).2]
          exact hw
      | some r =>
          simp only [Watched.step, Station.react, hr]
          exact ⟨hw.airs.modify _ fun hc => hc.leave, hw.attends.leave i⟩

/-- The run: the station is as the logbook says after any acts. -/
lemma Faithful.run (hw : w.Faithful base) (acts : List Act) : (w.run acts).Faithful base := by
  induction acts generalizing w with
  | nil => exact hw
  | cons a acts ih => exact ih (hw.step a)

/-- A new broadcaster, with nothing written down yet. -/
lemma faithful_start (node : String) (hub : Hub Notice) :
    Faithful hub.nextId { station := { broadcaster := { node }, hub } } where
  airs := ⟨rfl, by simp, by simp, rfl, rfl⟩
  attends := ⟨rfl, by simp, by simp⟩

end Watched

end ManagedNode
