import ManagedNode.Proofs.Boundary.Station

/-!
The epochs of a broadcaster, and what its receivers read in them.

* `Logbook.Explains`: what the logbook says of every answer that the station may give next, and of
  everything that each receiver has read so far.
* `Station.Act.concerns`: the acts that have to do with one receiver, and those of no receiver.
* `Watched.Alike`: two stations that one receiver cannot tell apart. An act at both of them keeps
  this, and so does an act of another receiver at only one of them.
* `Watched.epochs_explained`: the logbook explains the station, and what a receiver reads is the
  same without the reading and the leaving of all others.
-/

namespace ManagedNode

open Broadcaster (channelCapacity)

/-! ### What the logbook explains -/

/-- The answers of the station, by what is written in the logbook. -/
structure Logbook.Explains (l : Logbook) (x : Station) : Prop where
  bringUp_ok_iff : ∀ mode, (x.react (.call (.bringUp mode))).1 = .answered (.ok ()) ↔
    x.broadcaster.node ≠ "" ∧ x.broadcaster.publisher = none
  /-- Whatever is refused changes nothing. -/
  of_refused : ∀ a fault, (x.react a).1 = .answered (.error fault) → (x.react a).2 = x
  announce_ok_iff : ∀ start goal, (x.react (.call (.announce start goal))).1 = .answered (.ok ()) ↔
    l.present.isSome = true
  tearDown_ok : (x.react (.call .tearDown)).1 = .answered (.ok ())
  subscribe_ok_iff : (x.react .subscribe).1 = .answered (.ok ()) ↔ l.present.isSome = true
  isSome_publisher : x.broadcaster.publisher.isSome = l.present.isSome
  isSome_services_iff : x.broadcaster.services.isSome = true ↔
    ∃ e, l.present = some e ∧ e.mode = .full
  /-- What a receiver finds when it reads next. -/
  finds : ∀ (i : ℕ) (r : Receiver), x.receiver? i = some r →
    ∃ reader e found, l.readers[i]? = some reader ∧ l.epochs[reader.epoch]? = some e ∧
      (x.react (.receive i)).1 = .found found ∧
      Channel.Finds channelCapacity e.published (l.lasts reader.epoch) reader.position found
  /-- What a receiver has read so far, and what it was told to have lost. -/
  follows : ∀ (i : ℕ) (reader : Reader Notice), l.readers[i]? = some reader →
    ∃ e, l.epochs[reader.epoch]? = some e ∧ reader.Follows e.published ∧
      reader.events.Sublist (e.published.drop reader.since)

namespace Watched

open Station (Act)

variable {w w' : Watched} {base i : ℕ} {a : Act}

lemma announce_eq_ok_iff (hw : w.Faithful base) (start goal : State) :
    (w.station.broadcaster.announce start goal w.station.hub).result = .ok () ↔
      w.logbook.present.isSome = true := by
  have hpublisher := hw.airs.publisher_eq
  cases hpresent : w.logbook.present with
  | none =>
      rw [hpresent, Option.map_none] at hpublisher
      rw [Broadcaster.announce, hpublisher]
      simp
  | some e =>
      rw [hpresent, Option.map_some] at hpublisher
      rw [Broadcaster.announce_of_publisher hpublisher]
      exact iff_of_true rfl rfl

/-- An act that is refused changes nothing. -/
lemma station_of_refused (hw : w.Faithful base) {fault : Fault}
    (h : (w.station.react a).1 = .answered (.error fault)) :
    (w.station.react a).2 = w.station := by
  cases a with
  | call c =>
      have hrefused : (w.station.broadcaster.respond c w.station.hub).result = .error fault := by
        simpa [Station.react] using h
      obtain ⟨hboundary, hmedium⟩ := Broadcaster.respond_of_error hrefused
      simp only [Station.react, hboundary, hmedium]
  | subscribe =>
      rcases react_subscribe hw with ⟨-, hreact⟩ | ⟨e, -, hreact⟩
      · rw [hreact]
      · rw [hreact] at h
        cases h
  | receive i =>
      simp only [Station.react] at h
      split at h <;> cases h
  | leave i =>
      simp only [Station.react] at h
      split at h <;> cases h

/-- The logbook explains a station that is as it says. -/
lemma Faithful.explains (hw : w.Faithful base) : w.logbook.Explains w.station where
  bringUp_ok_iff := by
    intro mode
    rw [← Broadcaster.bringUp_eq_ok_iff _ mode w.station.hub]
    simp only [Station.react, Broadcaster.respond, Station.Reaction.answered.injEq]
  of_refused := fun a fault h => station_of_refused hw h
  announce_ok_iff := by
    intro start goal
    rw [← announce_eq_ok_iff hw start goal]
    simp only [Station.react, Broadcaster.respond, Station.Reaction.answered.injEq]
  tearDown_ok := rfl
  subscribe_ok_iff := by
    rcases react_subscribe hw with ⟨hpresent, hreact⟩ | ⟨e, hpresent, hreact⟩
    · rw [hreact, hpresent]
      simp
    · rw [hreact, hpresent]
      exact iff_of_true rfl rfl
  isSome_publisher := by rw [hw.airs.publisher_eq, Option.isSome_map]
  isSome_services_iff := by
    have hserving : w.station.broadcaster.services.isSome = _ := hw.airs.serving_eq
    rw [hserving]
    simp [Option.any_eq_true]
  finds := by
    intro i r hr
    obtain ⟨reader, e, hfinding⟩ := hw.finding hr
    refine ⟨reader, e, _, hfinding.reader_eq, hfinding.epoch_eq, ?_, hfinding.finds⟩
    simp only [Station.react, hr]
  follows := by
    intro i reader hreader
    obtain ⟨e, he, hfollows⟩ := hw.attends.reader i reader hreader
    exact ⟨e, he, hfollows, hfollows.events_sublist⟩

end Watched

/-! ### What a receiver cannot tell apart -/

namespace Station

variable {receivers : List (Option Receiver)} {i j : ℕ} {r : Receiver}

/-- A place that is taken can be given to another receiver, or be left empty. -/
lemma join_getElem?_set_self (hr : receivers[i]?.join = some r) (v : Option Receiver) :
    (receivers.set i v)[i]?.join = v := by
  have hlt : i < receivers.length := by
    by_contra hge
    rw [List.getElem?_eq_none (Nat.le_of_not_lt hge)] at hr
    cases hr
  rw [List.getElem?_set_self hlt, Option.join_some]

lemma join_getElem?_set_of_ne (hij : j ≠ i) (v : Option Receiver) :
    (receivers.set j v)[i]?.join = receivers[i]?.join := by
  rw [List.getElem?_set_ne hij]

/-- Is this an act of the receiver at the place, or of no receiver? -/
def Act.concerns (i : ℕ) : Act → Bool
  | call _ => true
  | subscribe => true
  | receive j => j = i
  | leave j => j = i

end Station

/-- What is written down of a call depends on the epochs and on the result alone. -/
lemma Logbook.write_call_congr {l l' : Logbook} (hpast : l'.past = l.past)
    (hpresent : l'.present = l.present) (c : Call) (result : Except Fault Unit) :
    (l'.write (.call c) (.answered result)).past = (l.write (.call c) (.answered result)).past ∧
      (l'.write (.call c) (.answered result)).present =
        (l.write (.call c) (.answered result)).present := by
  have hepochs : l'.epochs = l.epochs := by rw [epochs, epochs, hpast, hpresent]
  cases result with
  | error fault => cases c <;> exact ⟨hpast, hpresent⟩
  | ok _ =>
      cases c with
      | bringUp mode => exact ⟨hepochs, rfl⟩
      | announce start goal => exact ⟨hpast, congrArg (Option.map _) hpresent⟩
      | tearDown => exact ⟨hepochs, rfl⟩

namespace Watched

open Station (Act)

variable {w w' : Watched} {base i : ℕ} {a : Act}

/-- The receiver at the place `i` cannot tell the two stations apart, whatever the others have read
and whoever of them has left. -/
structure Alike (i : ℕ) (w w' : Watched) : Prop where
  broadcaster_eq : w'.station.broadcaster = w.station.broadcaster
  isSome_receiver? : (w'.station.receiver? i).isSome = (w.station.receiver? i).isSome
  past_eq : w'.logbook.past = w.logbook.past
  present_eq : w'.logbook.present = w.logbook.present
  length_readers : w'.logbook.readers.length = w.logbook.readers.length
  reader_eq : w'.logbook.readers[i]? = w.logbook.readers[i]?

namespace Alike

lemma refl (i : ℕ) (w : Watched) : Alike i w w := ⟨rfl, rfl, rfl, rfl, rfl, rfl⟩

lemma exists_receiver? (h : Alike i w w') {r : Receiver} (hr : w.station.receiver? i = some r) :
    ∃ r', w'.station.receiver? i = some r' := by
  rw [← Option.isSome_iff_exists, h.isSome_receiver?, hr, Option.isSome_some]

lemma receiver?_eq_none (h : Alike i w w') (hr : w.station.receiver? i = none) :
    w'.station.receiver? i = none := by
  rw [← Option.not_isSome_iff_eq_none, h.isSome_receiver?, hr]
  simp

lemma epochs_eq (h : Alike i w w') : w'.logbook.epochs = w.logbook.epochs := by
  rw [Logbook.epochs, Logbook.epochs, h.past_eq, h.present_eq]

/-- A call is answered alike. -/
lemma call (h : Alike i w w') (hw : w.Faithful base) (hw' : w'.Faithful base) (c : Call) :
    Alike i (w.step (.call c)) (w'.step (.call c)) := by
  have hnext : w'.station.hub.nextId = w.station.hub.nextId := by
    calc w'.station.hub.nextId = base + w'.logbook.epochs.length := hw'.airs.length_eq
      _ = base + w.logbook.epochs.length := by rw [h.epochs_eq]
      _ = w.station.hub.nextId := hw.airs.length_eq.symm
  obtain ⟨hresult, hboundary⟩ := w.station.broadcaster.respond_congr c hnext
  obtain ⟨-, hreaders⟩ := w.logbook.grows_write_call c
    (w.station.broadcaster.respond c w.station.hub).result
  obtain ⟨-, hreaders'⟩ := w'.logbook.grows_write_call c
    (w.station.broadcaster.respond c w.station.hub).result
  obtain ⟨hpast, hpresent⟩ := Logbook.write_call_congr h.past_eq h.present_eq c
    (w.station.broadcaster.respond c w.station.hub).result
  simp only [step, Station.react, h.broadcaster_eq, hresult]
  exact ⟨hboundary, h.isSome_receiver?, hpast, hpresent,
    by rw [hreaders, hreaders', h.length_readers], by rw [hreaders, hreaders', h.reader_eq]⟩

/-- Subscribing is answered alike, and the new receivers have the same place. -/
lemma subscribe (h : Alike i w w') (hw : w.Faithful base) (hw' : w'.Faithful base) :
    Alike i (w.step .subscribe) (w'.step .subscribe) := by
  rcases react_subscribe hw with ⟨hpresent, hreact⟩ | ⟨e, hpresent, hreact⟩
  · rcases react_subscribe hw' with ⟨-, hreact'⟩ | ⟨e', hpresent', -⟩
    · rw [step, step, hreact, hreact']
      exact h
    · rw [h.present_eq, hpresent] at hpresent'
      cases hpresent'
  · rcases react_subscribe hw' with ⟨hpresent', -⟩ | ⟨e', hpresent', hreact'⟩
    · rw [h.present_eq, hpresent] at hpresent'
      cases hpresent'
    · -- The places match because receivers that were dropped keep theirs.
      have hlength : w'.station.receivers.length = w.station.receivers.length := by
        rw [hw.attends.length_eq, hw'.attends.length_eq, h.length_readers]
      have hnow : w'.logbook.publishedNow = w.logbook.publishedNow := by
        rw [Logbook.publishedNow, Logbook.publishedNow, h.present_eq]
      have hsome := h.isSome_receiver?
      rw [step, step, hreact, hreact']
      refine ⟨h.broadcaster_eq, ?_, h.past_eq, h.present_eq, ?_, ?_⟩
      · simp only [Station.receiver?, List.getElem?_append, hlength] at hsome ⊢
        split_ifs
        · exact hsome
        · simp only [List.getElem?_singleton]
          split_ifs <;> rfl
      · simp only [Logbook.write, List.length_append, List.length_singleton, h.length_readers]
      · simp only [Logbook.write, List.getElem?_append, h.length_readers, h.reader_eq, h.past_eq,
          hnow]

/-- The receiver itself finds the same. -/
lemma receive (h : Alike i w w') (hw : w.Faithful base) (hw' : w'.Faithful base) :
    Alike i (w.step (.receive i)) (w'.step (.receive i)) := by
  cases hr : w.station.receiver? i with
  | none =>
      rw [(step_of_absent hr).1, (step_of_absent (h.receiver?_eq_none hr)).1]
      exact h
  | some r =>
      obtain ⟨r', hr'⟩ := h.exists_receiver? hr
      -- Both have the same history in the same epoch, and this decides what is found.
      obtain ⟨reader, e, hfinding⟩ := hw.finding hr
      obtain ⟨reader', e', hfinding'⟩ := hw'.finding hr'
      have hreader : reader = reader' := by
        have heq := hfinding'.reader_eq
        rw [h.reader_eq, hfinding.reader_eq] at heq
        exact Option.some.inj heq
      subst hreader
      have hepoch : e = e' := by
        have heq := hfinding'.epoch_eq
        rw [h.epochs_eq, hfinding.epoch_eq] at heq
        exact Option.some.inj heq
      subst hepoch
      have hlasts : w'.logbook.lasts reader.epoch = w.logbook.lasts reader.epoch := by
        rw [Logbook.lasts, Logbook.lasts, h.past_eq]
      have hfinds' := hfinding'.finds
      rw [hlasts] at hfinds'
      have hfound := hfinds'.unique hfinding.finds
      simp only [step, Station.react, hr, hr', hfound]
      refine ⟨h.broadcaster_eq, ?_, h.past_eq, h.present_eq, ?_, ?_⟩
      · simp only [Station.receiver?] at hr hr' ⊢
        rw [Station.join_getElem?_set_self hr, Station.join_getElem?_set_self hr']
        rfl
      · simp only [Logbook.write, List.length_modify, h.length_readers]
      · simp only [Logbook.write, List.getElem?_modify_eq, h.reader_eq]

/-- The receiver itself leaves. -/
lemma leave (h : Alike i w w') : Alike i (w.step (.leave i)) (w'.step (.leave i)) := by
  cases hr : w.station.receiver? i with
  | none =>
      rw [(step_of_absent hr).2, (step_of_absent (h.receiver?_eq_none hr)).2]
      exact h
  | some r =>
      obtain ⟨r', hr'⟩ := h.exists_receiver? hr
      simp only [step, Station.react, hr, hr']
      refine ⟨h.broadcaster_eq, ?_, h.past_eq, h.present_eq, h.length_readers, h.reader_eq⟩
      simp only [Station.receiver?] at hr hr' ⊢
      rw [Station.join_getElem?_set_self hr, Station.join_getElem?_set_self hr']

/-- An act that concerns the receiver keeps the two stations alike. -/
lemma step (h : Alike i w w') (hw : w.Faithful base) (hw' : w'.Faithful base)
    (ha : a.concerns i = true) : Alike i (w.step a) (w'.step a) := by
  cases a with
  | call c => exact h.call hw hw' c
  | subscribe => exact h.subscribe hw hw'
  | receive j =>
      obtain rfl : j = i := of_decide_eq_true ha
      exact h.receive hw hw'
  | leave j =>
      obtain rfl : j = i := of_decide_eq_true ha
      exact h.leave

/-- An act that does not concern the receiver may happen at one of the stations only. -/
lemma step_other (h : Alike i w w') (ha : a.concerns i = false) : Alike i (w.step a) w' := by
  cases a with
  | call c => cases ha
  | subscribe => cases ha
  | receive j =>
      have hij : j ≠ i := of_decide_eq_false ha
      cases hr : w.station.receiver? j with
      | none =>
          rw [(step_of_absent hr).1]
          exact h
      | some r =>
          simp only [Watched.step, Station.react, hr]
          refine ⟨h.broadcaster_eq, ?_, h.past_eq, h.present_eq, ?_, ?_⟩
          · rw [h.isSome_receiver?]
            simp only [Station.receiver?, Station.join_getElem?_set_of_ne hij]
          · simp only [Logbook.write, List.length_modify, h.length_readers]
          · rw [h.reader_eq]
            exact (List.getElem?_modify_ne _ _ hij).symm
  | leave j =>
      have hij : j ≠ i := of_decide_eq_false ha
      cases hr : w.station.receiver? j with
      | none =>
          rw [(step_of_absent hr).2]
          exact h
      | some r =>
          simp only [Watched.step, Station.react, hr]
          refine ⟨h.broadcaster_eq, ?_, h.past_eq, h.present_eq, h.length_readers, h.reader_eq⟩
          rw [h.isSome_receiver?]
          simp only [Station.receiver?, Station.join_getElem?_set_of_ne hij]

/-- The run: leaving out the acts of all other receivers keeps the stations alike. -/
lemma run (h : Alike i w w') (hw : w.Faithful base) (hw' : w'.Faithful base) (acts : List Act) :
    Alike i (w.run acts) (w'.run (acts.filter (Act.concerns i))) := by
  induction acts generalizing w w' with
  | nil => exact h
  | cons a acts ih =>
      cases ha : a.concerns i with
      | true =>
          rw [List.filter_cons_of_pos ha]
          exact ih (h.step hw hw' ha) (hw.step a) (hw'.step a)
      | false =>
          -- Only the first station goes on, while the second one waits.
          rw [List.filter_cons_of_neg (by simp [ha])]
          exact ih (h.step_other ha) (hw.step a) hw'

end Alike

/-- No act gives the broadcaster another name. -/
lemma node_step (w : Watched) (a : Act) :
    (w.step a).station.broadcaster.node = w.station.broadcaster.node := by
  cases a with
  | call c => exact Broadcaster.node_respond _ c _
  | subscribe =>
      simp only [step, Station.react]
      cases w.station.broadcaster.subscribe? w.station.hub <;> rfl
  | receive i =>
      simp only [step, Station.react]
      cases w.station.receiver? i <;> rfl
  | leave i =>
      simp only [step, Station.react]
      cases w.station.receiver? i <;> rfl

lemma node_run (w : Watched) (acts : List Act) :
    (w.run acts).station.broadcaster.node = w.station.broadcaster.node := by
  induction acts generalizing w with
  | nil => rfl
  | cons a acts ih =>
      calc (w.run (a :: acts)).station.broadcaster.node
        _ = (w.step a).station.broadcaster.node := ih (w.step a)
        _ = w.station.broadcaster.node := w.node_step a

/-- **Epochs.** However a broadcaster is called, subscribed to and read from, the logbook explains
every answer: it comes up unless it is up or has no name, it publishes and takes subscriptions
within its epochs, and it serves within those that began in full mode. A receiver reads what was
published in its epoch after it subscribed, apart from what it is told to have lost, and nothing
else; others who read or leave make no difference to it. -/
theorem epochs_explained (node : String) (hub : Hub Notice) (acts : List Act) :
    let start : Watched := { station := { broadcaster := { node }, hub } }
    let w := start.run acts
    w.logbook.Explains w.station ∧ w.station.broadcaster.node = node ∧
      ∀ i, let w' := start.run (acts.filter (Act.concerns i))
        w'.logbook.epochs = w.logbook.epochs ∧ w'.logbook.readers[i]? = w.logbook.readers[i]? := by
  intro start w
  have hstart : start.Faithful hub.nextId := faithful_start node hub
  refine ⟨(hstart.run acts).explains, node_run start acts, fun i => ?_⟩
  have halike := (Alike.refl i start).run hstart hstart acts
  exact ⟨halike.epochs_eq, halike.reader_eq⟩

/-- A receiver that stays on over the next epoch reads what was left of its own, and then nothing
more. -/
example :
    let start : Watched := { station := { broadcaster := { node := "talker" }, hub := {} } }
    let here : State := ⟨1, "here", []⟩
    let there : State := ⟨2, "there", []⟩
    let w := start.run
      [.call (.bringUp .full), .subscribe, .call (.announce here there), .call .tearDown,
        .call (.bringUp .publisherOnly), .call (.announce there here), .receive 0, .receive 0]
    w.logbook.epochs.length = 2 ∧
      w.logbook.readers.map Reader.found = [[.event (.between here there), .closed]] :=
  ⟨rfl, rfl⟩

end Watched

end ManagedNode
