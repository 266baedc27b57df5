import ManagedNode.Topology.Dump
import ManagedNode.Proofs.Topology.Invariant

/-!
The two forms in which a topology is dumped.

A dump lists each state, and after it the transitions that leave it. As text it is one line after
the other; in the log a state has one record for its first two lines. Labels may have line breaks in
them, so the two are compared as texts and not line by line.

* `Topology.render_eq`: the text is put together from the messages of the records.
* `Topology.place`: where the record of a state stands, by what comes before it. There are as many
  records as states and transitions (`Topology.WellFormed.length_records`), since the lists of the
  states hold each transition once.
* `Topology.Request`, `Topology.respond`: an edit, or one of the dumps. The dumps can be left out of a
  run of both (`Topology.after_eq`, `Topology.filterMap_responses`).
* `Topology.Dumped`, `Topology.dumps_agree`: what the dumps show, at any time in any run.
-/

namespace ManagedNode

namespace Topology

variable {m : Topology} {s : State} {t : Transition} {earlier later : List State}

/-! ### The records of a dump -/

/-- The records that belong to one state. -/
def block (s : State) : List Record := stateRecord s :: s.outgoing.map (edgeRecord s)

/-- How many records come before those of a state, if these states come before it: one for each of
them, and one for each transition that leaves one of them. -/
def place (earlier : List State) : ℕ :=
  earlier.length + (earlier.map fun s => s.outgoing.length).sum

lemma length_flatMap_block (states : List State) : (states.flatMap block).length = place states := by
  induction states with
  | nil => rfl
  | cons s states ih =>
      rw [List.flatMap_cons, List.length_append, ih]
      simp only [block, place, List.length_cons, List.length_map, List.map_cons, List.sum_cons]
      omega

/-- The records of a state stand after those of the states before it. -/
lemma getElem?_records (h : m.states = earlier ++ s :: later) {i : ℕ} (hi : i < (block s).length) :
    m.records[place earlier + i]? = (block s)[i]? := by
  have hrecords : m.records = earlier.flatMap block ++ (block s ++ later.flatMap block) := by
    rw [records, h, List.flatMap_append, List.flatMap_cons]
    rfl
  rw [hrecords, ← length_flatMap_block, List.getElem?_append_right (Nat.le_add_right _ _),
    Nat.add_sub_cancel_left, List.getElem?_append_left hi]

lemma getElem?_stateRecord (h : m.states = earlier ++ s :: later) :
    m.records[place earlier]? = some (stateRecord s) :=
  getElem?_records h (Nat.succ_pos _)

lemma getElem?_edgeRecord (h : m.states = earlier ++ s :: later) {k : ℕ}
    (ht : s.outgoing[k]? = some t) :
    m.records[place earlier + 1 + k]? = some (edgeRecord s t) := by
  obtain ⟨hk, -⟩ := List.getElem?_eq_some_iff.mp ht
  have hi : k + 1 < (block s).length := by
    rw [block, List.length_cons, List.length_map]
    omega
  rw [Nat.add_assoc, Nat.add_comm 1 k, getElem?_records h hi, block, List.getElem?_cons_succ,
    List.getElem?_map, ht, Option.map_some]

lemma level_of_mem_records {r : Record} (h : r ∈ m.records) : r.level = .info := by
  obtain ⟨s, -, hr⟩ := List.mem_flatMap.mp h
  rcases List.mem_cons.mp hr with rfl | hr
  · rfl
  · obtain ⟨t, -, rfl⟩ := List.mem_map.mp hr
    rfl

/-- There are as many records as states and transitions: each transition is in the list of the one
state that it leaves. -/
lemma WellFormed.length_records (hm : m.WellFormed) :
    m.records.length = m.states.length + m.transitions.length := by
  rw [← hm.sum_outDegree]
  exact length_flatMap_block m.states

/-! ### The text of a dump -/

/-- Records as text: their messages, each ended by a line break. -/
def written (rs : List Record) : String := String.join (rs.map fun r => r.message ++ "\n")

lemma written_append (rs more : List Record) : written (rs ++ more) = written rs ++ written more := by
  rw [written, List.map_append, String.join_append, written, written]

/-- The lines of a state say what its records do. -/
lemma join_lines (s : State) :
    String.join (s.lines.map fun line => s!"{line}\n") = written (block s) := by
  -- The first two lines are one record, whose message has the line break between them.
  have hopening : s!"Primary State: {s.label}({s.id})" ++ "\n" ++
      (s!"# of valid transitions: {s.outgoing.length}" ++ "\n") =
        (stateRecord s).message ++ "\n" := by
    have hbreak : ")\n# of valid transitions: " = ")" ++ ("\n" ++ "# of valid transitions: ") := rfl
    simp only [stateRecord, hbreak, String.append_assoc, toString]
  have hedges : (s.outgoing.map fun t => s!"\tNode {s.label} has transition {t.label}").map
      (fun line => s!"{line}\n") = (s.outgoing.map (edgeRecord s)).map fun r => r.message ++ "\n" := by
    rw [List.map_map, List.map_map]
    rfl
  rw [State.lines, block, written, List.map_cons, List.map_cons, List.map_cons, String.join_cons,
    String.join_cons, String.join_cons, hedges, ← String.append_assoc]
  exact congrArg (· ++ _) hopening

/-- The text of a dump is put together from the messages of the records. -/
lemma render_eq (m : Topology) : m.render = written m.records := by
  have h : ∀ states : List State, String.join ((states.flatMap State.lines).map fun line =>
      s!"{line}\n") = written (states.flatMap block) := by
    intro states
    induction states with
    | nil => rfl
    | cons s states ih =>
        rw [List.flatMap_cons, List.map_append, String.join_append, join_lines, ih,
          List.flatMap_cons, written_append]
  exact h m.states

/-! ### Dumps between edits -/

/-- What may be asked of a topology: an edit, or one of its dumps. -/
inductive Request
  | edit (e : Edit)
  | log
  | text

/-- What is answered: the result of an edit, or what a dump shows. -/
inductive Response
  | result (r : Except Fault Unit)
  | records (rs : List Record)
  | text (s : String)

/-- The edit that is asked for, if it is one. -/
def Request.edit? : Request → Option Edit
  | edit e => some e
  | log | text => none

/-- The result of an edit, if this is what is answered. -/
def Response.result? : Response → Option (Except Fault Unit)
  | result r => some r
  | records _ | text _ => none

/-- The answer to a request, and the topology after it. -/
def respond (m : Topology) : Request → Response × Topology
  | .edit e => (.result (m.perform e).1, (m.perform e).2)
  | .log => (.records m.records, m)
  | .text => (.text m.render, m)

/-- The topology after requests one after another. -/
def after (m : Topology) (rs : List Request) : Topology := rs.foldl (fun m r => (m.respond r).2) m

/-- The answers to requests one after another. -/
def responses (m : Topology) : List Request → List Response
  | [] => []
  | r :: rs => (m.respond r).1 :: (m.respond r).2.responses rs

/-- The results of edits one after another. -/
def results (m : Topology) : List Edit → List (Except Fault Unit)
  | [] => []
  | e :: es => (m.perform e).1 :: (m.perform e).2.results es

/-- A dump leaves the topology as it is, and is no result. -/
lemma respond_of_dump {r : Request} (h : r.edit? = none) :
    (m.respond r).2 = m ∧ (m.respond r).1.result? = none := by
  cases r with
  | edit e => cases h
  | log => exact ⟨rfl, rfl⟩
  | text => exact ⟨rfl, rfl⟩

lemma respond_of_edit {r : Request} {e : Edit} (h : r.edit? = some e) :
    (m.respond r).2 = (m.perform e).2 ∧ (m.respond r).1.result? = some (m.perform e).1 := by
  cases r with
  | edit e' =>
      obtain rfl := Option.some.inj h
      exact ⟨rfl, rfl⟩
  | log => cases h
  | text => cases h

/-- The edits leave the same topology as without the dumps. -/
lemma after_eq (m : Topology) (rs : List Request) :
    m.after rs = m.performAll (rs.filterMap Request.edit?) := by
  induction rs generalizing m with
  | nil => rfl
  | cons r rs ih =>
      rw [after, List.foldl_cons, ← after, ih]
      cases hr : r.edit? with
      | none => rw [List.filterMap_cons_none hr, (respond_of_dump hr).1]
      | some e =>
          rw [List.filterMap_cons_some hr, (respond_of_edit hr).1, performAll, performAll,
            List.foldl_cons]

/-- The edits have the same results as without the dumps. -/
lemma filterMap_responses (m : Topology) (rs : List Request) :
    (m.responses rs).filterMap Response.result? = m.results (rs.filterMap Request.edit?) := by
  induction rs generalizing m with
  | nil => rfl
  | cons r rs ih =>
      rw [responses]
      cases hr : r.edit? with
      | none =>
          obtain ⟨hm, hresult⟩ := respond_of_dump (m := m) hr
          rw [List.filterMap_cons_none hresult, ih, hm, List.filterMap_cons_none hr]
      | some e =>
          obtain ⟨hm, hresult⟩ := respond_of_edit (m := m) hr
          rw [List.filterMap_cons_some hresult, ih, hm, List.filterMap_cons_some hr, results]

/-! ### Reachable topologies -/

/-- What the dumps of a topology show. The states have their records in the order of registration,
and after the record of a state come those of the transitions that leave it. -/
structure Dumped (m : Topology) : Prop where
  render_eq : m.render = written m.records
  length_records : m.records.length = m.states.length + m.transitions.length
  level_eq : ∀ r ∈ m.records, r.level = .info
  state_eq : ∀ earlier s later, m.states = earlier ++ s :: later →
    m.records[place earlier]? = some ⟨.info,
      s!"Primary State: {s.label}({s.id})\n# of valid transitions: {s.outgoing.length}", []⟩
  edge_eq : ∀ earlier s later, m.states = earlier ++ s :: later →
    ∀ (k : ℕ) t, s.outgoing[k]? = some t →
      m.records[place earlier + 1 + k]? =
        some ⟨.info, s!"\tNode {s.label} has transition {t.label}", []⟩

lemma WellFormed.dumped (hm : m.WellFormed) : m.Dumped where
  render_eq := m.render_eq
  length_records := hm.length_records
  level_eq := fun _ hr => level_of_mem_records hr
  state_eq := fun _ _ _ hstates => getElem?_stateRecord hstates
  edge_eq := fun _ _ _ hstates _ _ ht => getElem?_edgeRecord hstates ht

/-- **The two dumps agree**, at any time while a topology is edited and dumped by turns; and the
edits come to the same as if nothing had been dumped. -/
theorem dumps_agree (h : m.Reachable) (rs : List Request) :
    (m.after rs).Dumped ∧ m.after rs = m.performAll (rs.filterMap Request.edit?) ∧
      (m.responses rs).filterMap Response.result? = m.results (rs.filterMap Request.edit?) := by
  have hafter : (m.after rs).Reachable := by
    rw [after_eq]
    exact h.performAll _
  exact ⟨hafter.wellFormed.dumped, m.after_eq rs, m.filterMap_responses rs⟩

/-- A loop is added between dumps, at a state that is called by two lines, as the loop is; and a state
is refused that is registered already. -/
theorem dumps_agree_broken_lines :
    let loop : Transition := { id := 1, label := "start\nagain", ends := some ⟨7, 7⟩ }
    let m := ({} : Topology).performAll [.register ⟨7, "se\nven", []⟩, .register ⟨8, "eight", [loop]⟩]
    let rs : List Request :=
      [.text, .edit (.connect loop), .log, .edit (.register ⟨8, "eight", []⟩)]
    m.Reachable ∧ (m.after rs).Dumped ∧
      (m.after rs).render =
        "Primary State: se\nven(7)\n# of valid transitions: 1\n" ++
        "\tNode se\nven has transition start\nagain\n" ++
        "Primary State: eight(8)\n# of valid transitions: 0\n" := by
  intro loop m rs
  have hm : m.Reachable := Reachable.empty.performAll _
  exact ⟨hm, (dumps_agree hm rs).1, by decide +kernel⟩

end Topology

end ManagedNode
