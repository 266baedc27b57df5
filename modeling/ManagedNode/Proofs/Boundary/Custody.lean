import ManagedNode.Proofs.Machine.Image

/-!
What a machine does with the boundaries that it is handed.

To tell boundaries from each other, they are given names, and the medium that they share is given
a ledger in which every call is entered, with the name of the boundary called. A machine over
named boundaries is an image of one over bare boundaries (`Named.forget`): it makes the same calls.

* `Named`, `Ledger`: a boundary with a name, and a medium with a ledger.
* `Machine.Turn`, `Machine.after`, `Machine.ledgered`: what a host does that leaves the boundary
  held alone, and the machine after it. In the latter, the boundary handed over in the turn at
  place `i` has the name `i`.
* `Machine.Dealt`, `Machine.deals_perform`: what one operation enters in the ledger.
* `Custody`: the ledgers that can come about, with the name of the boundary that is up. It is kept
  by one operation (`Custody.dealt`), and so it holds of every run (`Machine.custody`).
* `Protocol`: the calls that can be made of one boundary.
* `Machine.ledger_protocol`: every boundary is called by the protocol, and at every moment at most
  one boundary is up, which is the one held; it goes down with the machine
  (`Machine.entries_tearDown`).
-/

namespace ManagedNode

variable {β μ : Type}

/-! ### Named boundaries -/

/-- A boundary with a name, by which it is told from others. -/
structure Named (β : Type) where
  name : ℕ
  boundary : β

/-- A call that was made of the boundary with this name, and what it answered. -/
structure Ledger.Entry where
  name : ℕ
  call : Call
  result : Except Fault Unit

/-- A medium, with all the calls that were made of the boundaries in it. -/
structure Ledger (μ : Type) where
  medium : μ
  entries : List Ledger.Entry := []

namespace Named

variable [Boundary β μ]

/-- A named boundary responds as the bare one does, and the call is entered in the ledger. -/
def respond (call : Call) (b : Named β) (ledger : Ledger μ) : Reply (Named β) (Ledger μ) :=
  let reply := Boundary.respond call b.boundary ledger.medium
  { result := reply.result
    boundary := ⟨b.name, reply.boundary⟩
    medium := ⟨reply.medium, ledger.entries ++ [⟨b.name, call, reply.result⟩]⟩
    records := reply.records }

instance : Boundary (Named β) (Ledger μ) := ⟨respond, fun b => Boundary.serving b.boundary⟩

lemma entries_respond (call : Call) (b : Named β) (ledger : Ledger μ) :
    (Boundary.respond call b ledger).medium.entries =
      ledger.entries ++ [⟨b.name, call, (Boundary.respond call b ledger).result⟩] := rfl

/-- Forgetting names and ledger is a map of boundaries. -/
def forget : Boundary.Hom (Named β) (Ledger μ) β μ where
  boundary := Named.boundary
  medium := Ledger.medium
  respond_eq := fun _ _ _ => rfl
  serving_eq := fun _ => rfl

end Named

/-! ### Turns -/

namespace Machine

/-- What a host does with a machine while it leaves the boundary that is held alone. -/
inductive Turn (β : Type)
  | operate (op : Operation β)
  /-- The topology is overwritten by any other. -/
  | overwrite (topology : Topology)

/-- A turn along a map of boundaries. -/
def Turn.map {β' : Type} (f : β → β') : Turn β → Turn β'
  | .operate op => .operate (op.map f)
  | .overwrite topology => .overwrite topology

variable [Boundary β μ]

/-- The machine after a turn. -/
def play (m : Machine β μ) : Turn β → Machine β μ
  | .operate op => (m.perform op).machine
  | .overwrite topology => m.withTopology topology

/-- A new machine after a run of turns. -/
def after (medium : μ) (turns : List (Turn β)) : Machine β μ := turns.foldl play { medium }

/-- The same with a ledger, where the boundary that is handed over in a turn is named by the place
of the turn. -/
def ledgered (medium : μ) (turns : List (Turn β)) : Machine (Named β) (Ledger μ) :=
  after { medium } (turns.mapIdx fun i t => t.map (Named.mk i))

/-- The name of the boundary that is held. -/
def heldName (m : Machine (Named β) (Ledger μ)) : Option ℕ := m.boundary.map Named.name

lemma after_concat (medium : μ) (turns : List (Turn β)) (t : Turn β) :
    after medium (turns ++ [t]) = (after medium turns).play t := List.foldl_concat ..

lemma ledgered_concat (medium : μ) (turns : List (Turn β)) (t : Turn β) :
    ledgered medium (turns ++ [t]) =
      (ledgered medium turns).play (t.map (Named.mk turns.length)) := by
  rw [ledgered, List.mapIdx_concat, after_concat]
  rfl

/-- Only a boundary that is handed over is given a name. -/
lemma Operation.eq_bringUp_of_map {op : Operation β} {i : ℕ} {b' : Named β} {options : Options}
    (h : op.map (Named.mk i) = .bringUp b' options) :
    ∃ b, op = .bringUp b options ∧ b' = ⟨i, b⟩ := by
  cases op with
  | bringUp b _ =>
      cases h
      exact ⟨b, rfl, rfl⟩
  | _ => cases h

lemma play_forget (m : Machine (Named β) (Ledger μ)) (i : ℕ) (t : Turn β) :
    (m.play (t.map (Named.mk i))).image Named.forget 0 = (m.image Named.forget 0).play t := by
  cases t with
  | operate op =>
      have hop : (op.map (Named.mk i)).map (Named.forget (μ := μ)).boundary = op := by
        cases op <;> rfl
      have hperform := m.perform_image Named.forget 0 (op.map (Named.mk i))
      rw [hop] at hperform
      exact (congrArg Outcome.machine hperform).symm
  | overwrite topology => rfl

/-- Without the names and the ledger, the machine is the one over bare boundaries. -/
lemma image_ledgered (medium : μ) (turns : List (Turn β)) :
    (ledgered medium turns).image Named.forget 0 = after medium turns := by
  induction turns using List.reverseRecOn with
  | nil => rfl
  | append_singleton turns t ih => rw [ledgered_concat, play_forget, ih, after_concat]

lemma isSome_heldName (medium : μ) (turns : List (Turn β)) :
    (ledgered medium turns).heldName.isSome = (after medium turns).boundary.isSome := by
  rw [← image_ledgered, heldName, boundary_image, Option.isSome_map, Option.isSome_map]

/-! ### What one operation enters in the ledger -/

/-- What an operation enters in the ledger, when the boundary named `up` is held before it; and the
name of the one that is held after it. -/
inductive Dealt : Operation (Named β) → Option ℕ → Option ℕ → List Ledger.Entry → Prop
  /-- A boundary that is handed over is left alone only if another one is held. -/
  | nothing {op : Operation (Named β)} {up : Option ℕ}
      (hop : ∀ b options, op = .bringUp b options → up.isSome = true) : Dealt op up up []
  | refused {b : Named β} {options : Options} (fault : Fault) :
      Dealt (.bringUp b options) none none [⟨b.name, .bringUp options.mode, .error fault⟩]
  | broughtUp {b : Named β} {options : Options} :
      Dealt (.bringUp b options) none (some b.name) [⟨b.name, .bringUp options.mode, .ok ()⟩]
  | abandoned {b : Named β} {options : Options} (result : Except Fault Unit) :
      Dealt (.bringUp b options) none none
        [⟨b.name, .bringUp options.mode, .ok ()⟩, ⟨b.name, .tearDown, result⟩]
  | announced {op : Operation (Named β)} {name : ℕ} (hop : ∀ b options, op ≠ .bringUp b options)
      (start goal : State) (result : Except Fault Unit) :
      Dealt op (some name) (some name) [⟨name, .announce start goal, result⟩]
  | tornDown {name : ℕ} (result : Except Fault Unit) :
      Dealt .tearDown (some name) none [⟨name, .tearDown, result⟩]

variable {m : Machine (Named β) (Ledger μ)}

/-- The ledger and the boundary held after an outcome are as `Dealt` says. -/
def Deals (m : Machine (Named β) (Ledger μ)) (op : Operation (Named β))
    (m' : Machine (Named β) (Ledger μ)) : Prop :=
  ∃ added, m'.medium.entries = m.medium.entries ++ added ∧ Dealt op m.heldName m'.heldName added

omit [Boundary β μ] in
/-- An operation that is not handed a boundary may leave boundary and medium alone. -/
lemma deals_nothing {op : Operation (Named β)} {m' : Machine (Named β) (Ledger μ)}
    (hop : ∀ b options, op ≠ .bringUp b options) (hboundary : m'.boundary = m.boundary)
    (hmedium : m'.medium = m.medium) : Deals m op m' := by
  refine ⟨[], by rw [hmedium, List.append_nil], ?_⟩
  rw [heldName, heldName, hboundary]
  exact .nothing fun b options hb => absurd hb (hop b options)

lemma Triggered.deals {op : Operation (Named β)} {t : Transition} {announce : Bool}
    {o : Outcome (Named β) (Ledger μ)} (hop : ∀ b options, op ≠ .bringUp b options)
    (ho : Triggered m t announce o) : Deals m op o.machine := by
  cases ho with
  | refused => exact deals_nothing hop rfl rfl
  | unheld => exact deals_nothing hop rfl rfl
  | quiet => exact deals_nothing hop rfl rfl
  | @announced start goal b he hb =>
      refine ⟨_, rfl, ?_⟩
      have hheld : m.heldName = some b.name := by rw [heldName, hb]; rfl
      rw [hheld]
      exact .announced hop start goal _

lemma BroughtUp.deals {b : Named β} {options : Options} {o : Outcome (Named β) (Ledger μ)}
    (ho : BroughtUp m b options o) : Deals m (.bringUp b options) o.machine := by
  cases ho with
  | alreadyUp hb =>
      refine ⟨[], (List.append_nil _).symm, .nothing fun _ _ _ => ?_⟩
      rw [heldName, Option.isSome_map, hb]
  | boundaryFailed hb hreply hfault =>
      subst hreply
      refine ⟨_, Named.entries_respond _ _ _, ?_⟩
      simp only [heldName, hb, hfault]
      exact .refused _
  | furnished hb hreply hok hfurnished =>
      subst hreply
      have hentries := Named.entries_respond (.bringUp options.mode) b m.medium
      rw [hok] at hentries
      cases hfurnished with
      | bare =>
          refine ⟨_, hentries, ?_⟩
          simp only [heldName, hb]
          exact .broughtUp
      | loaded =>
          refine ⟨_, hentries, ?_⟩
          simp only [heldName, hb]
          exact .broughtUp
      | abandoned =>
          have hdown := Named.entries_respond .tearDown
            (Boundary.respond (.bringUp options.mode) b m.medium).boundary
            (Boundary.respond (.bringUp options.mode) b m.medium).medium
          rw [hentries, List.append_assoc] at hdown
          refine ⟨_, hdown, ?_⟩
          simp only [heldName, hb]
          exact .abandoned _

/-- A machine that is taken down calls the boundary that is held, and enters that in the ledger. -/
lemma entries_tearDown (m : Machine (Named β) (Ledger μ)) :
    m.tearDown.machine.medium.entries =
      m.medium.entries ++ m.heldName.toList.map fun i => ⟨i, .tearDown, m.tearDown.result⟩ := by
  rw [tearDown, heldName]
  cases m.boundary with
  | none => exact (List.append_nil _).symm
  | some b => exact Named.entries_respond .tearDown b m.medium

/-- What an operation enters in the ledger. -/
lemma deals_perform (m : Machine (Named β) (Ledger μ)) (op : Operation (Named β)) :
    Deals m op (m.perform op).machine := by
  cases op with
  | bringUp b options => exact (m.broughtUp b options).deals
  | loadStandard | occupy | edit =>
      exact inward_induction (P := Deals m _) rfl fun _ _ => deals_nothing (by simp) rfl rfl
  | trigger t announce => exact (m.triggered t announce).deals (by simp)
  | request q announce =>
      exact request_induction (P := Deals m _) (deals_nothing (by simp) rfl rfl) fun t =>
        (m.triggered t announce).deals (by simp)
  | tearDown =>
      rw [perform, tearDown]
      cases hb : m.boundary with
      | none => exact deals_nothing (by simp) hb.symm rfl
      | some b =>
          refine ⟨_, rfl, ?_⟩
          have hheld : m.heldName = some b.name := by rw [heldName, hb]; rfl
          rw [hheld]
          exact .tornDown _

end Machine

/-! ### Custody -/

open Ledger (Entry)

/-- The ledgers that can come about, when the boundary that has a name is asked to come up in the
mode `asked` gives; and the name of the boundary that is up. -/
inductive Custody (asked : ℕ → Option Mode) : Option ℕ → List Entry → Prop
  | empty : Custody asked none []
  | refused {name : ℕ} {mode : Mode} {entries : List Entry} (fault : Fault) :
      Custody asked none entries → asked name = some mode → (∀ e ∈ entries, e.name ≠ name) →
      Custody asked none (entries ++ [⟨name, .bringUp mode, .error fault⟩])
  | broughtUp {name : ℕ} {mode : Mode} {entries : List Entry} :
      Custody asked none entries → asked name = some mode → (∀ e ∈ entries, e.name ≠ name) →
      Custody asked (some name) (entries ++ [⟨name, .bringUp mode, .ok ()⟩])
  | announced {name : ℕ} {entries : List Entry} (start goal : State)
      (result : Except Fault Unit) :
      Custody asked (some name) entries →
      Custody asked (some name) (entries ++ [⟨name, .announce start goal, result⟩])
  | tornDown {name : ℕ} {entries : List Entry} (result : Except Fault Unit) :
      Custody asked (some name) entries →
      Custody asked none (entries ++ [⟨name, .tearDown, result⟩])

/-- The calls made of the boundary with this name, and what they answered. -/
def Ledger.callsOn (entries : List Entry) (name : ℕ) : List (Call × Except Fault Unit) :=
  (entries.filter fun e => e.name = name).map fun e => (e.call, e.result)

/-- The calls that can be made of one boundary that is to come up in a mode; and whether it is up
after them. -/
inductive Protocol (mode : Mode) : Bool → List (Call × Except Fault Unit) → Prop
  | untouched : Protocol mode false []
  | refused (fault : Fault) : Protocol mode false [(.bringUp mode, .error fault)]
  | up {announcements : List (Call × Except Fault Unit)}
      (h : ∀ c ∈ announcements, ∃ start goal, c.1 = .announce start goal) :
      Protocol mode true ((.bringUp mode, .ok ()) :: announcements)
  | down {calls : List (Call × Except Fault Unit)} (result : Except Fault Unit) :
      Protocol mode true calls → Protocol mode false (calls ++ [(.tearDown, result)])

/-- A boundary is up when it has come up and has not been taken down since. -/
lemma Protocol.isUp_iff {mode : Mode} {alive : Bool} {calls : List (Call × Except Fault Unit)}
    (h : Protocol mode alive calls) :
    alive = true ↔ (∃ mode', (.bringUp mode', .ok ()) ∈ calls) ∧
      ∀ result, (.tearDown, result) ∉ calls := by
  cases h with
  | untouched => simp
  | refused fault => simp
  | up h =>
      refine iff_of_true rfl ⟨⟨mode, List.mem_cons_self⟩, fun result hmem => ?_⟩
      obtain ⟨⟨⟩⟩ | ⟨_, hmem⟩ := hmem
      obtain ⟨start, goal, ⟨⟩⟩ := h _ hmem
  | down result h =>
      refine iff_of_false nofun fun hup => hup.2 result ?_
      exact List.mem_append_right _ (List.mem_singleton_self _)

/-- A boundary that is up has been called. -/
lemma Protocol.ne_nil {mode : Mode} {calls : List (Call × Except Fault Unit)}
    (h : Protocol mode true calls) : calls ≠ [] := by
  cases h
  exact List.cons_ne_nil _ _

namespace Ledger

variable {entries added : List Entry} {name : ℕ} {call : Call} {result : Except Fault Unit}

/-- Has the boundary with this name come up, and not been taken down since? -/
def IsUp (entries : List Entry) (name : ℕ) : Prop :=
  (∃ mode, ⟨name, .bringUp mode, .ok ()⟩ ∈ entries) ∧
    ∀ result, ⟨name, .tearDown, result⟩ ∉ entries

lemma callsOn_append :
    callsOn (entries ++ added) name = callsOn entries name ++ callsOn added name := by
  simp [callsOn]

lemma callsOn_eq_nil : callsOn entries name = [] ↔ ∀ e ∈ entries, e.name ≠ name := by
  simp [callsOn, List.filter_eq_nil_iff]

/-- A call of the boundary comes after all others. -/
lemma callsOn_concat_self :
    callsOn (entries ++ [⟨name, call, result⟩]) name =
      callsOn entries name ++ [(call, result)] := by
  simp [callsOn]

/-- A call of another boundary is none of this one. -/
lemma callsOn_concat_of_ne {name' : ℕ} (h : name' ≠ name) :
    callsOn (entries ++ [⟨name', call, result⟩]) name = callsOn entries name := by
  simp [callsOn, h]

lemma mem_callsOn : (call, result) ∈ callsOn entries name ↔ ⟨name, call, result⟩ ∈ entries := by
  simp only [callsOn, List.mem_map, List.mem_filter, decide_eq_true_eq, Prod.mk.injEq]
  constructor
  · rintro ⟨e, ⟨he, rfl⟩, rfl, rfl⟩
    exact he
  · intro he
    exact ⟨_, ⟨he, rfl⟩, rfl, rfl⟩

end Ledger

namespace Custody

open Ledger

variable {asked asked' : ℕ → Option Mode} {up : Option ℕ} {entries : List Entry} {name : ℕ}
  {mode : Mode}

/-- More boundaries to be handed over do no harm. -/
lemma mono (h : Custody asked up entries)
    (hasked : ∀ name mode, asked name = some mode → asked' name = some mode) :
    Custody asked' up entries := by
  induction h with
  | empty => exact .empty
  | refused fault _ ha hnew ih => exact ih.refused fault (hasked _ _ ha) hnew
  | broughtUp _ ha hnew ih => exact ih.broughtUp (hasked _ _ ha) hnew
  | announced start goal result _ ih => exact ih.announced start goal result
  | tornDown result _ ih => exact ih.tornDown result

/-- Only boundaries that were to be handed over are called. -/
lemma isSome_asked (h : Custody asked up entries) :
    (∀ e ∈ entries, (asked e.name).isSome = true) ∧ ∀ name ∈ up, (asked name).isSome = true := by
  induction h with
  | empty => simp
  | refused fault _ ha hnew ih => simpa [or_imp, forall_and, ha] using ih.1
  | broughtUp _ ha hnew ih => simpa [or_imp, forall_and, ha] using ih.1
  | announced start goal result _ ih => simpa [or_imp, forall_and] using ih
  | tornDown result _ ih => simpa [or_imp, forall_and] using ih

/-- What came before is a ledger that can come about, too. -/
lemma of_prefix {earlier : List Entry} (h : Custody asked up entries)
    (hearlier : earlier <+: entries) : ∃ up', Custody asked up' earlier := by
  induction h with
  | empty => exact ⟨none, (List.prefix_nil.mp hearlier) ▸ .empty⟩
  | refused fault hc ha hnew ih =>
      rcases List.prefix_concat_iff.mp hearlier with rfl | hp
      · exact ⟨_, hc.refused fault ha hnew⟩
      · exact ih hp
  | broughtUp hc ha hnew ih =>
      rcases List.prefix_concat_iff.mp hearlier with rfl | hp
      · exact ⟨_, hc.broughtUp ha hnew⟩
      · exact ih hp
  | announced start goal result hc ih =>
      rcases List.prefix_concat_iff.mp hearlier with rfl | hp
      · exact ⟨_, hc.announced start goal result⟩
      · exact ih hp
  | tornDown result hc ih =>
      rcases List.prefix_concat_iff.mp hearlier with rfl | hp
      · exact ⟨_, hc.tornDown result⟩
      · exact ih hp

/-- Every boundary is called by the protocol. -/
lemma protocol (h : Custody asked up entries) (hname : asked name = some mode) :
    Protocol mode (up = some name) (callsOn entries name) := by
  induction h with
  | empty => exact .untouched
  | @refused name' mode' entries fault hc ha hnew ih =>
      by_cases hn : name' = name
      · subst hn
        obtain rfl : mode' = mode := Option.some.inj (ha.symm.trans hname)
        rw [callsOn_concat_self, callsOn_eq_nil.mpr hnew]
        exact .refused fault
      · rwa [callsOn_concat_of_ne hn]
  | @broughtUp name' mode' entries hc ha hnew ih =>
      by_cases hn : name' = name
      · subst hn
        obtain rfl : mode' = mode := Option.some.inj (ha.symm.trans hname)
        rw [callsOn_concat_self, callsOn_eq_nil.mpr hnew, decide_eq_true rfl]
        exact .up (by simp)
      · rw [callsOn_concat_of_ne hn]
        simpa [hn] using ih
  | @announced name' entries start goal result hc ih =>
      by_cases hn : name' = name
      · subst hn
        rw [decide_eq_true rfl] at ih ⊢
        rw [callsOn_concat_self]
        generalize callsOn entries name' = calls at ih
        cases ih with
        | up h =>
            refine .up fun c hc => ?_
            rcases List.mem_append.mp hc with hc | hc
            · exact h c hc
            · exact ⟨start, goal, by rw [List.mem_singleton.mp hc]⟩
      · rwa [callsOn_concat_of_ne hn]
  | @tornDown name' entries result hc ih =>
      by_cases hn : name' = name
      · subst hn
        rw [decide_eq_true rfl] at ih
        rw [callsOn_concat_self]
        exact .down result ih
      · rw [callsOn_concat_of_ne hn]
        simpa [hn] using ih

/-- The boundary that is up is the one that came up and was not taken down since. -/
lemma isUp_iff (h : Custody asked up entries) : IsUp entries name ↔ up = some name := by
  cases hname : asked name with
  | some mode =>
      have hup := (h.protocol hname).isUp_iff
      simp only [decide_eq_true_eq, mem_callsOn] at hup
      exact hup.symm
  | none =>
      obtain ⟨hentries, hheld⟩ := h.isSome_asked
      refine iff_of_false ?_ fun hup => ?_
      · rintro ⟨⟨mode, hmem⟩, -⟩
        simpa [hname] using hentries _ hmem
      · simpa [hname] using hheld name hup

/-- At most one boundary is up, now and at every moment before. -/
lemma eq_of_isUp {earlier : List Entry} {i j : ℕ} (h : Custody asked up entries)
    (hearlier : earlier <+: entries) (hi : IsUp earlier i) (hj : IsUp earlier j) : i = j := by
  obtain ⟨up', h'⟩ := h.of_prefix hearlier
  exact Option.some.inj ((h'.isUp_iff.mp hi).symm.trans (h'.isUp_iff.mp hj))

/-- The step: what an operation enters in a ledger gives a ledger that can come about, when a
boundary that it hands over is new. -/
lemma dealt {op : Machine.Operation (Named β)} {up' : Option ℕ} {added : List Entry}
    (h : Custody asked up entries) (hd : Machine.Dealt op up up' added)
    (hop : ∀ b options, op = .bringUp b options →
      asked b.name = some options.mode ∧ ∀ e ∈ entries, e.name ≠ b.name) :
    Custody asked up' (entries ++ added) := by
  cases hd with
  | nothing => rwa [List.append_nil]
  | refused fault =>
      obtain ⟨ha, hnew⟩ := hop _ _ rfl
      exact h.refused fault ha hnew
  | broughtUp =>
      obtain ⟨ha, hnew⟩ := hop _ _ rfl
      exact h.broughtUp ha hnew
  | abandoned result =>
      obtain ⟨ha, hnew⟩ := hop _ _ rfl
      rw [List.append_cons]
      exact (h.broughtUp ha hnew).tornDown result
  | announced _ start goal result => exact h.announced start goal result
  | tornDown result => exact h.tornDown result

end Custody

namespace Machine

open Ledger

/-! ### Whom an operation calls -/

/-- A boundary that is handed over is called unless another one is held. -/
lemma Dealt.callsOn_handed {b : Named β} {options : Options} {up up' : Option ℕ}
    {added : List Entry} (h : Dealt (.bringUp b options) up up' added) :
    callsOn added b.name = [] ↔ up.isSome = true := by
  cases h with
  | nothing hop => exact iff_of_true rfl (hop b options rfl)
  | refused fault => simp [callsOn]
  | broughtUp => simp [callsOn]
  | abandoned result => simp [callsOn]
  | announced hop => exact absurd rfl (hop b options)

/-- Only the boundary that is handed over and the one that is held are called. -/
lemma Dealt.callsOn_other {op : Operation (Named β)} {up up' : Option ℕ} {added : List Entry}
    {name : ℕ} (h : Dealt op up up' added)
    (hop : ∀ b options, op = .bringUp b options → b.name ≠ name) (hup : up ≠ some name) :
    callsOn added name = [] := by
  rw [callsOn_eq_nil]
  cases h with
  | nothing => simp
  | refused fault => simpa using hop _ _ rfl
  | broughtUp => simpa using hop _ _ rfl
  | abandoned result => simpa using hop _ _ rfl
  | announced => simpa using hup
  | tornDown => simpa using hup

/-! ### Runs -/

variable {turns : List (Turn β)} {i : ℕ} {b : β} {options : Options} {mode : Mode}

/-- The mode in which the boundary that is handed over in a turn is to come up. -/
def asked (turns : List (Turn β)) (i : ℕ) : Option Mode :=
  match turns[i]? with
  | some (.operate (.bringUp _ options)) => some options.mode
  | _ => none

lemma asked_of_getElem? (h : turns[i]? = some (.operate (.bringUp b options))) :
    asked turns i = some options.mode := by
  rw [asked, h]

lemma lt_length_of_asked (h : (asked turns i).isSome = true) : i < turns.length := by
  by_contra hlt
  rw [asked, List.getElem?_eq_none (by omega)] at h
  cases h

lemma asked_concat (t : Turn β) (h : asked turns i = some mode) :
    asked (turns ++ [t]) i = some mode := by
  have hlt : i < turns.length := lt_length_of_asked (by rw [h]; rfl)
  rw [asked, List.getElem?_append_left hlt, ← h, asked]

variable [Boundary β μ]

/-- The run: the ledger of every run can come about, and the boundary that is held is the one that
is up. -/
lemma custody (medium : μ) (turns : List (Turn β)) :
    Custody (asked turns) (ledgered medium turns).heldName
      (ledgered medium turns).medium.entries := by
  induction turns using List.reverseRecOn with
  | nil => exact .empty
  | append_singleton turns t ih =>
      have hmono := ih.mono fun _ _ ha => asked_concat t ha
      rw [ledgered_concat]
      cases t with
      | overwrite topology => exact hmono
      | operate op =>
          obtain ⟨added, hadded, hdealt⟩ :=
            (ledgered medium turns).deals_perform (op.map (Named.mk turns.length))
          rw [Turn.map, play, hadded]
          refine hmono.dealt hdealt fun b' options hb' => ?_
          obtain ⟨b, rfl, rfl⟩ := Operation.eq_bringUp_of_map hb'
          refine ⟨asked_of_getElem? List.getElem?_concat_length, fun e he => ?_⟩
          exact (lt_length_of_asked (ih.isSome_asked.1 e he)).ne

/-- A boundary that is handed over is never called exactly when another one is held then. -/
lemma callsOn_ledgered_eq_nil_iff (medium : μ)
    (h : turns[i]? = some (.operate (.bringUp b options))) :
    callsOn (ledgered medium turns).medium.entries i = [] ↔
      (after medium (turns.take i)).boundary.isSome = true := by
  induction turns using List.reverseRecOn with
  | nil => cases h
  | append_singleton turns t ih =>
      have hcustody := custody medium turns
      rw [ledgered_concat]
      rcases lt_or_ge i turns.length with hlt | hge
      · -- a boundary of an earlier turn is called again only while it is held
        rw [List.getElem?_append_left hlt] at h
        rw [List.take_append_of_le_length hlt.le, ← ih h]
        cases t with
        | overwrite topology => exact Iff.rfl
        | operate op =>
            obtain ⟨added, hadded, hdealt⟩ :=
              (ledgered medium turns).deals_perform (op.map (Named.mk turns.length))
            rw [Turn.map, play, hadded, callsOn_append, List.append_eq_nil_iff]
            refine ⟨And.left, fun hnil => ⟨hnil, hdealt.callsOn_other ?_ fun hheld => ?_⟩⟩
            · intro b' options' hb'
              obtain ⟨b', -, rfl⟩ := Operation.eq_bringUp_of_map hb'
              exact hlt.ne'
            · have hprotocol := hcustody.protocol (asked_of_getElem? h)
              rw [hheld, decide_eq_true rfl] at hprotocol
              exact hprotocol.ne_nil hnil
      · -- the boundary of this turn has not been called before
        rw [List.getElem?_append_right hge, List.getElem?_singleton, Option.ite_none_right_eq_some,
          Option.some_inj] at h
        obtain ⟨hplace, rfl⟩ := h
        obtain rfl : i = turns.length := by omega
        have hnew : callsOn (ledgered medium turns).medium.entries turns.length = [] :=
          callsOn_eq_nil.mpr fun e he => (lt_length_of_asked (hcustody.isSome_asked.1 e he)).ne
        obtain ⟨added, hadded, hdealt⟩ :=
          (ledgered medium turns).deals_perform (.bringUp ⟨turns.length, b⟩ options)
        rw [Turn.map, play, Operation.map, hadded, callsOn_append, hnew, List.nil_append,
          List.take_left, hdealt.callsOn_handed, isSome_heldName]

/-- **The protocol of boundaries.** Over boundaries that answer in any way, in every run of turns:
the ledger and the names do not show in the machine; a boundary that is handed over is called by
the protocol, in the mode that its options ask for, and it is not called at all exactly when
another one is held; at no moment are two boundaries up; the boundary that is up at the end is the
one that is held; and it is the one that is taken down with the machine. -/
theorem ledger_protocol (medium : μ) (turns : List (Turn β)) :
    let m := ledgered medium turns
    let entries := m.medium.entries
    m.image Named.forget 0 = after medium turns ∧
      (∀ i b options, turns[i]? = some (.operate (.bringUp b options)) →
        (∃ mode alive, (mode = .full ↔ options.services = true) ∧
          Protocol mode alive (callsOn entries i)) ∧
        (callsOn entries i = [] ↔ (after medium (turns.take i)).boundary.isSome = true)) ∧
      (∀ earlier, earlier <+: entries → ∀ i j, IsUp earlier i → IsUp earlier j → i = j) ∧
      (∀ i, IsUp entries i ↔ m.heldName = some i) ∧
      (m.perform .tearDown).machine.medium.entries =
        entries ++ m.heldName.toList.map fun i =>
          ⟨i, .tearDown, (m.perform .tearDown).result⟩ := by
  intro m entries
  have hcustody : Custody (asked turns) m.heldName entries := custody medium turns
  refine ⟨image_ledgered medium turns, fun i b options h => ⟨?_, ?_⟩, ?_, ?_, m.entries_tearDown⟩
  · refine ⟨options.mode, _, ?_, hcustody.protocol (asked_of_getElem? h)⟩
    rw [Options.mode]
    split_ifs with hservices <;> simp [hservices]
  · exact callsOn_ledgered_eq_nil_iff medium h
  · exact fun earlier hearlier i j hi hj => hcustody.eq_of_isUp hearlier hi hj
  · exact fun i => hcustody.isUp_iff

end Machine

end ManagedNode
