import ManagedNode.Options
import ManagedNode.Proofs.Text.Loose

/-!
What the options of a machine are read from.

Two variables say what is brought up. A value that is no word for yes or no is not refused: the
variable counts as unset, so that the option has its default. How variables are looked up is left to
the host, which may answer otherwise each time it is asked. An environment holds bytes, and these need
not be text.

* `Options.SaysOn`, `Options.SaysOff`: the grammar of the values. `Options.readSwitch` accepts these
  and nothing else (`Options.readSwitch_eq_some_true_iff`, `Options.readSwitch_eq_some_false_iff`).
* `Options.Sets`: what a switch is set to by the value of its variable.
* `Options.Holds`: the text that a variable of an environment holds.
* `Options.Understood`, `Options.Heeds`, `Options.HeedsEnvironment`: what is made of a value, of any
  way of looking variables up, and of an environment; `Options.read_by_grammar`.
-/

namespace ManagedNode

namespace Options

open Text

variable {value : String} {fallback b : Bool}

/-! ### Values -/

/-- The value is a word for yes, written loosely. -/
def SaysOn (value : String) : Prop := ∃ word ∈ ["1", "true", "yes", "on"], Loosely word value

/-- The value is a word for no, written loosely. -/
def SaysOff (value : String) : Prop := ∃ word ∈ ["0", "false", "no", "off"], Loosely word value

/-- The canonical form of a value is one of some plain words exactly if the value is one of them
written loosely. -/
lemma canonicalWord_mem_iff {words : List String} (hwords : ∀ word ∈ words, Plain word) :
    canonicalWord value ∈ words ↔ ∃ word ∈ words, Loosely word value := by
  have hword : ∀ word ∈ words, (Loosely word value ↔ canonicalWord value = word) := by
    intro word hmem
    rw [loosely_iff (hwords word hmem), canonicalWord, ← String.toList_inj, String.toList_ofList]
  constructor
  · exact fun h => ⟨_, h, (hword _ h).mpr rfl⟩
  · rintro ⟨word, hmem, hloose⟩
    exact (hword word hmem).mp hloose ▸ hmem

lemma plain_of_mem_onWords : ∀ word ∈ onWords, Plain word := by decide

lemma plain_of_mem_offWords : ∀ word ∈ offWords, Plain word := by decide

lemma readSwitch_eq_some_true_iff : readSwitch value = some true ↔ SaysOn value := by
  have hon : canonicalWord value ∈ onWords ↔ SaysOn value :=
    canonicalWord_mem_iff plain_of_mem_onWords
  rw [readSwitch, ← hon]
  split_ifs <;> simp_all

/-- No word is both for yes and for no, so that the order of the two questions does not matter. -/
lemma readSwitch_eq_some_false_iff : readSwitch value = some false ↔ SaysOff value := by
  have hoff : canonicalWord value ∈ offWords ↔ SaysOff value :=
    canonicalWord_mem_iff plain_of_mem_offWords
  have hapart : ∀ word ∈ onWords, word ∉ offWords := by decide
  have hmem := hapart (canonicalWord value)
  rw [readSwitch, ← hoff]
  split_ifs <;> simp_all

lemma readSwitch_eq_none_iff : readSwitch value = none ↔ ¬SaysOn value ∧ ¬SaysOff value := by
  rw [← readSwitch_eq_some_true_iff, ← readSwitch_eq_some_false_iff]
  cases readSwitch value with
  | none => simp
  | some b => cases b <;> simp

/-- Every value that is understood is a plain word written loosely. -/
lemma exists_loosely (h : readSwitch value ≠ none) : ∃ word, Plain word ∧ Loosely word value := by
  by_cases hon : SaysOn value
  · obtain ⟨word, hmem, hloose⟩ := hon
    exact ⟨word, plain_of_mem_onWords word hmem, hloose⟩
  · obtain ⟨word, hmem, hloose⟩ : SaysOff value := by
      by_contra hoff
      exact h (readSwitch_eq_none_iff.mpr ⟨hon, hoff⟩)
    exact ⟨word, plain_of_mem_offWords word hmem, hloose⟩

/-! ### Switches -/

/-- What a switch is set to by the value of its variable, if that is set. -/
inductive Sets (fallback : Bool) : Option String → Bool → Prop
  | unset : Sets fallback none fallback
  | on {value : String} : SaysOn value → Sets fallback (some value) true
  | off {value : String} : SaysOff value → Sets fallback (some value) false
  | other {value : String} : ¬SaysOn value → ¬SaysOff value → Sets fallback (some value) fallback

/-- A switch is set to one thing by each value, and to nothing else. -/
lemma switchOr_eq_iff {value : Option String} : switchOr fallback value = b ↔ Sets fallback value b := by
  constructor
  · rintro rfl
    cases value with
    | none => exact .unset
    | some value =>
        rw [switchOr, Option.bind_some]
        cases hread : readSwitch value with
        | none =>
            obtain ⟨hon, hoff⟩ := readSwitch_eq_none_iff.mp hread
            exact .other hon hoff
        | some b =>
            cases b with
            | true => exact .on (readSwitch_eq_some_true_iff.mp hread)
            | false => exact .off (readSwitch_eq_some_false_iff.mp hread)
  · intro h
    cases h with
    | unset => rfl
    | on hon => rw [switchOr, Option.bind_some, readSwitch_eq_some_true_iff.mpr hon, Option.getD_some]
    | off hoff =>
        rw [switchOr, Option.bind_some, readSwitch_eq_some_false_iff.mpr hoff, Option.getD_some]
    | other hon hoff =>
        rw [switchOr, Option.bind_some, readSwitch_eq_none_iff.mpr ⟨hon, hoff⟩, Option.getD_none]

/-- The options are read from these values of the two variables, each option from its own. -/
structure ReadFrom (services standardStates : Option String) (o : Options) : Prop where
  services_eq_iff : ∀ b, o.services = b ↔ Sets ({} : Options).services services b
  standardStates_eq_iff :
    ∀ b, o.standardStates = b ↔ Sets ({} : Options).standardStates standardStates b

lemma readFrom_switchOr (services standardStates : Option String) :
    ReadFrom services standardStates ⟨switchOr true services, switchOr true standardStates⟩ :=
  ⟨fun _ => switchOr_eq_iff, fun _ => switchOr_eq_iff⟩

namespace ReadFrom

variable {services services' standardStates standardStates' : Option String} {o o' : Options}

lemma services_eq (h : ReadFrom services standardStates o)
    (h' : ReadFrom services standardStates' o') : o.services = o'.services :=
  (h.services_eq_iff _).mpr ((h'.services_eq_iff _).mp rfl)

lemma standardStates_eq (h : ReadFrom services standardStates o)
    (h' : ReadFrom services' standardStates o') : o.standardStates = o'.standardStates :=
  (h.standardStates_eq_iff _).mpr ((h'.standardStates_eq_iff _).mp rfl)

end ReadFrom

/-! ### Looking variables up -/

section Lookup

variable {σ : Type} (ask : String → StateM σ (Option String)) (s : σ)

/-- The host's answer when it is asked for the first variable, and its state after that. -/
def servicesAnswer : Option String × σ := (ask servicesVariable).run s

/-- The answer when he is asked for the second variable after that. -/
def standardStatesAnswer : Option String × σ :=
  (ask standardStatesVariable).run (servicesAnswer ask s).2

/-- The same host, which also notes down what it is asked for. -/
def noting (name : String) : StateM (σ × List String) (Option String) := do
  let (s, asked) ← get
  let (answer, s) := (ask name).run s
  set (s, asked ++ [name])
  return answer

/-- What is made of the host's answers. -/
structure Heeds : Prop where
  /-- Both variables are asked for, once each. -/
  asked_eq : ((ofLookup (noting ask)).run (s, [])).2.2 =
    ["RCL_LIFECYCLE_ENABLE_COM_INTERFACE", "RCL_LIFECYCLE_INITIALIZE_DEFAULT_STATES"]
  /-- Nothing is asked for after the second answer. -/
  state_eq : ((ofLookup ask).run s).2 = (standardStatesAnswer ask s).2
  readFrom : ReadFrom (servicesAnswer ask s).1 (standardStatesAnswer ask s).1 ((ofLookup ask).run s).1
  /-- The answer to one question has no part in the other option. -/
  services_eq : ∀ (ask' : String → StateM σ (Option String)) (s' : σ),
    (servicesAnswer ask' s').1 = (servicesAnswer ask s).1 →
      ((ofLookup ask').run s').1.services = ((ofLookup ask).run s).1.services
  standardStates_eq : ∀ (ask' : String → StateM σ (Option String)) (s' : σ),
    (standardStatesAnswer ask' s').1 = (standardStatesAnswer ask s).1 →
      ((ofLookup ask').run s').1.standardStates = ((ofLookup ask).run s).1.standardStates

lemma readFrom_ofLookup :
    ReadFrom (servicesAnswer ask s).1 (standardStatesAnswer ask s).1 ((ofLookup ask).run s).1 :=
  readFrom_switchOr _ _

lemma heeds : Heeds ask s where
  asked_eq := rfl
  state_eq := rfl
  readFrom := readFrom_ofLookup ask s
  services_eq := fun ask' s' h =>
    (h ▸ readFrom_ofLookup ask' s').services_eq (readFrom_ofLookup ask s)
  standardStates_eq := fun ask' s' h =>
    (h ▸ readFrom_ofLookup ask' s').standardStates_eq (readFrom_ofLookup ask s)

end Lookup

/-! ### Environments -/

section Environment

variable {environment : String → Option ByteArray} {name : String} {bytes : ByteArray}

/-- The text that a variable of an environment holds: none if it is unset, and none if its bytes are
the UTF-8 form of no text. -/
inductive Holds (environment : String → Option ByteArray) (name : String) : Option String → Prop
  | text {value : String} : environment name = some value.toUTF8 →
      Holds environment name (some value)
  | unset : environment name = none → Holds environment name none
  | garbled {bytes : ByteArray} : environment name = some bytes →
      (∀ value : String, value.toUTF8 ≠ bytes) → Holds environment name none

lemma fromUTF8?_eq_some_iff : String.fromUTF8? bytes = some value ↔ value.toUTF8 = bytes := by
  rw [String.fromUTF8?]
  constructor
  · intro h
    split_ifs at h with hvalid
    rw [← Option.some.inj h]
    rfl
  · rintro rfl
    exact dif_pos value.isValidUTF8

lemma fromUTF8?_eq_none_iff : String.fromUTF8? bytes = none ↔ ∀ value : String, value.toUTF8 ≠ bytes := by
  simp only [Option.eq_none_iff_forall_ne_some, ne_eq, fromUTF8?_eq_some_iff]

/-- What is read of a variable is what it holds. -/
lemma bind_fromUTF8?_eq_iff {value : Option String} :
    (environment name).bind String.fromUTF8? = value ↔ Holds environment name value := by
  constructor
  · rintro rfl
    cases hname : environment name with
    | none => exact .unset hname
    | some bytes =>
        rw [Option.bind_some]
        cases hread : String.fromUTF8? bytes with
        | none => exact .garbled hname (fromUTF8?_eq_none_iff.mp hread)
        | some value => exact .text (hname.trans (congrArg some (fromUTF8?_eq_some_iff.mp hread).symm))
  · intro h
    cases h with
    | text hname => rw [hname, Option.bind_some, fromUTF8?_eq_some_iff]
    | unset hname => rw [hname, Option.bind_none]
    | garbled hname hnone => rw [hname, Option.bind_some, fromUTF8?_eq_none_iff.mpr hnone]

/-- What is made of an environment. -/
structure HeedsEnvironment (environment : String → Option ByteArray) : Prop where
  existsUnique_holds : ∀ name, ∃! value, Holds environment name value
  readFrom : ∀ services standardStates, Holds environment servicesVariable services →
    Holds environment standardStatesVariable standardStates →
      ReadFrom services standardStates (ofEnvironment environment)

lemma heedsEnvironment (environment : String → Option ByteArray) : HeedsEnvironment environment where
  existsUnique_holds := by
    intro name
    simp only [← bind_fromUTF8?_eq_iff]
    exact ⟨_, rfl, fun _ h => h.symm⟩
  readFrom := by
    intro services standardStates hservices hstandardStates
    rw [← bind_fromUTF8?_eq_iff] at hservices hstandardStates
    rw [ofEnvironment, ofLookup_id, hservices, hstandardStates]
    exact readFrom_switchOr services standardStates

end Environment

/-! ### The grammar -/

/-- How a value is understood: by the grammar, and no other way. -/
structure Understood (value : String) : Prop where
  on_iff : readSwitch value = some true ↔ SaysOn value
  off_iff : readSwitch value = some false ↔ SaysOff value
  /-- A character that only looks like a letter, or like a blank, spoils the value. -/
  of_stranger : ∀ c ∈ value.toList, 128 ≤ c.toNat → c ∉ Blank.characters → readSwitch value = none
  /-- So does a blank between two characters that are none. -/
  of_gap : ∀ (i j k : ℕ) x y z, i < j → j < k → value.toList[i]? = some x →
    value.toList[j]? = some y → value.toList[k]? = some z → x ∉ Blank.characters →
      y ∈ Blank.characters → z ∉ Blank.characters → readSwitch value = none

lemma understood (value : String) : Understood value where
  on_iff := readSwitch_eq_some_true_iff
  off_iff := readSwitch_eq_some_false_iff
  of_stranger := by
    intro c hc hascii hblank
    by_contra h
    obtain ⟨word, hword, hloose⟩ := exists_loosely h
    rcases hloose.lt_or_blank hword hc with hlt | hc
    · exact Nat.not_lt.mpr hascii hlt
    · exact hblank hc
  of_gap := by
    intro i j k x y z hij hjk hx hy hz hxblank hyblank hzblank
    by_contra h
    obtain ⟨word, hword, hloose⟩ := exists_loosely h
    exact hloose.not_blank_between hword hij.le hjk.le hx hy hz hxblank hzblank hyblank

/-- **Options are read by the grammar of their values**, each from its own variable, whichever way
variables are looked up, and from environments of bytes as from text. -/
theorem read_by_grammar :
    (∀ value, Understood value) ∧
      (∀ (σ : Type) (ask : String → StateM σ (Option String)) (s : σ), Heeds ask s) ∧
        ∀ environment, HeedsEnvironment environment :=
  ⟨understood, fun _ => heeds, heedsEnvironment⟩

/-- A word between an ideographic blank and a tab, and three near misses. -/
example :
    readSwitch "\u3000YeS\t" = some true ∧ readSwitch "ye\u017f" = none ∧
      readSwitch "\u200bon" = none ∧ readSwitch "o n" = none := by decide

end Options

end ManagedNode
