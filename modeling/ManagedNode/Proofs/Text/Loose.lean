import Mathlib.Data.List.Forall2
import Mathlib.Data.List.TakeWhile
import ManagedNode.Text.Blank

/-!
Words written loosely: in either case, and between any blanks.

Two alphabets meet here. What is blank is a matter of Unicode, so that blanks may lie far outside of
ASCII; but only ASCII letters have two cases. A text is read by taking its blanks off both ends and
putting its ASCII letters in lower case, and what is left is compared with a word.

* `Blank.characters`: the blanks one by one, and `Blank.isBlank_iff`, that they are those of the table
  of ranges.
* `Blank.exists_trim`, `Blank.trim_eq`: taking blanks off both ends of a text.
* `SameLetter`: two characters that differ in case at most, which is when they have one lower case
  (`toLower_eq_toLower_iff`).
* `Loosely`: a text that is a word written loosely. `loosely_iff` says that this is what is compared.
  Other characters that look like letters or blanks are in no such text (`Loosely.lt_or_blank`), and
  it has no blanks inside (`Loosely.not_blank_between`).
-/

namespace ManagedNode.Text

/-! ### Blanks -/

namespace Blank

variable {c : Char} {cs l r w : List Char}

/-- The characters with the Unicode property `White_Space`. -/
def characters : List Char :=
  ['\t', '\n', '\x0b', '\x0c', '\r', ' ', '\u0085', '\u00a0', '\u1680', '\u2000', '\u2001', '\u2002',
    '\u2003', '\u2004', '\u2005', '\u2006', '\u2007', '\u2008', '\u2009', '\u200a', '\u2028',
    '\u2029', '\u202f', '\u205f', '\u3000']

/-- The table of ranges holds these characters and no others. -/
lemma isBlank_iff : isBlank c = true ↔ c ∈ characters := by
  have hinj : Function.Injective Char.toNat := fun _ _ h => Char.toNat_inj.mp h
  have hnumbers : characters.map Char.toNat =
      [0x09, 0x0A, 0x0B, 0x0C, 0x0D, 0x20, 0x85, 0xA0, 0x1680, 0x2000, 0x2001, 0x2002, 0x2003, 0x2004,
        0x2005, 0x2006, 0x2007, 0x2008, 0x2009, 0x200A, 0x2028, 0x2029, 0x202F, 0x205F, 0x3000] := rfl
  rw [← List.mem_map_of_injective hinj, hnumbers]
  simp only [isBlank, ranges, List.any_cons, List.any_nil, Bool.or_eq_true, Bool.and_eq_true,
    decide_eq_true_eq, Bool.false_eq_true, or_false, List.mem_cons, List.not_mem_nil]
  omega

/-- A text that is only blanks has nothing left. -/
lemma trimLeft_eq_nil (h : ∀ c ∈ cs, isBlank c = true) : trimLeft cs = [] :=
  List.dropWhile_eq_nil_iff.mpr h

/-- What is taken off the front is blank. -/
lemma exists_trimLeft (cs : List Char) :
    ∃ l, cs = l ++ trimLeft cs ∧ ∀ c ∈ l, isBlank c = true :=
  ⟨cs.takeWhile isBlank, List.takeWhile_append_dropWhile.symm, fun _ h => List.mem_takeWhile_imp h⟩

/-- What is taken off the ends is blank. -/
lemma exists_trim (cs : List Char) : ∃ l r, cs = l ++ trim cs ++ r ∧
    (∀ c ∈ l, isBlank c = true) ∧ ∀ c ∈ r, isBlank c = true := by
  obtain ⟨l, hcs, hl⟩ := exists_trimLeft cs
  obtain ⟨r, hrest, hr⟩ := exists_trimLeft (trimLeft cs).reverse
  have hends : trimLeft cs = trim cs ++ r.reverse := by
    rw [trim, ← List.reverse_append, ← hrest, List.reverse_reverse]
  refine ⟨l, r.reverse, ?_, hl, fun c hc => hr c (List.mem_reverse.mp hc)⟩
  rw [List.append_assoc, ← hends, ← hcs]

/-- Nothing is taken off a front that is not blank. -/
lemma trimLeft_append_of_not_blank (hne : w ≠ []) (hw : ∀ c ∈ w, isBlank c = false)
    (cs : List Char) : trimLeft (w ++ cs) = w ++ cs := by
  obtain ⟨c, w, rfl⟩ := List.exists_cons_of_ne_nil hne
  have hc : isBlank c = false := hw c List.mem_cons_self
  rw [List.cons_append, trimLeft, List.dropWhile_cons, hc, if_neg Bool.false_ne_true]

/-- A text without blanks is what is left of it between blanks. -/
lemma trim_eq (hl : ∀ c ∈ l, isBlank c = true) (hw : ∀ c ∈ w, isBlank c = false)
    (hr : ∀ c ∈ r, isBlank c = true) : trim (l ++ w ++ r) = w := by
  have hr' : ∀ c ∈ r.reverse, isBlank c = true := fun c hc => hr c (List.mem_reverse.mp hc)
  have hw' : ∀ c ∈ w.reverse, isBlank c = false := fun c hc => hw c (List.mem_reverse.mp hc)
  rw [trim, List.append_assoc, trimLeft_append_of_blank hl]
  by_cases hne : w = []
  · rw [hne, List.nil_append, trimLeft_eq_nil hr]
    rfl
  · have hback : trimLeft w.reverse = w.reverse := by
      simpa using trimLeft_append_of_not_blank (mt List.reverse_eq_nil_iff.mp hne) hw' []
    rw [trimLeft_append_of_not_blank hne hw, List.reverse_append, trimLeft_append_of_blank hr', hback,
      List.reverse_reverse]

end Blank

/-! ### Letters -/

variable {c d : Char}

/-- One character is a capital ASCII letter, and the other the same letter in lower case. -/
def Capital (c d : Char) : Prop := 'A' ≤ c ∧ c ≤ 'Z' ∧ d.toNat = c.toNat + 32

/-- The characters are the same, up to the case of an ASCII letter. -/
def SameLetter (c d : Char) : Prop := c = d ∨ Capital c d ∨ Capital d c

lemma capital_iff : Capital c d ↔ 65 ≤ c.toNat ∧ c.toNat ≤ 90 ∧ d.toNat = c.toNat + 32 := by
  rw [Capital, Char.le_def, Char.le_def, UInt32.le_iff_toNat_le, UInt32.le_iff_toNat_le]
  exact Iff.rfl

lemma toNat_toLower (c : Char) :
    c.toLower.toNat = if 65 ≤ c.toNat ∧ c.toNat ≤ 90 then c.toNat + 32 else c.toNat := by
  have hcapital : (c.val ≥ 'A'.val ∧ c.val ≤ 'Z'.val) ↔ 65 ≤ c.toNat ∧ c.toNat ≤ 90 := by
    rw [ge_iff_le, UInt32.le_iff_toNat_le, UInt32.le_iff_toNat_le]
    exact Iff.rfl
  delta Char.toLower
  split_ifs with h h' h'
  · have hsmall : c.val.toNat ≤ 90 := h'.2
    have hstep : (32 : UInt32).toNat = 32 := rfl
    change (c.val + 32).toNat = c.val.toNat + 32
    rw [UInt32.toNat_add, hstep, Nat.mod_eq_of_lt (by omega)]
  · exact absurd (hcapital.mp h) h'
  · exact absurd (hcapital.mpr h') h
  · rfl

/-- Two characters have one lower case exactly if they differ in case at most. -/
lemma toLower_eq_toLower_iff : c.toLower = d.toLower ↔ SameLetter c d := by
  rw [← Char.toNat_inj, SameLetter, ← Char.toNat_inj, capital_iff, capital_iff, toNat_toLower,
    toNat_toLower]
  split_ifs <;> omega

/-- No ASCII letter is blank: the ranges of blanks lie below and above them. -/
lemma Blank.not_letter (h : isBlank c = true) : c.toNat < 65 ∨ 122 < c.toNat := by
  have hranges : ∀ r ∈ ranges, r.2 < 65 ∨ 122 < r.1 := by decide
  obtain ⟨r, hr, hc⟩ := List.any_eq_true.mp h
  rw [Bool.and_eq_true, decide_eq_true_eq, decide_eq_true_eq] at hc
  rcases hranges r hr with hbelow | habove <;> omega

/-- Characters that differ in case at most are both blank, or none of them is. -/
lemma SameLetter.isBlank_eq (h : SameLetter c d) : Blank.isBlank c = Blank.isBlank d := by
  have hletter : ∀ e : Char, 65 ≤ e.toNat → e.toNat ≤ 122 → Blank.isBlank e = false := by
    intro e hlow hhigh
    rw [← Bool.not_eq_true]
    intro he
    have := Blank.not_letter he
    omega
  rcases h with rfl | hcapital | hcapital
  · rfl
  · obtain ⟨hlow, hhigh, hd⟩ := capital_iff.mp hcapital
    rw [hletter c hlow (by omega), hletter d (by omega) (by omega)]
  · obtain ⟨hlow, hhigh, hc⟩ := capital_iff.mp hcapital
    rw [hletter c (by omega) (by omega), hletter d hlow (by omega)]

/-- No character is the other case of one in ASCII without being in ASCII itself. -/
lemma SameLetter.lt_of_lt (h : SameLetter c d) (hd : d.toNat < 128) : c.toNat < 128 := by
  rcases h with rfl | hcapital | hcapital
  · exact hd
  · have := (capital_iff.mp hcapital).2.1
    omega
  · have := (capital_iff.mp hcapital).2
    omega

/-! ### Words -/

/-- The value is the word, in ASCII letters of either case, between any blanks. -/
def Loosely (word value : String) : Prop :=
  ∃ l w r : String, value = l ++ w ++ r ∧ (∀ c ∈ l.toList, c ∈ Blank.characters) ∧
    (∀ c ∈ r.toList, c ∈ Blank.characters) ∧ List.Forall₂ SameLetter w.toList word.toList

/-- The word is in ASCII, and has neither blanks nor capitals. -/
def Plain (word : String) : Prop :=
  ∀ c ∈ word.toList, c.toNat < 128 ∧ Blank.isBlank c = false ∧ c.toLower = c

-- Only the characters of the word are gone through; a search may come upon a way through all of them.
instance (word : String) : Decidable (Plain word) :=
  List.decidableBAll (fun c : Char => c.toNat < 128 ∧ Blank.isBlank c = false ∧ c.toLower = c)
    word.toList

/-- Texts have one lower case if they differ in case at most, character by character. -/
lemma map_toLower_eq_iff {w word : List Char} :
    w.map Char.toLower = word.map Char.toLower ↔ List.Forall₂ SameLetter w word := by
  rw [← List.forall₂_eq_eq_eq, List.forall₂_map_left_iff, List.forall₂_map_right_iff]
  simp only [toLower_eq_toLower_iff]

/-- What no change of case takes away from a character is kept by texts as well. -/
lemma forall_of_sameLetter {P : Char → Prop} (hP : ∀ {c d}, SameLetter c d → P d → P c)
    {w word : List Char} (h : List.Forall₂ SameLetter w word) (hword : ∀ d ∈ word, P d) :
    ∀ c ∈ w, P c := by
  induction h with
  | nil => exact hword
  | cons hcd _ ih =>
      rw [List.forall_mem_cons] at hword ⊢
      exact ⟨hP hcd hword.1, ih hword.2⟩

/-- There are no blanks in a text that differs in case only from one without blanks. -/
lemma not_blank_of_sameLetter {w word : List Char} (h : List.Forall₂ SameLetter w word)
    (hword : ∀ c ∈ word, Blank.isBlank c = false) : ∀ c ∈ w, Blank.isBlank c = false :=
  forall_of_sameLetter (fun hcd hd => hcd.isBlank_eq.trans hd) h hword

/-- What is left of a text without its blanks and its capitals is a plain word exactly if the text is
this word written loosely. -/
lemma loosely_iff {word value : String} (hword : Plain word) :
    Loosely word value ↔ (Blank.trim value.toList).map Char.toLower = word.toList := by
  have hlower : word.toList.map Char.toLower = word.toList := by
    conv_rhs => rw [← List.map_id word.toList]
    exact List.map_congr_left fun c hc => (hword c hc).2.2
  constructor
  · rintro ⟨l, w, r, rfl, hl, hr, hletters⟩
    have hw : ∀ c ∈ w.toList, Blank.isBlank c = false :=
      not_blank_of_sameLetter hletters fun c hc => (hword c hc).2.1
    rw [String.toList_append, String.toList_append,
      Blank.trim_eq (fun c hc => Blank.isBlank_iff.mpr (hl c hc)) hw
        (fun c hc => Blank.isBlank_iff.mpr (hr c hc)),
      map_toLower_eq_iff.mpr hletters, hlower]
  · intro h
    obtain ⟨l, r, hvalue, hl, hr⟩ := Blank.exists_trim value.toList
    refine ⟨String.ofList l, String.ofList (Blank.trim value.toList), String.ofList r, ?_, ?_, ?_, ?_⟩
    · rw [← String.ofList_append, ← String.ofList_append, ← hvalue, String.ofList_toList]
    · rw [String.toList_ofList]
      exact fun c hc => Blank.isBlank_iff.mp (hl c hc)
    · rw [String.toList_ofList]
      exact fun c hc => Blank.isBlank_iff.mp (hr c hc)
    · rw [String.toList_ofList, ← map_toLower_eq_iff, h, hlower]

/-! ### What is no such word -/

/-- Characters that are neither in ASCII nor blank are in no value that is a plain word, however much
they look like its letters, or like blanks. -/
lemma Loosely.lt_or_blank {word value : String} (h : Loosely word value) (hword : Plain word)
    (hc : c ∈ value.toList) :
    c.toNat < 128 ∨ c ∈ Blank.characters := by
  obtain ⟨l, w, r, rfl, hl, hr, hletters⟩ := h
  rw [String.toList_append, String.toList_append, List.mem_append, List.mem_append] at hc
  rcases hc with (hc | hc) | hc
  · exact Or.inr (hl c hc)
  · have hascii : ∀ d ∈ word.toList, d.toNat < 128 := fun d hd => (hword d hd).1
    exact Or.inl (forall_of_sameLetter SameLetter.lt_of_lt hletters hascii c hc)
  · exact Or.inr (hr c hc)

/-- Between two characters of a plain word nothing is blank. -/
lemma Loosely.not_blank_between {word value : String} (h : Loosely word value) (hword : Plain word)
    {i j k : ℕ} (hij : i ≤ j) (hjk : j ≤ k) {x y z : Char} (hx : value.toList[i]? = some x)
    (hy : value.toList[j]? = some y) (hz : value.toList[k]? = some z)
    (hxblank : x ∉ Blank.characters) (hzblank : z ∉ Blank.characters) : y ∉ Blank.characters := by
  obtain ⟨l, w, r, rfl, hl, hr, hletters⟩ := h
  have hw := not_blank_of_sameLetter hletters fun c hc => (hword c hc).2.1
  rw [String.toList_append, String.toList_append] at hx hy hz
  have hi : l.toList.length ≤ i := by
    by_contra hlt
    rw [List.append_assoc, List.getElem?_append_left (Nat.lt_of_not_le hlt)] at hx
    exact hxblank (hl x (List.mem_of_getElem? hx))
  have hk : k < (l.toList ++ w.toList).length := by
    by_contra hle
    rw [List.getElem?_append_right (Nat.le_of_not_lt hle)] at hz
    exact hzblank (hr z (List.mem_of_getElem? hz))
  rw [List.getElem?_append_left (Nat.lt_of_le_of_lt hjk hk),
    List.getElem?_append_right (Nat.le_trans hi hij)] at hy
  rw [← Blank.isBlank_iff, hw y (List.mem_of_getElem? hy)]
  exact Bool.false_ne_true

end ManagedNode.Text
