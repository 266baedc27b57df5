/-!
Blank characters, and taking them off both ends of a text.

* `Blank.ranges`: the code points with the Unicode property `White_Space`, as ascending ranges.
* `Blank.trim`: the text between its first and its last character that is not blank.
-/

namespace ManagedNode.Text

namespace Blank

/-- The ranges of code points with the property `White_Space`, both ends included. -/
def ranges : List (Nat × Nat) :=
  [(0x0009, 0x000D), (0x0020, 0x0020), (0x0085, 0x0085), (0x00A0, 0x00A0), (0x1680, 0x1680),
    (0x2000, 0x200A), (0x2028, 0x2029), (0x202F, 0x202F), (0x205F, 0x205F), (0x3000, 0x3000)]

/-- Does the character have the property `White_Space`? -/
def isBlank (c : Char) : Bool :=
  ranges.any fun r => r.1 ≤ c.toNat && c.toNat ≤ r.2

/-- Take the blanks off the front. -/
def trimLeft (cs : List Char) : List Char := cs.dropWhile isBlank

/-- Take the blanks off both ends. -/
def trim (cs : List Char) : List Char := (trimLeft (trimLeft cs).reverse).reverse

/-- Blanks in front of a text do not count. -/
theorem trimLeft_append_of_blank {l : List Char} (h : ∀ c ∈ l, isBlank c = true)
    (cs : List Char) : trimLeft (l ++ cs) = trimLeft cs := by
  induction l with
  | nil => rfl
  | cons c l ih =>
      have hc : isBlank c = true := h c (by simp)
      rw [trimLeft, List.cons_append, List.dropWhile_cons, if_pos hc]
      exact ih fun d hd => h d (by simp [hd])

end Blank

end ManagedNode.Text
