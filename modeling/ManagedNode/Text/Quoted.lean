import ManagedNode.Text.Unprintable

/-!
Quoted labels, as they stand in the summary of a machine: a pair of double quotes around the text,
in which the quote itself, the backslash and every character that would not show as itself are
escaped.

* `Quoted.escapeLetter?`: the characters that are escaped by a letter of their own.
* `Quoted.encode`: a text with its quotes. Characters without a letter are escaped by their number.
-/

namespace ManagedNode.Text

namespace Quoted

/-- The letter that stands for a character after a backslash, if there is one. -/
def escapeLetter? : Char → Option Char
  | '"' => some '"'
  | '\\' => some '\\'
  | '\n' => some 'n'
  | '\t' => some 't'
  | '\r' => some 'r'
  | '\x00' => some '0'
  | _ => none

/-- The number of a character, in hexadecimal digits between braces. -/
def encodeNumber (c : Char) : List Char :=
  ['\\', 'u', '\x7b'] ++ Nat.toDigits 16 c.toNat ++ ['\x7d']

/-- The written form of one character. -/
def encodeChar (c : Char) : List Char :=
  match escapeLetter? c with
  | some e => ['\\', e]
  | none => if Unprintable.isUnprintable c then encodeNumber c else [c]

/-- The written form of a text, with its quotes. -/
def encode (s : String) : String :=
  String.ofList ('"' :: s.toList.flatMap encodeChar ++ ['"'])

/-- An accent of its own and a blank that is not broken are escaped, an accented letter is not. -/
example : encode "e\u0301\t\u00a0\u00e9" = "\"e\\u\x7b301\x7d\\t\\u\x7ba0\x7d\u00e9\"" := by
  decide +kernel

end Quoted

end ManagedNode.Text
