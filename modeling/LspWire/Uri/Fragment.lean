import LspWire.Uri.Basic

/-!
# Replacing a fragment

An old fragment is cut off by its length, and the text before it is kept as it is. A new fragment is given as plain
text: the characters that a fragment allows stand for themselves, every other character, `%` included, is written as its
UTF-8 bytes in percent triplets with upper-case digits.
-/

namespace LspWire.Uri

/-- An upper-case hexadecimal digit. -/
def upperHex (n : Nat) : Char := ((Nat.toDigits 16 n).headD '0').toUpper

/-- A byte as a percent triplet. -/
def triplet (b : UInt8) : List Char :=
  ['%', upperHex (b.toNat / 16), upperHex (b.toNat % 16)]

/-- A character of a fragment's plain text. -/
def encodeChar (c : Char) : List Char :=
  if isFragmentChar c then [c] else (String.utf8EncodeChar c).flatMap triplet

/-- A plain text as a fragment. -/
def encodeFragment (cs : List Char) : List Char := cs.flatMap encodeChar

/-- The text without its fragment: as many characters as the fragment has, and its mark, are cut off at the end. -/
def base (u : Uri) : List Char :=
  match u.parts.fragment with
  | none => u.text.toList
  | some f => u.text.toList.take (u.text.toList.length - (f.length + 1))

/-- The reference with its fragment replaced, or removed. -/
def withFragment (u : Uri) : Option String → Except Invalid Uri
  | none => parse (String.ofList u.base)
  | some f => parse (String.ofList (u.base ++ '#' :: encodeFragment f.toList))

end LspWire.Uri
