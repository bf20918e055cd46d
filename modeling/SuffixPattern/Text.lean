/-!
# SuffixPattern.Text

A text is the list of its characters, one per code point. Order between texts is lexicographic by
code point. This module holds the plain operations on texts: cutting at a separator, cutting into
lines, numerals.
-/

namespace SuffixPattern

abbrev Text := List Char

namespace Text

/-- Number of bytes of the text in UTF-8. -/
def byteLength : Text → Nat
  | [] => 0
  | c :: rest => c.utf8Size + byteLength rest

def isAscii (t : Text) : Bool :=
  t.all fun c => c.toNat < 128

/-- Lower-cases the ASCII letters only. -/
def lowerAscii (t : Text) : Text :=
  t.map Char.toLower

/-! ## Cutting -/

/-- The pieces between the separators: one more than there are separators. -/
def pieces (sep : Char) : Text → List Text
  | [] => [[]]
  | c :: rest =>
    if c = sep then [] :: pieces sep rest
    else
      match pieces sep rest with
      | [] => [[c]]
      | piece :: more => (c :: piece) :: more

/-- The text before the first separator, and the text after it if there is one. -/
def cutAt (sep : Char) : Text → Text × Option Text
  | [] => ([], none)
  | c :: rest =>
    if c = sep then ([], some rest)
    else (c :: (cutAt sep rest).1, (cutAt sep rest).2)

/-- A line ends at a line feed, with at most one carriage return before it. What follows the last
line feed is a line only if it is not empty. -/
def lines : Text → List Text
  | [] => []
  | '\r' :: '\n' :: rest => [] :: lines rest
  | '\n' :: rest => [] :: lines rest
  | c :: rest =>
    match lines rest with
    | [] => [[c]]
    | line :: more => (c :: line) :: more

def join (sep : Text) : List Text → Text
  | [] => []
  | [t] => t
  | t :: rest => t ++ sep ++ join sep rest

/-! ## Trimming -/

def trimEnd (blank : Char → Bool) (t : Text) : Text :=
  (t.reverse.dropWhile blank).reverse

def trim (blank : Char → Bool) (t : Text) : Text :=
  trimEnd blank (t.dropWhile blank)

/-! ## Numerals -/

/-- Hexadecimal digits in lower case, without padding. -/
def hex (n : Nat) : Text :=
  Nat.toDigits 16 n

/-- Hexadecimal digits in upper case, without padding. -/
def hexUpper (n : Nat) : Text :=
  (hex n).map Char.toUpper

/-- The value of a hexadecimal digit. -/
def hexDigit? (c : Char) : Option Nat :=
  if '0' ≤ c ∧ c ≤ '9' then some (c.toNat - '0'.toNat)
  else if 'a' ≤ c ∧ c ≤ 'f' then some (c.toNat - 'a'.toNat + 10)
  else if 'A' ≤ c ∧ c ≤ 'F' then some (c.toNat - 'A'.toNat + 10)
  else none

/-- The number written in hexadecimal digits, if there is at least one and nothing else. -/
def ofHex? : Text → Option Nat
  | [] => none
  | digits => digits.foldl (fun n c => n.bind fun m => (hexDigit? c).map (16 * m + ·)) (some 0)

end Text
end SuffixPattern
