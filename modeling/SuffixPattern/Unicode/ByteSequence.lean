import SuffixPattern.Text

/-!
# SuffixPattern.Unicode.ByteSequence

Ranges of code points as their bytes in UTF-8. A byte sequence has a range for every byte, and
stands for the characters whose bytes lie in the ranges, one by one. A range of code points is cut
where the number of bytes changes and around the surrogates, and then, unless it is ASCII, into
parts that fill whole blocks of 64, 64² and 64³, so that every part is a byte sequence.
-/

namespace SuffixPattern
namespace Unicode

/-- A range for every byte, as its two ends. -/
abbrev ByteSequence := List (UInt8 × UInt8)

namespace ByteSequence

/-- The code points of characters whose number of bytes is the same, as ranges. -/
def sameLength : List (Nat × Nat) :=
  [(0, 0x7f), (0x80, 0x7ff), (0x800, 0xd7ff), (0xe000, 0xffff), (0x10000, 0x10ffff)]

/-- Every byte but the first has 64 values. -/
def blocks : List Nat := [64, 64 * 64, 64 * 64 * 64]

/-- Cuts a range so that every part lies in one block or fills whole blocks, for blocks of each of
the sizes. -/
def divide : List Nat → Nat → Nat → List (Nat × Nat)
  | [], first, last => [(first, last)]
  | size :: larger, first, last =>
    if first / size = last / size then [(first, last)]
    else
      let low := (first + size - 1) / size * size
      let high := (last + 1) / size * size
      (if first < low then [(first, low - 1)] else []) ++
        (if low < high then divide larger low (high - 1) else []) ++
        if high ≤ last then [(high, last)] else []

/-- The bytes of the first and of the last character of a part. -/
def ofPart (part : Nat × Nat) : ByteSequence :=
  (String.utf8EncodeChar (Char.ofNat part.1)).zip (String.utf8EncodeChar (Char.ofNat part.2))

/-- The sequences for the range between two code points, in ascending order. -/
def ofRange (first last : Nat) : List ByteSequence :=
  sameLength.flatMap fun span =>
    let low := max first span.1
    let high := min last span.2
    if low ≤ high then (divide (if high < 128 then [] else blocks) low high).map ofPart else []

end ByteSequence
end Unicode
end SuffixPattern
