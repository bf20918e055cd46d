import SuffixPattern.Text

/-!
# SuffixPattern.Unicode.Table

Properties of characters as tables of closed code point ranges in ascending order.

A table is written as words in hexadecimal: `41-5a` is a range, `aa` a single code point, `41,300` a
pair of code points, and what follows an equals sign is the value shared by the range. Looking a
character up is a binary search.
-/

namespace SuffixPattern
namespace Unicode

structure Table (α : Type) where
  rows : Array (Nat × Nat × α)

namespace Table

/-- Binary search among the rows from `lo` up to, but not including, `hi`. -/
def search {α : Type} (rows : Array (Nat × Nat × α)) (n lo hi : Nat) : Option α :=
  if lo < hi then
    match rows[(lo + hi) / 2]? with
    | none => none
    | some (first, last, a) =>
      if n < first then search rows n lo ((lo + hi) / 2)
      else if last < n then search rows n ((lo + hi) / 2 + 1) hi
      else some a
  else none
termination_by hi - lo

def find? {α : Type} (t : Table α) (n : Nat) : Option α :=
  search t.rows n 0 t.rows.size

/-- The value of the range that holds the character. -/
def get? {α : Type} (t : Table α) (c : Char) : Option α :=
  t.find? c.toNat

def contains {α : Type} (t : Table α) (c : Char) : Bool :=
  (t.get? c).isSome

/-- Pairs of code points are ordered by the first, then by the second. -/
def pairKey (a b : Nat) : Nat :=
  a * 0x200000 + b

/-! ## Reading the written form -/

/-- A comma separated list of code points. -/
def codes (t : Text) : List Nat :=
  (Text.pieces ',' t).filterMap Text.ofHex?

def characters (t : Text) : Text :=
  (codes t).map Char.ofNat

def key? (t : Text) : Option Nat :=
  match codes t with
  | [n] => some n
  | [a, b] => some (pairKey a b)
  | _ => none

def row {α : Type} (value : Option Text → α) (word : Text) : Option (Nat × Nat × α) :=
  let (key, given) := word.cutAt '='
  let (first, last) := key.cutAt '-'
  (key? first).map fun n => (n, (last.bind key?).getD n, value given)

/-- Reads a table; `value` interprets what stands after the equals sign, if there is one. -/
def read {α : Type} (value : Option Text → α) (source : String) : Table α :=
  let words := (Text.pieces '\n' source.toList).flatMap (Text.pieces ' ')
  ⟨(words.filterMap (row value)).toArray⟩

/-- A table without values: membership is all that it tells. -/
def ranges (source : String) : Table Unit :=
  read (fun _ => ()) source

end Table
end Unicode
end SuffixPattern
