import SuffixPattern.Regex.Expr
import SuffixPattern.Unicode.ByteSequence

/-!
# SuffixPattern.Regex.Limits

How large an expression may be. It must not be nested too deeply (`Expr.depth`), and the automaton
for it must not need too much memory (`Expr.room`). The automaton that counts is the one that takes
in the bytes of a text from the last to the first: it has a state of its own for every first part of
a byte sequence.
-/

namespace SuffixPattern
namespace Regex

namespace ClassItem

def first : ClassItem → Nat
  | .single c => c.toNat
  | .range c _ => c.toNat

def last : ClassItem → Nat
  | .single c => c.toNat
  | .range _ c => c.toNat

end ClassItem

/-! ## Ranges of code points -/

/-- Takes a range in among disjoint ones, which are kept last first and begin no later. -/
def absorb (ranges : List (Nat × Nat)) (range : Nat × Nat) : List (Nat × Nat) :=
  match ranges with
  | [] => [range]
  | (first, last) :: before =>
    if range.1 ≤ last + 1 then (first, max last range.2) :: before
    else range :: (first, last) :: before

/-- The same code points in as few ranges as possible, in ascending order. -/
def disjointRanges (ranges : List (Nat × Nat)) : List (Nat × Nat) :=
  ((ranges.mergeSort fun a b => a.1 ≤ b.1).foldl absorb []).reverse

def lastCodePoint : Nat := 0x10ffff

/-- The code points from `next` on that are outside ascending ranges. -/
def outsideRanges (next : Nat) : List (Nat × Nat) → List (Nat × Nat)
  | [] => if next ≤ lastCodePoint then [(next, lastCodePoint)] else []
  | (first, last) :: rest =>
    (if next < first then [(next, first - 1)] else []) ++ outsideRanges (last + 1) rest

/-- The code points in a class. -/
def classRanges (negated : Bool) (items : List ClassItem) : List (Nat × Nat) :=
  let ranges := disjointRanges (items.map fun item => (item.first, item.last))
  if negated then outsideRanges 0 ranges else ranges

/-! ## Memory -/

/-- The bytes that a state takes, and what it takes more for every way on: by a range of bytes, or
without a byte. -/
def stateRoom : Nat := 32

def rangeRoom : Nat := 8

def jumpRoom : Nat := 4

/-- How many ranges of a sequence come after those that it shares with the one before it. -/
def freshRanges : Unicode.ByteSequence → Unicode.ByteSequence → Nat
  | p :: ps, q :: qs => if p = q then freshRanges ps qs else qs.length + 1
  | _, qs => qs.length

/-- A single character needs a state for every byte, and ASCII ranges are ways on from one state.
All else is a choice between byte sequences. -/
def rangesRoom (ranges : List (Nat × Nat)) : Nat :=
  match ranges with
  | [(n, m)] =>
    if n = m then stateRoom * (Char.ofNat n).utf8Size else choiceRoom ranges
  | _ => choiceRoom ranges
where
  choiceRoom (ranges : List (Nat × Nat)) : Nat :=
    if ranges.all (·.2 < 128) then 2 * stateRoom + rangeRoom * ranges.length
    else
      let sequences := ranges.flatMap fun range => Unicode.ByteSequence.ofRange range.1 range.2
      let states := (List.zipWith freshRanges ([] :: sequences) sequences).foldl (· + ·) 0
      (2 + states) * stateRoom + jumpRoom * sequences.length

namespace Expr

/-- Whether an expression can match without taking in a character. -/
def nullable : Expr → Bool
  | .char _ => false
  | .set .. => false
  | .any => false
  | .cat a b => a.nullable && b.nullable
  | .alt a b => a.nullable || b.nullable
  | .group a => a.nullable
  | .capture _ a => a.nullable
  | .empty | .start | .finish | .boundary | .interior | .opt _ | .star _ => true

/-- The memory for the automaton. A choice and a repetition have states without a character: one
where the ways part, and one where they meet again. A loop needs no place to meet, but stands inside
an optional part if what is repeated can be empty. -/
def room : Expr → Nat
  | .empty => stateRoom
  | .char c => stateRoom * c.utf8Size
  | .set negated items => rangesRoom (classRanges negated items)
  | .any => rangesRoom (outsideRanges 0 [(10, 10)])
  | .start | .finish | .boundary | .interior => stateRoom
  | .cat a b => a.room + b.room
  | .alt a (.alt b c) => a.room + jumpRoom + room (.alt b c)
  | .alt a b => a.room + b.room + 2 * jumpRoom + 2 * stateRoom
  | .group a => a.room
  | .capture _ a => a.room
  | .opt a => a.room + 2 * jumpRoom + 2 * stateRoom
  | .star a =>
    if a.nullable then a.room + 4 * jumpRoom + 3 * stateRoom
    else a.room + 2 * jumpRoom + stateRoom

/-- How deeply an expression is nested. Characters and assertions have no depth of their own, and a
sequence or a choice has one however long it is. -/
def depth : Expr → Nat
  | .set _ items => if items.length ≤ 1 then 1 else 2
  | .cat a (.cat b c) => max (a.depth + 1) (depth (.cat b c))
  | .cat a b => max a.depth b.depth + 1
  | .alt a (.alt b c) => max (a.depth + 1) (depth (.alt b c))
  | .alt a b => max a.depth b.depth + 1
  | .group a => a.depth + 1
  | .capture _ a => a.depth + 1
  | .opt a => a.depth + 1
  | .star a => a.depth + 1
  | .empty | .char _ | .any | .start | .finish | .boundary | .interior => 0

def deepest : Nat := 250

/-- Ten mebibytes. -/
def roomiest : Nat := 10 * 1024 * 1024

/-- The automaton has two states more than the expression needs: where it begins, and where it has
found a match. -/
def isWithinLimits (e : Expr) : Bool :=
  e.depth ≤ deepest && e.room + 2 * stateRoom ≤ roomiest

end Expr
end Regex
end SuffixPattern
