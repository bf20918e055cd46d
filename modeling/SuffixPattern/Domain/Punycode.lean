import SuffixPattern.Text

/-!
# SuffixPattern.Domain.Punycode

Decoding of labels in the ASCII-compatible encoding. The basic characters come first, up to the last
hyphen. The rest is a row of numbers in a variable-length notation of base 36, each of which says
how far the next insertion is from the one before, counting the positions of the growing text once
for every code point.
-/

namespace SuffixPattern
namespace Punycode

/-- Letters of either case are the digits from 0, figures those from 26. -/
def digit? (c : Char) : Option Nat :=
  if 'a' ≤ c ∧ c ≤ 'z' then some (c.toNat - 'a'.toNat)
  else if 'A' ≤ c ∧ c ≤ 'Z' then some (c.toNat - 'A'.toNat)
  else if '0' ≤ c ∧ c ≤ '9' then some (c.toNat - '0'.toNat + 26)
  else none

/-- Numbers are kept in 32 bits: what does not fit is no encoding. -/
def fits? (n : Nat) : Option Nat :=
  if n < 0x100000000 then some n else none

/-- The least digit that does not end a number at the given place. -/
def threshold (place bias : Nat) : Nat :=
  min (max (place - bias) 1) 26

def settle (bias delta : Nat) : Nat :=
  if delta > 455 then settle (bias + 36) (delta / 35)
  else bias + 36 * delta / (delta + 38)
termination_by delta
decreasing_by exact Nat.div_lt_self (by omega) (by omega)

/-- The bias after a number, which makes the next ones short if they are of a similar size. -/
def adapt (delta size : Nat) (first : Bool) : Nat :=
  let delta := if first then delta / 700 else delta / 2
  settle 0 (delta + delta / size)

/-- A decoding in progress. Between two numbers, `place` is 36, `weight` is 1 and `position` is
`origin`, the place after the last insertion. -/
structure State where
  text : Text
  code : Nat := 128
  bias : Nat := 72
  origin : Nat := 0
  position : Nat := 0
  weight : Nat := 1
  place : Nat := 36
  deriving DecidableEq, Repr

namespace State

/-- The number is complete: its character is inserted. -/
def insert? (s : State) : Option State :=
  let size := s.text.length + 1
  let code := s.code + s.position / size
  let index := s.position % size
  if code.isValidChar then
    some {
      text := s.text.take index ++ Char.ofNat code :: s.text.drop index
      code := code
      bias := adapt (s.position - s.origin) size (s.origin == 0)
      origin := index + 1
      position := index + 1 }
  else none

def step (s : State) (c : Char) : Option State := do
  let d ← digit? c
  let position ← fits? (s.position + d * s.weight)
  let t := threshold s.place s.bias
  if d < t then insert? { s with position := position }
  else
    let weight ← fits? (s.weight * (36 - t))
    some { s with position := position, weight := weight, place := s.place + 36 }

end State

/-- Separates the basic characters from the digits at the last hyphen, unless the text begins with
it. -/
def split (t : Text) : Text × Text :=
  let digits := (t.reverse.takeWhile (· ≠ '-')).reverse
  let basic := t.take (t.length - digits.length - 1)
  if basic.isEmpty then ([], t) else (basic, digits)

def decode? (t : Text) : Option Text := do
  let (basic, digits) := split t
  let s ← digits.foldlM State.step { text := basic }
  if s.place = 36 then some s.text else none

end Punycode
end SuffixPattern
