import SuffixPattern.Regex.Expr
import SuffixPattern.Unicode.Word

/-!
# SuffixPattern.Regex.Match

What an expression matches, as a backtracking engine finds it. `Expr.ends` lists the places where a
match that begins at a given place can end, in the order in which the engine tries them:
alternatives from left to right, an optional part taken before it is left out. A place occurs once
for every way to reach it.
-/

namespace SuffixPattern
namespace Regex

/-- A place in a text: how many characters are before it, what they are, nearest first, and the
characters after it. -/
structure Cursor where
  index : Nat
  before : Text
  after : Text
  deriving DecidableEq, Repr

namespace Cursor

def ofText (t : Text) : Cursor := ⟨0, [], t⟩

/-- The place behind the next character, which is `c` and followed by `rest`. -/
def past (p : Cursor) (c : Char) (rest : Text) : Cursor := ⟨p.index + 1, c :: p.before, rest⟩

/-- Passes the next character if it is accepted. -/
def eat (accepts : Char → Bool) (p : Cursor) : List Cursor :=
  match p.after with
  | [] => []
  | c :: rest => if accepts c then [p.past c rest] else []

def wordBefore (p : Cursor) : Bool := p.before.head?.any Unicode.isWord

def wordAfter (p : Cursor) : Bool := p.after.head?.any Unicode.isWord

def atBoundary (p : Cursor) : Bool := p.wordBefore != p.wordAfter

end Cursor

/-- Repeats a step as often as possible, but at most `n` times and only while it makes progress; the
longer repetitions come first. -/
def repeated (step : Cursor → List Cursor) : Nat → Cursor → List Cursor
  | 0, p => [p]
  | n + 1, p =>
    ((step p).filter fun q => q.after.length < p.after.length).flatMap (repeated step n) ++ [p]

namespace Expr

def ends : Expr → Cursor → List Cursor
  | .empty, p => [p]
  | .char c, p => p.eat (· = c)
  | .set negated items, p => p.eat fun c => negated != items.any (·.contains c)
  | .any, p => p.eat (· ≠ '\n')
  | .start, p => if p.before.isEmpty then [p] else []
  | .finish, p => if p.after.isEmpty then [p] else []
  | .boundary, p => if p.atBoundary then [p] else []
  | .interior, p => if p.atBoundary then [] else [p]
  | .cat a b, p => (a.ends p).flatMap b.ends
  | .alt a b, p => a.ends p ++ b.ends p
  | .group a, p => a.ends p
  | .capture _ a, p => a.ends p
  | .opt a, p => a.ends p ++ [p]
  | .star a, p => repeated a.ends p.after.length p

end Expr
end Regex
end SuffixPattern
