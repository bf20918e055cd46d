import SuffixPattern.Regex.Escape

/-!
# SuffixPattern.Regex.Expr

Expressions of the dialect and their written form. `ofItems` and `ofAlternatives` put several
expressions side by side; both lean to the right, so that an expression is determined by its items.
-/

namespace SuffixPattern
namespace Regex

inductive ClassItem where
  | single (c : Char)
  | range (first last : Char)
  deriving DecidableEq, Repr

inductive Expr where
  | empty
  | char (c : Char)
  /-- A class, or everything outside it. -/
  | set (negated : Bool) (items : List ClassItem)
  /-- Every character but the line feed. -/
  | any
  /-- The two ends of the text, and the places where a word does or does not begin or end. -/
  | start | finish | boundary | interior
  | cat (a b : Expr)
  | alt (a b : Expr)
  | group (a : Expr)
  | capture (name : Text) (a : Expr)
  | opt (a : Expr)
  | star (a : Expr)
  deriving DecidableEq, Repr, Inhabited

namespace ClassItem

def contains (c : Char) : ClassItem → Bool
  | .single d => c = d
  | .range first last => first ≤ c && c ≤ last

def print : ClassItem → Text
  | .single c => classMember c
  | .range first last => classMember first ++ '-' :: classMember last

end ClassItem

namespace Expr

/-- Expressions one after the other. -/
def ofItems : List Expr → Expr
  | [] => .empty
  | [e] => e
  | e :: rest => .cat e (ofItems rest)

/-- A choice between expressions, the earlier ones preferred. -/
def ofAlternatives : List Expr → Expr
  | [] => .empty
  | [e] => e
  | e :: rest => .alt e (ofAlternatives rest)

def print : Expr → Text
  | .empty => []
  | .char c => literal c
  | .set negated items =>
    '[' :: (if negated then ['^'] else []) ++ items.flatMap ClassItem.print ++ [']']
  | .any => ['.']
  | .start => ['^']
  | .finish => ['$']
  | .boundary => ['\\', 'b']
  | .interior => ['\\', 'B']
  | .cat a b => a.print ++ b.print
  | .alt a b => a.print ++ '|' :: b.print
  | .group a => ['(', '?', ':'] ++ a.print ++ [')']
  | .capture name a => ['(', '?', '<'] ++ name ++ '>' :: a.print ++ [')']
  | .opt a => a.print ++ ['?']
  | .star a => a.print ++ ['*']

/-- The names of the capturing groups, from left to right. -/
def names : Expr → List Text
  | .cat a b => a.names ++ b.names
  | .alt a b => a.names ++ b.names
  | .group a => a.names
  | .capture name a => name :: a.names
  | .opt a => a.names
  | .star a => a.names
  | _ => []

end Expr
end Regex
end SuffixPattern
