import SuffixPattern.Regex.Expr

/-!
# SuffixPattern.Fragment

Pieces of a pattern that can be put side by side as they are: none has an alternative at its top.
-/

namespace SuffixPattern

open Regex

inductive Fragment where
  /-- Matches the empty text only. -/
  | empty
  /-- A single unit that a repetition can follow: a character, a class or a group. -/
  | atom (e : Expr)
  /-- Units in a row, which need a group before a repetition can follow. -/
  | sequence (items : List Expr)
  deriving DecidableEq, Repr, Inhabited

namespace Fragment

def items : Fragment → List Expr
  | .empty => []
  | .atom e => [e]
  | .sequence es => es

def expr (f : Fragment) : Expr := .ofItems f.items

def text (f : Fragment) : Text := f.expr.print

/-- One fragment after the other. -/
def append : Fragment → Fragment → Fragment
  | .empty, g => g
  | f, .empty => f
  | f, g => .sequence (f.items ++ g.items)

instance : Append Fragment := ⟨append⟩

/-- Lets the fragment match the empty text as well. -/
def optional : Fragment → Fragment
  | .empty => .empty
  | .atom e => .sequence [.opt e]
  | .sequence es => .sequence [.opt (.group (.ofItems es))]

/-- The characters of a text in a row. -/
def ofText (t : Text) : Fragment := .sequence (t.map .char)

/-- A choice, in a group of its own where there is more than one fragment to choose from. -/
def ofAlternatives : List Fragment → Fragment
  | [] => .empty
  | [f] => f
  | fs => .atom (.group (.ofAlternatives (fs.map expr)))

end Fragment
end SuffixPattern
