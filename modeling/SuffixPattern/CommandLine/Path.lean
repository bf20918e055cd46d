import SuffixPattern.Text

/-!
# SuffixPattern.CommandLine.Path

Paths as they are written: names between slashes. In the parent of a path, empty names and single
dots say nothing except in front; on the way to a place only the empty ones say nothing.
-/

namespace SuffixPattern
namespace Path

/-- The last name comes first; what follows it and says nothing is dropped, the first name never. -/
def significant : List Text → List Text
  | [] => []
  | [name] => [name]
  | name :: before => if name = [] ∨ name = ['.'] then significant before else name :: before

/-- The path with its names in reverse order. -/
def ofReversed (names : List Text) : Text :=
  if names = [[]] then ['/'] else Text.join ['/'] names.reverse

/-- The path without its last name. The root and the empty path have no parent, and a single name
has the empty path as its parent. -/
def parent? (p : Text) : Option Text :=
  match significant (p.pieces '/').reverse with
  | [] => none
  | [name] => if name = [] then none else some []
  | _ :: before => some (ofReversed (significant before))

/-- The directories above a path, nearest first, up to the root or the working directory. -/
def ancestors (p : Text) : List Text :=
  match parent? p with
  | none => []
  | some q =>
    if q = [] then []
    else if q.length < p.length then q :: ancestors q
    else []
termination_by p.length

/-- A name below a directory. -/
def join (directory name : Text) : Text :=
  if directory = [] ∨ directory.getLast? = some '/' then directory ++ name
  else directory ++ '/' :: name

def isAbsolute (p : Text) : Bool := p.head? = some '/'

/-- Whether the way the path is written asks for a directory. -/
def namesDirectory (p : Text) : Bool := p.getLast? = some '/'

/-- The names to follow, one by one. -/
def names (p : Text) : List Text :=
  (p.pieces '/').filter (· ≠ [])

end Path
end SuffixPattern
