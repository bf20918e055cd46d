import SuffixPattern.CompactTrie
import SuffixPattern.Fragment
import SuffixPattern.Regex.CharSet

/-!
# SuffixPattern.Branch

From a compact trie to a fragment that matches exactly its members.

The subtrees below a node are compiled first, one `Edge` each. `Branch.gather` then joins the edges
of a single character that lead to the same fragment in one class, and `Branch.choose` puts the
branches with the longest matches first.
-/

namespace SuffixPattern

open Regex

/-- An edge whose subtree has been compiled; `span` is the length of the longest text that the edge
and what follows it match. -/
structure Edge where
  label : Text
  tail : Fragment
  span : Nat
  deriving DecidableEq, Repr

/-- What a branch begins with: one of several characters, or a text. -/
inductive Head where
  | members (cs : List Char)
  | word (label : Text)
  deriving DecidableEq, Repr

structure Branch where
  head : Head
  tail : Fragment
  span : Nat
  deriving DecidableEq, Repr

namespace Branch

/-- Adds a character to the first class with the given tail, or opens a new class. -/
def addMember (c : Char) (tail : Fragment) (span : Nat) : List Branch → List Branch
  | [] => [⟨.members [c], tail, span⟩]
  | b :: rest =>
    match b.head with
    | .members cs =>
      if b.tail = tail then { b with head := .members (cs ++ [c]) } :: rest
      else b :: addMember c tail span rest
    | .word _ => b :: addMember c tail span rest

def add (branches : List Branch) (e : Edge) : List Branch :=
  match e.label with
  | [c] => addMember c e.tail e.span branches
  | label => branches ++ [⟨.word label, e.tail, e.span⟩]

def gather (edges : List Edge) : List Branch :=
  edges.foldl add []

def headFragment (o : Orientation) : Head → Fragment
  | .members cs => .atom (.ofChars cs)
  | .word label => .ofText (o.readingOrder label)

/-- The head comes first in the reading direction if the trie was laid from the start. -/
def fragment (o : Orientation) (b : Branch) : Fragment :=
  match o with
  | .fromStart => headFragment o b.head ++ b.tail
  | .fromEnd => b.tail ++ headFragment o b.head

/-- Puts a branch in front of the first one whose span is not longer. -/
def place (b : Branch) : List Branch → List Branch
  | [] => [b]
  | c :: rest => if b.span < c.span then c :: place b rest else b :: c :: rest

/-- Longest span first; branches of equal span keep their order. -/
def sort (branches : List Branch) : List Branch :=
  branches.foldr place []

/-- What a node compiles to when its edges are compiled: the choice between its branches, left open
if a word ends at the node, and the length of the longest match. -/
def choose (o : Orientation) (terminal : Bool) (edges : List Edge) : Fragment × Nat :=
  let sorted := sort (gather edges)
  let choice := Fragment.ofAlternatives (sorted.map (fragment o))
  (if terminal then choice.optional else choice, (sorted.head?.map span).getD 0)

end Branch

/-- Compiles every edge of a forest. -/
def Forest.edges (o : Orientation) : Forest Text → List Edge
  | .nil => []
  | .cons label t below rest =>
    let compiled := Branch.choose o t (below.edges o)
    ⟨label, compiled.1, label.length + compiled.2⟩ :: rest.edges o

namespace Node

/-- The fragment for the words of a tree, and the length of the longest one. -/
def spanned (o : Orientation) (n : Node Text) : Fragment × Nat :=
  Branch.choose o n.terminal (n.children.edges o)

def compile (o : Orientation) (n : Node Text) : Fragment :=
  (n.spanned o).1

end Node

namespace CompactTrie

def fragment (t : CompactTrie) : Fragment := t.root.compile t.orientation

/-- The pattern for the members, without anchors and without a capturing group. -/
def compile (t : CompactTrie) : Text := t.fragment.text

end CompactTrie
end SuffixPattern
