import SuffixPattern.Forest
import SuffixPattern.Orientation
import SuffixPattern.SortedSet

/-!
# SuffixPattern.Trie

Sets of suffixes as tries with one character per edge. The orientation is kept with the tree, so
that the suffixes can be read back as they were written.
-/

namespace SuffixPattern

structure Trie where
  orientation : Orientation := .fromEnd
  root : Node Char := {}
  deriving DecidableEq, Repr, Inhabited

namespace Trie

/-- Adds a suffix. An empty one is ignored. -/
def insert (t : Trie) (suffix : Text) : Trie :=
  if suffix.isEmpty then t
  else { t with root := t.root.insert (t.orientation.trieOrder suffix) }

def ofList (o : Orientation) (suffixes : List Text) : Trie :=
  suffixes.foldl insert { orientation := o }

/-- The empty text is a member of no trie. -/
def contains (t : Trie) (suffix : Text) : Bool :=
  !suffix.isEmpty && ((t.root.at? (t.orientation.trieOrder suffix)).any (·.terminal))

/-- The words of the tree, spelled from the root. -/
def strings (n : Node Char) : SortedSet Text :=
  .ofList n.words

/-- The members in reading order. -/
def suffixes (t : Trie) : SortedSet Text :=
  .ofList ((strings t.root).toList.map t.orientation.readingOrder)

/-- Number of members. -/
def length (t : Trie) : Nat := t.root.terminals

def isEmpty (t : Trie) : Bool := t.root.isLeaf && !t.root.terminal

end Trie
end SuffixPattern
