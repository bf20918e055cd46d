import SuffixPattern.Trie

/-!
# SuffixPattern.CompactTrie

Tries whose edges carry texts. `Forest.compact` folds every run of nodes without a mark and with a
single child into one edge, so a node other than the root is marked, a leaf or a branching.
-/

namespace SuffixPattern

namespace Forest

/-- The edge that reaches a node without a mark, whose only child is reached by one edge, is joined
with that edge. -/
def compact : Forest Char → Forest Text
  | .nil => .nil
  | .cons c t below rest =>
    match t, below.compact with
    | false, .cons label t' below' .nil => .cons (c :: label) t' below' rest.compact
    | t, below' => .cons [c] t below' rest.compact

end Forest

/-- The root itself is never folded away. -/
def Node.compact (n : Node Char) : Node Text :=
  ⟨n.terminal, n.children.compact⟩

structure CompactTrie where
  orientation : Orientation := .fromEnd
  root : Node Text := {}
  deriving DecidableEq, Repr, Inhabited

namespace CompactTrie

/-- The words of the tree, spelled from the root. -/
def strings (n : Node Text) : SortedSet Text :=
  .ofList (n.words.map List.flatten)

/-- The members in reading order. -/
def suffixes (t : CompactTrie) : SortedSet Text :=
  .ofList ((strings t.root).toList.map t.orientation.readingOrder)

def edges (t : CompactTrie) : Nat := t.root.children.size

end CompactTrie

def Trie.compact (t : Trie) : CompactTrie :=
  ⟨t.orientation, t.root.compact⟩

end SuffixPattern
