import SuffixPattern.Compilation
import SuffixPattern.Json

/-!
# SuffixPattern.Diagnostics

The trees of a compilation as JSON. A node says `terminal` only if it is and `children` only if it
has any.
-/

namespace SuffixPattern

namespace Json

def ofNode (terminal : Bool) (children : Members) : Json :=
  let below : Members :=
    match children with
    | .nil => .nil
    | .cons .. => .cons "children".toList (.object children) .nil
  .object (if terminal then .cons "terminal".toList (.bool true) below else below)

end Json

namespace Forest

/-- The nodes of a forest under their spelled keys. -/
def members {κ : Type} (spell : κ → Text) : Forest κ → Members
  | .nil => .nil
  | .cons k t below rest =>
    .cons (spell k) (.ofNode t (below.members spell)) (rest.members spell)

end Forest

namespace Node

def json {κ : Type} (spell : κ → Text) (n : Node κ) : Json :=
  .ofNode n.terminal (n.children.members spell)

end Node

namespace Diagnostics

def ofRoot (o : Orientation) (root : Json) : Json :=
  .object (.ofList
    [("orientation".toList, .string o.name.toList),
      ("root".toList, root)])

def ofTrie (t : Trie) : Json :=
  ofRoot t.orientation (t.root.json ([·]))

def ofCompactTrie (t : CompactTrie) : Json :=
  ofRoot t.orientation (t.root.json id)

/-- The two halves of a list side by side. -/
def pair (literal decoded : Json) : Json :=
  .object (.ofList [("literal".toList, literal), ("decoded".toList, decoded)])

def raw (c : Compilation) : Json :=
  pair (ofTrie c.literal) (ofTrie c.decoded)

def compacted (c : Compilation) : Json :=
  pair (ofCompactTrie c.literalCompact) (ofCompactTrie c.decodedCompact)

def decodedLabels (labels : SortedMap Text Text) : Json :=
  .object (.ofList (labels.entries.map fun e => (e.1, .string e.2)))

def ofCompilation (c : Compilation) : Json :=
  .object (.ofList
    [("raw".toList, raw c),
      ("compacted".toList, compacted c),
      ("decoded_labels".toList, decodedLabels c.decodedLabels)])

end Diagnostics
end SuffixPattern
