import SuffixPattern.Pattern
import SuffixPattern.Branch
import SuffixPattern.SuffixList

/-!
# SuffixPattern.Compilation

The pattern for a suffix list. Both halves of the list go the same way from a trie over a compact
trie to a fragment; the trees are kept for the diagnostics.
-/

namespace SuffixPattern

structure Options where
  orientation : Orientation := .fromEnd
  groupName : Text := Pattern.defaultGroupName
  deriving DecidableEq, Repr, Inhabited

structure Compilation where
  pattern : Text
  literal : Trie
  decoded : Trie
  literalCompact : CompactTrie
  decodedCompact : CompactTrie
  decodedLabels : SortedMap Text Text
  deriving DecidableEq

namespace Compilation

def ofList (l : SuffixList) (o : Options) : Compilation :=
  let literal := Trie.ofList o.orientation l.literal.toList
  let decoded := Trie.ofList o.orientation l.decoded.toList
  { pattern := Pattern.ofHalves o.groupName literal.compact.compile decoded.compact.compile
    literal := literal
    decoded := decoded
    literalCompact := literal.compact
    decodedCompact := decoded.compact
    decodedLabels := l.decodedLabels }

def ofText (text : Text) (o : Options) : Except InvalidEntry Compilation :=
  (SuffixList.parse text).map fun l => ofList l o

end Compilation
end SuffixPattern
