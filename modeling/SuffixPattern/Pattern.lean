import SuffixPattern.Text

/-!
# SuffixPattern.Pattern

The two halves of a pattern, for labels as written and for their decoded forms, become the
alternatives of one named group.
-/

namespace SuffixPattern
namespace Pattern

def defaultGroupName : Text := "tld".toList

/-- A place that is and is not a word boundary: there is none. -/
def neverMatch : Text := ['\\', 'b', '\\', 'B']

/-- An empty half is left out; a group with neither half matches nothing, the empty text
included. -/
def body (literal decoded : Text) : Text :=
  match literal.isEmpty, decoded.isEmpty with
  | false, false => literal ++ '|' :: decoded
  | false, true => literal
  | true, false => decoded
  | true, true => neverMatch

def ofHalves (name literal decoded : Text) : Text :=
  ['(', '?', '<'] ++ name ++ '>' :: body literal decoded ++ [')']

end Pattern
end SuffixPattern
