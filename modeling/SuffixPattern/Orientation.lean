import SuffixPattern.Text

/-!
# SuffixPattern.Orientation

The direction in which the characters of a suffix are laid along a trie. Laid from the end, suffixes
with a common ending share a path; laid from the start, suffixes with a common beginning do.
-/

namespace SuffixPattern

inductive Orientation where
  | fromEnd
  | fromStart
  deriving DecidableEq, Repr, Inhabited

namespace Orientation

/-- The characters of a text in the order in which they are met on the way down from the root. -/
def trieOrder : Orientation → Text → Text
  | .fromEnd, t => t.reverse
  | .fromStart, t => t

/-- Turns the characters met on the way down back into a text. -/
def readingOrder : Orientation → Text → Text
  | .fromEnd, t => t.reverse
  | .fromStart, t => t

theorem readingOrder_trieOrder (o : Orientation) (t : Text) :
    o.readingOrder (o.trieOrder t) = t := by
  cases o <;> simp [readingOrder, trieOrder]

theorem trieOrder_readingOrder (o : Orientation) (t : Text) :
    o.trieOrder (o.readingOrder t) = t := by
  cases o <;> simp [readingOrder, trieOrder]

/-! ## Names -/

def name : Orientation → String
  | .fromEnd => "suffix"
  | .fromStart => "prefix"

/-- Each direction has two names, in any case of the ASCII letters. -/
def ofName? (t : Text) : Option Orientation :=
  match String.ofList t.lowerAscii with
  | "suffix" => some .fromEnd
  | "reversed" => some .fromEnd
  | "prefix" => some .fromStart
  | "forward" => some .fromStart
  | _ => none

/-- What a reader is told about a name that is none. -/
def unknownMessage (t : Text) : String :=
  s!"unknown orientation '{String.ofList t.lowerAscii}' (expected 'suffix' or 'prefix')"

end Orientation
end SuffixPattern
