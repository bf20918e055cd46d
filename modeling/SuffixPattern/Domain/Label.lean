import SuffixPattern.Unicode.Bidi
import SuffixPattern.Unicode.DomainMapping
import SuffixPattern.Unicode.Joining
import SuffixPattern.Unicode.Mark
import SuffixPattern.Unicode.Normalization

/-!
# SuffixPattern.Domain.Label

The conditions on a label of an internationalised domain name: its characters are in prepared and
composed form, it does not begin with a mark, joiners stand where they have an effect, it is not too
long, and labels that run from right to left do not mix directions.
-/

namespace SuffixPattern
namespace Domain

open Unicode

/-! ## Preparation -/

def prepareChar? (c : Char) : Option Text :=
  match mapping c with
  | .kept => some [c]
  | .replaced t => some t
  | .refused => none

/-- Replaces and drops characters, and composes the result. Nothing is prepared if one of the
characters is refused. -/
def prepare? (t : Text) : Option Text :=
  (t.mapM prepareChar?).map fun pieces => normalize (List.flatten pieces)

/-- Whether preparation would change nothing. -/
def isPrepared (t : Text) : Bool :=
  t.all (fun c => mapping c = .kept) && normalize t = t

/-! ## Joiners -/

def nonJoiner : Char := '\u200c'
def joiner : Char := '\u200d'

/-- The combining class of the signs that suppress a vowel. -/
def isVirama (c : Char) : Bool := combiningClass c = 9

/-- Whether the first character that is not transparent joins in one of the given ways. -/
def meetsJoining (ways : List Joining) : Text → Bool
  | [] => false
  | c :: rest =>
    match joining? c with
    | some .transparent => meetsJoining ways rest
    | some j => j ∈ ways
    | none => false

/-- Whether the joiners in a text are in place, where `before` precedes it, nearest first. A joiner
needs a virama before it; a non-joiner may also stand between two letters that would join. -/
def joinersFit (before : Text) : Text → Bool
  | [] => true
  | c :: rest =>
    (if c = joiner then before.head?.any isVirama
      else if c = nonJoiner then
        before.head?.any isVirama ||
          (meetsJoining [.left, .both] before && meetsJoining [.right, .both] rest)
      else true) && joinersFit (c :: before) rest

/-! ## Direction -/

/-- Whether a text has a character that makes its domain a mixed-direction one. -/
def runsLeftward (t : Text) : Bool :=
  t.any fun c => direction c ∈ [.right, .arabicLetter, .arabicNumber]

def rightToLeftBody : List Direction :=
  [.right, .arabicLetter, .arabicNumber, .europeanNumber, .europeanSeparator, .commonSeparator,
    .europeanTerminator, .neutral, .boundaryNeutral, .nonspacing]

def leftToRightBody : List Direction :=
  [.left, .europeanNumber, .europeanSeparator, .commonSeparator, .europeanTerminator, .neutral,
    .boundaryNeutral, .nonspacing]

def rightToLeftEnd : List Direction :=
  [.right, .arabicLetter, .europeanNumber, .arabicNumber]

def leftToRightEnd : List Direction :=
  [.left, .europeanNumber]

/-- The rule for every label of a mixed-direction domain: its first character decides its
direction, and the classes inside it and at its end, nonspacing marks apart, are those of that
direction. The two kinds of numbers do not meet in a label that runs from right to left. -/
def directionsFit (t : Text) : Bool :=
  let classes := t.map direction
  let ending := (classes.reverse.dropWhile (· = .nonspacing)).head?
  match classes with
  | [] => true
  | .left :: _ => classes.all (· ∈ leftToRightBody) && ending.any (· ∈ leftToRightEnd)
  | .right :: _
  | .arabicLetter :: _ =>
    classes.all (· ∈ rightToLeftBody) && ending.any (· ∈ rightToLeftEnd) &&
      !(classes.contains .europeanNumber && classes.contains .arabicNumber)
  | _ => false

/-! ## Labels -/

/-- No label that needs an encoding has more characters, so that encoding it takes bounded time. -/
def longestLabel : Nat := 1000

/-- Whether a prepared label is well formed, its direction apart. -/
def isLabel (t : Text) : Bool :=
  !(t.head?.any isMark) && joinersFit [] t && (t.isAscii || t.length ≤ longestLabel)

end Domain
end SuffixPattern
