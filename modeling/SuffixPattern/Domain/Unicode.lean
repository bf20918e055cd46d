import SuffixPattern.Domain.Label
import SuffixPattern.Domain.Punycode

/-!
# SuffixPattern.Domain.Unicode

The Unicode form of a domain name. Labels in the ASCII-compatible encoding are decoded, labels with
other characters are prepared, and the rest is lower-cased.
-/

namespace SuffixPattern
namespace Domain

def encodingMark : Text := ['x', 'n', '-', '-']

/-- What follows the mark of an encoded label, in any case of the letters. -/
def encoded? (label : Text) : Option Text :=
  if label.lowerAscii.take 4 = encodingMark then some (Text.lowerAscii (label.drop 4)) else none

/-- No code that is decoded has more characters, so that decoding it takes bounded time. -/
def longestCode : Nat := 2000

/-- The label behind its encoding. A hyphen at the end would leave nothing to decode, and the
decoded form must be one that preparation leaves as it is. -/
def decode? (code : Text) : Option Text := do
  if code.isEmpty || code.getLast? = some '-' || !code.isAscii || longestCode < code.length then
    none
  else
    let label ← Punycode.decode? code
    if isPrepared label && isLabel label then some label else none

/-- The Unicode form of a label that has been prepared, and may be an encoded one even so. -/
def preparedForm? (label : Text) : Option Text :=
  match encoded? label with
  | some code => decode? code
  | none => if isLabel label then some label else none

/-- The Unicode forms of the labels that stand for a label as written. There may be several, because
some characters are prepared as a dot. -/
def forms? (label : Text) : Option (List Text) :=
  if label.isAscii then
    match encoded? label with
    | some code => (decode? code).map ([·])
    | none => some [label.lowerAscii]
  else (prepare? label).bind fun t => (Text.pieces '.' t).mapM preparedForm?

def directionsAgree (labels : List Text) : Bool :=
  !(labels.any runsLeftward) || labels.all directionsFit

/-- The Unicode form of a domain name, if all of its labels have one. -/
def toUnicode? (domain : Text) : Option Text := do
  let labels := (← (Text.pieces '.' domain).mapM forms?).flatten
  if directionsAgree labels then some (Text.join ['.'] labels) else none

end Domain
end SuffixPattern
