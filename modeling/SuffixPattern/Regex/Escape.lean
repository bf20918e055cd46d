import SuffixPattern.Unicode.Blank

/-!
# SuffixPattern.Regex.Escape

How a character is written so that it stands for itself. Outside a class the operators of the
dialect are escaped, and the hyphen is not; inside a class, what could close it, negate it, form a
range or combine it with another class. Control characters and white space are never written raw.
-/

namespace SuffixPattern
namespace Regex

/-- Characters with a meaning of their own outside a class. -/
def literalSpecial : List Char :=
  ['\\', '.', '+', '*', '?', '(', ')', '|', '[', ']', '{', '}', '^', '$']

/-- Characters with a meaning of their own inside a class. -/
def classSpecial : List Char :=
  ['\\', ']', '[', '^', '-', '&', '~']

def escape (special : List Char) (c : Char) : Text :=
  if Unicode.isControl c || Unicode.isBlank c then
    ['\\', 'x', '{'] ++ Text.hexUpper c.toNat ++ ['}']
  else if c ∈ special then ['\\', c]
  else [c]

/-- A character written outside a class. -/
def literal (c : Char) : Text :=
  escape literalSpecial c

/-- A character written as a member of a class. -/
def classMember (c : Char) : Text :=
  escape classSpecial c

end Regex

/-- A text written outside a class, character by character. -/
def Text.escaped (t : Text) : Text :=
  t.flatMap Regex.literal

end SuffixPattern
