import SuffixPattern.Domain.Unicode
import SuffixPattern.Unicode.Blank
import SuffixPattern.Unicode.Quoted

/-!
# SuffixPattern.Decoding

The Unicode form of an encoded label, and the reasons why a label has none that can be used.
-/

namespace SuffixPattern

inductive Rejection where
  /-- The label is no encoding of anything. -/
  | malformed (label : Text)
  /-- The decoded form has nothing beyond ASCII. -/
  | notUnicode
  | forbidden (c : Char)
  /-- A reason that another decoder gives. -/
  | other (reason : Text)
  deriving DecidableEq, Repr

def Rejection.message : Rejection → String
  | .malformed label => s!"invalid punycode in '{String.ofList label}'"
  | .notUnicode => "label does not decode to a Unicode form"
  | .forbidden c => s!"decoded form contains {String.ofList (Unicode.quoted c)}"
  | .other reason => String.ofList reason

namespace Decoding

/-- Control characters, white space and dots would split a decoded form. -/
def isDecodedChar (c : Char) : Bool :=
  !Unicode.isControl c && !Unicode.isBlank c && c ≠ '.'

/-- Accepts a decoded form if it is not ASCII and has no character that would split it. -/
def validate (t : Text) : Except Rejection Text :=
  if t.isAscii then .error .notUnicode
  else
    match t.find? fun c => !isDecodedChar c with
    | some c => .error (.forbidden c)
    | none => .ok t

/-- Decodes a label with the given idea of the Unicode form of a domain. -/
def decodeWith (toUnicode? : Text → Option Text) (label : Text) : Except Rejection Text :=
  match toUnicode? label with
  | none => .error (.malformed label)
  | some t => validate t

def decode (label : Text) : Except Rejection Text :=
  decodeWith Domain.toUnicode? label

end Decoding
end SuffixPattern
