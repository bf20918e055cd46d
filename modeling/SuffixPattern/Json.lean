import SuffixPattern.Text

/-!
# SuffixPattern.Json

The part of JSON that reports need: objects with ordered members, texts and truth values. A value is
written without any blanks (`compact`) or with one member per line, indented by two spaces a level
(`pretty`).
-/

namespace SuffixPattern

mutual

inductive Json where
  | bool (b : Bool)
  | string (t : Text)
  | object (members : Members)

inductive Members where
  | nil
  | cons (key : Text) (value : Json) (rest : Members)

end

namespace Json

/-! ## Texts -/

/-- The quotation mark, the backslash and the characters below the space are escaped, all else is
written as it is. -/
def escapeChar (c : Char) : Text :=
  match c with
  | '"' => ['\\', '"']
  | '\\' => ['\\', '\\']
  | '\x08' => ['\\', 'b']
  | '\x0c' => ['\\', 'f']
  | '\n' => ['\\', 'n']
  | '\r' => ['\\', 'r']
  | '\t' => ['\\', 't']
  | c =>
    if c < ' ' then
      ['\\', 'u', '0', '0', Nat.digitChar (c.toNat / 16), Nat.digitChar (c.toNat % 16)]
    else [c]

def quote (t : Text) : Text :=
  '"' :: t.flatMap escapeChar ++ ['"']

def boolText : Bool → Text
  | true => ['t', 'r', 'u', 'e']
  | false => ['f', 'a', 'l', 's', 'e']

end Json

/-! ## Without blanks -/

mutual

def Json.compact : Json → Text
  | .bool b => Json.boolText b
  | .string t => Json.quote t
  | .object members => '{' :: members.compact ++ ['}']

def Members.compact : Members → Text
  | .nil => []
  | .cons key value rest =>
    Json.quote key ++ ':' :: value.compact ++
      match rest with
      | .nil => []
      | .cons .. => ',' :: rest.compact

end

/-! ## With one member per line -/

def Json.indent (depth : Nat) : Text :=
  List.replicate (2 * depth) ' '

mutual

/-- A value of which the first line is already indented to the given depth. -/
def Json.prettyAt (depth : Nat) : Json → Text
  | .bool b => Json.boolText b
  | .string t => Json.quote t
  | .object .nil => ['{', '}']
  | .object members => ['{', '\n'] ++ members.prettyAt (depth + 1) ++ Json.indent depth ++ ['}']

/-- The lines of the members, each ended by a line feed. -/
def Members.prettyAt (depth : Nat) : Members → Text
  | .nil => []
  | .cons key value rest =>
    Json.indent depth ++ Json.quote key ++ [':', ' '] ++ value.prettyAt depth ++
      match rest with
      | .nil => ['\n']
      | .cons .. => [',', '\n'] ++ rest.prettyAt depth

end

def Json.pretty (j : Json) : Text := j.prettyAt 0

def Members.ofList (l : List (Text × Json)) : Members :=
  l.foldr (fun m rest => .cons m.1 m.2 rest) .nil

end SuffixPattern
