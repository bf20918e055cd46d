import SuffixPattern.Decoding
import SuffixPattern.SortedMap
import SuffixPattern.SortedSet
import SuffixPattern.Unicode.Casing

/-!
# SuffixPattern.SuffixList

Lists of suffixes, one per line, with comments. Entries are trimmed, lower-cased and collected in a
set; the encoded ones among them are decoded on the way. An entry with a character that no label has
ends the reading, an entry that cannot be decoded does not.
-/

namespace SuffixPattern

/-- An entry without a decoded form. -/
structure Skipped where
  line : Nat
  suffix : Text
  reason : Rejection
  deriving DecidableEq, Repr

structure Stats where
  lines : Nat := 0
  comments : Nat := 0
  entries : Nat := 0
  duplicates : Nat := 0
  decoded : Nat := 0
  skipped : Nat := 0
  deriving DecidableEq, Repr, Inhabited

structure SuffixList where
  /-- The entries as written, in lower case. -/
  literal : SortedSet Text := .empty
  /-- The decoded forms of the encoded entries. -/
  decoded : SortedSet Text := .empty
  /-- From an encoded entry to its decoded form. -/
  decodedLabels : SortedMap Text Text := .empty
  skipped : List Skipped := []
  stats : Stats := {}
  deriving DecidableEq, Inhabited

/-- The first entry with a character that no label has, and the first such character of it. -/
structure InvalidEntry where
  line : Nat
  suffix : Text
  character : Char
  deriving DecidableEq, Repr

def InvalidEntry.message (e : InvalidEntry) : String :=
  s!"Invalid suffix '{String.ofList e.suffix}' at line {e.line}: unexpected character " ++
    String.ofList (Unicode.quoted e.character)

/-! ## Lines -/

inductive Line where
  | blank
  | comment
  | entry (suffix : Text)
  deriving DecidableEq, Repr

namespace Line

/-- A line of a list. A comment begins with a number sign. -/
def ofText (raw : Text) : Line :=
  match raw.trimBlank with
  | [] => .blank
  | '#' :: _ => .comment
  | t => .entry (Unicode.lower t)

/-- A suffix that is given by itself is never a comment. -/
def ofSuffix (raw : Text) : Line :=
  match raw.trimBlank with
  | [] => .blank
  | t => .entry (Unicode.lower t)

end Line

/-! ## Entries -/

/-- Answers for a label, and may remember the question. -/
abbrev Decoder (σ : Type) := σ → Text → Except Rejection Text × σ

/-- A decoder that remembers nothing. -/
def Decoder.pure (decode : Text → Except Rejection Text) : Decoder Unit :=
  fun s label => (decode label, s)

def isLiteralChar (c : Char) : Bool :=
  c.isLower || c.isDigit || c = '-'

/-- Encoded labels are known by how they begin. -/
def isEncoded (suffix : Text) : Bool :=
  Domain.encodingMark.isPrefixOf suffix

namespace SuffixList

def isEmpty (l : SuffixList) : Bool := l.literal.isEmpty && l.decoded.isEmpty

/-- Number of texts that a pattern for the list has to match. -/
def length (l : SuffixList) : Nat := l.literal.size + l.decoded.size

def countLine (l : SuffixList) : SuffixList :=
  { l with stats := { l.stats with lines := l.stats.lines + 1 } }

def countComment (l : SuffixList) : SuffixList :=
  { l with stats := { l.stats with comments := l.stats.comments + 1 } }

def countDuplicate (l : SuffixList) : SuffixList :=
  { l with stats := { l.stats with duplicates := l.stats.duplicates + 1 } }

def addLiteral (suffix : Text) (l : SuffixList) : SuffixList :=
  { l with
    literal := l.literal.insert suffix
    stats := { l.stats with entries := l.stats.entries + 1 } }

/-- Records what became of an encoded entry. -/
def addAnswer (line : Nat) (suffix : Text) (answer : Except Rejection Text) (l : SuffixList) :
    SuffixList :=
  match answer with
  | .ok form =>
    { l with
      decoded := l.decoded.insert form
      decodedLabels := l.decodedLabels.insert suffix form
      stats := { l.stats with decoded := l.stats.decoded + 1 } }
  | .error reason =>
    { l with
      skipped := l.skipped ++ [⟨line, suffix, reason⟩]
      stats := { l.stats with skipped := l.stats.skipped + 1 } }

/-- Adds a valid entry. The decoder is asked once for each encoded entry. -/
def add {σ : Type} (decode : Decoder σ) (line : Nat) (suffix : Text) (l : SuffixList) (s : σ) :
    SuffixList × σ :=
  if l.literal.contains suffix then (l.countDuplicate, s)
  else if isEncoded suffix then
    let (answer, s) := decode s suffix
    ((l.addLiteral suffix).addAnswer line suffix answer, s)
  else (l.addLiteral suffix, s)

/-! ## Reading -/

/-- How far a reading came: the list so far, the decoder's memory, and the entry that ended it. -/
structure Reading (σ : Type) where
  list : SuffixList
  memory : σ
  fault : Option InvalidEntry

def Reading.result {σ : Type} (r : Reading σ) : Except InvalidEntry SuffixList :=
  match r.fault with
  | some e => .error e
  | none => .ok r.list

/-- Takes in lines, of which the first has the given number. -/
def readFrom {σ : Type} (decode : Decoder σ) (number : Nat) :
    List Line → SuffixList → σ → Reading σ
  | [], l, s => ⟨l, s, none⟩
  | .blank :: rest, l, s => readFrom decode (number + 1) rest l.countLine s
  | .comment :: rest, l, s => readFrom decode (number + 1) rest l.countLine.countComment s
  | .entry suffix :: rest, l, s =>
    match suffix.find? fun c => !isLiteralChar c with
    | some c => ⟨l.countLine, s, some ⟨number, suffix, c⟩⟩
    | none =>
      let (l, s) := l.countLine.add decode number suffix s
      readFrom decode (number + 1) rest l s

/-- Reads a text line by line. -/
def readText {σ : Type} (decode : Decoder σ) (memory : σ) (text : Text) : Reading σ :=
  readFrom decode 1 (text.lines.map .ofText) {} memory

/-- Reads suffixes as if each were a line. -/
def readSuffixes {σ : Type} (decode : Decoder σ) (memory : σ) (suffixes : List Text) :
    Reading σ :=
  readFrom decode 1 (suffixes.map .ofSuffix) {} memory

def parse (text : Text) : Except InvalidEntry SuffixList :=
  (readText (.pure Decoding.decode) () text).result

def ofSuffixes (suffixes : List Text) : Except InvalidEntry SuffixList :=
  (readSuffixes (.pure Decoding.decode) () suffixes).result

/-! ## Output -/

/-- The text of a list followed by a line for each decoded label, in the order of the labels. -/
def render (source : Text) (l : SuffixList) : Text :=
  source ++ l.decodedLabels.values.flatMap ('\n' :: ·)

end SuffixList
end SuffixPattern
