import Mathlib.Tactic.SplitIfs
import SuffixPattern.Json
import SuffixPattern.Proofs.Spelling

/-!
# SuffixPattern.Proofs.JsonReading

Reading JSON. A text is cut into tokens first (`scan`), and the tokens are then taken in one by one
(`step`), with the objects that are still open on a stack. Both layouts of a value have the same
tokens, and from them the value is read back (`read?_compact`, `read?_pretty`), whatever characters
its texts have.

* `Json.tokens`: what a value is written with, blanks left out.
* `Scans t ts`: the text `t` is cut into the tokens `ts`, whatever follows it.
* `Takes ts s s'`: the tokens `ts` take the reader from `s` to `s'`.
-/

namespace SuffixPattern
namespace Json

/-! ## Tokens -/

inductive Token where
  | opening
  | closing
  | colon
  | comma
  | bool (b : Bool)
  | string (t : Text)

/-- Where a scan stands: between tokens, in a word of which some letters are still to come, in a
text, in a text after a backslash, or among the digits of a code, of which one and as many more as
said are still to come. What there is of a text is kept last character first. -/
inductive Scan where
  | between
  | word (expected : Text) (b : Bool)
  | text (soFar : Text)
  | escape (soFar : Text)
  | code (soFar : Text) (more value : Nat)

def isBlank (c : Char) : Bool :=
  c = ' ' || c = '\n' || c = '\r' || c = '\t'

def punctuation? : Char → Option Token
  | '{' => some .opening
  | '}' => some .closing
  | ':' => some .colon
  | ',' => some .comma
  | _ => none

/-- What a character after a backslash stands for. -/
def unescape? : Char → Option Char
  | '"' => some '"'
  | '\\' => some '\\'
  | '/' => some '/'
  | 'b' => some '\x08'
  | 'f' => some '\x0c'
  | 'n' => some '\n'
  | 'r' => some '\r'
  | 't' => some '\t'
  | _ => none

/-- Control characters may stand in no text, and a code must be the code of a character. -/
def scan : Scan → Text → Option (List Token)
  | .between, [] => some []
  | _, [] => none
  | .between, c :: rest =>
    if isBlank c then scan .between rest
    else if c = '"' then scan (.text []) rest
    else if c = 't' then scan (.word ['r', 'u', 'e'] true) rest
    else if c = 'f' then scan (.word ['a', 'l', 's', 'e'] false) rest
    else (punctuation? c).bind fun s => (scan .between rest).map (s :: ·)
  | .word expected b, c :: rest =>
    if expected = [c] then (scan .between rest).map (.bool b :: ·)
    else if expected.head? = some c then scan (.word expected.tail b) rest
    else none
  | .text soFar, c :: rest =>
    if c = '"' then (scan .between rest).map (.string soFar.reverse :: ·)
    else if c = '\\' then scan (.escape soFar) rest
    else if c < ' ' then none
    else scan (.text (c :: soFar)) rest
  | .escape soFar, c :: rest =>
    if c = 'u' then scan (.code soFar 3 0) rest
    else (unescape? c).bind fun d => scan (.text (d :: soFar)) rest
  | .code soFar more value, c :: rest =>
    (Text.hexDigit? c).bind fun d =>
      match more with
      | 0 => (Regex.charOfCode? (16 * value + d)).bind fun c => scan (.text (c :: soFar)) rest
      | more + 1 => scan (.code soFar more (16 * value + d)) rest

/-- A text that is cut into the given tokens, whatever follows it. -/
def Scans (t : Text) (ts : List Token) : Prop := Text.IsCut (scan .between) t ts

namespace Scans

theorem nil : Scans [] [] := Text.IsCut.nil

theorem append {t u : Text} {ts us : List Token} (ht : Scans t ts) (hu : Scans u us) :
    Scans (t ++ u) (ts ++ us) := Text.IsCut.append ht hu

theorem blank {c : Char} (h : isBlank c = true) : Scans [c] [] := by
  intro u
  simp [scan, h]

theorem indent (depth : Nat) : Scans (Json.indent depth) [] := by
  unfold Json.indent
  induction 2 * depth with
  | zero => exact nil
  | succ n ih =>
    rw [List.replicate_succ]
    exact (blank (c := ' ') rfl).append ih

theorem punctuation {c : Char} {s : Token} (h : punctuation? c = some s) : Scans [c] [s] := by
  unfold punctuation? at h
  intro u
  split at h
  case h_5 => cases h
  all_goals
    cases h
    simp [scan, isBlank, punctuation?]

theorem boolText (b : Bool) : Scans (Json.boolText b) [.bool b] := by
  intro u
  cases b with
  | false => simp [Json.boolText, scan, isBlank]
  | true => simp [Json.boolText, scan, isBlank]

end Scans

/-! ## Texts -/

theorem hexDigit?_digitChar {d : Nat} (h : d < 16) : Text.hexDigit? d.digitChar = some d := by
  have all : ∀ d < 16, Text.hexDigit? d.digitChar = some d := by decide
  exact all d h

/-- The four digits of a control character are read as its code. -/
theorem scan_control {c : Char} (h : c < ' ') (soFar rest : Text) :
    scan (.escape soFar) ('u' :: '0' :: '0' :: Nat.digitChar (c.toNat / 16) ::
      Nat.digitChar (c.toNat % 16) :: rest) = scan (.text (c :: soFar)) rest := by
  have hlt : c.toNat < 32 := h
  have hzero : Text.hexDigit? '0' = some 0 := by decide
  have hfirst := hexDigit?_digitChar (d := c.toNat / 16) (by omega)
  have hsecond := hexDigit?_digitChar (d := c.toNat % 16) (by omega)
  have hcode : 16 * (c.toNat / 16) + c.toNat % 16 = c.toNat := Nat.div_add_mod _ _
  simp [scan, hzero, hfirst, hsecond, hcode, Regex.charOfCode?_toNat]

/-- **An escaped character is read as itself.** -/
theorem scan_escapeChar (c : Char) (soFar rest : Text) :
    scan (.text soFar) (escapeChar c ++ rest) = scan (.text (c :: soFar)) rest := by
  unfold escapeChar
  split
  case h_8 hquote hback _ _ _ _ _ =>
    split_ifs with hcontrol
    · rw [← scan_control hcontrol soFar rest]
      simp [scan]
    · have hquote : c ≠ '"' := hquote
      have hback : c ≠ '\\' := hback
      simp [scan, hquote, hback, hcontrol]
  all_goals simp [scan, unescape?]

theorem scan_text (t soFar rest : Text) :
    scan (.text soFar) (t.flatMap escapeChar ++ '"' :: rest) =
      (scan .between rest).map (.string (soFar.reverse ++ t) :: ·) := by
  induction t generalizing soFar with
  | nil => simp [scan]
  | cons c t ih =>
    rw [List.flatMap_cons, List.append_assoc, scan_escapeChar, ih]
    simp

theorem Scans.quote (t : Text) : Scans (Json.quote t) [.string t] := by
  intro u
  have hopen : scan .between (Json.quote t ++ u) =
      scan (.text []) (t.flatMap escapeChar ++ '"' :: u) := by
    simp [Json.quote, scan, isBlank]
  rw [hopen, scan_text]
  simp

end Json

/-! ## Values -/

mutual

def Json.tokens : Json → List Json.Token
  | .bool b => [.bool b]
  | .string t => [.string t]
  | .object members => .opening :: members.tokens ++ [.closing]

def Members.tokens : Members → List Json.Token
  | .nil => []
  | .cons key value rest =>
    .string key :: .colon :: value.tokens ++
      match rest with
      | .nil => []
      | .cons .. => .comma :: rest.tokens

end

namespace Json

theorem Scans.colon : Scans [':'] [.colon] := .punctuation rfl

theorem Scans.comma : Scans [','] [.comma] := .punctuation rfl

/-- What stands between braces is written as an object. -/
theorem Scans.object {t : Text} {members : Members} (h : Scans t members.tokens) :
    Scans ('{' :: t ++ ['}']) (Json.object members).tokens := by
  have hopening : Scans ['{'] [.opening] := .punctuation rfl
  have hclosing : Scans ['}'] [.closing] := .punctuation rfl
  rw [tokens]
  exact (hopening.append h).append hclosing

end Json

open Json in
mutual

theorem Json.scans_compact : ∀ j : Json, Scans j.compact j.tokens
  | .bool b => by
    rw [Json.compact, Json.tokens]
    exact .boolText b
  | .string t => by
    rw [Json.compact, Json.tokens]
    exact .quote t
  | .object members => by
    rw [Json.compact]
    exact .object members.scans_compact

theorem Members.scans_compact : ∀ members : Members, Scans members.compact members.tokens
  | .nil => .nil
  | .cons key value rest => by
    have hmember := (Scans.quote key).append (Scans.colon.append value.scans_compact)
    have hrest := rest.scans_compact
    cases rest with
    | nil => simpa [Members.compact, Members.tokens] using hmember
    | cons key' value' rest' =>
      simpa [Members.compact, Members.tokens] using hmember.append (Scans.comma.append hrest)

end

open Json in
mutual

theorem Json.scans_prettyAt : ∀ (j : Json) (depth : Nat), Scans (j.prettyAt depth) j.tokens
  | .bool b, depth => by
    rw [Json.prettyAt, Json.tokens]
    exact .boolText b
  | .string t, depth => by
    rw [Json.prettyAt, Json.tokens]
    exact .quote t
  | .object .nil, depth => by
    have hempty : Scans [] Members.nil.tokens := .nil
    rw [Json.prettyAt]
    exact hempty.object
  | .object (.cons key value rest), depth => by
    have hmembers := (Members.cons key value rest).scans_prettyAt (depth + 1)
    have hlines := ((Scans.blank (c := '\n') rfl).append hmembers).append (.indent depth)
    rw [List.nil_append, List.append_nil] at hlines
    simpa [Json.prettyAt] using hlines.object

theorem Members.scans_prettyAt : ∀ (members : Members) (depth : Nat),
    Scans (members.prettyAt depth) members.tokens
  | .nil, depth => .nil
  | .cons key value rest, depth => by
    have hfeed : Scans ['\n'] [] := .blank rfl
    have hspace : Scans [' '] [] := .blank rfl
    have hmember := (Scans.indent depth).append ((Scans.quote key).append
      (Scans.colon.append (hspace.append (value.scans_prettyAt depth))))
    have hrest := rest.scans_prettyAt depth
    cases rest with
    | nil => simpa [Members.prettyAt, Members.tokens] using hmember.append hfeed
    | cons key' value' rest' =>
      simpa [Members.prettyAt, Members.tokens] using
        hmember.append (Scans.comma.append (hfeed.append hrest))

end

/-! ## Taking in tokens -/

namespace Json

/-- An object that is still open: its members so far, and the key that waits for its value. -/
structure Frame where
  before : List (Text × Json)
  key : Text

/-- What is to come next. -/
inductive State where
  /-- A value. -/
  | value (outer : List Frame)
  /-- A key or the end of an object that was just opened. -/
  | first (outer : List Frame)
  /-- A key, and the colon after a key. -/
  | key (before : List (Text × Json)) (outer : List Frame)
  | colon (before : List (Text × Json)) (key : Text) (outer : List Frame)
  /-- A comma or the end of an object that has members. -/
  | more (before : List (Text × Json)) (outer : List Frame)
  | done (j : Json)

/-- A value is the whole text, or the value of the key that waits for it. -/
def give (j : Json) : List Frame → State
  | [] => .done j
  | f :: outer => .more (f.before ++ [(f.key, j)]) outer

def step : State → Token → Option State
  | .value outer, .bool b => some (give (.bool b) outer)
  | .value outer, .string t => some (give (.string t) outer)
  | .value outer, .opening => some (.first outer)
  | .first outer, .string key => some (.colon [] key outer)
  | .first outer, .closing => some (give (.object .nil) outer)
  | .key before outer, .string key => some (.colon before key outer)
  | .colon before key outer, .colon => some (.value (⟨before, key⟩ :: outer))
  | .more before outer, .comma => some (.key before outer)
  | .more before outer, .closing => some (give (.object (.ofList before)) outer)
  | _, _ => none

/-- The value that a text stands for. -/
def read? (t : Text) : Option Json := do
  let ts ← scan .between t
  let s ← ts.foldlM step (.value [])
  match s with
  | .done j => some j
  | _ => none

/-- Blanks may stand between any tokens, and any character may be given by its code. -/
example : read? "\x7b \"\\u0061\" :\tfalse , \"\": \x7b\x7d\n\x7d".toList =
    some (.object (.cons ['a'] (.bool false) (.cons [] (.object .nil) .nil))) := by rfl

/-- The tokens take the reader from one state to another. -/
inductive Takes : List Token → State → State → Prop where
  | nil (s : State) : Takes [] s s
  | cons {t : Token} {ts : List Token} {s s' s'' : State} :
    step s t = some s' → Takes ts s' s'' → Takes (t :: ts) s s''

namespace Takes

theorem single {t : Token} {s s' : State} (h : step s t = some s') : Takes [t] s s' :=
  .cons h (.nil s')

theorem append {ts us : List Token} {s s' s'' : State} (h : Takes ts s s')
    (h' : Takes us s' s'') : Takes (ts ++ us) s s'' := by
  induction h with
  | nil s => exact h'
  | cons hstep _ ih => exact .cons hstep (ih h')

theorem foldlM_eq {ts : List Token} {s s' : State} (h : Takes ts s s') :
    ts.foldlM step s = some s' := by
  induction h with
  | nil s => rfl
  | cons hstep _ ih => simp [hstep, ih]

end Takes

end Json

/-- Members as a list. -/
def Members.toList : Members → List (Text × Json)
  | .nil => []
  | .cons key value rest => (key, value) :: rest.toList

theorem Members.ofList_toList : ∀ members : Members, .ofList members.toList = members
  | .nil => rfl
  | .cons key value rest => congrArg (Members.cons key value) rest.ofList_toList

open Json in
mutual

/-- A value is taken in wherever one is to come. -/
theorem Json.takes_tokens : ∀ (j : Json) (outer : List Frame),
    Takes j.tokens (.value outer) (give j outer)
  | .bool b, outer => by
    rw [Json.tokens]
    exact .single rfl
  | .string t, outer => by
    rw [Json.tokens]
    exact .single rfl
  | .object .nil, outer => by
    rw [Json.tokens]
    exact .cons rfl (.single rfl)
  | .object (.cons key value rest), outer => by
    have hmembers := (Members.cons key value rest).takes_tokens nofun [] outer
    rw [List.nil_append] at hmembers
    have hobject : step (.more (Members.cons key value rest).toList outer) .closing =
        some (give (.object (.cons key value rest)) outer) := by
      rw [step, Members.ofList_toList]
    -- The first key is taken in after the opening brace as it is after a comma.
    obtain ⟨ts, hts⟩ : ∃ ts, (Members.cons key value rest).tokens = .string key :: ts := by
      cases rest with
      | nil => exact ⟨_, by rw [Members.tokens]; rfl⟩
      | cons key' value' rest' => exact ⟨_, by rw [Members.tokens]; rfl⟩
    rw [hts] at hmembers
    cases hmembers with
    | cons hkey hrest =>
      have hfirst : Takes (.string key :: ts) (.first outer) _ := .cons hkey hrest
      rw [Json.tokens, hts]
      exact .cons rfl (hfirst.append (.single hobject))

theorem Members.takes_tokens : ∀ (members : Members), members ≠ .nil →
    ∀ (before : List (Text × Json)) (outer : List Frame),
      Takes members.tokens (.key before outer) (.more (before ++ members.toList) outer)
  | .nil, h, _, _ => absurd rfl h
  | .cons key value rest, _, before, outer => by
    have hvalue := value.takes_tokens (⟨before, key⟩ :: outer)
    have hmember : Takes (.string key :: .colon :: value.tokens) (.key before outer)
        (.more (before ++ [(key, value)]) outer) := .cons rfl (.cons rfl hvalue)
    cases rest with
    | nil => simpa [Members.tokens, Members.toList] using hmember
    | cons key' value' rest' =>
      have hrest := (Members.cons key' value' rest').takes_tokens nofun
        (before ++ [(key, value)]) outer
      rw [List.append_assoc] at hrest
      rw [Members.tokens]
      exact hmember.append (.cons rfl hrest)

end

/-! ## Round trips -/

namespace Json

theorem read?_of_scans {t : Text} {j : Json} (h : Scans t j.tokens) : read? t = some j := by
  have hscan : scan .between t = some j.tokens := by
    have hend := h []
    simpa [scan] using hend
  have hfold := (j.takes_tokens []).foldlM_eq
  simp [read?, hscan, hfold, give]

/-- **What is written is read back**, in the short layout and in the long one. -/
theorem read?_compact (j : Json) : read? j.compact = some j :=
  read?_of_scans j.scans_compact

theorem read?_pretty (j : Json) : read? j.pretty = some j :=
  read?_of_scans (j.scans_prettyAt 0)

end Json
end SuffixPattern
