import SuffixPattern.Regex.Expr
import SuffixPattern.Unicode.Word

/-!
# SuffixPattern.Regex.Reader

Reading an expression from its written form. Escapes are resolved first (`scan`), so that every
remaining symbol is one character written as itself, one escaped character or an assertion. The
symbols are then taken in one by one (`Reader.step`), with the groups that are still open on a
stack. Text that is not well formed, or that is outside the dialect, has no expression.
-/

namespace SuffixPattern
namespace Regex

/-! ## Symbols -/

inductive Symbol where
  | plain (c : Char)
  | escaped (c : Char)
  | boundary
  | interior
  deriving DecidableEq, Repr

/-- What a single character after a backslash stands for. Letters and digits would be shorthands. -/
def Symbol.ofEscape? (c : Char) : Option Symbol :=
  if c = 'b' then some .boundary
  else if c = 'B' then some .interior
  else if c.toNat < 128 ∧ !c.isAlphanum ∧ c ≠ '<' ∧ c ≠ '>' then some (.escaped c)
  else none

def charOfCode? (n : Nat) : Option Char :=
  if n.isValidChar then some (Char.ofNat n) else none

/-- Where a scan stands: between symbols, after a backslash, after a backslash and an `x`, or among
the hexadecimal digits between braces. -/
inductive Scan where
  | between
  | escape
  | code
  | digits (value : Option Nat)

def scan : Scan → Text → Option (List Symbol)
  | .between, [] => some []
  | _, [] => none
  | .between, c :: rest =>
    if c = '\\' then scan .escape rest else (scan .between rest).map (.plain c :: ·)
  | .escape, c :: rest =>
    if c = 'x' then scan .code rest
    else (Symbol.ofEscape? c).bind fun s => (scan .between rest).map (s :: ·)
  | .code, c :: rest => if c = '{' then scan (.digits none) rest else none
  | .digits value, c :: rest =>
    if c = '}' then
      (value.bind charOfCode?).bind fun c => (scan .between rest).map (.escaped c :: ·)
    else
      (Text.hexDigit? c).bind fun d => scan (.digits (some (16 * value.getD 0 + d))) rest

/-! ## Groups -/

/-- What a closing parenthesis will close; the whole expression has none. -/
inductive Opening where
  | whole
  | group
  | capture (name : Text)
  deriving DecidableEq, Repr

/-- A group that is still open: its finished alternatives and the items of the current one, both
last first. -/
structure Frame where
  opening : Opening
  alternatives : List Expr := []
  items : List Expr := []
  deriving DecidableEq, Repr

namespace Frame

def push (e : Expr) (f : Frame) : Frame :=
  { f with items := e :: f.items }

def nextAlternative (f : Frame) : Frame :=
  { f with alternatives := Expr.ofItems f.items.reverse :: f.alternatives, items := [] }

def body (f : Frame) : Expr :=
  Expr.ofAlternatives f.nextAlternative.alternatives.reverse

/-- Applies a repetition to the last item, which must not carry one already. -/
def quantify? (repetition : Expr → Expr) (f : Frame) : Option Frame :=
  match f.items with
  | [] => none
  | .opt _ :: _ => none
  | .star _ :: _ => none
  | e :: rest => some { f with items := repetition e :: rest }

end Frame

/-- A name begins with a letter or an underscore; digits, dots and brackets may follow. -/
def isGroupName : Text → Bool
  | [] => false
  | c :: rest =>
    (c = '_' || Unicode.isAlphabetic c) &&
      rest.all fun c => c ∈ ['_', '.', '[', ']'] || Unicode.isAlphanumeric c

/-! ## Taking in symbols -/

inductive Mode where
  /-- Among the items of an alternative. -/
  | body
  /-- After `(`, and after `(?`. -/
  | opened
  | opening
  /-- Inside the name of a group, of which the characters so far are kept last first. -/
  | name (soFar : Text)
  /-- After `[`, and among the items of a class, kept last first. -/
  | bracket
  | items (negated : Bool) (soFar : List ClassItem)
  /-- After the hyphen of a range. -/
  | range (negated : Bool) (soFar : List ClassItem) (first : Char)
  deriving DecidableEq, Repr

structure Reader where
  top : Frame
  outer : List Frame := []
  mode : Mode := .body
  deriving DecidableEq, Repr

namespace Reader

def push (e : Expr) (r : Reader) : Reader :=
  { r with top := r.top.push e, mode := .body }

def openGroup (opening : Opening) (r : Reader) : Reader :=
  ⟨⟨opening, [], []⟩, r.top :: r.outer, .body⟩

def close? (r : Reader) : Option Reader :=
  match r.outer with
  | [] => none
  | f :: outer =>
    match r.top.opening with
    | .whole => none
    | .group => some ⟨f.push (.group r.top.body), outer, .body⟩
    | .capture name => some ⟨f.push (.capture name r.top.body), outer, .body⟩

/-- A character among the items of a class. Nested classes and set operators are refused. -/
def classStep (negated : Bool) (soFar : List ClassItem) (r : Reader) : Symbol → Option Reader
  | .escaped c => some { r with mode := .items negated (.single c :: soFar) }
  | .plain ']' =>
    if soFar.isEmpty then none else some (r.push (.set negated soFar.reverse))
  | .plain '-' =>
    match soFar with
    | .single c :: before => some { r with mode := .range negated before c }
    | _ => none
  | .plain c =>
    if c ∈ ['[', '&', '~'] then none
    else some { r with mode := .items negated (.single c :: soFar) }
  | _ => none

def rangeStep (negated : Bool) (soFar : List ClassItem) (first last : Char) (r : Reader) :
    Option Reader :=
  if first ≤ last then some { r with mode := .items negated (.range first last :: soFar) }
  else none

def bodyStep (r : Reader) : Symbol → Option Reader
  | .escaped c => some (r.push (.char c))
  | .boundary => some (r.push .boundary)
  | .interior => some (r.push .interior)
  | .plain '(' => some { r with mode := .opened }
  | .plain ')' => r.close?
  | .plain '|' => some { r with top := r.top.nextAlternative }
  | .plain '[' => some { r with mode := .bracket }
  | .plain '?' => (r.top.quantify? .opt).map fun f => { r with top := f }
  | .plain '*' => (r.top.quantify? .star).map fun f => { r with top := f }
  | .plain '.' => some (r.push .any)
  | .plain '^' => some (r.push .start)
  | .plain '$' => some (r.push .finish)
  | .plain c => if c ∈ ['+', '{'] then none else some (r.push (.char c))

def step (r : Reader) (s : Symbol) : Option Reader :=
  match r.mode with
  | .body => r.bodyStep s
  | .opened => if s = .plain '?' then some { r with mode := .opening } else none
  | .opening =>
    if s = .plain ':' then some (r.openGroup .group)
    else if s = .plain '<' then some { r with mode := .name [] }
    else none
  | .name soFar =>
    match s with
    | .plain c =>
      if c ≠ '>' then some { r with mode := .name (c :: soFar) }
      else if isGroupName soFar.reverse then some (r.openGroup (.capture soFar.reverse))
      else none
    | _ => none
  | .bracket =>
    if s = .plain '^' then some { r with mode := .items true [] } else r.classStep false [] s
  | .items negated soFar => r.classStep negated soFar s
  | .range negated soFar first =>
    match s with
    | .escaped c => r.rangeStep negated soFar first c
    | .plain c => if c ∈ classSpecial then none else r.rangeStep negated soFar first c
    | _ => none

def start : Reader := ⟨⟨.whole, [], []⟩, [], .body⟩

/-- The expression that has been read, if nothing is left open. -/
def finish? (r : Reader) : Option Expr :=
  match r.mode, r.outer with
  | .body, [] => some r.top.body
  | _, _ => none

end Reader

/-- The expression that a text is the written form of. No two groups have the same name. -/
def Expr.read? (t : Text) : Option Expr := do
  let symbols ← scan .between t
  let reader ← symbols.foldlM Reader.step .start
  let e ← reader.finish?
  if e.names.Nodup then some e else none

end Regex
end SuffixPattern
