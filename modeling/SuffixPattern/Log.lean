import SuffixPattern.Compilation

/-!
# SuffixPattern.Log

What the steps of a run report, in the order in which they report it. The records of a step follow
from its result, so the steps themselves stay free of them.
-/

namespace SuffixPattern

inductive Level where
  | debug
  | info
  | warn
  deriving DecidableEq, Repr

def Level.name : Level → String
  | .debug => "DEBUG"
  | .info => "INFO"
  | .warn => "WARN"

inductive Record where
  | skipped (entry : Skipped)
  | parsed (stats : Stats)
  | compacted (nodes edges : Nat)
  | noSuffixes
  | compiled (literal decoded bytes : Nat)
  | requested (url : Text)
  | wrote (path : Text)
  deriving DecidableEq, Repr

namespace Record

def level : Record → Level
  | .skipped _ => .warn
  | .noSuffixes => .warn
  | .wrote _ => .info
  | _ => .debug

def target : Record → String
  | .skipped _ => "tld_compiler::parser"
  | .parsed _ => "tld_compiler::parser"
  | .compacted .. => "tld_core::compact"
  | .noSuffixes => "tld_core::assemble"
  | .compiled .. => "tld_compiler::builder"
  | .requested _ => "tld_cli::fetch"
  | .wrote _ => "tld_cli"

def message : Record → String
  | .skipped e =>
    s!"Skipping decoded form of '{String.ofList e.suffix}' (line {e.line}): " ++ e.reason.message
  | .parsed s =>
    s!"parsed {s.entries} entries ({s.decoded} decoded, {s.skipped} skipped, " ++
      s!"{s.duplicates} duplicates)"
  | .compacted nodes edges => s!"compacted trie: {nodes} nodes -> {edges} edges"
  | .noSuffixes => "no suffixes to compile; emitting a pattern that never matches"
  | .compiled literal decoded bytes =>
    s!"compiled {literal} literal and {decoded} decoded suffixes into {bytes} bytes"
  | .requested url => s!"GET {String.ofList url}"
  | .wrote path => s!"Wrote {String.ofList path}"

def line (r : Record) : String :=
  s!"{r.level.name} {r.target}: {r.message}"

end Record

namespace Log

def ofSkipped (l : SuffixList) : List Record :=
  l.skipped.map .skipped

/-- A text that was read to its end is summed up. -/
def ofReading {σ : Type} (r : SuffixList.Reading σ) : List Record :=
  ofSkipped r.list ++ if r.fault.isNone then [.parsed r.list.stats] else []

def ofCompaction (t : Trie) : Record :=
  .compacted t.root.size t.compact.edges

def ofAssembly (literal decoded : Text) : List Record :=
  if literal.isEmpty && decoded.isEmpty then [.noSuffixes] else []

def ofCompilation (l : SuffixList) (c : Compilation) : List Record :=
  [ofCompaction c.literal, ofCompaction c.decoded] ++
    ofAssembly c.literalCompact.compile c.decodedCompact.compile ++
    [.compiled l.literal.size l.decoded.size c.pattern.byteLength]

end Log
end SuffixPattern
