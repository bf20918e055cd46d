import SuffixPattern.CommandLine.Arguments
import SuffixPattern.CommandLine.Host
import SuffixPattern.Diagnostics
import SuffixPattern.Log
import SuffixPattern.Regex.Limits
import SuffixPattern.Regex.Reader
import SuffixPattern.Regex.Search

/-!
# SuffixPattern.CommandLine.Run

Running a command on a host. The outcome is an exit code, the lines for the standard output and the
lines for the error output, which holds the log and the reason of a failure.
-/

namespace SuffixPattern

structure Outcome where
  exit : Nat
  output : List String := []
  errors : List String := []
  deriving DecidableEq, Repr

namespace Outcome

/-- A line that is not understood. -/
def usage : Outcome := ⟨2, [], []⟩

/-- What follows a line feed is set in by four blanks. -/
def indented (line : String) : String :=
  String.ofList (line.toList.flatMap fun c => if c = '\n' then "\n    ".toList else [c])

/-- The records that are shown; those for debugging only in a verbose run. -/
def shown (verbose : Bool) (records : List Record) : List String :=
  (records.filter fun r => verbose || r.level ≠ .debug).map fun r => indented r.line

def success (verbose : Bool) (records : List Record) (output : List String) : Outcome :=
  ⟨0, output, shown verbose records⟩

def failure (verbose : Bool) (records : List Record) (output : List String) (f : Failure) :
    Outcome :=
  ⟨1, output, shown verbose records ++ [s!"Error: {f.message}"]⟩

end Outcome

def Source.origin : Source → Text
  | .file path => path
  | .url u => u

namespace Command

/-! ## Compiling a list -/

/-- The files that diagnostics consist of: the trees, the compact trees, the decoded labels, and the
list with the decoded forms. -/
def diagnosticFiles (directory : Text) (c : Compilation) (list : Text) : List (Text × Text) :=
  [(Path.join directory "tld_tree.json".toList, (Diagnostics.raw c).pretty),
    (Path.join directory "tld_itree.json".toList, (Diagnostics.compacted c).pretty),
    (Path.join directory "xntlds.json".toList, (Diagnostics.decodedLabels c.decodedLabels).pretty),
    (Path.join directory "tlds.txt".toList, list)]

/-- Everything that a compilation writes, in order. -/
def compiledFiles (output : Text) (diagnostics : Option Text) (c : Compilation) (list : Text) :
    List (Text × Text) :=
  (output, c.pattern) ::
    match diagnostics with
    | none => []
    | some directory => diagnosticFiles directory c list

def compiledSummary (origin output : Text) (o : Options) (l : SuffixList) (c : Compilation) :
    List String :=
  [s!"Compiled '{String.ofList origin}' to '{String.ofList output}'",
    s!"  Lines:    {l.stats.lines}",
    s!"  Suffixes: {l.literal.size} literal, {l.decoded.size} decoded " ++
      s!"({l.stats.skipped} skipped, {l.stats.duplicates} duplicates)",
    s!"  Pattern:  {c.pattern.byteLength} bytes ({o.orientation.name} orientation)"]

variable {m : Type → Type} [Monad m] (host : Host m)

def obtainText : Source → m (Except Failure Text)
  | .file path => host.read path
  | .url u => host.download u

def runCompile (source : Source) (output : Text) (options : Options) (verbose : Bool)
    (diagnostics : Option Text) : m Outcome := do
  let requested : List Record :=
    match source with
    | .file _ => []
    | .url u => [.requested u]
  match ← obtainText host source with
  | .error f => pure (.failure verbose requested [] f)
  | .ok text =>
    let reading := SuffixList.readText (.pure Decoding.decode) () text
    let records := requested ++ Log.ofReading reading
    match reading.result with
    | .error e => pure (.failure verbose records [] (.parse source.origin e))
    | .ok l =>
      let c := Compilation.ofList l options
      let records := records ++ Log.ofCompilation l c
      let files := compiledFiles output diagnostics c (l.render text)
      match ← host.writeAll files with
      | .error f => pure (.failure verbose records [] f)
      | .ok () =>
        let wrote := files.tail.map fun f => Record.wrote f.1
        pure (.success verbose (records ++ wrote)
          (compiledSummary source.origin output options l c))

/-! ## Checking a pattern -/

/-- The expression that a pattern stands for when all of a text must match it. -/
def wholeMatch? (pattern : Text) : Option Regex.Expr :=
  (Regex.Expr.read? (['^', '(', '?', ':'] ++ pattern ++ [')', '$'])).filter (·.isWithinLimits)

/-- The members of a list that an expression does not match, those as written first. -/
def unmatched (e : Regex.Expr) (l : SuffixList) : List Text :=
  (l.literal.toList ++ l.decoded.toList).filter fun suffix => !e.occursIn suffix

/-- How many members are named. -/
def namedMembers : Nat := 20

def checkedSummary (input pattern : Text) (l : SuffixList) (missing : List Text) : List String :=
  [s!"Checked '{String.ofList pattern}' against '{String.ofList input}'",
    s!"  Suffixes: {l.length}",
    s!"  Missing:  {missing.length}"] ++
    (missing.take namedMembers).map (fun suffix => s!"    {String.ofList suffix}") ++
    if missing.length > namedMembers then
      [s!"    ... and {missing.length - namedMembers} more"]
    else []

def runCheck (input pattern : Text) : m Outcome := do
  match ← host.read input with
  | .error f => pure (.failure false [] [] f)
  | .ok text =>
    let reading := SuffixList.readText (.pure Decoding.decode) () text
    let records := Log.ofReading reading
    match reading.result with
    | .error e => pure (.failure false records [] (.parse input e))
    | .ok l =>
      match ← host.read pattern with
      | .error f => pure (.failure false records [] f)
      | .ok written =>
        match wholeMatch? (written.trimEnd Unicode.isBlank) with
        | none => pure (.failure false records [] (.pattern pattern))
        | some e =>
          let missing := unmatched e l
          let summary := checkedSummary input pattern l missing
          if missing.isEmpty then pure (.success false records summary)
          else pure (.failure false records summary (.unmatched missing.length))

/-! ## Fetching a list -/

def runFetch (url output : Text) : m Outcome := do
  match ← host.download url with
  | .error f => pure (.failure false [.requested url] [] f)
  | .ok text =>
    match ← host.writeText output text with
    | .error f => pure (.failure false [.requested url] [] f)
    | .ok () =>
      pure (.success false [.requested url]
        [s!"Downloaded '{String.ofList url}' to '{String.ofList output}' " ++
          s!"({text.byteLength} bytes)"])

def run : Command → m Outcome
  | .compile source output options verbose diagnostics =>
    runCompile host source output options verbose diagnostics
  | .check input pattern => runCheck host input pattern
  | .fetch url output => runFetch host url output

/-- Runs a command line. -/
def runLine (args : List Text) : m Outcome :=
  match ofArguments? args with
  | none => pure .usage
  | some c => c.run host

end Command
end SuffixPattern
