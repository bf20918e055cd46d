import SuffixPattern.Compilation

/-!
# SuffixPattern.CommandLine.Arguments

The command line: a command and its options. An option has a long name and perhaps a short one, and
either takes a value or is a flag. Whatever is not understood makes the whole line invalid.
-/

namespace SuffixPattern

structure OptionSpec where
  long : Text
  short : Option Char := none
  takesValue : Bool := true

namespace OptionSpec

/-- What one argument says: the options it sets, flags with an empty value, and the option that
waits for the next argument as its value. -/
structure Reading where
  given : List (Text × Text) := []
  waiting : Option Text := none

/-- An argument `--name` or `--name=value`, without its hyphens. -/
def readLong? (specs : List OptionSpec) (t : Text) : Option Reading :=
  let (name, value) := t.cutAt '='
  (specs.find? (·.long = name)).bind fun spec =>
    match spec.takesValue, value with
    | true, some v => some { given := [(name, v)] }
    | true, none => some { waiting := some name }
    | false, some _ => none
    | false, none => some { given := [(name, [])] }

/-- A row of short names without their hyphen. What follows a name that takes a value is the value,
with an equals sign in between or not. -/
def readShort? (specs : List OptionSpec) : Text → Option Reading
  | [] => some {}
  | c :: rest =>
    (specs.find? (·.short = some c)).bind fun spec =>
      if spec.takesValue then
        match rest with
        | [] => some { waiting := some spec.long }
        | '=' :: value => some { given := [(spec.long, value)] }
        | value => some { given := [(spec.long, value)] }
      else
        (readShort? specs rest).map fun r => { r with given := (spec.long, []) :: r.given }

/-- Any argument that begins with a hyphen is an option, except the hyphen alone. -/
def isOption : Text → Bool
  | '-' :: _ :: _ => true
  | _ => false

def readArgument? (specs : List OptionSpec) : Text → Option Reading
  | '-' :: '-' :: t => readLong? specs t
  | '-' :: c :: t => readShort? specs (c :: t)
  | _ => none

/-- The options set by the arguments, in order. Two hyphens end the options, and no command takes
anything else. -/
def read? (specs : List OptionSpec) : List Text → Option (List (Text × Text))
  | [] => some []
  | ['-', '-'] :: rest => if rest.isEmpty then some [] else none
  | arg :: rest =>
    match readArgument? specs arg with
    | none => none
    | some ⟨given, none⟩ => (read? specs rest).map (given ++ ·)
    | some ⟨given, some name⟩ =>
      match rest with
      | [] => none
      | value :: rest =>
        if isOption value then none
        else (read? specs rest).map fun more => given ++ (name, value) :: more

/-- No option may be set twice. -/
def readOnce? (specs : List OptionSpec) (args : List Text) : Option (List (Text × Text)) :=
  (read? specs args).bind fun given =>
    if (given.map Prod.fst).Nodup then some given else none

end OptionSpec

/-! ## Commands -/

inductive Source where
  | file (path : Text)
  | url (url : Text)
  deriving DecidableEq, Repr

inductive Command where
  | compile (source : Source) (output : Text) (options : Options) (verbose : Bool)
      (diagnostics : Option Text)
  | check (input pattern : Text)
  | fetch (url output : Text)
  deriving DecidableEq, Repr

namespace Command

def defaultUrl : Text := "http://data.iana.org/TLD/tlds-alpha-by-domain.txt".toList
def defaultPattern : Text := "tldregex.txt".toList
def defaultList : Text := "tlds-alpha-by-domain.txt".toList

def input : OptionSpec := ⟨"input".toList, some 'i', true⟩
def url : OptionSpec := ⟨"url".toList, none, true⟩
def output : OptionSpec := ⟨"output".toList, some 'o', true⟩
def orientation : OptionSpec := ⟨"orientation".toList, none, true⟩
def groupName : OptionSpec := ⟨"group-name".toList, none, true⟩
def verbose : OptionSpec := ⟨"verbose".toList, some 'v', false⟩
def diagnostics : OptionSpec := ⟨"diagnostics-dir".toList, none, true⟩
def pattern : OptionSpec := ⟨"pattern".toList, some 'p', true⟩

def value? (given : List (Text × Text)) (spec : OptionSpec) : Option Text :=
  given.lookup spec.long

/-- A list comes from a file or from a URL, and from the default URL if neither is given. -/
def source? (given : List (Text × Text)) : Option Source :=
  match value? given input, value? given url with
  | some _, some _ => none
  | some path, none => some (.file path)
  | none, some u => some (.url u)
  | none, none => some (.url defaultUrl)

def orientation? (given : List (Text × Text)) : Option Orientation :=
  match value? given orientation with
  | none => some .fromEnd
  | some name => Orientation.ofName? name

/-- Diagnostics go to the working directory if the run is verbose and names no other. -/
def diagnosticsOf (given : List (Text × Text)) : Option Text :=
  match value? given diagnostics, value? given verbose with
  | some directory, _ => some directory
  | none, some _ => some ['.']
  | none, none => none

def compile? (args : List Text) : Option Command := do
  let specs := [input, url, output, orientation, groupName, verbose, diagnostics]
  let given ← OptionSpec.readOnce? specs args
  let source ← source? given
  let o ← orientation? given
  let name := (value? given groupName).getD Pattern.defaultGroupName
  some (.compile source ((value? given output).getD defaultPattern) ⟨o, name⟩
    (value? given verbose).isSome (diagnosticsOf given))

def check? (args : List Text) : Option Command := do
  let given ← OptionSpec.readOnce? [input, pattern] args
  let path ← value? given input
  some (.check path ((value? given pattern).getD defaultPattern))

def fetch? (args : List Text) : Option Command := do
  let given ← OptionSpec.readOnce? [url, output] args
  some (.fetch ((value? given url).getD defaultUrl) ((value? given output).getD defaultList))

/-- The command that a line asks for. -/
def ofArguments? : List Text → Option Command
  | [] => none
  | name :: args =>
    match String.ofList name with
    | "compile" => compile? args
    | "check" => check? args
    | "fetch" => fetch? args
    | _ => none

end Command
end SuffixPattern
