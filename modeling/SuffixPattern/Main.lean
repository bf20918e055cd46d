import SuffixPattern.CommandLine.Run

/-!
# SuffixPattern.Main

The program: a command line run on the real system. There is no network behind it, so a list can be
read from a file only.
-/

namespace SuffixPattern
namespace Real

def faultOf : IO.Error → Fault
  | .noFileOrDirectory .. => .notFound
  | .alreadyExists .. => .alreadyExists
  | .inappropriateType _ 20 _ => .notDirectory
  | .inappropriateType _ 21 _ => .isDirectory
  | .invalidArgument _ 36 _ => .nameTooLong
  | e => .other (toString e)

def attempt {α : Type} (action : IO α) : IO (Except Fault α) := do
  try
    return .ok (← action)
  catch e =>
    return .error (faultOf e)

def readText (path : Text) : IO (Except Fault Text) := do
  match ← attempt (IO.FS.readBinFile (String.ofList path)) with
  | .error fault => return .error fault
  | .ok bytes =>
    match String.fromUTF8? bytes with
    | none => return .error .notText
    | some s => return .ok s.toList

/-- What can be entered is a directory. -/
def isDirectory (path : Text) : IO Bool := do
  match ← attempt (IO.FS.realPath (String.ofList (Path.join path ['.']))) with
  | .error _ => return false
  | .ok _ => return true

def host : Host IO where
  readText := readText
  writeFile path contents :=
    attempt (IO.FS.writeFile (String.ofList path) (String.ofList contents))
  makeDirectory path := attempt (IO.FS.createDir (String.ofList path))
  isDirectory := isDirectory
  fetch _ := return none

end Real
end SuffixPattern

open SuffixPattern in
def main (args : List String) : IO UInt32 := do
  let outcome ← Command.runLine Real.host (args.map String.toList)
  outcome.errors.forM IO.eprintln
  outcome.output.forM IO.println
  return outcome.exit.toUInt32
