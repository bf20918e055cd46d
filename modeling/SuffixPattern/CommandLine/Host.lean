import SuffixPattern.CommandLine.Path
import SuffixPattern.SuffixList

/-!
# SuffixPattern.CommandLine.Host

What a run needs from the system it runs on, and how its operations fail. `Host.writeText` makes the
directories that are missing above a file before it writes the file.
-/

namespace SuffixPattern

/-- Why the system refuses an operation. -/
inductive Fault where
  | notFound
  | alreadyExists
  | notDirectory
  | isDirectory
  | nameTooLong
  | notText
  | other (reason : String)
  deriving DecidableEq, Repr

def Fault.message : Fault → String
  | .notFound => "No such file or directory (os error 2)"
  | .alreadyExists => "File exists (os error 17)"
  | .notDirectory => "Not a directory (os error 20)"
  | .isDirectory => "Is a directory (os error 21)"
  | .nameTooLong => "File name too long (os error 36)"
  | .notText => "stream did not contain valid UTF-8"
  | .other reason => reason

/-- Why a run ends without success. -/
inductive Failure where
  | read (path : Text) (fault : Fault)
  | create (path : Text) (fault : Fault)
  | write (path : Text) (fault : Fault)
  | fetch (url : Text)
  | parse (origin : Text) (entry : InvalidEntry)
  | pattern (path : Text)
  | unmatched (count : Nat)
  deriving DecidableEq, Repr

def Failure.message : Failure → String
  | .read path fault => s!"Failed to read '{String.ofList path}': {fault.message}"
  | .create path fault => s!"Failed to create '{String.ofList path}': {fault.message}"
  | .write path fault => s!"Failed to write '{String.ofList path}': {fault.message}"
  | .fetch url => s!"Failed to fetch '{String.ofList url}'"
  | .parse origin entry => s!"Failed to parse '{String.ofList origin}': {entry.message}"
  | .pattern path => s!"Invalid pattern in '{String.ofList path}'"
  | .unmatched count => s!"{count} suffix(es) not matched by the pattern"

structure Host (m : Type → Type) where
  readText : Text → m (Except Fault Text)
  writeFile : Text → Text → m (Except Fault Unit)
  makeDirectory : Text → m (Except Fault Unit)
  isDirectory : Text → m Bool
  fetch : Text → m (Option Text)

namespace Host

variable {m : Type → Type} [Monad m] (host : Host m)

/-- A directory that cannot be made may be there already. -/
def accept (path : Text) (made : Except Fault Unit) : m (Except Fault Unit) :=
  match made with
  | .ok () => pure (.ok ())
  | .error fault => do
    if ← host.isDirectory path then pure (.ok ()) else pure (.error fault)

/-- Makes a directory, given with the directories above it, nearest first. Those above are made only
if the first attempt finds that there is nothing to put the directory in. -/
def makeDirectories : List Text → m (Except Fault Unit)
  | [] => pure (.ok ())
  | path :: above => do
    match ← host.makeDirectory path with
    | .error .notFound =>
      match ← makeDirectories above with
      | .error fault => pure (.error fault)
      | .ok () => host.accept path (← host.makeDirectory path)
    | made => host.accept path made

def writeText (path contents : Text) : m (Except Failure Unit) := do
  let above := Path.ancestors path
  match ← host.makeDirectories above with
  | .error fault => pure (.error (.create (above.headD []) fault))
  | .ok () =>
    match ← host.writeFile path contents with
    | .error fault => pure (.error (.write path fault))
    | .ok () => pure (.ok ())

/-- Writes files one after the other until one cannot be written. -/
def writeAll : List (Text × Text) → m (Except Failure Unit)
  | [] => pure (.ok ())
  | (path, contents) :: rest => do
    match ← host.writeText path contents with
    | .error failure => pure (.error failure)
    | .ok () => writeAll rest

def read (path : Text) : m (Except Failure Text) := do
  match ← host.readText path with
  | .error fault => pure (.error (.read path fault))
  | .ok text => pure (.ok text)

def download (url : Text) : m (Except Failure Text) := do
  match ← host.fetch url with
  | none => pure (.error (.fetch url))
  | some text => pure (.ok text)

end Host
end SuffixPattern
