import SuffixPattern.CommandLine.Host

/-!
# SuffixPattern.CommandLine.FileSystem

Files and directories below a working directory as a value, and the system operations on it. A place
is given by the names that lead there from the working directory. What lies outside has names that
begin with two dots, and nothing is known of it but that the directories above are there.
-/

namespace SuffixPattern

inductive FileEntry where
  | file (contents : List UInt8)
  | directory
  deriving DecidableEq

/-- What stands at each place. -/
structure FileSystem where
  entries : SortedMap (List Text) FileEntry := .empty
  deriving DecidableEq, Inhabited

namespace FileSystem

/-- The working directory and the directories above it. -/
def isAbove (place : List Text) : Bool :=
  place.all (· = ['.', '.'])

def entry? (fs : FileSystem) (place : List Text) : Option FileEntry :=
  if isAbove place then some .directory else fs.entries.get? place

def put (place : List Text) (e : FileEntry) (fs : FileSystem) : FileSystem :=
  ⟨fs.entries.insert place e⟩

/-- How many bytes a name may have. -/
def longestName : Nat := 255

/-- How many bytes a path may have. -/
def longestPath : Nat := 4095

/-- Follows names from a place. All places but the last must be directories. -/
def walk (fs : FileSystem) (place : List Text) : List Text → Except Fault (List Text)
  | [] => .ok place
  | name :: rest =>
    match fs.entry? place with
    | none => .error .notFound
    | some (.file _) => .error .notDirectory
    | some .directory =>
      if name = ['.'] then fs.walk place rest
      else if name = ['.', '.'] ∧ !isAbove place then fs.walk place.dropLast rest
      else if name.byteLength ≤ longestName then fs.walk (place ++ [name]) rest
      else .error .nameTooLong

/-- The root of the system is one of the directories above. -/
def resolve (fs : FileSystem) (path : Text) : Except Fault (List Text) :=
  if path = [] then .error .notFound
  else if longestPath < path.byteLength then .error .nameTooLong
  else fs.walk (if Path.isAbsolute path then [['.', '.']] else []) (Path.names path)

/-! ## Operations -/

def readBytes (fs : FileSystem) (path : Text) : Except Fault (List UInt8) :=
  match fs.resolve path with
  | .error fault => .error fault
  | .ok place =>
    match fs.entry? place with
    | none => .error .notFound
    | some .directory => .error .isDirectory
    | some (.file contents) =>
      if Path.namesDirectory path then .error .notDirectory else .ok contents

def decodeText (contents : List UInt8) : Except Fault Text :=
  match String.fromUTF8? ⟨⟨contents⟩⟩ with
  | none => .error .notText
  | some s => .ok s.toList

def encodeText (t : Text) : List UInt8 := (String.ofList t).toUTF8.data.toList

def readText (fs : FileSystem) (path : Text) : Except Fault Text :=
  match fs.readBytes path with
  | .error fault => .error fault
  | .ok contents => decodeText contents

def writeFile (fs : FileSystem) (path contents : Text) : Except Fault FileSystem :=
  match fs.resolve path with
  | .error fault => .error fault
  | .ok place =>
    if Path.namesDirectory path ∨ fs.entry? place = some .directory then .error .isDirectory
    else .ok (fs.put place (.file (encodeText contents)))

def makeDirectory (fs : FileSystem) (path : Text) : Except Fault FileSystem :=
  match fs.resolve path with
  | .error fault => .error fault
  | .ok place =>
    if (fs.entry? place).isSome then .error .alreadyExists else .ok (fs.put place .directory)

def isDirectory (fs : FileSystem) (path : Text) : Bool :=
  match fs.resolve path with
  | .error _ => false
  | .ok place => fs.entry? place = some .directory

/-- An operation that fails changes nothing. -/
def change (operation : FileSystem → Except Fault FileSystem) :
    StateM FileSystem (Except Fault Unit) := fun fs =>
  match operation fs with
  | .error fault => (.error fault, fs)
  | .ok fs' => (.ok (), fs')

/-- A system with these files and without a network. -/
def host : Host (StateM FileSystem) where
  readText path := fun fs => (fs.readText path, fs)
  writeFile path contents := change (·.writeFile path contents)
  makeDirectory path := change (·.makeDirectory path)
  isDirectory path := fun fs => (fs.isDirectory path, fs)
  fetch _ := pure none

/-! ## Contents -/

/-- A file with the directories above it. -/
def addFile (path : Text) (contents : List UInt8) (fs : FileSystem) : FileSystem :=
  let place := (Path.names path).filter (· ≠ ['.'])
  let above := (List.range place.length).filterMap fun n =>
    if n = 0 then none else some (place.take n)
  (above.foldl (fun fs d => fs.put d .directory) fs).put place (.file contents)

/-- The files below the working directory, with their paths. -/
def files (fs : FileSystem) : List (Text × List UInt8) :=
  fs.entries.entries.filterMap fun
    | (place, .file contents) =>
      if place.head? = some ['.', '.'] then none else some (Text.join ['/'] place, contents)
    | (_, .directory) => none

end FileSystem
end SuffixPattern
