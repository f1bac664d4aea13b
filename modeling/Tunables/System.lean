import Tunables.Abort
import Tunables.FileSystem.Change

/-!
The system that a command acts on: files, operations that are bound to fail, and the audit log's
open stream. Every operation on a file asks first whether it is bound to fail on exactly the path
given.
-/

namespace Tunables

/-- What was written to a file is flushed when the file is closed. -/
inductive Operation
  | opening
  | reading
  | writing
  | flushing
  | closing
  | listing
  | inspecting
  | loading
  deriving DecidableEq, Repr

structure Fault where
  path : Text
  operation : Operation
  errno : Errno
  deriving DecidableEq, Repr

inductive Target
  | file (location : Location)
  | null
  deriving DecidableEq

/-- The log is flushed with every record. What that was refused with is `pending` until the stream
is closed. -/
structure LogStream where
  path : Path
  target : Target
  pending : Option Errno
  deriving DecidableEq

/-- The times at which records are made. When no later one is known, the time stands still. -/
structure Clock where
  now : Text
  later : List Text
  deriving DecidableEq

def Clock.tick : Clock → Clock
  | ⟨now, []⟩ => ⟨now, []⟩
  | ⟨_, next :: later⟩ => ⟨next, later⟩

structure System where
  files : FileSystem
  faults : List Fault
  log : Option LogStream
  clock : Clock
  deriving DecidableEq

/-- The operating system refuses an operation, or cannot even be asked for it. -/
inductive Trouble
  | abort (reason : Abort)
  | errno (errno : Errno)
  deriving DecidableEq, Repr

namespace System

def fault? (system : System) (operation : Operation) (path : Path) : Option Errno :=
  let relevant := system.faults.filter fun fault =>
    fault.operation = operation && fault.path = path.render
  relevant.getLast?.map (·.errno)

def openExisting (system : System) (path : Path) : Except Trouble Target :=
  if path.hasNul then .error (.abort .embeddedNul)
  else
    match system.fault? .opening path with
    | some errno => .error (.errno errno)
    | none =>
      match Place.ofPath system.files path with
      | .error errno => .error (.errno errno)
      | .ok (.file location) => .ok (.file location)
      | .ok .null => .ok .null
      | .ok (.absent _) => .error (.errno .notFound)
      | .ok (.directory _) => .error (.errno .isDirectory)

def content (system : System) : Target → Bytes
  | .file location => system.files.content location
  | .null => []

def replace (system : System) (target : Target) (content : Bytes) : System :=
  match target with
  | .file location => { system with files := system.files.write location content }
  | .null => system

/-- What an operation on an opened file fails with. A failure to close takes the place of the one
before it. -/
def refusal? (system : System) (path : Path) (failure : Option Errno) : Option Errno :=
  (system.fault? .closing path).or failure

def readFile (system : System) (path : Path) : Except Trouble Bytes :=
  match system.openExisting path with
  | .error trouble => .error trouble
  | .ok target =>
    match system.refusal? path (system.fault? .reading path) with
    | some errno => .error (.errno errno)
    | none => .ok (system.content target)

def loss? (system : System) (path : Path) : Option Errno :=
  (system.fault? .writing path).or (system.fault? .flushing path)

/-- What is left of a text in a file that was opened for it: opening empties the file, and what
cannot be encoded is not written. -/
def left (system : System) (path : Path) (text : Text) : Bytes :=
  match Utf8.encode? text with
  | .error _ => []
  | .ok content => if (system.loss? path).isSome then [] else content

def finished (system : System) (path : Path) (text : Text) : Except Trouble Unit :=
  match Utf8.encode? text with
  | .error bad =>
    match system.fault? .closing path with
    | some errno => .error (.errno errno)
    | none => .error (.abort (.unencodable bad))
  | .ok _ =>
    match system.refusal? path (system.loss? path) with
    | some errno => .error (.errno errno)
    | none => .ok ()

/-- A failure to write leaves the file empty, a failure to close leaves in it what was written. -/
def writeFile (system : System) (path : Path) (text : Text) : Except Trouble Unit × System :=
  match system.openExisting path with
  | .error trouble => (.error trouble, system)
  | .ok target => (system.finished path text, system.replace target (system.left path text))

def list (system : System) (path : Path) : Except Errno (List Name) :=
  match system.fault? .listing path with
  | some errno => .error errno
  | none =>
    match Place.ofPath system.files path with
    | .error errno => .error errno
    | .ok (.directory location) => .ok (system.files.names location)
    | .ok (.absent _) => .error .notFound
    | .ok (.file _) | .ok .null => .error .notDirectory

def look (system : System) (path : Path) : Except Errno Place :=
  match system.fault? .inspecting path with
  | some errno => .error errno
  | none => Place.ofPath system.files path

def inspect (system : System) (path : Path) : Except Errno Bool :=
  match system.look path with
  | .error errno => .error errno
  | .ok (.directory _) => .ok true
  | .ok (.absent _) => .error .notFound
  | .ok (.file _) | .ok .null => .ok false

def put (system : System) (path : Path) (entry : Entry) : System :=
  { system with files := system.files.put path entry }

/-- Takes away what a path names. A log stream open on it writes on where nobody can see it. -/
def remove (system : System) (path : Path) : System :=
  match system.files.locate path with
  | .error _ => system
  | .ok location =>
    let log := system.log.map fun stream =>
      match stream.target with
      | .file opened =>
        if location.isPrefixOf opened then { stream with target := .null } else stream
      | .null => stream
    { system with files := system.files.remove location, log }

end System

end Tunables
