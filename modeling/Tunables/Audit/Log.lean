import Tunables.Action
import Tunables.Audit.Event

/-!
The audit log. Records go to the end of the file that the log was opened on; what cannot be written
is lost without a word, so that logging never fails a command.
-/

namespace Tunables

namespace System

def appendLog (system : System) (line : Bytes) : System :=
  match system.log with
  | none => system
  | some stream =>
    if (system.fault? .writing stream.path).isSome then system
    else
      match system.fault? .flushing stream.path with
      | some errno => { system with log := some { stream with pending := some errno } }
      | none => system.replace stream.target (system.content stream.target ++ line)

def tick (system : System) : System := { system with clock := system.clock.tick }

/-- Every record that is made has a time of its own, whatever becomes of it. -/
def logEvent (system : System) (level : Audit.Level) (name : Text) (fields : Audit.Fields) :
    System :=
  if level.isRecorded && system.log.isSome then
    system.tick.appendLog
      (Utf8.encode
        (Text.ofChars ((Audit.record system.clock.now level name fields).render ++ ['\n'])))
  else system

/-- The log is off afterwards, even if closing its stream fails. -/
def closeLog (system : System) : Except Abort Unit × System :=
  match system.log with
  | none => (.ok (), system)
  | some stream =>
    let closed := { system with log := none }
    match stream.pending with
    | some errno => (.error (.refused errno none), closed)
    | none =>
      match system.fault? .closing stream.path with
      | some errno => (.error (.refused errno (some stream.path)), closed)
      | none => (.ok (), closed)

def openLog (system : System) (path : Path) : Except Trouble System :=
  if path.hasNul then .error (.abort .embeddedNul)
  else
    match system.fault? .opening path with
    | some errno => .error (.errno errno)
    | none =>
      match Place.ofPath system.files path with
      | .error errno => .error (.errno errno)
      | .ok (.file location) => .ok { system with log := some ⟨path, .file location, none⟩ }
      | .ok .null => .ok { system with log := some ⟨path, .null, none⟩ }
      | .ok (.absent location) =>
        .ok { system with
          files := system.files.add location (.file [])
          log := some ⟨path, .file location, none⟩ }
      | .ok (.directory _) => .error (.errno .isDirectory)

end System

namespace Audit

def log (event : Event) : Action Unit :=
  Action.modify fun system => system.logEvent event.level event.name event.fields

def cannotOpen (path : Path) (errno : Errno) (refused : Path) : Text :=
  "warning: cannot open log ".text ++ path.render ++ ": ".text ++ errno.report refused

def open? (path : Path) : Action Unit := do
  if path.parent.hasNul then Action.abort .embeddedNul
  else
    let system ← Action.get
    let (files, refused) := system.files.makeParents path
    let system := { system with files }
    Action.set system
    match refused with
    | some (errno, directory) => Action.warn (cannotOpen path errno directory)
    | none =>
      match system.openLog path with
      | .error (.abort reason) => Action.abort reason
      | .error (.errno errno) => Action.warn (cannotOpen path errno path)
      | .ok system => Action.set system

/-- Ends the log of before, then opens the one that is wanted, with the directories above it. -/
def configure (path : Option Path) : Action Unit := do
  let (closed, system) := (← Action.get).closeLog
  Action.set system
  match closed with
  | .error abort => Action.abort abort
  | .ok () =>
    match path with
    | none => Action.pure ()
    | some path => open? path

end Audit

end Tunables
