import Tunables.Access
import Tunables.Preload
import Tunables.Preload.Reader

/-!
Applying a preload file: every good line is written as a setting, every malformed one is warned of,
and none stops the ones behind it.
-/

namespace Tunables.Preload

def applyLine (source : Text) (root : Path) (display : Display) (number : Nat) (raw : Text) :
    Action Status :=
  match readLine raw with
  | .ignored => Action.pure .success
  | .malformed => do
    Audit.log (.preloadBadLine source number)
    Action.warn (badLine source number)
    Action.pure .success
  | .setting setting => Access.writeSetting root display setting.render

/-- Applies at most `steps` lines, the first of which has the number given. -/
def applyLines (source : Path) (target : Target) (root : Path) (display : Display) :
    Nat → Nat → Reader → Action Status
  | 0, _, _ => Action.abort .endless
  | steps + 1, number, reader => do
    let system ← Action.get
    match reader.takeLine?, system.fault? .reading source with
    | none, some errno => Action.abort (.refused errno (some source))
    | _, _ =>
      match reader.next? (system.content target) with
      | none => Action.pure .success
      | some (raw, reader) =>
        (applyLine source.render root display number raw).also
          (applyLines source target root display steps (number + 1) reader)

/-- A failure to close a file breaks off whatever was done with it, also when that was broken off.
-/
def closing {α : Type} (path : Path) (action : Action α) : Action α := fun system =>
  let outcome := action system
  match outcome.system.fault? .closing path with
  | none => outcome
  | some errno => { outcome with result := .error (.refused errno (some path)) }

/-- More lines than a file of this size can have, also when its own settings change it: each of its
bytes is at most a replaced one, which takes three, and a setting loses its name and the `=`. -/
def stepLimit (content : Bytes) : Nat := 4 * (content.length + 8)

def apply (source root : Path) (display : Display) : Action Status := do
  let system ← Action.get
  match system.openExisting source with
  | .error (.abort reason) => Action.abort reason
  | .error (.errno errno) =>
    Audit.log (.preloadOpenFailed source.render (errno.report source))
    Access.report (.preloadFile source.render)
  | .ok target =>
    closing source
      (applyLines source target root display (stepLimit (system.content target)) 1 Reader.start)

end Tunables.Preload
