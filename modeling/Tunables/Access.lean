import Tunables.Action
import Tunables.Audit.Log
import Tunables.Display
import Tunables.Key
import Tunables.Setting
import Tunables.Text.Newline

namespace Tunables.Access

def resolve (root : Path) (key : Text) : Path := root.join (Key.toPath key)

/-- Why a key was not read or written: a failure to report, or one that breaks the command off. -/
inductive Halt
  | failure (failure : Failure)
  | abort (reason : Abort)
  deriving DecidableEq, Repr

def Halt.ofTrouble (key : Text) (attempt : Attempt) : Trouble → Halt
  | .abort reason => .abort reason
  | .errno errno => .failure (Failure.ofErrno (some errno) (Key.ofPath key) attempt)

/-- A file's text: what is not UTF-8 is replaced, and every newline is LF. -/
def decode (content : Bytes) : Text := Newline.unified (Utf8.decode content)

def readValues (root : Path) (key : Text) (system : System) : Except Halt (List Text) :=
  if key = [] then .error (.failure (.unknownKey []))
  else
    match system.readFile (resolve root key) with
    | .error trouble => .error (Halt.ofTrouble key .reading trouble)
    | .ok content => .ok (Newline.lines (decode content))

/-- A key that does not exist is not made. -/
def writeValue (root : Path) (setting : Setting) (system : System) : Except Halt Unit × System :=
  match system.writeFile (resolve root setting.name) setting.line with
  | (.error trouble, system) => (.error (Halt.ofTrouble setting.name .setting trouble), system)
  | (.ok (), system) => (.ok (), system)

def report (failure : Failure) : Action Status := do
  Action.warn failure.message
  Action.pure failure.status

def readSetting (root : Path) (display : Display) (key : Text) : Action Status := do
  match readValues root key (← Action.get) with
  | .error (.abort reason) => Action.abort reason
  | .error (.failure failure) =>
    Audit.log (.readFailed key failure.message)
    report failure
  | .ok lines =>
    Action.write (display.format (Key.ofPath key) lines)
    Action.pure .success

def writeParsed (root : Path) (setting : Setting) : Action (Except Failure Unit) := do
  let (written, system) := writeValue root setting (← Action.get)
  Action.set system
  match written with
  | .error (.abort reason) => Action.abort reason
  | .error (.failure failure) => Action.pure (.error failure)
  | .ok () => Action.pure (.ok ())

def refuse (text : Text) (failure : Failure) : Action Status := do
  Audit.log (.writeFailed text failure.message)
  report failure

def writeSetting (root : Path) (display : Display) (text : Text) : Action Status := do
  match Setting.parse text with
  | .error failure => refuse text failure
  | .ok setting =>
    match ← writeParsed root setting with
    | .error failure => refuse text failure
    | .ok () =>
      Audit.log (.writeOk setting.name setting.value)
      Action.write (display.format (Key.ofPath setting.name) [setting.line])
      Action.pure .success

end Tunables.Access
