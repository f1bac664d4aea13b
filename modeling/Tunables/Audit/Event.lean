import Tunables.Audit.Value

namespace Tunables.Audit

inductive Level
  | debug
  | info
  | warning
  | error
  | critical
  deriving DecidableEq, Repr

namespace Level

def text : Level → Text
  | debug => "debug".text
  | info => "info".text
  | warning => "warning".text
  | error => "error".text
  | critical => "critical".text

def secondNames : List (Text × Level) :=
  [("msg".text, info), ("warn".text, warning), ("fatal".text, critical)]

def ofText? (text : Text) : Option Level :=
  match [debug, info, warning, error, critical].find? (·.text = text) with
  | some level => some level
  | none => secondNames.lookup text

def isRecorded (level : Level) : Bool := level ≠ debug

end Level

abbrev Fields := List (Text × Value)

/-- A field that is there already keeps its place. -/
def Fields.set (name : Text) (value : Value) : Fields → Fields
  | [] => [(name, value)]
  | (other, old) :: rest =>
    if other = name then (name, value) :: rest else (other, old) :: Fields.set name value rest

def Fields.ofList (fields : List (Text × Value)) : Fields :=
  fields.foldl (fun kept (name, value) => Fields.set name value kept) []

def record (stamp : Text) (level : Level) (name : Text) (fields : Fields) : Value :=
  let fields := Fields.set "event".text (.text name) (Fields.ofList fields)
  let fields := Fields.set "ts".text (.text stamp) fields
  .record (Fields.set "level".text (.text level.text) fields)

inductive Event
  | readFailed (key error : Text)
  | writeFailed (setting error : Text)
  | writeOk (key value : Text)
  | preloadOpenFailed (source error : Text)
  | preloadBadLine (source : Text) (number : Nat)
  | directoryFailed (path error : Text)
  | entryFailed (path error : Text)
  deriving DecidableEq

namespace Event

def level : Event → Level
  | readFailed _ _ | writeFailed _ _ | preloadBadLine _ _ | entryFailed _ _ => .warning
  | writeOk _ _ => .info
  | preloadOpenFailed _ _ | directoryFailed _ _ => .error

def name : Event → Text
  | readFailed _ _ => "read_failed".text
  | writeFailed _ _ => "write_failed".text
  | writeOk _ _ => "write_ok".text
  | preloadOpenFailed _ _ => "preload_open_failed".text
  | preloadBadLine _ _ => "preload_bad_line".text
  | directoryFailed _ _ | entryFailed _ _ => "walk_failed".text

def fields : Event → Fields
  | readFailed key error => [("key".text, .text key), ("error".text, .text error)]
  | writeFailed setting error => [("setting".text, .text setting), ("error".text, .text error)]
  | writeOk key value => [("key".text, .text key), ("value".text, .text value)]
  | preloadOpenFailed source error =>
    [("source".text, .text source), ("error".text, .text error)]
  | preloadBadLine source number =>
    [("source".text, .text source), ("lineno".text, .number number)]
  | directoryFailed path error | entryFailed path error =>
    [("path".text, .text path), ("error".text, .text error)]

end Event

end Tunables.Audit
