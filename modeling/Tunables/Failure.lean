import Tunables.Errno
import Tunables.Status

/-!
The failures that one key, one setting, one directory or one preload file can meet. Each has its
message and its share in the status; none of them stops a command.
-/

namespace Tunables

inductive Attempt
  | reading
  | setting
  deriving DecidableEq, Repr

def Attempt.text : Attempt → Text
  | .reading => "reading".text
  | .setting => "setting".text

inductive Failure
  | unknownKey (key : Text)
  | permissionDenied (key : Text)
  | unknownError (key : Text) (errno : Option Errno) (attempt : Attempt)
  /-- The wording, if it is not empty, takes the place of the usual message. -/
  | malformedSetting (setting : Text) (wording : Text)
  | noEquals (setting : Text)
  | directory (path : Text)
  | preloadFile (path : Text)
  deriving DecidableEq, Repr

namespace Failure

def errnoText : Option Errno → Text
  | none => "None".text
  | some errno => Text.ofInt errno

def message : Failure → Text
  | unknownKey key => "error: '".text ++ key ++ "' is an unknown key".text
  | permissionDenied key => "error: permission denied on key '".text ++ key ++ [.char '\'']
  | unknownError key errno attempt =>
    "error: unknown error ".text ++ errnoText errno ++ [.char ' '] ++ attempt.text ++
      " key '".text ++ key ++ [.char '\'']
  | malformedSetting setting [] => "error: Malformed setting '".text ++ setting ++ [.char '\'']
  | malformedSetting _ (c :: wording) => c :: wording
  | noEquals setting => "error: '".text ++ setting ++ "' must be of the form name=value".text
  | directory path => "error: unable to open directory '".text ++ path ++ [.char '\'']
  | preloadFile path => "error: unable to open preload file '".text ++ path ++ [.char '\'']

def status : Failure → Status
  | malformedSetting _ _ => .malformed
  | _ => .failure

def isFormal : Failure → Bool
  | malformedSetting _ _ | noEquals _ => true
  | _ => false

def ofErrno (errno : Option Errno) (key : Text) (attempt : Attempt) : Failure :=
  match Errno.kind errno with
  | .notFound => unknownKey key
  | .permissionDenied => permissionDenied key
  | .other => unknownError key errno attempt

end Failure

end Tunables
