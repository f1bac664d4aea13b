import Tunables.Action
import Tunables.Config.Parse
import Tunables.Text.Newline

/-!
Loading the configuration: the user's file, then the file that the environment names. A file that
cannot be loaded counts for nothing and is warned of.
-/

namespace Tunables

/-- The surroundings of a command. `named` is the configuration file that the caller names, if any.
-/
structure Environment where
  program : Text
  homes : Homes
  personal : Path
  named : Option Text

namespace Config

/-- What keeps a path from being looked at and still shows that no file is there. -/
def isAbsence (errno : Errno) : Bool :=
  errno = .notFound || errno = .notDirectory || errno = .badDescriptor || errno = .tooManyLinks

def isFile (system : System) (path : Path) : Except Abort Bool :=
  if path.hasNul then .ok false
  else
    match system.look path with
    | .ok (.file _) => .ok true
    | .ok _ => .ok false
    | .error errno => if isAbsence errno then .ok false else .error (.refused errno (some path))

def readText (system : System) (path : Path) : Except Text Text :=
  match system.fault? .loading path with
  | some errno => .error (errno.report path)
  | none =>
    match Place.ofPath system.files path with
    | .error errno => .error (errno.report path)
    | .ok (.file location) =>
      match Utf8.strict? (system.files.content location) with
      | .ok text => .ok (Newline.unified text)
      | .error malformed => .error malformed.message
    | .ok _ => .error (Errno.report .notFound path)

def cannotLoad (path : Path) (reason : Text) : Text :=
  "warning: failed to load ".text ++ path.render ++ ": ".text ++ reason

def loadFile (homes : Homes) (config : Config) (path : Path) : Action Config := do
  match readText (← Action.get) path with
  | .error reason =>
    Action.warn (cannotLoad path reason)
    Action.pure config
  | .ok text =>
    match parse homes text with
    | .error .homeUnknown => Action.abort .homeUnknown
    | .error (.line number defect) =>
      Action.warn (cannotLoad path (Problem.line number defect).message)
      Action.pure config
    | .ok overlay => Action.pure (config.merge overlay)

def loadIfFile (homes : Homes) (config : Config) (path : Path) : Action Config := do
  match isFile (← Action.get) path with
  | .error abort => Action.abort abort
  | .ok false => Action.pure config
  | .ok true => loadFile homes config path

def load (environment : Environment) : Action Config := do
  let config ← loadIfFile environment.homes standard environment.personal
  match environment.named with
  | none | some [] => Action.pure config
  | some text =>
    match (Path.ofText text).expandHome environment.homes with
    | .error .unknown => Action.abort .homeUnknown
    | .error .embeddedNul => Action.abort .embeddedNul
    | .ok path => loadIfFile environment.homes config path

end Config

end Tunables
