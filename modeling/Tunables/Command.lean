import Tunables.Config
import Tunables.Listing
import Tunables.Preload.Apply

/-!
The command line, read from left to right. Switches come first; the first argument that is none ends
them, and an empty argument ends everything.
-/

namespace Tunables.Command

def usageText (program : Text) : Text :=
  "usage:  ".text ++ program ++ " [-n] variable ... \n        ".text ++
    program ++ " [-n] -w variable=value ... \n        ".text ++
    program ++ " [-n] -a \n        ".text ++
    program ++ " [-n] -p <file>   (default /etc/sysctl.conf) \n        ".text ++
    program ++ " [-n] -A\n".text

def usage (program : Text) : Action Status := do
  Action.write (usageText program)
  Action.pure .failure

def unknownSwitch (argument : Text) : Text :=
  "error: Unknown parameter '".text ++ argument ++ [.char '\'']

def writeEach (config : Config) (display : Display) : List Text → Action Status
  | [] => Action.pure .success
  | argument :: rest =>
    if argument = [] then Action.pure .success
    else (Access.writeSetting config.root display argument).also (writeEach config display rest)

/-- Failures to read are reported but not counted. -/
def readEach (config : Config) (display : Display) : List Text → Action Status
  | [] => Action.pure .success
  | argument :: rest =>
    if argument = [] then Action.pure .success
    else do
      let _ ← Access.readSetting config.root display argument
      readEach config display rest

def preloadNext (config : Config) (display : Display) (rest : List Text) : Action Status := do
  let source :=
    match rest with
    | (c :: name) :: _ => Path.ofText (c :: name)
    | _ => config.preload
  let _ ← Preload.apply source config.root display
  Action.pure .success

/-- Of a switch only the letter right after the dash counts. -/
def switches (program : Text) (config : Config) (display : Display) : List Text → Action Status
  | [] => Action.pure .success
  | argument :: rest =>
    match argument with
    | [] => Action.pure .success
    | '-' :: letters =>
      match letters.head? with
      | some (.char 'b') => switches program config ⟨false, false⟩ rest
      | some (.char 'n') => switches program config { display with names := false } rest
      | some (.char 'w') => writeEach config display rest
      | some (.char 'p') => preloadNext config display rest
      | some (.char 'a') | some (.char 'A') | some (.char 'X') =>
        Listing.displayAll config.root display config.root
      | some (.char 'h') | some (.char '?') => usage program
      | _ => do
        Action.warn (unknownSwitch argument)
        usage program
    | _ => readEach config display (argument :: rest)

def run (program : Text) (config : Config) (arguments : List Text) : Action Status :=
  match arguments with
  | [] => usage program
  | _ => switches program config .standard arguments

end Tunables.Command
