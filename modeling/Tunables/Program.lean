import Tunables.Command
import Tunables.Config.Load

namespace Tunables.Program

def name (environment : Environment) : List Text → Text
  | [] => environment.program
  | called :: _ => ((Path.pieces called).getLast?).getD []

def run (environment : Environment) (arguments : List Text) : Action Status := do
  let config ← Config.load environment
  Audit.configure config.log
  Command.run (name environment arguments) config arguments.tail

end Tunables.Program
