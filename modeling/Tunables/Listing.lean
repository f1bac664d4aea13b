import Tunables.Access
import Tunables.Survey

namespace Tunables.Listing

/-- A key is read by its path below the root. An entry that cannot be inspected leaves the status as
it is. -/
def visit (root : Path) (display : Display) : Visit → Action Status
  | .key path =>
    match Path.below? root path with
    | none => Action.abort (.outsideRoot path root)
    | some parts => Access.readSetting root display (Path.render ⟨.relative, parts⟩)
  | .unlisted path errno => do
    Audit.log (.directoryFailed path.render (errno.report path))
    Access.report (.directory path.render)
  | .uninspected path errno => do
    Audit.log (.entryFailed path.render (errno.report path))
    Action.warn (path.render ++ ": ".text ++ errno.text)
    Action.pure .success

def displayAll (root : Path) (display : Display) (start : Path) : Action Status := do
  if start.hasNul then Action.abort .embeddedNul
  else Action.all ((Survey.below (← Action.get) start).map (visit root display))

end Tunables.Listing
