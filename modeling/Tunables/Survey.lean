import Tunables.System

/-!
What lies below a directory, depth first and by increasing names. Links are followed, so a directory
may be met under several paths, and a loop of links ends where a path follows too many of them or
grows too long to be listed.
-/

namespace Tunables

inductive Visit
  | key (path : Path)
  | unlisted (path : Path) (errno : Errno)
  | uninspected (path : Path) (errno : Errno)
  deriving DecidableEq, Repr

namespace Survey

def within (system : System) : Nat → Path → List Visit
  | 0, path => [.unlisted path .nameTooLong]
  | levels + 1, path =>
    match system.list path with
    | .error errno => [.unlisted path errno]
    | .ok names =>
      names.flatMap fun name =>
        let entry := path.child name.text
        match system.inspect entry with
        | .error errno => [.uninspected entry errno]
        | .ok true => within system levels entry
        | .ok false => [.key entry]

/-- Every level adds a part to the path, and a path that can be listed has fewer parts than bytes,
so the levels suffice. -/
def below (system : System) (path : Path) : List Visit := within system Place.pathLimit path

end Survey

end Tunables
