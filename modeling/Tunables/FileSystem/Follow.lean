import Tunables.Errno
import Tunables.FileSystem

/-!
What a path leads to, from the top or from the working directory. Links are followed, at most forty
in one path; a name is at most 255 bytes long and a path shorter than 4096.
-/

namespace Tunables

/-- `absent` is a free name in a directory that exists. -/
inductive Place
  | file (location : Location)
  | directory (location : Location)
  | absent (location : Location)
  | null
  deriving DecidableEq

namespace Place

def nameLimit : Nat := 255

def pathLimit : Nat := 4096

def linkLimit : Nat := 40

/-- The parts to go on with after a link. A slash at its end asks for a directory. -/
def linkParts (target : Text) : List Text :=
  (Path.pieces target).filter (· ≠ []) ++
    if target.getLast? = some (.char '/') then [Path.dot] else []

def linkStart (location : Location) (target : Text) : Location :=
  if target.head? = some (.char '/') then [] else location

/-- Walks on from a directory. `onLink` takes over at a link with the directory and the parts to go
on with. -/
def walk (files : FileSystem) (onLink : Location → List Text → Except Errno Place) :
    Location → List Text → Except Errno Place
  | location, [] => .ok (.directory location)
  | location, part :: rest =>
    if part = Path.dot then walk files onLink location rest
    else if part = Path.dotDot then walk files onLink location.dropLast rest
    else if nameLimit < (Utf8.encode part).length then .error .nameTooLong
    else
      match Name.ofText? part with
      | none => .error .notFound
      | some name =>
        let next := location ++ [name]
        match files.find? next with
        | none => if rest = [] then .ok (.absent next) else .error .notFound
        | some .directory => walk files onLink next rest
        | some (.file _) => if rest = [] then .ok (.file next) else .error .notDirectory
        | some .null => if rest = [] then .ok .null else .error .notDirectory
        | some (.link target) => onLink (linkStart location target) (linkParts target ++ rest)

def walkLinks (files : FileSystem) : Nat → Location → List Text → Except Errno Place
  | 0, _, _ => .error .tooManyLinks
  | links + 1, location, parts => walk files (walkLinks files links) location parts

def fromTop (files : FileSystem) (path : Path) : List Text :=
  if path.isRelative then files.here.map Name.text ++ path.parts else path.parts

def ofPath (files : FileSystem) (path : Path) : Except Errno Place :=
  if pathLimit ≤ path.size then .error .nameTooLong
  else walkLinks files (linkLimit + 1) [] (fromTop files path)

end Place

end Tunables
