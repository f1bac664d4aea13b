import Tunables.FileSystem.Follow

namespace Tunables.FileSystem

def isDirectory (files : FileSystem) (path : Path) : Bool :=
  match Place.ofPath files path with
  | .ok (.directory _) => true
  | _ => false

/-- The location that a path names when its last part is not followed. -/
def locate (files : FileSystem) (path : Path) : Except Errno Location :=
  match path.parts.getLast? with
  | none => .error .fileExists
  | some last =>
    if last = Path.dotDot then .error .fileExists
    else if Place.pathLimit ≤ path.size then .error .nameTooLong
    else
      match Place.ofPath files path.parent with
      | .error errno => .error errno
      | .ok (.file _) | .ok .null => .error .notDirectory
      | .ok (.absent _) => .error .notFound
      | .ok (.directory location) =>
        if Place.nameLimit < (Utf8.encode last).length then .error .nameTooLong
        else
          match Name.ofText? last with
          | none => .error .notFound
          | some name => .ok (location ++ [name])

def makeDirectory (files : FileSystem) (path : Path) : Except Errno FileSystem :=
  match files.locate path with
  | .error errno => .error errno
  | .ok location =>
    if (files.find? location).isSome then .error .fileExists
    else .ok (files.add location .directory)

/-- Makes a directory, and those above it that are missing. What is made before a failure stays. -/
def makeDirectories (files : FileSystem) : Nat → Path → FileSystem × Option (Errno × Path)
  | levels, path =>
    match makeDirectory files path with
    | .ok files => (files, none)
    | .error errno =>
      if isDirectory files path then (files, none)
      else
        match levels with
        | 0 => (files, some (errno, path))
        | levels + 1 =>
          if errno ≠ .notFound then (files, some (errno, path))
          else
            match makeDirectories files levels path.parent with
            | (files, some trouble) => (files, some trouble)
            | (files, none) =>
              match makeDirectory files path with
              | .ok files => (files, none)
              | .error errno => (files, some (errno, path))

def makeParents (files : FileSystem) (path : Path) : FileSystem × Option (Errno × Path) :=
  makeDirectories files path.parent.parts.length path.parent

/-- Puts an entry at a path, with the directories it needs. A file's content goes where links lead.
-/
def put (files : FileSystem) (path : Path) (entry : Entry) : FileSystem :=
  let files := (makeParents files path).1
  match entry with
  | .directory => (makeDirectories files path.parts.length path).1
  | .file content =>
    match Place.ofPath files path with
    | .ok (.file location) => files.write location content
    | .ok (.absent location) => files.add location entry
    | _ => files
  | .link _ | .null =>
    match files.locate path with
    | .ok location => (files.remove location).add location entry
    | .error _ => files

end Tunables.FileSystem
