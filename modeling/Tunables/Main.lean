import Std.Time
import Tunables.Program

/-!
The program as a process. It works on a copy of the trees that it may need: they are read before the
command starts, and what the command changed in them is written back when it is over.
-/

namespace Tunables

def Text.shown (text : Text) : String :=
  String.ofList (text.flatMap fun
    | .char c => [c]
    | .stray n => '\\' :: 'u' :: hexDigits 4 (0xDC80 + n))

/-- What was found of a tree, and what of it could not be looked at. -/
structure Scan where
  entries : List (Location × Entry)
  faults : List Fault

namespace Scan

def empty : Scan := ⟨[], []⟩

def append (first second : Scan) : Scan :=
  ⟨first.entries ++ second.entries, first.faults ++ second.faults⟩

def path (location : Location) : Text :=
  .char '/' :: [Symbol.char '/'].intercalate (location.map Name.text)

def paths (here location : Location) : List Text :=
  match here.isPrefixOf? location with
  | some (name :: rest) => [path location, (path (name :: rest)).drop 1]
  | _ => [path location]

def refused (here location : Location) (operation : Operation) : List Fault :=
  (paths here location).map fun path => ⟨path, operation, .accessDenied⟩

partial def ofItem (here location : Location) (item : IO.FS.DirEntry) : IO Scan := do
  match (← item.path.symlinkMetadata).type with
  | .dir =>
    let mut scan : Scan := ⟨[(location, .directory)], []⟩
    try
      for inner in ← item.path.readDir do
        match Name.ofText? inner.fileName.text with
        | none => pure ()
        | some name => scan := scan.append (← ofItem here (location ++ [name]) inner)
      return scan
    catch _ => return scan.append ⟨[], refused here location .listing⟩
  | .symlink => return ⟨[(location, .link (← IO.FS.realPath item.path).toString.text)], []⟩
  | .file =>
    try return ⟨[(location, .file (← IO.FS.readBinFile item.path).toList)], []⟩
    catch _ => return ⟨[(location, .file [])], refused here location .opening⟩
  | .other => return ⟨[(location, .null)], []⟩

def ofPath (here : Location) (path : Text) : IO Scan := do
  let location := (Path.ofText path).parts.filterMap Name.ofText?
  let above := (List.range location.length).map fun n => (location.take n, Entry.directory)
  try return append ⟨above, []⟩ (← ofItem here location ⟨"", path.shown⟩)
  catch _ => return empty

end Scan

def writeBack (before after : FileSystem) : IO Unit := do
  for (location, entry) in after.entries do
    if before.find? location ≠ some entry then
      let path := (Scan.path location).shown
      match entry with
      | .directory => IO.FS.createDirAll path
      | .file content => IO.FS.writeBinFile path ⟨content.toArray⟩
      | .link _ | .null => pure ()

def Homes.users? (line : Text) : Option (Text × Text) :=
  match line.splitOn (Symbol.char ':') with
  | user :: _ :: _ :: _ :: _ :: home :: _ => some (user, home)
  | _ => none

def Clock.start (records : Nat) : IO Clock := do
  let first ← Std.Time.Timestamp.now
  let stamp (record : Nat) : Text :=
    let time := Std.Time.DateTime.ofTimestampWithZone
      (first.addNanoseconds (.ofNat (1000 * record))) .UTC
    (time.format "uuuu-MM-dd'T'HH:mm:ss.SSSSSS'Z'").text
  return ⟨stamp 0, (List.range records).map fun record => stamp (record + 1)⟩

end Tunables

open Tunables in
def main (arguments : List String) : IO UInt32 := do
  let base := (← IO.currentDir).toString.text
  let here := (Path.ofText base).parts.filterMap Name.ofText?
  let own := ((← IO.getEnv "HOME").getD "").text
  let passwords ← try IO.FS.lines "/etc/passwd" catch _ => pure #[]
  let personal := (Path.ofText own).append [".tunables".text, "config".text]
  let roots := [base, personal.render, "/proc/sys".text, "/etc/sysctl.conf".text, "/dev/null".text]
  let scan := (← roots.mapM (Scan.ofPath here)).foldl Scan.append .empty
  let files : FileSystem := ⟨scan.entries, here⟩
  let environment : Environment := {
    program := "tunables".text
    homes := ⟨own, passwords.toList.filterMap fun line => Homes.users? line.text⟩
    personal
    named := (← IO.getEnv "TUNABLES_CONFIG").map (·.text)
  }
  let called := ((← IO.appPath).fileName.getD "tunables").text
  let outcome := Program.run environment (called :: arguments.map (·.text))
    ⟨files, scan.faults, none, ← Clock.start 1000⟩
  IO.print outcome.out.shown
  IO.eprint outcome.err.shown
  writeBack files outcome.system.files
  match outcome.result with
  | .ok status => return UInt32.ofNat status.exitCode
  | .error abort =>
    IO.eprintln abort.message.shown
    return 1
