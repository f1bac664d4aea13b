import Tunables.Text.Quoted
import Tunables.Text.Utf8

/-!
Paths: an anchor and the parts below it. Reading a path drops empty parts and `.`, so a path has one
written form; `..` stays.
-/

namespace Tunables

/-- Two leading slashes are an anchor of their own; one, or more than two, are the root. -/
inductive Anchor
  | relative
  | root
  | doubled
  deriving DecidableEq, Repr

namespace Anchor

def ofText : Text → Anchor
  | '/' :: '/' :: '/' :: _ => root
  | '/' :: '/' :: _ => doubled
  | '/' :: _ => root
  | _ => relative

def text : Anchor → Text
  | relative => []
  | root => ['/']
  | doubled => ['/', '/']

end Anchor

/-- The home directories: one's own, and those of the users by their names. -/
structure Homes where
  own : Text
  users : List (Text × Text)
  deriving DecidableEq, Repr

def Homes.find? (homes : Homes) (user : Text) : Option Text :=
  if user = [] then some homes.own else homes.users.lookup user

structure Path where
  anchor : Anchor
  parts : List Text
  deriving DecidableEq, Repr

namespace Path

def dot : Text := ['.']

def dotDot : Text := ['.', '.']

def pieces (text : Text) : List Text := text.splitOn '/'

def isPart (piece : Text) : Bool := piece ≠ [] && piece ≠ dot

def ofText (text : Text) : Path := ⟨Anchor.ofText text, (pieces text).filter isPart⟩

def render (path : Path) : Text :=
  if path.anchor = .relative ∧ path.parts = [] then dot
  else path.anchor.text ++ [.char '/'].intercalate path.parts

def size (path : Path) : Nat := (Utf8.encode path.render).length

def hasNul (path : Path) : Bool := path.parts.any Text.hasNul

def isRelative (path : Path) : Bool := path.anchor = .relative

def append (path : Path) (parts : List Text) : Path := { path with parts := path.parts ++ parts }

def child (path : Path) (name : Text) : Path := path.append [name]

def parent (path : Path) : Path := { path with parts := path.parts.dropLast }

def below? (root path : Path) : Option (List Text) :=
  if root.anchor = path.anchor then root.parts.isPrefixOf? path.parts else none

/-- A text in the place of parts: below the path whatever slashes it starts with. -/
def join (path : Path) (text : Text) : Path :=
  path.append (ofText (text.dropWhile (· = .char '/'))).parts

inductive HomeFailure
  | unknown
  | embeddedNul
  deriving DecidableEq, Repr

/-- Trailing slashes of the home directory do not count; without any other character it is `/`. -/
def homeDirectory (home : Text) : Text :=
  match Text.dropTrailing (· = .char '/') home with
  | [] => ['/']
  | c :: rest => c :: rest

/-- A first part that begins with `~` stands for the home directory of the user it names. -/
def expandHome (homes : Homes) (path : Path) : Except HomeFailure Path :=
  match path.anchor, path.parts with
  | .relative, ('~' :: user) :: rest =>
    if Text.hasNul user then .error .embeddedNul
    else
      match homes.find? user with
      | none => .error .unknown
      | some home =>
        if (homeDirectory home).head? = some (.char '~') then .error .unknown
        else .ok ((ofText (homeDirectory home)).append rest)
  | _, _ => .ok path

def quoted (path : Path) : Text := Quoted.ofText path.render

end Path

end Tunables
