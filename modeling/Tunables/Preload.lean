import Tunables.Setting

namespace Tunables.Preload

inductive Line
  | ignored
  | malformed
  | setting (setting : Setting)
  deriving DecidableEq, Repr

def isSpace (c : Symbol) : Bool := c = ' ' || c = '\t'

def isMargin (c : Symbol) : Bool := isSpace c || c = '\r' || c = '\n'

def isComment (line : Text) : Bool := line.head? = some (.char '#') || line.head? = some (.char ';')

def sides (line : Text) : Text × Text := (Text.cut? '=' line).getD (line, [])

def readLine (raw : Text) : Line :=
  let line := Text.trim isMargin raw
  if line.length < 2 ∨ isComment line then .ignored
  else
    let name := Text.trim isSpace (sides line).1
    let value := (sides line).2.dropWhile isSpace
    if name = [] ∨ value = [] then .malformed else .setting ⟨name, value⟩

/-- The lines that are not ignored, numbered from `number` on; a malformed one has no setting. -/
def parseFrom (number : Nat) : List Text → List (Nat × Option Setting)
  | [] => []
  | raw :: rest =>
    match readLine raw with
    | .ignored => parseFrom (number + 1) rest
    | .malformed => (number, none) :: parseFrom (number + 1) rest
    | .setting setting => (number, some setting) :: parseFrom (number + 1) rest

def parse (lines : List Text) : List (Nat × Option Setting) := parseFrom 1 lines

def badLine (source : Text) (number : Int) : Text :=
  "warning: ".text ++ source ++ [.char '('] ++ Text.ofInt number ++
    "): invalid syntax, continuing...".text

end Tunables.Preload
