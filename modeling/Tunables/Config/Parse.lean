import Tunables.Config
import Tunables.Text.Blank
import Tunables.Text.Lowercase

namespace Tunables.Config

inductive Defect
  | unknownDirective (word : Text)
  | noName
  | unknownName (word : Text)
  | noPath (item : Item)
  | embeddedNul
  deriving DecidableEq, Repr

def Defect.message : Defect → Text
  | unknownDirective word => "unknown directive '".text ++ word ++ [.char '\'']
  | noName => "'set' requires a setting name".text
  | unknownName word => "unknown setting '".text ++ word ++ [.char '\'']
  | noPath item => .char '\'' :: item.text ++ "' requires a path".text
  | embeddedNul => "embedded null byte".text

/-- A home directory that cannot be found is no fault of the text. -/
inductive Problem
  | line (number : Nat) (defect : Defect)
  | homeUnknown
  deriving DecidableEq, Repr

def Problem.message : Problem → Text
  | line number defect => "line ".text ++ Text.ofNat number ++ ": ".text ++ defect.message
  | homeUnknown => "Could not determine home directory.".text

def readAssignment (rest : Text) : Except Defect (Item × Text) :=
  if rest = [] then .error .noName
  else
    let (word, path) := Blank.firstWord rest
    match Item.ofText? (Lowercase.ofText word) with
    | none => .error (.unknownName (Lowercase.ofText word))
    | some item => if path = [] then .error (.noPath item) else .ok (item, path)

def readLine (raw : Text) : Except Defect (Option (Item × Text)) :=
  let line := Blank.trim raw
  if line = [] ∨ line.head? = some (.char '#') then .ok none
  else
    let (word, rest) := Blank.firstWord line
    if Lowercase.ofText word = "set".text then (readAssignment rest).map some
    else .error (.unknownDirective (Lowercase.ofText word))

def parseLines (homes : Homes) (number : Nat) (config : Config) : List Text → Except Problem Config
  | [] => .ok config
  | raw :: rest =>
    match readLine raw with
    | .error defect => .error (.line number defect)
    | .ok none => parseLines homes (number + 1) config rest
    | .ok (some (item, path)) =>
      match (Path.ofText path).expandHome homes with
      | .error .unknown => .error .homeUnknown
      | .error .embeddedNul => .error (.line number .embeddedNul)
      | .ok path => parseLines homes (number + 1) (config.set item path) rest

def parse (homes : Homes) (text : Text) : Except Problem Config :=
  parseLines homes 1 standard (Blank.lines text)

end Tunables.Config
