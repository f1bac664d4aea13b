import Tunables.Text

namespace Tunables

/-- `names` puts the key before every line; `newline` keeps the last terminator of a bare value. -/
structure Display where
  names : Bool
  newline : Bool
  deriving DecidableEq, Repr

namespace Display

def standard : Display := ⟨true, true⟩

def separator : Text := [' ', '=', ' ']

def dropFinalNewline (text : Text) : Text :=
  if text.getLast? = some (.char '\n') then text.dropLast else text

def format (display : Display) (name : Text) (lines : List Text) : Text :=
  if display.names then lines.flatMap fun line => name ++ separator ++ line
  else if display.newline then lines.flatten
  else dropFinalNewline lines.flatten

end Display

end Tunables
