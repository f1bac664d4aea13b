import Tunables.Text

namespace Tunables.Blank

def isBlank (c : Symbol) : Bool :=
  let n := c.toNat
  (9 ≤ n && n ≤ 13) || (28 ≤ n && n ≤ 32) || n = 0x85 || n = 0xA0 || n = 0x1680 ||
    (0x2000 ≤ n && n ≤ 0x200A) || n = 0x2028 || n = 0x2029 || n = 0x202F || n = 0x205F || n = 0x3000

def isBreak (c : Symbol) : Bool :=
  let n := c.toNat
  (10 ≤ n && n ≤ 13) || (28 ≤ n && n ≤ 30) || n = 0x85 || n = 0x2028 || n = 0x2029

/-- The lines without their breaks. CR LF is one break; a break at the very end opens no line. -/
def lines : Text → List Text
  | [] => []
  | '\r' :: '\n' :: rest => [] :: lines rest
  | c :: rest =>
    if isBreak c then [] :: lines rest
    else
      match lines rest with
      | [] => [[c]]
      | line :: more => (c :: line) :: more

def trim (text : Text) : Text := Text.trim isBlank text

def firstWord (text : Text) : Text × Text :=
  (text.takeWhile (!isBlank ·), (text.dropWhile (!isBlank ·)).dropWhile isBlank)

end Tunables.Blank
