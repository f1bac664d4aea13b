import Tunables.Text
import Tunables.Text.Unprintable

namespace Tunables.Quoted

def isPrintable (c : Char) : Bool :=
  if c.toNat < 0x7F then 0x20 ≤ c.toNat
  else !Unprintable.ranges.any fun (first, last) => first ≤ c.toNat && c.toNat ≤ last

def escapeChar (quote c : Char) : Chars :=
  if c = quote ∨ c = '\\' then ['\\', c]
  else if c = '\n' then ['\\', 'n']
  else if c = '\r' then ['\\', 'r']
  else if c = '\t' then ['\\', 't']
  else if isPrintable c then [c]
  else if c.toNat < 0x100 then '\\' :: 'x' :: Text.hexDigits 2 c.toNat
  else if c.toNat < 0x10000 then '\\' :: 'u' :: Text.hexDigits 4 c.toNat
  else '\\' :: 'U' :: Text.hexDigits 8 c.toNat

def escape (quote : Char) : Symbol → Text
  | .char c => Text.ofChars (escapeChar quote c)
  | .stray n => Text.ofChars ('\\' :: 'u' :: Text.hexDigits 4 (0xDC80 + n))

def ofText (text : Text) : Text :=
  let quote := if text.contains (.char '\'') && !text.contains (.char '"') then '"' else '\''
  .char quote :: text.flatMap (escape quote) ++ [.char quote]

end Tunables.Quoted
