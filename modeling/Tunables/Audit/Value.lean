import Tunables.Text

namespace Tunables.Audit

inductive Value
  | null
  | flag (value : Bool)
  | number (value : Int)
  | text (value : Text)
  | list (items : List Value)
  | record (fields : List (Text × Value))

def unit (n : Nat) : Chars := '\\' :: 'u' :: Text.hexDigits 4 n

def escapeChar (c : Char) : Chars :=
  let n := c.toNat
  if c = '"' ∨ c = '\\' then ['\\', c]
  else if c = '\n' then ['\\', 'n']
  else if c = '\r' then ['\\', 'r']
  else if c = '\t' then ['\\', 't']
  else if n = 0x08 then ['\\', 'b']
  else if n = 0x0C then ['\\', 'f']
  else if 0x20 ≤ n ∧ n < 0x7F then [c]
  else if n < 0x10000 then unit n
  else unit (0xD800 + (n - 0x10000) / 1024) ++ unit (0xDC00 + (n - 0x10000) % 1024)

def escape : Symbol → Chars
  | .char c => escapeChar c
  | .stray n => unit (0xDC80 + n)

def quote (text : Text) : Chars := '"' :: text.flatMap escape ++ ['"']

def comma : Chars := [',', ' ']

mutual

def Value.render : Value → Chars
  | .null => "null".toList
  | .flag true => "true".toList
  | .flag false => "false".toList
  | .number value => Text.digits value
  | .text value => quote value
  | .list items => '[' :: renderItems items ++ [']']
  | .record fields => '\x7b' :: renderFields fields ++ ['\x7d']

def renderItems : List Value → Chars
  | [] => []
  | [item] => item.render
  | item :: items => item.render ++ comma ++ renderItems items

def renderFields : List (Text × Value) → Chars
  | [] => []
  | [(name, value)] => quote name ++ [':', ' '] ++ value.render
  | (name, value) :: fields =>
    quote name ++ [':', ' '] ++ value.render ++ comma ++ renderFields fields

end

end Tunables.Audit
