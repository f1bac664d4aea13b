import Tunables.Text
import Tunables.Text.LetterCase

namespace Tunables.Lowercase

def isCased (c : Symbol) : Bool := LetterCase.within LetterCase.casedRanges c.toNat

def isIgnorable (c : Symbol) : Bool := LetterCase.within LetterCase.ignorableRanges c.toNat

def ofChar (c : Char) : Chars :=
  if c.toNat < 0x80 then [c.toLower]
  else if c = 'İ' then ['i', '\u0307']
  else
    match LetterCase.lowerRuns.find? (·.covers c.toNat) with
    | some run => [Char.ofNat (c.toNat + run.shift).toNat]
    | none => [c]

def ofSymbol : Symbol → Text
  | .char c => Text.ofChars (ofChar c)
  | .stray n => [.stray n]

def meetsCased (text : Text) : Bool :=
  match text.dropWhile isIgnorable with
  | [] => false
  | c :: _ => isCased c

/-- The lower case of a text that follows `before`, which is given nearest symbol first. -/
def after (before : Text) : Text → Text
  | [] => []
  | c :: rest =>
    let lower : Text :=
      if c = 'Σ' then [if meetsCased before && !meetsCased rest then 'ς' else 'σ'] else ofSymbol c
    lower ++ after (c :: before) rest

def ofText (text : Text) : Text := after [] text

end Tunables.Lowercase
