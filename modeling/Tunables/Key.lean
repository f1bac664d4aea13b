import Tunables.Text

/-!
The two spellings of a key: dotted for people, slashed for files. Both conversions exchange the
delimiters of a text whose first delimiter shows that it is in the other spelling, and leave every
other text alone.
-/

namespace Tunables.Key

def isDelimiter (c : Symbol) : Bool := c = '.' || c = '/'

def exchange (c : Symbol) : Symbol :=
  if c = '.' then '/' else if c = '/' then '.' else c

def firstDelimiter? (text : Text) : Option Symbol := text.find? isDelimiter

def toPath (key : Text) : Text :=
  if firstDelimiter? key = some (.char '.') then key.map exchange else key

def ofPath (path : Text) : Text :=
  if firstDelimiter? path = some (.char '/') then path.map exchange else path

theorem exchange_exchange (c : Symbol) : exchange (exchange c) = c := by
  unfold exchange
  split
  · simp [*]
  · split <;> simp [*]

theorem isDelimiter_exchange (c : Symbol) : isDelimiter (exchange c) = isDelimiter c := by
  unfold exchange
  split
  · simp [*, isDelimiter]
  · split <;> simp [*, isDelimiter]

theorem firstDelimiter?_map_exchange (text : Text) :
    firstDelimiter? (text.map exchange) = (firstDelimiter? text).map exchange := by
  unfold firstDelimiter?
  induction text with
  | nil => rfl
  | cons c rest ih =>
    rw [List.map_cons, List.find?_cons, List.find?_cons, isDelimiter_exchange]
    cases isDelimiter c with
    | true => rfl
    | false => exact ih

end Tunables.Key
