import Tunables.Text.Newline
import Tunables.Text.Utf8

/-!
Reading a file line by line while it may change. The next portion is read only when no whole line is
at hand, so a line sees the file as it was when its last portion was read.
-/

namespace Tunables.Preload

/-- Where the next portion starts, what is half decoded, and the text not handed out yet. -/
structure Reader where
  offset : Nat
  partway : Utf8.State
  held : Bool
  text : Text

namespace Reader

def portion : Nat := 8192

def start : Reader := ⟨0, none, false, []⟩

def feed (reader : Reader) (bytes : Bytes) : Reader :=
  let (partway, decoded) := Utf8.feed reader.partway bytes
  let (held, text) := Newline.translate reader.held decoded
  ⟨reader.offset + bytes.length, partway, held, reader.text ++ text⟩

def finish (reader : Reader) : Reader :=
  let (held, text) := Newline.translate reader.held (Utf8.finish reader.partway)
  ⟨reader.offset, none, false, reader.text ++ text ++ Newline.finish held⟩

def takeLine? (reader : Reader) : Option (Text × Reader) :=
  (Newline.takeLine? reader.text).map fun (line, text) => (line, { reader with text })

def takeLast? (reader : Reader) : Option (Text × Reader) :=
  match reader.takeLine? with
  | some taken => some taken
  | none => if reader.text = [] then none else some (reader.text, { reader with text := [] })

def fill (reader : Reader) : Nat → Bytes → Option (Text × Reader)
  | 0, _ => reader.finish.takeLast?
  | portions + 1, left =>
    if left = [] then reader.finish.takeLast?
    else
      let fed := reader.feed (left.take portion)
      match fed.takeLine? with
      | some taken => some taken
      | none => fill fed portions (left.drop portion)

def next? (reader : Reader) (content : Bytes) : Option (Text × Reader) :=
  match reader.takeLine? with
  | some taken => some taken
  | none =>
    let left := content.drop reader.offset
    fill reader left.length left

end Reader

end Tunables.Preload
