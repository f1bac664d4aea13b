import Tunables.Text

/-!
UTF-8. `feed` decodes byte by byte and puts U+FFFD for every longest piece that begins a character
and does not finish it; feeding bytes in two portions is feeding them at once (`feed_append`), and
characters that were encoded are decoded whole (`decode_encode`). `strict?` refuses such a piece and
says where it lies, and `encode?` refuses stray bytes in the same way.
-/

namespace Tunables

abbrev Bytes := List UInt8

namespace Utf8

def encodeChar (c : Char) : Bytes :=
  let n := c.toNat
  if n < 0x80 then [UInt8.ofNat n]
  else if n < 0x800 then [UInt8.ofNat (0xC0 + n / 64), UInt8.ofNat (0x80 + n % 64)]
  else if n < 0x10000 then
    [UInt8.ofNat (0xE0 + n / 4096), UInt8.ofNat (0x80 + n / 64 % 64), UInt8.ofNat (0x80 + n % 64)]
  else
    [UInt8.ofNat (0xF0 + n / 262144), UInt8.ofNat (0x80 + n / 4096 % 64),
      UInt8.ofNat (0x80 + n / 64 % 64), UInt8.ofNat (0x80 + n % 64)]

def encodeSymbol : Symbol → Bytes
  | .char c => encodeChar c
  | .stray n => [UInt8.ofNat (0x80 + n)]

def encode (text : Text) : Bytes := text.flatMap encodeSymbol

structure Unencodable where
  symbol : Symbol
  first : Nat
  last : Nat
  deriving DecidableEq, Repr

def Unencodable.message (bad : Unencodable) : Text :=
  let place :=
    if bad.first = bad.last then
      "character '\\u".text ++ Text.hex 4 bad.symbol.toNat ++ "' in position ".text ++
        Text.ofNat bad.first
    else
      "characters in position ".text ++ Text.ofNat bad.first ++ [.char '-'] ++ Text.ofNat bad.last
  "'utf-8' codec can't encode ".text ++ place ++ ": surrogates not allowed".text

def encodeFrom (position : Nat) : Text → Except Unencodable Bytes
  | [] => .ok []
  | .char c :: rest => (encodeFrom (position + 1) rest).map (encodeChar c ++ ·)
  | .stray n :: rest =>
    .error ⟨.stray n, position, position + (rest.takeWhile Symbol.isStray).length⟩

def encode? (text : Text) : Except Unencodable Bytes := encodeFrom 0 text

/-- A character begun: its first byte, the bytes read of it, its bits so far, how many bytes follow
the next one, and the bounds of the next one. -/
structure Partway where
  lead : UInt8
  size : Nat
  bits : Nat
  more : Nat
  low : Nat
  high : Nat
  deriving DecidableEq, Repr

inductive Reading
  | char (c : Char)
  | partway (part : Partway)
  | wrong
  deriving DecidableEq, Repr

def first (byte : UInt8) : Reading :=
  let n := byte.toNat
  if n < 0x80 then .char (Char.ofNat n)
  else if n < 0xC2 then .wrong
  else if n < 0xE0 then .partway ⟨byte, 1, n - 0xC0, 0, 0x80, 0xBF⟩
  else if n < 0xF0 then
    .partway
      ⟨byte, 1, n - 0xE0, 1, if n = 0xE0 then 0xA0 else 0x80, if n = 0xED then 0x9F else 0xBF⟩
  else if n < 0xF5 then
    .partway
      ⟨byte, 1, n - 0xF0, 2, if n = 0xF0 then 0x90 else 0x80, if n = 0xF4 then 0x8F else 0xBF⟩
  else .wrong

def Partway.next (part : Partway) (byte : UInt8) : Reading :=
  let n := byte.toNat
  if part.low ≤ n ∧ n ≤ part.high then
    let bits := part.bits * 64 + (n - 0x80)
    match part.more with
    | 0 => .char (Char.ofNat bits)
    | more + 1 => .partway ⟨part.lead, part.size + 1, bits, more, 0x80, 0xBF⟩
  else .wrong

abbrev State := Option Partway

def replacement : Char := '\uFFFD'

def feedFirst (byte : UInt8) : State × Text :=
  match first byte with
  | .char c => (none, [c])
  | .partway part => (some part, [])
  | .wrong => (none, [replacement])

/-- A byte that cannot continue the character begun begins the next one. -/
def feedByte : State → UInt8 → State × Text
  | none, byte => feedFirst byte
  | some part, byte =>
    match part.next byte with
    | .char c => (none, [c])
    | .partway part => (some part, [])
    | .wrong => ((feedFirst byte).1, replacement :: (feedFirst byte).2)

def feed : State → Bytes → State × Text
  | state, [] => (state, [])
  | state, byte :: bytes =>
    let (state, text) := feedByte state byte
    let (state, rest) := feed state bytes
    (state, text ++ rest)

def finish : State → Text
  | none => []
  | some _ => [replacement]

def decode (bytes : Bytes) : Text :=
  (feed none bytes).2 ++ finish (feed none bytes).1

inductive Defect
  | start
  | continuation
  | truncated
  deriving DecidableEq, Repr

/-- A defect lies in the bytes at positions `first` to `last`, of which `lead` is the first. -/
structure Malformed where
  defect : Defect
  lead : UInt8
  first : Nat
  last : Nat
  deriving DecidableEq, Repr

def Defect.message : Defect → Text
  | .start => "invalid start byte".text
  | .continuation => "invalid continuation byte".text
  | .truncated => "unexpected end of data".text

def Malformed.message (bad : Malformed) : Text :=
  let place :=
    if bad.first = bad.last then
      "byte 0x".text ++ Text.hex 2 bad.lead.toNat ++ " in position ".text ++
        Text.ofNat bad.first
    else "bytes in position ".text ++ Text.ofNat bad.first ++ [.char '-'] ++ Text.ofNat bad.last
  "'utf-8' codec can't decode ".text ++ place ++ ": ".text ++ bad.defect.message

def strictFrom : Nat → State → Bytes → Except Malformed Text
  | _, none, [] => .ok []
  | position, some part, [] =>
    .error ⟨.truncated, part.lead, position - part.size, position - 1⟩
  | position, none, byte :: bytes =>
    match first byte with
    | .char c => (strictFrom (position + 1) none bytes).map (c :: ·)
    | .partway part => strictFrom (position + 1) (some part) bytes
    | .wrong => .error ⟨.start, byte, position, position⟩
  | position, some part, byte :: bytes =>
    match part.next byte with
    | .char c => (strictFrom (position + 1) none bytes).map (c :: ·)
    | .partway part => strictFrom (position + 1) (some part) bytes
    | .wrong => .error ⟨.continuation, part.lead, position - part.size, position - 1⟩

def strict? (bytes : Bytes) : Except Malformed Text := strictFrom 0 none bytes

theorem feed_append (state : State) (before behind : Bytes) :
    feed state (before ++ behind) =
      ((feed (feed state before).1 behind).1,
        (feed state before).2 ++ (feed (feed state before).1 behind).2) := by
  induction before generalizing state with
  | nil => simp [feed]
  | cons byte bytes ih => simp [feed, ih]

theorem toNat_byte {n : Nat} (small : n < 256) : (UInt8.ofNat n).toNat = n := by
  simp only [UInt8.toNat_ofNat']
  omega

theorem feed_encodeChar (c : Char) : feed none (encodeChar c) = (none, [.char c]) := by
  have valid : c.toNat < 0xD800 ∨ 0xDFFF < c.toNat ∧ c.toNat < 0x110000 := c.valid
  have whole : Char.ofNat c.toNat = c := Char.ofNat_toNat c
  unfold encodeChar
  generalize c.toNat = n at valid whole
  subst whole
  dsimp only
  split
  · have lead := @toNat_byte n (by omega)
    have low : n < 0x80 := by assumption
    simp [feed, feedByte, feedFirst, first, lead, low]
  split
  · have lead := @toNat_byte (0xC0 + n / 64) (by omega)
    have second := @toNat_byte (0x80 + n % 64) (by omega)
    have bits : (0xC0 + n / 64 - 0xC0) * 64 + (0x80 + n % 64 - 0x80) = n := by omega
    have notAscii : ¬0xC0 + n / 64 < 0x80 := by omega
    have notStray : ¬0xC0 + n / 64 < 0xC2 := by omega
    have two : 0xC0 + n / 64 < 0xE0 := by omega
    have within : 0x80 ≤ 0x80 + n % 64 ∧ 0x80 + n % 64 ≤ 0xBF := by omega
    simp only [feed, feedByte, feedFirst, first, Partway.next, lead, second, notAscii, notStray,
      two, within, bits, if_true, if_false, and_self, List.append_nil, List.nil_append]
  split
  · have lead := @toNat_byte (0xE0 + n / 4096) (by omega)
    have second := @toNat_byte (0x80 + n / 64 % 64) (by omega)
    have third := @toNat_byte (0x80 + n % 64) (by omega)
    have bits : ((0xE0 + n / 4096 - 0xE0) * 64 + (0x80 + n / 64 % 64 - 0x80)) * 64 +
        (0x80 + n % 64 - 0x80) = n := by omega
    have notAscii : ¬0xE0 + n / 4096 < 0x80 := by omega
    have notStray : ¬0xE0 + n / 4096 < 0xC2 := by omega
    have notTwo : ¬0xE0 + n / 4096 < 0xE0 := by omega
    have three : 0xE0 + n / 4096 < 0xF0 := by omega
    have within : (if 0xE0 + n / 4096 = 0xE0 then 0xA0 else 0x80) ≤ 0x80 + n / 64 % 64 ∧
        0x80 + n / 64 % 64 ≤ if 0xE0 + n / 4096 = 0xED then 0x9F else 0xBF := by
      constructor <;> split <;> omega
    have last : 0x80 ≤ 0x80 + n % 64 ∧ 0x80 + n % 64 ≤ 0xBF := by omega
    simp only [feed, feedByte, feedFirst, first, Partway.next, lead, second, third, notAscii,
      notStray, notTwo, three, within, last, bits, if_true, if_false, and_self, List.append_nil,
      List.nil_append]
  · have lead := @toNat_byte (0xF0 + n / 262144) (by omega)
    have second := @toNat_byte (0x80 + n / 4096 % 64) (by omega)
    have third := @toNat_byte (0x80 + n / 64 % 64) (by omega)
    have fourth := @toNat_byte (0x80 + n % 64) (by omega)
    have bits : (((0xF0 + n / 262144 - 0xF0) * 64 + (0x80 + n / 4096 % 64 - 0x80)) * 64 +
        (0x80 + n / 64 % 64 - 0x80)) * 64 + (0x80 + n % 64 - 0x80) = n := by omega
    have notAscii : ¬0xF0 + n / 262144 < 0x80 := by omega
    have notStray : ¬0xF0 + n / 262144 < 0xC2 := by omega
    have notTwo : ¬0xF0 + n / 262144 < 0xE0 := by omega
    have notThree : ¬0xF0 + n / 262144 < 0xF0 := by omega
    have four : 0xF0 + n / 262144 < 0xF5 := by omega
    have within : (if 0xF0 + n / 262144 = 0xF0 then 0x90 else 0x80) ≤ 0x80 + n / 4096 % 64 ∧
        0x80 + n / 4096 % 64 ≤ if 0xF0 + n / 262144 = 0xF4 then 0x8F else 0xBF := by
      constructor <;> split <;> omega
    have third' : 0x80 ≤ 0x80 + n / 64 % 64 ∧ 0x80 + n / 64 % 64 ≤ 0xBF := by omega
    have last : 0x80 ≤ 0x80 + n % 64 ∧ 0x80 + n % 64 ≤ 0xBF := by omega
    simp only [feed, feedByte, feedFirst, first, Partway.next, lead, second, third, fourth,
      notAscii, notStray, notTwo, notThree, four, within, third', last, bits, if_true, if_false,
      and_self, List.append_nil, List.nil_append]

theorem feed_encode {text : Text} (whole : text.hasStray = false) :
    feed none (encode text) = (none, text) := by
  induction text with
  | nil => rfl
  | cons symbol rest ih =>
    cases symbol with
    | stray n => cases whole
    | char c =>
      have rest' : feed none (encode rest) = (none, rest) := ih whole
      rw [encode, List.flatMap_cons, ← encode, feed_append, encodeSymbol, feed_encodeChar, rest',
        List.singleton_append]

theorem decode_encode {text : Text} (whole : text.hasStray = false) :
    decode (encode text) = text := by
  simp [decode, feed_encode whole, finish]

theorem encodeFrom_eq_ok_iff {position : Nat} {text : Text} {bytes : Bytes} :
    encodeFrom position text = .ok bytes ↔ text.hasStray = false ∧ encode text = bytes := by
  induction text generalizing position bytes with
  | nil => simp [encodeFrom, encode, Text.hasStray]
  | cons symbol rest ih =>
    cases symbol with
    | stray n => simp [encodeFrom, Text.hasStray, Symbol.isStray]
    | char c =>
      have whole : encode (.char c :: rest) = encodeChar c ++ encode rest := List.flatMap_cons
      have same : Text.hasStray (.char c :: rest) = Text.hasStray rest := rfl
      rw [encodeFrom, whole, same]
      cases written : encodeFrom (position + 1) rest with
      | error bad =>
        simp only [Except.map, reduceCtorEq, false_iff, not_and]
        intro plain
        cases written.symm.trans (ih.mpr ⟨plain, rfl⟩)
      | ok encoded =>
        obtain ⟨plain, rfl⟩ := ih.mp written
        simp [Except.map, plain]

theorem encode?_eq_ok_iff {text : Text} {bytes : Bytes} :
    encode? text = .ok bytes ↔ text.hasStray = false ∧ encode text = bytes := encodeFrom_eq_ok_iff

theorem encode?_of_whole {text : Text} (whole : text.hasStray = false) :
    encode? text = .ok (encode text) := encode?_eq_ok_iff.mpr ⟨whole, rfl⟩

theorem exists_unencodable {text : Text} (stray : text.hasStray = true) :
    ∃ bad, encode? text = .error bad := by
  cases written : encode? text with
  | error bad => exact ⟨bad, rfl⟩
  | ok bytes => exact absurd (encode?_eq_ok_iff.mp written).1 (by simp [stray])

theorem hasStray_of_unencodable {text : Text} {bad : Unencodable}
    (refused : encode? text = .error bad) : text.hasStray = true := by
  cases stray : text.hasStray with
  | true => rfl
  | false => cases refused.symm.trans (encode?_of_whole stray)

end Utf8

end Tunables
