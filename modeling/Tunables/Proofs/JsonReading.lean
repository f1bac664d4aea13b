import Tunables.Audit.Value

/-!
A reader of JSON, and that it reads what the audit log writes: a rendered value is read back whole
(`read?_render`). White space may stand wherever JSON allows it, a character may be escaped in any
of the ways JSON has, and numbers are whole, as they are in the log.
-/

namespace Tunables

namespace Json

open Audit (Value)

variable {α : Type}

def isSpace (c : Char) : Bool := c = ' ' || c = '\t' || c = '\n' || c = '\r'

def skip (text : Chars) : Chars := text.dropWhile isSpace

def hexDigit? (c : Char) : Option Nat :=
  if '0' ≤ c ∧ c ≤ '9' then some (c.toNat - '0'.toNat)
  else if 'a' ≤ c ∧ c ≤ 'f' then some (c.toNat - 'a'.toNat + 10)
  else if 'A' ≤ c ∧ c ≤ 'F' then some (c.toNat - 'A'.toNat + 10)
  else none

def unit? : Chars → Option (Nat × Chars)
  | a :: b :: c :: d :: rest => do
    let a ← hexDigit? a
    let b ← hexDigit? b
    let c ← hexDigit? c
    let d ← hexDigit? d
    some (((a * 16 + b) * 16 + c) * 16 + d, rest)
  | _ => none

def lowUnit? : Chars → Option (Nat × Chars)
  | '\\' :: 'u' :: rest => (unit? rest).filter fun (low, _) => 0xDC00 ≤ low && low < 0xE000
  | _ => none

/-- A symbol by one unit, or by the two halves of a surrogate pair. -/
def units? (text : Chars) : Option (Symbol × Chars) := do
  let (high, rest) ← unit? text
  if high < 0xD800 ∨ 0xE000 ≤ high then some (.char (Char.ofNat high), rest)
  else if 0xDC00 ≤ high then
    if stray : 0xDC80 ≤ high ∧ high < 0xDD00 then some (.stray ⟨high - 0xDC80, by omega⟩, rest)
    else none
  else
    let (low, rest) ← lowUnit? rest
    some (.char (Char.ofNat (0x10000 + (high - 0xD800) * 1024 + (low - 0xDC00))), rest)

def letters : List (Char × Char) :=
  [('"', '"'), ('\\', '\\'), ('/', '/'), ('b', '\x08'), ('f', '\x0c'), ('n', '\n'), ('r', '\r'),
    ('t', '\t')]

def escaped? : Chars → Option (Symbol × Chars)
  | [] => none
  | c :: rest => if c = 'u' then units? rest else (letters.lookup c).map fun c => (.char c, rest)

def text? : Nat → Chars → Option (Text × Chars)
  | 0, _ | _ + 1, [] => none
  | fuel + 1, c :: rest =>
    if c = '"' then some ([], rest)
    else if c = '\\' then do
      let (symbol, rest) ← escaped? rest
      (text? fuel rest).map fun (text, rest) => (symbol :: text, rest)
    else if c.toNat < 0x20 then none
    else (text? fuel rest).map fun (text, rest) => (.char c :: text, rest)

def natural? (text : Chars) : Option (Nat × Chars) :=
  let digits := text.takeWhile Char.isDigit
  if digits = ['0'] ∨ (digits ≠ [] ∧ digits.head? ≠ some '0') then
    some (Nat.ofDigitChars 10 digits 0, text.dropWhile Char.isDigit)
  else none

def number? : Chars → Option (Int × Chars)
  | [] => none
  | c :: rest =>
    if c = '-' then (natural? rest).map fun (n, rest) => (-(n : Int), rest)
    else (natural? (c :: rest)).map fun (n, rest) => (n, rest)

def Leads (c : Char) : Prop := c = '-' ∨ c.isDigit = true

instance : DecidablePred Leads := fun _ => inferInstanceAs (Decidable (_ ∨ _))

def words : List (Chars × Value) :=
  [("null".toList, .null), ("true".toList, .flag true), ("false".toList, .flag false)]

def word? (text : Chars) : Option (Value × Chars) :=
  words.findSome? fun (word, value) =>
    if word.isPrefixOf text then some (value, text.drop word.length) else none

def series? (close : Char) (item : Chars → Option (α × Chars)) :
    Nat → Chars → Option (List α × Chars)
  | 0, _ => none
  | fuel + 1, text => do
    let (first, rest) ← item text
    match skip rest with
    | [] => none
    | c :: rest =>
      if c = close then some ([first], rest)
      else if c = ',' then
        (series? close item fuel (skip rest)).map fun (others, rest) => (first :: others, rest)
      else none

def enclosed? (close : Char) (item : Chars → Option (α × Chars)) (text : Chars) :
    Option (List α × Chars) :=
  match skip text with
  | [] => none
  | c :: rest =>
    if c = close then some ([], rest) else series? close item (rest.length + 1) (c :: rest)

def member? (value : Chars → Option (Value × Chars)) : Chars → Option ((Text × Value) × Chars)
  | [] => none
  | c :: rest =>
    if c = '"' then do
      let (name, rest) ← text? (rest.length + 1) rest
      match skip rest with
      | [] => none
      | c :: rest =>
        if c = ':' then (value (skip rest)).map fun (value, rest) => ((name, value), rest) else none
    else none

/-- A value that is nested no deeper than so many levels. -/
def value? : Nat → Chars → Option (Value × Chars)
  | 0, _ | _ + 1, [] => none
  | levels + 1, c :: rest =>
    if c = '"' then (text? (rest.length + 1) rest).map fun (text, rest) => (.text text, rest)
    else if c = '[' then
      (enclosed? ']' (value? levels) rest).map fun (items, rest) => (.list items, rest)
    else if c = '\x7b' then
      (enclosed? '\x7d' (member? (value? levels)) rest).map fun (fields, rest) =>
        (.record fields, rest)
    else if Leads c then (number? (c :: rest)).map fun (n, rest) => (.number n, rest)
    else word? (c :: rest)

/-- A whole text as one value. Nothing but white space may stand around it. -/
def read? (text : Chars) : Option Value :=
  match value? text.length (skip text) with
  | some (value, rest) => if skip rest = [] then some value else none
  | none => none

/-- Chars in printable ASCII, so that nothing in it breaks a line. -/
def Printable (text : Chars) : Prop := ∀ c ∈ text, 0x20 ≤ c.toNat ∧ c.toNat < 0x7F

instance : DecidablePred Printable := fun text => List.decidableBAll _ text

theorem printable_append_iff {early late : Chars} :
    Printable (early ++ late) ↔ Printable early ∧ Printable late :=
  List.forall_mem_append

theorem printable_cons_iff {c : Char} {rest : Chars} :
    Printable (c :: rest) ↔ Printable [c] ∧ Printable rest := by
  rw [← printable_append_iff, List.singleton_append]

section Escapes

theorem hexDigit?_digitChar : ∀ n < 16, hexDigit? (Nat.digitChar n) = some n := by decide

theorem printable_hexDigits (width n : Nat) : Printable (Text.hexDigits width n) := by
  have digit : ∀ n < 16, Printable [Nat.digitChar n] := by decide
  induction width generalizing n with
  | zero => nofun
  | succ width ih =>
    exact printable_append_iff.mpr ⟨ih (n / 16), digit (n % 16) (Nat.mod_lt n (by decide))⟩

theorem printable_unit (n : Nat) : Printable (Audit.unit n) := by
  have marked : Printable (['\\', 'u'] ++ Text.hexDigits 4 n) :=
    printable_append_iff.mpr ⟨by decide, printable_hexDigits 4 n⟩
  exact marked

theorem unit?_hexDigits {n : Nat} (small : n < 0x10000) (rest : Chars) :
    unit? (Text.hexDigits 4 n ++ rest) = some (n, rest) := by
  have digit (m : Nat) : hexDigit? (Nat.digitChar (m % 16)) = some (m % 16) :=
    hexDigit?_digitChar _ (Nat.mod_lt _ (by decide))
  have whole : ((n / 16 / 16 / 16 % 16 * 16 + n / 16 / 16 % 16) * 16 + n / 16 % 16) * 16 + n % 16 =
      n := by omega
  simp [Text.hexDigits, unit?, digit, whole]

theorem escaped?_unit (c : Char) (small : c.toNat < 0x10000) (rest : Chars) :
    escaped? ('u' :: Text.hexDigits 4 c.toNat ++ rest) = some (.char c, rest) := by
  have valid : c.toNat < 0xD800 ∨ 0xDFFF < c.toNat ∧ c.toNat < 0x110000 := c.valid
  have single : c.toNat < 0xD800 ∨ 0xE000 ≤ c.toNat := by omega
  rw [List.cons_append, escaped?, if_pos rfl, units?, unit?_hexDigits small]
  simp [single]

theorem escaped?_pair (c : Char) (large : 0x10000 ≤ c.toNat) (rest : Chars) :
    escaped? ('u' :: Text.hexDigits 4 (0xD800 + (c.toNat - 0x10000) / 1024) ++
      (Audit.unit (0xDC00 + (c.toNat - 0x10000) % 1024) ++ rest)) = some (.char c, rest) := by
  have valid : c.toNat < 0xD800 ∨ 0xDFFF < c.toNat ∧ c.toNat < 0x110000 := c.valid
  obtain ⟨high, isHigh⟩ : ∃ high, 0xD800 + (c.toNat - 0x10000) / 1024 = high := ⟨_, rfl⟩
  obtain ⟨low, isLow⟩ : ∃ low, 0xDC00 + (c.toNat - 0x10000) % 1024 = low := ⟨_, rfl⟩
  rw [isHigh, isLow]
  have whole : 0x10000 + (high - 0xD800) * 1024 + (low - 0xDC00) = c.toNat := by omega
  have paired : ¬(high < 0xD800 ∨ 0xE000 ≤ high) := by omega
  have first : ¬0xDC00 ≤ high := by omega
  have second : 0xDC00 ≤ low ∧ low < 0xE000 := by omega
  have reads : lowUnit? (Audit.unit low ++ rest) = some (low, rest) := by
    simp [Audit.unit, lowUnit?, unit?_hexDigits (show low < 0x10000 by omega), second]
  rw [List.cons_append, escaped?, if_pos rfl, units?, unit?_hexDigits (by omega)]
  simp [paired, first, reads, whole]

theorem escapeChar_cases (c : Char) :
    (Audit.escapeChar c = [c] ∧ c ≠ '"' ∧ c ≠ '\\' ∧ Printable [c]) ∨
      ∃ code, Audit.escapeChar c = '\\' :: code ∧ Printable code ∧
        ∀ rest, escaped? (code ++ rest) = some (.char c, rest) := by
  have named {n : Nat} (same : c.toNat = n) : c = Char.ofNat n := same ▸ (Char.ofNat_toNat c).symm
  unfold Audit.escapeChar
  dsimp only
  split
  · rename_i marked
    rcases marked with rfl | rfl
    · exact .inr ⟨['"'], rfl, by decide, fun _ => rfl⟩
    · exact .inr ⟨['\\'], rfl, by decide, fun _ => rfl⟩
  rename_i unmarked
  split
  · rename_i same
    exact .inr ⟨['n'], rfl, by decide, fun _ => same ▸ rfl⟩
  split
  · rename_i same
    exact .inr ⟨['r'], rfl, by decide, fun _ => same ▸ rfl⟩
  split
  · rename_i same
    exact .inr ⟨['t'], rfl, by decide, fun _ => same ▸ rfl⟩
  split
  · rename_i same
    exact .inr ⟨['b'], rfl, by decide, fun _ => named same ▸ rfl⟩
  split
  · rename_i same
    exact .inr ⟨['f'], rfl, by decide, fun _ => named same ▸ rfl⟩
  split
  · rename_i printable
    refine .inl ⟨rfl, fun same => unmarked (.inl same), fun same => unmarked (.inr same), ?_⟩
    exact List.forall_mem_singleton.mpr printable
  split
  · rename_i small
    exact .inr ⟨_, rfl, (printable_cons_iff.mp (printable_unit c.toNat)).2, escaped?_unit c small⟩
  · rename_i large
    have first := printable_unit (0xD800 + (c.toNat - 0x10000) / 1024)
    have second := printable_unit (0xDC00 + (c.toNat - 0x10000) % 1024)
    refine .inr ⟨_ ++ _, rfl, printable_append_iff.mpr ⟨(printable_cons_iff.mp first).2, second⟩,
      fun rest => ?_⟩
    rw [List.append_assoc]
    exact escaped?_pair c (Nat.le_of_not_lt large) rest

theorem escaped?_stray (n : Fin 128) (rest : Chars) :
    escaped? ('u' :: Text.hexDigits 4 (0xDC80 + n) ++ rest) = some (.stray n, rest) := by
  have small : 0xDC80 + n.val < 0x10000 := by omega
  have paired : ¬(0xDC80 + n.val < 0xD800 ∨ 0xE000 ≤ 0xDC80 + n.val) := by omega
  have second : 0xDC00 ≤ 0xDC80 + n.val := by omega
  have stray : 0xDC80 ≤ 0xDC80 + n.val ∧ 0xDC80 + n.val < 0xDD00 := by omega
  rw [List.cons_append, escaped?, if_pos rfl, units?, unit?_hexDigits small]
  simp [paired, second, stray]

theorem escape_cases (symbol : Symbol) :
    (∃ c, symbol = .char c ∧ Audit.escape symbol = [c] ∧ c ≠ '"' ∧ c ≠ '\\' ∧ Printable [c]) ∨
      ∃ code, Audit.escape symbol = '\\' :: code ∧ Printable code ∧
        ∀ rest, escaped? (code ++ rest) = some (symbol, rest) := by
  cases symbol with
  | char c =>
    rcases escapeChar_cases c with plain | coded
    · exact .inl ⟨c, rfl, plain⟩
    · exact .inr coded
  | stray n =>
    have printable := (printable_cons_iff.mp (printable_unit (0xDC80 + n))).2
    exact .inr ⟨_, rfl, printable, escaped?_stray n⟩

theorem printable_escape (symbol : Symbol) : Printable (Audit.escape symbol) := by
  rcases escape_cases symbol with ⟨c, -, same, -, -, printable⟩ | ⟨code, same, printable, -⟩
  · exact same ▸ printable
  · exact same ▸ printable_cons_iff.mpr ⟨by decide, printable⟩

end Escapes

section Quoting

theorem length_le_flatMap_escape (text : Text) :
    text.length ≤ (text.flatMap Audit.escape).length := by
  induction text with
  | nil => exact Nat.le_refl 0
  | cons symbol rest ih =>
    have filled : 0 < (Audit.escape symbol).length := by
      rcases escape_cases symbol with ⟨c, -, same, -⟩ | ⟨code, same, -⟩ <;> simp [same]
    rw [List.flatMap_cons, List.length_append, List.length_cons]
    omega

theorem text?_escape (symbol : Symbol) (fuel : Nat) (rest : Chars) :
    text? (fuel + 1) (Audit.escape symbol ++ rest) =
      (text? fuel rest).map fun (text, rest) => (symbol :: text, rest) := by
  rcases escape_cases symbol with
    ⟨c, rfl, same, notQuote, notBackslash, printable⟩ | ⟨code, same, -, reads⟩
  · rw [same, List.singleton_append, text?, if_neg notQuote, if_neg notBackslash,
      if_neg (Nat.not_lt_of_le (printable c List.mem_cons_self).1)]
  · rw [same, List.cons_append, text?, if_neg (by decide), if_pos rfl, reads]
    rfl

theorem text?_flatMap_escape (text : Text) {fuel : Nat} (enough : text.length < fuel)
    (rest : Chars) : text? fuel (text.flatMap Audit.escape ++ '"' :: rest) = some (text, rest) := by
  induction text generalizing fuel with
  | nil =>
    obtain ⟨fuel, rfl⟩ := Nat.exists_eq_add_one_of_ne_zero (Nat.ne_of_gt enough)
    rfl
  | cons symbol text ih =>
    obtain ⟨fuel, rfl⟩ := Nat.exists_eq_add_one_of_ne_zero (Nat.ne_of_gt (Nat.zero_lt_of_lt enough))
    rw [List.flatMap_cons, List.append_assoc, text?_escape,
      ih (Nat.lt_of_succ_lt_succ enough)]
    rfl

theorem text?_quoted (text : Text) (rest : Chars) :
    text? ((text.flatMap Audit.escape ++ '"' :: rest).length + 1)
      (text.flatMap Audit.escape ++ '"' :: rest) = some (text, rest) := by
  have shorter := length_le_flatMap_escape text
  refine text?_flatMap_escape text ?_ rest
  rw [List.length_append]
  omega

theorem printable_quote (text : Text) : Printable (Audit.quote text) := by
  have inside : Printable (text.flatMap Audit.escape) := by
    induction text with
    | nil => nofun
    | cons symbol text ih => exact printable_append_iff.mpr ⟨printable_escape symbol, ih⟩
  rw [Audit.quote, printable_append_iff, printable_cons_iff]
  exact ⟨⟨by decide, inside⟩, by decide⟩

end Quoting

section Numerals

def Stops (rest : Chars) : Prop := rest.takeWhile Char.isDigit = []

theorem stops_cons {c : Char} (other : c.isDigit = false) (rest : Chars) : Stops (c :: rest) := by
  rw [Stops, List.takeWhile_cons_of_neg (by simp [other])]

theorem Stops.dropWhile {rest : Chars} (stops : Stops rest) :
    rest.dropWhile Char.isDigit = rest := by
  have whole := @List.takeWhile_append_dropWhile _ Char.isDigit rest
  rwa [stops] at whole

theorem head_toDigits {n : Nat} (positive : 0 < n) : (Nat.toDigits 10 n).head? ≠ some '0' := by
  induction n using Nat.strongRecOn with
  | ind n ih =>
    rw [Nat.toDigits_eq_if (by decide)]
    by_cases small : n < 10
    · rw [if_pos small]
      have named : ∀ n < 10, 0 < n → [n.digitChar].head? ≠ some '0' := by decide
      exact named n small positive
    · have shorter := ih (n / 10) (by omega) (by omega)
      obtain ⟨d, digits, same⟩ := List.exists_cons_of_ne_nil (@Nat.toDigits_ne_nil (n / 10) 10)
      rw [same] at shorter
      rwa [if_neg small, same]

theorem natural?_toDigits (n : Nat) {rest : Chars} (stops : Stops rest) :
    natural? (Nat.toDigits 10 n ++ rest) = some (n, rest) := by
  have digits : ∀ c ∈ Nat.toDigits 10 n, c.isDigit = true :=
    fun c member => Nat.isDigit_of_mem_toDigits (by decide) (by decide) member
  have inside : (Nat.toDigits 10 n ++ rest).takeWhile Char.isDigit = Nat.toDigits 10 n := by
    rw [List.takeWhile_append_of_pos digits, stops, List.append_nil]
  have behind : (Nat.toDigits 10 n ++ rest).dropWhile Char.isDigit = rest := by
    rw [List.dropWhile_append_of_pos digits, stops.dropWhile]
  have canonical : Nat.toDigits 10 n = ['0'] ∨
      Nat.toDigits 10 n ≠ [] ∧ (Nat.toDigits 10 n).head? ≠ some '0' := by
    rcases Nat.eq_zero_or_pos n with rfl | positive
    · exact .inl rfl
    · exact .inr ⟨Nat.toDigits_ne_nil, head_toDigits positive⟩
  rw [natural?, inside, behind, if_pos canonical, Nat.ofDigitChars_ten_toDigits]

theorem Leads.ne {c d : Char} (leads : Leads c) (other : ¬Leads d) : c ≠ d := by
  rintro rfl
  exact other leads

theorem Leads.unspaced {c : Char} (leads : Leads c) : isSpace c = false := by
  have ne : c ≠ ' ' ∧ c ≠ '\t' ∧ c ≠ '\n' ∧ c ≠ '\r' :=
    ⟨leads.ne (by decide), leads.ne (by decide), leads.ne (by decide), leads.ne (by decide)⟩
  simp [isSpace, ne]

theorem exists_toDigits (n : Nat) :
    ∃ d digits, Nat.toDigits 10 n = d :: digits ∧ d.isDigit = true := by
  obtain ⟨d, digits, same⟩ := List.exists_cons_of_ne_nil (@Nat.toDigits_ne_nil n 10)
  refine ⟨d, digits, same, ?_⟩
  refine @Nat.isDigit_of_mem_toDigits 10 n d (by decide) (by decide) ?_
  rw [same]
  exact List.mem_cons_self

theorem exists_digits (n : Int) : ∃ c digits, Text.digits n = c :: digits ∧ Leads c := by
  cases n with
  | ofNat n =>
    obtain ⟨d, digits, same, digit⟩ := exists_toDigits n
    exact ⟨d, digits, same, .inr digit⟩
  | negSucc n => exact ⟨'-', Nat.toDigits 10 (n + 1), rfl, .inl rfl⟩

theorem number?_digits (n : Int) {rest : Chars} (stops : Stops rest) :
    number? (Text.digits n ++ rest) = some (n, rest) := by
  cases n with
  | ofNat n =>
    obtain ⟨d, digits, same, digit⟩ := exists_toDigits n
    have unsigned : d ≠ '-' := by
      rintro rfl
      cases digit
    have reads := natural?_toDigits n stops
    rw [same, List.cons_append] at reads
    rw [Text.digits, same, List.cons_append, number?, if_neg unsigned, reads]
    rfl
  | negSucc n =>
    rw [Text.digits, List.cons_append, number?, if_pos rfl, natural?_toDigits _ stops]
    rfl

end Numerals

section Series

/-- The series' items are read one by one, each up to what stands behind it. -/
def Reads (item : Chars → Option (α × Chars)) (write : α → Chars) (items : List α) : Prop :=
  ∀ x ∈ items, ∀ rest, Stops rest → item (write x ++ rest) = some (x, rest)

def Closes (c : Char) : Prop := c = ']' ∨ c = '\x7d'

instance : DecidablePred Closes := fun _ => inferInstanceAs (Decidable (_ ∨ _))

def Begins (text : Chars) : Prop :=
  ∃ c rest, text = c :: rest ∧ isSpace c = false ∧ ¬Closes c

variable {close : Char} {item : Chars → Option (α × Chars)} {write : α → Chars} {items : List α}

theorem Closes.stops (closes : Closes close) (rest : Chars) : Stops (close :: rest) := by
  rcases closes with rfl | rfl <;> exact stops_cons (by decide) rest

theorem Closes.skip (closes : Closes close) (rest : Chars) :
    skip (close :: rest) = close :: rest := by
  rcases closes with rfl | rfl <;> rfl

theorem Closes.ne {c : Char} (closes : Closes close) (other : ¬Closes c) : c ≠ close :=
  fun same => other (same ▸ closes)

theorem Begins.append {text : Chars} (begins : Begins text) (rest : Chars) :
    Begins (text ++ rest) := by
  obtain ⟨c, behind, rfl, first⟩ := begins
  exact ⟨c, behind ++ rest, rfl, first⟩

theorem Begins.skip {text : Chars} (begins : Begins text) : skip text = text := by
  obtain ⟨c, behind, rfl, unspaced, -⟩ := begins
  rw [Json.skip, List.dropWhile_cons_of_neg (by simp [unspaced])]

theorem begins_intercalate {first : Chars} (begins : Begins first) (others : List Chars) :
    Begins (Audit.comma.intercalate (first :: others)) := by
  cases others with
  | nil => rwa [List.intercalate_singleton]
  | cons second others =>
    rw [List.intercalate_cons_cons, List.append_assoc]
    exact begins.append _

theorem skip_comma (text : Chars) : skip (Audit.comma ++ text) = ',' :: ' ' :: text := rfl

theorem series?_intercalate (closes : Closes close) (reads : Reads item write items)
    (begins : ∀ x ∈ items, Begins (write x)) (filled : items ≠ []) {fuel : Nat}
    (enough : (Audit.comma.intercalate (items.map write)).length ≤ fuel) (rest : Chars) :
    series? close item fuel (Audit.comma.intercalate (items.map write) ++ close :: rest) =
      some (items, rest) := by
  -- What is written of the items is fuel enough.
  induction items generalizing fuel with
  | nil => exact absurd rfl filled
  | cons x items ih =>
    rw [List.forall_mem_cons] at begins
    have first := reads x List.mem_cons_self
    obtain ⟨fuel, rfl⟩ : ∃ less, fuel = less + 1 := by
      obtain ⟨c, behind, same, -⟩ := begins_intercalate begins.1 (items.map write)
      rw [List.map_cons, same, List.length_cons] at enough
      exact Nat.exists_eq_add_one_of_ne_zero (by omega)
    cases items with
    | nil =>
      rw [List.map_singleton, List.intercalate_singleton, series?, first _ (closes.stops rest)]
      simp [closes.skip]
    | cons y items =>
      have other : ',' ≠ close := closes.ne (by decide)
      rw [List.map_cons, List.map_cons, List.intercalate_cons_cons, ← List.map_cons] at enough ⊢
      have shorter : (Audit.comma.intercalate ((y :: items).map write)).length ≤ fuel := by
        rw [List.length_append, List.length_append, show Audit.comma.length = 2 from rfl] at enough
        omega
      have later := ih (fun z member => reads z (List.mem_cons_of_mem _ member)) begins.2
        (List.cons_ne_nil y items) shorter
      have begun := (begins_intercalate (begins.2 y List.mem_cons_self) (items.map write)).append
        (close :: rest)
      rw [List.append_assoc, List.append_assoc]
      rw [← List.map_cons] at begun
      generalize Audit.comma.intercalate ((y :: items).map write) ++ close :: rest = text
        at later begun ⊢
      have stops : Stops (Audit.comma ++ text) := stops_cons (by decide) (' ' :: text)
      have spaced : skip (' ' :: text) = text := begun.skip
      rw [series?, first _ stops]
      simp [skip_comma, other, spaced, later]

theorem enclosed?_intercalate (closes : Closes close) (reads : Reads item write items)
    (begins : ∀ x ∈ items, Begins (write x)) (rest : Chars) :
    enclosed? close item (Audit.comma.intercalate (items.map write) ++ close :: rest) =
      some (items, rest) := by
  cases items with
  | nil => rcases closes with rfl | rfl <;> rfl
  | cons x items =>
    have begun := begins_intercalate (begins x List.mem_cons_self) (items.map write)
    have whole := (begun.append (close :: rest)).skip
    have inside := series?_intercalate closes reads begins (List.cons_ne_nil x items)
      (Nat.le_add_right _ (close :: rest).length) rest
    rw [List.map_cons] at inside ⊢
    rw [← List.length_append] at inside
    rw [enclosed?, whole]
    obtain ⟨c, behind, same, -, opens⟩ := begun.append (close :: rest)
    rw [same] at inside ⊢
    dsimp only
    rw [if_neg (closes.ne opens)]
    exact inside

end Series

section Values

def renderField (field : Text × Value) : Chars :=
  Audit.quote field.1 ++ [':', ' '] ++ field.2.render

theorem renderItems_eq (items : List Value) :
    Audit.renderItems items = Audit.comma.intercalate (items.map Value.render) := by
  induction items with
  | nil => rw [Audit.renderItems]; rfl
  | cons item items ih =>
    cases items with
    | nil => rw [Audit.renderItems, List.map_singleton, List.intercalate_singleton]
    | cons second items =>
      rw [Audit.renderItems, ih]
      · simp only [List.map_cons, List.intercalate_cons_cons]
      · nofun

theorem renderFields_eq (fields : List (Text × Value)) :
    Audit.renderFields fields = Audit.comma.intercalate (fields.map renderField) := by
  induction fields with
  | nil => rw [Audit.renderFields]; rfl
  | cons field fields ih =>
    cases fields with
    | nil => rw [Audit.renderFields, List.map_singleton, List.intercalate_singleton]; rfl
    | cons second fields =>
      rw [Audit.renderFields, ih]
      · simp only [List.map_cons, List.intercalate_cons_cons]
        rfl
      · nofun

/-- Induction over the items of lists and the fields of records, at any depth. -/
@[elab_as_elim]
theorem value_induction {motive : Value → Prop} (null : motive .null)
    (flag : ∀ value, motive (.flag value)) (number : ∀ value, motive (.number value))
    (text : ∀ value, motive (.text value))
    (list : ∀ items, (∀ item ∈ items, motive item) → motive (.list items))
    (record : ∀ fields, (∀ field ∈ fields, motive field.2) → motive (.record fields))
    (value : Value) : motive value :=
  @Value.rec motive (fun items => ∀ item ∈ items, motive item)
    (fun fields => ∀ field ∈ fields, motive field.2) (fun field => motive field.2)
    null flag number text list record nofun
    (fun _ _ first others => List.forall_mem_cons.mpr ⟨first, others⟩) nofun
    (fun _ _ first others => List.forall_mem_cons.mpr ⟨first, others⟩)
    (fun _ _ value => value) value

theorem begins_render (value : Value) : Begins value.render := by
  cases value with
  | null => exact ⟨'n', _, rfl, by decide⟩
  | flag value => cases value <;> exact ⟨_, _, rfl, by decide⟩
  | number n =>
    obtain ⟨c, digits, same, leads⟩ := exists_digits n
    rw [Value.render, same]
    refine ⟨c, digits, rfl, leads.unspaced, ?_⟩
    rintro (rfl | rfl)
    · exact absurd leads (by decide)
    · exact absurd leads (by decide)
  | text value => exact ⟨'"', _, rfl, by decide⟩
  | list items =>
    rw [Value.render]
    exact ⟨'[', _, rfl, by decide⟩
  | record fields =>
    rw [Value.render]
    exact ⟨'\x7b', _, rfl, by decide⟩

theorem begins_renderField (field : Text × Value) : Begins (renderField field) :=
  ⟨'"', _, rfl, by decide⟩

theorem member?_renderField {value : Chars → Option (Value × Chars)} {field : Text × Value}
    {rest : Chars} (reads : value (field.2.render ++ rest) = some (field.2, rest)) :
    member? value (renderField field ++ rest) = some (field, rest) := by
  have begun := (begins_render field.2).append rest
  have opened : renderField field ++ rest =
      '"' :: (field.1.flatMap Audit.escape ++ '"' :: ':' :: ' ' :: (field.2.render ++ rest)) := by
    simp [renderField, Audit.quote]
  have colon (text : Chars) : skip (':' :: text) = ':' :: text := rfl
  have spaced : skip (' ' :: (field.2.render ++ rest)) = field.2.render ++ rest := begun.skip
  rw [opened, member?, if_pos rfl, text?_quoted]
  simp [colon, spaced, reads]

theorem length_le_intercalate_map (write : α → Chars) {x : α} {items : List α}
    (member : x ∈ items) :
    (write x).length ≤ (Audit.comma.intercalate (items.map write)).length := by
  induction items with
  | nil => cases member
  | cons first items ih =>
    cases items with
    | nil =>
      refine Nat.le_of_eq ?_
      rw [List.mem_singleton.mp member, List.map_singleton, List.intercalate_singleton]
    | cons second items =>
      rw [List.map_cons, List.map_cons, List.intercalate_cons_cons, ← List.map_cons,
        List.length_append, List.length_append]
      rcases List.mem_cons.mp member with rfl | later
      · omega
      · have shorter := ih later
        omega

theorem exists_level {value : Value} {levels : Nat} (enough : value.render.length ≤ levels) :
    ∃ less, levels = less + 1 := by
  obtain ⟨c, behind, same, -⟩ := begins_render value
  rw [same, List.length_cons] at enough
  exact Nat.exists_eq_add_one_of_ne_zero (by omega)

/-- A value is read back, whatever stands behind it that is no digit. -/
theorem value?_render (value : Value) {levels : Nat} (enough : value.render.length ≤ levels)
    {rest : Chars} (stops : Stops rest) :
    value? levels (value.render ++ rest) = some (value, rest) := by
  obtain ⟨levels, rfl⟩ := exists_level enough
  -- As many levels as it has characters are enough.
  induction value using value_induction generalizing levels rest with
  | null => rfl
  | flag value => cases value <;> rfl
  | number n =>
    obtain ⟨c, digits, same, leads⟩ := exists_digits n
    have reads := number?_digits n stops
    rw [same, List.cons_append] at reads
    rw [Value.render, same, List.cons_append, value?, if_neg (leads.ne (by decide)),
      if_neg (leads.ne (by decide)), if_neg (leads.ne (by decide)), if_pos leads, reads]
    rfl
  | text value =>
    have opened : (Value.text value).render ++ rest =
        '"' :: (value.flatMap Audit.escape ++ '"' :: rest) := by
      simp [Value.render, Audit.quote]
    rw [opened, value?, if_pos rfl, text?_quoted]
    rfl
  | list items ih =>
    rw [Value.render, renderItems_eq, List.length_append, List.length_cons] at enough
    have reads : Reads (value? levels) Value.render items := by
      intro item member behind stops
      have shorter := length_le_intercalate_map Value.render member
      have deep : item.render.length ≤ levels := by omega
      obtain ⟨levels, rfl⟩ := exists_level deep
      exact ih item member stops levels deep
    have inside := enclosed?_intercalate (.inl rfl) reads (fun item _ => begins_render item) rest
    rw [Value.render, renderItems_eq, List.append_assoc, List.cons_append, List.singleton_append,
      value?, if_neg (by decide), if_pos rfl, inside]
    rfl
  | record fields ih =>
    rw [Value.render, renderFields_eq, List.length_append, List.length_cons] at enough
    have reads : Reads (member? (value? levels)) renderField fields := by
      intro field member behind stops
      have shorter := length_le_intercalate_map renderField member
      have deep : field.2.render.length ≤ levels := by
        rw [renderField, List.length_append] at shorter
        omega
      obtain ⟨levels, rfl⟩ := exists_level deep
      exact member?_renderField (ih field member stops levels deep)
    have inside := enclosed?_intercalate (.inr rfl) reads (fun field _ => begins_renderField field)
      rest
    rw [Value.render, renderFields_eq, List.append_assoc, List.cons_append, List.singleton_append,
      value?, if_neg (by decide), if_neg (by decide), if_pos rfl, inside]
    rfl

/-- Rendering a value and reading what was rendered gives the value. -/
theorem read?_render (value : Value) : read? value.render = some value := by
  have ends : Stops [] := rfl
  have reads := value?_render value (Nat.le_refl _) ends
  rw [List.append_nil] at reads
  rw [read?, (begins_render value).skip, reads]
  rfl

example : read? " \x7b\"a\" : [ -20,true ],\n\"\\u00e9\\/\":\"\\ud83d\\ude00\"\x7d ".toList =
    some (.record [("a".text, .list [.number (-20), .flag true]), ("é/".text, .text ['😀'])]) :=
  rfl

example : ["01", "[1,]", "\"\n\"", "\"\\ud83d\"", "1 2"].filterMap (fun text => read? text.toList) =
    [] := rfl

theorem printable_toDigits (n : Nat) : Printable (Nat.toDigits 10 n) := by
  intro c member
  have digit : c.isDigit = true := Nat.isDigit_of_mem_toDigits (by decide) (by decide) member
  simp only [Char.isDigit, Bool.and_eq_true, decide_eq_true_eq, ge_iff_le, UInt32.le_iff_toNat_le]
    at digit
  have low : '0'.val.toNat = 0x30 := rfl
  have high : '9'.val.toNat = 0x39 := rfl
  have same : c.toNat = c.val.toNat := rfl
  omega

theorem printable_digits (n : Int) : Printable (Text.digits n) := by
  cases n with
  | ofNat n => exact printable_toDigits n
  | negSucc n => exact printable_cons_iff.mpr ⟨by decide, printable_toDigits (n + 1)⟩

theorem printable_intercalate {parts : List Chars} (printable : ∀ part ∈ parts, Printable part) :
    Printable (Audit.comma.intercalate parts) := by
  induction parts with
  | nil => nofun
  | cons first parts ih =>
    rw [List.forall_mem_cons] at printable
    cases parts with
    | nil =>
      rw [List.intercalate_singleton]
      exact printable.1
    | cons second parts =>
      rw [List.intercalate_cons_cons, printable_append_iff, printable_append_iff]
      exact ⟨⟨printable.1, by decide⟩, ih printable.2⟩

/-- Whatever a value holds, it is written without a line feed or anything else that is not
printable ASCII. -/
theorem printable_render (value : Value) : Printable value.render := by
  induction value using value_induction with
  | null => decide
  | flag value => cases value <;> decide
  | number n => exact printable_digits n
  | text value => exact printable_quote value
  | list items ih =>
    have inside := printable_intercalate (List.forall_mem_map.mpr ih)
    rw [Value.render, renderItems_eq, printable_append_iff, printable_cons_iff]
    exact ⟨⟨by decide, inside⟩, by decide⟩
  | record fields ih =>
    have field : ∀ field ∈ fields, Printable (renderField field) := by
      intro field member
      rw [renderField, printable_append_iff, printable_append_iff]
      exact ⟨⟨printable_quote field.1, by decide⟩, ih field member⟩
    have inside := printable_intercalate (List.forall_mem_map.mpr field)
    rw [Value.render, renderFields_eq, printable_append_iff, printable_cons_iff]
    exact ⟨⟨by decide, inside⟩, by decide⟩

end Values

end Json

end Tunables
