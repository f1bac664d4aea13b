/-!
Text is a list of symbols, so a law about text is a law about lists. Here are the cuts and the
numerals that the rest of the library shares.
-/

namespace Tunables

/-- Text that comes from outside as bytes keeps those that belong to no character: `stray n` is the
byte 0x80 + n. -/
inductive Symbol
  | char (c : Char)
  | stray (n : Fin 128)
  deriving DecidableEq, Repr

instance : Coe Char Symbol := ⟨.char⟩

abbrev Text := List Symbol

abbrev Chars := List Char

namespace Symbol

/-- A stray byte counts as a low surrogate, which is the number of no character. -/
def toNat : Symbol → Nat
  | char c => c.toNat
  | stray n => 0xDC80 + n

def isStray : Symbol → Bool
  | char _ => false
  | stray _ => true

instance : LT Symbol := ⟨fun first second => first.toNat < second.toNat⟩

instance : Std.Irrefl (fun first second : Symbol => first < second) :=
  ⟨fun symbol => Nat.lt_irrefl symbol.toNat⟩

end Symbol

namespace Text

def ofChars (chars : Chars) : Text := chars.map .char

def hasStray (text : Text) : Bool := text.any Symbol.isStray

def chars? : Text → Option Chars
  | [] => some []
  | .char c :: rest => (chars? rest).map (c :: ·)
  | .stray _ :: _ => none

end Tunables.Text

def String.text (string : String) : Tunables.Text := Tunables.Text.ofChars string.toList

namespace Tunables.Text

def dropTrailing (drop : Symbol → Bool) (text : Text) : Text :=
  (text.reverse.dropWhile drop).reverse

def trim (drop : Symbol → Bool) (text : Text) : Text :=
  dropTrailing drop (text.dropWhile drop)

def cut? (mark : Symbol) : Text → Option (Text × Text)
  | [] => none
  | c :: rest =>
    if c = mark then some ([], rest)
    else (cut? mark rest).map fun (before, behind) => (c :: before, behind)

def hasNul (text : Text) : Bool := text.contains (.char '\x00')

def digits : Int → Chars
  | .ofNat n => Nat.toDigits 10 n
  | .negSucc n => '-' :: Nat.toDigits 10 (n + 1)

def ofInt (n : Int) : Text := ofChars (digits n)

def ofNat (n : Nat) : Text := ofInt n

def hexDigits : Nat → Nat → Chars
  | 0, _ => []
  | width + 1, n => hexDigits width (n / 16) ++ [Nat.digitChar (n % 16)]

def hex (width n : Nat) : Text := ofChars (hexDigits width n)

theorem hasNul_iff {text : Text} : hasNul text = true ↔ .char '\x00' ∈ text := by
  rw [hasNul, List.contains_iff_mem]

theorem hasNul_eq_false_iff {text : Text} : hasNul text = false ↔ .char '\x00' ∉ text := by
  rw [← hasNul_iff, Bool.not_eq_true]

theorem chars?_ofChars (chars : Chars) : chars? (ofChars chars) = some chars := by
  induction chars with
  | nil => rfl
  | cons c rest ih => exact congrArg (Option.map (c :: ·)) ih

theorem eq_ofChars_of_chars? {text : Text} {chars : Chars} (whole : chars? text = some chars) :
    text = ofChars chars := by
  induction text generalizing chars with
  | nil =>
    cases whole
    rfl
  | cons symbol rest ih =>
    cases symbol with
    | stray n => cases whole
    | char c =>
      obtain ⟨others, found, rfl⟩ := Option.map_eq_some_iff.mp whole
      exact congrArg (.char c :: ·) (ih found)

theorem ofChars_inj {first second : Chars} : ofChars first = ofChars second ↔ first = second := by
  constructor
  · intro same
    exact Option.some.inj (by rw [← chars?_ofChars first, same, chars?_ofChars])
  · exact congrArg ofChars

@[simp]
theorem text_inj {first second : String} : first.text = second.text ↔ first = second := by
  rw [String.text, String.text, ofChars_inj, String.toList_inj]

theorem ofChars_lt_ofChars {first second : Chars} (less : first < second) :
    ofChars first < ofChars second := by
  induction less with
  | nil => exact .nil
  | cons _ ih => exact .cons ih
  | rel before => exact .rel before

theorem mem_ofChars {c : Char} {chars : Chars} : .char c ∈ ofChars chars ↔ c ∈ chars := by
  simp [ofChars]

theorem hasStray_ofChars (chars : Chars) : hasStray (ofChars chars) = false := by
  simp [hasStray, ofChars, Symbol.isStray]

theorem hasStray_append (first second : Text) :
    hasStray (first ++ second) = (hasStray first || hasStray second) := List.any_append

theorem cut?_eq_none_iff {mark : Symbol} {text : Text} : cut? mark text = none ↔ mark ∉ text := by
  induction text with
  | nil => simp [cut?]
  | cons c rest ih =>
    by_cases h : c = mark
    · simp [cut?, h]
    · simp [cut?, h, ih, Ne.symm h]

theorem eq_of_cut? {mark : Symbol} {text before behind : Text}
    (cut : cut? mark text = some (before, behind)) :
    text = before ++ mark :: behind ∧ mark ∉ before := by
  induction text generalizing before with
  | nil => simp [cut?] at cut
  | cons c rest ih =>
    by_cases h : c = mark
    · simp only [cut?, h, if_true, Option.some.injEq, Prod.mk.injEq] at cut
      obtain ⟨rfl, rfl⟩ := cut
      simp [h]
    · simp only [cut?, h, if_false, Option.map_eq_some_iff, Prod.mk.injEq, Prod.exists] at cut
      obtain ⟨first, last, found, rfl, rfl⟩ := cut
      obtain ⟨rfl, absent⟩ := ih found
      simp [absent, Ne.symm h]

theorem cut?_append {mark : Symbol} {before : Text} (behind : Text) (absent : mark ∉ before) :
    cut? mark (before ++ mark :: behind) = some (before, behind) := by
  induction before with
  | nil => simp [cut?]
  | cons c rest ih =>
    simp only [List.mem_cons, not_or] at absent
    simp [cut?, Ne.symm absent.1, ih absent.2]

end Tunables.Text
