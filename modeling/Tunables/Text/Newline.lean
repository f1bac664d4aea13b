import Tunables.Text

/-!
Newlines of a text file: CR LF and CR stand for LF, and a line ends at LF only. `translate` works on
portions, so it holds a CR back until the next character is known.
-/

namespace Tunables.Newline

/-- The flag says that a CR is held back. -/
def translate : Bool → Text → Bool × Text
  | held, [] => (held, [])
  | held, c :: rest =>
    if c = '\n' then
      let (later, text) := translate false rest
      (later, '\n' :: text)
    else if c = '\r' then
      let (later, text) := translate true rest
      (later, if held then '\n' :: text else text)
    else
      let (later, text) := translate false rest
      (later, if held then '\n' :: c :: text else c :: text)

def finish (held : Bool) : Text := if held then ['\n'] else []

def unified (text : Text) : Text :=
  (translate false text).2 ++ finish (translate false text).1

def takeLine? (text : Text) : Option (Text × Text) :=
  (Text.cut? '\n' text).map fun (line, rest) => (line ++ [.char '\n'], rest)

def lines : Text → List Text
  | [] => []
  | c :: rest =>
    if c = '\n' then ['\n'] :: lines rest
    else
      match lines rest with
      | [] => [[c]]
      | line :: more => (c :: line) :: more

theorem translate_append (held : Bool) (before behind : Text) :
    translate held (before ++ behind) =
      ((translate (translate held before).1 behind).1,
        (translate held before).2 ++ (translate (translate held before).1 behind).2) := by
  induction before generalizing held with
  | nil => simp [translate]
  | cons c rest ih =>
    by_cases feed : c = '\n'
    · simp [translate, feed, ih]
    · by_cases carriage : c = '\r' <;> cases held <;> simp [translate, feed, carriage, ih]

theorem flatten_lines (text : Text) : (lines text).flatten = text := by
  induction text with
  | nil => rfl
  | cons c rest ih =>
    by_cases feed : c = '\n'
    · simp [lines, feed, ih]
    · cases found : lines rest with
      | nil => simp_all [lines]
      | cons line more => simp_all [lines]

end Tunables.Newline
