import Tunables.Path

/-!
The directory tree: entries at locations, a location being the names that lead to it from the top.
The top itself is always there. Of devices there is one that reads empty; those that can be read
without end are left out.
-/

namespace Tunables

def isName (chars : Chars) : Bool :=
  chars ≠ [] && chars ≠ ['.'] && chars ≠ ['.', '.'] && !chars.contains '/' &&
    !chars.contains '\x00'

/-- Names are made of characters: an entry with a stray byte in its name is left out. -/
structure Name where
  chars : Chars
  valid : isName chars = true
  deriving DecidableEq

namespace Name

def text (name : Name) : Text := Text.ofChars name.chars

def ofText? (text : Text) : Option Name :=
  match text.chars? with
  | none => none
  | some chars => if valid : isName chars = true then some ⟨chars, valid⟩ else none

def insert (name : Name) : List Name → List Name
  | [] => [name]
  | head :: tail =>
    if name.chars < head.chars then name :: head :: tail
    else if name = head then head :: tail
    else head :: insert name tail

theorem chars?_text (name : Name) : Text.chars? name.text = some name.chars :=
  Text.chars?_ofChars name.chars

theorem eq_of_chars {first second : Name} (same : first.chars = second.chars) : first = second := by
  cases first
  cases second
  cases same
  rfl

theorem eq_of_text {first second : Name} (same : first.text = second.text) : first = second :=
  eq_of_chars (Text.ofChars_inj.mp same)

theorem ofText?_text (name : Name) : ofText? name.text = some name := by
  unfold ofText?
  rw [name.chars?_text]
  exact dif_pos name.valid

theorem eq_text_of_ofText? {text : Text} {name : Name} (named : ofText? text = some name) :
    text = name.text := by
  unfold ofText? at named
  cases whole : text.chars? with
  | none => simp [whole] at named
  | some chars =>
    simp only [whole, Option.dite_none_right_eq_some, Option.some.injEq] at named
    obtain ⟨valid, rfl⟩ := named
    exact Text.eq_ofChars_of_chars? whole

theorem ne_dots (name : Name) : name.text ≠ Path.dot ∧ name.text ≠ Path.dotDot := by
  have valid := name.valid
  simp only [isName, Bool.and_eq_true, decide_eq_true_eq] at valid
  exact ⟨fun same => valid.1.1.1.2 (Text.ofChars_inj.mp same),
    fun same => valid.1.1.2 (Text.ofChars_inj.mp same)⟩

theorem plain (name : Name) : .char '\x00' ∉ name.text := by
  have valid := name.valid
  simp only [isName, Bool.and_eq_true, Bool.not_eq_true'] at valid
  exact fun nul => by simp [Text.mem_ofChars.mp nul] at valid

theorem hasStray_text (name : Name) : name.text.hasStray = false :=
  Text.hasStray_ofChars name.chars

theorem mem_insert {name other : Name} {names : List Name} :
    other ∈ insert name names ↔ other = name ∨ other ∈ names := by
  induction names with
  | nil => simp [insert]
  | cons head tail ih =>
    unfold insert
    split
    · simp
    · split
      · rename_i same
        simp [same]
      · simp only [List.mem_cons, ih]
        constructor
        · rintro (first | here | later) <;> simp [*]
        · rintro (here | first | later) <;> simp [*]

def Increasing (names : List Name) : Prop :=
  names.Pairwise fun first second => first.chars < second.chars

theorem increasing_insert {name : Name} {names : List Name} (increasing : Increasing names) :
    Increasing (insert name names) := by
  induction names with
  | nil => simp [insert, Increasing]
  | cons head tail ih =>
    have bounded := List.pairwise_cons.mp increasing
    unfold insert
    split
    · rename_i less
      refine List.pairwise_cons.mpr ⟨fun other member => ?_, increasing⟩
      rcases List.mem_cons.mp member with rfl | inside
      · exact less
      · exact List.lt_trans less (bounded.1 other inside)
    · split
      · exact increasing
      · rename_i notLess different
        refine List.pairwise_cons.mpr ⟨fun other member => ?_, ih bounded.2⟩
        rcases mem_insert.mp member with rfl | inside
        · rcases List.le_iff_lt_or_eq.mp (List.not_lt.mp notLess) with less | same
          · exact less
          · exact absurd (eq_of_chars same.symm) different
        · exact bounded.1 other inside

end Name

abbrev Location := List Name

inductive Entry
  | file (content : Bytes)
  | directory
  | link (target : Text)
  /-- Reads empty and swallows what is written. -/
  | null
  deriving DecidableEq

def Entry.overwrite (here : Bool) (content : Bytes) : Entry → Entry
  | .file old => .file (if here then content else old)
  | entry => entry

/-- `here` is the working directory. -/
@[ext]
structure FileSystem where
  entries : List (Location × Entry)
  here : Location
  deriving DecidableEq

namespace FileSystem

def empty : FileSystem := ⟨[], []⟩

def find? (files : FileSystem) (location : Location) : Option Entry :=
  if location = [] then some .directory else files.entries.lookup location

def content (files : FileSystem) (location : Location) : Bytes :=
  match files.find? location with
  | some (.file content) => content
  | _ => []

def write (files : FileSystem) (location : Location) (content : Bytes) : FileSystem :=
  { files with
    entries := files.entries.map fun (other, entry) =>
      (other, entry.overwrite (other = location) content) }

def add (files : FileSystem) (location : Location) (entry : Entry) : FileSystem :=
  { files with entries := files.entries ++ [(location, entry)] }

def remove (files : FileSystem) (location : Location) : FileSystem :=
  { files with entries := files.entries.filter fun (other, _) => !location.isPrefixOf other }

def names (files : FileSystem) (directory : Location) : List Name :=
  let inside := files.entries.filterMap fun (location, _) =>
    if location ≠ [] ∧ location.dropLast = directory then location.getLast? else none
  inside.foldr Name.insert []

theorem lookup_map (change : Location → Entry → Entry) (entries : List (Location × Entry))
    (location : Location) :
    (entries.map fun (other, entry) => (other, change other entry)).lookup location =
      (entries.lookup location).map (change location) := by
  induction entries with
  | nil => rfl
  | cons head rest ih =>
    obtain ⟨other, entry⟩ := head
    rw [List.map_cons, List.lookup_cons, List.lookup_cons]
    cases same : location == other with
    | true =>
      rw [eq_of_beq same]
      rfl
    | false => exact ih

theorem find?_write (files : FileSystem) (location other : Location) (content : Bytes) :
    (files.write location content).find? other =
      (files.find? other).map (Entry.overwrite (other = location) content) := by
  unfold find? write
  split
  · rfl
  · exact lookup_map (fun other => Entry.overwrite (other = location) content) _ _

theorem increasing_names (files : FileSystem) (directory : Location) :
    Name.Increasing (files.names directory) := by
  unfold names
  generalize (files.entries.filterMap fun (location, _) =>
    if location ≠ [] ∧ location.dropLast = directory then location.getLast? else none) = inside
  induction inside with
  | nil => exact List.Pairwise.nil
  | cons name rest ih => exact Name.increasing_insert ih

end FileSystem

end Tunables
