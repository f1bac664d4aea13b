import Tunables.Proofs.Following
import Tunables.System

namespace Tunables

def Path.under (path : Path) (below : List Name) : Path := path.append (below.map Name.text)

theorem Name.mem_foldr_insert {name : Name} {names : List Name} :
    name ∈ names.foldr Name.insert [] ↔ name ∈ names := by
  induction names with
  | nil => exact Iff.rfl
  | cons other rest ih => rw [List.foldr_cons, Name.mem_insert, ih, List.mem_cons]

def Entry.isOrdinary : Entry → Bool
  | .file _ | .directory => true
  | .link _ | .null => false

theorem Entry.isOrdinary_shape (entry : Entry) : entry.shape.isOrdinary = entry.isOrdinary := by
  cases entry <;> rfl

namespace FileSystem

def Ordinary (files : FileSystem) (here : Location) : Prop :=
  ∀ below entry, files.find? (here ++ below) = some entry → entry.isOrdinary = true

/-- Below one location there is what is below the other, but for the contents of files. -/
def SameTree (first second : FileSystem) (here there : Location) : Prop :=
  ∀ below, (first.find? (here ++ below)).map Entry.shape =
    (second.find? (there ++ below)).map Entry.shape

variable {first second : FileSystem} {here there : Location}

theorem Ordinary.inside (ordinary : first.Ordinary here) (name : Name) :
    first.Ordinary (here ++ [name]) := by
  intro below entry found
  rw [List.append_assoc] at found
  exact ordinary (name :: below) entry found

theorem SameTree.inside (same : SameTree first second here there) (name : Name) :
    SameTree first second (here ++ [name]) (there ++ [name]) := by
  intro below
  rw [List.append_assoc, List.append_assoc]
  exact same (name :: below)

theorem SameTree.symm (same : SameTree first second here there) :
    SameTree second first there here := fun below => (same below).symm

theorem SameTree.ordinary (same : SameTree first second here there)
    (ordinary : first.Ordinary here) : second.Ordinary there := by
  intro below entry found
  have shapes := same below
  rw [found] at shapes
  obtain ⟨other, there, shape⟩ := Option.map_eq_some_iff.mp shapes
  rw [← entry.isOrdinary_shape, ← shape, other.isOrdinary_shape]
  exact ordinary below other there

theorem SameTree.of_sameShape {third : FileSystem} (same : SameTree first second here there)
    (shape : SameShape second third) : SameTree first third here there :=
  fun below => (same below).trans (shape.entries (there ++ below))

theorem mem_entries {files : FileSystem} {location : Location} {entry : Entry}
    (filled : location ≠ []) (found : files.find? location = some entry) :
    (location, entry) ∈ files.entries := by
  rw [find?, if_neg filled] at found
  obtain ⟨before, behind, split, -⟩ := List.lookup_eq_some_iff.mp found
  simp [split]

theorem mem_names {files : FileSystem} {name : Name} {entry : Entry}
    (found : files.find? (here ++ [name]) = some entry) : name ∈ files.names here := by
  have listed : (here ++ [name], entry) ∈ files.entries := mem_entries (by simp) found
  unfold names
  dsimp only
  rw [Name.mem_foldr_insert]
  exact List.mem_filterMap.mpr ⟨_, listed, by simp⟩

end FileSystem

namespace Place

variable {files first second : FileSystem} {here there : Location}

/-- Where names lead from a directory with only files and directories below it. -/
def descend (files : FileSystem) : Location → List Name → Except Errno Place
  | here, [] => .ok (.directory here)
  | here, name :: rest =>
    if nameLimit < (Utf8.encode name.text).length then .error .nameTooLong
    else
      match files.find? (here ++ [name]) with
      | none => if rest = [] then .ok (.absent (here ++ [name])) else .error .notFound
      | some .directory => descend files (here ++ [name]) rest
      | some (.file _) => if rest = [] then .ok (.file (here ++ [name])) else .error .notDirectory
      | some (.link _) | some .null => .error .tooManyLinks

theorem step_name (files : FileSystem) (here : Location) (name : Name) :
    step files here name.text =
      if nameLimit < (Utf8.encode name.text).length then .refused .nameTooLong
      else stepEntry here name (files.find? (here ++ [name])) := by
  obtain ⟨notDot, notDots⟩ := name.ne_dots
  simp only [step, notDot, notDots, if_false, name.ofText?_text]

theorem walk_eq_descend (onLink : Location → List Text → Except Errno Place)
    (ordinary : files.Ordinary here) (below : List Name) :
    walk files onLink here (below.map Name.text) = descend files here below := by
  induction below generalizing here with
  | nil => rfl
  | cons name rest ih =>
    rw [List.map_cons, walk_cons, step_name, descend]
    by_cases long : nameLimit < (Utf8.encode name.text).length
    · rw [if_pos long, if_pos long]
    rw [if_neg long, if_neg long]
    rcases found : files.find? (here ++ [name]) with _ | (content | _ | target | _)
    · simp [stepEntry]
    · simp [stepEntry]
    · exact ih (ordinary.inside name)
    · cases ordinary [name] (.link target) found
    · cases ordinary [name] .null found

theorem step_ne_directory (files : FileSystem) (start : Location) (part : Text)
    (location : Location) (beyond : Errno) :
    step files start part ≠ .last (.directory location) beyond := by
  rcases step_cases start part with ⟨-, next, taken⟩ | ⟨errno, taken⟩ | ⟨name, -, taken⟩ <;>
    rw [taken]
  · nofun
  · nofun
  · rcases files.find? (start ++ [name]) with _ | (content | _ | target | _) <;> nofun

theorem Leads.append (ordinary : files.Ordinary here) (below : List Name) {links : Nat}
    {start : Location} {parts : List Text}
    (leads : Leads files links start parts (.directory here)) :
    walkLinks files links start (parts ++ below.map Name.text) = descend files here below := by
  generalize directory : Place.directory here = place at leads
  induction leads with
  | arrived links start =>
    cases directory
    exact walk_eq_descend _ ordinary below
  | onto taken _ ih =>
    rw [List.cons_append, walkLinks, walk_cons, taken]
    exact ih directory
  | last taken =>
    cases directory
    exact absurd taken (step_ne_directory _ _ _ _ _)
  | link taken _ ih =>
    rw [List.cons_append, walkLinks, walk_cons, taken]
    dsimp only
    rw [← List.append_assoc]
    exact ih directory

theorem ofPath_under {root : Path} (ordinary : files.Ordinary here)
    (led : ofPath files root = .ok (.directory here)) (below : List Name) :
    ofPath files (root.under below) =
      if pathLimit ≤ (root.under below).size then .error .nameTooLong
      else descend files here below := by
  have further : fromTop files (root.under below) =
      fromTop files root ++ below.map Name.text := by
    unfold fromTop
    rw [show (root.under below).isRelative = root.isRelative from rfl]
    cases root.isRelative with
    | true => exact (List.append_assoc _ _ _).symm
    | false => rfl
  rw [ofPath, further, (ofPath_eq_ok_iff.mp led).2.append ordinary below]

theorem descend_cons_file {name : Name} {rest : List Name} {location : Location}
    (led : descend files here (name :: rest) = .ok (.file location)) :
    (rest = [] ∧ location = here ++ [name] ∧
        ∃ content, files.find? (here ++ [name]) = some (.file content)) ∨
      (files.find? (here ++ [name]) = some .directory ∧
        descend files (here ++ [name]) rest = .ok (.file location)) := by
  rw [descend] at led
  split at led
  · cases led
  rcases found : files.find? (here ++ [name]) with _ | (content | _ | target | _)
  · rw [found] at led
    dsimp only at led
    split at led <;> cases led
  · rw [found] at led
    dsimp only at led
    split at led
    · rename_i last
      cases led
      exact .inl ⟨last, rfl, content, rfl⟩
    · cases led
  · rw [found] at led
    exact .inr ⟨rfl, led⟩
  all_goals
    rw [found] at led
    cases led

theorem place_of_descend {below : List Name} {place : Place}
    (led : descend files here below = .ok place) :
    place = .directory (here ++ below) ∨ place = .absent (here ++ below) ∨
      (place = .file (here ++ below) ∧
        ∃ content, files.find? (here ++ below) = some (.file content)) := by
  induction below generalizing here with
  | nil =>
    cases led
    exact .inl (congrArg Place.directory (List.append_nil here).symm)
  | cons name rest ih =>
    rw [descend] at led
    split at led
    · cases led
    rcases found : files.find? (here ++ [name]) with _ | (content | _ | target | _) <;>
      rw [found] at led
    · dsimp only at led
      split at led
      · rename_i last
        cases led
        exact .inr (.inl (by rw [last]))
      · cases led
    · dsimp only at led
      split at led
      · rename_i last
        cases led
        exact .inr (.inr (by rw [last]; exact ⟨rfl, content, found⟩))
      · cases led
    · have further := ih led
      rwa [List.append_assoc] at further
    all_goals cases led

theorem descend_of_sameTree (same : FileSystem.SameTree first second here there)
    {below : List Name} {location : Location}
    (led : descend first here below = .ok (.file location)) :
    descend second there below = .ok (.file (there ++ below)) := by
  induction below generalizing here there with
  | nil => cases led
  | cons name rest ih =>
    have fits : ¬nameLimit < (Utf8.encode name.text).length := by
      intro long
      rw [descend, if_pos long] at led
      cases led
    rw [descend, if_neg fits]
    have shapes := same [name]
    rcases descend_cons_file led with ⟨rfl, -, content, file⟩ | ⟨directory, further⟩
    · rw [file] at shapes
      obtain ⟨other, found⟩ := FileSystem.file_of_shape shapes
      simp [found]
    · rw [directory] at shapes
      have later := ih (same.inside name) further
      rw [FileSystem.directory_of_shape shapes]
      rwa [List.append_assoc] at later

end Place

namespace System

def fileAt? (system : System) (path : Path) : Option Bytes :=
  match Place.ofPath system.files path with
  | .ok (.file location) => some (system.files.content location)
  | _ => none

/-- Nothing is bound to fail and nothing is logged, and the root is a directory with only files and
directories below it. -/
structure Rooted (system : System) (root : Path) (here : Location) : Prop where
  faultless : system.faults = []
  unlogged : system.log = none
  ordinary : system.files.Ordinary here
  led : Place.ofPath system.files root = .ok (.directory here)

variable {system : System} {root : Path} {here location : Location} {below : List Name}
  {place : Place}

theorem Rooted.descend (tree : system.Rooted root here)
    (led : Place.ofPath system.files (root.under below) = .ok place) :
    Place.descend system.files here below = .ok place := by
  rw [Place.ofPath_under tree.ordinary tree.led] at led
  split at led
  · cases led
  · exact led

theorem Rooted.location_of_led (tree : system.Rooted root here)
    (led : Place.ofPath system.files (root.under below) = .ok (.file location)) :
    location = here ++ below ∧
      ∃ content, system.files.find? (here ++ below) = some (.file content) := by
  rcases Place.place_of_descend (tree.descend led) with same | same | ⟨same, file⟩
  · cases same
  · cases same
  · cases same
    exact ⟨rfl, file⟩

theorem Rooted.file_iff (tree : system.Rooted root here) {content : Bytes} :
    system.fileAt? (root.under below) = some content ↔
      Place.ofPath system.files (root.under below) = .ok (.file (here ++ below)) ∧
        system.files.content (here ++ below) = content := by
  unfold fileAt?
  constructor
  · intro found
    split at found
    · rename_i location led
      obtain ⟨rfl, -⟩ := tree.location_of_led led
      exact ⟨led, Option.some.inj found⟩
    · cases found
  · rintro ⟨led, rfl⟩
    rw [led]

theorem Rooted.led_of_sameTree {other : System} {there : Location}
    (tree : system.Rooted root here) (copy : other.Rooted root there)
    (same : FileSystem.SameTree system.files other.files here there)
    (led : Place.ofPath system.files (root.under below) = .ok (.file location)) :
    Place.ofPath other.files (root.under below) = .ok (.file (there ++ below)) := by
  have short : ¬Place.pathLimit ≤ (root.under below).size := by
    intro long
    rw [Place.ofPath_under tree.ordinary tree.led, if_pos long] at led
    cases led
  rw [Place.ofPath_under copy.ordinary copy.led, if_neg short]
  exact Place.descend_of_sameTree same (tree.descend led)

end System

end Tunables
