import Tunables.FileSystem.Follow

/-!
Where a path leads depends on the shape of the files alone: which locations there are, of what kind,
and where the links point. Writing keeps the shape.
-/

namespace Tunables

/-- An entry without a file's content. -/
def Entry.shape : Entry → Entry
  | .file _ => .file []
  | entry => entry

theorem Entry.shape_overwrite (here : Bool) (content : Bytes) (entry : Entry) :
    (entry.overwrite here content).shape = entry.shape := by
  cases entry <;> rfl

namespace FileSystem

structure SameShape (first second : FileSystem) : Prop where
  here : first.here = second.here
  entries : ∀ location,
    (first.find? location).map Entry.shape = (second.find? location).map Entry.shape

theorem SameShape.refl (files : FileSystem) : SameShape files files := ⟨rfl, fun _ => rfl⟩

theorem SameShape.trans {first second third : FileSystem} (before : SameShape first second)
    (behind : SameShape second third) : SameShape first third :=
  ⟨before.here.trans behind.here,
    fun location => (before.entries location).trans (behind.entries location)⟩

theorem SameShape.symm {first second : FileSystem} (same : SameShape first second) :
    SameShape second first :=
  ⟨same.here.symm, fun location => (same.entries location).symm⟩

theorem sameShape_write (files : FileSystem) (location : Location) (content : Bytes) :
    SameShape files (files.write location content) := by
  refine ⟨rfl, fun other => ?_⟩
  rw [find?_write]
  cases files.find? other with
  | none => rfl
  | some entry => exact congrArg some (Entry.shape_overwrite _ content entry).symm

/-- Entries of one shape are both missing, both files, or the same. -/
theorem entries_of_shape {first second : Option Entry}
    (same : first.map Entry.shape = second.map Entry.shape) :
    first = none ∧ second = none ∨
      first = some .directory ∧ second = some .directory ∨
      first = some .null ∧ second = some .null ∨
      (∃ before after, first = some (.file before) ∧ second = some (.file after)) ∨
      ∃ target, first = some (.link target) ∧ second = some (.link target) := by
  rcases first with _ | (before | _ | target | _) <;>
    rcases second with _ | (after | _ | other | _) <;> simp_all [Entry.shape]

theorem file_of_shape {content : Bytes} {entry : Option Entry}
    (same : (some (.file content)).map Entry.shape = entry.map Entry.shape) :
    ∃ content, entry = some (.file content) := by
  rcases entry with _ | (other | _ | target | _)
  case some.file => exact ⟨other, rfl⟩
  all_goals cases same

theorem directory_of_shape {entry : Option Entry}
    (same : (some .directory).map Entry.shape = entry.map Entry.shape) :
    entry = some .directory := by
  rcases entry with _ | (other | _ | target | _)
  case some.directory => rfl
  all_goals cases same

theorem SameShape.file {first second : FileSystem} (same : SameShape first second)
    {location : Location} {content : Bytes}
    (file : first.find? location = some (.file content)) :
    ∃ content, second.find? location = some (.file content) := by
  have shapes := same.entries location
  rw [file] at shapes
  exact file_of_shape shapes

end FileSystem

namespace Place

/-- What one part of a path does: it is refused, leads on to a directory, is the last one that can
be, or stands for the parts of a link. -/
inductive Step
  | refused (errno : Errno)
  | onto (here : Location)
  | last (place : Place) (beyond : Errno)
  | link (start : Location) (parts : List Text)

def stepEntry (here : Location) (name : Name) : Option Entry → Step
  | none => .last (.absent (here ++ [name])) .notFound
  | some .directory => .onto (here ++ [name])
  | some (.file _) => .last (.file (here ++ [name])) .notDirectory
  | some .null => .last .null .notDirectory
  | some (.link target) => .link (linkStart here target) (linkParts target)

def step (files : FileSystem) (here : Location) (part : Text) : Step :=
  if part = Path.dot then .onto here
  else if part = Path.dotDot then .onto here.dropLast
  else if nameLimit < (Utf8.encode part).length then .refused .nameTooLong
  else
    match Name.ofText? part with
    | none => .refused .notFound
    | some name => stepEntry here name (files.find? (here ++ [name]))

theorem walk_cons (files : FileSystem) (onLink : Location → List Text → Except Errno Place)
    (here : Location) (part : Text) (rest : List Text) :
    walk files onLink here (part :: rest) =
      match step files here part with
      | .refused errno => .error errno
      | .onto next => walk files onLink next rest
      | .last place beyond => if rest = [] then .ok place else .error beyond
      | .link start parts => onLink start (parts ++ rest) := by
  simp only [walk, step]
  split
  · rfl
  split
  · rfl
  split
  · rfl
  cases Name.ofText? part with
  | none => rfl
  | some name =>
    dsimp only
    rcases files.find? (here ++ [name]) with _ | (content | _ | target | _) <;> rfl

def Walkable (part : Text) : Prop :=
  part = Path.dot ∨ part = Path.dotDot ∨ ∃ name : Name, part = name.text

theorem Walkable.hasNul {part : Text} (walkable : Walkable part) : Text.hasNul part = false := by
  rcases walkable with rfl | rfl | ⟨name, rfl⟩
  · rfl
  · rfl
  · exact Text.hasNul_eq_false_iff.mpr name.plain

theorem Walkable.hasStray {part : Text} (walkable : Walkable part) : part.hasStray = false := by
  rcases walkable with rfl | rfl | ⟨name, rfl⟩
  · rfl
  · rfl
  · exact name.hasStray_text

/-- A part that is no name does the same in all files. -/
theorem step_cases (here : Location) (part : Text) :
    (Walkable part ∧ ∃ next, ∀ files, step files here part = .onto next) ∨
      (∃ errno, ∀ files, step files here part = .refused errno) ∨
      ∃ name : Name, part = name.text ∧
        ∀ files, step files here part = stepEntry here name (files.find? (here ++ [name])) := by
  by_cases dot : part = Path.dot
  · exact .inl ⟨.inl dot, here, fun files => by rw [step, if_pos dot]⟩
  by_cases dots : part = Path.dotDot
  · exact .inl ⟨.inr (.inl dots), here.dropLast,
      fun files => by rw [step, if_neg dot, if_pos dots]⟩
  by_cases long : nameLimit < (Utf8.encode part).length
  · exact .inr (.inl ⟨.nameTooLong,
      fun files => by simp only [step, dot, dots, long, if_false, if_true]⟩)
  cases named : Name.ofText? part with
  | none =>
    exact .inr (.inl ⟨.notFound,
      fun files => by simp only [step, dot, dots, long, named, if_false]⟩)
  | some name =>
    exact .inr (.inr ⟨name, Name.eq_text_of_ofText? named,
      fun files => by simp only [step, dot, dots, long, named, if_false]⟩)

theorem step_eq_of_sameShape {first second : FileSystem}
    (same : FileSystem.SameShape first second) (here : Location) (part : Text) :
    step first here part = step second here part := by
  rcases step_cases here part with ⟨-, next, taken⟩ | ⟨errno, taken⟩ | ⟨name, -, taken⟩
  · rw [taken, taken]
  · rw [taken, taken]
  · rw [taken, taken]
    rcases FileSystem.entries_of_shape (same.entries (here ++ [name])) with
      ⟨before, after⟩ | ⟨before, after⟩ | ⟨before, after⟩ | ⟨_, _, before, after⟩ |
        ⟨_, before, after⟩ <;>
      simp only [before, after, stepEntry]

theorem walk_eq_of_sameShape {first second : FileSystem}
    (same : FileSystem.SameShape first second)
    (onLink : Location → List Text → Except Errno Place) (here : Location)
    (parts : List Text) : walk first onLink here parts = walk second onLink here parts := by
  induction parts generalizing here with
  | nil => rfl
  | cons part rest ih => simp only [walk_cons, step_eq_of_sameShape same, ih]

theorem walkLinks_eq_of_sameShape {first second : FileSystem}
    (same : FileSystem.SameShape first second) (links : Nat) :
    walkLinks first links = walkLinks second links := by
  induction links with
  | zero => rfl
  | succ links ih =>
    funext location parts
    simp only [walkLinks, ih, walk_eq_of_sameShape same]

theorem ofPath_eq_of_sameShape {first second : FileSystem}
    (same : FileSystem.SameShape first second) (path : Path) :
    ofPath first path = ofPath second path := by
  simp only [ofPath, fromTop, walkLinks_eq_of_sameShape same, same.here]

/-- How parts lead on from a directory while so many links are left to follow. -/
inductive Leads (files : FileSystem) : Nat → Location → List Text → Place → Prop
  | arrived (links : Nat) (here : Location) : Leads files (links + 1) here [] (.directory here)
  | onto {links : Nat} {here next : Location} {part : Text} {rest : List Text} {place : Place}
    (taken : step files here part = .onto next)
    (further : Leads files (links + 1) next rest place) :
    Leads files (links + 1) here (part :: rest) place
  | last {links : Nat} {here : Location} {part : Text} {place : Place} {beyond : Errno}
    (taken : step files here part = .last place beyond) :
    Leads files (links + 1) here [part] place
  | link {links : Nat} {here start : Location} {part : Text} {parts rest : List Text}
    {place : Place} (taken : step files here part = .link start parts)
    (further : Leads files links start (parts ++ rest) place) :
    Leads files (links + 1) here (part :: rest) place

theorem leads_of_walk {files : FileSystem} {links : Nat}
    {onLink : Location → List Text → Except Errno Place} {place : Place}
    (linked : ∀ here parts, onLink here parts = .ok place → Leads files links here parts place)
    {here : Location} {parts : List Text}
    (walked : walk files onLink here parts = .ok place) :
    Leads files (links + 1) here parts place := by
  induction parts generalizing here with
  | nil =>
    cases walked
    exact .arrived links here
  | cons part rest ih =>
    rw [walk_cons] at walked
    cases taken : step files here part with
    | refused errno =>
      rw [taken] at walked
      cases walked
    | onto next =>
      rw [taken] at walked
      exact .onto taken (ih walked)
    | last place beyond =>
      rw [taken] at walked
      dsimp only at walked
      split at walked
      · rename_i last
        cases walked
        rw [last]
        exact .last taken
      · cases walked
    | link start parts =>
      rw [taken] at walked
      exact .link taken (linked start (parts ++ rest) walked)

theorem walkLinks_eq_ok_iff {files : FileSystem} {links : Nat} {here : Location}
    {parts : List Text} {place : Place} :
    walkLinks files links here parts = .ok place ↔ Leads files links here parts place := by
  constructor
  · intro walked
    induction links generalizing here parts with
    | zero => cases walked
    | succ links ih => exact leads_of_walk (fun _ _ => ih) walked
  · intro leads
    induction leads with
    | arrived links here => rfl
    | onto taken _ ih =>
      rw [walkLinks, walk_cons, taken]
      exact ih
    | last taken =>
      rw [walkLinks, walk_cons, taken]
      rfl
    | link taken _ ih =>
      rw [walkLinks, walk_cons, taken]
      exact ih

theorem ofPath_eq_ok_iff {files : FileSystem} {path : Path} {place : Place} :
    ofPath files path = .ok place ↔
      path.size < pathLimit ∧ Leads files (linkLimit + 1) [] (fromTop files path) place := by
  rw [← walkLinks_eq_ok_iff, ofPath]
  split
  · rename_i long
    exact iff_of_false nofun fun short => absurd short.1 (Nat.not_lt.mpr long)
  · rename_i short
    exact (and_iff_right (Nat.not_le.mp short)).symm

def IsThere (files : FileSystem) : Place → Prop
  | .file location => ∃ content, files.find? location = some (.file content)
  | .absent location => location ≠ [] ∧ files.find? location = none
  | .directory _ | .null => True

theorem isThere_of_stepEntry {files : FileSystem} {here : Location} {name : Name} {place : Place}
    {beyond : Errno}
    (ended : stepEntry here name (files.find? (here ++ [name])) = .last place beyond) :
    place.IsThere files := by
  rcases found : files.find? (here ++ [name]) with _ | (content | _ | target | _) <;>
    rw [found] at ended <;> cases ended
  · exact ⟨List.append_ne_nil_of_right_ne_nil here (List.cons_ne_nil _ _), found⟩
  · exact ⟨content, found⟩
  · trivial

theorem isThere_of_step {files : FileSystem} {here : Location} {part : Text}
    {place : Place} {beyond : Errno} (ended : step files here part = .last place beyond) :
    place.IsThere files := by
  rcases step_cases here part with ⟨-, next, taken⟩ | ⟨errno, taken⟩ | ⟨name, -, taken⟩ <;>
    rw [taken] at ended
  · cases ended
  · cases ended
  · exact isThere_of_stepEntry ended

theorem Leads.isThere {files : FileSystem} {links : Nat} {here : Location} {parts : List Text}
    {place : Place} (leads : Leads files links here parts place) : place.IsThere files := by
  induction leads with
  | arrived => trivial
  | onto _ _ ih => exact ih
  | last taken => exact isThere_of_step taken
  | link _ _ ih => exact ih

theorem isThere_of_ofPath {files : FileSystem} {path : Path} {place : Place}
    (led : ofPath files path = .ok place) : place.IsThere files :=
  (ofPath_eq_ok_iff.mp led).2.isThere

theorem file_of_ofPath {files : FileSystem} {path : Path} {location : Location}
    (led : ofPath files path = .ok (.file location)) :
    ∃ content, files.find? location = some (.file content) := isThere_of_ofPath led

theorem walkable_of_step {files : FileSystem} {here : Location} {part : Text} {taken : Step}
    (stepped : step files here part = taken) (unrefused : ∀ errno, taken ≠ .refused errno) :
    Walkable part := by
  rcases step_cases here part with ⟨walkable, -⟩ | ⟨errno, refused⟩ | ⟨name, named, -⟩
  · exact walkable
  · exact absurd (stepped.symm.trans (refused files)) (unrefused errno)
  · exact .inr (.inr ⟨name, named⟩)

theorem Leads.walkable {files : FileSystem} {links : Nat} {here : Location} {parts : List Text}
    {place : Place} (leads : Leads files links here parts place) :
    ∀ part ∈ parts, Walkable part := by
  induction leads with
  | arrived => nofun
  | onto taken _ ih => exact List.forall_mem_cons.mpr ⟨walkable_of_step taken nofun, ih⟩
  | last taken => exact List.forall_mem_singleton.mpr (walkable_of_step taken nofun)
  | link taken _ ih =>
    exact List.forall_mem_cons.mpr
      ⟨walkable_of_step taken nofun, (List.forall_mem_append.mp ih).2⟩

theorem mem_fromTop (files : FileSystem) {path : Path} {part : Text} (member : part ∈ path.parts) :
    part ∈ fromTop files path := by
  unfold fromTop
  split
  · exact List.mem_append_right _ member
  · exact member

theorem walkable_of_ofPath {files : FileSystem} {path : Path} {place : Place}
    (led : ofPath files path = .ok place) : ∀ part ∈ path.parts, Walkable part :=
  fun part member => (ofPath_eq_ok_iff.mp led).2.walkable part (mem_fromTop files member)

theorem hasNul_of_ofPath {files : FileSystem} {path : Path} {place : Place}
    (led : ofPath files path = .ok place) : path.hasNul = false := by
  rw [Path.hasNul, List.any_eq_false]
  intro part member nul
  exact Bool.false_ne_true ((walkable_of_ofPath led part member).hasNul.symm.trans nul)

end Place

end Tunables
