import Tunables.Proofs.Tree
import Tunables.Proofs.Walk

namespace Tunables

theorem Path.under_nil (path : Path) : path.under [] = path := by
  simp [under, append]

theorem Path.under_cons (path : Path) (name : Name) (rest : List Name) :
    path.under (name :: rest) = (path.child name.text).under rest := by
  rw [under, under, child_append, List.map_cons]

theorem Path.under_inj {path : Path} {first second : List Name} :
    path.under first = path.under second ↔ first = second := by
  rw [under, under, append_inj]
  exact List.map_inj_right fun _ _ same => Name.eq_of_text same

def Path.spelling (below : List Name) : Text := Path.render ⟨.relative, below.map Name.text⟩

theorem Access.resolve_spelling (root : Path) {below : List Name} (filled : below ≠ [])
    (dotless : ∀ first ∈ below.head?, .char '.' ∉ first.text) :
    resolve root (Path.spelling below) = root.under below := by
  cases below with
  | nil => exact absurd rfl filled
  | cons first rest =>
    exact resolve_render_of_dotless (Name.forall_mem Name.isComponent first rest)
      (dotless first rfl)

theorem Path.spelling_ne_nil {below : List Name} (filled : below ≠ []) : spelling below ≠ [] := by
  cases below with
  | nil => exact absurd rfl filled
  | cons first rest =>
    obtain ⟨behind, split, -⟩ := Access.exists_render first.text (rest.map Name.text)
    rw [spelling, List.map_cons, split]
    exact List.append_ne_nil_of_left_ne_nil (isComponent_ne_nil first.isComponent) behind

namespace System

variable {system : System} {root : Path} {here : Location}

theorem Rooted.below_ne_nil (tree : system.Rooted root here) {below : List Name}
    {location : Location}
    (led : Place.ofPath system.files (root.under below) = .ok (.file location)) : below ≠ [] := by
  rintro rfl
  rw [Path.under_nil, tree.led] at led
  cases led

theorem Rooted.openExisting (tree : system.Rooted root here) {below : List Name}
    {location : Location}
    (led : Place.ofPath system.files (root.under below) = .ok (.file location)) :
    system.openExisting (root.under below) = .ok (.file (here ++ below)) := by
  obtain ⟨rfl, -⟩ := tree.location_of_led led
  simp only [System.openExisting, Place.hasNul_of_ofPath led, Bool.false_eq_true, if_false,
    fault?_of_faultless tree.faultless, led]

theorem Rooted.list (tree : system.Rooted root here) :
    system.list root = .ok (system.files.names here) := by
  simp only [System.list, fault?_of_faultless tree.faultless, tree.led]

theorem Rooted.inspect_file (tree : system.Rooted root here) {below : List Name}
    {location : Location}
    (led : Place.ofPath system.files (root.under below) = .ok (.file location)) :
    system.inspect (root.under below) = .ok false := by
  simp only [System.inspect, look, fault?_of_faultless tree.faultless, led]

theorem Rooted.inside (tree : system.Rooted root here) {name : Name} {kind : Bool}
    (directory : system.files.find? (here ++ [name]) = some .directory)
    (inspected : system.inspect (root.child name.text) = .ok kind) :
    kind = true ∧ system.Rooted (root.child name.text) (here ++ [name]) := by
  have same : root.child name.text = root.under [name] := rfl
  have led : Place.ofPath system.files (root.child name.text) =
      .ok (.directory (here ++ [name])) := by
    simp only [System.inspect, look, fault?_of_faultless tree.faultless] at inspected
    rw [same, Place.ofPath_under tree.ordinary tree.led] at inspected ⊢
    split
    · rename_i long
      rw [if_pos long] at inspected
      cases inspected
    · rename_i short
      rw [if_neg short] at inspected
      by_cases long : Place.nameLimit < (Utf8.encode name.text).length
      · rw [Place.descend, if_pos long] at inspected
        cases inspected
      · simp only [Place.descend, long, if_false, directory]
  refine ⟨?_, tree.faultless, tree.unlogged, tree.ordinary.inside name, led⟩
  simp only [System.inspect, look, fault?_of_faultless tree.faultless, led] at inspected
  exact (Except.ok.inj inspected).symm

end System

namespace Survey

variable {system : System}

theorem key_mem_within {levels : Nat} {root : Path} {here location : Location}
    {below : List Name} (tree : system.Rooted root here)
    (complete : ∀ visit ∈ within system levels root, ∃ entry, visit = .key entry)
    (led : Place.ofPath system.files (root.under below) = .ok (.file location)) :
    .key (root.under below) ∈ within system levels root := by
  -- Each name is listed, and inspected without complaint.
  induction below generalizing levels root here with
  | nil =>
    rw [Path.under_nil, tree.led] at led
    cases led
  | cons name rest ih =>
    cases levels with
    | zero =>
      obtain ⟨entry, same⟩ := complete _ List.mem_cons_self
      cases same
    | succ levels =>
      have found := Place.descend_cons_file (tree.descend led)
      have member : name ∈ system.files.names here := by
        rcases found with ⟨-, -, content, file⟩ | ⟨directory, -⟩
        · exact FileSystem.mem_names file
        · exact FileSystem.mem_names directory
      have inspected : ∃ kind, system.inspect (root.child name.text) = .ok kind := by
        cases inspected : system.inspect (root.child name.text) with
        | ok kind => exact ⟨kind, rfl⟩
        | error errno =>
          obtain ⟨entry, same⟩ := complete (.uninspected (root.child name.text) errno)
            (mem_within.mpr (.inr ⟨_, tree.list, name, member, .inl ⟨errno, inspected, rfl⟩⟩))
          cases same
      obtain ⟨kind, inspected⟩ := inspected
      rcases found with ⟨rfl, -, -⟩ | ⟨directory, -⟩
      · have file := tree.inspect_file led
        exact mem_within.mpr (.inr ⟨_, tree.list, name, member, .inr (.inr ⟨file, rfl⟩)⟩)
      · obtain ⟨rfl, deeper⟩ := tree.inside directory inspected
        have within' : ∀ visit ∈ within system levels (root.child name.text),
            visit ∈ within system (levels + 1) root := by
          intro visit inside
          exact mem_within.mpr (.inr ⟨_, tree.list, name, member, .inr (.inl ⟨inspected, inside⟩)⟩)
        rw [Path.under_cons] at led ⊢
        exact within' _ (ih deeper (fun visit inside => complete visit (within' visit inside)) led)

theorem file_of_key {root entry : Path} {here : Location} (tree : system.Rooted root here)
    (member : .key entry ∈ below system root) :
    ∃ names, entry = root.under names ∧
      Place.ofPath system.files (root.under names) = .ok (.file (here ++ names)) := by
  obtain ⟨inspected, first, rest, rfl⟩ := key_of_mem_within member
  refine ⟨first :: rest, rfl, ?_⟩
  change system.inspect (root.under (first :: rest)) = .ok false at inspected
  simp only [System.inspect, System.look, System.fault?_of_faultless tree.faultless] at inspected
  cases led : Place.ofPath system.files (root.under (first :: rest)) with
  | error errno =>
    rw [led] at inspected
    cases inspected
  | ok place =>
    rw [led] at inspected
    rcases Place.place_of_descend (tree.descend led) with rfl | rfl | ⟨rfl, -⟩
    · cases inspected
    · cases inspected
    · rfl

theorem exists_keys {root : Path} {property : List Name → Prop} {visits : List Visit}
    (keys : ∀ visit ∈ visits, ∃ names, visit = .key (root.under names) ∧ property names) :
    ∃ found : List (List Name), visits = found.map (fun names => .key (root.under names)) ∧
      ∀ names ∈ found, property names := by
  induction visits with
  | nil => exact ⟨[], rfl, nofun⟩
  | cons visit rest ih =>
    obtain ⟨names, rfl, holds⟩ := keys visit List.mem_cons_self
    obtain ⟨found, rfl, others⟩ := ih fun other member => keys other (List.mem_cons_of_mem _ member)
    exact ⟨names :: found, rfl, List.forall_mem_cons.mpr ⟨holds, others⟩⟩

end Survey

namespace Listing

variable {system : System} {root : Path} {here : Location}

theorem key_of_quiet {display : Display} {found : Visit}
    (quiet : (visit root display found system).err = []) : ∃ entry, found = .key entry := by
  cases found with
  | key entry => exact ⟨entry, rfl⟩
  | unlisted path errno =>
    rw [visit_unlisted] at quiet
    simp [Access.reported] at quiet
  | uninspected path errno =>
    rw [visit_uninspected] at quiet
    simp at quiet

def entryText (display : Display) (below : List Name) (content : Bytes) : Text :=
  display.format (Key.ofPath (Path.spelling below)) (Newline.lines (Access.decode content))

def entryTexts (display : Display) (contents : List Name → Bytes) (keys : List (List Name)) :
    List Text := keys.map fun below => entryText display below (contents below)

theorem out_visit_file (tree : system.Rooted root here) (display : Display) {below : List Name}
    {location : Location} (dotless : ∀ first ∈ below.head?, .char '.' ∉ first.text)
    (led : Place.ofPath system.files (root.under below) = .ok (.file location)) :
    (visit root display (.key (root.under below)) system).out =
      entryText display below (system.files.content (here ++ below)) := by
  have filled : below ≠ [] := tree.below_ne_nil led
  have opened : system.openExisting (Access.resolve root (Path.spelling below)) =
      .ok (.file (here ++ below)) := by
    rw [Access.resolve_spelling root filled dotless, tree.openExisting led]
  have read := Access.readValues_of_faultless tree.faultless (Path.spelling_ne_nil filled) opened
  rw [Path.under, visit_key]
  exact congrArg Outcome.out (Access.readSetting_of_ok display read)

/-- A listing without complaints prints every file below the root, and nothing else. -/
theorem displayAll_complete (tree : system.Rooted root here) (display : Display)
    (dotless : ∀ below content, system.fileAt? (root.under below) = some content →
      ∀ first ∈ below.head?, .char '.' ∉ first.text)
    (quiet : (displayAll root display root system).err = []) :
    ∃ keys : List (List Name),
      (displayAll root display root system).out =
        (entryTexts display (fun below => system.files.content (here ++ below)) keys).flatten ∧
      ∀ below, below ∈ keys ↔ ∃ content, system.fileAt? (root.under below) = some content := by
  obtain ⟨status, ran, -⟩ :=
    displayAll_eq display tree.unlogged (Place.hasNul_of_ofPath tree.led)
  rw [ran, List.flatMap_eq_nil_iff] at quiet
  have complete : ∀ visit ∈ Survey.below system root, ∃ entry, visit = .key entry := by
    intro found member
    exact key_of_quiet (quiet found member)
  have files : ∀ visit ∈ Survey.below system root, ∃ names, visit = .key (root.under names) ∧
      Place.ofPath system.files (root.under names) = .ok (.file (here ++ names)) := by
    intro visit member
    obtain ⟨entry, rfl⟩ := complete visit member
    obtain ⟨names, rfl, led⟩ := Survey.file_of_key tree member
    exact ⟨names, rfl, led⟩
  obtain ⟨keys, visited, led⟩ := Survey.exists_keys files
  refine ⟨keys, ?_, fun below => ⟨fun member => ?_, ?_⟩⟩
  · rw [ran, visited, List.flatMap_map, List.flatMap_def]
    apply congrArg List.flatten
    apply List.map_congr_left
    intro below member
    have file := tree.file_iff.mpr ⟨led below member, rfl⟩
    exact out_visit_file tree display (dotless below _ file) (led below member)
  · exact ⟨_, tree.file_iff.mpr ⟨led below member, rfl⟩⟩
  · rintro ⟨content, file⟩
    have reached : .key (root.under below) ∈ Survey.below system root :=
      Survey.key_mem_within tree complete (tree.file_iff.mp file).1
    rw [visited, List.mem_map] at reached
    obtain ⟨names, member, same⟩ := reached
    rwa [Path.under_inj.mp (Visit.key.inj same)] at member

end Listing

end Tunables
