import Tunables.FileSystem.Change
import Tunables.Proofs.Following

namespace Tunables

namespace FileSystem

variable {files : FileSystem} {location other : Location}

theorem find?_add (files : FileSystem) (location other : Location) (entry : Entry) :
    (files.add location entry).find? other =
      (files.find? other).or (if other = location then some entry else none) := by
  unfold find? add
  by_cases top : other = []
  · rw [if_pos top, if_pos top, Option.some_or]
  · rw [if_neg top, if_neg top, List.lookup_append, List.lookup_cons, List.lookup_nil]
    by_cases same : other = location
    · simp [same]
    · simp [same, beq_eq_false_iff_ne.mpr same]

theorem find?_add_of_ne {entry : Entry} (different : other ≠ location) :
    (files.add location entry).find? other = files.find? other := by
  rw [find?_add, if_neg different, Option.or_none]

theorem find?_add_self {entry : Entry} (free : files.find? location = none) :
    (files.add location entry).find? location = some entry := by
  rw [find?_add, free, if_pos rfl, Option.none_or]

theorem content_add {entry : Entry} (empty : entry = .directory ∨ entry = .file [])
    (files : FileSystem) (location other : Location) :
    (files.add location entry).content other = files.content other := by
  unfold content
  rw [find?_add]
  cases files.find? other with
  | some found => rw [Option.some_or]
  | none =>
    rw [Option.none_or]
    by_cases same : other = location
    · rw [if_pos same]
      rcases empty with rfl | rfl <;> rfl
    · rw [if_neg same]

theorem makeDirectory_eq_add {path : Path} {made : FileSystem}
    (done : files.makeDirectory path = .ok made) :
    ∃ location, made = files.add location .directory := by
  unfold makeDirectory at done
  split at done
  · cases done
  · split at done
    · cases done
    · cases done
      exact ⟨_, rfl⟩

theorem content_makeDirectory {path : Path} {made : FileSystem}
    (done : files.makeDirectory path = .ok made) (other : Location) :
    made.content other = files.content other := by
  obtain ⟨location, rfl⟩ := makeDirectory_eq_add done
  exact content_add (.inl rfl) files location other

theorem content_makeDirectories (files : FileSystem) (levels : Nat) (path : Path)
    (other : Location) :
    (files.makeDirectories levels path).1.content other = files.content other := by
  -- What is made above a directory is made before it.
  induction levels generalizing path with
  | zero =>
    unfold makeDirectories
    split
    · rename_i made done
      exact content_makeDirectory done other
    · split <;> rfl
  | succ levels ih =>
    unfold makeDirectories
    split
    · rename_i made done
      exact content_makeDirectory done other
    split
    · rfl
    dsimp only
    split
    · rfl
    have above := ih path.parent
    split
    · rename_i trouble stopped
      rw [stopped] at above
      exact above
    · rename_i parents passed
      rw [passed] at above
      split
      · rename_i made done
        exact (content_makeDirectory done other).trans above
      · exact above

theorem content_makeParents (files : FileSystem) (path : Path) (other : Location) :
    (files.makeParents path).1.content other = files.content other :=
  content_makeDirectories files _ _ other

end FileSystem

namespace Place

variable {files : FileSystem} {location : Location}

theorem step_add (free : files.find? location = none) (content : Bytes) (here : Location)
    (part : Text) :
    step (files.add location (.file content)) here part =
      match step files here part with
      | .last (.absent other) beyond =>
        if other = location then .last (.file location) .notDirectory
        else .last (.absent other) beyond
      | taken => taken := by
  rcases step_cases here part with ⟨-, next, taken⟩ | ⟨errno, taken⟩ | ⟨name, -, taken⟩
  · rw [taken, taken]
  · rw [taken, taken]
  rw [taken, taken]
  by_cases same : here ++ [name] = location
  · rw [same, free, FileSystem.find?_add_self free]
    simp only [stepEntry, same, if_true]
  · rw [FileSystem.find?_add_of_ne same]
    rcases files.find? (here ++ [name]) with _ | (old | _ | target | _)
    · simp only [stepEntry, same, if_false]
    all_goals rfl

theorem Leads.add (free : files.find? location = none) (content : Bytes) {links : Nat}
    {here : Location} {parts : List Text}
    (leads : Leads files links here parts (.absent location)) :
    Leads (files.add location (.file content)) links here parts (.file location) := by
  generalize absent : Place.absent location = place at leads
  induction leads with
  | arrived => cases absent
  | onto taken _ ih => exact .onto (by rw [step_add free, taken]) (ih absent)
  | last taken =>
    cases absent
    exact .last (by rw [step_add free, taken]; exact if_pos rfl)
  | link taken _ ih => exact .link (by rw [step_add free, taken]) (ih absent)

theorem ofPath_add {path : Path} (led : ofPath files path = .ok (.absent location))
    (content : Bytes) :
    ofPath (files.add location (.file content)) path = .ok (.file location) := by
  obtain ⟨short, leads⟩ := ofPath_eq_ok_iff.mp led
  exact ofPath_eq_ok_iff.mpr ⟨short, leads.add (isThere_of_ofPath led).2 content⟩

end Place

end Tunables
