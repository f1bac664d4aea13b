import Tunables.Proofs.Dump

/-!
What the walk below a directory meets: every entry to which names lead through directories that can
be listed and inspected, each once, in the order of these names.
-/

namespace Tunables

theorem Utf8.length_le_encode (text : Text) : text.length ≤ (Utf8.encode text).length := by
  induction text with
  | nil => exact Nat.le_refl 0
  | cons c rest ih =>
    have filled : 0 < (encodeSymbol c).length := by
      cases c with
      | stray n => exact Nat.one_pos
      | char c =>
        unfold encodeSymbol encodeChar
        dsimp only
        split
        · simp
        · split
          · simp
          · split <;> simp
    rw [encode, List.flatMap_cons, List.length_append, List.length_cons, Nat.add_comm]
    exact Nat.add_le_add filled ih

namespace Path

theorem length_le_intercalate (parts : List Text) {last : Text} (filled : last ≠ []) :
    parts.length < ([.char '/'].intercalate (parts ++ [last])).length := by
  induction parts with
  | nil => simpa using List.length_pos_iff.mpr filled
  | cons part parts ih =>
    have more : parts ++ [last] ≠ [] := List.append_ne_nil_of_right_ne_nil parts (by simp)
    rw [List.cons_append, List.intercalate_cons_of_ne_nil more]
    simp only [List.length_append, List.length_cons, List.length_nil]
    omega

theorem length_le_size (path : Path) (below : List Name) :
    below.length ≤ (path.under below).size := by
  rcases List.eq_nil_or_concat below with rfl | ⟨before, last, rfl⟩
  · exact Nat.zero_le _
  have filled := length_le_intercalate (path.parts ++ before.map Name.text)
    (isComponent_ne_nil last.isComponent)
  have rendered : (path.under (before.concat last)).render = path.anchor.text ++
      [.char '/'].intercalate (path.parts ++ before.map Name.text ++ [last.text]) := by
    simp [render, under, append]
  have encoded := Utf8.length_le_encode (path.under (before.concat last)).render
  rw [rendered, List.length_append] at encoded
  rw [List.length_append, List.length_map] at filled
  rw [size, rendered, List.length_concat]
  omega

theorem append_lt_append_iff {before first second : List Text} :
    before ++ first < before ++ second ↔ first < second := by
  induction before with
  | nil => rfl
  | cons part before ih => rw [List.cons_append, List.cons_append, List.cons_lt_cons_self, ih]

end Path

def Visit.path : Visit → Path
  | .key path | .unlisted path _ | .uninspected path _ => path

namespace Survey

variable {system : System} {path : Path} {name : Name} {trail rest : List Name} {visit : Visit}

/-- Names lead to an entry: every directory on the way can be listed and, unless it is the first,
inspected, and has the next name. -/
def Reaches (system : System) (path : Path) (trail : List Name) : Prop :=
  ∀ before name behind, trail = before ++ name :: behind →
    (before = [] ∨ system.inspect (path.under before) = .ok true) ∧
      ∃ names, system.list (path.under before) = .ok names ∧ name ∈ names

/-- What is found where these names lead. Where they lead on, nothing is found. -/
def Finds (system : System) (path : Path) (trail : List Name) : Visit → Prop
  | .key entry =>
    entry = path.under trail ∧ trail ≠ [] ∧ system.inspect entry = .ok false
  | .uninspected entry errno =>
    entry = path.under trail ∧ trail ≠ [] ∧ system.inspect entry = .error errno
  | .unlisted entry errno =>
    entry = path.under trail ∧ (trail = [] ∨ system.inspect entry = .ok true) ∧
      system.list entry = .error errno

theorem reaches_nil : Reaches system path [] := by
  intro before name behind split
  simp at split

theorem reaches_cons :
    Reaches system path (name :: rest) ↔
      (∃ names, system.list path = .ok names ∧ name ∈ names) ∧
      (rest = [] ∨ system.inspect (path.child name.text) = .ok true) ∧
      Reaches system (path.child name.text) rest := by
  constructor
  · intro reaches
    refine ⟨?_, ?_, ?_⟩
    · have listed := (reaches [] name rest rfl).2
      rwa [Path.under_nil] at listed
    · cases rest with
      | nil => exact .inl rfl
      | cons next rest => exact .inr ((reaches [name] next rest rfl).1.resolve_left (by simp))
    · intro before next behind split
      subst split
      obtain ⟨inspected, listed⟩ := reaches (name :: before) next behind rfl
      rw [Path.under_cons] at inspected listed
      exact ⟨.inr (inspected.resolve_left (List.cons_ne_nil _ _)), listed⟩
  · rintro ⟨listed, inspected, further⟩ before next behind split
    cases before with
    | nil =>
      cases split
      rw [Path.under_nil]
      exact ⟨.inl rfl, listed⟩
    | cons first before =>
      cases split
      obtain ⟨deeper, inside⟩ := further before next behind rfl
      rw [Path.under_cons]
      refine ⟨.inr ?_, inside⟩
      rcases deeper with rfl | deeper
      · rw [Path.under_nil]
        exact inspected.resolve_left (List.append_ne_nil_of_right_ne_nil [] (List.cons_ne_nil _ _))
      · exact deeper

theorem finds_cons
    (onward : rest = [] → system.inspect (path.child name.text) = .ok true) :
    Finds system path (name :: rest) visit ↔
      Finds system (path.child name.text) rest visit := by
  have further : ∀ {entry : Path} {kind : Except Errno Bool},
      entry = (path.child name.text).under rest → system.inspect entry = kind →
      kind ≠ .ok true → rest ≠ [] := by
    rintro entry kind same inspected other rfl
    rw [same, Path.under_nil, onward rfl] at inspected
    exact other inspected.symm
  cases visit with
  | key entry =>
    rw [Finds, Finds, Path.under_cons]
    refine and_congr_right fun same => ?_
    exact ⟨fun ⟨_, plain⟩ => ⟨further same plain nofun, plain⟩,
      fun ⟨_, plain⟩ => ⟨List.cons_ne_nil _ _, plain⟩⟩
  | uninspected entry errno =>
    rw [Finds, Finds, Path.under_cons]
    refine and_congr_right fun same => ?_
    exact ⟨fun ⟨_, refused⟩ => ⟨further same refused nofun, refused⟩,
      fun ⟨_, refused⟩ => ⟨List.cons_ne_nil _ _, refused⟩⟩
  | unlisted entry errno =>
    rw [Finds, Finds, Path.under_cons]
    refine and_congr_right fun same => and_congr_left fun _ => ?_
    constructor
    · exact fun passed => .inr (passed.resolve_left (List.cons_ne_nil _ _))
    · rintro (last | inspected)
      · refine .inr ?_
        rw [same, last, Path.under_nil]
        exact onward last
      · exact .inr inspected

def Suffice (system : System) (levels : Nat) (path : Path) : Prop :=
  ∀ trail, (trail = [] ∨ system.inspect (path.under trail) = .ok true) → trail.length < levels

theorem Suffice.child {levels : Nat} (deep : Suffice system (levels + 1) path)
    (directory : system.inspect (path.child name.text) = .ok true) :
    Suffice system levels (path.child name.text) := by
  intro trail passed
  refine Nat.lt_of_succ_lt_succ (deep (name :: trail) (.inr ?_))
  rw [Path.under_cons]
  rcases passed with rfl | inspected
  · rwa [Path.under_nil]
  · exact inspected

/-- The walk meets what names lead to. -/
theorem mem_within_iff {levels : Nat} (deep : Suffice system levels path) :
    visit ∈ within system levels path ↔
      ∃ trail, Reaches system path trail ∧ Finds system path trail visit := by
  induction levels generalizing path with
  | zero => exact absurd (deep [] (.inl rfl)) (Nat.not_lt_zero _)
  | succ levels ih =>
    rw [mem_within]
    constructor
    · rintro (⟨errno, refused, rfl⟩ | ⟨names, listed, name, member, found⟩)
      · exact ⟨[], reaches_nil, (Path.under_nil path).symm, .inl rfl, refused⟩
      rcases found with ⟨errno, refused, rfl⟩ | ⟨directory, inside⟩ | ⟨plain, rfl⟩
      · exact ⟨[name], reaches_cons.mpr ⟨⟨names, listed, member⟩, .inl rfl, reaches_nil⟩, rfl,
          List.cons_ne_nil _ _, refused⟩
      · obtain ⟨trail, reached, finds⟩ := (ih (deep.child directory)).mp inside
        exact ⟨name :: trail, reaches_cons.mpr ⟨⟨names, listed, member⟩, .inr directory, reached⟩,
          (finds_cons fun _ => directory).mpr finds⟩
      · exact ⟨[name], reaches_cons.mpr ⟨⟨names, listed, member⟩, .inl rfl, reaches_nil⟩, rfl,
          List.cons_ne_nil _ _, plain⟩
    · rintro ⟨trail, reached, finds⟩
      cases trail with
      | nil =>
        cases visit with
        | key entry => exact absurd rfl finds.2.1
        | uninspected entry errno => exact absurd rfl finds.2.1
        | unlisted entry errno =>
          obtain ⟨same, -, refused⟩ := finds
          rw [Path.under_nil] at same
          exact .inl ⟨errno, same ▸ refused, congrArg (Visit.unlisted · errno) same⟩
      | cons name rest =>
        obtain ⟨⟨names, listed, member⟩, passed, further⟩ := reaches_cons.mp reached
        refine .inr ⟨names, listed, name, member, ?_⟩
        by_cases directory : system.inspect (path.child name.text) = .ok true
        · exact .inr (.inl ⟨directory, (ih (deep.child directory)).mpr
            ⟨rest, further, (finds_cons fun _ => directory).mp finds⟩⟩)
        · have last : rest = [] := passed.resolve_right directory
          subst last
          have here : path.under [name] = path.child name.text := rfl
          cases visit with
          | key entry =>
            obtain ⟨rfl, -, plain⟩ := finds
            exact .inr (.inr ⟨plain, rfl⟩)
          | uninspected entry errno =>
            obtain ⟨rfl, -, refused⟩ := finds
            exact .inl ⟨errno, refused, rfl⟩
          | unlisted entry errno =>
            obtain ⟨rfl, inspected, -⟩ := finds
            exact absurd (inspected.resolve_left (List.cons_ne_nil _ _)) directory

theorem size_of_inspect {kind : Bool} (inspected : system.inspect path = .ok kind) :
    path.size < Place.pathLimit := by
  apply Nat.lt_of_not_le
  intro long
  obtain ⟨place, looked⟩ := System.look_of_inspect inspected
  have led := System.ofPath_of_look looked
  rw [Place.ofPath, if_pos long] at led
  cases led

theorem suffice_pathLimit (system : System) (root : Path) :
    Suffice system Place.pathLimit root := by
  intro trail passed
  rcases passed with rfl | inspected
  · decide
  · exact Nat.lt_of_le_of_lt (Path.length_le_size root trail) (size_of_inspect inspected)

theorem mem_below_iff (root : Path) :
    visit ∈ below system root ↔
      ∃ trail, Reaches system root trail ∧ Finds system root trail visit :=
  mem_within_iff (suffice_pathLimit system root)

theorem increasing_list {names : List Name} (listed : system.list path = .ok names) :
    Name.Increasing names := by
  unfold System.list at listed
  split at listed
  · cases listed
  split at listed <;> cases listed
  exact FileSystem.increasing_names _ _

def foundAt (system : System) (levels : Nat) (path : Path) (name : Name) : List Visit :=
  let entry := path.child name.text
  match system.inspect entry with
  | .error errno => [.uninspected entry errno]
  | .ok true => within system levels entry
  | .ok false => [.key entry]

theorem within_succ (system : System) (levels : Nat) (path : Path) :
    within system (levels + 1) path =
      match system.list path with
      | .error errno => [.unlisted path errno]
      | .ok names => names.flatMap (foundAt system levels path) := rfl

theorem parts_of_mem_foundAt {levels : Nat}
    (inside : ∀ {path visit}, visit ∈ within system levels path →
      ∃ later, visit.path.parts = path.parts ++ later)
    (member : visit ∈ foundAt system levels path name) :
    ∃ later, visit.path.parts = path.parts ++ name.text :: later := by
  have child : ∀ later, (path.child name.text).parts ++ later = path.parts ++ name.text :: later :=
    fun later => List.append_assoc path.parts [name.text] later
  unfold foundAt at member
  dsimp only at member
  split at member
  · exact ⟨[], by rw [List.mem_singleton.mp member]; rfl⟩
  · obtain ⟨later, same⟩ := inside member
    exact ⟨later, same.trans (child later)⟩
  · exact ⟨[], by rw [List.mem_singleton.mp member]; rfl⟩

theorem parts_of_mem_within {levels : Nat} (member : visit ∈ within system levels path) :
    ∃ later, visit.path.parts = path.parts ++ later := by
  induction levels generalizing path visit with
  | zero => exact ⟨[], by rw [List.mem_singleton.mp member, List.append_nil]; rfl⟩
  | succ levels ih =>
    rw [within_succ] at member
    cases listed : system.list path with
    | error errno =>
      rw [listed] at member
      exact ⟨[], by rw [List.mem_singleton.mp member, List.append_nil]; rfl⟩
    | ok names =>
      rw [listed] at member
      obtain ⟨name, -, met⟩ := List.mem_flatMap.mp member
      obtain ⟨later, same⟩ := parts_of_mem_foundAt ih met
      exact ⟨name.text :: later, same⟩

theorem increasing_within (system : System) (levels : Nat) (path : Path) :
    (within system levels path).Pairwise fun first second =>
      first.path.parts < second.path.parts := by
  -- That the names of a directory increase decides between its entries.
  induction levels generalizing path with
  | zero => exact List.pairwise_singleton _ _
  | succ levels ih =>
    rw [within_succ]
    cases listed : system.list path with
    | error errno => exact List.pairwise_singleton _ _
    | ok names =>
      refine List.pairwise_flatMap.mpr ⟨fun name _ => ?_, ?_⟩
      · unfold foundAt
        dsimp only
        split
        · exact List.pairwise_singleton _ _
        · exact ih _
        · exact List.pairwise_singleton _ _
      · refine (increasing_list listed).imp fun less first met second metLater => ?_
        obtain ⟨later, same⟩ := parts_of_mem_foundAt parts_of_mem_within met
        obtain ⟨later', same'⟩ := parts_of_mem_foundAt parts_of_mem_within metLater
        rw [same, same']
        exact List.append_left_lt (List.Lex.rel (Text.ofChars_lt_ofChars less))

def isKey : Visit → Bool
  | .key _ => true
  | _ => false

/-- The keys below a root are the entries that are not directories, each once and in order. -/
theorem exists_keys_below (system : System) (root : Path) :
    ∃ keys : List (List Name),
      (below system root).filter isKey = keys.map (fun trail => .key (root.under trail)) ∧
      (keys.Pairwise fun first second => first.map Name.text < second.map Name.text) ∧
      ∀ trail, trail ∈ keys ↔
        Reaches system root trail ∧ trail ≠ [] ∧ system.inspect (root.under trail) = .ok false := by
  have found : ∀ visit ∈ (below system root).filter isKey, ∃ trail,
      visit = .key (root.under trail) ∧ Reaches system root trail ∧ trail ≠ [] ∧
        system.inspect (root.under trail) = .ok false := by
    intro visit member
    obtain ⟨met, key⟩ := List.mem_filter.mp member
    cases visit with
    | key entry =>
      obtain ⟨trail, reaches, rfl, filled, plain⟩ := (mem_below_iff root).mp met
      exact ⟨trail, rfl, reaches, filled, plain⟩
    | uninspected entry errno => cases key
    | unlisted entry errno => cases key
  obtain ⟨keys, same, entries⟩ := exists_keys found
  refine ⟨keys, same, ?_, fun trail => ⟨entries trail, ?_⟩⟩
  · have ordered := (increasing_within system Place.pathLimit root).filter isKey
    change ((below system root).filter isKey).Pairwise _ at ordered
    rw [same, List.pairwise_map] at ordered
    exact ordered.imp fun less => Path.append_lt_append_iff.mp less
  · rintro ⟨reaches, filled, plain⟩
    have met : .key (root.under trail) ∈ below system root :=
      (mem_below_iff root).mpr ⟨trail, reaches, rfl, filled, plain⟩
    have listed := List.mem_filter.mpr ⟨met, show isKey (.key (root.under trail)) = true from rfl⟩
    rw [same] at listed
    obtain ⟨other, inside, equal⟩ := List.mem_map.mp listed
    rwa [← Path.under_inj.mp (Visit.key.inj equal)]

end Survey

end Tunables
