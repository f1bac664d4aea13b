import Tunables.Config.Parse

namespace Tunables.Config

def path? (config : Config) : Item → Option Path
  | .root => some config.root
  | .preload => some config.preload
  | .log => config.log

theorem path?_set (config : Config) (item other : Item) (path : Path) :
    (config.set item path).path? other =
      if item = other then some path else config.path? other := by
  cases item <;> cases other <;> rfl

theorem contains_set (config : Config) (item other : Item) (path : Path) :
    (config.set item path).given.contains other =
      (decide (item = other) || config.given.contains other) := by
  cases item <;> cases other <;> rfl

theorem path?_merge (base overlay : Config) (item : Item) :
    (base.merge overlay).path? item =
      if overlay.given.contains item then overlay.path? item else base.path? item := by
  cases item with
  | root => exact apply_ite some (overlay.given.root = true) overlay.root base.root
  | preload => exact apply_ite some (overlay.given.preload = true) overlay.preload base.preload
  | log => rfl

theorem contains_merge (base overlay : Config) (item : Item) :
    (base.merge overlay).given.contains item =
      (base.given.contains item || overlay.given.contains item) := by
  cases item <;> rfl

theorem contains_standard (item : Item) : standard.given.contains item = false := by
  cases item <;> rfl

def assign (sets : List (Item × Path)) (config : Config) : Config :=
  sets.foldl (fun config (item, path) => config.set item path) config

def lastOf (item : Item) (sets : List (Item × Path)) : Option Path :=
  (sets.filter (·.1 = item)).getLast?.map (·.2)

theorem lastOf_cons (item first : Item) (path : Path) (sets : List (Item × Path)) :
    lastOf item ((first, path) :: sets) =
      (lastOf item sets).or (if first = item then some path else none) := by
  unfold lastOf
  by_cases same : first = item
  · rw [List.filter_cons_of_pos (by simpa using same), if_pos same, List.getLast?_cons]
    cases (sets.filter (·.1 = item)).getLast? <;> rfl
  · rw [List.filter_cons_of_neg (by simpa using same), if_neg same, Option.or_none]

theorem lastOf_append (item : Item) (first second : List (Item × Path)) :
    lastOf item (first ++ second) = (lastOf item second).or (lastOf item first) := by
  unfold lastOf
  rw [List.filter_append, List.getLast?_append, Option.map_or]

theorem isSome_lastOf {item : Item} {sets : List (Item × Path)} :
    (lastOf item sets).isSome = true ↔ ∃ path, (item, path) ∈ sets := by
  simp [lastOf]

theorem path?_assign (sets : List (Item × Path)) (config : Config) (item : Item) :
    (assign sets config).path? item = (lastOf item sets).or (config.path? item) := by
  induction sets generalizing config with
  | nil => rfl
  | cons first sets ih =>
    obtain ⟨other, path⟩ := first
    have rest := ih (config.set other path)
    rw [path?_set] at rest
    rw [lastOf_cons, Option.or_assoc]
    refine rest.trans (congrArg (lastOf item sets).or ?_)
    by_cases same : other = item
    · rw [if_pos same, if_pos same, Option.some_or]
    · rw [if_neg same, if_neg same, Option.none_or]

theorem contains_assign (sets : List (Item × Path)) (config : Config) (item : Item) :
    (assign sets config).given.contains item = true ↔
      (∃ path, (item, path) ∈ sets) ∨ config.given.contains item = true := by
  induction sets generalizing config with
  | nil => simp [assign]
  | cons first sets ih =>
    obtain ⟨other, path⟩ := first
    refine (ih (config.set other path)).trans ?_
    rw [contains_set, Bool.or_eq_true, decide_eq_true_eq, ← or_assoc]
    simp only [List.mem_cons, Prod.mk.injEq, exists_or, exists_and_left, exists_eq,
      and_true, eq_comm (a := item)]
    rw [or_comm (a := other = item)]

/-- What one line amounts to, once its path is expanded. -/
inductive Reading
  | nothing
  | sets (item : Item) (path : Path)
  | faulty (defect : Defect)
  | homeless
  deriving DecidableEq

namespace Reading

def ofLine (homes : Homes) (raw : Text) : Reading :=
  match readLine raw with
  | .error defect => faulty defect
  | .ok none => nothing
  | .ok (some (item, path)) =>
    match (Path.ofText path).expandHome homes with
    | .error .unknown => homeless
    | .error .embeddedNul => faulty .embeddedNul
    | .ok path => sets item path

def isGood : Reading → Bool
  | nothing | sets _ _ => true
  | faulty _ | homeless => false

def set? : Reading → Option (Item × Path)
  | sets item path => some (item, path)
  | _ => none

end Reading

def assignments (homes : Homes) (lines : List Text) : List (Item × Path) :=
  lines.filterMap fun raw => (Reading.ofLine homes raw).set?

theorem parseLines_cons (homes : Homes) (number : Nat) (config : Config) (raw : Text)
    (rest : List Text) :
    parseLines homes number config (raw :: rest) =
      match Reading.ofLine homes raw with
      | .nothing => parseLines homes (number + 1) config rest
      | .sets item path => parseLines homes (number + 1) (config.set item path) rest
      | .faulty defect => .error (.line number defect)
      | .homeless => .error .homeUnknown := by
  rw [parseLines, Reading.ofLine]
  rcases readLine raw with defect | _ | ⟨item, path⟩
  · rfl
  · rfl
  · dsimp only
    rcases (Path.ofText path).expandHome homes with (_ | _) | expanded <;> rfl

/-- Lines that are in order are assignments; what follows is read on top of them. -/
theorem parseLines_append {homes : Homes} {before : List Text}
    (good : ∀ line ∈ before, (Reading.ofLine homes line).isGood = true) (behind : List Text)
    (number : Nat) (config : Config) :
    parseLines homes number config (before ++ behind) =
      parseLines homes (number + before.length) (assign (assignments homes before) config)
        behind := by
  induction before generalizing number config with
  | nil => rfl
  | cons raw rest ih =>
    rw [List.forall_mem_cons] at good
    rw [List.cons_append, parseLines_cons, List.length_cons, assignments, List.filterMap_cons,
      Nat.add_comm rest.length, ← Nat.add_assoc]
    cases read : Reading.ofLine homes raw with
    | nothing => exact ih good.2 (number + 1) config
    | sets item path => exact ih good.2 (number + 1) (config.set item path)
    | faulty defect => simp [read, Reading.isGood] at good
    | homeless => simp [read, Reading.isGood] at good

theorem parse_of_good {homes : Homes} {text : Text}
    (good : ∀ line ∈ Blank.lines text, (Reading.ofLine homes line).isGood = true) :
    parse homes text = .ok (assign (assignments homes (Blank.lines text)) standard) := by
  have read := parseLines_append good [] 1 standard
  rwa [List.append_nil] at read

theorem parse_of_faulty {homes : Homes} {text : Text} {before behind : List Text} {raw : Text}
    {defect : Defect} (split : Blank.lines text = before ++ raw :: behind)
    (good : ∀ line ∈ before, (Reading.ofLine homes line).isGood = true)
    (bad : Reading.ofLine homes raw = .faulty defect) :
    parse homes text = .error (.line (before.length + 1) defect) := by
  rw [parse, split, parseLines_append good, parseLines_cons, bad, Nat.add_comm before.length]

theorem good_or_first_bad (homes : Homes) (lines : List Text) :
    (∀ line ∈ lines, (Reading.ofLine homes line).isGood = true) ∨
      ∃ before raw behind, lines = before ++ raw :: behind ∧
        (∀ line ∈ before, (Reading.ofLine homes line).isGood = true) ∧
        (Reading.ofLine homes raw).isGood = false := by
  cases found : lines.find? fun line => !(Reading.ofLine homes line).isGood with
  | none => exact .inl fun line member => by simpa using List.find?_eq_none.mp found line member
  | some raw =>
    obtain ⟨bad, before, behind, split, good⟩ := List.find?_eq_some_iff_append.mp found
    exact .inr ⟨before, raw, behind, split, by simpa using good, by simpa using bad⟩

def Homeless (homes : Homes) (text : Text) : Prop :=
  ∃ before raw behind, Blank.lines text = before ++ raw :: behind ∧
    (∀ line ∈ before, (Reading.ofLine homes line).isGood = true) ∧
    Reading.ofLine homes raw = .homeless

theorem parse_of_homeless {homes : Homes} {text : Text} (homeless : Homeless homes text) :
    parse homes text = .error .homeUnknown := by
  obtain ⟨before, raw, behind, split, good, bad⟩ := homeless
  rw [parse, split, parseLines_append good, parseLines_cons, bad]

end Tunables.Config
