import Tunables.Config.Load
import Tunables.Proofs.Batch
import Tunables.Proofs.ConfigLines

namespace Tunables

def Environment.source (environment : Environment) : Except Path.HomeFailure (Option Path) :=
  match environment.named with
  | none | some [] => .ok none
  | some text => ((Path.ofText text).expandHome environment.homes).map some

namespace Config

/-- How a file stands as a configuration. It is unreadable also if it is not UTF-8. -/
inductive Standing
  | absent
  | unreadable (reason : Text)
  | faulty (number : Nat) (defect : Defect)
  | good (sets : List (Item × Path))

namespace Standing

def sets : Standing → List (Item × Path)
  | good sets => sets
  | absent | unreadable _ | faulty _ _ => []

def reason? : Standing → Option Text
  | unreadable reason => some reason
  | faulty number defect => some (Problem.line number defect).message
  | absent | good _ => none

def warning (path : Path) (standing : Standing) : Text :=
  match standing.reason? with
  | none => []
  | some reason => cannotLoad path reason ++ [.char '\n']

end Standing

variable {homes : Homes} {system : System} {path : Path} {standing : Standing}

/-- A file is faulty by its first line that is not in order, and good if there is none. -/
inductive Stands (homes : Homes) (system : System) (path : Path) : Standing → Prop
  | absent (missing : isFile system path = .ok false) : Stands homes system path .absent
  | unreadable {reason : Text} (present : isFile system path = .ok true)
    (refused : readText system path = .error reason) :
    Stands homes system path (.unreadable reason)
  | faulty {text : Text} {before behind : List Text} {raw : Text} {defect : Defect}
    (present : isFile system path = .ok true) (read : readText system path = .ok text)
    (split : Blank.lines text = before ++ raw :: behind)
    (good : ∀ line ∈ before, (Reading.ofLine homes line).isGood = true)
    (bad : Reading.ofLine homes raw = .faulty defect) :
    Stands homes system path (.faulty (before.length + 1) defect)
  | good {text : Text} (present : isFile system path = .ok true)
    (read : readText system path = .ok text)
    (good : ∀ line ∈ Blank.lines text, (Reading.ofLine homes line).isGood = true) :
    Stands homes system path (.good (assignments homes (Blank.lines text)))

/-- Loading stops at a file whose first line that is not in order needs a home directory that is not
known. -/
def Halts (homes : Homes) (system : System) (path : Path) : Prop :=
  isFile system path = .ok true ∧ ∃ text, readText system path = .ok text ∧ Homeless homes text

theorem stands_or_halts (homes : Homes) {present : Bool}
    (looked : isFile system path = .ok present) :
    (∃ standing, Stands homes system path standing) ∨ Halts homes system path := by
  cases present with
  | false => exact .inl ⟨_, .absent looked⟩
  | true =>
    cases read : readText system path with
    | error reason => exact .inl ⟨_, .unreadable looked read⟩
    | ok text =>
      rcases good_or_first_bad homes (Blank.lines text) with
        good | ⟨before, raw, behind, split, good, bad⟩
      · exact .inl ⟨_, .good looked read good⟩
      · cases line : Reading.ofLine homes raw with
        | nothing => simp [line, Reading.isGood] at bad
        | sets item path => simp [line, Reading.isGood] at bad
        | faulty defect => exact .inl ⟨_, .faulty looked read split good line⟩
        | homeless => exact .inr ⟨looked, text, read, before, raw, behind, split, good, line⟩

/-- There is no other way to stand for a file that can be looked at and whose paths can be
expanded. -/
theorem exists_stands {present : Bool} (looked : isFile system path = .ok present)
    (expandable : ∀ text, readText system path = .ok text →
      ∀ line ∈ Blank.lines text, Reading.ofLine homes line ≠ .homeless) :
    ∃ standing, Stands homes system path standing := by
  refine (stands_or_halts homes looked).resolve_right ?_
  rintro ⟨-, text, read, before, raw, behind, split, -, line⟩
  have member : raw ∈ Blank.lines text := split ▸ by simp
  exact expandable text read raw member line

structure Layered (config : Config) (sets : List (Item × Path)) (after : Config) : Prop where
  path : ∀ item, after.path? item = (lastOf item sets).or (config.path? item)
  given : ∀ item, after.given.contains item = true ↔
    (∃ path, (item, path) ∈ sets) ∨ config.given.contains item = true

theorem Layered.refl (config : Config) : Layered config [] config :=
  ⟨fun _ => rfl, fun _ => by simp⟩

theorem Layered.trans {below config above : Config} {first second : List (Item × Path)}
    (early : Layered below first config) (late : Layered config second above) :
    Layered below (first ++ second) above where
  path := fun item => by rw [late.path, early.path, lastOf_append, Option.or_assoc]
  given := fun item => by
    rw [late.given, early.given, ← or_assoc, or_comm (a := ∃ path, (item, path) ∈ second)]
    simp only [List.mem_append, exists_or]

theorem layered_merge (config : Config) (sets : List (Item × Path)) :
    Layered config sets (config.merge (assign sets standard)) := by
  have named : ∀ item, (assign sets standard).given.contains item = true ↔
      ∃ path, (item, path) ∈ sets := by
    intro item
    rw [contains_assign, contains_standard]
    simp
  constructor
  · intro item
    rw [path?_merge, path?_assign]
    by_cases given : ∃ path, (item, path) ∈ sets
    · obtain ⟨path, last⟩ := Option.isSome_iff_exists.mp (isSome_lastOf.mpr given)
      rw [if_pos ((named item).mpr given), last, Option.some_or, Option.some_or]
    · have unset : lastOf item sets = none :=
        Option.not_isSome_iff_eq_none.mp (mt isSome_lastOf.mp given)
      rw [if_neg (mt (named item).mp given), unset, Option.none_or]
  · intro item
    rw [contains_merge, Bool.or_eq_true, named, or_comm]

/-- A file adds the layer that it stands for, and at most a warning. -/
theorem loadIfFile_of_stands (stands : Stands homes system path standing) (config : Config) :
    ∃ after, loadIfFile homes config path system =
        ⟨.ok after, [], standing.warning path, system⟩ ∧
      Layered config standing.sets after := by
  unfold loadIfFile
  rw [Action.get_bind]
  cases stands with
  | absent missing =>
    rw [missing]
    exact ⟨config, rfl, .refl config⟩
  | unreadable present refused =>
    rw [present]
    refine ⟨config, ?_, .refl config⟩
    simp only [loadFile]
    rw [Action.get_bind, refused]
    exact Action.warn_pure _ config system
  | faulty present read split good bad =>
    rw [present]
    refine ⟨config, ?_, .refl config⟩
    simp only [loadFile]
    rw [Action.get_bind, read]
    dsimp only
    rw [parse_of_faulty split good bad]
    exact Action.warn_pure _ config system
  | good present read good =>
    rw [present]
    refine ⟨_, ?_, layered_merge config _⟩
    simp only [loadFile]
    rw [Action.get_bind, read]
    dsimp only
    rw [parse_of_good good]
    rfl

def StandsAt (homes : Homes) (system : System) : Option Path → Standing → Prop
  | none, standing => standing = .absent
  | some path, standing => Stands homes system path standing

def loadSource (homes : Homes) (source : Option Path) (config : Config) : Action Config :=
  match source with
  | none => Action.pure config
  | some path => loadIfFile homes config path

theorem load_eq {environment : Environment} {source : Option Path}
    (expanded : environment.source = .ok source) :
    load environment =
      loadIfFile environment.homes standard environment.personal >>=
        loadSource environment.homes source := by
  unfold Environment.source at expanded
  unfold load
  cases named : environment.named with
  | none =>
    rw [named] at expanded
    cases expanded
    rfl
  | some text =>
    rw [named] at expanded
    cases text with
    | nil =>
      cases expanded
      rfl
    | cons c rest =>
      dsimp only at expanded ⊢
      cases led : (Path.ofText (c :: rest)).expandHome environment.homes with
      | error failure =>
        rw [led] at expanded
        cases expanded
      | ok path =>
        rw [led] at expanded
        cases expanded
        rfl

end Config

namespace Sample

/-- The user's file has a line that is not in order, and the other file gives the standard root back
at its end. -/
def layers : System where
  files := ⟨[([keys], .file (Utf8.encode "set log a\nset root b\nset color c\n".text)),
    ([one], .file (Utf8.encode "set root d\nSET root /proc/sys\n".text))], []⟩
  faults := []
  log := none
  clock := ⟨[], []⟩

def layered : Environment where
  program := "sysctl".text
  homes := ⟨"home".text, []⟩
  personal := ⟨.relative, [keys.text]⟩
  named := some one.text

end Sample

namespace Config

open Sample

end Config

end Tunables
