import Mathlib.Data.List.Pairwise
import Mathlib.Data.List.Perm.Basic
import Tunables.Proofs.Effects

/-!
What actions write, as a list of files with their new contents. The last write to a file decides
what it holds: writing everything once more changes nothing, and writes to different files can be
made in any order. Writing a setting comes to the same answer and the same writes wherever the same
paths lead to the same places.
-/

namespace Tunables

namespace Entry

def rewritten (entry : Entry) : Option Bytes → Entry
  | none => entry
  | some content => entry.overwrite true content

theorem rewritten_overwrite (entry : Entry) (here : Bool) (content : Bytes) (last : Option Bytes) :
    (entry.overwrite here content).rewritten last =
      entry.rewritten (last.or (if here then some content else none)) := by
  cases entry <;> cases last <;> cases here <;> rfl

theorem rewritten_rewritten (entry : Entry) (last : Option Bytes) :
    (entry.rewritten last).rewritten last = entry.rewritten last := by
  cases entry <;> cases last <;> rfl

end Entry

namespace FileSystem

variable {files : FileSystem} {writes others : List (Location × Bytes)}

def writeAll (files : FileSystem) (writes : List (Location × Bytes)) : FileSystem :=
  writes.foldl (fun files (location, content) => files.write location content) files

theorem writeAll_append (files : FileSystem) (early late : List (Location × Bytes)) :
    files.writeAll (early ++ late) = (files.writeAll early).writeAll late :=
  List.foldl_append

theorem sameShape_writeAll (files : FileSystem) (writes : List (Location × Bytes)) :
    SameShape files (files.writeAll writes) := by
  induction writes generalizing files with
  | nil => exact .refl files
  | cons first rest ih => exact (sameShape_write files first.1 first.2).trans (ih _)

theorem entries_writeAll (files : FileSystem) (writes : List (Location × Bytes)) :
    (files.writeAll writes).entries =
      files.entries.map fun (location, entry) =>
        (location, entry.rewritten (writes.reverse.lookup location)) := by
  induction writes generalizing files with
  | nil => exact (List.map_id files.entries).symm
  | cons first rest ih =>
    obtain ⟨target, content⟩ := first
    calc ((files.write target content).writeAll rest).entries
        = (files.write target content).entries.map fun (location, entry) =>
            (location, entry.rewritten (rest.reverse.lookup location)) := ih _
      _ = files.entries.map fun (location, entry) =>
            (location, entry.rewritten (((target, content) :: rest).reverse.lookup location)) := by
          rw [write, List.map_map]
          apply List.map_congr_left
          rintro ⟨location, entry⟩ -
          simp only [Function.comp_apply, Entry.rewritten_overwrite, List.reverse_cons,
            List.lookup_append, List.lookup_cons, List.lookup_nil]
          by_cases same : location = target
          · simp [same]
          · simp [same, beq_eq_false_iff_ne.mpr same]

theorem writeAll_writeAll (files : FileSystem) (writes : List (Location × Bytes)) :
    (files.writeAll writes).writeAll writes = files.writeAll writes := by
  have entries : ((files.writeAll writes).writeAll writes).entries =
      (files.writeAll writes).entries := by
    simp only [entries_writeAll, List.map_map, Function.comp_def, Entry.rewritten_rewritten]
  exact FileSystem.ext entries (sameShape_writeAll (files.writeAll writes) writes).here.symm

theorem write_comm {first second : Location} (different : first ≠ second) (files : FileSystem)
    (one other : Bytes) :
    (files.write first one).write second other = (files.write second other).write first one := by
  simp only [write, List.map_map]
  refine FileSystem.ext (List.map_congr_left ?_) rfl
  rintro ⟨location, entry⟩ -
  by_cases here : location = first
  · subst here
    cases entry <;> simp [Entry.overwrite, different]
  · cases entry <;> simp [Entry.overwrite, here]

theorem writeAll_perm (perm : writes.Perm others)
    (apart : writes.Pairwise fun first second => first.1 ≠ second.1) (files : FileSystem) :
    files.writeAll writes = files.writeAll others := by
  have symmetric : Std.Symm fun first second : Location × Bytes => first.1 ≠ second.1 :=
    ⟨fun _ _ => Ne.symm⟩
  apply perm.foldl_eq'
  intro first member second member' files
  by_cases same : first = second
  · rw [same]
  · exact write_comm (apart.forall member member' same) files first.2 second.2

end FileSystem

namespace System

variable {reads : List Target} {first second third : System} {writes : List (Location × Bytes)}

structure Alike (reads : List Target) (first second : System) : Prop where
  similar : Similar first second
  log : second.log = first.log
  content : ∀ target ∈ reads, second.content target = first.content target

theorem Alike.refl (reads : List Target) (system : System) : Alike reads system system :=
  ⟨.refl system, rfl, fun _ _ => rfl⟩

theorem Alike.symm (alike : Alike reads first second) : Alike reads second first :=
  ⟨⟨alike.similar.files.symm, alike.similar.faults.symm⟩, alike.log.symm,
    fun target read => (alike.content target read).symm⟩

theorem Alike.trans (before : Alike reads first second) (behind : Alike reads second third) :
    Alike reads first third :=
  ⟨before.similar.trans behind.similar, behind.log.trans before.log,
    fun target read => (behind.content target read).trans (before.content target read)⟩

def writeAll (system : System) (writes : List (Location × Bytes)) : System :=
  { system with files := system.files.writeAll writes }

theorem writeAll_append (system : System) (early late : List (Location × Bytes)) :
    system.writeAll (early ++ late) = (system.writeAll early).writeAll late :=
  congrArg (fun files => { system with files }) (system.files.writeAll_append early late)

theorem writeAll_writeAll (system : System) (writes : List (Location × Bytes)) :
    (system.writeAll writes).writeAll writes = system.writeAll writes :=
  congrArg (fun files => { system with files }) (system.files.writeAll_writeAll writes)

theorem content_writeAll_of_apart (system : System) {target : Target}
    (apart : ∀ write ∈ writes, Target.file write.1 ≠ target) :
    (system.writeAll writes).content target = system.content target := by
  induction writes generalizing system with
  | nil => rfl
  | cons first rest ih =>
    rw [List.forall_mem_cons] at apart
    calc ((system.replace (.file first.1) first.2).writeAll rest).content target
        = (system.replace (.file first.1) first.2).content target := ih _ apart.2
      _ = system.content target := content_replace_of_ne system first.2 apart.1.symm

theorem alike_writeAll (system : System)
    (apart : ∀ write ∈ writes, Target.file write.1 ∉ reads) :
    Alike reads system (system.writeAll writes) :=
  ⟨⟨system.files.sameShape_writeAll writes, rfl⟩, rfl, fun _ read =>
    system.content_writeAll_of_apart fun write member same => apart write member (same ▸ read)⟩

end System

namespace Action

variable {α : Type} {reads : List Target} {system state : System}
  {early late writes : List (Location × Bytes)}

/-- An action that reads no files but these: its answer is the same in every system that is alike,
and what it does there is to make the same writes, to other files. -/
structure AmountsTo (reads : List Target) (system : System) (action : Action α)
    (writes : List (Location × Bytes)) : Prop where
  apart : ∀ write ∈ writes, Target.file write.1 ∉ reads
  ran : ∀ state, System.Alike reads system state →
    action state =
      ⟨(action system).result, (action system).out, (action system).err, state.writeAll writes⟩

theorem AmountsTo.const (reads : List Target) (system : System) (result : Except Abort α)
    (out err : Text) : AmountsTo reads system (fun state => ⟨result, out, err, state⟩) [] :=
  ⟨nofun, fun _ _ => rfl⟩

theorem AmountsTo.congr {action other : Action α}
    (same : ∀ state, System.Alike reads system state → action state = other state)
    (amounts : AmountsTo reads system other writes) : AmountsTo reads system action writes := by
  refine ⟨amounts.apart, fun state alike => ?_⟩
  rw [same state alike, same system (.refl reads system)]
  exact amounts.ran state alike

theorem AmountsTo.after {action : Action α} (amounts : AmountsTo reads system action writes) :
    (action system).system = system.writeAll writes :=
  congrArg Outcome.system (amounts.ran system (.refl reads system))

theorem AmountsTo.alike {action : Action α} (amounts : AmountsTo reads system action writes) :
    System.Alike reads system (action system).system :=
  amounts.after ▸ system.alike_writeAll amounts.apart

theorem AmountsTo.of_alike {action : Action α} (amounts : AmountsTo reads system action writes)
    (alike : System.Alike reads system state) : AmountsTo reads state action writes := by
  refine ⟨amounts.apart, fun later alike' => ?_⟩
  rw [amounts.ran later (alike.trans alike'), amounts.ran state alike]

/-- Such an action can be repeated: the second time it answers the same and changes nothing. -/
theorem AmountsTo.again {action : Action α} (amounts : AmountsTo reads system action writes) :
    action (action system).system = action system := by
  rw [amounts.ran _ amounts.alike, amounts.after, System.writeAll_writeAll, ← amounts.after]

theorem AmountsTo.map {β : Type} {action : Action α}
    (amounts : AmountsTo reads system action writes) (change : α → β) :
    AmountsTo reads system (action.map change) writes := by
  refine ⟨amounts.apart, fun state alike => ?_⟩
  simp only [Action.map, amounts.ran state alike]

theorem AmountsTo.also_of_error {first : Action Status} {reason : Abort}
    (one : AmountsTo reads system first early)
    (broken : (first system).result = .error reason) (second : Action Status) :
    AmountsTo reads system (first.also second) early := by
  refine ⟨one.apart, fun state alike => ?_⟩
  have there := one.ran state alike
  have here := one.ran system (.refl reads system)
  rw [broken] at there here
  rw [Action.also_of_error there, Action.also_of_error here]

theorem AmountsTo.also_of_ok {first second : Action Status} {status : Status}
    (one : AmountsTo reads system first early)
    (other : AmountsTo reads (first system).system second late)
    (answered : (first system).result = .ok status) :
    AmountsTo reads system (first.also second) (early ++ late) := by
  refine ⟨List.forall_mem_append.mpr ⟨one.apart, other.apart⟩, fun state alike => ?_⟩
  have there := one.ran state alike
  have here := one.ran system (.refl reads system)
  rw [answered] at there here
  have other := other.of_alike one.alike.symm
  have next := other.ran _ (alike.trans (state.alike_writeAll one.apart))
  have next' := other.ran _ (system.alike_writeAll one.apart)
  rw [Action.also_of_ok there, Action.also_of_ok here, next, next', System.writeAll_append]

/-- Such actions, one after the other, are one. -/
theorem exists_amountsTo_also {first second : Action Status}
    (one : ∃ writes, AmountsTo reads system first writes)
    (other : ∀ status, (first system).result = .ok status →
      ∃ writes, AmountsTo reads (first system).system second writes) :
    ∃ writes, AmountsTo reads system (first.also second) writes := by
  obtain ⟨early, one⟩ := one
  cases answered : (first system).result with
  | error reason => exact ⟨early, one.also_of_error answered second⟩
  | ok status =>
    obtain ⟨late, other⟩ := other status answered
    exact ⟨early ++ late, one.also_of_ok other answered⟩

end Action

namespace Access

variable {reads : List Target} {system : System}

/-- What the writing of a setting changes: nothing, or the file that its name leads to. -/
def change? (root : Path) (system : System) (text : Text) : Option (Location × Bytes) :=
  match Setting.parse text with
  | .error _ => none
  | .ok setting =>
    match system.openExisting (resolve root setting.name) with
    | .ok (.file location) => some (location, system.leaves root setting)
    | _ => none

theorem exists_of_change? {root : Path} {text : Text} {change : Location × Bytes}
    (changed : change? root system text = some change) :
    ∃ setting, Setting.parse text = .ok setting ∧
      system.openExisting (resolve root setting.name) = .ok (.file change.1) := by
  unfold change? at changed
  split at changed
  · cases changed
  · rename_i setting parsed
    split at changed
    · rename_i location opened
      cases changed
      exact ⟨setting, parsed, opened⟩
    · cases changed

theorem amountsTo_writeSetting {root : Path} {text : Text} (display : Display)
    (unlogged : system.log = none)
    (elsewhere : ∀ target ∈ reads, ∀ setting, Setting.parse text = .ok setting →
      system.openExisting (resolve root setting.name) ≠ .ok target) :
    Action.AmountsTo reads system (writeSetting root display text)
      (change? root system text).toList := by
  constructor
  · intro change changed read
    obtain ⟨setting, parsed, opened⟩ := exists_of_change? (Option.mem_toList.mp changed)
    exact elsewhere _ read setting parsed opened
  intro state alike
  have after : (writeSetting root display text state).system =
      state.writeAll (change? root system text).toList := by
    rw [writeSetting_eq root display text (alike.log.trans unlogged), change?]
    cases Setting.parse text with
    | error failure => rfl
    | ok setting =>
      dsimp only
      rw [written_system, System.writeFile_system, ← alike.similar.openExisting]
      rcases system.openExisting (resolve root setting.name) with trouble | location | special
      · rfl
      · rw [← alike.similar.leaves]
        rfl
      · rfl
  obtain ⟨result, out, err⟩ := writeSetting_similar alike.similar root display text
  calc writeSetting root display text state
      = ⟨(writeSetting root display text state).result, (writeSetting root display text state).out,
          (writeSetting root display text state).err,
          (writeSetting root display text state).system⟩ := rfl
    _ = ⟨(writeSetting root display text system).result,
          (writeSetting root display text system).out, (writeSetting root display text system).err,
          state.writeAll (change? root system text).toList⟩ := by
        rw [← result, ← out, ← err, after]

end Access

end Tunables
