import Tunables.Proofs.Deeds
import Tunables.Proofs.Reach

/-!
Two runs that differ in their audit logs alone. Whether logging is off, works or fails, a run that
does not open the logs as keys answers the same, prints the same and leaves the same in every other
file.
-/

namespace Tunables

namespace FileSystem

variable {hidden : Location → Prop} {first second third : FileSystem}

structure SameBut (hidden : Location → Prop) (first second : FileSystem) : Prop where
  shape : SameShape first second
  content : ∀ location, ¬hidden location → first.content location = second.content location

theorem SameBut.refl (hidden : Location → Prop) (files : FileSystem) :
    SameBut hidden files files := ⟨.refl files, fun _ _ => rfl⟩

theorem SameBut.symm (same : SameBut hidden first second) : SameBut hidden second first :=
  ⟨same.shape.symm, fun location shown => (same.content location shown).symm⟩

theorem SameBut.trans (before : SameBut hidden first second)
    (behind : SameBut hidden second third) : SameBut hidden first third :=
  ⟨before.shape.trans behind.shape,
    fun location shown => (before.content location shown).trans (behind.content location shown)⟩

theorem SameBut.write (same : SameBut hidden first second) (location : Location)
    (content : Bytes) :
    SameBut hidden (first.write location content) (second.write location content) where
  shape := (sameShape_write first location content).symm.trans
    (same.shape.trans (sameShape_write second location content))
  content := by
    intro other shown
    by_cases here : other = location
    · subst here
      rcases entries_of_shape (same.shape.entries other) with
        ⟨one, two⟩ | ⟨one, two⟩ | ⟨one, two⟩ | ⟨_, _, one, two⟩ | ⟨_, one, two⟩
      case inr.inr.inr.inl =>
        rw [content_write_self content one, content_write_self content two]
      all_goals simp [FileSystem.content, find?_write, one, two, Entry.overwrite]
    · rw [content_write_of_ne first content here, content_write_of_ne second content here]
      exact same.content other shown

end FileSystem

def LogStream.IsOn (log : Option LogStream) (location : Location) : Prop :=
  log.map (·.target) = some (.file location)

instance (log : Option LogStream) (location : Location) : Decidable (LogStream.IsOn log location) :=
  inferInstanceAs (Decidable (log.map (·.target) = some (.file location)))

namespace System

variable {hidden : Location → Prop} {first second : System}

/-- Two systems that differ in their logs, and in files that are hidden. -/
structure Twins (hidden : Location → Prop) (first second : System) : Prop where
  files : FileSystem.SameBut hidden first.files second.files
  faults : first.faults = second.faults
  one : ∀ location, LogStream.IsOn first.log location → hidden location
  other : ∀ location, LogStream.IsOn second.log location → hidden location

namespace Twins

theorem symm (twins : Twins hidden first second) : Twins hidden second first :=
  ⟨twins.files.symm, twins.faults.symm, twins.other, twins.one⟩

theorem similar (twins : Twins hidden first second) : Similar first second :=
  ⟨twins.files.shape, twins.faults⟩

theorem advance {after : System} (twins : Twins hidden first second)
    (continues : Continues first after)
    (kept : ∀ location, ¬hidden location →
      after.files.content location = first.files.content location) :
    Twins hidden after second where
  files := ⟨continues.similar.files.symm.trans twins.files.shape,
    fun location shown => (kept location shown).trans (twins.files.content location shown)⟩
  faults := continues.similar.faults.symm.trans twins.faults
  one := fun location on => twins.one location (continues.log.symm.trans on)
  other := twins.other

theorem told (twins : Twins hidden first second) (event : Option Audit.Event) :
    Twins hidden (first.told event) second := by
  cases event with
  | none => exact twins
  | some event =>
    obtain ⟨continues, kept⟩ := first.recorded_keeps event
    exact twins.advance continues fun location shown =>
      kept (.file location) fun on => shown (twins.one location on)

theorem writeFile (twins : Twins hidden first second) (path : Path) (text : Text) :
    Twins hidden (first.writeFile path text).2 (second.writeFile path text).2 := by
  rw [writeFile_system, writeFile_system, twins.similar.openExisting, left, left,
    twins.similar.loss?]
  cases second.openExisting path with
  | error trouble => exact twins
  | ok target =>
    cases target with
    | null => exact twins
    | file location =>
      exact ⟨twins.files.write location _, twins.faults, twins.one, twins.other⟩

end Twins

def Apart (hidden : Location → Prop) (system : System) (path : Path) : Prop :=
  ∀ location, system.openExisting path = .ok (.file location) → ¬hidden location

theorem Similar.apart (similar : Similar first second) {path : Path}
    (apart : Apart hidden first path) : Apart hidden second path :=
  fun location opened => apart location ((similar.openExisting path).trans opened)

theorem Twins.content (twins : Twins hidden first second) {path : Path}
    (apart : Apart hidden first path) {target : Target}
    (opened : first.openExisting path = .ok target) :
    first.content target = second.content target := by
  cases target with
  | null => rfl
  | file location => exact twins.files.content location (apart location opened)

theorem Twins.readFile (twins : Twins hidden first second) {path : Path}
    (apart : Apart hidden first path) : first.readFile path = second.readFile path := by
  rw [System.readFile, System.readFile, ← twins.similar.openExisting, ← twins.similar.refusal?,
    ← twins.similar.fault?]
  cases opened : first.openExisting path with
  | error trouble => rfl
  | ok target =>
    dsimp only
    rw [twins.content apart opened]

end System

/-- Two outcomes that differ in what is hidden alone. -/
structure Outcome.Agree {α : Type} (hidden : Location → Prop) (one other : Outcome α) : Prop where
  result : one.result = other.result
  out : one.out = other.out
  err : one.err = other.err
  system : System.Twins hidden one.system other.system

variable {hidden : Location → Prop} {root : Path} {display : Display} {first second : System}

namespace Action

theorem agree_map {α β : Type} (change : α → β) {action : Action α}
    (agree : (action first).Agree hidden (action second)) :
    ((action.map change) first).Agree hidden ((action.map change) second) :=
  ⟨congrArg (Except.map change) agree.result, agree.out, agree.err, agree.system⟩

/-- The law of composition: what comes second agrees where the first one came to its end. -/
theorem agree_also {action other next following : Action Status}
    (agree : (action first).Agree hidden (other second))
    (later : ∀ status, (action first).result = .ok status →
      (next (action first).system).Agree hidden (following (other second).system)) :
    ((action.also next) first).Agree hidden ((other.also following) second) := by
  obtain ⟨result, out, err, twins⟩ := agree
  rcases ran : action first with ⟨reason | status, printed, warned, after⟩ <;>
    rcases ran' : other second with ⟨reason' | status', printed', warned', after'⟩ <;>
    rw [ran, ran'] at result out err twins <;> cases result <;> cases out <;> cases err
  · rw [also_of_error ran, also_of_error ran']
    exact ⟨rfl, rfl, rfl, twins⟩
  · have rest := later status (congrArg Outcome.result ran)
    rw [ran, ran'] at rest
    rw [also_of_ok ran, also_of_ok ran']
    exact ⟨congrArg (Except.map status.combine) rest.result, congrArg (printed ++ ·) rest.out,
      congrArg (warned ++ ·) rest.err, rest.system⟩

end Action

theorem Access.readValues_of_twins (twins : System.Twins hidden first second) {key : Text}
    (apart : key ≠ [] → first.Apart hidden (resolve root key)) :
    readValues root key first = readValues root key second := by
  unfold readValues
  by_cases empty : key = []
  · rw [if_pos empty, if_pos empty]
  · rw [if_neg empty, if_neg empty, twins.readFile (apart empty)]

namespace Deed

theorem continues_act (root : Path) (display : Display) (deed : Deed) (system : System) :
    System.Continues system (deed.act root display system).system := by
  have changed : System.Continues system (deed.effect root system) := by
    rcases effect_kinds root deed with same | ⟨path, text, -, same⟩
    · rw [same]
      exact .refl system
    · rw [same]
      exact System.continues_writeFile system path text
  rw [act_system]
  cases deed.event? (deed.act root display system) with
  | none => exact changed
  | some event => exact changed.trans (System.recorded_keeps _ event).1

theorem agree_act (twins : System.Twins hidden first second) {deed : Deed}
    (apart : ∀ path ∈ deed.path? root, first.Apart hidden path) :
    (deed.act root display first).Agree hidden (deed.act root display second) := by
  have effects : System.Twins hidden (deed.effect root first) (deed.effect root second) := by
    rcases effect_kinds root deed with same | ⟨path, text, -, same⟩
    · rw [same, same]
      exact twins
    · rw [same, same]
      exact twins.writeFile path text
  have systems : System.Twins hidden (deed.act root display first).system
      (deed.act root display second).system := by
    -- Whatever each of the two is told, its own log alone sees it.
    rw [act_system, act_system]
    exact ((effects.told _).symm.told _).symm
  suffices (deed.act root display first).result = (deed.act root display second).result ∧
      (deed.act root display first).out = (deed.act root display second).out ∧
      (deed.act root display first).err = (deed.act root display second).err from
    ⟨this.1, this.2.1, this.2.2, systems⟩
  cases deed with
  | read key =>
    have values : Access.readValues root key first = Access.readValues root key second :=
      Access.readValues_of_twins twins fun filled => apart _ (if_neg filled)
    rw [act, Access.readSetting_outcome, Access.readSetting_outcome, values]
    rcases Access.readValues root key second with (failure | reason) | lines <;>
      exact ⟨rfl, rfl, rfl⟩
  | write text => exact Access.writeSetting_similar twins.similar root display text
  | badLine source number => exact ⟨rfl, rfl, rfl⟩
  | unopened source errno => exact ⟨rfl, rfl, rfl⟩
  | unlisted path errno => exact ⟨rfl, rfl, rfl⟩
  | uninspected path errno => exact ⟨rfl, rfl, rfl⟩
  | usage text complaint => exact ⟨rfl, rfl, rfl⟩

/-- The deeds done open no hidden file. -/
def Apart (hidden : Location → Prop) (root : Path) (system : System)
    (course : List (Deed × Outcome Status)) : Prop :=
  ∀ step ∈ course, ∀ path ∈ step.1.path? root, system.Apart hidden path

theorem apart_tail {deed : Deed} {later : List (Deed × Outcome Status)}
    (apart : Apart hidden root first ((deed, deed.act root display first) :: later)) :
    Apart hidden root (deed.act root display first).system later :=
  fun step member path opens => (continues_act root display deed first).similar.apart
    (apart step (List.mem_cons_of_mem _ member) path opens)

theorem agree_all (twins : System.Twins hidden first second) {deeds : List Deed}
    (apart : Apart hidden root first (course root display deeds first)) :
    (all root display deeds first).Agree hidden (all root display deeds second) := by
  induction deeds generalizing first second with
  | nil => exact ⟨rfl, rfl, rfl, twins⟩
  | cons deed rest ih =>
    have agree : (deed.act root display first).Agree hidden (deed.act root display second) :=
      agree_act twins (apart _ List.mem_cons_self)
    refine Action.agree_also agree fun status ended => ih agree.system ?_
    rw [course, Outcome.behind, ended] at apart
    exact apart_tail apart

end Deed

namespace Preload

theorem taken_of_twins {target : Target} (twins : System.Twins hidden first second) (source : Path)
    (shown : ∀ location, target = .file location → ¬hidden location) (reader : Reader) :
    taken source target reader first = taken source target reader second := by
  have content : first.content target = second.content target := by
    cases target with
    | null => rfl
    | file location => exact twins.files.content location (shown location rfl)
  rw [taken, taken, content, twins.similar.fault?]

theorem agree_applyLines {source : Path} {target : Target} {steps number : Nat} {reader : Reader}
    (twins : System.Twins hidden first second)
    (shown : ∀ location, target = .file location → ¬hidden location)
    (apart : Deed.Apart hidden root first (Deed.course root display (deedsFrom source.render number
      (reached source target root display steps number reader first)) first)) :
    (applyLines source target root display steps number reader first).Agree hidden
      (applyLines source target root display steps number reader second) := by
  -- Both runs take the same line, as the preload file is not hidden.
  induction steps generalizing number reader first second with
  | zero => exact ⟨rfl, rfl, rfl, twins⟩
  | succ steps ih =>
    rw [reached_of_taken] at apart
    rw [applyLines_of_taken, applyLines_of_taken, ← taken_of_twins twins source shown reader]
    rcases turn : taken source target reader first with result | ⟨raw, rest⟩
    · exact ⟨rfl, rfl, rfl, twins⟩
    · rw [turn] at apart
      dsimp only at apart ⊢
      rw [deedsFrom_cons] at apart
      rw [applyLine_eq] at apart ⊢
      cases asked : deed? source.render number raw with
      | none =>
        rw [asked] at apart
        rw [Action.success_also]
        exact ih twins apart
      | some deed =>
        rw [asked] at apart
        have agree : (deed.act root display first).Agree hidden (deed.act root display second) :=
          Deed.agree_act twins (apart _ List.mem_cons_self)
        refine Action.agree_also agree fun status ended => ih agree.system ?_
        rw [Option.toList_some, List.singleton_append, Deed.course] at apart
        simp only [Outcome.behind, ended] at apart
        exact Deed.apart_tail apart

theorem agree_closing {α : Type} (path : Path) {action : Action α}
    (agree : (action first).Agree hidden (action second)) :
    ((closing path action) first).Agree hidden ((closing path action) second) := by
  unfold closing
  dsimp only
  rw [agree.system.similar.fault?]
  cases (action second).system.fault? .closing path with
  | none => exact agree
  | some errno => exact ⟨rfl, agree.out, agree.err, agree.system⟩

theorem agree_apply (twins : System.Twins hidden first second) {source : Path}
    (shown : first.Apart hidden source)
    (apart : Deed.Apart hidden root first
      (Deed.course root display (deeds source root display first) first)) :
    (apply source root display first).Agree hidden (apply source root display second) := by
  unfold apply
  unfold deeds at apart
  rw [Action.get_bind, Action.get_bind, ← twins.similar.openExisting]
  rcases opened : first.openExisting source with (_ | errno) | target
  · exact ⟨rfl, rfl, rfl, twins⟩
  · have told : (Deed.act root display (.unopened source errno) first).Agree hidden
        (Deed.act root display (.unopened source errno) second) := Deed.agree_act twins nofun
    exact told
  · rw [opened] at apart
    dsimp only at apart ⊢
    have visible : ∀ location, target = .file location → ¬hidden location :=
      fun location same => shown location (opened.trans (congrArg Except.ok same))
    rw [← twins.content shown opened]
    exact agree_closing source (agree_applyLines twins visible apart)

end Preload

theorem Survey.within_of_log (system : System) (log : Option LogStream) (levels : Nat)
    (path : Path) :
    within { system with log } levels path = within system levels path := by
  induction levels generalizing path with
  | zero => rfl
  | succ levels ih =>
    rw [within_succ, within_succ]
    have listed : System.list { system with log } path = system.list path := rfl
    have found : foundAt { system with log } levels path = foundAt system levels path := by
      funext name
      have inspected : System.inspect { system with log } (path.child name.text) =
          system.inspect (path.child name.text) := rfl
      simp only [foundAt, inspected, ih]
    rw [listed, found]

theorem Listing.agree_displayAll (twins : System.Twins hidden first second)
    (same : Survey.below first root = Survey.below second root)
    (apart : Deed.Apart hidden root first
      (Deed.course root display (deeds root first) first)) :
    (displayAll root display root first).Agree hidden (displayAll root display root second) := by
  cases nul : root.hasNul with
  | true =>
    simp only [displayAll, nul, if_true]
    exact ⟨rfl, rfl, rfl, twins⟩
  | false =>
    have deeds : deeds root second = deeds root first := by rw [deeds, deeds, same]
    rw [displayAll_eq_all nul, displayAll_eq_all nul, deeds]
    exact Deed.agree_all twins apart

namespace Command

variable {program : Text} {config : Config}

theorem agree_request (twins : System.Twins hidden first second) (arguments : List Text)
    (below : Survey.below first config.root = Survey.below second config.root)
    (shown : ∀ source ∈ source? config arguments, first.Apart hidden source)
    (apart : Deed.Apart hidden config.root first (Deed.course config.root display
      (requestDeeds program config display arguments first) first)) :
    (request program config display arguments first).Agree hidden
      (request program config display arguments second) := by
  rcases request_kinds program config display arguments with
    ⟨source, asked, same, deeds⟩ | ⟨same, deeds⟩ | ⟨known, change, same, deeds⟩
  · rw [deeds] at apart
    rw [same]
    exact Action.agree_map _ (Preload.agree_apply twins (shown source asked) apart)
  · rw [deeds] at apart
    rw [same]
    exact Listing.agree_displayAll twins below apart
  · rw [deeds] at apart
    rw [same]
    exact Action.agree_map change (Deed.agree_all twins apart)

/-- Two logs, be they off, working or failing, that no path leads to which the run opens: it has the
same result, the same output and the same effect on every other file. -/
theorem run_unseen (program : Text) (config : Config) (arguments : List Text) (system : System)
    (one other : Option LogStream)
    (apart : ∀ path ∈ opened program config arguments { system with log := one }, ∀ location,
      system.openExisting path = .ok (.file location) →
        ¬LogStream.IsOn one location ∧ ¬LogStream.IsOn other location) :
    let first := run program config arguments { system with log := one }
    let second := run program config arguments { system with log := other }
    first.result = second.result ∧ first.out = second.out ∧ first.err = second.err ∧
      FileSystem.SameShape first.system.files second.system.files ∧
      ∀ location, ¬LogStream.IsOn one location → ¬LogStream.IsOn other location →
        first.system.files.content location = second.system.files.content location := by
  intro first second
  have twins : System.Twins (fun location => LogStream.IsOn one location ∨
      LogStream.IsOn other location) { system with log := one } { system with log := other } :=
    ⟨.refl _ system.files, rfl, fun _ => .inl, fun _ => .inr⟩
  have shown : ∀ path ∈ opened program config arguments { system with log := one },
      System.Apart (fun location => LogStream.IsOn one location ∨ LogStream.IsOn other location)
        { system with log := one } path :=
    fun path member location leads => not_or.mpr (apart path member location leads)
  have agree : first.Agree (fun location => LogStream.IsOn one location ∨
      LogStream.IsOn other location) second := by
    by_cases given : arguments = []
    · simp only [first, second, given, run, usage_eq]
      exact ⟨rfl, rfl, rfl, twins⟩
    · simp only [first, second, run_eq_request program config given]
      refine agree_request twins (asked arguments) ?_ ?_ ?_
      · exact (Survey.within_of_log system one _ config.root).trans
          (Survey.within_of_log system other _ config.root).symm
      · intro source asks
        exact shown source (List.mem_append_left _ (Option.mem_toList.mpr asks))
      · intro step member path opens
        refine shown path (List.mem_append_right _ (List.mem_filterMap.mpr ⟨step, ?_, opens⟩))
        rw [course, deeds, if_neg given]
        exact member
  exact ⟨agree.result, agree.out, agree.err, agree.system.files.shape,
    fun location first second => agree.system.files.content location (not_or.mpr ⟨first, second⟩)⟩

end Command

namespace Sample

def audit : Name := ⟨"audit".toList, by decide⟩

/-- One key beside the file of the audit log, and a device without space. -/
def audited : System where
  files := ⟨[([keys], .directory), ([keys, one], .file []), ([audit], .file [])], []⟩
  faults := [⟨"/dev/full".text, .flushing, .noSpace⟩]
  log := some ⟨⟨.relative, [audit.text]⟩, .file [audit], none⟩
  clock := ⟨"noon".text, ["later".text]⟩

def toFull : LogStream := ⟨⟨.root, ["dev".text, "full".text]⟩, .null, none⟩

def writing : List Text := ["-w".text, "one=2".text, "two=3".text]

end Sample

namespace Command

open Sample

theorem run_unseen_full :
    opened "sysctl".text keyed writing audited =
        [⟨.relative, [keys.text, one.text]⟩, ⟨.relative, [keys.text, "two".text]⟩] ∧
      audited.openExisting ⟨.relative, [keys.text, one.text]⟩ = .ok (.file [keys, one]) ∧
      audited.openExisting ⟨.relative, [keys.text, "two".text]⟩ = .error (.errno .notFound) ∧
      (run "sysctl".text keyed writing audited).system.files.content [keys, one] =
        (run "sysctl".text keyed writing
          { audited with log := some toFull }).system.files.content [keys, one] := by
  have paths : opened "sysctl".text keyed writing audited =
      [⟨.relative, [keys.text, one.text]⟩, ⟨.relative, [keys.text, "two".text]⟩] := by decide
  have there : audited.openExisting ⟨.relative, [keys.text, one.text]⟩ =
      .ok (.file [keys, one]) := by decide
  have missing : audited.openExisting ⟨.relative, [keys.text, "two".text]⟩ =
      .error (.errno .notFound) := by decide
  refine ⟨paths, there, missing, ?_⟩
  refine (run_unseen "sysctl".text keyed writing audited audited.log (some toFull)
    ?_).2.2.2.2 [keys, one] (by decide) (by decide)
  intro path member location leads
  rw [paths] at member
  rcases List.mem_cons.mp member with rfl | later
  · rw [there] at leads
    cases leads
    decide
  · rw [List.mem_singleton.mp later, missing] at leads
    cases leads

end Command

end Tunables
