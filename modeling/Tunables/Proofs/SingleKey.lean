import Tunables.Access
import Tunables.Proofs.Following
import Tunables.Proofs.Outcomes

namespace Tunables

namespace FileSystem

theorem content_write_of_ne (files : FileSystem) {location other : Location} (content : Bytes)
    (different : other ≠ location) :
    (files.write location content).content other = files.content other := by
  simp only [FileSystem.content, find?_write, different]
  cases files.find? other with
  | none => rfl
  | some entry => cases entry <;> rfl

theorem content_write_self {files : FileSystem} {location : Location} {before : Bytes}
    (content : Bytes) (file : files.find? location = some (.file before)) :
    (files.write location content).content location = content := by
  simp [FileSystem.content, find?_write, file, Entry.overwrite]

end FileSystem

def Target.place : Target → Place
  | .file location => .file location
  | .null => .null

namespace System

/-- The same paths lead to the same places, and the same operations are bound to fail. -/
structure Similar (first second : System) : Prop where
  files : FileSystem.SameShape first.files second.files
  faults : first.faults = second.faults

theorem Similar.refl (system : System) : Similar system system := ⟨.refl _, rfl⟩

theorem Similar.trans {first second third : System} (before : Similar first second)
    (behind : Similar second third) : Similar first third :=
  ⟨before.files.trans behind.files, before.faults.trans behind.faults⟩

theorem Similar.fault? {first second : System} (similar : Similar first second)
    (operation : Operation) (path : Path) :
    first.fault? operation path = second.fault? operation path := by
  simp only [System.fault?, similar.faults]

theorem Similar.openExisting {first second : System} (similar : Similar first second)
    (path : Path) : first.openExisting path = second.openExisting path := by
  simp only [System.openExisting, similar.fault?, Place.ofPath_eq_of_sameShape similar.files]

theorem place_of_openExisting {system : System} {path : Path} {target : Target}
    (opened : system.openExisting path = .ok target) :
    Place.ofPath system.files path = .ok target.place := by
  unfold System.openExisting at opened
  split at opened
  · cases opened
  split at opened
  · cases opened
  split at opened <;> cases opened
  · assumption
  · assumption

theorem openExisting_eq_abort_iff {system : System} {path : Path} {reason : Abort} :
    system.openExisting path = .error (.abort reason) ↔
      reason = .embeddedNul ∧ path.hasNul = true := by
  unfold System.openExisting
  cases path.hasNul with
  | true => simp [eq_comm]
  | false =>
    simp only [Bool.false_eq_true, if_false, and_false, iff_false]
    split
    · simp
    · split <;> simp

theorem openExisting_ne_abort {path : Path} (plain : path.hasNul = false) (system : System)
    (reason : Abort) : system.openExisting path ≠ .error (.abort reason) :=
  fun refused =>
    Bool.false_ne_true (plain.symm.trans (openExisting_eq_abort_iff.mp refused).2)

/-- What stays throughout a run: the shape of the files, what is bound to fail, and what the log is
open on. -/
structure Continues (before after : System) : Prop where
  similar : Similar before after
  log : after.log.map (·.target) = before.log.map (·.target)

theorem Continues.refl (system : System) : Continues system system := ⟨.refl system, rfl⟩

theorem Continues.trans {first second third : System} (before : Continues first second)
    (behind : Continues second third) : Continues first third :=
  ⟨before.similar.trans behind.similar, behind.log.trans before.log⟩

theorem Continues.unlogged {before after : System} (continues : Continues before after)
    (unlogged : before.log = none) : after.log = none :=
  Option.map_eq_none_iff.mp (continues.log.trans (Option.map_eq_none_iff.mpr unlogged))

theorem similar_replace (system : System) (target : Target) (content : Bytes) :
    Similar system (system.replace target content) := by
  cases target with
  | file location => exact ⟨FileSystem.sameShape_write _ _ _, rfl⟩
  | null => exact .refl _

theorem log_replace (system : System) (target : Target) (content : Bytes) :
    (system.replace target content).log = system.log := by
  cases target <;> rfl

theorem continues_replace (system : System) (target : Target) (content : Bytes) :
    Continues system (system.replace target content) :=
  ⟨similar_replace system target content, congrArg _ (log_replace system target content)⟩

theorem content_replace_of_ne (system : System) {target other : Target} (content : Bytes)
    (different : other ≠ target) : (system.replace target content).content other =
      system.content other := by
  cases target with
  | null => rfl
  | file location =>
    cases other with
    | null => rfl
    | file other =>
      exact FileSystem.content_write_of_ne _ _ fun same => different (congrArg Target.file same)

theorem Similar.refusal? {first second : System} (similar : Similar first second) (path : Path)
    (failure : Option Errno) : first.refusal? path failure = second.refusal? path failure := by
  simp only [System.refusal?, similar.fault?]

theorem Similar.loss? {first second : System} (similar : Similar first second) (path : Path) :
    first.loss? path = second.loss? path := by
  simp only [System.loss?, similar.fault?]

theorem fault?_of_faultless {system : System} (faultless : system.faults = [])
    (operation : Operation) (path : Path) : system.fault? operation path = none := by
  simp [System.fault?, faultless]

theorem readFile_eq_ok_iff {system : System} {path : Path} {content : Bytes} :
    system.readFile path = .ok content ↔
      ∃ target, system.openExisting path = .ok target ∧
        system.refusal? path (system.fault? .reading path) = none ∧
        system.content target = content := by
  unfold readFile
  cases system.openExisting path with
  | error trouble => simp
  | ok target => cases refused : system.refusal? path (system.fault? .reading path) <;> simp

theorem readFile_of_faultless {system : System} {path : Path} {target : Target}
    (faultless : system.faults = []) (opened : system.openExisting path = .ok target) :
    system.readFile path = .ok (system.content target) := by
  refine readFile_eq_ok_iff.mpr ⟨target, opened, ?_, rfl⟩
  simp only [refusal?, fault?_of_faultless faultless, Option.or_none]

theorem ofPath_of_look {system : System} {path : Path} {place : Place}
    (looked : system.look path = .ok place) : Place.ofPath system.files path = .ok place := by
  unfold look at looked
  split at looked
  · cases looked
  · exact looked

theorem look_of_inspect {system : System} {path : Path} {kind : Bool}
    (inspected : system.inspect path = .ok kind) : ∃ place, system.look path = .ok place := by
  unfold inspect at inspected
  cases looked : system.look path with
  | error errno => simp [looked] at inspected
  | ok place => exact ⟨place, rfl⟩

theorem openExisting_of_inspect {system : System} {path : Path} (faultless : system.faults = [])
    (inspected : system.inspect path = .ok false) :
    ∃ target, system.openExisting path = .ok target := by
  simp only [inspect, look, fault?_of_faultless faultless] at inspected
  simp only [System.openExisting, fault?_of_faultless faultless]
  cases led : Place.ofPath system.files path with
  | error errno => simp [led] at inspected
  | ok place =>
    rw [Place.hasNul_of_ofPath led]
    cases place with
    | file location => exact ⟨.file location, rfl⟩
    | null => exact ⟨.null, rfl⟩
    | directory location => simp [led] at inspected
    | absent location => simp [led] at inspected

theorem writeFile_system (system : System) (path : Path) (text : Text) :
    (system.writeFile path text).2 =
      match system.openExisting path with
      | .error _ => system
      | .ok target => system.replace target (system.left path text) := by
  unfold writeFile
  cases system.openExisting path <;> rfl

theorem finished_of_stray {text : Text} (stray : text.hasStray = true) (system : System)
    (path : Path) :
    ∃ bad, Utf8.encode? text = .error bad ∧ system.left path text = [] ∧
      system.finished path text =
        match system.fault? .closing path with
        | some errno => .error (.errno errno)
        | none => .error (.abort (.unencodable bad)) := by
  obtain ⟨bad, refused⟩ := Utf8.exists_unencodable stray
  refine ⟨bad, refused, by rw [left, refused], ?_⟩
  cases closes : system.fault? .closing path <;> simp only [finished, refused, closes]

theorem left_of_whole {text : Text} (whole : text.hasStray = false) (system : System)
    (path : Path) :
    system.left path text = if (system.loss? path).isSome then [] else Utf8.encode text := by
  rw [left, Utf8.encode?_of_whole whole]

theorem left_eq (system : System) (path : Path) (text : Text) :
    system.left path text =
      if text.hasStray ∨ (system.loss? path).isSome then [] else Utf8.encode text := by
  cases stray : text.hasStray with
  | true =>
    obtain ⟨bad, refused⟩ := Utf8.exists_unencodable stray
    rw [left, refused, if_pos (.inl rfl)]
  | false => simp only [left_of_whole stray, Bool.false_eq_true, false_or]

theorem finished_of_whole {text : Text} (whole : text.hasStray = false) (system : System)
    (path : Path) :
    system.finished path text =
      match system.refusal? path (system.loss? path) with
      | some errno => .error (.errno errno)
      | none => .ok () := by
  cases refused : system.refusal? path (system.loss? path) <;>
    simp only [finished, Utf8.encode?_of_whole whole, refused]

theorem whole_of_finished {system : System} {path : Path} {text : Text}
    (finished : system.finished path text = .ok ()) :
    text.hasStray = false ∧ system.left path text = Utf8.encode text := by
  cases whole : text.hasStray with
  | true =>
    obtain ⟨bad, -, -, refused⟩ := finished_of_stray whole system path
    rw [refused] at finished
    split at finished <;> cases finished
  | false =>
    refine ⟨rfl, ?_⟩
    rw [finished_of_whole whole] at finished
    cases refused : system.refusal? path (system.loss? path) with
    | some errno =>
      rw [refused] at finished
      cases finished
    | none =>
      rw [left_of_whole whole, (Option.or_eq_none_iff.mp refused).2]
      rfl

theorem finished_eq_abort_iff {system : System} {path : Path} {text : Text} {reason : Abort} :
    system.finished path text = .error (.abort reason) ↔
      ∃ bad, Utf8.encode? text = .error bad ∧ system.fault? .closing path = none ∧
        reason = .unencodable bad := by
  unfold finished
  cases Utf8.encode? text with
  | error bad => cases system.fault? .closing path <;> simp [eq_comm]
  | ok content => cases system.refusal? path (system.loss? path) <;> simp

theorem writeFile_eq_ok_iff {system : System} {path : Path} {text : Text} :
    (system.writeFile path text).1 = .ok () ↔
      ∃ target, system.openExisting path = .ok target ∧ system.finished path text = .ok () := by
  unfold writeFile
  cases system.openExisting path <;> simp

theorem writeFile_eq_abort_iff {system : System} {path : Path} {text : Text} {reason : Abort} :
    (system.writeFile path text).1 = .error (.abort reason) ↔
      system.openExisting path = .error (.abort reason) ∨
      ∃ target, system.openExisting path = .ok target ∧
        system.finished path text = .error (.abort reason) := by
  unfold writeFile
  cases system.openExisting path <;> simp

def recorded (event : Audit.Event) (system : System) : System :=
  system.logEvent event.level event.name event.fields

theorem appendLog_of_unlogged {system : System} (line : Bytes) (unlogged : system.log = none) :
    system.appendLog line = system := by
  simp only [appendLog, unlogged]

theorem appendLog_keeps (system : System) (line : Bytes) :
    Continues system (system.appendLog line) ∧
      ∀ other : Target, other ∉ system.log.map (·.target) →
        (system.appendLog line).content other = system.content other := by
  cases logged : system.log with
  | none =>
    rw [appendLog_of_unlogged line logged]
    exact ⟨.refl system, fun _ _ => rfl⟩
  | some stream =>
    simp only [appendLog, logged]
    split
    · exact ⟨.refl system, fun _ _ => rfl⟩
    split
    · exact ⟨⟨⟨.refl _, rfl⟩, congrArg (Option.map (·.target)) logged.symm⟩,
        fun other _ => by cases other <;> rfl⟩
    · refine ⟨continues_replace system _ _, fun other elsewhere => ?_⟩
      apply content_replace_of_ne
      rintro rfl
      exact elsewhere rfl

@[simp] theorem log_tick (system : System) : system.tick.log = system.log := rfl

@[simp] theorem fault?_tick (system : System) (operation : Operation) (path : Path) :
    system.tick.fault? operation path = system.fault? operation path := rfl

theorem continues_tick (system : System) : Continues system system.tick := ⟨⟨.refl _, rfl⟩, rfl⟩

theorem content_tick (system : System) (target : Target) :
    system.tick.content target = system.content target := by
  cases target <;> rfl

theorem recorded_of_unlogged {system : System} (event : Audit.Event)
    (unlogged : system.log = none) : system.recorded event = system := by
  simp [recorded, logEvent, unlogged]

theorem recorded_keeps (system : System) (event : Audit.Event) :
    Continues system (system.recorded event) ∧
      ∀ other : Target, other ∉ system.log.map (·.target) →
        (system.recorded event).content other = system.content other := by
  rw [recorded, logEvent]
  split
  · obtain ⟨continues, kept⟩ := appendLog_keeps system.tick _
    exact ⟨(continues_tick system).trans continues,
      fun other elsewhere => (kept other elsewhere).trans (content_tick system other)⟩
  · exact ⟨.refl system, fun _ _ => rfl⟩

theorem writeFile_of_faultless {system : System} {path : Path} {location : Location}
    {text : Text} (faultless : system.faults = [])
    (opened : system.openExisting path = .ok (.file location)) (whole : text.hasStray = false) :
    system.writeFile path text = (.ok (), system.replace (.file location) (Utf8.encode text)) := by
  simp only [writeFile, opened, finished_of_whole whole, left_of_whole whole, refusal?, loss?,
    fault?_of_faultless faultless, Option.or_none, Option.isSome_none, Bool.false_eq_true, if_false]

theorem Similar.writeFile {first second : System} (similar : Similar first second) (path : Path)
    (text : Text) : (first.writeFile path text).1 = (second.writeFile path text).1 := by
  unfold System.writeFile
  rw [similar.openExisting]
  cases second.openExisting path with
  | error trouble => rfl
  | ok target => simp only [System.finished, similar.fault?, similar.refusal?, similar.loss?]

theorem continues_writeFile (system : System) (path : Path) (text : Text) :
    Continues system (system.writeFile path text).2 := by
  rw [writeFile_system]
  cases system.openExisting path with
  | error trouble => exact .refl system
  | ok target => exact continues_replace system target _

theorem content_writeFile_of_ne {system : System} {path : Path} {other : Target}
    (text : Text) (elsewhere : system.openExisting path ≠ .ok other) :
    (system.writeFile path text).2.content other = system.content other := by
  rw [writeFile_system]
  cases opened : system.openExisting path with
  | error trouble => rfl
  | ok target =>
    exact content_replace_of_ne system _ fun same => elsewhere (same ▸ opened)

end System

namespace Access

variable {system : System}

theorem log_eq (event : Audit.Event) (system : System) :
    Audit.log event system = ⟨.ok (), [], [], system.recorded event⟩ := rfl

def reported (failure : Failure) (system : System) : Outcome Status :=
  ⟨.ok failure.status, [], failure.message ++ [.char '\n'], system⟩

theorem report_eq (failure : Failure) (system : System) :
    report failure system = reported failure system :=
  Action.warn_pure failure.message failure.status system

theorem readValues_eq_ok_iff {root : Path} {key : Text} {lines : List Text} :
    readValues root key system = .ok lines ↔
      key ≠ [] ∧ ∃ content, system.readFile (resolve root key) = .ok content ∧
        Newline.lines (decode content) = lines := by
  unfold readValues
  by_cases empty : key = []
  · simp [empty]
  · rw [if_neg empty]
    cases system.readFile (resolve root key) <;> simp [empty]

theorem readValues_of_faultless {root : Path} {key : Text} {target : Target}
    (faultless : system.faults = []) (filled : key ≠ [])
    (opened : system.openExisting (resolve root key) = .ok target) :
    readValues root key system = .ok (Newline.lines (decode (system.content target))) := by
  exact readValues_eq_ok_iff.mpr
    ⟨filled, _, System.readFile_of_faultless faultless opened, rfl⟩

theorem readValues_ne_abort {root : Path} {key : Text}
    (plain : (resolve root key).hasNul = false) (reason : Abort) :
    readValues root key system ≠ .error (.abort reason) := by
  rw [readValues, System.readFile]
  split
  · simp
  · cases found : system.openExisting (resolve root key) with
    | ok target => cases system.refusal? (resolve root key) _ <;> simp [Halt.ofTrouble]
    | error trouble =>
      cases trouble with
      | abort reason => exact absurd found (System.openExisting_ne_abort plain system reason)
      | errno errno => simp [Halt.ofTrouble]

theorem readSetting_of_ok {root : Path} {key : Text} {lines : List Text} (display : Display)
    (read : readValues root key system = .ok lines) :
    readSetting root display key system =
      ⟨.ok .success, display.format (Key.ofPath key) lines, [], system⟩ := by
  simp [readSetting, bind, Action.bind, Action.get, read, Action.write, Action.pure]

theorem readSetting_outcome (root : Path) (display : Display) (key : Text) (system : System) :
    readSetting root display key system =
      match readValues root key system with
      | .error (.abort reason) => ⟨.error reason, [], [], system⟩
      | .error (.failure failure) =>
        reported failure (system.recorded (.readFailed key failure.message))
      | .ok lines => ⟨.ok .success, display.format (Key.ofPath key) lines, [], system⟩ := by
  rcases read : readValues root key system with (failure | reason) | lines
  · simp [readSetting, bind, Action.bind, Action.get, read, log_eq, report_eq, reported]
  · simp [readSetting, bind, Action.bind, Action.get, read, Action.abort]
  · exact readSetting_of_ok display read

theorem readSetting_of_plain {root : Path} {key : Text}
    (plain : (resolve root key).hasNul = false) (display : Display) (system : System) :
    (∃ lines, readValues root key system = .ok lines ∧
      readSetting root display key system =
        ⟨.ok .success, display.format (Key.ofPath key) lines, [], system⟩) ∨
    ∃ failure, readValues root key system = .error (.failure failure) ∧
      readSetting root display key system =
        reported failure (system.recorded (.readFailed key failure.message)) := by
  rw [readSetting_outcome]
  rcases values : readValues root key system with (failure | reason) | lines
  · exact .inr ⟨failure, rfl, rfl⟩
  · exact absurd values (readValues_ne_abort plain reason)
  · exact .inl ⟨lines, rfl, rfl⟩

theorem readSetting_eq (root : Path) (display : Display) (key : Text)
    (unlogged : system.log = none) :
    readSetting root display key system =
      match readValues root key system with
      | .error (.abort reason) => ⟨.error reason, [], [], system⟩
      | .error (.failure failure) => reported failure system
      | .ok lines => ⟨.ok .success, display.format (Key.ofPath key) lines, [], system⟩ := by
  simp only [readSetting_outcome, System.recorded_of_unlogged _ unlogged]

theorem refuse_eq (text : Text) (failure : Failure) (system : System) :
    refuse text failure system =
      reported failure (system.recorded (.writeFailed text failure.message)) := by
  simp [refuse, log_eq, report_eq, reported, bind, Action.bind]

def written (root : Path) (display : Display) (setting : Setting) (system : System) :
    Outcome Status :=
  let (result, after) := writeValue root setting system
  match result with
  | .error (.abort reason) => ⟨.error reason, [], [], after⟩
  | .error (.failure failure) => reported failure after
  | .ok () =>
    ⟨.ok .success, display.format (Key.ofPath setting.name) [setting.line], [], after⟩

theorem writeValue_system (root : Path) (setting : Setting) (system : System) :
    (writeValue root setting system).2 =
      (system.writeFile (resolve root setting.name)
        setting.line).2 := by
  unfold writeValue
  rcases system.writeFile (resolve root setting.name) setting.line with
    ⟨trouble | _, after⟩ <;> rfl

theorem written_system (root : Path) (display : Display) (setting : Setting) (system : System) :
    (written root display setting system).system =
      (system.writeFile (resolve root setting.name)
        setting.line).2 := by
  rw [← writeValue_system, written]
  rcases writeValue root setting system with ⟨(failure | reason) | _, after⟩ <;> rfl

theorem continues_writeValue (root : Path) (setting : Setting) (system : System) :
    System.Continues system (writeValue root setting system).2 := by
  rw [writeValue_system]
  exact System.continues_writeFile system _ _

theorem writeSetting_outcome (root : Path) (display : Display) (text : Text) (system : System) :
    writeSetting root display text system =
      match Setting.parse text with
      | .error failure =>
        reported failure (system.recorded (.writeFailed text failure.message))
      | .ok setting =>
        match writeValue root setting system with
        | (.error (.abort reason), after) => ⟨.error reason, [], [], after⟩
        | (.error (.failure failure), after) =>
          reported failure (after.recorded (.writeFailed text failure.message))
        | (.ok (), after) =>
          ⟨.ok .success, display.format (Key.ofPath setting.name) [setting.line], [],
            after.recorded (.writeOk setting.name setting.value)⟩ := by
  unfold writeSetting
  cases Setting.parse text with
  | error failure => exact refuse_eq text failure system
  | ok setting =>
    simp only [writeParsed, bind, Action.bind, Action.get]
    rcases writeValue root setting system with ⟨(failure | reason) | _, after⟩
    · simp [Action.set, Action.pure, refuse_eq, reported]
    · rfl
    · simp [Action.set, Action.pure, Action.write, Action.bind, log_eq]

theorem writeSetting_eq (root : Path) (display : Display) (text : Text)
    (unlogged : system.log = none) :
    writeSetting root display text system =
      match Setting.parse text with
      | .error failure => reported failure system
      | .ok setting => written root display setting system := by
  rw [writeSetting_outcome]
  cases Setting.parse text with
  | error failure => exact congrArg (reported failure) (System.recorded_of_unlogged _ unlogged)
  | ok setting =>
    have unlogged' := (continues_writeValue root setting system).unlogged unlogged
    revert unlogged'
    simp only [written]
    rcases writeValue root setting system with ⟨(failure | reason) | _, after⟩ <;>
      intro unlogged' <;> simp only [System.recorded_of_unlogged _ unlogged']

theorem writeSetting_of_opened {root : Path} (display : Display) {setting : Setting}
    {location : Location} (faultless : system.faults = []) (unlogged : system.log = none)
    (parsed : Setting.parse setting.render = .ok setting) (whole : setting.value.hasStray = false)
    (opened : system.openExisting (resolve root setting.name) = .ok (.file location)) :
    writeSetting root display setting.render system =
      ⟨.ok .success, display.format (Key.ofPath setting.name) [setting.line], [],
        system.replace (.file location) (Utf8.encode setting.line)⟩ := by
  rw [writeSetting_eq root display _ unlogged, parsed]
  simp only [written, writeValue,
    System.writeFile_of_faultless faultless opened (setting.hasStray_line.trans whole)]

theorem writeSetting_similar {first second : System} (similar : System.Similar first second)
    (root : Path) (display : Display) (text : Text) :
    (writeSetting root display text first).result =
        (writeSetting root display text second).result ∧
      (writeSetting root display text first).out = (writeSetting root display text second).out ∧
      (writeSetting root display text first).err = (writeSetting root display text second).err := by
  rw [writeSetting_outcome, writeSetting_outcome]
  cases Setting.parse text with
  | error failure => exact ⟨rfl, rfl, rfl⟩
  | ok setting =>
    have same := similar.writeFile (resolve root setting.name)
      setting.line
    dsimp only [writeValue]
    revert same
    rcases first.writeFile _ _ with ⟨(_ | errno) | _, after⟩ <;>
      rcases second.writeFile _ _ with ⟨(_ | other) | _, later⟩ <;> rintro ⟨⟩ <;>
      exact ⟨rfl, rfl, rfl⟩

/-- A value with stray bytes is for a file that can be opened. The file is emptied, and unless
closing it is refused, nothing is reported. -/
def BreaksOff (root : Path) (system : System) (text : Text) : Prop :=
  ∃ setting target, Setting.parse text = .ok setting ∧
    system.openExisting (resolve root setting.name) = .ok target ∧
    setting.value.hasStray = true ∧ system.fault? .closing (resolve root setting.name) = none

theorem breaksOff_of_similar {first second : System} (similar : System.Similar first second)
    {root : Path} {text : Text} : BreaksOff root first text ↔ BreaksOff root second text := by
  simp only [BreaksOff, similar.openExisting, similar.fault?]

theorem writeSetting_of_breaksOff {root : Path} {text : Text} {setting : Setting} {target : Target}
    (parsed : Setting.parse text = .ok setting)
    (opened : system.openExisting (resolve root setting.name) = .ok target)
    (stray : setting.value.hasStray = true)
    (closes : system.fault? .closing (resolve root setting.name) = none) (display : Display) :
    ∃ bad, Utf8.encode? setting.line = .error bad ∧
      writeSetting root display text system =
        ⟨.error (.unencodable bad), [], [], system.replace target []⟩ := by
  obtain ⟨bad, refused, emptied, ended⟩ := System.finished_of_stray
    (setting.hasStray_line.trans stray) system (resolve root setting.name)
  rw [closes] at ended
  refine ⟨bad, refused, ?_⟩
  rw [writeSetting_outcome, parsed]
  simp only [writeValue, System.writeFile, opened, ended, emptied, Halt.ofTrouble]

theorem writeSetting_answered_iff {root : Path} {text : Text}
    (plain : ∀ setting, Setting.parse text = .ok setting →
      (resolve root setting.name).hasNul = false) (display : Display) (system : System) :
    (∃ status, (writeSetting root display text system).result = .ok status) ↔
      ¬BreaksOff root system text := by
  constructor
  · rintro ⟨status, answered⟩ ⟨setting, target, parsed, opened, stray, closes⟩
    obtain ⟨bad, -, broken⟩ := writeSetting_of_breaksOff parsed opened stray closes display
    rw [broken] at answered
    cases answered
  · intro whole
    rw [writeSetting_outcome]
    cases parsed : Setting.parse text with
    | error failure => exact ⟨_, rfl⟩
    | ok setting =>
      have answers : ∀ reason, (system.writeFile (resolve root setting.name) setting.line).1 ≠
          .error (.abort reason) := by
        intro reason broken
        rcases System.writeFile_eq_abort_iff.mp broken with unopened | ⟨target, opened, unfinished⟩
        · exact System.openExisting_ne_abort (plain setting parsed) system reason unopened
        · obtain ⟨bad, refused, closes, -⟩ := System.finished_eq_abort_iff.mp unfinished
          refine whole ⟨setting, target, parsed, opened, ?_, closes⟩
          rw [← setting.hasStray_line]
          exact Utf8.hasStray_of_unencodable refused
      dsimp only [writeValue]
      revert answers
      rcases system.writeFile _ _ with ⟨(reason | errno) | _, after⟩ <;> intro answers
      · exact absurd rfl (answers reason)
      · exact ⟨_, rfl⟩
      · exact ⟨_, rfl⟩

theorem writeSetting_of_nul {root : Path} {text : Text} {setting : Setting}
    (parsed : Setting.parse text = .ok setting)
    (nul : (resolve root setting.name).hasNul = true) (display : Display) (system : System) :
    writeSetting root display text system = ⟨.error .embeddedNul, [], [], system⟩ := by
  have refused : system.openExisting (resolve root setting.name) =
      .error (.abort .embeddedNul) := System.openExisting_eq_abort_iff.mpr ⟨rfl, nul⟩
  rw [writeSetting_outcome, parsed]
  simp only [writeValue, System.writeFile, refused, Halt.ofTrouble]

theorem writeSetting_keeps (root : Path) (display : Display) (text : Text) (system : System) :
    System.Continues system (writeSetting root display text system).system ∧
      ∀ other : Target, other ∉ system.log.map (·.target) →
        (∀ setting, Setting.parse text = .ok setting →
          system.openExisting (resolve root setting.name) ≠ .ok other) →
        (writeSetting root display text system).system.content other = system.content other := by
  rw [writeSetting_outcome]
  cases parsed : Setting.parse text with
  | error failure =>
    obtain ⟨continues, kept⟩ :=
      system.recorded_keeps (.writeFailed text failure.message)
    exact ⟨continues, fun other elsewhere _ => kept other elsewhere⟩
  | ok setting =>
    have continues := continues_writeValue root setting system
    have kept : ∀ other : Target, system.openExisting (resolve root setting.name) ≠ .ok other →
        (writeValue root setting system).2.content other = system.content other := by
      intro other elsewhere
      rw [writeValue_system]
      exact System.content_writeFile_of_ne _ elsewhere
    have told : ∀ event, System.Continues system
          ((writeValue root setting system).2.recorded event) ∧
        ∀ other : Target, other ∉ system.log.map (·.target) →
          system.openExisting (resolve root setting.name) ≠ .ok other →
          ((writeValue root setting system).2.recorded event).content other =
            system.content other := by
      intro event
      obtain ⟨later, recorded⟩ := (writeValue root setting system).2.recorded_keeps event
      refine ⟨continues.trans later, fun other elsewhere unopened => ?_⟩
      exact (recorded other (continues.log ▸ elsewhere)).trans (kept other unopened)
    dsimp only
    revert continues kept told
    rcases writeValue root setting system with ⟨(failure | reason) | _, after⟩ <;>
      intro continues kept told
    · obtain ⟨later, same⟩ := told (.writeFailed text failure.message)
      exact ⟨later, fun other elsewhere unopened => same other elsewhere (unopened setting rfl)⟩
    · exact ⟨continues, fun other _ unopened => kept other (unopened setting rfl)⟩
    · obtain ⟨later, same⟩ := told (.writeOk setting.name setting.value)
      exact ⟨later, fun other elsewhere unopened => same other elsewhere (unopened setting rfl)⟩

end Access

end Tunables
