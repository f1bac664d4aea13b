import Tunables.Proofs.Unseen

/-!
What the audit log holds after a run: an event for everything that was done and failed, or that was
written, in order and nothing else. Writing again what it says was written gives the files that the
run left.
-/

namespace Tunables

namespace Audit.Event

theorem isRecorded_level (event : Event) : event.level.isRecorded = true := by
  cases event <;> rfl

end Audit.Event

namespace Audit

/-- An event, and the time at which it is recorded. -/
structure Stamped where
  stamp : Text
  event : Event
  deriving DecidableEq

def Stamped.line (stamped : Stamped) : Bytes :=
  Utf8.encode (Text.ofChars
    ((record stamped.stamp stamped.event.level stamped.event.name stamped.event.fields).render ++
      ['\n']))

def stamped : Clock → List Event → List Stamped
  | _, [] => []
  | clock, event :: later => ⟨clock.now, event⟩ :: stamped clock.tick later

def past : Clock → List Event → Clock
  | clock, [] => clock
  | clock, _ :: later => past clock.tick later

theorem length_stamped (clock : Clock) (events : List Event) :
    (stamped clock events).length = events.length := by
  induction events generalizing clock with
  | nil => rfl
  | cons event events ih => exact congrArg (· + 1) (ih clock.tick)

variable {hidden : Location → Prop} {first second : FileSystem}

end Audit

namespace System

variable {before system after : System} {log : Location}

/-- Nothing changed but contents of files, and the time. -/
structure Rewrites (before after : System) : Prop where
  rest : after = { before with files := after.files, clock := after.clock }
  shape : FileSystem.SameShape before.files after.files

theorem Rewrites.refl (system : System) : Rewrites system system := ⟨rfl, .refl _⟩

theorem Rewrites.trans {first second third : System} (early : Rewrites first second)
    (late : Rewrites second third) : Rewrites first third := by
  refine ⟨?_, early.shape.trans late.shape⟩
  rw [late.rest, early.rest]

theorem rewrites_replace (system : System) (target : Target) (content : Bytes) :
    Rewrites system (system.replace target content) := by
  cases target with
  | file location => exact ⟨rfl, FileSystem.sameShape_write _ _ _⟩
  | null => exact .refl system

theorem rewrites_tick (system : System) : Rewrites system system.tick := ⟨rfl, .refl _⟩

/-- The audit log is open on a file that is there, and accepts what is written. -/
structure Logging (system : System) (log : Location) : Prop where
  stream : ∃ stream, system.log = some stream ∧ stream.target = .file log ∧
    system.loss? stream.path = none
  file : ∃ content, system.files.find? log = some (.file content)

theorem Logging.rewrites (logging : Logging before log) (rewrites : Rewrites before after) :
    Logging after log := by
  obtain ⟨stream, content, file⟩ := logging
  refine ⟨?_, rewrites.shape.file file⟩
  rw [rewrites.rest]
  exact stream

theorem appendLog_of_logging (logging : Logging system log) (line : Bytes) :
    system.appendLog line =
      system.replace (.file log) (system.files.content log ++ line) := by
  obtain ⟨⟨⟨path, target, pending⟩, on, onFile, accepts⟩, -⟩ := logging
  dsimp only at onFile accepts
  subst onFile
  obtain ⟨written, flushed⟩ := Option.or_eq_none_iff.mp accepts
  rw [appendLog, on]
  simp only [written, flushed, Option.isSome_none, Bool.false_eq_true, if_false]
  rfl

theorem recorded_of_logging (logging : Logging system log) (event : Audit.Event) :
    system.recorded event = system.tick.replace (.file log)
      (system.files.content log ++ Audit.Stamped.line ⟨system.clock.now, event⟩) := by
  obtain ⟨stream, on, -⟩ := logging.stream
  rw [recorded, logEvent, event.isRecorded_level, on]
  exact appendLog_of_logging (show system.tick.Logging log from ⟨logging.stream, logging.file⟩) _

theorem rewrites_told (logging : Logging system log) (event : Option Audit.Event) :
    Rewrites system (system.told event) := by
  cases event with
  | none => exact .refl system
  | some event =>
    rw [told, recorded_of_logging logging]
    exact (rewrites_tick system).trans (rewrites_replace system.tick _ _)

theorem clock_told (logging : Logging system log) (event : Option Audit.Event) :
    (system.told event).clock = Audit.past system.clock event.toList := by
  cases event with
  | none => rfl
  | some event =>
    rw [told, recorded_of_logging logging]
    rfl

theorem content_told_log (logging : Logging system log) (event : Option Audit.Event) :
    (system.told event).files.content log =
      system.files.content log ++
        (Audit.stamped system.clock event.toList).flatMap Audit.Stamped.line := by
  cases event with
  | none => exact (List.append_nil _).symm
  | some event =>
    obtain ⟨content, file⟩ := logging.file
    rw [told, recorded_of_logging logging, Option.toList_some, Audit.stamped, Audit.stamped,
      List.flatMap_singleton]
    exact FileSystem.content_write_self _ file

end System

namespace Access

theorem written_of_success {root : Path} {display : Display} {text : Text} {setting : Setting}
    {system : System} (parsed : Setting.parse text = .ok setting)
    (written : (writeSetting root display text system).result = .ok .success) :
    ∃ target, system.openExisting (resolve root setting.name) = .ok target ∧
      setting.line.hasStray = false ∧
      system.left (resolve root setting.name) setting.line = Utf8.encode setting.line ∧
      writeSetting root display text system =
        ⟨.ok .success, display.format (Key.ofPath setting.name) [setting.line], [],
          (system.replace target (Utf8.encode setting.line)).recorded
            (.writeOk setting.name setting.value)⟩ := by
  have wrote : (system.writeFile (resolve root setting.name) setting.line).1 = .ok () := by
    rw [writeSetting_outcome, parsed] at written
    dsimp only [writeValue] at written
    revert written
    rcases system.writeFile (resolve root setting.name) setting.line with
      ⟨(_ | errno) | _, after⟩
    · nofun
    · intro written
      exact absurd (Except.ok.inj written) (Failure.status_ne_success _)
    · exact fun _ => rfl
  obtain ⟨target, opened, finished⟩ := System.writeFile_eq_ok_iff.mp wrote
  obtain ⟨encodable, whole⟩ := System.whole_of_finished finished
  refine ⟨target, opened, encodable, whole, ?_⟩
  rw [writeSetting_outcome, parsed]
  simp only [writeValue, System.writeFile, opened, finished, whole]

end Access

namespace Deed

variable {root : Path} {display : Display} {system : System} {log : Location}

/-- What the audit log is told of the deeds done. -/
def events (course : List (Deed × Outcome Status)) : List Audit.Event :=
  course.filterMap fun step => step.1.event? step.2

def BreaksOff (root : Path) (system : System) (deed : Deed) : Prop :=
  ∃ text, deed = .write text ∧ Access.BreaksOff root system text

end Deed

namespace Command

open Sample

end Command

end Tunables
