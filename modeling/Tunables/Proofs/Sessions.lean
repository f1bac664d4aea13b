import Mathlib.Data.List.Induction
import Tunables.Config.Parse
import Tunables.Proofs.Additions
import Tunables.Proofs.SingleKey

/-!
The audit log in the course of a program that configures it again and again and tells it events in
between. Configuring leaves the log open or off, unless the stream of before cannot be closed or the
new path has a NUL.
-/

namespace Tunables

namespace System

/-- No file has lost or gained anything. Empty files and directories may be new. -/
structure Keeps (before after : System) : Prop where
  faults : after.faults = before.faults
  content : ∀ location, after.files.content location = before.files.content location

theorem Keeps.refl (system : System) : Keeps system system := ⟨rfl, fun _ => rfl⟩

theorem Keeps.trans {first second third : System} (before : Keeps first second)
    (behind : Keeps second third) : Keeps first third :=
  ⟨behind.faults.trans before.faults,
    fun location => (behind.content location).trans (before.content location)⟩

theorem keeps_makeParents (system : System) (path : Path) :
    Keeps system { system with files := (system.files.makeParents path).1 } :=
  ⟨rfl, FileSystem.content_makeParents system.files path⟩

variable {system after : System} {path : Path}

def closesLog (system : System) : Bool :=
  match system.log with
  | none => true
  | some stream => stream.pending.isNone && (system.fault? .closing stream.path).isNone

theorem closeLog_system (system : System) : system.closeLog.2 = { system with log := none } := by
  obtain ⟨files, faults, log, clock⟩ := system
  cases log with
  | none => rfl
  | some stream =>
    simp only [closeLog]
    split
    · rfl
    · split <;> rfl

theorem closeLog_result_iff (system : System) :
    system.closeLog.1 = .ok () ↔ system.closesLog = true := by
  unfold closeLog closesLog
  cases system.log with
  | none => exact iff_of_true rfl rfl
  | some stream =>
    dsimp only
    cases stream.pending with
    | some errno => simp
    | none => cases system.fault? .closing stream.path <;> simp

theorem openLog_eq_abort_iff {reason : Abort} :
    system.openLog path = .error (.abort reason) ↔
      reason = .embeddedNul ∧ path.hasNul = true := by
  unfold openLog
  cases path.hasNul with
  | true => simp [eq_comm]
  | false =>
    simp only [Bool.false_eq_true, if_false, and_false, iff_false]
    split
    · simp
    · split <;> simp

theorem openLog_of_openable (plain : path.hasNul = false)
    (openable : system.fault? .opening path = none) :
    system.openLog path =
      match Place.ofPath system.files path with
      | .error errno => .error (.errno errno)
      | .ok (.file location) => .ok { system with log := some ⟨path, .file location, none⟩ }
      | .ok .null => .ok { system with log := some ⟨path, .null, none⟩ }
      | .ok (.absent location) =>
        .ok { system with
          files := system.files.add location (.file [])
          log := some ⟨path, .file location, none⟩ }
      | .ok (.directory _) => .error (.errno .isDirectory) := by
  unfold openLog
  rcases Place.ofPath system.files path with errno | place
  · simp only [plain, openable, Bool.false_eq_true, if_false]
  · cases place <;> simp only [plain, openable, Bool.false_eq_true, if_false]

theorem openable_of_openLog (opened : system.openLog path = .ok after) :
    path.hasNul = false ∧ system.fault? .opening path = none := by
  have plain : path.hasNul = false := by
    refine Bool.eq_false_iff.mpr fun nul => ?_
    have refused : system.openLog path = .error (.abort .embeddedNul) :=
      openLog_eq_abort_iff.mpr ⟨rfl, nul⟩
    cases opened.symm.trans refused
  refine ⟨plain, ?_⟩
  cases refused : system.fault? .opening path with
  | none => rfl
  | some errno =>
    simp only [openLog, plain, refused] at opened
    cases opened

/-- A log that is open stays as it is when it is opened again, and opening it takes nothing out of
any file. -/
theorem openLog_spec (opened : system.openLog path = .ok after) :
    (∃ target, after.log = some ⟨path, target, none⟩) ∧ after.openLog path = .ok after ∧
      Keeps system after := by
  obtain ⟨plain, openable⟩ := openable_of_openLog opened
  rw [openLog_of_openable plain openable] at opened
  cases led : Place.ofPath system.files path with
  | error errno =>
    rw [led] at opened
    cases opened
  | ok place =>
    rw [led] at opened
    cases place with
    | file location =>
      cases opened
      refine ⟨⟨_, rfl⟩, (openLog_of_openable plain openable).trans ?_, ⟨rfl, fun _ => rfl⟩⟩
      rw [led]
    | null =>
      cases opened
      refine ⟨⟨_, rfl⟩, (openLog_of_openable plain openable).trans ?_, ⟨rfl, fun _ => rfl⟩⟩
      rw [led]
    | absent location =>
      cases opened
      refine ⟨⟨_, rfl⟩, Eq.trans (openLog_of_openable plain ?_) ?_,
        ⟨rfl, FileSystem.content_add (.inr rfl) system.files location⟩⟩
      · exact openable
      · rw [Place.ofPath_add led]
    | directory location => cases opened

/-- Whether a NUL in a path is met. The directories above the path are made first, and where that
fails the path itself is not tried. -/
def meetsNul (system : System) (path : Path) : Bool :=
  path.parent.hasNul || (path.hasNul && (system.files.makeParents path).2.isNone)

theorem log_appendLog {stream : LogStream} (on : system.log = some stream) (line : Bytes) :
    (system.appendLog line).log = some { stream with
      pending :=
        if (system.fault? .writing stream.path).isNone then
          (system.fault? .flushing stream.path).or stream.pending
        else stream.pending } := by
  simp only [appendLog, on]
  cases system.fault? .writing stream.path with
  | some errno => simpa using on
  | none =>
    cases system.fault? .flushing stream.path with
    | some errno => simp
    | none => simpa [log_replace] using on

theorem log_logEvent {stream : LogStream} (on : system.log = some stream)
    (level : Audit.Level) (name : Text) (fields : Audit.Fields) :
    (system.logEvent level name fields).log = some { stream with
      pending :=
        if level.isRecorded && (system.fault? .writing stream.path).isNone then
          (system.fault? .flushing stream.path).or stream.pending
        else stream.pending } := by
  unfold logEvent
  cases level.isRecorded with
  | false => simpa using on
  | true =>
    rw [on]
    exact log_appendLog (show system.tick.log = some stream from on) _

theorem logEvent_of_unlogged (off : system.log = none) (level : Audit.Level) (name : Text)
    (fields : Audit.Fields) : system.logEvent level name fields = system := by
  simp [logEvent, off]

theorem faults_logEvent (system : System) (level : Audit.Level) (name : Text)
    (fields : Audit.Fields) : (system.logEvent level name fields).faults = system.faults := by
  unfold logEvent
  split
  · exact (appendLog_keeps system.tick _).1.similar.faults.symm
  · rfl

end System

namespace Audit

variable {system : System} {path : Path}

/-- How the log stands when it has been configured: off, open at the end of its file, or off with a
warning. -/
inductive Settled : Option Path → System → Text → Prop
  | off {after : System} (off : after.log = none) : Settled none after []
  | opened {after : System} {path : Path} {target : Target}
    (on : after.log = some ⟨path, target, none⟩) (again : after.openLog path = .ok after) :
    Settled (some path) after []
  | refused {after : System} {path refused : Path} {errno : Errno} (off : after.log = none) :
    Settled (some path) after (cannotOpen path errno refused ++ [.char '\n'])

theorem open?_of_meetsNul (off : system.log = none) (nul : system.meetsNul path = true) :
    ∃ after, open? path system = ⟨.error .embeddedNul, [], [], after⟩ ∧ after.log = none ∧
      System.Keeps system after := by
  unfold open?
  cases above : path.parent.hasNul with
  | true => exact ⟨system, rfl, off, .refl system⟩
  | false =>
    have kept := system.keeps_makeParents path
    simp only [System.meetsNul, above, Bool.false_or, Bool.and_eq_true] at nul
    obtain ⟨here, made⟩ := nul
    rcases parents : system.files.makeParents path with ⟨files, _ | trouble⟩
    · rw [parents] at kept
      refine ⟨{ system with files }, ?_, off, kept⟩
      have refused : ({ system with files } : System).openLog path =
          .error (.abort .embeddedNul) := System.openLog_eq_abort_iff.mpr ⟨rfl, here⟩
      simp only [Bool.false_eq_true, if_false]
      rw [Action.get_bind, parents]
      simp only [Bind.bind, Action.bind, Action.set, refused, Action.abort, List.append_nil]
    · rw [parents] at made
      cases made

theorem open?_of_not_meetsNul (off : system.log = none) (plain : system.meetsNul path = false) :
    ∃ err after, open? path system = ⟨.ok (), [], err, after⟩ ∧ Settled (some path) after err ∧
      System.Keeps system after := by
  have kept := system.keeps_makeParents path
  simp only [System.meetsNul, Bool.or_eq_false_iff, Bool.and_eq_false_iff] at plain
  obtain ⟨above, here⟩ := plain
  unfold open?
  simp only [above, Bool.false_eq_true, if_false]
  rw [Action.get_bind]
  rcases parents : system.files.makeParents path with ⟨files, _ | ⟨errno, directory⟩⟩ <;>
    rw [parents] at kept here <;>
    simp only [Bind.bind, Action.bind, Action.set, Action.warn, List.append_nil, List.nil_append]
  · cases tried : ({ system with files } : System).openLog path with
    | error trouble =>
      cases trouble with
      | abort reason =>
        have nul := (System.openLog_eq_abort_iff.mp tried).2
        simp [nul] at here
      | errno errno => exact ⟨_, { system with files }, rfl, .refused off, kept⟩
    | ok after =>
      obtain ⟨⟨target, on⟩, again, same⟩ := System.openLog_spec tried
      exact ⟨_, after, rfl, .opened on again, kept.trans same⟩
  · exact ⟨_, { system with files }, rfl, .refused off, kept⟩

def unlogged (system : System) : System := { system with log := none }

theorem configure_of_closed (closes : system.closesLog = true) (log : Option Path) :
    configure log system =
      match log with
      | none => ⟨.ok (), [], [], unlogged system⟩
      | some path => open? path (unlogged system) := by
  have closed := (system.closeLog_result_iff).mpr closes
  have left := system.closeLog_system
  unfold configure
  rw [Action.get_bind]
  rcases ran : system.closeLog with ⟨result, after⟩
  rw [ran] at closed left
  cases closed
  cases left
  cases log with
  | none => rfl
  | some path => rfl

theorem configure_of_unclosed (stuck : system.closesLog = false) (log : Option Path) :
    ∃ reason, configure log system = ⟨.error reason, [], [], unlogged system⟩ := by
  have left := system.closeLog_system
  unfold configure
  rw [Action.get_bind]
  rcases ran : system.closeLog with ⟨reason | closed, after⟩
  · rw [ran] at left
    cases left
    exact ⟨reason, rfl⟩
  · have closes := (system.closeLog_result_iff).mp (congrArg Prod.fst ran)
    rw [closes] at stuck
    cases stuck

/-- Configuring is not broken off: the stream of before can be closed, and no NUL is met. -/
def Configurable (log : Option Path) (system : System) : Prop :=
  system.closesLog = true ∧ ∀ path ∈ log, system.meetsNul path = false

theorem configure_outcome (log : Option Path) (system : System) :
    (Configurable log system ∧ ∃ err after, configure log system = ⟨.ok (), [], err, after⟩ ∧
      Settled log after err ∧ System.Keeps system after) ∨
    (¬Configurable log system ∧ ∃ reason after,
      configure log system = ⟨.error reason, [], [], after⟩ ∧ after.log = none ∧
        System.Keeps system after) := by
  cases closes : system.closesLog with
  | false =>
    obtain ⟨reason, ran⟩ := configure_of_unclosed closes log
    refine .inr ⟨fun configurable => ?_, reason, _, ran, rfl, rfl, fun _ => rfl⟩
    exact Bool.false_ne_true (closes.symm.trans configurable.1)
  | true =>
    rw [configure_of_closed closes]
    cases log with
    | none => exact .inl ⟨⟨closes, nofun⟩, [], _, rfl, .off rfl, rfl, fun _ => rfl⟩
    | some path =>
      have off : (unlogged system).log = none := rfl
      cases nul : (unlogged system).meetsNul path with
      | true =>
        obtain ⟨after, ran, off, same⟩ := open?_of_meetsNul off nul
        refine .inr ⟨fun configurable => ?_, _, after, ran, off, same.faults, same.content⟩
        exact Bool.false_ne_true ((configurable.2 path rfl).symm.trans nul)
      | false =>
        obtain ⟨err, after, ran, settled, same⟩ := open?_of_not_meetsNul off nul
        refine .inl ⟨⟨closes, ?_⟩, err, after, ran, settled, same.faults, same.content⟩
        rintro _ ⟨⟩
        exact nul

theorem keeps_configure (log : Option Path) (system : System) :
    System.Keeps system (configure log system).system := by
  rcases configure_outcome log system with
    ⟨-, err, after, ran, -, same⟩ | ⟨-, reason, after, ran, -, same⟩ <;> rw [ran] <;> exact same

inductive Call
  | configure (log : Option Path)
  | event (level : Level) (name : Text) (fields : Fields)

namespace Call

def act : Call → Action Unit
  | configure log => Audit.configure log
  | event level name fields => Action.modify fun system => system.logEvent level name fields

def isEvent : Call → Bool
  | configure _ => false
  | event _ _ _ => true

def isRecorded : Call → Bool
  | configure _ => false
  | event level _ _ => level.isRecorded

end Call

/-- The system after these calls. One that is broken off does not end the program. -/
def session (calls : List Call) (start : System) : System :=
  calls.foldl (fun system call => (call.act system).system) start

theorem session_concat (calls : List Call) (call : Call) (start : System) :
    session (calls ++ [call]) start = (call.act (session calls start)).system := by
  rw [session, List.foldl_append]
  rfl

theorem faults_act (call : Call) (system : System) :
    (call.act system).system.faults = system.faults := by
  cases call with
  | configure log => exact (keeps_configure log system).faults
  | event level name fields => exact System.faults_logEvent system level name fields

theorem faults_session (calls : List Call) (start : System) :
    (session calls start).faults = start.faults := by
  induction calls using List.reverseRecOn with
  | nil => rfl
  | append_singleton calls call ih => rw [session_concat, faults_act, ih]

theorem log_configure {log : Option Path} {stream : LogStream}
    (on : (configure log system).system.log = some stream) :
    log = some stream.path ∧ stream.pending = none := by
  rcases configure_outcome log system with
    ⟨-, err, after, ran, settled, -⟩ | ⟨-, reason, after, ran, off, -⟩ <;> rw [ran] at on
  · cases settled with
    | off off =>
      rw [off] at on
      cases on
    | opened open? again =>
      rw [open?] at on
      cases on
      exact ⟨rfl, rfl⟩
    | refused off =>
      rw [off] at on
      cases on
  · rw [off] at on
    cases on

/-- A log that is on was opened by the last call that configured it. What its stream has pending
is what flushing it was refused with, if it was told an event since. -/
theorem log_session {start : System} (fresh : start.log = none) (calls : List Call)
    {stream : LogStream} (on : (session calls start).log = some stream) :
    ∃ earlier events, calls = earlier ++ .configure (some stream.path) :: events ∧
      (∀ call ∈ events, call.isEvent = true) ∧
      stream.pending =
        if (start.fault? .writing stream.path).isNone && events.any Call.isRecorded then
          start.fault? .flushing stream.path
        else none := by
  -- The induction is on the calls, the last of them last.
  induction calls using List.reverseRecOn generalizing stream with
  | nil =>
    rw [show session [] start = start from rfl, fresh] at on
    cases on
  | append_singleton calls call ih =>
    rw [session_concat] at on
    cases call with
    | configure log =>
      obtain ⟨rfl, idle⟩ := log_configure on
      exact ⟨calls, [], rfl, nofun, by simp [idle]⟩
    | event level name fields =>
      have told : ((session calls start).logEvent level name fields).log = some stream := on
      cases before : (session calls start).log with
      | none =>
        rw [System.logEvent_of_unlogged before, before] at told
        cases told
      | some old =>
        obtain ⟨earlier, events, rfl, only, pending⟩ := ih before
        rw [System.log_logEvent before, Option.some.injEq] at told
        subst told
        have faults : ∀ operation path,
            (session (earlier ++ .configure (some old.path) :: events) start).fault? operation
              path =
              start.fault? operation path := by
          intro operation path
          rw [System.fault?, System.fault?, faults_session]
        refine ⟨earlier, events ++ [.event level name fields], by simp, ?_, ?_⟩
        · intro call member
          rcases List.mem_append.mp member with before | last
          · exact only call before
          · rw [List.mem_singleton.mp last]
            rfl
        · simp only [faults, pending, List.any_append, List.any_cons, List.any_nil, Bool.or_false]
          rw [show (Call.event level name fields).isRecorded = level.isRecorded from rfl]
          cases level.isRecorded <;> cases start.fault? .writing old.path <;>
            cases events.any Call.isRecorded <;> simp

/-- Whatever was configured and told before, configuring the log leaves it open or off, with one
warning if it was to be open. Only a stream that cannot be closed and a NUL in the path break it
off; the log is off then as well. -/
theorem configure_settles_iff {start : System} (fresh : start.log = none) (calls : List Call)
    (log : Option Path) :
    let before := session calls start
    let after := configure log before
    (after.result = .ok () ↔ Configurable log before) ∧
    (Configurable log before → Settled log after.system after.err) ∧
    (¬Configurable log before → after.system.log = none ∧ after.err = []) ∧
    after.out = [] ∧ System.Keeps before after.system ∧
    ∀ stream, before.log = some stream →
      ∃ earlier events, calls = earlier ++ .configure (some stream.path) :: events ∧
        (∀ call ∈ events, call.isEvent = true) ∧
        stream.pending =
          if (start.fault? .writing stream.path).isNone && events.any Call.isRecorded then
            start.fault? .flushing stream.path
          else none := by
  intro before after
  have history : ∀ stream, before.log = some stream → _ := fun stream on =>
    log_session fresh calls on
  rcases configure_outcome log before with
    ⟨configurable, err, later, ran, settled, same⟩ | ⟨stuck, reason, later, ran, off, same⟩
  · rw [show after = _ from ran]
    exact ⟨iff_of_true rfl configurable, fun _ => settled, absurd configurable, rfl, same, history⟩
  · rw [show after = _ from ran]
    exact ⟨iff_of_false nofun stuck, fun good => absurd good stuck, fun _ => ⟨off, rfl⟩, rfl, same,
      history⟩

end Audit

namespace Sample

def dev : Name := ⟨"dev".toList, by decide⟩

def full : Name := ⟨"full".toList, by decide⟩

/-- A device that has no space for what is written to it. Nothing here reads it. -/
def withDevice : System :=
  ⟨⟨[([dev], .directory), ([dev, full], .null)], []⟩,
    [⟨"/dev/full".text, .flushing, .noSpace⟩], none,
    ⟨[], []⟩⟩

def refusing : Config := Config.standard.set .log ⟨.root, ["dev".text, "full".text]⟩

def unnamable : Config := Config.standard.set .log ⟨.relative, ["a\x00b".text]⟩

end Sample

namespace Audit

open Sample

/-- A log that was told nothing is closed, and another one is opened. -/
theorem configure_settles_blank :
    withDevice.log = none ∧
    Configurable (some ⟨.relative, ["logs".text, "audit".text]⟩)
      (session [.configure refusing.log] withDevice) ∧
    (configure (some ⟨.relative, ["logs".text, "audit".text]⟩)
      (session [.configure refusing.log] withDevice)).result = .ok () := by
  have fresh : withDevice.log = none := rfl
  have configurable : Configurable (some ⟨.relative, ["logs".text, "audit".text]⟩)
      (session [.configure refusing.log] withDevice) := by
    refine ⟨by decide, ?_⟩
    rintro _ ⟨⟩
    decide
  refine ⟨fresh, configurable, ?_⟩
  exact (configure_settles_iff fresh [.configure refusing.log] _).1.mpr configurable

/-- Two logs that a configuration can ask for. The first cannot be closed once it was told
something, so that not even no log can be asked for; the second breaks off at once. -/
theorem configure_unsettled :
    Config.parse ⟨[], []⟩ "set log /dev/full".text = .ok refusing ∧
    Config.parse ⟨[], []⟩ "set log a\x00b".text = .ok unnamable ∧
    configure none (session [.configure refusing.log, .event .info "told".text []] withDevice) =
      ⟨.error (.refused .noSpace none), [], [], withDevice⟩ ∧
    configure unnamable.log withDevice = ⟨.error .embeddedNul, [], [], withDevice⟩ := by
  decide

end Audit

end Tunables
