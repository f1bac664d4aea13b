import Tunables.Proofs.Journal
import Tunables.Proofs.Sessions

/-!
What the log files hold after a program has configured its log again and again and told it events in
between. An event is a line at the end of the file that the latest call to configure the log opened,
and nothing is ever taken out of a file.
-/

namespace Tunables

namespace System

variable {system after : System} {path : Path} {location : Location}

theorem leads_iff_of_again {target : Target} (on : after.log = some ⟨path, target, none⟩)
    (again : after.openLog path = .ok after) :
    Place.ofPath after.files path = .ok (.file location) ↔ target = .file location := by
  obtain ⟨plain, openable⟩ := openable_of_openLog again
  rw [openLog_of_openable plain openable] at again
  -- Both ways of opening say what the log of `after` is open on.
  have open? : ∀ {other : System} {opened : Target}, other.log = some ⟨path, opened, none⟩ →
      (.ok other : Except Trouble System) = .ok after → target = opened := by
    intro other opened here same
    rw [Except.ok.inj same, on] at here
    cases here
    rfl
  rcases led : Place.ofPath after.files path with errno | place
  · rw [led] at again
    cases again
  rw [led] at again
  cases place with
  | file other =>
    rw [open? rfl again]
    simp only [Except.ok.injEq, Place.file.injEq, Target.file.injEq]
  | null =>
    rw [open? rfl again]
    exact iff_of_false nofun nofun
  | absent other =>
    have longer := congrArg (·.files.entries.length) (Except.ok.inj again)
    simp [FileSystem.add] at longer
  | directory other => cases again

/-- All that an event can do: time goes on and the stream is another one on what it was open on, or
the file that the log is open on gets a line. -/
theorem logEvent_kinds (system : System) (level : Audit.Level) (name : Text)
    (fields : Audit.Fields) :
    (∃ (log : Option LogStream) (clock : Clock), log.map (·.target) = system.log.map (·.target) ∧
      system.logEvent level name fields = { system with log, clock }) ∨
    ∃ location line, LogStream.IsOn system.log location ∧
      system.logEvent level name fields =
        system.tick.replace (.file location) (system.files.content location ++ line) := by
  unfold logEvent
  split
  · unfold appendLog
    split
    · exact .inl ⟨system.log, system.clock.tick, rfl, rfl⟩
    · rename_i stream on
      rw [log_tick] at on
      split
      · exact .inl ⟨system.log, system.clock.tick, rfl, rfl⟩
      split
      · exact .inl ⟨some { stream with pending := some _ }, system.clock.tick,
          congrArg (Option.map (·.target)) on.symm, rfl⟩
      · obtain ⟨path, target, pending⟩ := stream
        cases target with
        | file location => exact .inr ⟨location, _, by rw [LogStream.IsOn, on]; rfl, rfl⟩
        | null => exact .inl ⟨system.log, system.clock.tick, rfl, rfl⟩
  · exact .inl ⟨system.log, system.clock, rfl, rfl⟩

theorem continues_logEvent (system : System) (level : Audit.Level) (name : Text)
    (fields : Audit.Fields) : Continues system (system.logEvent level name fields) := by
  rcases logEvent_kinds system level name fields with
    ⟨log, clock, same, told⟩ | ⟨location, line, -, told⟩
  · rw [told]
    exact ⟨⟨.refl _, rfl⟩, same⟩
  · rw [told]
    exact (continues_tick system).trans (continues_replace system.tick _ _)

theorem content_logEvent_of_not_on (elsewhere : ¬LogStream.IsOn system.log location)
    (level : Audit.Level) (name : Text) (fields : Audit.Fields) :
    (system.logEvent level name fields).files.content location =
      system.files.content location := by
  rcases logEvent_kinds system level name fields with
    ⟨log, clock, -, told⟩ | ⟨other, line, on, told⟩
  · rw [told]
  · rw [told]
    apply FileSystem.content_write_of_ne
    intro same
    exact elsewhere (same ▸ on)

theorem files_logEvent_of_not_on (nowhere : ∀ location, ¬LogStream.IsOn system.log location)
    (level : Audit.Level) (name : Text) (fields : Audit.Fields) :
    (system.logEvent level name fields).files = system.files := by
  rcases logEvent_kinds system level name fields with
    ⟨log, clock, -, told⟩ | ⟨location, line, on, -⟩
  · rw [told]
  · exact absurd on (nowhere location)

end System

namespace Audit

variable {system start : System} {calls : List Call} {location : Location}

def Call.line (stamp : Text) : Call → Bytes
  | configure _ => []
  | event level name fields =>
    if level.isRecorded then
      Utf8.encode (Text.ofChars ((record stamp level name fields).render ++ ['\n']))
    else []

/-- The file that a call to configure the log opens: the call comes to its end without a warning,
and afterwards this is where the path leads. -/
def opens? (log : Option Path) (system : System) : Option Location :=
  match log with
  | none => none
  | some path =>
    let outcome := configure (some path) system
    if outcome.result = .ok () ∧ outcome.err = [] then
      match Place.ofPath outcome.system.files path with
      | .ok (.file location) => some location
      | _ => none
    else none

def latest? (calls : List Call) (start : System) : Option Location :=
  match calls.reverse.dropWhile Call.isEvent with
  | .configure log :: earlier => opens? log (session earlier.reverse start)
  | _ => none

/-- The events among the later calls that are issued while a file is the one that the latest call
to configure the log opened, and the times at which they are issued. -/
def issued (location : Location) (start : System) : List Call → List Call → List (Text × Call)
  | _, [] => []
  | earlier, call :: later =>
    if call.isEvent ∧ latest? earlier start = some location then
      ((session earlier start).clock.now, call) :: issued location start (earlier ++ [call]) later
    else issued location start (earlier ++ [call]) later

theorem latest?_append_events {events : List Call} (only : ∀ call ∈ events, call.isEvent = true) :
    latest? (calls ++ events) start = latest? calls start := by
  have passed : (calls ++ events).reverse.dropWhile Call.isEvent =
      calls.reverse.dropWhile Call.isEvent := by
    rw [List.reverse_append]
    exact List.dropWhile_append_of_pos fun call member => only call (List.mem_reverse.mp member)
  rw [latest?, latest?, passed]

theorem latest?_concat_event {call : Call} (event : call.isEvent = true) :
    latest? (calls ++ [call]) start = latest? calls start :=
  latest?_append_events (List.forall_mem_singleton.mpr event)

theorem latest?_concat_configure (log : Option Path) :
    latest? (calls ++ [.configure log]) start = opens? log (session calls start) := by
  simp only [latest?, List.reverse_append, List.reverse_singleton, List.singleton_append,
    List.dropWhile_cons, Call.isEvent, Bool.false_eq_true, if_false, List.reverse_reverse]

theorem opens?_of_silent {path : Path} {out : Text} {after : System}
    (ran : configure (some path) system = ⟨.ok (), out, [], after⟩) :
    opens? (some path) system = some location ↔
      Place.ofPath after.files path = .ok (.file location) := by
  simp only [opens?, ran, and_self, if_true]
  rcases Place.ofPath after.files path with errno | place
  · simp
  · cases place <;> simp

theorem opens?_of_warned {path : Path} {err : Text}
    (warned : (configure (some path) system).err = err) (filled : err ≠ []) :
    opens? (some path) system = none := by
  simp only [opens?, warned, filled, and_false, if_false]

theorem opens?_of_error {log : Option Path} {reason : Abort}
    (broken : (configure log system).result = .error reason) : opens? log system = none := by
  cases log with
  | none => rfl
  | some path => simp only [opens?, broken, reduceCtorEq, false_and, if_false]

theorem opens?_eq_some_iff (log : Option Path) (system : System) :
    opens? log system = some location ↔
      LogStream.IsOn (configure log system).system.log location := by
  have off : ∀ {after : System}, after.log = none → ¬LogStream.IsOn after.log location := by
    intro after unlogged
    rw [unlogged]
    nofun
  rcases configure_outcome log system with
    ⟨-, err, after, ran, settled, -⟩ | ⟨-, reason, after, ran, unlogged, -⟩
  · cases settled with
    | off unlogged =>
      rw [ran]
      exact iff_of_false nofun (off unlogged)
    | opened on again =>
      rw [opens?_of_silent ran, System.leads_iff_of_again on again, ran, LogStream.IsOn, on]
      simp
    | refused unlogged =>
      have silent : opens? _ system = none :=
        opens?_of_warned (congrArg Outcome.err ran) (List.append_ne_nil_of_right_ne_nil _ (by simp))
      rw [silent, ran]
      exact iff_of_false nofun (off unlogged)
  · rw [opens?_of_error (congrArg Outcome.result ran), ran]
    exact iff_of_false nofun (off unlogged)

/-- The latest call decides what the log is open on. -/
theorem latest?_eq_some_iff (fresh : start.log = none) (calls : List Call) :
    latest? calls start = some location ↔ LogStream.IsOn (session calls start).log location := by
  -- The induction is on the calls, the last of them last: an event leaves the stream where it is.
  induction calls using List.reverseRecOn with
  | nil =>
    rw [show session [] start = start from rfl, fresh]
    exact iff_of_false nofun nofun
  | append_singleton calls call ih =>
    rw [session_concat]
    cases call with
    | configure log =>
      rw [latest?_concat_configure]
      exact opens?_eq_some_iff log (session calls start)
    | event level name fields =>
      have same := (System.continues_logEvent (session calls start) level name fields).log
      rw [latest?_concat_event rfl, ih, LogStream.IsOn, LogStream.IsOn]
      exact Eq.congr_left same.symm

theorem file_of_latest? {calls : List Call} (open? : latest? calls start = some location) :
    ∃ content, (session calls start).files.find? location = some (.file content) := by
  induction calls using List.reverseRecOn with
  | nil => cases open?
  | append_singleton calls call ih =>
    rw [session_concat]
    cases call with
    | configure log =>
      rw [latest?_concat_configure] at open?
      cases log with
      | none => cases open?
      | some path =>
        simp only [opens?] at open?
        split at open?
        · split at open?
          · rename_i led
            cases open?
            exact Place.file_of_ofPath led
          · cases open?
        · cases open?
    | event level name fields =>
      rw [latest?_concat_event rfl] at open?
      obtain ⟨content, file⟩ := ih open?
      exact (System.continues_logEvent _ level name fields).similar.files.file file

/-- Nothing that is told to a log on a file fails to be written. -/
def Accepts (start : System) (calls : List Call) : Prop :=
  ∀ earlier path later location, calls = earlier ++ .configure (some path) :: later →
    opens? (some path) (session earlier start) = some location → start.loss? path = none

theorem Accepts.early {early late : List Call} (accepts : Accepts start (early ++ late)) :
    Accepts start early := by
  rintro earlier path later location rfl
  exact accepts earlier path (later ++ late) location (List.append_assoc _ _ _)

theorem logging_of_latest? (fresh : start.log = none) {calls : List Call}
    (accepts : Accepts start calls) (open? : latest? calls start = some location) :
    (session calls start).Logging location := by
  refine ⟨?_, file_of_latest? open?⟩
  have on := (latest?_eq_some_iff fresh calls).mp open?
  obtain ⟨stream, logged, target⟩ := Option.map_eq_some_iff.mp on
  obtain ⟨earlier, events, split, only, -⟩ := log_session fresh calls logged
  have configured : opens? (some stream.path) (session earlier start) = some location := by
    rw [← latest?_concat_configure, ← latest?_append_events only, ← open?, split]
    simp
  refine ⟨stream, logged, target, ?_⟩
  rw [System.loss?, System.fault?, System.fault?, faults_session]
  exact accepts earlier stream.path events location split configured

theorem issued_singleton (location : Location) (start : System) (calls : List Call) (call : Call) :
    issued location start calls [call] =
      if call.isEvent ∧ latest? calls start = some location then
        [((session calls start).clock.now, call)]
      else [] := rfl

/-- What one more call does to a file: it gets the line of an event that is issued while it is the
file that the latest call to configure the log opened. -/
theorem content_session_concat (fresh : start.log = none) {calls : List Call}
    (accepts : Accepts start calls) (call : Call) (location : Location) :
    (session (calls ++ [call]) start).files.content location =
      (session calls start).files.content location ++
        (issued location start calls [call]).flatMap fun (stamp, call) => call.line stamp := by
  rw [session_concat, issued_singleton]
  cases call with
  | configure log =>
    rw [Call.act, (keeps_configure log _).content]
    simp [Call.isEvent]
  | event level name fields =>
    by_cases open? : latest? calls start = some location
    · rw [if_pos ⟨rfl, open?⟩, List.flatMap_singleton]
      have logging := logging_of_latest? fresh accepts open?
      obtain ⟨stream, on, -⟩ := logging.stream
      obtain ⟨content, file⟩ := logging.file
      simp only [Call.act, Call.line, Action.modify, System.logEvent, on, Option.isSome_some,
        Bool.and_true]
      cases level.isRecorded with
      | true =>
        have ticked : (session calls start).tick.Logging location :=
          ⟨logging.stream, logging.file⟩
        simp only [if_true]
        rw [System.appendLog_of_logging ticked]
        exact FileSystem.content_write_self _ file
      | false =>
        simp only [Bool.false_eq_true, if_false, List.append_nil]
    · have elsewhere := mt (latest?_eq_some_iff fresh calls).mpr open?
      rw [if_neg (not_and_of_not_right _ open?), List.flatMap_nil, List.append_nil]
      exact System.content_logEvent_of_not_on elsewhere level name fields

theorem content_session_append (fresh : start.log = none) {earlier later : List Call}
    (accepts : Accepts start (earlier ++ later)) (location : Location) :
    (session (earlier ++ later) start).files.content location =
      (session earlier start).files.content location ++
        (issued location start earlier later).flatMap fun (stamp, call) => call.line stamp := by
  induction later generalizing earlier with
  | nil => simp [issued]
  | cons call later ih =>
    rw [List.append_cons] at accepts ⊢
    have split : issued location start earlier (call :: later) =
        issued location start earlier [call] ++
          issued location start (earlier ++ [call]) later := by
      rw [issued_singleton, issued]
      split <;> rfl
    rw [ih accepts, content_session_concat fresh accepts.early.early, split, List.flatMap_append,
      List.append_assoc]

/-- Over any course of calls, a file gets the lines of the events that were issued while it was the
file that the latest call to configure the log opened, in order and behind what it held. An event
that is issued while that call opened none is written nowhere. -/
theorem session_appends (fresh : start.log = none) (calls : List Call)
    (accepts : Accepts start calls) :
    (∀ location, (session calls start).files.content location =
      start.files.content location ++
        (issued location start [] calls).flatMap fun (stamp, call) => call.line stamp) ∧
    (∀ earlier later, calls = earlier ++ later → ∀ location,
      (session earlier start).files.content location <+:
        (session calls start).files.content location) ∧
    ∀ earlier event later, calls = earlier ++ event :: later → event.isEvent = true →
      latest? earlier start = none →
      (session (earlier ++ [event]) start).files = (session earlier start).files := by
  refine ⟨fun location => ?_, ?_, ?_⟩
  · have whole : Accepts start ([] ++ calls) := accepts
    exact content_session_append fresh whole location
  · intro earlier later split location
    subst split
    exact ⟨_, (content_session_append fresh accepts location).symm⟩
  · intro earlier event later split issues closed
    have nowhere : ∀ location, ¬LogStream.IsOn (session earlier start).log location := by
      intro location on
      rw [(latest?_eq_some_iff fresh earlier).mpr on] at closed
      cases closed
    rw [session_concat]
    cases event with
    | configure log => cases issues
    | event level name fields => exact System.files_logEvent_of_not_on nowhere level name fields

end Audit

namespace Sample

def logs : Name := ⟨"logs".toList, by decide⟩

def kept : System :=
  ⟨⟨[([keys], .directory), ([audit], .file (Utf8.encode "old\n".text))], []⟩, [], none,
    ⟨"1".text, ["2".text, "3".text, "4".text]⟩⟩

def first : Audit.Call := .event .info "first".text []

def last : Audit.Call := .event .warning "last".text [("why".text, .number 1)]

/-- The log is opened, turned off, asked for on a directory, opened elsewhere, and opened again on
the file of before, each time with an event behind it. -/
def turns : List Audit.Call :=
  [.configure (some ⟨.relative, [audit.text]⟩), first,
    .configure none, .event .error "off".text [],
    .configure (some ⟨.relative, [keys.text]⟩), .event .error "refused".text [],
    .configure (some ⟨.relative, [logs.text, one.text]⟩), .event .info "elsewhere".text [],
    .configure (some ⟨.relative, [audit.text]⟩), last]

end Sample

namespace Audit

open Sample

theorem session_appends_turns : kept.log = none ∧ Accepts kept turns ∧
    (session turns kept).files.content [audit] =
      Utf8.encode "old\n".text ++ (first.line "1".text ++ last.line "3".text) ∧
    (session turns kept).files.content [logs, one] =
      (Call.event .info "elsewhere".text []).line "2".text := by
  have fresh : kept.log = none := rfl
  have accepts : Accepts kept turns := fun _ _ _ _ _ _ => rfl
  have here : issued [audit] kept [] turns = [("1".text, first), ("3".text, last)] := rfl
  have there : issued [logs, one] kept [] turns =
      [("2".text, .event .info "elsewhere".text [])] := rfl
  obtain ⟨content, -⟩ := session_appends fresh turns accepts
  refine ⟨fresh, accepts, ?_, ?_⟩
  · rw [content, here]
    rfl
  · rw [content, there]
    rfl

end Audit

end Tunables
