import Tunables.Proofs.Effects

/-!
The single things that a run does, in order: keys are read, settings are written, and what is wrong
with a preload file or a directory is told. Each has its outcome and at most one event for the audit
log, and the run prints and changes what they do one after the other.
-/

namespace Tunables

inductive Deed
  | read (key : Text)
  | write (text : Text)
  | badLine (source : Text) (number : Nat)
  | unopened (source : Path) (errno : Errno)
  | unlisted (path : Path) (errno : Errno)
  | uninspected (path : Path) (errno : Errno)
  | usage (text complaint : Text)
  deriving DecidableEq

namespace Action

variable {system : System} {first second other : Action Status}

theorem also_work_congr
    (same : ∀ status, (first system).result = .ok status →
      (second (first system).system).work = (other (first system).system).work) :
    (first.also second system).work = (first.also other system).work := by
  rcases ran : first system with ⟨reason | status, out, err, after⟩
  · rw [also_of_error ran, also_of_error ran]
  · have rest := same status (congrArg Outcome.result ran)
    rw [ran] at rest
    simp only [Outcome.work, Prod.mk.injEq] at rest
    rw [also_of_ok ran, also_of_ok ran]
    simp only [Outcome.work, rest]

theorem success_also (action : Action Status) : (pure .success).also action = action := by
  funext system
  have ran : pure Status.success system = ⟨.ok .success, [], [], system⟩ := rfl
  rw [also_of_ok ran]
  rcases action system with ⟨reason | status, out, err, after⟩ <;> rfl

theorem also_success (action : Action Status) : action.also (pure .success) = action := by
  funext system
  rcases ran : action system with ⟨reason | status, out, err, after⟩
  · rw [also_of_error ran]
  · rw [also_of_ok ran]
    simp [pure, Except.map, Status.combine_success]

theorem map_id (action : Action Status) : action.map id = action := by
  funext system
  rcases ran : action system with ⟨reason | status, out, err, after⟩ <;>
    simp [map, ran, Except.map]

end Action

namespace Deed

def act (root : Path) (display : Display) : Deed → Action Status
  | read key => Access.readSetting root display key
  | write text => Access.writeSetting root display text
  | badLine source number => do
    Audit.log (.preloadBadLine source number)
    Action.warn (Preload.badLine source number)
    Action.pure .success
  | unopened source errno => do
    Audit.log (.preloadOpenFailed source.render (errno.report source))
    Access.report (.preloadFile source.render)
  | unlisted path errno => Listing.visit root display (.unlisted path errno)
  | uninspected path errno => Listing.visit root display (.uninspected path errno)
  | usage text complaint => Command.printed .failure text complaint

/-- What the audit log is told of a deed that came to an end with this status and this message. -/
def eventOf (status : Status) (message : Text) : Deed → Option Audit.Event
  | read key => if status = .success then none else some (.readFailed key message)
  | write text =>
    if status = .success then
      (Setting.parse text).toOption.map fun setting => .writeOk setting.name setting.value
    else some (.writeFailed text message)
  | badLine source number => some (.preloadBadLine source number)
  | unopened source errno => some (.preloadOpenFailed source.render (errno.report source))
  | unlisted path errno => some (.directoryFailed path.render (errno.report path))
  | uninspected path errno => some (.entryFailed path.render (errno.report path))
  | usage _ _ => none

def event? (deed : Deed) (outcome : Outcome Status) : Option Audit.Event :=
  match outcome.result with
  | .error _ => none
  | .ok status => deed.eventOf status outcome.err.dropLast

def path? (root : Path) : Deed → Option Path
  | read key => if key = [] then none else some (Access.resolve root key)
  | write text =>
    (Setting.parse text).toOption.map fun setting => Access.resolve root setting.name
  | _ => none

/-- The system when a deed has been done, apart from what the audit log is told. -/
def effect (root : Path) (system : System) : Deed → System
  | write text =>
    match Setting.parse text with
    | .error _ => system
    | .ok setting => (Access.writeValue root setting system).2
  | _ => system

end Deed

def System.told (system : System) : Option Audit.Event → System
  | none => system
  | some event => system.recorded event

theorem Failure.status_ne_success (failure : Failure) : failure.status ≠ .success := by
  cases failure <;> nofun

namespace Deed

variable {root : Path} {display : Display} {system : System}

theorem event?_reported (deed : Deed) (failure : Failure) (after : System) :
    deed.event? (Access.reported failure after) =
      deed.eventOf failure.status failure.message := by
  simp only [event?, Access.reported, List.dropLast_concat]

/-- Apart from what the log is told, a deed does nothing to the system or writes the file that it
opens. -/
theorem effect_kinds (root : Path) (deed : Deed) :
    (∀ system, deed.effect root system = system) ∨
      ∃ path text, deed.path? root = some path ∧
        ∀ system, deed.effect root system = (System.writeFile system path text).2 := by
  cases deed with
  | write text =>
    cases parsed : Setting.parse text with
    | error failure =>
      refine .inl fun system => ?_
      simp only [effect, parsed]
    | ok setting =>
      refine .inr ⟨Access.resolve root setting.name, setting.line, ?_,
        fun system => ?_⟩
      · rw [path?, parsed]
        rfl
      · simp only [effect, parsed, Access.writeValue_system]
  | _ => exact .inl fun _ => rfl

theorem act_system (root : Path) (display : Display) (deed : Deed) (system : System) :
    (deed.act root display system).system =
      (deed.effect root system).told (deed.event? (deed.act root display system)) := by
  cases deed with
  | read key =>
    rw [act, Access.readSetting_outcome]
    rcases Access.readValues root key system with (failure | reason) | lines
    · rw [event?_reported, eventOf, if_neg failure.status_ne_success]
      rfl
    · rfl
    · rfl
  | write text =>
    rw [act, Access.writeSetting_outcome, effect]
    cases parsed : Setting.parse text with
    | error failure =>
      dsimp only
      rw [event?_reported, eventOf, if_neg failure.status_ne_success]
      rfl
    | ok setting =>
      dsimp only
      rcases Access.writeValue root setting system with ⟨(failure | reason) | _, after⟩
      · dsimp only
        rw [event?_reported, eventOf, if_neg failure.status_ne_success]
        rfl
      · rfl
      · simp only [event?, eventOf, parsed, if_true, Except.toOption, Option.map_some,
          System.told]
  | badLine source number =>
    rw [act, Action.bind_of_ok (Access.log_eq _ system), Action.warn_pure]
    rfl
  | unopened source errno =>
    rw [act, Action.bind_of_ok (Access.log_eq _ system), Access.report_eq]
    rfl
  | unlisted path errno =>
    rw [act, Listing.visit_unlisted]
    rfl
  | uninspected path errno =>
    rw [act, Listing.visit_uninspected]
    rfl
  | usage text complaint => rfl

def all (root : Path) (display : Display) (deeds : List Deed) : Action Status :=
  Action.all (deeds.map (act root display))

/-- The deeds that are done, each with its outcome. The one that breaks off is the last. -/
def course (root : Path) (display : Display) : List Deed → System → List (Deed × Outcome Status)
  | [], _ => []
  | deed :: rest, system =>
    (deed, deed.act root display system) ::
      (deed.act root display system).behind (course root display rest)

theorem all_cons (deed : Deed) (rest : List Deed) :
    all root display (deed :: rest) = (deed.act root display).also (all root display rest) := rfl

theorem all_singleton (deed : Deed) : all root display [deed] = deed.act root display :=
  Action.also_success (deed.act root display)

end Deed

namespace Preload

def deed? (source : Text) (number : Nat) (raw : Text) : Option Deed :=
  match readLine raw with
  | .ignored => none
  | .malformed => some (.badLine source number)
  | .setting setting => some (.write setting.render)

def deedsFrom (source : Text) (number : Nat) (lines : List Text) : List Deed :=
  (parseFrom number lines).map fun
    | (number, none) => .badLine source number
    | (_, some setting) => .write setting.render

def deeds (source root : Path) (display : Display) (system : System) : List Deed :=
  match system.openExisting source with
  | .error (.abort _) => []
  | .error (.errno errno) => [.unopened source errno]
  | .ok target =>
    deedsFrom source.render 1
      (reached source target root display (stepLimit (system.content target)) 1 Reader.start system)

theorem deedsFrom_cons (source : Text) (number : Nat) (raw : Text) (rest : List Text) :
    deedsFrom source number (raw :: rest) =
      (deed? source number raw).toList ++ deedsFrom source (number + 1) rest := by
  rw [deedsFrom, parseFrom, deed?]
  cases readLine raw <;> rfl

theorem applyLine_eq (source : Text) (root : Path) (display : Display) (number : Nat)
    (raw : Text) :
    applyLine source root display number raw =
      match deed? source number raw with
      | none => Action.pure .success
      | some deed => deed.act root display := by
  unfold applyLine deed?
  cases readLine raw <;> rfl

theorem work_applyLines (source : Path) (target : Target) (root : Path) (display : Display)
    (steps number : Nat) (reader : Reader) (system : System) :
    (applyLines source target root display steps number reader system).work =
      (Deed.all root display (deedsFrom source.render number
        (reached source target root display steps number reader system)) system).work := by
  induction steps generalizing number reader system with
  | zero => rfl
  | succ steps ih =>
    rw [reached_of_taken, applyLines_of_taken]
    rcases taken source target reader system with result | ⟨raw, rest⟩
    · rfl
    · dsimp only
      rw [deedsFrom_cons, applyLine_eq]
      cases deed? source.render number raw with
      | none =>
        rw [Action.success_also]
        exact ih (number + 1) rest system
      | some deed =>
        rw [Option.toList_some, List.singleton_append, Deed.all_cons]
        refine Action.also_work_congr fun status ended => ?_
        rw [ih, Outcome.behind, ended]

theorem work_apply (source root : Path) (display : Display) (system : System) :
    (apply source root display system).work =
      (Deed.all root display (deeds source root display system) system).work := by
  unfold apply deeds
  rw [Action.get_bind]
  rcases system.openExisting source with (_ | errno) | target
  · rfl
  · dsimp only
    rw [Deed.all_singleton]
    rfl
  · dsimp only
    rw [work_closing, work_applyLines]

end Preload

namespace Listing

def deed (root : Path) : Visit → Deed
  | .key path => .read (Path.render ⟨.relative, (Path.below? root path).getD []⟩)
  | .unlisted path errno => .unlisted path errno
  | .uninspected path errno => .uninspected path errno

def deeds (root : Path) (system : System) : List Deed :=
  if root.hasNul then [] else (Survey.below system root).map (deed root)

theorem displayAll_eq_all {root : Path} (proper : root.hasNul = false) (display : Display)
    (system : System) :
    displayAll root display root system =
      Deed.all root display (deeds root system) system := by
  have acts : (Survey.below system root).map (visit root display) =
      ((Survey.below system root).map (deed root)).map (Deed.act root display) := by
    rw [List.map_map]
    refine List.map_congr_left fun found member => ?_
    cases found with
    | key entry =>
      obtain ⟨-, first, rest, rfl⟩ := Survey.key_of_mem_within member
      rw [visit_key, Function.comp_apply, deed, Path.below?_append]
      rfl
    | unlisted path errno => rfl
    | uninspected path errno => rfl
  rw [displayAll_of_proper proper, acts, deeds, if_neg (by simp [proper])]
  rfl

theorem work_displayAll (root : Path) (display : Display) (system : System) :
    (displayAll root display root system).work =
      (Deed.all root display (deeds root system) system).work := by
  cases nul : root.hasNul with
  | true =>
    simp only [displayAll, deeds, nul, if_true]
    rfl
  | false => rw [displayAll_eq_all nul]

end Listing

namespace Command

def requestDeeds (program : Text) (config : Config) (display : Display) :
    List Text → System → List Deed
  | [], _ => []
  | first :: later, system =>
    if isSwitch 'w' first then later.map .write
    else if isSwitch 'p' first then
      Preload.deeds (preloadSource config later) config.root display system
    else if isSwitch 'a' first || isSwitch 'A' first || isSwitch 'X' first then
      Listing.deeds config.root system
    else if isSwitch 'h' first || isSwitch '?' first then [.usage (usageText program) []]
    else if first.head? = some (.char '-') then
      [.usage (usageText program) (unknownSwitch first ++ [.char '\n'])]
    else (first :: later).map .read

/-- What a run comes to, in order. -/
def deeds (program : Text) (config : Config) (arguments : List Text) (system : System) :
    List Deed :=
  if arguments = [] then [.usage (usageText program) []]
  else requestDeeds program config (shown arguments) (asked arguments) system

def course (program : Text) (config : Config) (arguments : List Text) (system : System) :
    List (Deed × Outcome Status) :=
  Deed.course config.root (shown arguments) (deeds program config arguments system) system

def source? (config : Config) : List Text → Option Path
  | [] => none
  | first :: later =>
    if isSwitch 'w' first then none
    else if isSwitch 'p' first then some (preloadSource config later)
    else none

/-- The paths that a run opens, be it to read or to write. -/
def opened (program : Text) (config : Config) (arguments : List Text) (system : System) :
    List Path :=
  (source? config (asked arguments)).toList ++
    (course program config arguments system).filterMap fun step => step.1.path? config.root

theorem request_kinds (program : Text) (config : Config) (display : Display)
    (arguments : List Text) :
    (∃ source, source? config arguments = some source ∧
      request program config display arguments =
        (Preload.apply source config.root display).map (fun _ => .success) ∧
      ∀ system, requestDeeds program config display arguments system =
        Preload.deeds source config.root display system) ∨
    (request program config display arguments =
        Listing.displayAll config.root display config.root ∧
      ∀ system, requestDeeds program config display arguments system =
        Listing.deeds config.root system) ∨
    ∃ (deeds : List Deed) (change : Status → Status),
      request program config display arguments =
        (Deed.all config.root display deeds).map change ∧
      ∀ system, requestDeeds program config display arguments system = deeds := by
  cases arguments with
  | nil => exact .inr (.inr ⟨[], id, rfl, fun _ => rfl⟩)
  | cons first later =>
    simp only [request, requestDeeds, source?]
    split
    · refine .inr (.inr ⟨later.map .write, id, ?_, fun _ => rfl⟩)
      rw [Deed.all, List.map_map, Action.map_id]
      rfl
    split
    · exact .inl ⟨_, rfl, rfl, fun _ => rfl⟩
    split
    · exact .inr (.inl ⟨rfl, fun _ => rfl⟩)
    split
    · refine .inr (.inr ⟨_, id, ?_, fun _ => rfl⟩)
      rw [Deed.all_singleton, Action.map_id]
      rfl
    split
    · refine .inr (.inr ⟨_, id, ?_, fun _ => rfl⟩)
      rw [Deed.all_singleton, Action.map_id]
      rfl
    · refine .inr (.inr ⟨(first :: later).map .read, fun _ => .success, ?_, fun _ => rfl⟩)
      rw [Deed.all, List.map_map]
      rfl

theorem work_request (program : Text) (config : Config) (display : Display)
    (arguments : List Text) (system : System) :
    (request program config display arguments system).work =
      (Deed.all config.root display (requestDeeds program config display arguments system)
        system).work := by
  rcases request_kinds program config display arguments with
    ⟨source, -, same, deeds⟩ | ⟨same, deeds⟩ | ⟨known, change, same, deeds⟩
  · rw [same, deeds]
    exact Preload.work_apply source config.root display system
  · rw [same, deeds]
    exact Listing.work_displayAll config.root display system
  · rw [same, deeds]
    rfl

/-- A run prints, reports and changes what its deeds do. -/
theorem work_run (program : Text) (config : Config) (arguments : List Text) (system : System) :
    (run program config arguments system).work =
      (Deed.all config.root (shown arguments) (deeds program config arguments system)
        system).work := by
  by_cases given : arguments = []
  · rw [given, run, usage_eq, deeds, if_pos rfl, Deed.all_singleton]
    rfl
  · rw [run_eq_request program config given, work_request, deeds, if_neg given]

end Command

end Tunables
