import Tunables.Proofs.Batch
import Tunables.Proofs.Walk

/-!
What a run leaves behind, whatever becomes of it. No entry comes, goes or changes its kind, and what
a file holds is decided by the last of the settings tried that was opened on it.
-/

namespace Tunables

def Outcome.work {α : Type} (outcome : Outcome α) : Text × Text × System :=
  (outcome.out, outcome.err, outcome.system)

def Outcome.behind {α : Type} (outcome : Outcome Status) (later : System → List α) : List α :=
  match outcome.result with
  | .error _ => []
  | .ok _ => later outcome.system

namespace System

variable {system before after : System} {root : Path} {location : Location}

/-- Whether a setting is opened on the file at a location. -/
def opens (system : System) (root : Path) (location : Location) (setting : Setting) : Bool :=
  system.openExisting (Access.resolve root setting.name) = .ok (.file location)

def leaves (system : System) (root : Path) (setting : Setting) : Bytes :=
  system.left (Access.resolve root setting.name) setting.line

/-- What a file holds when these settings have been tried, one after the other. -/
def contentAfter (system : System) (root : Path) (tried : List Setting) (location : Location) :
    Bytes :=
  match (tried.filter (system.opens root location)).getLast? with
  | none => system.files.content location
  | some setting => system.leaves root setting

theorem content_replace_self {path : Path}
    (opened : system.openExisting path = .ok (.file location)) (content : Bytes) :
    (system.replace (.file location) content).files.content location = content := by
  obtain ⟨old, file⟩ := Place.file_of_ofPath (place_of_openExisting opened)
  exact FileSystem.content_write_self content file

/-- Nothing happened to the files but that these settings were tried. -/
structure Tried (root : Path) (settings : List Setting) (before after : System) : Prop where
  continues : Continues before after
  content : ∀ location, after.files.content location = before.contentAfter root settings location

theorem Tried.nothing (root : Path) (system : System) : Tried root [] system system :=
  ⟨.refl system, fun _ => rfl⟩

theorem Similar.opens (similar : Similar before after) (root : Path) (location : Location) :
    after.opens root location = before.opens root location := by
  funext setting
  simp only [System.opens, similar.openExisting]

theorem Similar.leaves (similar : Similar before after) (root : Path) (setting : Setting) :
    after.leaves root setting = before.leaves root setting := by
  simp only [System.leaves, left, similar.loss?]

theorem Tried.trans {middle : System} {first second : List Setting}
    (early : Tried root first before middle) (late : Tried root second middle after) :
    Tried root (first ++ second) before after := by
  refine ⟨early.continues.trans late.continues, fun location => ?_⟩
  have similar := early.continues.similar
  rw [late.content, contentAfter, contentAfter, similar.opens, List.filter_append,
    List.getLast?_append]
  cases (second.filter (before.opens root location)).getLast? with
  | none => exact early.content location
  | some setting => exact similar.leaves root setting

theorem tried_also {first second : Action Status} {early : List Setting}
    {late : System → List Setting} (one : Tried root early system (first system).system)
    (other : Tried root (late (first system).system) (first system).system
      (second (first system).system).system) :
    Tried root (early ++ (first system).behind late) system (first.also second system).system := by
  rcases ran : first system with ⟨reason | status, out, err, middle⟩ <;> rw [ran] at one other
  · rw [Action.also_of_error ran, Outcome.behind, List.append_nil]
    exact one
  · rw [Action.also_of_ok ran]
    exact one.trans other

end System

namespace Access

variable {root : Path} {system : System}

def tried (root : Path) (display : Display) : List Text → System → List Setting
  | [], _ => []
  | text :: texts, system =>
    (Setting.parse text).toOption.toList ++
      (writeSetting root display text system).behind (tried root display texts)

theorem readSetting_system (root : Path) (display : Display) (key : Text)
    (unlogged : system.log = none) : (readSetting root display key system).system = system := by
  rw [readSetting_eq root display key unlogged]
  rcases readValues root key system with (failure | reason) | lines <;> rfl

theorem tried_writeSetting (root : Path) (display : Display) (text : Text)
    (unlogged : system.log = none) :
    System.Tried root (Setting.parse text).toOption.toList system
      (writeSetting root display text system).system := by
  rw [writeSetting_eq root display text unlogged]
  cases Setting.parse text with
  | error failure => exact .nothing root system
  | ok setting =>
    dsimp only
    rw [written_system]
    refine ⟨System.continues_writeFile system _ _, fun location => ?_⟩
    rw [System.writeFile_system, System.contentAfter]
    cases here : system.opens root location setting with
    | true =>
      have opened : system.openExisting (resolve root setting.name) = .ok (.file location) :=
        of_decide_eq_true here
      rw [Except.toOption, Option.toList, List.filter_cons_of_pos here, opened]
      exact System.content_replace_self opened _
    | false =>
      have opened : system.openExisting (resolve root setting.name) ≠ .ok (.file location) :=
        of_decide_eq_false here
      rw [Except.toOption, Option.toList, List.filter_cons_of_neg (by simp [here])]
      cases led : system.openExisting (resolve root setting.name) with
      | error trouble => rfl
      | ok target =>
        have different : Target.file location ≠ target := fun same => opened (same ▸ led)
        exact system.content_replace_of_ne _ different

theorem tried_all (root : Path) (display : Display) (texts : List Text)
    (unlogged : system.log = none) :
    System.Tried root (tried root display texts system) system
      (Action.all (texts.map (writeSetting root display)) system).system := by
  induction texts generalizing system with
  | nil => exact .nothing root system
  | cons text texts ih =>
    have one := tried_writeSetting root display text unlogged
    exact System.tried_also one (ih (one.continues.unlogged unlogged))

end Access

namespace Preload

variable {system : System}

def setting? (raw : Text) : Option Setting :=
  match readLine raw with
  | .setting setting => some setting
  | _ => none

/-- The lines of a preload file that are reached, as they are when they are read. -/
def reached (source : Path) (target : Target) (root : Path) (display : Display) :
    Nat → Nat → Reader → System → List Text
  | 0, _, _, _ => []
  | steps + 1, number, reader, system =>
    match reader.takeLine?, system.fault? .reading source with
    | none, some _ => []
    | _, _ =>
      match reader.next? (system.content target) with
      | none => []
      | some (raw, reader) =>
        raw :: (applyLine source.render root display number raw system).behind
          (reached source target root display steps (number + 1) reader)

def tried (source root : Path) (display : Display) (system : System) : List Setting :=
  match system.openExisting source with
  | .error _ => []
  | .ok target =>
    (reached source target root display (stepLimit (system.content target)) 1 Reader.start
      system).filterMap setting?

theorem tried_applyLine (source : Text) (root : Path) (display : Display) (number : Nat)
    (raw : Text) (unlogged : system.log = none) :
    System.Tried root (setting? raw).toList system
      (applyLine source root display number raw system).system := by
  unfold setting?
  cases read : readLine raw with
  | ignored =>
    rw [applyLine_of_ignored source root display number read]
    exact .nothing root system
  | malformed =>
    rw [applyLine_of_malformed source root display number read,
      System.recorded_of_unlogged _ unlogged]
    exact .nothing root system
  | setting setting =>
    have wrote := Access.tried_writeSetting root display setting.render unlogged
    rw [parse_of_readLine read] at wrote
    rw [applyLine_of_setting source root display number read]
    exact wrote

theorem filterMap_behind (outcome : Outcome Status) (raw : Text) (later : System → List Text) :
    (raw :: outcome.behind later).filterMap setting? =
      (setting? raw).toList ++ outcome.behind fun after => (later after).filterMap setting? := by
  rw [List.filterMap_cons, Outcome.behind, Outcome.behind]
  cases setting? raw <;> cases outcome.result <;> rfl

def taken (source : Path) (target : Target) (reader : Reader) (system : System) :
    Except (Except Abort Status) (Text × Reader) :=
  match reader.takeLine?, system.fault? .reading source with
  | none, some errno => .error (.error (.refused errno (some source)))
  | _, _ =>
    match reader.next? (system.content target) with
    | none => .error (.ok .success)
    | some taken => .ok taken

theorem reached_of_taken (source : Path) (target : Target) (root : Path) (display : Display)
    (steps number : Nat) (reader : Reader) (system : System) :
    reached source target root display (steps + 1) number reader system =
      match taken source target reader system with
      | .error _ => []
      | .ok (raw, rest) =>
        raw :: (applyLine source.render root display number raw system).behind
          (reached source target root display steps (number + 1) rest) := by
  rw [reached, taken]
  cases reader.takeLine? <;> cases system.fault? .reading source <;>
    cases reader.next? (system.content target) <;> rfl

theorem applyLines_of_taken (source : Path) (target : Target) (root : Path) (display : Display)
    (steps number : Nat) (reader : Reader) (system : System) :
    applyLines source target root display (steps + 1) number reader system =
      match taken source target reader system with
      | .error result => ⟨result, [], [], system⟩
      | .ok (raw, rest) =>
        (applyLine source.render root display number raw).also
          (applyLines source target root display steps (number + 1) rest) system := by
  rw [applyLines, Action.get_bind, taken]
  cases reader.takeLine? <;> cases system.fault? .reading source <;>
    cases reader.next? (system.content target) <;> rfl

theorem tried_applyLines (source : Path) (target : Target) (root : Path) (display : Display)
    (steps number : Nat) (reader : Reader) (unlogged : system.log = none) :
    System.Tried root
      ((reached source target root display steps number reader system).filterMap setting?) system
      (applyLines source target root display steps number reader system).system := by
  -- What a line changes may be the preload file itself, so the lines behind it are those that are
  -- read afterwards.
  induction steps generalizing number reader system with
  | zero => exact .nothing root system
  | succ steps ih =>
    rw [reached_of_taken, applyLines_of_taken]
    rcases taken source target reader system with result | ⟨raw, rest⟩
    · exact .nothing root system
    · have one := tried_applyLine source.render root display number raw unlogged
      dsimp only
      rw [filterMap_behind]
      exact System.tried_also one (ih (number + 1) rest (one.continues.unlogged unlogged))

theorem work_closing {α : Type} (path : Path) (action : Action α) (system : System) :
    (closing path action system).work = (action system).work := by
  unfold closing
  dsimp only
  split <;> rfl

theorem closing_system {α : Type} (path : Path) (action : Action α) (system : System) :
    (closing path action system).system = (action system).system :=
  congrArg (·.2.2) (work_closing path action system)

theorem tried_apply (source root : Path) (display : Display) (unlogged : system.log = none) :
    System.Tried root (tried source root display system) system
      (apply source root display system).system := by
  simp only [apply, tried]
  rw [Action.get_bind]
  cases system.openExisting source with
  | error trouble =>
    cases trouble with
    | abort reason => exact .nothing root system
    | errno errno =>
      dsimp only
      rw [Action.bind_of_ok (Access.log_eq _ system), Access.report_eq,
        System.recorded_of_unlogged _ unlogged]
      exact .nothing root system
  | ok target =>
    dsimp only
    rw [closing_system]
    exact tried_applyLines source target root display _ 1 Reader.start unlogged

end Preload

namespace Action

theorem all_system {actions : List (Action Status)} {system : System}
    (still : ∀ action ∈ actions, (action system).system = system) :
    (all actions system).system = system := by
  induction actions with
  | nil => rfl
  | cons action actions ih =>
    have first := still action List.mem_cons_self
    rw [all]
    rcases ran : action system with ⟨reason | status, out, err, after⟩ <;> rw [ran] at first
    · rw [also_of_error ran]
      exact first
    · rw [also_of_ok ran]
      dsimp only at first ⊢
      rw [first]
      exact ih fun other member => still other (List.mem_cons_of_mem action member)

end Action

theorem Listing.displayAll_system (root : Path) (display : Display) {system : System}
    (unlogged : system.log = none) : (displayAll root display root system).system = system := by
  cases nul : root.hasNul with
  | true =>
    simp only [displayAll, nul, if_true]
    rfl
  | false =>
    obtain ⟨status, ran, -⟩ := displayAll_eq display unlogged nul
    rw [ran]

namespace Command

variable {program : Text} {config : Config} {system : System}

def asked (arguments : List Text) : List Text := (live arguments).dropWhile isDisplaySwitch

def shown (arguments : List Text) : Display :=
  displayOf ((live arguments).takeWhile isDisplaySwitch)

def asksToWrite : List Text → Bool
  | [] => false
  | first :: _ => isSwitch 'w' first || isSwitch 'p' first

def requested (config : Config) (display : Display) : List Text → System → List Setting
  | [], _ => []
  | first :: later, system =>
    if isSwitch 'w' first then Access.tried config.root display later system
    else if isSwitch 'p' first then
      Preload.tried (preloadSource config later) config.root display system
    else []

/-- The settings that a run tries to write, in order. -/
def tried (config : Config) (arguments : List Text) (system : System) : List Setting :=
  requested config (shown arguments) (asked arguments) system

theorem run_eq_request (program : Text) (config : Config) {arguments : List Text}
    (given : arguments ≠ []) :
    run program config arguments = request program config (shown arguments) (asked arguments) := by
  rw [run_of_ne_nil program config given]
  exact switches_eq_request program config [] arguments

theorem requested_of_read (display : Display) {arguments : List Text}
    (reading : asksToWrite arguments = false) :
    requested config display arguments system = [] := by
  cases arguments with
  | nil => rfl
  | cons first later =>
    rw [asksToWrite, Bool.or_eq_false_iff] at reading
    simp only [requested, reading.1, reading.2, Bool.false_eq_true, if_false]

theorem request_system_of_read (display : Display) {arguments : List Text}
    (reading : asksToWrite arguments = false) (unlogged : system.log = none) :
    (request program config display arguments system).system = system := by
  cases arguments with
  | nil => rfl
  | cons first later =>
    rw [asksToWrite, Bool.or_eq_false_iff] at reading
    simp only [request, reading.1, reading.2, Bool.false_eq_true, if_false]
    split
    · exact Listing.displayAll_system config.root display unlogged
    split
    · rfl
    split
    · rfl
    · refine Action.all_system fun action member => ?_
      obtain ⟨key, -, rfl⟩ := List.mem_map.mp member
      exact Access.readSetting_system config.root display key unlogged

theorem run_system_of_read {arguments : List Text}
    (reading : asksToWrite (asked arguments) = false) (unlogged : system.log = none) :
    (run program config arguments system).system = system := by
  by_cases given : arguments = []
  · rw [given, run, usage_eq]
    rfl
  · rw [run_eq_request program config given]
    exact request_system_of_read (shown arguments) reading unlogged

theorem tried_run (program : Text) (config : Config) (arguments : List Text)
    (unlogged : system.log = none) :
    System.Tried config.root (tried config arguments system) system
      (run program config arguments system).system := by
  cases writing : asksToWrite (asked arguments) with
  | false =>
    rw [tried, requested_of_read _ writing, run_system_of_read writing unlogged]
    exact .nothing config.root system
  | true =>
    have given : arguments ≠ [] := by
      rintro rfl
      cases writing
    rw [run_eq_request program config given, tried]
    cases request : asked arguments with
    | nil =>
      rw [request] at writing
      cases writing
    | cons first later =>
      rw [request, asksToWrite, Bool.or_eq_true] at writing
      rw [Command.request, requested]
      by_cases write : isSwitch 'w' first = true
      · rw [if_pos write, if_pos write]
        exact Access.tried_all config.root (shown arguments) later unlogged
      · have preload := writing.resolve_left write
        rw [if_neg write, if_neg write, if_pos preload, if_pos preload]
        exact Preload.tried_apply (preloadSource config later) config.root (shown arguments)
          unlogged

/-- Whatever becomes of a run, it makes, removes and links nothing. A file's content is decided by
the last setting tried that was opened on it; without any it stays. -/
theorem run_leaves (program : Text) (config : Config) (arguments : List Text)
    (unlogged : system.log = none) :
    let after := (run program config arguments system).system
    let tried := tried config arguments system
    FileSystem.SameShape system.files after.files ∧ after.faults = system.faults ∧
      (∀ location, after.files.content location =
        match (tried.filter (system.opens config.root location)).getLast? with
        | none => system.files.content location
        | some setting =>
          if setting.value.hasStray ∨
              (system.loss? (Access.resolve config.root setting.name)).isSome then []
          else Utf8.encode setting.line) ∧
      (∀ location, after.files.content location ≠ system.files.content location →
        ∃ setting ∈ tried, Place.ofPath system.files (Access.resolve config.root setting.name) =
          .ok (.file location)) ∧
      (asksToWrite (asked arguments) = false → after = system) := by
  intro after tried
  obtain ⟨⟨⟨files, faults⟩, -⟩, content⟩ := tried_run program config arguments unlogged
  refine ⟨files, faults.symm, fun location => ?_, fun location changed => ?_, fun reading => ?_⟩
  · refine (content location).trans ?_
    simp only [System.contentAfter, System.leaves, System.left_eq, Setting.hasStray_line]
    rfl
  · rw [content location, System.contentAfter] at changed
    cases last : (tried.filter (system.opens config.root location)).getLast? with
    | none =>
      simp only [tried] at last
      rw [last] at changed
      exact absurd rfl changed
    | some setting =>
      obtain ⟨member, opened⟩ := List.mem_filter.mp (List.mem_of_getLast? last)
      exact ⟨setting, member, System.place_of_openExisting (of_decide_eq_true opened)⟩
  · exact run_system_of_read reading unlogged

open Sample in
theorem run_leaves_last : preloaded.log = none ∧
    (run "sysctl".text keyed ["-w".text, "one=2".text, "two=3".text, "one=4".text]
        preloaded).system.files.content [keys, one] = Utf8.encode "4\n".text := by
  have unlogged : preloaded.log = none := rfl
  obtain ⟨-, -, content, -⟩ := run_leaves "sysctl".text keyed
    ["-w".text, "one=2".text, "two=3".text, "one=4".text] unlogged
  refine ⟨unlogged, ?_⟩
  rw [content]
  decide

end Command

end Tunables
