import Tunables.Program
import Tunables.Proofs.Listed
import Tunables.Proofs.Statuses

namespace Tunables

theorem Action.eq_of_map {α β : Type} {action : Action α} {constant value : β} {system : System}
    (ended : (action.map (fun _ => constant) system).result = .ok value) : value = constant := by
  rw [map] at ended
  dsimp only at ended
  cases result : (action system).result with
  | error reason =>
    rw [result] at ended
    cases ended
  | ok before =>
    rw [result] at ended
    exact (Except.ok.inj ended).symm

namespace Listing

variable {root : Path} {system : System} {found : Visit} {status : Status}

/-- Whether a visit comes to a directory that cannot be listed or a key that cannot be read. -/
def fails (root : Path) (found : Visit) (system : System) : Bool :=
  match found with
  | .key path => (key? root (.key path)).any (Access.fails root · system)
  | .unlisted _ _ => true
  | .uninspected _ _ => false

theorem status_of_visit {display : Display}
    (answered : (visit root display found system).result = .ok status) :
    status = if fails root found system then .failure else .success := by
  cases found with
  | unlisted path errno =>
    rw [visit_unlisted] at answered
    exact (Except.ok.inj answered).symm
  | uninspected path errno =>
    rw [visit_uninspected] at answered
    exact (Except.ok.inj answered).symm
  | key path =>
    cases named : key? root (.key path) with
    | none =>
      have outside : Path.below? root path = none := Option.map_eq_none_iff.mp named
      simp only [visit, outside] at answered
      cases answered
    | some key =>
      rw [visit_of_key? named] at answered
      rw [fails, named, Option.any_some]
      exact Access.status_of_read answered

end Listing

namespace Command

variable {program : Text} {config : Config} {display : Display} {system : System} {status : Status}

def Mode.writes (root : Path) (display : Display) (system : System) : Mode → List (Text × System)
  | .write texts => Action.met (Access.writeSetting root display) texts system
  | _ => []

def Mode.visits (root : Path) (display : Display) (system : System) :
    Mode → List (Visit × System)
  | .list => Action.met (Listing.visit root display) (Survey.below system root) system
  | _ => []

def Mode.isUsage : Mode → Bool
  | .usage _ => true
  | _ => false

/-- A usage error, a setting that is not written, or a directory or key that a listing misses. -/
def Mode.Fails (root : Path) (display : Display) (system : System) (mode : Mode) : Prop :=
  mode.isUsage = true ∨
    (∃ step ∈ mode.writes root display system, ¬Access.Writes root step.2 step.1) ∨
    ∃ step ∈ mode.visits root display system, Listing.fails root step.1 step.2 = true

def Mode.shares (root : Path) (display : Display) (system : System) (mode : Mode) : List Status :=
  (if mode.isUsage then [.failure] else []) ++
    (mode.writes root display system).map (fun step => Access.share root step.1 step.2) ++
    (mode.visits root display system).map fun step =>
      if Listing.fails root step.1 step.2 then .failure else .success

theorem Mode.eq_all_shares {mode : Mode}
    (ended : (mode.act program config display system).result = .ok status) :
    status = Status.all (mode.shares config.root display system) := by
  cases mode with
  | usage complaint => exact (Except.ok.inj ended).symm
  | write texts =>
    have shares := (Action.result_all_of_share (Access.share config.root)
      (fun _ _ _ => Access.share_of_result) ended).2.2
    exact shares.trans (congrArg Status.all (List.append_nil _).symm)
  | list =>
    cases nul : config.root.hasNul with
    | true =>
      simp only [Mode.act, Listing.displayAll, nul, if_true] at ended
      cases ended
    | false =>
      rw [Mode.act, Listing.displayAll_of_proper nul] at ended
      exact (Action.result_all_of_share _ (fun _ _ _ => Listing.status_of_visit) ended).2.2
  | preload named => exact Action.eq_of_map ended
  | read keys => exact Action.eq_of_map ended

theorem Mode.all_shares_eq_success_iff (root : Path) (display : Display) (system : System)
    (mode : Mode) :
    Status.all (mode.shares root display system) = .success ↔
      ¬mode.Fails root display system := by
  have usage : (∀ status ∈ if mode.isUsage then [Status.failure] else [], status = .success) ↔
      ¬mode.isUsage = true := by
    cases mode.isUsage <;> decide
  rw [Status.all_eq_success_iff, shares, List.forall_mem_append, List.forall_mem_append, usage,
    List.forall_mem_map, List.forall_mem_map, Fails, not_or, not_or, and_assoc]
  simp only [Access.share_eq_success_iff, Status.ite_eq_success_iff, not_exists, not_and, not_not,
    Bool.not_eq_true]

/-- One failure is enough, unless it is that of a setting without a name or a value. -/
theorem Mode.all_shares_eq_failure_iff (root : Path) (display : Display) (system : System)
    (mode : Mode) :
    Status.all (mode.shares root display system) = .failure ↔
      mode.isUsage = true ∨
        (∃ step ∈ mode.writes root display system,
          ¬Access.Writes root step.2 step.1 ∧ ¬Setting.LacksSide step.1) ∨
        ∃ step ∈ mode.visits root display system, Listing.fails root step.1 step.2 = true := by
  have usage : Status.failure ∈ (if mode.isUsage then [Status.failure] else []) ↔
      mode.isUsage = true := by
    cases mode.isUsage <;> decide
  rw [Status.all_eq_failure_iff, shares, List.mem_append, List.mem_append, usage, or_assoc,
    List.mem_map, List.mem_map]
  simp only [Access.share_eq_failure_iff, Status.ite_eq_failure_iff]

end Command

namespace Program

def prepare (environment : Environment) : Action Config := do
  let config ← Config.load environment
  Audit.configure config.log
  Action.pure config

theorem run_eq_prepare (environment : Environment) (arguments : List Text) :
    run environment arguments = (do
      let config ← prepare environment
      Command.run (name environment arguments) config arguments.tail) := by
  unfold run prepare
  simp only [bind, Action.bind_assoc, Action.pure_bind]

/-- The exit code is 0 unless something fails that is counted: a usage error, a setting behind `-w`,
or a directory or a key of a listing. It is 255 unless all that fails is settings that lack a
side. -/
theorem exitCode_run (environment : Environment) (arguments : List Text) {system : System}
    {status : Status} (returned : (run environment arguments system).result = .ok status) :
    ∃ config, (prepare environment system).result = .ok config ∧
      let prepared := (prepare environment system).system
      let mode := Command.mode arguments.tail
      let display := Command.shown arguments.tail
      status.exitCode ∈ [0, 254, 255] ∧
      (status.exitCode = 0 ↔ ¬mode.Fails config.root display prepared) ∧
      (status.exitCode = 255 ↔ mode.isUsage = true ∨
        (∃ step ∈ mode.writes config.root display prepared,
          ¬Access.Writes config.root step.2 step.1 ∧ ¬Setting.LacksSide step.1) ∨
        ∃ step ∈ mode.visits config.root display prepared,
          Listing.fails config.root step.1 step.2 = true) := by
  rw [run_eq_prepare, Action.bind_eq_ok_iff] at returned
  obtain ⟨config, ready, ended⟩ := returned
  rw [Command.run_eq_act] at ended
  have counted := Command.Mode.eq_all_shares ended
  refine ⟨config, ready, status.exitCode_mem, ?_, ?_⟩
  · rw [Status.exitCode_eq_zero_iff, counted]
    exact Command.Mode.all_shares_eq_success_iff _ _ _ _
  · rw [Status.exitCode_eq_failure_iff, counted]
    exact Command.Mode.all_shares_eq_failure_iff _ _ _ _

end Program

namespace Sample

def proc : Name := ⟨"proc".toList, by decide⟩

/-- A key that cannot be read, where the keys are if no configuration says otherwise. -/
def unreadable : System where
  files := ⟨[([proc], .directory), ([proc, sys], .directory), ([proc, sys, one], .file [])], []⟩
  faults := [⟨"/proc/sys/one".text, .reading, .accessDenied⟩]
  log := none
  clock := ⟨[], []⟩

def etc : Name := ⟨"etc".toList, by decide⟩

def sysctlConf : Name := ⟨"sysctl.conf".toList, by decide⟩

/-- The file that `-p` applies if no configuration says otherwise is a link from the top. -/
def installed : System :=
  { preloaded with
    files := (preloaded.files.add [etc] .directory).add [etc, sysctlConf] (.link "/preload".text) }

def bare : Environment where
  program := "sysctl".text
  homes := ⟨"home".text, []⟩
  personal := ⟨.relative, ["none".text]⟩
  named := none

end Sample

namespace Program

open Sample

theorem exitCode_unreadable :
    ∃ status, (run bare ["sysctl".text, "-n".text, "-a".text] unreadable).result =
        .ok status ∧
      (run bare ["sysctl".text, "-n".text, "-a".text] unreadable).err =
        "error: permission denied on key 'one'\n".text ∧
      status.exitCode = 255 := by
  have returned : (run bare ["sysctl".text, "-n".text, "-a".text] unreadable).result =
      .ok .failure := by decide
  obtain ⟨config, ready, -, -, failing⟩ := exitCode_run bare _ returned
  have standard : (prepare bare unreadable).result = .ok .standard := by decide
  cases ready.symm.trans standard
  exact ⟨_, returned, by decide, failing.mpr (.inr (.inr (by decide)))⟩

theorem apply_unwritten :
    Preload.apply Config.standard.preload Config.standard.root .standard installed =
      ⟨.ok .failure, [], "error: 'one' is an unknown key\n".text ++
        "warning: /etc/sysctl.conf(2): invalid syntax, continuing...\n".text ++
        "error: 'two' is an unknown key\n".text, installed⟩ := by
  have lines : Newline.lines (Access.decode (installed.content (.file [preload]))) =
      ["one = 1\n".text, "bad\n".text, "two = 2\n".text] := Preload.lines_preloaded
  have opened : installed.openExisting Config.standard.preload = .ok (.file [preload]) := by
    decide
  have untouched : ∀ setting ∈ Preload.settings
        (Preload.parse (Newline.lines (Access.decode (installed.content (.file [preload]))))),
      installed.openExisting (Access.resolve Config.standard.root setting.name) ≠
        .ok (.file [preload]) := by
    rw [lines]
    decide
  rw [Preload.apply_eq_applyEach .standard rfl opened (by decide) (by decide)
    fun raw member setting read =>
      untouched setting (Preload.mem_settings_parseFrom member read 1), lines]
  decide

/-- Failures that the exit code does not show as such: a setting without a value has a code of its
own, and what fails in a preload file is not counted. -/
theorem exitCode_exceptions :
    (∃ status, (run bare ["sysctl".text, "-w".text, "a=".text] installed).result =
        .ok status ∧
      ¬Access.Writes Config.standard.root installed "a=".text ∧ status.exitCode = 254) ∧
    ∃ status, (run bare ["sysctl".text, "-p".text] installed).result =
        .ok status ∧
      ¬Access.Writes Config.standard.root installed "one=1".text ∧
      (run bare ["sysctl".text, "-p".text] installed).err =
        "error: 'one' is an unknown key\n".text ++
          "warning: /etc/sysctl.conf(2): invalid syntax, continuing...\n".text ++
          "error: 'two' is an unknown key\n".text ∧
      status.exitCode = 0 := by
  have unwritten : ∀ text ∈ ["a=".text, "one=1".text],
      ¬Access.Writes Config.standard.root installed text := by
    intro text member
    rw [← Access.share_eq_success_iff]
    revert text
    decide
  have ready : prepare bare installed = ⟨.ok .standard, [], [], installed⟩ := by decide
  have asks : Command.mode ["-p".text] = .preload [] := by decide
  have ran : run bare ["sysctl".text, "-p".text] installed =
      ((Preload.apply Config.standard.preload Config.standard.root .standard).map
        fun _ => .success) installed := by
    have asked : Command.run "sysctl".text .standard ["-p".text] =
        (Preload.apply Config.standard.preload Config.standard.root .standard).map
          fun _ => .success := by
      rw [Command.run_eq_act, asks]
      rfl
    have called : name bare ["sysctl".text, "-p".text] = "sysctl".text := by
      decide
    rw [run_eq_prepare, Action.bind_of_ok ready, called, List.tail_cons, asked, List.nil_append,
      List.nil_append]
  constructor
  · exact ⟨.malformed, by decide, unwritten _ List.mem_cons_self, rfl⟩
  · rw [ran, Action.map, apply_unwritten]
    have missing := unwritten "one=1".text (by decide)
    exact ⟨.success, rfl, missing, rfl, rfl⟩

end Program

end Tunables
