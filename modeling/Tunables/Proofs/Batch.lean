import Tunables.Proofs.Applying
import Tunables.Proofs.Grammar

namespace Tunables

namespace Access

/-- What the settings are answered with on standard error, one after the other. The one that breaks
off has no answer, and none behind it has. -/
def reports (root : Path) (display : Display) : List Text → System → List Text
  | [], _ => []
  | text :: texts, system =>
    let outcome := writeSetting root display text system
    match outcome.result with
    | .error _ => []
    | .ok _ => outcome.err :: reports root display texts outcome.system

variable {root : Path} {display : Display} {text : Text} {system after : System} {out err : Text}

theorem reports_of_ok {status : Status} (texts : List Text)
    (ran : writeSetting root display text system = ⟨.ok status, out, err, after⟩) :
    reports root display (text :: texts) system = err :: reports root display texts after := by
  simp only [reports, ran]

theorem reports_of_error {reason : Abort} (texts : List Text)
    (ran : writeSetting root display text system = ⟨.error reason, out, err, after⟩) :
    reports root display (text :: texts) system = [] := by
  simp only [reports, ran]

theorem err_of_error {reason : Abort} (unlogged : system.log = none)
    (ran : writeSetting root display text system = ⟨.error reason, out, err, after⟩) :
    err = [] := by
  rw [writeSetting_eq root display text unlogged] at ran
  cases parsed : Setting.parse text with
  | error failure =>
    rw [parsed] at ran
    cases ran
  | ok setting =>
    rw [parsed] at ran
    dsimp only [written] at ran
    split at ran
    · cases ran
      rfl
    · cases ran
    · cases ran

theorem log_after (unlogged : system.log = none) {result : Except Abort Status}
    (ran : writeSetting root display text system = ⟨result, out, err, after⟩) :
    after.log = none := by
  have kept := (writeSetting_keeps root display text system).1.unlogged unlogged
  rwa [ran] at kept

theorem all_writeSetting (root : Path) (display : Display) (texts : List Text)
    (unlogged : system.log = none) :
    (Action.all (texts.map (writeSetting root display)) system).err =
        (reports root display texts system).flatten ∧
      ((reports root display texts system).length = texts.length ↔
        ∃ status, (Action.all (texts.map (writeSetting root display)) system).result =
          .ok status) := by
  induction texts generalizing system with
  | nil => exact ⟨rfl, iff_of_true rfl ⟨_, rfl⟩⟩
  | cons text texts ih =>
    rw [List.map_cons, Action.all]
    rcases ran : writeSetting root display text system with
      ⟨reason | status, out, err, after⟩
    · rw [Action.also_of_error ran, reports_of_error texts ran]
      refine ⟨err_of_error unlogged ran, iff_of_false ?_ ?_⟩
      · exact (Nat.succ_ne_zero texts.length).symm
      · rintro ⟨status, same⟩
        cases same
    · obtain ⟨same, complete⟩ := ih (log_after unlogged ran)
      rw [Action.also_of_ok ran, reports_of_ok texts ran]
      refine ⟨congrArg (err ++ ·) same, ?_⟩
      rw [List.length_cons, List.length_cons, Nat.add_right_cancel_iff, complete]
      dsimp only
      rcases (Action.all (texts.map (writeSetting root display)) after).result with
        reason | others
      · exact iff_of_false (by simp) (by simp [Except.map])
      · exact iff_of_true ⟨_, rfl⟩ ⟨_, rfl⟩

end Access

namespace Preload

def settings (entries : List (Nat × Option Setting)) : List Setting := entries.filterMap (·.2)

/-- A malformed line is warned of where it stands. A setting has the next of the reports, and where
there is none left the file is not gone on with. -/
def withWarnings (source : Text) : List (Nat × Option Setting) → List Text → Text
  | [], _ => []
  | (number, none) :: rest, reports =>
    badLine source number ++ .char '\n' :: withWarnings source rest reports
  | (_, some _) :: _, [] => []
  | (_, some _) :: rest, report :: reports => report ++ withWarnings source rest reports

theorem applyEach_eq_all (source : Text) (root : Path) (display : Display) (lines : List Text)
    (number : Nat) {system : System} (unlogged : system.log = none) :
    applyEach source root display number lines system =
      { Action.all (((settings (parseFrom number lines)).map Setting.render).map
          (Access.writeSetting root display)) system with
        err := withWarnings source (parseFrom number lines)
          (Access.reports root display
            ((settings (parseFrom number lines)).map Setting.render) system) } := by
  -- That nothing is logged is all that a line needs to know of the lines before it.
  induction lines generalizing number system with
  | nil => rfl
  | cons raw rest ih =>
    rw [applyEach]
    cases read : readLine raw with
    | ignored =>
      have nothing := applyLine_of_ignored source root display number read system
      rw [Action.also_of_ok nothing, ih (number + 1) unlogged]
      simp only [parseFrom, read, List.nil_append]
      cases (Action.all _ system).result <;> rfl
    | malformed =>
      have warned := applyLine_of_malformed source root display number read system
      rw [System.recorded_of_unlogged _ unlogged] at warned
      rw [Action.also_of_ok warned, ih (number + 1) unlogged]
      simp only [parseFrom, read, settings, List.filterMap_cons, withWarnings, List.nil_append,
        List.append_assoc, List.singleton_append]
      cases (Action.all _ system).result <;> rfl
    | setting setting =>
      have applied := applyLine_of_setting source root display number read
      rw [applied]
      simp only [parseFrom, read, settings, List.filterMap_cons, List.map_cons, Action.all]
      rcases ran : Access.writeSetting root display setting.render system with
        ⟨reason | status, out, err, after⟩
      · rw [Action.also_of_error ran, Action.also_of_error ran, Access.reports_of_error _ ran,
          Access.err_of_error unlogged ran]
        rfl
      · have unlogged' := Access.log_after unlogged ran
        rw [Action.also_of_ok ran, Action.also_of_ok ran, Access.reports_of_ok _ ran,
          ih (number + 1) unlogged']
        rfl

theorem mem_settings_parseFrom {lines : List Text} {raw : Text} {setting : Setting}
    (member : raw ∈ lines) (read : readLine raw = .setting setting) (number : Nat) :
    setting ∈ settings (parseFrom number lines) := by
  induction lines generalizing number with
  | nil => cases member
  | cons first rest ih =>
    unfold settings parseFrom
    rcases List.mem_cons.mp member with same | later
    · rw [← same, read]
      exact List.mem_cons_self
    · have inside := ih later (number + 1)
      cases readLine first with
      | ignored => exact inside
      | malformed => exact inside
      | setting other => exact List.mem_cons_of_mem other inside

end Preload

namespace Command

theorem run_of_ne_nil (program : Text) (config : Config) {arguments : List Text}
    (given : arguments ≠ []) :
    run program config arguments = switches program config .standard arguments := by
  cases arguments with
  | nil => exact absurd rfl given
  | cons argument rest => rfl

theorem live_of_filled {arguments : List Text} (filled : ∀ argument ∈ arguments, argument ≠ []) :
    live arguments = arguments := by
  induction arguments with
  | nil => rfl
  | cons argument rest ih =>
    rw [live_cons (filled argument List.mem_cons_self)]
    exact congrArg (argument :: ·) (ih fun other member =>
      filled other (List.mem_cons_of_mem argument member))

theorem live_flags {flags rest : List Text} {first : Text}
    (displayed : ∀ flag ∈ flags, isDisplaySwitch flag = true)
    (other : isDisplaySwitch first = false)
    (filled : ∀ argument ∈ first :: rest, argument ≠ []) :
    (live (flags ++ first :: rest)).takeWhile isDisplaySwitch = flags ∧
      (live (flags ++ first :: rest)).dropWhile isDisplaySwitch = first :: rest := by
  have alive : live (flags ++ first :: rest) = flags ++ first :: rest := by
    apply live_of_filled
    intro argument member
    rcases List.mem_append.mp member with flag | asked
    · rintro rfl
      exact absurd (displayed [] flag) (by decide)
    · exact filled argument asked
  rw [alive, List.takeWhile_append_of_pos displayed, List.dropWhile_append_of_pos displayed,
    List.takeWhile_cons_of_neg (by simp [other]), List.dropWhile_cons_of_neg (by simp [other]),
    List.append_nil]
  exact ⟨rfl, rfl⟩

theorem run_write (program : Text) (config : Config) {flags texts : List Text}
    (displayed : ∀ flag ∈ flags, isDisplaySwitch flag = true)
    (filled : ∀ text ∈ texts, text ≠ []) :
    run program config (flags ++ "-w".text :: texts) =
      Action.all (texts.map (Access.writeSetting config.root (displayOf flags))) := by
  have other : isDisplaySwitch "-w".text = false := by decide
  obtain ⟨shown, asked⟩ := live_flags displayed other
    (List.forall_mem_cons.mpr ⟨List.cons_ne_nil _ _, filled⟩)
  have given : flags ++ "-w".text :: texts ≠ [] :=
    List.append_ne_nil_of_right_ne_nil flags (List.cons_ne_nil _ _)
  have parsed := switches_eq_request program config [] (flags ++ "-w".text :: texts)
  rw [shown, asked, List.nil_append] at parsed
  rw [run_of_ne_nil program config given]
  exact parsed

end Command

namespace Preload

/-- A preload file does what its settings do behind `-w`. -/
theorem apply_eq_run (program : Text) (config : Config) {flags : List Text}
    (displayed : ∀ flag ∈ flags, Command.isDisplaySwitch flag = true) {source : Path}
    {target : Target} {system : System} (unlogged : system.log = none)
    (opened : system.openExisting source = .ok target)
    (readable : system.fault? .reading source = none)
    (closable : system.fault? .closing source = none)
    (untouched : ∀ setting ∈
        settings (parse (Newline.lines (Access.decode (system.content target)))),
      system.openExisting (Access.resolve config.root setting.name) ≠ .ok target) :
    let entries := parse (Newline.lines (Access.decode (system.content target)))
    let texts := (settings entries).map Setting.render
    let batch := Command.run program config (flags ++ "-w".text :: texts) system
    let reports := Access.reports config.root (Command.displayOf flags) texts system
    apply source config.root (Command.displayOf flags) system =
        { batch with err := withWarnings source.render entries reports } ∧
      batch.err = reports.flatten ∧
      (reports.length = texts.length ↔ ∃ status, batch.result = .ok status) := by
  intro entries texts batch reports
  have filled : ∀ text ∈ texts, text ≠ [] := by
    intro text member
    obtain ⟨setting, -, rendered⟩ := List.mem_map.mp member
    rw [← rendered]
    exact List.append_ne_nil_of_right_ne_nil setting.name (List.cons_ne_nil _ _)
  have ran : batch = Action.all
      (texts.map (Access.writeSetting config.root (Command.displayOf flags))) system :=
    congrFun (Command.run_write program config displayed filled) system
  constructor
  · rw [apply_eq_applyEach _ unlogged opened readable closable, ran]
    · exact applyEach_eq_all _ _ _ _ 1 unlogged
    · intro raw member setting read
      exact untouched setting (mem_settings_parseFrom member read 1)
  · rw [ran]
    exact Access.all_writeSetting config.root (Command.displayOf flags) texts unlogged

end Preload

namespace Sample

def keys : Name := ⟨"keys".toList, by decide⟩

def one : Name := ⟨"one".toList, by decide⟩

def preload : Name := ⟨"preload".toList, by decide⟩

def preloaded : System where
  files := ⟨[([keys], .directory), ([keys, one], .file []),
    ([preload], .file (Utf8.encode "one = 1\nbad\ntwo = 2\n".text))], []⟩
  faults := []
  log := none
  clock := ⟨[], []⟩

def keyed : Config := { Config.standard with root := ⟨.relative, [keys.text]⟩ }

end Sample

namespace Preload

open Sample

theorem lines_preloaded :
    Newline.lines (Access.decode (preloaded.content (.file [preload]))) =
      ["one = 1\n".text, "bad\n".text, "two = 2\n".text] := by
  have decoded : Access.decode (preloaded.content (.file [preload])) =
      Newline.unified "one = 1\nbad\ntwo = 2\n".text :=
    congrArg Newline.unified (Utf8.decode_encode (by decide))
  rw [decoded]
  decide

theorem parse_preloaded :
    parse (Newline.lines (Access.decode (preloaded.content (.file [preload])))) =
      [(1, some ⟨one.text, ['1']⟩), (2, none), (3, some ⟨"two".text, ['2']⟩)] := by
  rw [lines_preloaded]
  decide

theorem apply_preloaded :
    (∀ flag ∈ ["-n".text], Command.isDisplaySwitch flag = true) ∧ preloaded.log = none ∧
    preloaded.openExisting ⟨.relative, [preload.text]⟩ = .ok (.file [preload]) ∧
    preloaded.fault? .reading ⟨.relative, [preload.text]⟩ = none ∧
    preloaded.fault? .closing ⟨.relative, [preload.text]⟩ = none ∧
    apply ⟨.relative, [preload.text]⟩ keyed.root ⟨false, true⟩ preloaded =
      { Command.run "sysctl".text keyed ["-n".text, "-w".text, "one=1".text, "two=2".text]
          preloaded with
        err := "warning: preload(2): invalid syntax, continuing...\n".text ++
          "error: 'two' is an unknown key\n".text } := by
  have displayed : ∀ flag ∈ ["-n".text], Command.isDisplaySwitch flag = true := by decide
  have opened : preloaded.openExisting ⟨.relative, [preload.text]⟩ = .ok (.file [preload]) := by
    decide
  have readable : preloaded.fault? .reading ⟨.relative, [preload.text]⟩ = none := by decide
  have closable : preloaded.fault? .closing ⟨.relative, [preload.text]⟩ = none := by decide
  have untouched : ∀ setting ∈ settings
        (parse (Newline.lines (Access.decode (preloaded.content (.file [preload]))))),
      preloaded.openExisting (Access.resolve keyed.root setting.name) ≠ .ok (.file [preload]) := by
    rw [parse_preloaded]
    decide
  have agree := (apply_eq_run "sysctl".text keyed displayed rfl opened readable closable
    untouched).1
  have reported : Access.reports keyed.root ⟨false, true⟩ ["one=1".text, "two=2".text]
      preloaded = [[], "error: 'two' is an unknown key\n".text] := by decide
  refine ⟨displayed, rfl, opened, readable, closable, ?_⟩
  have texts : (settings [(1, some ⟨one.text, ['1']⟩), (2, none),
      (3, some ⟨"two".text, ['2']⟩)]).map Setting.render = ["one=1".text, "two=2".text] := by decide
  have shown : Command.displayOf ["-n".text] = ⟨false, true⟩ := rfl
  rw [parse_preloaded, texts, shown, reported] at agree
  exact agree.trans (congrArg (Outcome.mk _ _ · _) (by decide))

end Preload

end Tunables
