import Tunables.Proofs.Modes
import Tunables.Proofs.Overwriting

namespace Tunables

def System.Spares (system : System) (root source : Path) (settings : List Setting) : Prop :=
  ∀ target, system.openExisting source = .ok target →
    ∀ setting ∈ settings, system.openExisting (Access.resolve root setting.name) ≠ .ok target

namespace System

variable {before after : System} {root source : Path} {settings others : List Setting}

theorem Spares.mono (spares : before.Spares root source settings) (fewer : others ⊆ settings) :
    before.Spares root source others :=
  fun target opened setting member => spares target opened setting (fewer member)

theorem Similar.spares (similar : Similar before after)
    (spares : before.Spares root source settings) : after.Spares root source settings := by
  intro target opened setting member
  rw [← similar.openExisting] at opened ⊢
  exact spares target opened setting member

end System

namespace Access

theorem exists_amountsTo_all {system : System} (root : Path) (display : Display)
    (texts : List Text) (unlogged : system.log = none) :
    ∃ writes, Action.AmountsTo [] system
      (Action.all (texts.map (writeSetting root display))) writes := by
  induction texts generalizing system with
  | nil => exact ⟨[], .const [] system _ _ _⟩
  | cons text texts ih =>
    have one : Action.AmountsTo [] system (writeSetting root display text)
        (change? root system text).toList :=
      amountsTo_writeSetting display unlogged nofun
    apply Action.exists_amountsTo_also ⟨_, one⟩
    intro _ _
    exact ih (one.alike.log.trans unlogged)

end Access

namespace Preload

variable {reads : List Target} {system state : System} {root : Path} {target : Target}

theorem exists_amountsTo_applyLine (source : Text) (display : Display) (number : Nat) {raw : Text}
    (unlogged : system.log = none)
    (elsewhere : ∀ target ∈ reads, ∀ setting, setting? raw = some setting →
      system.openExisting (Access.resolve root setting.name) ≠ .ok target) :
    ∃ writes, Action.AmountsTo reads system (applyLine source root display number raw) writes := by
  cases read : readLine raw with
  | ignored =>
    have nothing := applyLine_of_ignored source root display number read
    rw [funext nothing]
    exact ⟨[], .const reads system _ _ _⟩
  | malformed =>
    have warned := applyLine_of_malformed source root display number read
    refine ⟨[], .congr (fun state alike => ?_) (.const reads system (.ok .success) []
      (badLine source number ++ [.char '\n']))⟩
    rw [warned, System.recorded_of_unlogged _ (alike.log.trans unlogged)]
  | setting setting =>
    rw [applyLine_of_setting source root display number read]
    refine ⟨_, Access.amountsTo_writeSetting display unlogged ?_⟩
    intro target inside other parsed
    rw [parse_of_readLine read] at parsed
    cases parsed
    apply elsewhere target inside setting
    rw [setting?, read]

theorem taken_alike (source : Path) (reader : Reader) (alike : System.Alike [target] system state) :
    taken source target reader state = taken source target reader system := by
  simp only [taken, alike.similar.fault?, alike.content target List.mem_cons_self]

theorem exists_amountsTo_applyLines (source : Path) (display : Display) (steps number : Nat)
    (reader : Reader) (unlogged : system.log = none)
    (spared : ∀ setting ∈
        (reached source target root display steps number reader system).filterMap setting?,
      system.openExisting (Access.resolve root setting.name) ≠ .ok target) :
    ∃ writes, Action.AmountsTo [target] system
      (applyLines source target root display steps number reader) writes := by
  -- The lines that are reached leave the file alone, so the next ones are the same whenever they
  -- are read.
  induction steps generalizing number reader system with
  | zero => exact ⟨[], .const [target] system _ _ _⟩
  | succ steps ih =>
    rw [reached_of_taken] at spared
    cases ahead : taken source target reader system with
    | error result =>
      refine ⟨[], .congr (fun state alike => ?_) (.const [target] system result [] [])⟩
      rw [applyLines_of_taken, taken_alike source reader alike, ahead]
    | ok step =>
      obtain ⟨raw, rest⟩ := step
      rw [ahead] at spared
      dsimp only at spared
      rw [filterMap_behind, List.forall_mem_append] at spared
      have line : ∃ writes, Action.AmountsTo [target] system
          (applyLine source.render root display number raw) writes := by
        apply exists_amountsTo_applyLine source.render display number unlogged
        intro other inside setting here
        rw [List.mem_singleton.mp inside]
        exact spared.1 setting (Option.mem_toList.mpr here)
      have both : ∃ writes, Action.AmountsTo [target] system
          ((applyLine source.render root display number raw).also
            (applyLines source target root display steps (number + 1) rest)) writes := by
        apply Action.exists_amountsTo_also line
        intro status answered
        obtain ⟨writes, amounts⟩ := line
        apply ih (number + 1) rest (amounts.alike.log.trans unlogged)
        intro setting behind
        rw [← amounts.alike.similar.openExisting]
        apply spared.2 setting
        rw [Outcome.behind, answered]
        exact behind
      obtain ⟨writes, amounts⟩ := both
      refine ⟨writes, .congr (fun state alike => ?_) amounts⟩
      rw [applyLines_of_taken, taken_alike source reader alike, ahead]

theorem amountsTo_closing {α : Type} {action : Action α} {writes : List (Location × Bytes)}
    (path : Path) (amounts : Action.AmountsTo reads system action writes) :
    Action.AmountsTo reads system (closing path action) writes := by
  refine ⟨amounts.apart, fun state alike => ?_⟩
  have after := alike.trans (state.alike_writeAll amounts.apart)
  have there : (state.writeAll writes).fault? .closing path = system.fault? .closing path :=
    (after.similar.fault? .closing path).symm
  have here : (action system).system.fault? .closing path = system.fault? .closing path :=
    (amounts.alike.similar.fault? .closing path).symm
  simp only [closing, amounts.ran state alike, there, here]
  cases system.fault? .closing path <;> rfl

theorem exists_amountsTo_apply {source : Path} (display : Display) (unlogged : system.log = none)
    (spares : system.Spares root source (tried source root display system)) :
    ∃ reads writes, Action.AmountsTo reads system (apply source root display) writes := by
  cases opened : system.openExisting source with
  | error trouble =>
    cases trouble with
    | abort reason =>
      refine ⟨[], [], .congr (fun state alike => ?_) (.const [] system (.error reason) [] [])⟩
      rw [apply, Action.get_bind, ← alike.similar.openExisting, opened]
      rfl
    | errno errno =>
      refine ⟨[], [], .congr (fun state alike => ?_)
        (.const [] system (.ok (Failure.preloadFile source.render).status) []
          ((Failure.preloadFile source.render).message ++ [.char '\n']))⟩
      rw [apply, Action.get_bind, ← alike.similar.openExisting, opened]
      dsimp only
      rw [Action.bind_of_ok (Access.log_eq _ state), Access.report_eq,
        System.recorded_of_unlogged _ (alike.log.trans unlogged)]
      rfl
  | ok target =>
    have spared := spares target opened
    rw [tried, opened] at spared
    obtain ⟨writes, amounts⟩ := exists_amountsTo_applyLines source display
      (stepLimit (system.content target)) 1 Reader.start unlogged spared
    refine ⟨[target], writes, .congr (fun state alike => ?_) (amountsTo_closing source amounts)⟩
    rw [apply, Action.get_bind, ← alike.similar.openExisting, opened]
    dsimp only
    rw [alike.content target List.mem_cons_self]

end Preload

namespace Command

variable {system : System}

def Mode.tried (config : Config) (display : Display) (system : System) : Mode → List Setting
  | write texts => Access.tried config.root display texts system
  | preload named => Preload.tried (preloadSource config named) config.root display system
  | _ => []

theorem tried_eq_mode (config : Config) (arguments : List Text) (system : System) :
    tried config arguments system = (mode arguments).tried config (shown arguments) system := by
  by_cases given : arguments = []
  · rw [given]
    rfl
  · rw [tried, mode, if_neg given]
    cases asked arguments with
    | nil => rfl
    | cons first later =>
      rw [requested, modeOf]
      repeat' split
      all_goals rfl

theorem Mode.act_again (program : Text) (config : Config) (display : Display)
    (unlogged : system.log = none) (mode : Mode)
    (spares : ∀ named, mode = .preload named →
      system.Spares config.root (preloadSource config named)
        (mode.tried config display system)) :
    mode.act program config display (mode.act program config display system).system =
      mode.act program config display system := by
  cases mode with
  | usage complaint => rfl
  | write texts =>
    obtain ⟨writes, amounts⟩ :=
      Access.exists_amountsTo_all config.root display texts unlogged
    exact amounts.again
  | preload named =>
    obtain ⟨reads, writes, amounts⟩ :=
      Preload.exists_amountsTo_apply display unlogged (spares named rfl)
    exact (amounts.map fun _ => Status.success).again
  | list =>
    rw [act, Listing.displayAll_system config.root display unlogged]
  | read keys =>
    have still : (Action.all (keys.map (Access.readSetting config.root display)) system).system =
        system := by
      apply Action.all_system
      intro action member
      obtain ⟨key, -, rfl⟩ := List.mem_map.mp member
      exact Access.readSetting_system config.root display key unlogged
    exact congrArg (act program config display (.read keys)) still

/-- Nothing is gained by running a command twice: its second outcome is its first one, in the status
or what broke it off, on both streams and in every file. -/
theorem run_again (program : Text) (config : Config) (arguments : List Text)
    (unlogged : system.log = none)
    (spares : ∀ named, mode arguments = .preload named →
      system.Spares config.root (preloadSource config named) (tried config arguments system)) :
    let first := run program config arguments system
    run program config arguments first.system = first := by
  rw [tried_eq_mode] at spares
  rw [run_eq_act]
  exact Mode.act_again program config (shown arguments) unlogged (mode arguments) spares

end Command

namespace Sample

def link : Name := ⟨"link".toList, by decide⟩

def shut : Name := ⟨"shut".toList, by decide⟩

/-- The preload file sets a key, the same key through a link, and one whose file cannot be written.
Its second line is malformed. -/
def repeated : System where
  files := ⟨[([keys], .directory), ([keys, one], .file []), ([keys, link], .link one.text),
    ([keys, shut], .file [51, 10]),
    ([preload], .file (Utf8.encode "one = 1\nbad\nlink = 2\nshut = 4\n".text))], []⟩
  faults := [⟨"keys/shut".text, .writing, .accessDenied⟩]
  log := none
  clock := ⟨[], []⟩

end Sample

namespace Command

open Sample

theorem run_again_repeated :
    let arguments := ["-p".text, preload.text]
    let first := run "sysctl".text keyed arguments repeated
    repeated.log = none ∧
    (∀ named, mode arguments = .preload named →
      repeated.Spares keyed.root (preloadSource keyed named) (tried keyed arguments repeated)) ∧
    first.err = "warning: preload(2): invalid syntax, continuing...\n".text ++
      "error: permission denied on key 'shut'\n".text ∧
    first.system.files.content [keys, one] = Utf8.encode "2\n".text ∧
    run "sysctl".text keyed arguments first.system = first := by
  intro arguments first
  have preloads : mode arguments = .preload [preload.text] := by decide
  have opened : repeated.openExisting (preloadSource keyed [preload.text]) =
      .ok (.file [preload]) := by decide
  have tried : tried keyed arguments repeated =
      [⟨one.text, "1".text⟩, ⟨link.text, "2".text⟩, ⟨shut.text, "4".text⟩] := by
    decide +kernel
  have spares : ∀ named, mode arguments = .preload named →
      repeated.Spares keyed.root (preloadSource keyed named)
        (Command.tried keyed arguments repeated) := by
    intro named asked target led
    cases preloads.symm.trans asked
    cases opened.symm.trans led
    rw [tried]
    decide
  refine ⟨rfl, spares, by decide +kernel, by decide +kernel, ?_⟩
  exact run_again "sysctl".text keyed arguments rfl spares

end Command

end Tunables
