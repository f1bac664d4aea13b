import Mathlib.Data.List.TakeWhile
import Tunables.Proofs.Batch
import Tunables.Proofs.Strays

namespace Tunables

namespace Preload

variable {source : Text} {root : Path} {display : Display} {raw : Text} {lines : List Text}
  {number : Nat} {first second system : System}

theorem continues_applyLine (source : Text) (root : Path) (display : Display) (number : Nat)
    (raw : Text) (system : System) :
    System.Continues system (applyLine source root display number raw system).system := by
  cases read : readLine raw with
  | ignored =>
    rw [applyLine_of_ignored source root display number read]
    exact .refl system
  | malformed =>
    rw [applyLine_of_malformed source root display number read]
    exact (system.recorded_keeps (.preloadBadLine source number)).1
  | setting setting =>
    rw [applyLine_of_setting source root display number read]
    exact (Access.writeSetting_keeps root display setting.render system).1

theorem applyLine_similar (similar : System.Similar first second) (source : Text) (root : Path)
    (display : Display) (number : Nat) (raw : Text) :
    (applyLine source root display number raw first).out =
        (applyLine source root display number raw second).out ∧
      (applyLine source root display number raw first).err =
        (applyLine source root display number raw second).err := by
  cases read : readLine raw with
  | ignored => simp only [applyLine_of_ignored source root display number read, and_self]
  | malformed => simp only [applyLine_of_malformed source root display number read, and_self]
  | setting setting =>
    rw [applyLine_of_setting source root display number read]
    exact (Access.writeSetting_similar similar root display setting.render).2

/-- A line whose name, if it has one, can be part of a path. -/
def isWhole (raw : Text) : Bool :=
  match readLine raw with
  | .setting setting => !Text.hasNul setting.name
  | _ => true

theorem isWhole_of_setting {setting : Setting} (read : readLine raw = .setting setting) :
    isWhole raw = !Text.hasNul setting.name := by
  simp only [isWhole, read]

theorem applyLine_of_whole (whole : isWhole raw = true) (decoded : raw.hasStray = false)
    (proper : root.hasNul = false) (source : Text) (display : Display) (number : Nat)
    (system : System) :
    ∃ status, (applyLine source root display number raw system).result = .ok status := by
  cases read : readLine raw with
  | ignored => exact ⟨_, by rw [applyLine_of_ignored source root display number read]⟩
  | malformed => exact ⟨_, by rw [applyLine_of_malformed source root display number read]⟩
  | setting setting =>
    rw [isWhole_of_setting read, Bool.not_eq_true', Text.hasNul_eq_false_iff] at whole
    rw [applyLine_of_setting source root display number read]
    refine (Access.writeSetting_answered_iff (fun parsed same => ?_) display system).mpr ?_
    · rw [parse_of_readLine read] at same
      cases same
      exact Access.hasNul_resolve proper whole
    · rintro ⟨parsed, target, same, -, stray, -⟩
      rw [parse_of_readLine read] at same
      cases same
      exact Bool.false_ne_true ((hasStray_of_readLine read decoded).symm.trans stray)

theorem applyLine_of_broken (broken : isWhole raw = false) (proper : root.hasNul = false)
    (source : Text) (display : Display) (number : Nat) (system : System) :
    applyLine source root display number raw system = ⟨.error .embeddedNul, [], [], system⟩ := by
  cases read : readLine raw with
  | ignored => simp [isWhole, read] at broken
  | malformed => simp [isWhole, read] at broken
  | setting setting =>
    rw [isWhole_of_setting read, Bool.not_eq_false', Text.hasNul_iff] at broken
    rw [applyLine_of_setting source root display number read]
    exact Access.writeSetting_of_nul (parse_of_readLine read)
      ((Access.hasNul_resolve_iff proper).mpr broken) display system

/-- What the lines are answered with when each is applied to one and the same system. -/
def answers (stream : Outcome Status → Text) (source : Text) (root : Path) (display : Display)
    (system : System) : Nat → List Text → Text
  | _, [] => []
  | number, raw :: rest =>
    stream (applyLine source root display number raw system) ++
      answers stream source root display system (number + 1) rest

/-- The lines before the first broken one are applied, and nothing behind them. -/
theorem applyEach_takeWhile (source : Text) (display : Display) (number : Nat)
    {lines : List Text} (decoded : ∀ line ∈ lines, line.hasStray = false)
    (proper : root.hasNul = false) (similar : System.Similar first system) :
    ∃ status out err after,
      out = answers (·.out) source root display first number (lines.takeWhile isWhole) ∧
      err = answers (·.err) source root display first number (lines.takeWhile isWhole) ∧
      applyEach source root display number (lines.takeWhile isWhole) system =
        ⟨.ok status, out, err, after⟩ ∧
      applyEach source root display number lines system =
        ⟨if lines.all isWhole then .ok status else .error .embeddedNul, out, err, after⟩ := by
  -- The system changes from line to line, but only in contents, and an answer does not depend on
  -- these.
  induction lines generalizing number system with
  | nil => exact ⟨.success, [], [], system, rfl, rfl, rfl, rfl⟩
  | cons raw rest ih =>
    rw [List.forall_mem_cons] at decoded
    cases whole : isWhole raw with
    | false =>
      have broken := applyLine_of_broken whole proper source display number system
      rw [List.takeWhile_cons_of_neg (by simp [whole]), List.all_cons, whole]
      refine ⟨.success, [], [], system, rfl, rfl, rfl, ?_⟩
      rw [applyEach, Action.also_of_error broken]
      rfl
    | true =>
      rw [List.takeWhile_cons_of_pos whole, List.all_cons, whole, Bool.true_and]
      obtain ⟨status, answered⟩ :=
        applyLine_of_whole whole decoded.1 proper source display number system
      obtain ⟨out, err⟩ := applyLine_similar similar source root display number raw
      have continues := continues_applyLine source root display number raw system
      obtain ⟨others, outs, errs, after, outs_eq, errs_eq, applied, ran⟩ :=
        ih (number + 1) decoded.2 (similar.trans continues.similar)
      rcases line : applyLine source root display number raw system with
        ⟨result, text, warned, later⟩
      rw [line] at answered out err applied ran
      cases answered
      refine ⟨status.combine others, text ++ outs, warned ++ errs, after, ?_, ?_, ?_, ?_⟩
      · rw [answers, out, outs_eq]
      · rw [answers, err, errs_eq]
      · rw [applyEach, Action.also_of_ok line, applied]
        rfl
      · rw [applyEach, Action.also_of_ok line, ran]
        cases rest.all isWhole <;> rfl

theorem all_isWhole_iff (number : Nat) (lines : List Text) :
    lines.all isWhole = true ↔
      ∀ setting ∈ settings (parseFrom number lines), Text.hasNul setting.name = false := by
  induction lines generalizing number with
  | nil => simp [settings, parseFrom]
  | cons raw rest ih =>
    rw [List.all_cons, Bool.and_eq_true, ih (number + 1)]
    cases read : readLine raw <;> simp [isWhole, settings, parseFrom, read]

/-- A preload file is applied to its end if no name in it has a NUL. One that has breaks it off: the
lines before that one are applied, and the lines behind it are neither applied nor warned of. -/
theorem apply_to_end_iff {source root : Path} (display : Display) {target : Target}
    {system : System} (proper : root.hasNul = false)
    (unlogged : target ∉ system.log.map (·.target))
    (opened : system.openExisting source = .ok target)
    (readable : system.fault? .reading source = none)
    (closable : system.fault? .closing source = none)
    (untouched : ∀ setting ∈
        settings (parse (Newline.lines (Access.decode (system.content target)))),
      system.openExisting (Access.resolve root setting.name) ≠ .ok target) :
    let lines := Newline.lines (Access.decode (system.content target))
    let applied := lines.takeWhile isWhole
    let out := answers (·.out) source.render root display system 1 applied
    let err := answers (·.err) source.render root display system 1 applied
    (∃ status after,
      applyEach source.render root display 1 applied system = ⟨.ok status, out, err, after⟩ ∧
      apply source root display system =
        ⟨if applied = lines then .ok status else .error .embeddedNul, out, err, after⟩) ∧
    (applied = lines ↔ ∀ setting ∈ settings (parse lines), .char '\x00' ∉ setting.name) := by
  intro lines applied out err
  have whole : applied = lines ↔ lines.all isWhole = true := by
    rw [List.takeWhile_eq_self_iff, List.all_eq_true]
  constructor
  · have decoded : ∀ line ∈ lines, line.hasStray = false := fun _ => Access.hasStray_of_line
    obtain ⟨status, _, _, after, rfl, rfl, first, ran⟩ :=
      applyEach_takeWhile source.render display 1 decoded proper (.refl system)
    refine ⟨status, after, first, ?_⟩
    rw [apply_of_opened display unlogged opened readable closable, ran]
    · simp only [whole, out, err, applied]
    · intro raw member setting read
      exact untouched setting (mem_settings_parseFrom member read 1)
  · rw [whole, all_isWhole_iff 1]
    simp only [Text.hasNul_eq_false_iff, parse]

end Preload

namespace Sample

def halted : System where
  files := ⟨[([keys], .directory), ([keys, one], .file []),
    ([preload], .file (Utf8.encode "a\x00 = 1\none = 2\n".text))], []⟩
  faults := []
  log := none
  clock := ⟨[], []⟩

end Sample

namespace Preload

open Sample

theorem apply_to_end_preloaded :
    keyed.root.hasNul = false ∧ (.file [preload]) ∉ preloaded.log.map (·.target) ∧
    preloaded.openExisting ⟨.relative, [preload.text]⟩ = .ok (.file [preload]) ∧
    preloaded.fault? .reading ⟨.relative, [preload.text]⟩ = none ∧
    preloaded.fault? .closing ⟨.relative, [preload.text]⟩ = none ∧
    (∃ status, (apply ⟨.relative, [preload.text]⟩ keyed.root .standard preloaded).result =
      .ok status) ∧
    (apply ⟨.relative, [preload.text]⟩ keyed.root .standard preloaded).out =
      "one = 1\n".text ∧
    (apply ⟨.relative, [preload.text]⟩ keyed.root .standard preloaded).err =
      "warning: preload(2): invalid syntax, continuing...\n".text ++
        "error: 'two' is an unknown key\n".text := by
  have proper : keyed.root.hasNul = false := by decide
  have unlogged : (.file [preload]) ∉ preloaded.log.map (·.target) := by simp [preloaded]
  have opened : preloaded.openExisting ⟨.relative, [preload.text]⟩ = .ok (.file [preload]) := by
    decide
  have readable : preloaded.fault? .reading ⟨.relative, [preload.text]⟩ = none := by decide
  have closable : preloaded.fault? .closing ⟨.relative, [preload.text]⟩ = none := by decide
  have untouched : ∀ setting ∈ settings
        (parse (Newline.lines (Access.decode (preloaded.content (.file [preload]))))),
      preloaded.openExisting (Access.resolve keyed.root setting.name) ≠ .ok (.file [preload]) := by
    rw [lines_preloaded]
    decide
  obtain ⟨⟨status, after, -, ran⟩, -⟩ :=
    apply_to_end_iff .standard proper unlogged opened readable closable untouched
  refine ⟨proper, unlogged, opened, readable, closable, ?_⟩
  rw [ran, lines_preloaded]
  dsimp only
  exact ⟨⟨status, by rw [if_pos (by decide)]⟩, by decide, by decide⟩

/-- A NUL in a name hides every line behind it. -/
theorem apply_halted :
    let lines := Newline.lines (Access.decode (halted.content (.file [preload])))
    keyed.root.hasNul = false ∧ halted.log = none ∧
    halted.openExisting ⟨.relative, [preload.text]⟩ = .ok (.file [preload]) ∧
    halted.fault? .reading ⟨.relative, [preload.text]⟩ = none ∧
    halted.fault? .closing ⟨.relative, [preload.text]⟩ = none ∧
    settings (parse lines) = [⟨"a\x00".text, ['1']⟩, ⟨one.text, ['2']⟩] ∧
    (∀ setting ∈ settings (parse lines),
      halted.openExisting (Access.resolve keyed.root setting.name) ≠ .ok (.file [preload])) ∧
    apply ⟨.relative, [preload.text]⟩ keyed.root .standard halted =
      ⟨.error .embeddedNul, [], [], halted⟩ := by
  intro lines
  have decoded : Access.decode (halted.content (.file [preload])) =
      Newline.unified "a\x00 = 1\none = 2\n".text :=
    congrArg Newline.unified (Utf8.decode_encode (by decide))
  have known : lines = ["a\x00 = 1\n".text, "one = 2\n".text] := by
    simp only [lines, decoded]
    decide
  have opened : halted.openExisting ⟨.relative, [preload.text]⟩ = .ok (.file [preload]) := by
    decide
  have untouched : ∀ setting ∈ settings (parse lines),
      halted.openExisting (Access.resolve keyed.root setting.name) ≠ .ok (.file [preload]) := by
    rw [known]
    decide
  refine ⟨by decide, rfl, opened, by decide, by decide, ?_, untouched, ?_⟩
  · rw [known]
    decide
  · rw [apply_eq_applyEach .standard rfl opened (by decide) (by decide)
      fun raw member setting read => untouched setting (mem_settings_parseFrom member read 1)]
    change applyEach _ _ _ 1 lines halted = _
    rw [known]
    decide

end Preload

end Tunables
