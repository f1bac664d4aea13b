import Tunables.Proofs.Overwriting
import Tunables.Proofs.Statuses

namespace Tunables

namespace Action

variable {α : Type} {act : α → Action Status} {items : List α} {system state : System}

def answers (act : α → Action Status) (items : List α) (system : System) : List (Text × Text) :=
  (met act items system).map fun step => ((act step.1 step.2).out, (act step.1 step.2).err)

theorem answers_cons (act : α → Action Status) (item : α) (rest : List α) (system : System) :
    answers act (item :: rest) system =
      ((act item system).out, (act item system).err) ::
        (act item system).behind (answers act rest) := by
  rw [answers, met, List.map_cons, Outcome.behind, Outcome.behind]
  cases (act item system).result <;> rfl

theorem streams_all (act : α → Action Status) (items : List α) (system : System) :
    (all (items.map act) system).out = (answers act items system).flatMap Prod.fst ∧
      (all (items.map act) system).err = (answers act items system).flatMap Prod.snd := by
  induction items generalizing system with
  | nil => exact ⟨rfl, rfl⟩
  | cons item rest ih =>
    rw [List.map_cons, all, answers_cons, List.flatMap_cons, List.flatMap_cons]
    rcases ran : act item system with ⟨reason | status, out, err, after⟩
    · rw [also_of_error ran]
      exact ⟨(List.append_nil out).symm, (List.append_nil err).symm⟩
    · rw [also_of_ok ran]
      exact ⟨congrArg (out ++ ·) (ih after).1, congrArg (err ++ ·) (ih after).2⟩

/-- Actions that do not depend on what is written are answered as if each of them stood alone. -/
theorem all_of_amountsTo {reads : List Target} {writes : α → List (Location × Bytes)}
    (amounts : ∀ item ∈ items, AmountsTo reads system (act item) (writes item))
    (answered : ∀ item ∈ items, ∃ status, (act item system).result = .ok status)
    (alike : System.Alike reads system state) :
    answers act items state =
        items.map (fun item => ((act item system).out, (act item system).err)) ∧
      (all (items.map act) state).system = state.writeAll (items.flatMap writes) := by
  -- Every item leaves a system like the first.
  induction items generalizing state with
  | nil => exact ⟨rfl, rfl⟩
  | cons item rest ih =>
    rw [List.forall_mem_cons] at amounts answered
    obtain ⟨status, ended⟩ := answered.1
    have ran := amounts.1.ran state alike
    rw [ended] at ran
    obtain ⟨alone, after⟩ := ih amounts.2 answered.2
      (alike.trans (state.alike_writeAll amounts.1.apart))
    constructor
    · rw [answers_cons, ran, List.map_cons]
      exact congrArg (_ :: ·) alone
    · rw [List.map_cons, all, also_of_ok ran, List.flatMap_cons, System.writeAll_append, ← after]

end Action

namespace Access

variable {root : Path} {system : System}

def location? (root : Path) (files : FileSystem) (text : Text) : Option Location :=
  match Setting.parse text with
  | .error _ => none
  | .ok setting =>
    match Place.ofPath files (resolve root setting.name) with
    | .ok (.file location) => some location
    | _ => none

theorem location?_of_change? {text : Text} {change : Location × Bytes}
    (changed : change? root system text = some change) :
    location? root system.files text = some change.1 := by
  obtain ⟨setting, parsed, opened⟩ := exists_of_change? changed
  simp only [location?, parsed, System.place_of_openExisting opened, Target.place]

theorem pairwise_change? {texts : List Text}
    (independent : (texts.filterMap (location? root system.files)).Nodup) :
    (texts.filterMap (change? root system)).Pairwise fun first second => first.1 ≠ second.1 := by
  rw [List.Nodup, List.pairwise_filterMap] at independent
  rw [List.pairwise_filterMap]
  apply independent.imp
  intro first second apart change changed other changed'
  exact apart change.1 (location?_of_change? changed) other.1 (location?_of_change? changed')

end Access

namespace Command

variable {flags texts : List Text} {switch : Text} {system : System}

theorem mode_write (displayed : ∀ flag ∈ flags, isDisplaySwitch flag = true)
    (writing : isSwitch 'w' switch = true) (filled : ∀ text ∈ texts, text ≠ []) :
    mode (flags ++ switch :: texts) = .write texts ∧
      shown (flags ++ switch :: texts) = displayOf flags := by
  have letter : switch.take 2 = ['-', 'w'] := of_decide_eq_true writing
  have other : isDisplaySwitch switch = false := by
    rw [isDisplaySwitch, isSwitch, isSwitch, letter]
    decide
  have given : switch ≠ [] := by
    rintro rfl
    cases letter
  have filled' : ∀ argument ∈ switch :: texts, argument ≠ [] :=
    List.forall_mem_cons.mpr ⟨given, filled⟩
  rw [mode_flags displayed other filled', shown_flags displayed other filled', modeOf,
    if_pos writing]
  exact ⟨rfl, rfl⟩

/-- Settings of which no two lead to the same file can be written in any order: the status and the
files that are left are the same, and every setting is answered as if it stood alone. All of them
are written in whatever order unless one of them breaks the run off. -/
theorem run_perm (program : Text) (config : Config) (proper : config.root.hasNul = false)
    (unlogged : system.log = none) (displayed : ∀ flag ∈ flags, isDisplaySwitch flag = true)
    (writing : isSwitch 'w' switch = true) (filled : ∀ text ∈ texts, text ≠ [])
    (plain : ∀ text ∈ texts, .char '\x00' ∉ text)
    (independent : (texts.filterMap (Access.location? config.root system.files)).Nodup) :
    let write := Access.writeSetting config.root (displayOf flags)
    (∃ status after, ∀ permuted, texts.Perm permuted →
      let pieces := Action.answers write permuted system
      run program config (flags ++ switch :: permuted) system =
          ⟨.ok status, pieces.flatMap Prod.fst, pieces.flatMap Prod.snd, after⟩ ∧
        pieces = permuted.map fun text => ((write text system).out, (write text system).err)) ↔
      ∀ text ∈ texts, ¬Access.BreaksOff config.root system text := by
  intro write
  have ran : ∀ permuted, texts.Perm permuted →
      run program config (flags ++ switch :: permuted) = Action.all (permuted.map write) := by
    intro permuted perm
    obtain ⟨mode, shown⟩ := mode_write displayed writing
      fun text member => filled text (perm.mem_iff.mpr member)
    rw [run_of_write program config mode, shown]
  constructor
  · rintro ⟨status, after, every⟩
    have ended := congrArg Outcome.result (every texts (.refl texts)).1
    rw [ran texts (.refl texts)] at ended
    exact Access.not_breaksOff_of_result ended
  intro unbroken
  refine ⟨Status.all (texts.map fun text => Access.share config.root text system),
    system.writeAll (texts.filterMap (Access.change? config.root system)), ?_⟩
  intro permuted perm pieces
  have named : ∀ text ∈ permuted, ∀ setting, Setting.parse text = .ok setting →
      .char '\x00' ∉ setting.name := by
    intro text member setting parsed nul
    apply plain text (perm.mem_iff.mpr member)
    rw [(Setting.eq_render_of_parse parsed).1]
    exact List.mem_append_left _ nul
  have unbroken' : ∀ text ∈ permuted, ¬Access.BreaksOff config.root system text :=
    fun text member => unbroken text (perm.mem_iff.mpr member)
  have answered : ∀ text ∈ permuted, ∃ status, (write text system).result = .ok status := by
    intro text member
    refine (Access.writeSetting_answered_iff ?_ _ system).mpr (unbroken' text member)
    intro setting parsed
    exact Access.hasNul_resolve proper (named text member setting parsed)
  obtain ⟨out, err⟩ := Action.streams_all write permuted system
  have amounts : ∀ text ∈ permuted, Action.AmountsTo [] system (write text)
      (Access.change? config.root system text).toList :=
    fun text _ => Access.amountsTo_writeSetting (displayOf flags) unlogged nofun
  obtain ⟨alone, after⟩ := Action.all_of_amountsTo amounts answered (.refl [] system)
  have ended := Access.result_all_writeSetting proper (displayOf flags) named system unbroken'
  have status : Status.all (permuted.map fun text => Access.share config.root text system) =
      Status.all (texts.map fun text => Access.share config.root text system) :=
    Status.all_perm (perm.map _).symm
  have files : system.writeAll (permuted.flatMap fun text =>
        (Access.change? config.root system text).toList) =
      system.writeAll (texts.filterMap (Access.change? config.root system)) := by
    rw [← List.filterMap_eq_flatMap_toList]
    exact congrArg (fun files => { system with files })
      (FileSystem.writeAll_perm (perm.filterMap _) (Access.pairwise_change? independent)
        system.files).symm
  refine ⟨?_, alone⟩
  rw [ran permuted perm]
  calc Action.all (permuted.map write) system
      = ⟨(Action.all (permuted.map write) system).result,
          (Action.all (permuted.map write) system).out,
          (Action.all (permuted.map write) system).err,
          (Action.all (permuted.map write) system).system⟩ := rfl
    _ = _ := by rw [out, err, after, files, ended, status]

end Command

namespace Sample

def two : Name := ⟨"two".toList, by decide⟩

/-- Writing the second key fails, and leaves its file empty. -/
def paired : System where
  files := ⟨[([keys], .directory), ([keys, one], .file []), ([keys, two], .file [50, 10])], []⟩
  faults := [⟨"keys/two".text, .writing, .accessDenied⟩]
  log := none
  clock := ⟨[], []⟩

end Sample

namespace Command

open Sample

theorem run_perm_paired :
    let texts := ["one=1".text, "two=2".text, "a=".text]
    keyed.root.hasNul = false ∧ paired.log = none ∧
    (∀ flag ∈ ["-n".text], isDisplaySwitch flag = true) ∧ isSwitch 'w' "-w".text = true ∧
    (∀ text ∈ texts, text ≠ []) ∧ (∀ text ∈ texts, .char '\x00' ∉ text) ∧
    (texts.filterMap (Access.location? keyed.root paired.files)).Nodup ∧
    ∃ after,
      run "sysctl".text keyed ["-n".text, "-w".text, "one=1".text, "two=2".text,
          "a=".text] paired =
        ⟨.ok .failure, "1\n".text, "error: permission denied on key 'two'\n".text ++
          "error: Malformed setting 'a='\n".text, after⟩ ∧
      run "sysctl".text keyed ["-n".text, "-w".text, "a=".text, "two=2".text,
          "one=1".text] paired =
        ⟨.ok .failure, "1\n".text, "error: Malformed setting 'a='\n".text ++
          "error: permission denied on key 'two'\n".text, after⟩ := by
  intro texts
  have proper : keyed.root.hasNul = false := by decide
  have displayed : ∀ flag ∈ ["-n".text], isDisplaySwitch flag = true := by decide
  have writing : isSwitch 'w' "-w".text = true := by decide
  have filled : ∀ text ∈ texts, text ≠ [] := by decide
  have plain : ∀ text ∈ texts, .char '\x00' ∉ text := by decide
  have independent : (texts.filterMap (Access.location? keyed.root paired.files)).Nodup := by
    decide
  have unbroken : ∀ text ∈ texts, ¬Access.BreaksOff keyed.root paired text := by
    rintro text member ⟨setting, target, parsed, -, stray, -⟩
    have whole : ∀ text ∈ texts, text.hasStray = false := by decide
    have inside := whole text member
    rw [(Setting.eq_render_of_parse parsed).1, Setting.hasStray_render, stray] at inside
    simp at inside
  obtain ⟨status, after, every⟩ := (run_perm "sysctl".text keyed proper rfl displayed writing
    filled plain independent).mpr unbroken
  obtain ⟨first, pieces⟩ := every texts (.refl texts)
  obtain ⟨second, pieces'⟩ := every ["a=".text, "two=2".text, "one=1".text] (by decide)
  rw [pieces] at first
  rw [pieces'] at second
  have failed : (run "sysctl".text keyed ["-n".text, "-w".text, "one=1".text,
      "two=2".text, "a=".text] paired).result = .ok .failure := by decide
  cases (congrArg Outcome.result first).symm.trans failed
  exact ⟨proper, rfl, displayed, writing, filled, plain, independent, after, first, second⟩

/-- The second setting is written only if it comes first. -/
theorem run_perm_unencodable :
    let texts := [unencodable, "two=3".text]
    let faultless := { paired with faults := [] }
    keyed.root.hasNul = false ∧ faultless.log = none ∧
    (∀ text ∈ texts, text ≠ []) ∧ (∀ text ∈ texts, .char '\x00' ∉ text) ∧
    (texts.filterMap (Access.location? keyed.root faultless.files)).Nodup ∧
    ¬∃ after, ∀ permuted, texts.Perm permuted →
      (run "sysctl".text keyed ("-w".text :: permuted) faultless).system = after := by
  intro texts faultless
  refine ⟨by decide, rfl, by decide, by decide, by decide, ?_⟩
  rintro ⟨after, every⟩
  have same := (every texts (.refl texts)).trans (every texts.reverse (by decide)).symm
  exact absurd same (by decide)

end Command

end Tunables
