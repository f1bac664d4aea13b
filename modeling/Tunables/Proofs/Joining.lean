import Tunables.Proofs.Completion
import Tunables.Proofs.Repeating
import Tunables.Proofs.Statuses

namespace Tunables

namespace Utf8

/-- Decoding has not begun a character that a byte below 0x80 could go on with. -/
def Begun : State → Prop
  | none => True
  | some part => 0x80 ≤ part.low

theorem low_of_first {byte : UInt8} {part : Partway} (begins : first byte = .partway part) :
    0x80 ≤ part.low := by
  unfold first at begins
  dsimp only at begins
  repeat' split at begins
  all_goals cases begins
  all_goals simp

theorem low_of_next {part next : Partway} {byte : UInt8}
    (continues : part.next byte = .partway next) : next.low = 0x80 := by
  unfold Partway.next at continues
  dsimp only at continues
  repeat' split at continues
  all_goals cases continues
  rfl

theorem begun_feedFirst (byte : UInt8) : Begun (feedFirst byte).1 := by
  unfold feedFirst
  cases read : first byte with
  | char c => trivial
  | partway part => exact low_of_first read
  | wrong => trivial

theorem begun_feedByte (state : State) (byte : UInt8) : Begun (feedByte state byte).1 := by
  cases state with
  | none => exact begun_feedFirst byte
  | some part =>
    rw [feedByte]
    cases read : part.next byte with
    | char c => trivial
    | partway next => exact (low_of_next read).ge
    | wrong => exact begun_feedFirst byte

theorem begun_feed {state : State} (begun : Begun state) (bytes : Bytes) :
    Begun (feed state bytes).1 := by
  induction bytes generalizing state with
  | nil => exact begun
  | cons byte bytes ih => exact ih (begun_feedByte state byte)

theorem feedByte_newline {state : State} (begun : Begun state) :
    feedByte state 10 = (none, finish state ++ [.char '\n']) := by
  cases state with
  | none => rfl
  | some part =>
    have below : ¬(part.low ≤ (10 : UInt8).toNat ∧ (10 : UInt8).toNat ≤ part.high) := by
      intro within
      exact absurd (Nat.le_trans begun within.1) (by decide)
    simp only [feedByte, Partway.next, if_neg below]
    rfl

theorem decode_newline (before behind : Bytes) :
    decode (before ++ 10 :: behind) = decode before ++ .char '\n' :: decode behind := by
  have outside : Begun none := trivial
  have begun := begun_feed outside before
  simp only [decode, feed_append, feed, feedByte_newline begun, List.append_assoc,
    List.cons_append, List.nil_append]

end Utf8

namespace Newline

theorem lines_ne_nil {text : Text} (filled : text ≠ []) : lines text ≠ [] := by
  intro nothing
  apply filled
  rw [← flatten_lines text, nothing]
  rfl

theorem lines_join (first second : Text) :
    lines (first ++ .char '\n' :: second) = lines (first ++ [.char '\n']) ++ lines second := by
  induction first with
  | nil => rfl
  | cons c rest ih =>
    by_cases feed : c = '\n'
    · simp only [List.cons_append, lines, feed, if_true, ih]
    · have filled : rest ++ [.char '\n'] ≠ [] := List.append_ne_nil_of_right_ne_nil rest (by decide)
      obtain ⟨line, more, ahead⟩ := List.exists_cons_of_ne_nil (lines_ne_nil filled)
      simp only [List.cons_append, lines, feed, if_false, ih, ahead]

end Newline

theorem Newline.unified_newline (before behind : Text) :
    unified (before ++ .char '\n' :: behind) =
      (translate false before).2 ++ .char '\n' :: unified behind := by
  simp only [unified, translate_append, translate, if_true, List.append_assoc, List.cons_append]

theorem Access.lines_decode_append {early : Bytes} (ended : early = [] ∨ early.getLast? = some 10)
    (late : Bytes) :
    Newline.lines (decode (early ++ late)) =
      Newline.lines (decode early) ++ Newline.lines (decode late) := by
  rcases ended with rfl | last
  · rfl
  · obtain ⟨before, rfl⟩ := List.getLast?_eq_some_iff.mp last
    have parted : ∀ behind, decode (before ++ 10 :: behind) =
        (Newline.translate false (Utf8.decode before)).2 ++ .char '\n' :: decode behind := by
      intro behind
      rw [decode, Utf8.decode_newline, Newline.unified_newline, ← decode]
    rw [List.append_assoc, List.singleton_append, parted, parted, Newline.lines_join]
    rfl

namespace Action

theorem also_assoc (first second third : Action Status) :
    (first.also second).also third = first.also (second.also third) := by
  funext system
  rcases one : first system with ⟨reason | status, out, err, after⟩
  · rw [also_of_error one, also_of_error (also_of_error one)]
  · have both : first.also second system = _ := also_of_ok one
    rw [also_of_ok one]
    rcases other : second after with ⟨reason | next, out', err', later⟩ <;> rw [other] at both
    · rw [also_of_error both, also_of_error other]
      rfl
    · rw [also_of_ok both, also_of_ok other]
      simp only [List.append_assoc, Outcome.mk.injEq, and_true]
      cases (third later).result with
      | error reason => rfl
      | ok last => exact congrArg Except.ok (Status.combine_assoc status next last)

end Action

namespace Preload

theorem parseFrom_append (number : Nat) (early late : List Text) :
    parseFrom number (early ++ late) =
      parseFrom number early ++ parseFrom (number + early.length) late := by
  induction early generalizing number with
  | nil => rfl
  | cons raw rest ih =>
    rw [List.cons_append, List.length_cons, Nat.add_comm rest.length, ← Nat.add_assoc, parseFrom,
      parseFrom, ih]
    cases readLine raw <;> rfl

def behind (before : Nat) (entries : List (Nat × Option Setting)) : List (Nat × Option Setting) :=
  entries.map fun (number, setting?) => (before + number, setting?)

theorem parseFrom_add (before number : Nat) (lines : List Text) :
    parseFrom (before + number) lines = behind before (parseFrom number lines) := by
  induction lines generalizing number with
  | nil => rfl
  | cons raw rest ih =>
    rw [parseFrom, parseFrom, Nat.add_assoc, ih]
    cases readLine raw <;> rfl

theorem settings_behind (before : Nat) (entries : List (Nat × Option Setting)) :
    settings (behind before entries) = settings entries :=
  List.filterMap_map

theorem settings_parseFrom (number : Nat) (lines : List Text) :
    settings (parseFrom number lines) = settings (parseFrom 0 lines) := by
  rw [← Nat.add_zero number, parseFrom_add, settings_behind]

theorem applyEach_append (source : Text) (root : Path) (display : Display) (number : Nat)
    (early late : List Text) :
    applyEach source root display number (early ++ late) =
      (applyEach source root display number early).also
        (applyEach source root display (number + early.length) late) := by
  induction early generalizing number with
  | nil => exact (Action.success_also _).symm
  | cons raw rest ih =>
    rw [List.cons_append, List.length_cons, Nat.add_comm rest.length, ← Nat.add_assoc, applyEach,
      applyEach, ih, Action.also_assoc]

def entries (content : Bytes) : List (Nat × Option Setting) :=
  parse (Newline.lines (Access.decode content))

/-- The text of a file has so many lines, those that are ignored included. -/
def lineCount (content : Bytes) : Nat := (Newline.lines (Access.decode content)).length

theorem entries_append {early : Bytes} (ended : early = [] ∨ early.getLast? = some 10)
    (late : Bytes) :
    entries (early ++ late) = entries early ++ behind (lineCount early) (entries late) := by
  unfold entries parse
  rw [Access.lines_decode_append ended, parseFrom_append, Nat.add_comm 1, parseFrom_add, lineCount]

theorem settings_entries_append {early : Bytes} (ended : early = [] ∨ early.getLast? = some 10)
    (late : Bytes) :
    settings (entries (early ++ late)) = settings (entries early) ++ settings (entries late) := by
  rw [entries_append ended, ← settings_behind (lineCount early) (entries late)]
  exact List.filterMap_append

/-- A preload file with this content that can be opened, read and closed. -/
structure Holds (system : System) (source : Path) (content : Bytes) : Prop where
  opened : ∃ target, system.openExisting source = .ok target ∧ system.content target = content
  readable : system.fault? .reading source = none
  closable : system.fault? .closing source = none

variable {system after : System} {root source : Path} {content : Bytes} {lines : List Text}
  {number : Nat}

theorem untouched_of_spares {target : Target}
    (spares : system.Spares root source (settings (parseFrom number lines)))
    (opened : system.openExisting source = .ok target) :
    ∀ raw ∈ lines, ∀ setting, readLine raw = .setting setting →
      system.openExisting (Access.resolve root setting.name) ≠ .ok target := by
  intro raw member setting read
  exact spares target opened setting (mem_settings_parseFrom member read number)

theorem apply_of_holds (holds : Holds system source content) (display : Display)
    (unlogged : system.log = none)
    (spares : system.Spares root source (settings (entries content))) :
    apply source root display system =
      applyEach source.render root display 1 (Newline.lines (Access.decode content)) system := by
  obtain ⟨target, opened, rfl⟩ := holds.opened
  exact apply_eq_applyEach display unlogged opened holds.readable holds.closable
    (untouched_of_spares spares opened)

theorem holds_applyEach (holds : Holds system source content) (display : Display)
    (unlogged : system.log = none)
    (spares : system.Spares root source (settings (parseFrom number lines))) (told : Text) :
    let after := (applyEach told root display number lines system).system
    System.Continues system after ∧ Holds after source content := by
  intro after
  obtain ⟨target, opened, same⟩ := holds.opened
  have elsewhere : target ∉ system.log.map (·.target) := by simp [unlogged]
  have kept : Intact system target after :=
    intact_applyEach elsewhere (untouched_of_spares spares opened) number
  have similar := kept.continues.similar
  refine ⟨kept.continues, ⟨target, ?_, kept.content.trans same⟩, ?_, ?_⟩
  · rw [← similar.openExisting, opened]
  · rw [← similar.fault?, holds.readable]
  · rw [← similar.fault?, holds.closable]

theorem exists_applyEach (decoded : ∀ line ∈ lines, line.hasStray = false)
    (proper : root.hasNul = false)
    (named : ∀ setting ∈ settings (parseFrom number lines), .char '\x00' ∉ setting.name)
    (told : Text)
    (display : Display) (system : System) :
    ∃ status, (applyEach told root display number lines system).result = .ok status := by
  have whole : lines.all isWhole = true := by
    apply (all_isWhole_iff number lines).mpr
    intro setting member
    exact Text.hasNul_eq_false_iff.mpr (named setting member)
  obtain ⟨status, out, err, after, -, -, -, ran⟩ :=
    applyEach_takeWhile told display number decoded proper (.refl system)
  rw [whole, if_pos rfl] at ran
  exact ⟨status, congrArg Outcome.result ran⟩

theorem applyEach_told (display : Display) (unlogged : system.log = none) (number : Nat)
    (told other : Text) :
    applyEach told root display number lines system =
      { applyEach other root display 1 lines system with
        err := withWarnings told (parseFrom number lines)
          (Access.reports root display ((settings (parse lines)).map Setting.render) system) } := by
  rw [applyEach_eq_all told root display lines number unlogged,
    applyEach_eq_all other root display lines 1 unlogged, parse, settings_parseFrom number,
    settings_parseFrom 1]

theorem apply_behind {first second : Path} {early late : Bytes} (display : Display)
    (unlogged : system.log = none) (one : Holds system first early)
    (other : Holds system second late)
    (spares : system.Spares root first (settings (entries early)))
    (sparesOther :
      system.Spares root second (settings (entries early) ++ settings (entries late))) :
    let ran := apply first root display system
    ran = applyEach first.render root display 1 (Newline.lines (Access.decode early)) system ∧
      ran.system.log = none ∧
      apply second root display ran.system =
        applyEach second.render root display 1 (Newline.lines (Access.decode late)) ran.system := by
  intro ran
  have ranFirst : ran = applyEach first.render root display 1
      (Newline.lines (Access.decode early)) system :=
    apply_of_holds one display unlogged spares
  obtain ⟨continues, held⟩ := holds_applyEach other display unlogged
    (sparesOther.mono (List.subset_append_left _ _)) first.render
  rw [← ranFirst] at continues held
  have unlogged' : ran.system.log = none := continues.unlogged unlogged
  refine ⟨ranFirst, unlogged', apply_of_holds held display unlogged' ?_⟩
  exact continues.similar.spares (sparesOther.mono (List.subset_append_right _ _))

/-- A file that is parted behind a newline does what its two parts do one after the other. Standard
error tells the lines of the second part by where they stand in the whole file. -/
theorem apply_join {whole first second : Path} {early late : Bytes} (display : Display)
    (proper : root.hasNul = false) (unlogged : system.log = none)
    (ended : early = [] ∨ early.getLast? = some 10)
    (joined : Holds system whole (early ++ late)) (one : Holds system first early)
    (other : Holds system second late)
    (named : ∀ setting ∈ settings (entries (early ++ late)), .char '\x00' ∉ setting.name)
    (spares : ∀ source ∈ [whole, first, second],
      system.Spares root source (settings (entries (early ++ late)))) :
    let ran := apply first root display system
    let after := apply second root display ran.system
    let reports := fun content =>
      Access.reports root display ((settings (entries content)).map Setting.render)
    ∃ status next both,
      ran.result = .ok status ∧
      ran.err = withWarnings first.render (entries early) (reports early system) ∧
      after.result = .ok next ∧
      after.err = withWarnings second.render (entries late) (reports late ran.system) ∧
      apply whole root display system =
        ⟨.ok both, ran.out ++ after.out,
          withWarnings whole.render (entries early) (reports early system) ++
            withWarnings whole.render (behind (lineCount early) (entries late))
              (reports late ran.system),
          after.system⟩ ∧
      both.code = Int.lor status.code next.code := by
  intro ran after reports
  have ranWhole := apply_of_holds joined display unlogged (spares whole (by simp))
  rw [settings_entries_append ended] at named spares
  rw [List.forall_mem_append] at named
  obtain ⟨ranFirst, unlogged', ranSecond⟩ := apply_behind display unlogged one other
    ((spares first (by simp)).mono (List.subset_append_left _ _)) (spares second (by simp))
  obtain ⟨status, answered⟩ := exists_applyEach (fun _ => Access.hasStray_of_line) proper named.1
    first.render display system
  obtain ⟨next, answered'⟩ := exists_applyEach (fun _ => Access.hasStray_of_line) proper named.2
    second.render display ran.system
  rw [← ranFirst] at answered
  rw [← ranSecond] at answered'
  -- In whichever file they stand, the two parts differ in what is told of their lines alone.
  have upper : ∀ told, applyEach told root display 1 (Newline.lines (Access.decode early)) system =
      ⟨.ok status, ran.out, withWarnings told (entries early) (reports early system),
        ran.system⟩ := by
    intro told
    rw [applyEach_told display unlogged 1 told first.render, ← ranFirst, ← answered]
    rfl
  have lower : ∀ told number,
      applyEach told root display number (Newline.lines (Access.decode late)) ran.system =
        ⟨.ok next, after.out,
          withWarnings told (parseFrom number (Newline.lines (Access.decode late)))
            (reports late ran.system),
          after.system⟩ := by
    intro told number
    rw [applyEach_told display unlogged' number told second.render, ← ranSecond, ← answered']
    rfl
  refine ⟨status, next, status.combine next, answered,
    congrArg Outcome.err (ranFirst.trans (upper first.render)), answered',
    congrArg Outcome.err (ranSecond.trans (lower second.render 1)), ?_,
    Status.code_combine status next⟩
  rw [ranWhole, Access.lines_decode_append ended, applyEach_append, Action.also_of_ok (upper _),
    ← lineCount, lower, Nat.add_comm 1, parseFrom_add]
  rfl

end Preload

namespace Sample

def upper : Name := ⟨"upper".toList, by decide⟩

def lower : Name := ⟨"lower".toList, by decide⟩

def early : Bytes := Utf8.encode "one = 1\nbad".text ++ [0xC3, 10]

def late : Bytes := Utf8.encode "worse\r\none = 2".text

def parted : System where
  files := ⟨[([keys], .directory), ([keys, one], .file []), ([preload], .file (early ++ late)),
    ([upper], .file early), ([lower], .file late)], []⟩
  faults := []
  log := none
  clock := ⟨[], []⟩

end Sample

namespace Preload

open Sample

theorem apply_join_parted :
    let whole : Path := ⟨.relative, [preload.text]⟩
    let first : Path := ⟨.relative, [upper.text]⟩
    let second : Path := ⟨.relative, [lower.text]⟩
    let ran := apply first keyed.root .standard parted
    let after := apply second keyed.root .standard ran.system
    let joined := apply whole keyed.root .standard parted
    keyed.root.hasNul = false ∧ parted.log = none ∧ (early = [] ∨ early.getLast? = some 10) ∧
    Holds parted whole (early ++ late) ∧ Holds parted first early ∧ Holds parted second late ∧
    (∀ setting ∈ settings (entries (early ++ late)), .char '\x00' ∉ setting.name) ∧
    (∀ source ∈ [whole, first, second],
      parted.Spares keyed.root source (settings (entries (early ++ late)))) ∧
    joined.system = after.system ∧ joined.out = ran.out ++ after.out ∧
    after.err = "warning: lower(1): invalid syntax, continuing...\n".text ∧
    joined.err = "warning: preload(2): invalid syntax, continuing...\n".text ++
      "warning: preload(3): invalid syntax, continuing...\n".text := by
  intro whole first second ran after joined
  have ended : early = [] ∨ early.getLast? = some 10 := .inr (by decide +kernel)
  have opened : parted.openExisting whole = .ok (.file [preload]) ∧
      parted.openExisting first = .ok (.file [upper]) ∧
      parted.openExisting second = .ok (.file [lower]) := by decide +kernel
  have inWhole : Holds parted whole (early ++ late) :=
    ⟨⟨.file [preload], opened.1, by decide +kernel⟩, by decide, by decide⟩
  have inFirst : Holds parted first early :=
    ⟨⟨.file [upper], opened.2.1, by decide +kernel⟩, by decide, by decide⟩
  have inSecond : Holds parted second late :=
    ⟨⟨.file [lower], opened.2.2, by decide +kernel⟩, by decide, by decide⟩
  have set : settings (entries (early ++ late)) = [⟨one.text, ['1']⟩, ⟨one.text, ['2']⟩] := by
    decide +kernel
  have named : ∀ setting ∈ settings (entries (early ++ late)), .char '\x00' ∉ setting.name := by
    rw [set]
    decide
  have apart : ∀ source ∈ [whole, first, second],
      ∀ setting ∈ settings (entries (early ++ late)),
        parted.openExisting (Access.resolve keyed.root setting.name) ≠
          parted.openExisting source := by
    rw [set]
    decide +kernel
  have spares : ∀ source ∈ [whole, first, second],
      parted.Spares keyed.root source (settings (entries (early ++ late))) := by
    intro source involved target led setting member
    rw [← led]
    exact apart source involved setting member
  have proper : keyed.root.hasNul = false := by decide
  obtain ⟨status, next, both, -, -, -, -, same, -⟩ :=
    apply_join .standard proper rfl ended inWhole inFirst inSecond named spares
  have same : joined = _ := same
  refine ⟨proper, rfl, ended, inWhole, inFirst, inSecond, named, spares, ?_, ?_,
    by decide +kernel, by decide +kernel⟩
  · rw [same]
  · rw [same]

end Preload

end Tunables
