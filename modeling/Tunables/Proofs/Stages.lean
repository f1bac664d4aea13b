import Tunables.Proofs.Journal
import Tunables.Proofs.Statuses

/-!
Where reading or writing a single key can fail: at its text, at opening, at reading or writing, and
at closing. The stage decides the status, both streams, the message and what the file holds.
-/

namespace Tunables

namespace System

variable {system : System} {path : Path} {location : Location}

structure Replaced (location : Location) (content : Bytes) (before after : System) : Prop where
  rest : after = { before with files := after.files }
  here : after.files.find? location = some (.file content)
  elsewhere : ∀ other, other ≠ location → after.files.find? other = before.files.find? other

theorem replaced_of_opened (opened : system.openExisting path = .ok (.file location))
    (content : Bytes) :
    Replaced location content system (system.replace (.file location) content) where
  rest := rfl
  here := by
    obtain ⟨old, file⟩ := Place.file_of_ofPath (place_of_openExisting opened)
    rw [replace, FileSystem.find?_write, file, decide_eq_true rfl]
    rfl
  elsewhere other different := by
    rw [replace, FileSystem.find?_write, decide_eq_false different]
    rcases system.files.find? other with _ | (content | _ | target | _) <;> rfl

end System

namespace Failure

theorem message_ofErrno (errno : Errno) (key : Text) (attempt : Attempt) :
    (ofErrno (some errno) key attempt).message =
      if errno = .notFound then "error: '".text ++ key ++ "' is an unknown key".text
      else if errno = .accessDenied ∨ errno = .notPermitted then
        "error: permission denied on key '".text ++ key ++ "'".text
      else
        "error: unknown error ".text ++ Text.ofInt errno ++ " ".text ++ attempt.text ++
          " key '".text ++ key ++ "'".text := by
  simp only [ofErrno, Errno.kind, Option.some.injEq]
  by_cases missing : errno = .notFound
  · rw [if_pos missing, if_pos missing]
    rfl
  rw [if_neg missing, if_neg missing]
  by_cases denied : errno = .accessDenied ∨ errno = .notPermitted
  · rw [if_pos denied, if_pos denied]
    rfl
  · rw [if_neg denied, if_neg denied]
    rfl

theorem status_ofErrno (errno : Option Errno) (key : Text) (attempt : Attempt) :
    (ofErrno errno key attempt).status = .failure := by
  unfold ofErrno
  split <;> rfl

theorem code_status_ne_zero (failure : Failure) : failure.status.code ≠ 0 :=
  fun zero => failure.status_ne_success (Status.code_eq_zero_iff.mp zero)

end Failure

namespace Access

variable {root : Path} {system : System}

/-- The stages at which reading a key can fail, and the failure that is reported. -/
inductive ReadFails (root : Path) (key : Text) (system : System) : Failure → Prop
  | unnamed (empty : key = []) : ReadFails root key system (.unknownKey [])
  | unopened {errno : Errno} (named : key ≠ [])
      (refused : system.openExisting (resolve root key) = .error (.errno errno)) :
      ReadFails root key system (.ofErrno (some errno) (Key.ofPath key) .reading)
  | unread {target : Target} {errno : Errno} (named : key ≠ [])
      (opened : system.openExisting (resolve root key) = .ok target)
      (refused : system.refusal? (resolve root key) (system.fault? .reading (resolve root key)) =
        some errno) :
      ReadFails root key system (.ofErrno (some errno) (Key.ofPath key) .reading)

/-- The stages at which writing a setting can fail, the failure that is reported, and what is left
behind. -/
inductive WriteFails (root : Path) (text : Text) (before : System) : Failure → System → Prop
  | noEquals (absent : .char '=' ∉ text) : WriteFails root text before (.noEquals text) before
  | malformed (lacking : Setting.LacksSide text) :
      WriteFails root text before (.malformedSetting text []) before
  | unopened {setting : Setting} {errno : Errno} (parsed : Setting.parse text = .ok setting)
      (refused : before.openExisting (resolve root setting.name) = .error (.errno errno)) :
      WriteFails root text before
        (.ofErrno (some errno) (Key.ofPath setting.name) .setting) before
  | unencoded {setting : Setting} {location : Location} {errno : Errno} {after : System}
      (parsed : Setting.parse text = .ok setting) (stray : setting.value.hasStray = true)
      (opened : before.openExisting (resolve root setting.name) = .ok (.file location))
      (refused : before.fault? .closing (resolve root setting.name) = some errno)
      (emptied : before.Replaced location [] after) :
      WriteFails root text before
        (.ofErrno (some errno) (Key.ofPath setting.name) .setting) after
  | unwritten {setting : Setting} {location : Location} {errno : Errno} {after : System}
      (parsed : Setting.parse text = .ok setting) (whole : setting.value.hasStray = false)
      (opened : before.openExisting (resolve root setting.name) = .ok (.file location))
      (lost : (before.loss? (resolve root setting.name)).isSome)
      (refused : before.refusal? (resolve root setting.name)
        (before.loss? (resolve root setting.name)) = some errno)
      (emptied : before.Replaced location [] after) :
      WriteFails root text before
        (.ofErrno (some errno) (Key.ofPath setting.name) .setting) after
  | unclosed {setting : Setting} {location : Location} {errno : Errno} {after : System}
      (parsed : Setting.parse text = .ok setting) (whole : setting.value.hasStray = false)
      (opened : before.openExisting (resolve root setting.name) = .ok (.file location))
      (kept : before.loss? (resolve root setting.name) = none)
      (refused : before.fault? .closing (resolve root setting.name) = some errno)
      (filled : before.Replaced location (Utf8.encode setting.line) after) :
      WriteFails root text before
        (.ofErrno (some errno) (Key.ofPath setting.name) .setting) after

theorem ReadFails.status {key : Text} {failure : Failure}
    (fails : ReadFails root key system failure) : failure.status = .failure := by
  cases fails with
  | unnamed => rfl
  | unopened | unread => exact Failure.status_ofErrno _ _ _

theorem writeFails_of_parse {text : Text} {failure : Failure}
    (parsed : Setting.parse text = .error failure) (root : Path) (system : System) :
    WriteFails root text system failure system := by
  rcases Setting.parse_eq_error_iff.mp parsed with ⟨absent, rfl⟩ | ⟨lacking, rfl⟩
  · exact .noEquals absent
  · exact .malformed lacking

/-- A key that is not read in full is not read at all. -/
theorem readValues_stages {key : Text} (plain : (resolve root key).hasNul = false) :
    (∃ target, key ≠ [] ∧ system.openExisting (resolve root key) = .ok target ∧
      system.refusal? (resolve root key) (system.fault? .reading (resolve root key)) = none ∧
      readValues root key system = .ok (Newline.lines (decode (system.content target)))) ∨
    ∃ failure, ReadFails root key system failure ∧
      readValues root key system = .error (.failure failure) := by
  unfold readValues
  by_cases empty : key = []
  · rw [if_pos empty]
    exact .inr ⟨_, .unnamed empty, rfl⟩
  rw [if_neg empty, System.readFile]
  rcases opened : system.openExisting (resolve root key) with (_ | errno) | target
  · exact absurd opened (System.openExisting_ne_abort plain system _)
  · exact .inr ⟨_, .unopened empty opened, rfl⟩
  · cases refused : system.refusal? (resolve root key)
      (system.fault? .reading (resolve root key)) with
    | none => exact .inl ⟨target, empty, rfl, rfl, rfl⟩
    | some errno => exact .inr ⟨_, .unread empty opened refused, rfl⟩

theorem written_stages {text : Text} {setting : Setting}
    (parsed : Setting.parse text = .ok setting)
    (plain : (resolve root setting.name).hasNul = false)
    (regular : system.openExisting (resolve root setting.name) ≠ .ok .null)
    (unbroken : ¬BreaksOff root system text) (display : Display) :
    (∃ location after, system.openExisting (resolve root setting.name) = .ok (.file location) ∧
      system.refusal? (resolve root setting.name)
        (system.loss? (resolve root setting.name)) = none ∧
      system.Replaced location (Utf8.encode setting.line) after ∧
      written root display setting system =
        ⟨.ok .success, display.format (Key.ofPath setting.name) [setting.line], [],
          after⟩) ∨
    ∃ failure after, WriteFails root text system failure after ∧
      written root display setting system = reported failure after := by
  rw [written, writeValue, System.writeFile]
  rcases opened : system.openExisting (resolve root setting.name) with
    (reason | errno) | (location | _)
  · exact absurd opened (System.openExisting_ne_abort plain system reason)
  · exact .inr ⟨_, _, .unopened parsed opened, rfl⟩
  · have replaced := System.replaced_of_opened opened
    cases stray : setting.value.hasStray with
    | true =>
      obtain ⟨bad, -, emptied, finished⟩ := System.finished_of_stray
        (setting.hasStray_line.trans stray) system (resolve root setting.name)
      cases closes : system.fault? .closing (resolve root setting.name) with
      | none => exact absurd ⟨setting, _, parsed, opened, stray, closes⟩ unbroken
      | some errno =>
        rw [closes] at finished
        simp only [finished, emptied]
        exact .inr ⟨_, _, .unencoded parsed stray opened closes (replaced []), rfl⟩
    | false =>
      have whole := setting.hasStray_line.trans stray
      dsimp only
      rw [System.finished_of_whole whole, System.left_of_whole whole]
      cases lost : system.loss? (resolve root setting.name) with
      | some errno =>
        have refused : ∃ first, system.refusal? (resolve root setting.name) (some errno) =
            some first := by
          rw [System.refusal?]
          cases system.fault? .closing (resolve root setting.name) with
          | none => exact ⟨errno, rfl⟩
          | some closing => exact ⟨closing, rfl⟩
        obtain ⟨first, refused⟩ := refused
        simp only [refused]
        exact .inr ⟨_, _, .unwritten parsed stray opened (lost ▸ rfl) (lost ▸ refused)
          (replaced []), rfl⟩
      | none =>
        rw [System.refusal?, Option.or_none]
        cases refused : system.fault? .closing (resolve root setting.name) with
        | some errno =>
          exact .inr ⟨_, _, .unclosed parsed stray opened lost refused (replaced _), rfl⟩
        | none => exact .inl ⟨location, _, rfl, rfl, replaced _, rfl⟩
  · exact absurd opened regular

/-- Reading or writing one key prints everything or one message, and the stage that fails decides
what the file holds. Only a value that cannot be encoded breaks this: it leaves the file empty and
no message. -/
theorem all_or_nothing {root : Path} {system : System} (proper : root.hasNul = false)
    (unlogged : system.log = none) (display : Display) :
    (∀ key, .char '\x00' ∉ key →
      (∃ target, key ≠ [] ∧ system.openExisting (resolve root key) = .ok target ∧
        system.refusal? (resolve root key) (system.fault? .reading (resolve root key)) = none ∧
        readSetting root display key system =
          ⟨.ok .success,
            display.format (Key.ofPath key) (Newline.lines (decode (system.content target))), [],
            system⟩) ∨
      ∃ failure, ReadFails root key system failure ∧ failure.status.code = -1 ∧
        readSetting root display key system =
          ⟨.ok failure.status, [], failure.message ++ [.char '\n'], system⟩) ∧
    (∀ text, (∀ setting, Setting.parse text = .ok setting → .char '\x00' ∉ setting.name ∧
        Place.ofPath system.files (resolve root setting.name) ≠ .ok .null) →
      (((∃ setting location after, Setting.parse text = .ok setting ∧
          system.openExisting (resolve root setting.name) = .ok (.file location) ∧
          system.refusal? (resolve root setting.name)
            (system.loss? (resolve root setting.name)) = none ∧
          system.Replaced location (Utf8.encode setting.line) after ∧
          writeSetting root display text system =
            ⟨.ok .success, display.format (Key.ofPath setting.name) [setting.line], [], after⟩) ∨
        ∃ failure after, WriteFails root text system failure after ∧ failure.status.code ≠ 0 ∧
          writeSetting root display text system =
            ⟨.ok failure.status, [], failure.message ++ [.char '\n'], after⟩) ↔
        ¬BreaksOff root system text) ∧
      (BreaksOff root system text → ∃ setting location bad after,
        Setting.parse text = .ok setting ∧
        system.openExisting (resolve root setting.name) = .ok (.file location) ∧
        system.Replaced location [] after ∧
        writeSetting root display text system = ⟨.error (.unencodable bad), [], [], after⟩)) ∧
    ∀ (errno : Errno) (key : Text) (attempt : Attempt),
      (Failure.ofErrno (some errno) key attempt).message =
        if errno = .notFound then "error: '".text ++ key ++ "' is an unknown key".text
        else if errno = .accessDenied ∨ errno = .notPermitted then
          "error: permission denied on key '".text ++ key ++ "'".text
        else
          "error: unknown error ".text ++ Text.ofInt errno ++ " ".text ++ attempt.text ++
            " key '".text ++ key ++ "'".text := by
  refine ⟨fun key plain => ?_, fun text fit => ?_, Failure.message_ofErrno⟩
  · rw [readSetting_eq root display key unlogged]
    rcases readValues_stages (hasNul_resolve proper plain) with
      ⟨target, named, opened, unrefused, values⟩ | ⟨failure, fails, values⟩
    · rw [values]
      exact .inl ⟨target, named, opened, unrefused, rfl⟩
    · rw [values]
      exact .inr ⟨failure, fails, congrArg Status.code fails.status, rfl⟩
  · have regular : ∀ setting, Setting.parse text = .ok setting →
        system.openExisting (resolve root setting.name) ≠ .ok .null :=
      fun setting parsed opened => (fit setting parsed).2 (System.place_of_openExisting opened)
    refine ⟨⟨fun answered => ?_, fun unbroken => ?_⟩, ?_⟩
    · refine (writeSetting_answered_iff (fun setting parsed =>
        hasNul_resolve proper (fit setting parsed).1) display system).mp ?_
      rcases answered with ⟨_, _, _, -, -, -, -, done⟩ | ⟨_, _, -, -, done⟩ <;>
        exact ⟨_, congrArg Outcome.result done⟩
    · rw [writeSetting_eq root display text unlogged]
      cases parsed : Setting.parse text with
      | error failure =>
        exact .inr ⟨failure, system, writeFails_of_parse parsed root system,
          failure.code_status_ne_zero, rfl⟩
      | ok setting =>
        have plain := hasNul_resolve proper (fit setting parsed).1
        rcases written_stages parsed plain (regular setting parsed) unbroken display with
          ⟨location, after, opened, unrefused, replaced, done⟩ | ⟨failure, after, fails, done⟩
        · exact .inl ⟨setting, location, after, rfl, opened, unrefused, replaced, done⟩
        · exact .inr ⟨failure, after, fails, failure.code_status_ne_zero, done⟩
    · rintro ⟨setting, location | _, parsed, opened, stray, closes⟩
      · obtain ⟨bad, -, broken⟩ := writeSetting_of_breaksOff parsed opened stray closes display
        exact ⟨setting, location, bad, _, parsed, opened, System.replaced_of_opened opened [],
          broken⟩
      · exact absurd opened (regular setting parsed)

end Access

namespace Sample

def unclosable : System where
  files := ⟨[([keys], .directory), ([keys, one], .file (Utf8.encode "1\n".text))], []⟩
  faults := [⟨"keys/one".text, .closing, 22⟩]
  log := none
  clock := ⟨[], []⟩

end Sample

namespace Access

open Sample

theorem all_or_nothing_unclosable :
    keyed.root.hasNul = false ∧ unclosable.log = none ∧ .char '\x00' ∉ one.text ∧
    (∀ setting, Setting.parse "one=2".text = .ok setting → .char '\x00' ∉ setting.name ∧
      Place.ofPath unclosable.files (resolve keyed.root setting.name) ≠ .ok .null) ∧
    readSetting keyed.root .standard one.text unclosable =
      ⟨.ok .failure, [], "error: unknown error 22 reading key 'one'\n".text, unclosable⟩ ∧
    ∃ after, writeSetting keyed.root .standard "one=2".text unclosable =
        ⟨.ok .failure, [], "error: unknown error 22 setting key 'one'\n".text, after⟩ ∧
      unclosable.Replaced [keys, one] (Utf8.encode "2\n".text) after := by
  have proper : keyed.root.hasNul = false := by decide
  have unlogged : unclosable.log = none := rfl
  have plain : .char '\x00' ∉ one.text := by decide
  have named : Setting.parse "one=2".text = .ok ⟨one.text, ['2']⟩ := by decide
  have fit : ∀ setting, Setting.parse "one=2".text = .ok setting → .char '\x00' ∉ setting.name ∧
      Place.ofPath unclosable.files (resolve keyed.root setting.name) ≠ .ok .null := by
    intro setting parsed
    cases named.symm.trans parsed
    exact ⟨plain, by decide⟩
  have opened : unclosable.openExisting (resolve keyed.root one.text) =
      .ok (.file [keys, one]) := by decide
  have unclosed : unclosable.fault? .closing (resolve keyed.root one.text) = some 22 := by decide
  obtain ⟨read, write, -⟩ := all_or_nothing proper unlogged .standard
  refine ⟨proper, unlogged, plain, fit, ?_, ?_⟩
  · rcases read one.text plain with ⟨target, -, -, unrefused, -⟩ | ⟨failure, fails, -, done⟩
    · rw [System.refusal?, unclosed] at unrefused
      cases unrefused
    · rw [done]
      cases fails with
      | unnamed empty => cases empty
      | unopened named refused => cases opened.symm.trans refused
      | unread named other refused =>
        rw [System.refusal?, unclosed] at refused
        cases refused
        decide
  · have whole : ∀ setting, Setting.parse "one=2".text = .ok setting →
        setting.value.hasStray = false := by
      intro setting parsed
      cases named.symm.trans parsed
      rfl
    have unbroken : ¬BreaksOff keyed.root unclosable "one=2".text := by
      rintro ⟨setting, target, parsed, -, stray, -⟩
      cases (whole setting parsed).symm.trans stray
    rcases (write "one=2".text fit).1.mpr unbroken with
      ⟨setting, location, after, parsed, -, unrefused, -⟩ | ⟨failure, after, fails, -, done⟩
    · cases named.symm.trans parsed
      rw [System.refusal?, unclosed] at unrefused
      cases unrefused
    · cases fails with
      | noEquals absent =>
        cases named.symm.trans (Setting.parse_eq_error_iff.mpr (.inl ⟨absent, rfl⟩))
      | malformed lacking =>
        cases named.symm.trans (Setting.parse_eq_error_iff.mpr (.inr ⟨lacking, rfl⟩))
      | unopened parsed refused =>
        cases named.symm.trans parsed
        cases opened.symm.trans refused
      | unencoded parsed stray =>
        cases (whole _ parsed).symm.trans stray
      | unwritten parsed _ _ lost =>
        cases named.symm.trans parsed
        exact absurd lost (by decide)
      | unclosed parsed _ other _ refused filled =>
        cases named.symm.trans parsed
        cases opened.symm.trans other
        cases unclosed.symm.trans refused
        refine ⟨after, ?_, filled⟩
        rw [done]
        rfl

/-- A key is emptied, and nothing is printed. -/
theorem all_or_nothing_unencodable :
    let lasting := { unclosable with faults := [] }
    keyed.root.hasNul = false ∧ lasting.log = none ∧
    (∀ setting, Setting.parse unencodable = .ok setting → .char '\x00' ∉ setting.name ∧
      Place.ofPath lasting.files (resolve keyed.root setting.name) ≠ .ok .null) ∧
    let outcome := writeSetting keyed.root .standard unencodable lasting
    outcome.out = [] ∧ outcome.err = [] ∧
      lasting.files.content [keys, one] = Utf8.encode "1\n".text ∧
      outcome.system.files.content [keys, one] = [] := by
  intro lasting
  have named : Setting.parse unencodable = .ok ⟨one.text, [.stray 127]⟩ := by decide
  refine ⟨by decide, rfl, ?_, ?_⟩
  · intro setting parsed
    cases named.symm.trans parsed
    exact ⟨by decide, by decide⟩
  · decide

end Access

end Tunables
