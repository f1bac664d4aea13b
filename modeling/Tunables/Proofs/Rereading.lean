import Tunables.Proofs.Stages

namespace Tunables

namespace Newline

def joined : Text → Text
  | [] => []
  | c :: rest =>
    if c = .char '\r' ∧ rest.head? = some (.char '\n') then joined rest else c :: joined rest

/-- Every CR LF, and then every CR that is left, replaced by LF. -/
def replaced (text : Text) : Text :=
  (joined text).map fun c => if c = .char '\r' then .char '\n' else c

theorem replaced_of_ne {c : Symbol} (plain : c ≠ '\r') (rest : Text) :
    replaced (c :: rest) = c :: replaced rest := by
  simp [replaced, joined, plain]

theorem replaced_feed (rest : Text) :
    replaced ('\r' :: '\n' :: rest) = .char '\n' :: replaced rest := by
  simp [replaced, joined]

theorem replaced_carriage {rest : Text} (alone : rest.head? ≠ some (.char '\n')) :
    replaced ('\r' :: rest) = .char '\n' :: replaced rest := by
  simp [replaced, joined, alone]

theorem translate_finish (held : Bool) (text : Text) :
    (translate held text).2 ++ finish (translate held text).1 =
      replaced (if held then .char '\r' :: text else text) := by
  -- A CR that is held back still stands before the text to come.
  induction text generalizing held with
  | nil => cases held <;> rfl
  | cons c rest ih =>
    have plain := ih false
    have carriage := ih true
    simp only [Bool.false_eq_true, if_false, if_true] at plain carriage
    by_cases feed : c = '\n'
    · subst feed
      cases held with
      | false =>
        rw [if_neg Bool.false_ne_true, replaced_of_ne (by decide), ← plain]
        simp [translate]
      | true =>
        rw [if_pos rfl, replaced_feed, ← plain]
        simp [translate]
    by_cases again : c = '\r'
    · subst again
      cases held with
      | false =>
        rw [if_neg Bool.false_ne_true, ← carriage]
        simp [translate]
      | true =>
        rw [if_pos rfl, replaced_carriage (by simp), ← carriage]
        simp [translate]
    · cases held with
      | false =>
        rw [if_neg Bool.false_ne_true, replaced_of_ne again, ← plain]
        simp [translate, feed, again]
      | true =>
        rw [if_pos rfl, replaced_carriage (by simp [feed]), replaced_of_ne again, ← plain]
        simp [translate, feed, again]

theorem unified_eq_replaced (text : Text) : unified text = replaced text :=
  translate_finish false text

end Newline

theorem Display.format_lines {display : Display} {setting : Setting}
    (whole : display.names = true → .char '\n' ∉ setting.value) (name : Text) :
    display.format name (Newline.lines setting.line) = display.format name [setting.line] := by
  cases names : display.names with
  | true =>
    rw [Setting.line, Newline.lines_append_newline (whole names), Newline.lines]
  | false =>
    have flat : (Newline.lines setting.line).flatten = [setting.line].flatten :=
      (Newline.flatten_lines _).trans (List.flatten_singleton).symm
    simp only [format, names, Bool.false_eq_true, if_false, flat]

theorem System.readFile_recorded {system : System} {path : Path} {location : Location}
    (opened : system.openExisting path = .ok (.file location))
    (readable : system.fault? .reading path = none)
    (closable : system.fault? .closing path = none)
    (elsewhere : ¬LogStream.IsOn system.log location) (content : Bytes) (event : Audit.Event) :
    ((system.replace (.file location) content).recorded event).readFile path = .ok content := by
  obtain ⟨later, kept⟩ := (system.replace (.file location) content).recorded_keeps event
  have similar := (similar_replace system (.file location) content).trans later.similar
  rw [readFile, ← similar.openExisting, opened, ← similar.fault?, ← similar.refusal?, refusal?,
    readable, closable]
  have unlogged : Target.file location ∉
      (system.replace (.file location) content).log.map (·.target) := elsewhere
  dsimp only [Option.or_none]
  rw [kept (.file location) unlogged]
  exact congrArg Except.ok (content_replace_self opened content)

namespace Access

variable {root : Path} {system : System} {setting : Setting} {location : Location}

/-- Write, then read: the value comes back with its newlines unified, and what is printed is what
writing it printed, unless a name would be put before lines that writing does not tell apart. -/
theorem readSetting_writeSetting (display : Display) (named : setting.name ≠ [])
    (whole : .char '=' ∉ setting.name) (valued : setting.value ≠ [])
    (opened : system.openExisting (resolve root setting.name) = .ok (.file location))
    (readable : system.fault? .reading (resolve root setting.name) = none)
    (closable : system.fault? .closing (resolve root setting.name) = none)
    (elsewhere : ¬LogStream.IsOn system.log location)
    (written : (writeSetting root display setting.render system).result = .ok .success) :
    let wrote := writeSetting root display setting.render system
    (∃ lines, readValues root setting.name wrote.system = .ok lines ∧
      lines.flatten = Newline.replaced setting.line) ∧
    (.char '\r' ∉ setting.value → (display.names = true → .char '\n' ∉ setting.value) →
      readSetting root display setting.name wrote.system =
        ⟨.ok .success, wrote.out, [], wrote.system⟩) := by
  intro wrote
  obtain ⟨target, same, encodable, -, done⟩ :=
    written_of_success (Setting.parse_render whole named valued) written
  cases opened.symm.trans same
  replace done : wrote = _ := done
  have values : readValues root setting.name wrote.system =
      .ok (Newline.lines (decode (Utf8.encode setting.line))) := by
    refine readValues_eq_ok_iff.mpr ⟨named, _, ?_, rfl⟩
    rw [done, System.readFile_recorded opened readable closable elsewhere]
  refine ⟨⟨_, values, ?_⟩, fun plain single => ?_⟩
  · rw [Newline.flatten_lines, decode, Utf8.decode_encode encodable, Newline.unified_eq_replaced]
  · have untouched : .char '\r' ∉ setting.line := by simp [Setting.line, plain]
    rw [readSetting_of_ok display values, decode_encode encodable untouched,
      Display.format_lines single, done]

open Sample

/-- Two lines are printed as they were written if no name is put before them. -/
theorem readSetting_writeSetting_lines :
    let setting : Setting := ⟨one.text, "2\n3".text⟩
    let wrote := writeSetting keyed.root ⟨false, true⟩ setting.render audited
    setting.name ≠ [] ∧ .char '=' ∉ setting.name ∧ setting.value ≠ [] ∧
    audited.openExisting (resolve keyed.root setting.name) = .ok (.file [keys, one]) ∧
    audited.fault? .reading (resolve keyed.root setting.name) = none ∧
    audited.fault? .closing (resolve keyed.root setting.name) = none ∧
    ¬LogStream.IsOn audited.log [keys, one] ∧ wrote.result = .ok .success ∧
    .char '\r' ∉ setting.value ∧
    readSetting keyed.root ⟨false, true⟩ setting.name wrote.system =
      ⟨.ok .success, "2\n3\n".text, [], wrote.system⟩ := by
  intro setting wrote
  have named : setting.name ≠ [] := by decide
  have whole : .char '=' ∉ setting.name := by decide
  have valued : setting.value ≠ [] := by decide
  have opened : audited.openExisting (resolve keyed.root setting.name) =
      .ok (.file [keys, one]) := by decide
  have readable : audited.fault? .reading (resolve keyed.root setting.name) = none := by decide
  have closable : audited.fault? .closing (resolve keyed.root setting.name) = none := by decide
  have elsewhere : ¬LogStream.IsOn audited.log [keys, one] := by decide
  have written : wrote.result = .ok .success := by decide
  have plain : .char '\r' ∉ setting.value := by decide
  obtain ⟨-, read⟩ := readSetting_writeSetting ⟨false, true⟩ named whole valued opened readable
    closable elsewhere written
  refine ⟨named, whole, valued, opened, readable, closable, elsewhere, written, plain, ?_⟩
  exact read plain (fun shown => absurd shown Bool.false_ne_true)

end Access

end Tunables
