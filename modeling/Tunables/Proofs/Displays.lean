import Tunables.Proofs.Rereading

namespace Tunables

namespace Newline

/-- A text as its lines: those that end in a newline, and what is behind the last newline. -/
structure Parts (text : Text) (ended : List Text) (last : Text) : Prop where
  whole : text = (ended.flatMap fun line => line ++ [.char '\n']) ++ last
  single : ∀ line ∈ ended, .char '\n' ∉ line
  plain : .char '\n' ∉ last

theorem exists_parts (text : Text) : ∃ ended last, Parts text ended last := by
  induction text with
  | nil => exact ⟨[], [], rfl, nofun, List.not_mem_nil⟩
  | cons c rest ih =>
    obtain ⟨ended, last, whole, single, plain⟩ := ih
    by_cases feed : c = '\n'
    · subst feed
      refine ⟨[] :: ended, last, ?_, ?_, plain⟩
      · rw [whole]
        rfl
      · exact List.forall_mem_cons.mpr ⟨List.not_mem_nil, single⟩
    · have different : ∀ {line : Text}, .char '\n' ∉ line → .char '\n' ∉ c :: line :=
        fun absent member => absent ((List.mem_cons.mp member).resolve_left (Ne.symm feed))
      cases ended with
      | nil => exact ⟨[], c :: last, congrArg (c :: ·) whole, nofun, different plain⟩
      | cons line more =>
        rw [List.forall_mem_cons] at single
        refine ⟨(c :: line) :: more, last, congrArg (c :: ·) whole, ?_, plain⟩
        exact List.forall_mem_cons.mpr ⟨different single.1, single.2⟩

theorem lines_ended_append {ended : List Text} (single : ∀ line ∈ ended, .char '\n' ∉ line)
    (text : Text) :
    lines ((ended.flatMap fun line => line ++ [.char '\n']) ++ text) =
      (ended.map fun line => line ++ [.char '\n']) ++ lines text := by
  induction ended with
  | nil => rfl
  | cons line more ih =>
    rw [List.forall_mem_cons] at single
    rw [List.flatMap_cons, List.append_assoc, List.append_assoc, List.singleton_append,
      lines_append_newline single.1, ih single.2]
    rfl

theorem Parts.lines {text last : Text} {ended : List Text} (parts : Parts text ended last) :
    lines text = (ended.map fun line => line ++ [.char '\n']) ++
      if last = [] then [] else [last] := by
  rw [parts.whole, lines_ended_append parts.single]
  by_cases nothing : last = []
  · rw [if_pos nothing, nothing]
    rfl
  · rw [if_neg nothing, lines_of_not_mem nothing parts.plain]

end Newline

namespace Display

open Newline

variable {value last : Text} {ended : List Text}

def label (name : Text) : Text := name ++ separator

theorem format_names (parts : Parts value ended last) (name : Text) (newline : Bool) :
    format ⟨true, newline⟩ name (lines value) =
      (ended.flatMap fun line => label name ++ line ++ [.char '\n']) ++
        if last = [] then [] else label name ++ last := by
  have each : ∀ line,
      name ++ separator ++ (line ++ [.char '\n']) = label name ++ line ++ [.char '\n'] :=
    fun line => (List.append_assoc _ _ _).symm
  rw [format, if_pos rfl, parts.lines, List.flatMap_append, List.flatMap_map]
  simp only [each]
  split
  · rfl
  · rw [List.flatMap_singleton, label]

theorem lines_format_names (parts : Parts value ended last) {name : Text}
    (single : .char '\n' ∉ name) (newline : Bool) :
    lines (format ⟨true, newline⟩ name (lines value)) =
      (lines value).map fun line => label name ++ line := by
  have plain : .char '\n' ∉ label name := by
    rw [label, List.mem_append]
    exact not_or_intro single (by decide)
  have labelled : ∀ line : Text, .char '\n' ∉ line → .char '\n' ∉ label name ++ line := by
    intro line absent
    rw [List.mem_append]
    exact not_or_intro plain absent
  have shown : Parts (format ⟨true, newline⟩ name (lines value))
      (ended.map fun line => label name ++ line)
      (if last = [] then [] else label name ++ last) := by
    refine ⟨?_, ?_, ?_⟩
    · rw [format_names parts, List.flatMap_map]
    · rw [List.forall_mem_map]
      exact fun line member => labelled line (parts.single line member)
    · split
      · exact List.not_mem_nil
      · exact labelled last parts.plain
  rw [shown.lines, parts.lines, List.map_append, List.map_map, List.map_map]
  congr 1
  · exact List.map_congr_left fun line _ => List.append_assoc _ _ _
  · by_cases nothing : last = []
    · rw [if_pos nothing, if_pos rfl, if_pos nothing]
      rfl
    · have filled : label name ++ last ≠ [] := List.append_ne_nil_of_right_ne_nil _ nothing
      rw [if_neg nothing, if_neg filled, if_neg nothing]
      rfl

theorem format_whole (name value : Text) : format ⟨false, true⟩ name (lines value) = value :=
  flatten_lines value

theorem format_bare (name value : Text) :
    format ⟨false, false⟩ name (lines value) = dropFinalNewline value :=
  congrArg dropFinalNewline (flatten_lines value)

theorem dropFinalNewline_append (rest : Text) : dropFinalNewline (rest ++ [.char '\n']) = rest := by
  simp [dropFinalNewline]

theorem dropFinalNewline_of_ne (other : value.getLast? ≠ some (.char '\n')) :
    dropFinalNewline value = value := if_neg other

end Display

namespace Access

variable {root : Path} {key : Text} {system : System} {content : Bytes}

theorem readSetting_of_content (named : key ≠ [])
    (readable : system.readFile (resolve root key) = .ok content) (display : Display) :
    readSetting root display key system =
      ⟨.ok .success, display.format (Key.ofPath key)
        (Newline.lines (Newline.replaced (Utf8.decode content))), [], system⟩ := by
  have values := readValues_eq_ok_iff.mpr ⟨named, content, readable, rfl⟩
  rw [readSetting_of_ok display values, decode, Newline.unified_eq_replaced]

/-- A key that can be read is shown as one value in all displays. With names, taking the label off
every line gives that value back, as long as the key's name is on one line. -/
theorem readSetting_displays (named : key ≠ [])
    (readable : system.readFile (resolve root key) = .ok content) :
    let shown := fun names newline => readSetting root ⟨names, newline⟩ key system
    let label := Display.label (Key.ofPath key)
    let value := Newline.replaced (Utf8.decode content)
    shown false true = ⟨.ok .success, value, [], system⟩ ∧
    (∃ ended last, Newline.Parts value ended last) ∧
    (∀ ended last, Newline.Parts value ended last → ∀ newline,
      shown true newline =
        ⟨.ok .success, (ended.flatMap fun line => label ++ line ++ [.char '\n']) ++
          if last = [] then [] else label ++ last, [], system⟩) ∧
    (.char '\n' ∉ Key.ofPath key → ∀ newline,
      let lines := Newline.lines (shown true newline).out
      lines.length = (Newline.lines value).length ∧ (∀ line ∈ lines, label <+: line) ∧
        (lines.flatMap fun line => line.drop label.length) = value) ∧
    (∀ rest, value = rest ++ [.char '\n'] →
      shown false false = ⟨.ok .success, rest, [], system⟩) ∧
    (value.getLast? ≠ some (.char '\n') →
      shown false false = ⟨.ok .success, value, [], system⟩) := by
  intro shown label value
  have read : ∀ names newline, shown names newline =
      ⟨.ok .success, Display.format ⟨names, newline⟩ (Key.ofPath key) (Newline.lines value), [],
        system⟩ := fun names newline => readSetting_of_content named readable ⟨names, newline⟩
  obtain ⟨ended, last, parts⟩ := Newline.exists_parts value
  refine ⟨?_, ⟨ended, last, parts⟩, ?_, ?_, ?_, ?_⟩
  · rw [read, Display.format_whole]
  · intro ended last parts newline
    rw [read, Display.format_names parts]
  · intro single newline lines
    have labelled : lines = (Newline.lines value).map fun line => label ++ line := by
      simp only [lines, read]
      exact Display.lines_format_names parts single newline
    rw [labelled, List.length_map, List.forall_mem_map, List.flatMap_map]
    refine ⟨rfl, fun line _ => List.prefix_append label line, ?_⟩
    simp only [List.drop_left]
    rw [List.flatMap_id']
    exact Newline.flatten_lines value
  · intro rest split
    rw [read, Display.format_bare, split, Display.dropFinalNewline_append]
  · intro other
    rw [read, Display.format_bare, Display.dropFinalNewline_of_ne other]

end Access

namespace Sample

def uneven : System where
  files := ⟨[([keys], .directory), ([keys, one], .file (Utf8.encode "1\r\n\rone = 2".text))], []⟩
  faults := []
  log := none
  clock := ⟨[], []⟩

end Sample

namespace Access

open Sample

/-- A line that looks like one with a label gets the label all the same. -/
theorem readSetting_displays_uneven :
    one.text ≠ [] ∧
    uneven.readFile (resolve keyed.root one.text) =
      .ok (Utf8.encode "1\r\n\rone = 2".text) ∧
    .char '\n' ∉ Key.ofPath one.text ∧
    readSetting keyed.root ⟨false, true⟩ one.text uneven =
      ⟨.ok .success, "1\n\none = 2".text, [], uneven⟩ ∧
    readSetting keyed.root ⟨true, false⟩ one.text uneven =
      ⟨.ok .success, "one = 1\none = \none = one = 2".text, [], uneven⟩ ∧
    ((Newline.lines "one = 1\none = \none = one = 2".text).flatMap fun line => line.drop 6) =
      "1\n\none = 2".text ∧
    readSetting keyed.root ⟨false, false⟩ one.text uneven =
      ⟨.ok .success, "1\n\none = 2".text, [], uneven⟩ := by
  have named : one.text ≠ [] := by decide
  have readable : uneven.readFile (resolve keyed.root one.text) =
      .ok (Utf8.encode "1\r\n\rone = 2".text) := by decide
  have single : .char '\n' ∉ Key.ofPath one.text := by decide
  have value : Newline.replaced (Utf8.decode (Utf8.encode "1\r\n\rone = 2".text)) =
      "1\n\none = 2".text := by decide
  have parts : Newline.Parts "1\n\none = 2".text ["1".text, []] "one = 2".text :=
    ⟨by decide, by decide, by decide⟩
  obtain ⟨whole, -, labelled, unlabelled, -, bare⟩ := readSetting_displays named readable
  rw [value] at whole labelled unlabelled bare
  have shown : readSetting keyed.root ⟨true, false⟩ one.text uneven =
      ⟨.ok .success, "one = 1\none = \none = one = 2".text, [], uneven⟩ :=
    labelled ["1".text, []] "one = 2".text parts false
  have without := (unlabelled single false).2.2
  dsimp only at without
  rw [shown] at without
  exact ⟨named, readable, single, whole, shown, without, bare (by decide)⟩

end Access

end Tunables
