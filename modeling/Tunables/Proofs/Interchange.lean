import Tunables.Proofs.Walk

namespace Tunables

namespace Key

variable {first second : Text}

theorem ofPath_toPath {key : Text} (dotted : firstDelimiter? key ≠ some (.char '/')) :
    ofPath (toPath key) = key := by
  unfold toPath
  split
  · rename_i dot
    have slash : firstDelimiter? (key.map exchange) = some (.char '/') := by
      rw [firstDelimiter?_map_exchange, dot]
      rfl
    have twice : exchange ∘ exchange = id := funext exchange_exchange
    rw [ofPath, if_pos slash, List.map_map, twice, List.map_id]
  · exact if_neg dotted

theorem toPath_ofPath_eq (text : Text) : toPath (ofPath text) = toPath text := by
  by_cases dot : firstDelimiter? text = some (.char '.')
  · have same : ofPath text = text := if_neg (by rw [dot]; decide)
    rw [same]
  · rw [toPath_ofPath dot]
    exact (if_neg dot).symm

theorem ofPath_toPath_eq (text : Text) : ofPath (toPath text) = ofPath text := by
  by_cases slash : firstDelimiter? text = some (.char '/')
  · have same : toPath text = text := if_neg (by rw [slash]; decide)
    rw [same]
  · rw [ofPath_toPath slash]
    exact (if_neg slash).symm

/-- Two texts spell the same key if it is shown under the same name for both. -/
def Same (first second : Text) : Prop := ofPath first = ofPath second

theorem same_ofPath (key : Text) : Same (ofPath key) key := ofPath_ofPath key

theorem same_toPath (key : Text) : Same (toPath key) key := ofPath_toPath_eq key

theorem Same.toPath_eq (same : Same first second) : toPath first = toPath second := by
  rw [← toPath_ofPath_eq first, ← toPath_ofPath_eq second]
  exact congrArg toPath same

theorem Same.mem_iff (same : Same first second) {c : Symbol} (plain : isDelimiter c = false) :
    c ∈ first ↔ c ∈ second := by
  have shown : c ∈ ofPath first ↔ c ∈ ofPath second := by rw [same]
  rwa [mem_ofPath plain, mem_ofPath plain] at shown

theorem Same.ne_nil (same : Same first second) (filled : second ≠ []) : first ≠ [] := by
  rintro rfl
  exact ofPath_ne_nil filled same.symm

theorem Same.eq_nil_iff (same : Same first second) : first = [] ↔ second = [] := by
  constructor
  · intro empty
    exact Decidable.byContradiction fun filled => same.ne_nil filled empty
  · intro empty
    exact Decidable.byContradiction fun filled => Same.ne_nil same.symm filled empty

end Key

def Failure.key? : Failure → Option Text
  | unknownKey key | permissionDenied key | unknownError key _ _ => some key
  | _ => none

theorem Failure.key?_ofErrno (errno : Option Errno) (key : Text) (attempt : Attempt) :
    (ofErrno errno key attempt).key? = some key := by
  unfold ofErrno
  cases Errno.kind errno <;> rfl

namespace Access

variable {root : Path} {system : System} {first second key : Text} {failure : Failure}

theorem resolve_of_same (root : Path) (same : Key.Same first second) :
    resolve root first = resolve root second :=
  congrArg root.join same.toPath_eq

theorem ofTrouble_of_same (same : Key.Same first second) (attempt : Attempt) (trouble : Trouble) :
    Halt.ofTrouble first attempt trouble = Halt.ofTrouble second attempt trouble := by
  cases trouble with
  | abort reason => rfl
  | errno errno =>
    exact congrArg (fun name => Halt.failure (.ofErrno (some errno) name attempt)) same

theorem readValues_of_same (same : Key.Same first second) :
    readValues root first system = readValues root second system := by
  simp only [readValues, same.eq_nil_iff, resolve_of_same root same, ofTrouble_of_same same]

theorem readSetting_of_same (display : Display) (unlogged : system.log = none)
    (same : Key.Same first second) :
    readSetting root display first system = readSetting root display second system := by
  have name : Key.ofPath first = Key.ofPath second := same
  rw [readSetting_eq root display first unlogged, readSetting_eq root display second unlogged,
    readValues_of_same same, name]

theorem writeValue_of_same (same : Key.Same first second) (value : Text) :
    writeValue root ⟨first, value⟩ system = writeValue root ⟨second, value⟩ system := by
  simp only [writeValue, Setting.line, resolve_of_same root same, ofTrouble_of_same same]

theorem writeSetting_named (root : Path) (display : Display) (unlogged : system.log = none)
    {name value : Text} (named : name ≠ []) (plain : .char '=' ∉ name) (valued : value ≠ []) :
    writeSetting root display (name ++ .char '=' :: value) system =
      written root display ⟨name, value⟩ system := by
  let setting : Setting := ⟨name, value⟩
  have parsed : Setting.parse setting.render = .ok setting :=
    Setting.parse_render plain named valued
  change writeSetting root display setting.render system = _
  rw [writeSetting_eq root display _ unlogged, parsed]

theorem writeSetting_of_same (display : Display) (unlogged : system.log = none)
    (same : Key.Same first second) {value : Text} (named : second ≠ []) (plain : .char '=' ∉ second)
    (valued : value ≠ []) :
    writeSetting root display (first ++ .char '=' :: value) system =
      writeSetting root display (second ++ .char '=' :: value) system := by
  have name : Key.ofPath first = Key.ofPath second := same
  have plain' : .char '=' ∉ first := fun member => plain ((same.mem_iff rfl).mp member)
  rw [writeSetting_named root display unlogged (same.ne_nil named) plain' valued,
    writeSetting_named root display unlogged named plain valued]
  simp only [written, Setting.line, writeValue_of_same same, name]

theorem key?_of_readValues (read : readValues root key system = .error (.failure failure)) :
    failure.key? = some (Key.ofPath key) := by
  unfold readValues at read
  split at read
  · rename_i empty
    cases read
    rw [empty]
    rfl
  · revert read
    rcases system.readFile (resolve root key) with (_ | errno) | content <;> rintro ⟨⟩
    exact Failure.key?_ofErrno _ _ _

theorem key?_of_writeValue {setting : Setting}
    (wrote : (writeValue root setting system).1 = .error (.failure failure)) :
    failure.key? = some (Key.ofPath setting.name) := by
  unfold writeValue at wrote
  revert wrote
  rcases system.writeFile (resolve root setting.name) setting.line with
    ⟨(_ | errno) | _, after⟩ <;> rintro ⟨⟩
  exact Failure.key?_ofErrno _ _ _

theorem out_written {setting : Setting} (display : Display)
    (wrote : (writeValue root setting system).1 = .ok ()) :
    (written root display setting system).out =
      display.format (Key.ofPath setting.name) [setting.line] := by
  unfold written
  revert wrote
  rcases writeValue root setting system with ⟨(failure | reason) | _, after⟩ <;> rintro ⟨⟩
  rfl

theorem err_written {setting : Setting} (display : Display)
    (wrote : (writeValue root setting system).1 = .error (.failure failure)) :
    (written root display setting system).err = failure.message ++ [.char '\n'] := by
  unfold written
  revert wrote
  rcases writeValue root setting system with ⟨(failure | reason) | _, after⟩ <;> rintro ⟨⟩
  rfl

/-- The three spellings of a key lead to one file and are answered alike, whether they are read or
written. What is printed and what is reported has the name that is one of the three. -/
theorem spellings_interchangeable (root : Path) (display : Display) (key : Text)
    (unlogged : system.log = none) :
    (∀ spelling ∈ [Key.ofPath key, Key.toPath key],
      resolve root spelling = resolve root key ∧
      readSetting root display spelling system = readSetting root display key system ∧
      ∀ value, key ≠ [] → .char '=' ∉ key → value ≠ [] →
        writeSetting root display (spelling ++ .char '=' :: value) system =
          writeSetting root display (key ++ .char '=' :: value) system) ∧
    (∀ lines, readValues root key system = .ok lines →
      (readSetting root display key system).out = display.format (Key.ofPath key) lines) ∧
    (∀ failure, readValues root key system = .error (.failure failure) →
      (readSetting root display key system).err = failure.message ++ [.char '\n'] ∧
        failure.key? = some (Key.ofPath key)) ∧
    ∀ value, key ≠ [] → .char '=' ∉ key → value ≠ [] →
      ((writeValue root ⟨key, value⟩ system).1 = .ok () →
        (writeSetting root display (key ++ .char '=' :: value) system).out =
          display.format (Key.ofPath key) [value ++ [.char '\n']]) ∧
      ∀ failure, (writeValue root ⟨key, value⟩ system).1 = .error (.failure failure) →
        (writeSetting root display (key ++ .char '=' :: value) system).err =
            failure.message ++ [.char '\n'] ∧
          failure.key? = some (Key.ofPath key) := by
  refine ⟨fun spelling member => ?_, fun lines read => ?_, fun failure read => ?_, ?_⟩
  · have same : Key.Same spelling key := by
      rcases List.mem_cons.mp member with rfl | later
      · exact Key.same_ofPath key
      · rw [List.mem_singleton.mp later]
        exact Key.same_toPath key
    exact ⟨resolve_of_same root same, readSetting_of_same display unlogged same,
      fun value named plain valued => writeSetting_of_same display unlogged same named plain valued⟩
  · rw [readSetting_of_ok display read]
  · rw [readSetting_eq root display key unlogged, read]
    exact ⟨rfl, key?_of_readValues read⟩
  · intro value named plain valued
    rw [writeSetting_named root display unlogged named plain valued]
    exact ⟨out_written display, fun failure wrote =>
      ⟨err_written display wrote, key?_of_writeValue wrote⟩⟩

open Sample in
theorem spellings_of_interface : inner.log = none ∧
    Key.ofPath "net/eth0.1".text = "net.eth0/1".text ∧
    readSetting ⟨.relative, [sys.text]⟩ .standard "net.eth0/1".text inner =
      readSetting ⟨.relative, [sys.text]⟩ .standard "net/eth0.1".text inner ∧
    (readSetting ⟨.relative, [sys.text]⟩ .standard "net/eth0.1".text inner).out =
      "net.eth0/1 = 1\n".text ∧
    writeSetting ⟨.relative, [sys.text]⟩ .standard "net.eth0/1=2".text inner =
      writeSetting ⟨.relative, [sys.text]⟩ .standard "net/eth0.1=2".text inner := by
  have unlogged : inner.log = none := rfl
  have shown : Key.ofPath "net/eth0.1".text = "net.eth0/1".text := by decide
  obtain ⟨spellings, printed, -⟩ := spellings_interchangeable ⟨.relative, [sys.text]⟩ .standard
    "net/eth0.1".text unlogged
  obtain ⟨-, read, written⟩ := spellings _ List.mem_cons_self
  rw [shown] at read written printed
  have values : readValues ⟨.relative, [sys.text]⟩ "net/eth0.1".text inner =
      .ok ["1\n".text] := by decide
  exact ⟨unlogged, shown, read, (printed _ values).trans (by decide),
    written ['2'] (by decide) (by decide) (by decide)⟩

end Access

end Tunables
