import Tunables.Access
import Tunables.Preload
import Tunables.Proofs.Trimming

namespace Tunables

theorem Text.hasStray_eq_false_iff {text : Text} :
    text.hasStray = false ↔ ∀ symbol ∈ text, symbol.isStray = false := by
  simp [hasStray]

theorem Text.hasStray_of_subset {early late : Text} (inside : ∀ symbol ∈ early, symbol ∈ late)
    (whole : late.hasStray = false) : early.hasStray = false :=
  hasStray_eq_false_iff.mpr fun symbol member =>
    hasStray_eq_false_iff.mp whole symbol (inside symbol member)

theorem Text.hasStray_flatten {texts : List Text} (whole : ∀ text ∈ texts, text.hasStray = false) :
    Text.hasStray texts.flatten = false := by
  rw [hasStray_eq_false_iff]
  intro symbol member
  obtain ⟨text, inside, here⟩ := List.mem_flatten.mp member
  exact hasStray_eq_false_iff.mp (whole text inside) symbol here

namespace Utf8

theorem hasStray_feedByte (state : State) (byte : UInt8) :
    (feedByte state byte).2.hasStray = false := by
  have first : (feedFirst byte).2.hasStray = false := by
    unfold feedFirst
    split <;> rfl
  cases state with
  | none => exact first
  | some part =>
    simp only [feedByte]
    split
    · rfl
    · rfl
    · exact first

theorem hasStray_feed (state : State) (bytes : Bytes) : (feed state bytes).2.hasStray = false := by
  induction bytes generalizing state with
  | nil => rfl
  | cons byte rest ih =>
    rw [feed, Text.hasStray_append, hasStray_feedByte, ih]
    rfl

theorem hasStray_decode (bytes : Bytes) : (decode bytes).hasStray = false := by
  have ended : ∀ state, (finish state).hasStray = false := fun state => by cases state <;> rfl
  rw [decode, Text.hasStray_append, hasStray_feed, ended]
  rfl

end Utf8

namespace Newline

theorem hasStray_translate (held : Bool) {text : Text} (whole : text.hasStray = false) :
    (translate held text).2.hasStray = false := by
  induction text generalizing held with
  | nil => rfl
  | cons c rest ih =>
    obtain ⟨first, others⟩ : c.isStray = false ∧ Text.hasStray rest = false := by
      simpa [Text.hasStray] using whole
    have behind := fun held => Text.hasStray_eq_false_iff.mp (ih held others)
    rw [Text.hasStray_eq_false_iff]
    have feed : Symbol.isStray '\n' = false := rfl
    unfold translate
    split
    · simpa [feed] using behind false
    · split
      · cases held <;> simpa [feed] using behind true
      · cases held <;> simpa [feed, first] using behind false

theorem hasStray_unified {text : Text} (whole : text.hasStray = false) :
    (unified text).hasStray = false := by
  have ended : ∀ held, (finish held).hasStray = false := fun held => by cases held <;> rfl
  rw [unified, Text.hasStray_append, hasStray_translate false whole, ended]
  rfl

theorem hasStray_line {text line : Text} (whole : text.hasStray = false)
    (member : line ∈ lines text) : line.hasStray = false := by
  refine Text.hasStray_of_subset (fun symbol inside => ?_) whole
  rw [← flatten_lines text]
  exact List.mem_flatten.mpr ⟨line, member, inside⟩

end Newline

theorem Path.hasStray_intercalate {parts : List Text}
    (whole : ∀ part ∈ parts, part.hasStray = false) :
    Text.hasStray ([.char '/'].intercalate parts) = false := by
  induction parts with
  | nil => rfl
  | cons part rest ih =>
    obtain ⟨first, others⟩ := List.forall_mem_cons.mp whole
    cases rest with
    | nil => rwa [List.intercalate_singleton]
    | cons next later =>
      rw [List.intercalate_cons_cons, Text.hasStray_append, Text.hasStray_append, first, ih others]
      rfl

theorem Key.hasStray_ofPath {path : Text} (whole : path.hasStray = false) :
    (ofPath path).hasStray = false := by
  unfold ofPath
  split
  · rw [Text.hasStray_eq_false_iff] at whole ⊢
    intro symbol member
    obtain ⟨before, inside, rfl⟩ := List.mem_map.mp member
    unfold exchange
    split
    · rfl
    · split
      · rfl
      · exact whole before inside
  · exact whole

theorem Display.hasStray_format {name : Text} {lines : List Text} (display : Display)
    (named : name.hasStray = false) (whole : ∀ line ∈ lines, line.hasStray = false) :
    (display.format name lines).hasStray = false := by
  have flat : Text.hasStray lines.flatten = false := Text.hasStray_flatten whole
  unfold format
  split
  · apply Text.hasStray_flatten
    intro text printed
    obtain ⟨line, inside, rfl⟩ := List.mem_map.mp printed
    rw [Text.hasStray_append, Text.hasStray_append, named, whole line inside]
    rfl
  split
  · exact flat
  · unfold dropFinalNewline
    split
    · exact Text.hasStray_of_subset (fun _ => (List.dropLast_sublist _).mem) flat
    · exact flat

namespace Access

theorem hasStray_decode (content : Bytes) : (decode content).hasStray = false :=
  Newline.hasStray_unified (Utf8.hasStray_decode content)

theorem hasStray_of_line {content : Bytes} {line : Text}
    (member : line ∈ Newline.lines (decode content)) : line.hasStray = false :=
  Newline.hasStray_line (hasStray_decode content) member

end Access

theorem Preload.hasStray_of_readLine {raw : Text} {setting : Setting}
    (read : readLine raw = .setting setting) (whole : raw.hasStray = false) :
    setting.value.hasStray = false := by
  refine Text.hasStray_of_subset (fun symbol member => ?_) whole
  unfold readLine at read
  dsimp only at read
  split at read
  · cases read
  split at read
  · cases read
  · cases read
    have inside : symbol ∈ Text.trim isMargin raw := by
      have right := (List.dropWhile_sublist _).mem member
      unfold sides at right
      cases cut : Text.cut? '=' (Text.trim isMargin raw) with
      | none => simp [cut] at right
      | some parts =>
        rw [(Text.eq_of_cut? cut).1]
        simp only [cut, Option.getD_some] at right
        exact List.mem_append_right _ (List.mem_cons_of_mem _ right)
    exact Text.mem_of_mem_trim inside

end Tunables
