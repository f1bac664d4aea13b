import Tunables.Access
import Tunables.Preload.Reader

/-!
Reading a file portion by portion hands out the lines of its text. The invariant is the text that
is still to come: what is at hand, and behind it what the rest of the file will be decoded to.
-/

namespace Tunables

namespace Newline

theorem lines_append_newline {line : Text} (whole : .char '\n' ∉ line) (rest : Text) :
    lines (line ++ .char '\n' :: rest) = (line ++ [.char '\n']) :: lines rest := by
  induction line with
  | nil => simp [lines]
  | cons c line ih =>
    have different : c ≠ '\n' := fun same => whole (same ▸ List.mem_cons_self)
    have later : .char '\n' ∉ line := fun member => whole (List.mem_cons_of_mem c member)
    simp [lines, different, ih later]

theorem lines_of_not_mem {text : Text} (filled : text ≠ []) (whole : .char '\n' ∉ text) :
    lines text = [text] := by
  induction text with
  | nil => exact absurd rfl filled
  | cons c text ih =>
    have different : c ≠ '\n' := fun same => whole (same ▸ List.mem_cons_self)
    have later : .char '\n' ∉ text := fun member => whole (List.mem_cons_of_mem c member)
    by_cases last : text = []
    · simp [lines, different, last]
    · simp [lines, different, ih last later]

theorem lines_flatten {texts : List Text}
    (whole : ∀ line ∈ texts, ∃ text, line = text ++ [.char '\n'] ∧ .char '\n' ∉ text) :
    lines texts.flatten = texts := by
  induction texts with
  | nil => rfl
  | cons line rest ih =>
    obtain ⟨text, rfl, plain⟩ := whole line List.mem_cons_self
    have later := ih fun other member => whole other (List.mem_cons_of_mem _ member)
    rw [List.flatten_cons, List.append_assoc, List.singleton_append, lines_append_newline plain,
      later]

theorem translate_plain {text : Text} (plain : .char '\r' ∉ text) :
    translate false text = (false, text) := by
  induction text with
  | nil => rfl
  | cons c rest ih =>
    have different : c ≠ '\r' := fun same => plain (same ▸ List.mem_cons_self)
    have later := ih fun member => plain (List.mem_cons_of_mem c member)
    by_cases feed : c = '\n' <;> simp [translate, feed, different, later]

theorem unified_plain {text : Text} (plain : .char '\r' ∉ text) : unified text = text := by
  rw [unified, translate_plain plain]
  exact List.append_nil text

theorem length_lines (text : Text) : (lines text).length ≤ text.length := by
  induction text with
  | nil => exact Nat.le_refl _
  | cons c rest ih =>
    by_cases feed : c = '\n'
    · simp only [lines, feed, if_true, List.length_cons]
      omega
    · simp only [lines, feed, if_false]
      split
      · simp
      · rename_i line more found
        rw [found] at ih
        simp only [List.length_cons] at ih ⊢
        omega

theorem lines_of_takeLine? {text line rest : Text} (taken : takeLine? text = some (line, rest))
    (behind : Text) : lines (text ++ behind) = line :: lines (rest ++ behind) := by
  obtain ⟨⟨before, after⟩, cut, same⟩ := Option.map_eq_some_iff.mp taken
  cases same
  obtain ⟨split, whole⟩ := Text.eq_of_cut? cut
  rw [split, List.append_assoc, List.cons_append, lines_append_newline whole]

theorem takeLine?_eq_none {text : Text} : takeLine? text = none ↔ .char '\n' ∉ text := by
  rw [takeLine?, Option.map_eq_none_iff, Text.cut?_eq_none_iff]

theorem length_translate (held : Bool) (text : Text) :
    (translate held text).2.length + (finish (translate held text).1).length ≤
      text.length + (finish held).length := by
  induction text generalizing held with
  | nil => simp [translate]
  | cons c rest ih =>
    have plain := ih false
    have carriage := ih true
    simp only [finish, Bool.false_eq_true, if_false, if_true, List.length_nil,
      List.length_singleton] at plain carriage ⊢
    simp only [translate]
    split
    · simp only [List.length_cons]
      omega
    · split <;> cases held <;> simp only [Bool.false_eq_true, if_false, if_true, List.length_cons,
        List.length_nil] <;> omega

end Newline

namespace Utf8

theorem length_feedFirst (byte : UInt8) :
    (feedFirst byte).2.length + (finish (feedFirst byte).1).length = 1 := by
  unfold feedFirst
  split <;> rfl

theorem length_feed (state : State) (bytes : Bytes) :
    (feed state bytes).2.length + (finish (feed state bytes).1).length ≤
      bytes.length + (finish state).length := by
  induction bytes generalizing state with
  | nil => simp [feed]
  | cons byte bytes ih =>
    have one : (feedByte state byte).2.length + (finish (feedByte state byte).1).length ≤
        1 + (finish state).length := by
      have first := length_feedFirst byte
      cases state with
      | none =>
        simp only [feedByte]
        omega
      | some part =>
        simp only [feedByte]
        split
        · simp [finish]
        · simp [finish]
        · simp only [List.length_cons, finish] at first ⊢
          omega
    have others := ih (feedByte state byte).1
    simp only [feed, List.length_append, List.length_cons]
    omega

theorem length_decode (bytes : Bytes) : (decode bytes).length ≤ bytes.length := by
  have counted := length_feed none bytes
  simp only [decode, List.length_append]
  simpa [finish] using counted

end Utf8

theorem Access.decode_encode {text : Text} (whole : text.hasStray = false)
    (plain : .char '\r' ∉ text) : decode (Utf8.encode text) = text := by
  rw [decode, Utf8.decode_encode whole, Newline.unified_plain plain]

theorem Access.length_lines_decode (content : Bytes) :
    (Newline.lines (Access.decode content)).length ≤ content.length := by
  have unified : (Access.decode content).length ≤ (Utf8.decode content).length := by
    have translated := Newline.length_translate false (Utf8.decode content)
    rw [Access.decode, Newline.unified, List.length_append]
    exact translated
  calc (Newline.lines (Access.decode content)).length
      ≤ (Access.decode content).length := Newline.length_lines _
    _ ≤ (Utf8.decode content).length := unified
    _ ≤ content.length := Utf8.length_decode content

namespace Preload.Reader

def remaining (reader : Reader) (content : Bytes) : Text :=
  let (partway, decoded) := Utf8.feed reader.partway (content.drop reader.offset)
  let (held, text) := Newline.translate reader.held (decoded ++ Utf8.finish partway)
  reader.text ++ text ++ Newline.finish held

theorem remaining_start (content : Bytes) : start.remaining content = Access.decode content := rfl

theorem remaining_text (reader : Reader) (text : Text) (content : Bytes) :
    ∃ behind, reader.remaining content = reader.text ++ behind ∧
      ({ reader with text } : Reader).remaining content = text ++ behind :=
  ⟨_, List.append_assoc _ _ _, List.append_assoc _ _ _⟩

theorem remaining_feed (reader : Reader) {content bytes : Bytes}
    (next : content.drop reader.offset =
      bytes ++ content.drop (reader.offset + bytes.length)) :
    (reader.feed bytes).remaining content = reader.remaining content := by
  simp only [remaining, feed]
  rw [next, Utf8.feed_append]
  simp only [List.append_assoc, Newline.translate_append]

theorem remaining_finish (reader : Reader) {content : Bytes}
    (ended : content.drop reader.offset = []) :
    (reader.finish).remaining content = reader.remaining content ∧
      (reader.finish).text = reader.remaining content := by
  have settled : Utf8.finish none = [] := rfl
  have released : Newline.finish false = [] := rfl
  simp only [remaining, finish, ended, Utf8.feed, settled, released, Newline.translate,
    List.nil_append, List.append_nil, and_self]

/-- What a reader hands out is the first line of the text to come, and that is then behind it. -/
def HandsOut (reader : Reader) (content : Bytes) : Option (Text × Reader) → Prop
  | none => reader.remaining content = []
  | some (line, after) =>
    Newline.lines (reader.remaining content) = line :: Newline.lines (after.remaining content)

theorem handsOut_takeLine {reader : Reader} {taken : Text × Reader} (content : Bytes)
    (found : reader.takeLine? = some taken) : reader.HandsOut content (some taken) := by
  obtain ⟨⟨line, text⟩, cut, rfl⟩ := Option.map_eq_some_iff.mp found
  obtain ⟨behind, before, after⟩ := reader.remaining_text text content
  simp only [HandsOut, before, after]
  exact Newline.lines_of_takeLine? cut behind

theorem handsOut_takeLast {reader : Reader} {content : Bytes}
    (whole : reader.text = reader.remaining content) :
    reader.HandsOut content reader.takeLast? := by
  unfold takeLast?
  cases found : reader.takeLine? with
  | some taken => exact handsOut_takeLine content found
  | none =>
    by_cases empty : reader.text = []
    · simp only [empty, if_true, HandsOut]
      rw [← whole, empty]
    · simp only [empty, if_false, HandsOut]
      obtain ⟨behind, before, after⟩ := reader.remaining_text [] content
      have nothing : behind = [] := by
        rw [← whole] at before
        exact List.self_eq_append_right.mp before
      rw [← whole, after, nothing]
      exact Newline.lines_of_not_mem empty
        (Newline.takeLine?_eq_none.mp (Option.map_eq_none_iff.mp found))

theorem HandsOut.congr {first second : Reader} {content : Bytes} {taken : Option (Text × Reader)}
    (handed : first.HandsOut content taken)
    (same : first.remaining content = second.remaining content) :
    second.HandsOut content taken := by
  cases taken <;> simpa only [HandsOut, same] using handed

theorem handsOut_finish {reader : Reader} {content : Bytes}
    (ended : content.drop reader.offset = []) :
    reader.HandsOut content reader.finish.takeLast? := by
  obtain ⟨same, whole⟩ := reader.remaining_finish ended
  exact (handsOut_takeLast (whole.trans same.symm)).congr same

theorem handsOut_fill {reader : Reader} {content left : Bytes} {portions : Nat}
    (next : content.drop reader.offset = left) (enough : left.length ≤ portions) :
    reader.HandsOut content (reader.fill portions left) := by
  -- Each portion takes at least one byte.
  induction portions generalizing reader left with
  | zero =>
    have ended : left = [] := List.eq_nil_of_length_eq_zero (Nat.le_zero.mp enough)
    exact handsOut_finish (next.trans ended)
  | succ portions ih =>
    unfold fill
    by_cases ended : left = []
    · rw [if_pos ended]
      exact handsOut_finish (next.trans ended)
    rw [if_neg ended]
    have cut : content.drop (reader.offset + (left.take portion).length) = left.drop portion := by
      rw [← List.drop_drop, next, List.length_take]
      rcases Nat.le_total portion left.length with long | short
      · rw [Nat.min_eq_left long]
      · rw [Nat.min_eq_right short, List.drop_of_length_le (Nat.le_refl _),
          List.drop_of_length_le short]
    have fed : (reader.feed (left.take portion)).remaining content = reader.remaining content :=
      reader.remaining_feed (by rw [cut, next, List.take_append_drop])
    dsimp only
    cases found : (reader.feed (left.take portion)).takeLine? with
    | some taken => exact (handsOut_takeLine content found).congr fed
    | none =>
      have shorter : (left.drop portion).length ≤ portions := by
        have some : 0 < left.length := List.length_pos_iff.mpr ended
        have size : 0 < portion := by decide
        rw [List.length_drop]
        omega
      exact (ih cut shorter).congr fed

theorem handsOut_next (reader : Reader) (content : Bytes) :
    reader.HandsOut content (reader.next? content) := by
  unfold next?
  cases found : reader.takeLine? with
  | some taken => exact handsOut_takeLine content found
  | none => exact handsOut_fill rfl (Nat.le_refl _)

end Preload.Reader

end Tunables
