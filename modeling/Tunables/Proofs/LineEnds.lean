import Tunables.Proofs.Displays
import Tunables.Proofs.Joining
import Tunables.Proofs.Listed
import Tunables.Proofs.Reordering

namespace Tunables

namespace Newline

variable {first second text : Text}

def Ended (text : Text) : Prop := ∀ c, text.getLast? = some c → c = '\n'

theorem ended_nil : Ended [] := nofun

theorem ended_append_newline (text : Text) : Ended (text ++ [.char '\n']) := by
  intro c last
  rw [List.getLast?_append, List.getLast?_singleton, Option.some_or] at last
  exact (Option.some.inj last).symm

theorem Parts.ended_iff {ended : List Text} {last : Text} (parts : Parts text ended last) :
    Ended text ↔ last = [] := by
  obtain ⟨rfl, -, plain⟩ := parts
  constructor
  · intro newline
    refine Decidable.byContradiction fun filled => plain ?_
    have final : ((ended.flatMap fun line => line ++ [Symbol.char '\n']) ++ last).getLast? =
        some (last.getLast filled) := by
      rw [List.getLast?_append, List.getLast?_eq_some_getLast filled, Option.some_or]
    rw [← newline _ final]
    exact List.getLast_mem filled
  · rintro rfl
    rw [List.append_nil]
    rcases List.eq_nil_or_concat ended with rfl | ⟨before, line, rfl⟩
    · exact ended_nil
    · rw [List.concat_eq_append, List.flatMap_append, List.flatMap_singleton, ← List.append_assoc]
      exact ended_append_newline _

theorem ne_nil_of_mem_lines {line : Text} (member : line ∈ lines text) : line ≠ [] := by
  obtain ⟨ended, last, parts⟩ := exists_parts text
  rw [parts.lines, List.mem_append] at member
  rcases member with inside | final
  · obtain ⟨part, -, rfl⟩ := List.mem_map.mp inside
    exact List.append_ne_nil_of_right_ne_nil part (by decide)
  · split at final
    · cases final
    · rw [List.mem_singleton.mp final]
      exact ‹last ≠ []›

theorem lines_append_of_ended (ended : Ended first) (second : Text) :
    lines (first ++ second) = lines first ++ lines second := by
  obtain ⟨parted, last, parts⟩ := exists_parts first
  have nothing := parts.ended_iff.mp ended
  rw [parts.lines, parts.whole, nothing, List.append_nil, lines_ended_append parts.single,
    if_pos rfl, List.append_nil]

theorem lines_plain_append {last line : Text} {more : List Text} (plain : .char '\n' ∉ last)
    (ahead : lines second = line :: more) : lines (last ++ second) = (last ++ line) :: more := by
  induction last with
  | nil => exact ahead
  | cons c rest ih =>
    rw [List.mem_cons, not_or] at plain
    simp only [List.cons_append, lines, Ne.symm plain.1, if_false, ih plain.2]

theorem lines_append_of_not_ended (unended : ¬Ended first) (filled : second ≠ []) :
    ∃ before last line more, lines first = before ++ [last] ∧ lines second = line :: more ∧
      line ≠ [] ∧ lines (first ++ second) = before ++ (last ++ line) :: more := by
  obtain ⟨parted, last, parts⟩ := exists_parts first
  have some_last : last ≠ [] := mt parts.ended_iff.mpr unended
  obtain ⟨line, more, ahead⟩ := List.exists_cons_of_ne_nil (lines_ne_nil filled)
  refine ⟨parted.map fun line => line ++ [.char '\n'], last, line, more, ?_, ahead, ?_, ?_⟩
  · rw [parts.lines, if_neg some_last]
  · exact ne_nil_of_mem_lines (ahead ▸ List.mem_cons_self)
  · rw [parts.whole, List.append_assoc, lines_ended_append parts.single,
      lines_plain_append parts.plain ahead]

theorem forall_split_cons_iff {holds : Text → List Text → Prop} {rest : List Text} :
    (∀ before part behind, text :: rest = before ++ part :: behind → holds part behind) ↔
      holds text rest ∧
        ∀ before part behind, rest = before ++ part :: behind → holds part behind := by
  constructor
  · intro each
    refine ⟨each [] text rest rfl, fun before part behind split => ?_⟩
    exact each (text :: before) part behind (by rw [split, List.cons_append])
  · rintro ⟨here, later⟩ before part behind split
    cases before with
    | nil =>
      cases split
      exact here
    | cons first before => exact later before part behind (List.cons.inj split).2

/-- The lines of texts one behind the other are the lines of each of them exactly if every text
ends, unless there is nothing behind it. -/
theorem lines_flatten_iff (texts : List Text) :
    lines texts.flatten = texts.flatMap lines ↔
      ∀ before text behind, texts = before ++ text :: behind →
        Ended text ∨ behind.flatten = [] := by
  induction texts with
  | nil => exact iff_of_true rfl fun before text behind split => absurd split (by simp)
  | cons text rest ih =>
    rw [forall_split_cons_iff, ← ih, List.flatten_cons, List.flatMap_cons]
    by_cases apart : Ended text ∨ rest.flatten = []
    · have split : lines (text ++ rest.flatten) = lines text ++ lines rest.flatten := by
        rcases apart with ended | nothing
        · exact lines_append_of_ended ended rest.flatten
        · rw [nothing, List.append_nil]
          exact (List.append_nil _).symm
      rw [split, List.append_cancel_left_eq, and_iff_right apart]
    · refine iff_of_false ?_ fun both => apart both.1
      intro same
      rw [not_or] at apart
      obtain ⟨before, last, line, more, early, -, filled, joined⟩ :=
        lines_append_of_not_ended apart.1 apart.2
      rw [joined, early, List.append_assoc, List.append_cancel_left_eq,
        List.singleton_append] at same
      exact filled (List.append_right_eq_self.mp (List.cons.inj same).1)

theorem getLast?_joined (text : Text) : (joined text).getLast? = text.getLast? := by
  induction text with
  | nil => rfl
  | cons c rest ih =>
    rw [joined]
    split
    · rename_i followed
      cases rest with
      | nil => cases followed.2
      | cons d more => rw [ih, List.getLast?_cons_cons]
    · rw [List.getLast?_cons, List.getLast?_cons, ih]

theorem ended_replaced_iff (text : Text) :
    Ended (replaced text) ↔ ∀ c, text.getLast? = some c → c = '\n' ∨ c = '\r' := by
  rw [Ended, replaced, List.getLast?_map, getLast?_joined]
  cases text.getLast? with
  | none => simp
  | some c =>
    simp only [Option.map_some, Option.some.injEq, forall_eq']
    by_cases carriage : c = '\r' <;> simp [carriage]

end Newline

namespace Display

theorem getLast?_format {display : Display} (newline : display.newline = true) (name value : Text) :
    (display.format name (Newline.lines value)).getLast? = value.getLast? := by
  obtain ⟨names, newline'⟩ := display
  cases newline
  cases names with
  | false => rw [format_whole]
  | true =>
    have labelled : ∀ lines : List Text, (∀ line ∈ lines, line ≠ []) →
        (lines.flatMap fun line => name ++ separator ++ line).getLast? =
          lines.flatten.getLast? := by
      intro lines filled
      induction lines with
      | nil => rfl
      | cons line rest ih =>
        rw [List.forall_mem_cons] at filled
        have same : (name ++ separator ++ line).getLast? = line.getLast? := by
          rw [List.getLast?_append, List.getLast?_eq_some_getLast filled.1, Option.some_or]
        rw [List.flatMap_cons, List.flatten_cons, List.getLast?_append, same, ih filled.2,
          List.getLast?_append]
    rw [format, if_pos rfl, labelled _ fun line => Newline.ne_nil_of_mem_lines,
      Newline.flatten_lines]

end Display

namespace Access

theorem ended_out_readSetting_iff {display : Display} (newline : display.newline = true)
    (root : Path) (key : Text) (system : System) :
    Newline.Ended (readSetting root display key system).out ↔
      ∀ content, key ≠ [] → system.readFile (resolve root key) = .ok content →
        ∀ c, (Utf8.decode content).getLast? = some c → c = '\n' ∨ c = '\r' := by
  by_cases read : ∃ lines, readValues root key system = .ok lines
  · obtain ⟨lines, values⟩ := read
    obtain ⟨named, content, readable, -⟩ := readValues_eq_ok_iff.mp values
    rw [readSetting_of_content named readable display, Newline.Ended,
      Display.getLast?_format newline, ← Newline.Ended, Newline.ended_replaced_iff, readable]
    simp only [ne_eq, named, not_false_eq_true, forall_const, Except.ok.injEq, forall_eq']
  · have silent : (readSetting root display key system).out = [] := by
      rw [readSetting_outcome]
      rcases values : readValues root key system with (failure | reason) | lines
      · rfl
      · rfl
      · exact absurd ⟨lines, values⟩ read
    rw [silent]
    refine iff_of_true Newline.ended_nil fun content named readable => ?_
    exact absurd ⟨_, readValues_eq_ok_iff.mpr ⟨named, content, readable, rfl⟩⟩ read

end Access

namespace Command

def Mode.reads (root : Path) (display : Display) (system : System) : Mode → List (Text × System)
  | .read keys => Action.met (Access.readSetting root display) keys system
  | .list =>
    (Listing.steps root display (Survey.below system root) system).filterMap (Listing.read? root)
  | _ => []

def prints (root : Path) (display : Display) (reads : List (Text × System)) : List Text :=
  reads.map fun read => (Access.readSetting root display read.1 read.2).out

theorem out_of_keys (program : Text) (config : Config) (display : Display) (keys : List Text)
    (system : System) :
    ((Mode.read keys).act program config display system).out =
      (prints config.root display
        ((Mode.read keys).reads config.root display system)).flatten := by
  rw [Mode.act, Action.map]
  dsimp only
  rw [(Action.streams_all _ keys system).1, Action.answers, List.flatMap_map, prints,
    Mode.reads, List.flatMap]

theorem out_of_list (program : Text) (config : Config) (display : Display) (system : System) :
    (Mode.list.act program config display system).out =
      (prints config.root display (Mode.list.reads config.root display system)).flatten := by
  rw [Mode.act]
  cases nul : config.root.hasNul with
  | true =>
    -- Nothing is read below such a root, and the listing is broken off.
    have none_read : Mode.list.reads config.root display system = [] := by
      apply List.map_eq_nil_iff.mp
      rw [Mode.reads, Listing.keys_steps, List.filterMap_eq_nil_iff]
      intro found member
      cases found with
      | key path => exact absurd (Survey.hasNul_of_key member) (by rw [nul]; decide)
      | unlisted path errno => rfl
      | uninspected path errno => rfl
    rw [none_read, Listing.displayAll, nul, if_pos rfl]
    rfl
  | false =>
    obtain ⟨status, after, ran, -⟩ :=
      Listing.all_visits nul display (Survey.below system config.root) (fun _ => id) system
    rw [Listing.displayAll_of_proper nul, ran, prints, ← List.flatMap_def]
    exact Listing.flatMap_printed config.root display _

/-- A key's output ends in a newline, unless it is empty, exactly if its file is empty or ends in LF
or CR. So without `-b` every line that is printed for keys, asked for or listed, belongs to one of
them exactly if each key but the last to print anything has such a file. -/
theorem prints_apart_iff (program : Text) (config : Config) (arguments : List Text)
    (system : System) :
    (∀ (root : Path) (display : Display) (key : Text), display.newline = true →
      (Newline.Ended (Access.readSetting root display key system).out ↔
        ∀ content, key ≠ [] → system.readFile (Access.resolve root key) = .ok content →
          ∀ c, (Utf8.decode content).getLast? = some c → c = '\n' ∨ c = '\r')) ∧
    ((shown arguments).newline = true →
      mode arguments = .list ∨ (∃ keys, mode arguments = .read keys) →
      let reads := (mode arguments).reads config.root (shown arguments) system
      let texts := prints config.root (shown arguments) reads
      (run program config arguments system).out = texts.flatten ∧
      (Newline.lines (run program config arguments system).out = texts.flatMap Newline.lines ↔
        ∀ before text behind, texts = before ++ text :: behind →
          Newline.Ended text ∨ behind.flatten = [])) := by
  constructor
  · intro root display key newline
    exact Access.ended_out_readSetting_iff newline root key system
  · intro newline reading reads texts
    have printed : (run program config arguments system).out = texts.flatten := by
      rw [run_eq_act]
      rcases reading with list | ⟨keys, read⟩
      · simp only [texts, reads, list, out_of_list]
      · simp only [texts, reads, read, out_of_keys]
    rw [printed]
    exact ⟨rfl, Newline.lines_flatten_iff texts⟩

end Command

namespace Sample

def unended : System where
  files := ⟨[([keys], .directory), ([keys, one], .file (Utf8.encode ['1'])),
    ([keys, two], .file (Utf8.encode "2\n".text))], []⟩
  faults := []
  log := none
  clock := ⟨[], []⟩

end Sample

namespace Command

open Sample

/-- Asked for last, the key without a newline is in no other one's way. -/
theorem prints_apart_unended :
    (shown ["two".text, "one".text]).newline = true ∧
    mode ["two".text, "one".text] = .read ["two".text, "one".text] ∧
    Newline.Ended (Access.readSetting keyed.root .standard "two".text unended).out ∧
    (run "sysctl".text keyed ["two".text, "one".text] unended).out =
      "two = 2\none = 1".text ∧
    Newline.lines (run "sysctl".text keyed ["two".text, "one".text] unended).out =
      ["two = 2\n".text, "one = 1".text] := by
  have newline : (shown ["two".text, "one".text]).newline = true := by decide
  have asks : mode ["two".text, "one".text] = .read ["two".text, "one".text] := by decide
  obtain ⟨ends, apart⟩ :=
    prints_apart_iff "sysctl".text keyed ["two".text, "one".text] unended
  obtain ⟨printed, lines⟩ := apart newline (.inr ⟨_, asks⟩)
  have texts : prints keyed.root (shown ["two".text, "one".text])
      ((mode ["two".text, "one".text]).reads keyed.root
        (shown ["two".text, "one".text]) unended) =
      ["two = 2\n".text, "one = 1".text] := by decide
  rw [texts] at printed lines
  have ended : Newline.Ended "two = 2\n".text := Newline.ended_append_newline "two = 2".text
  have two_ends :
      Newline.Ended (Access.readSetting keyed.root .standard "two".text unended).out := by
    refine (ends keyed.root .standard "two".text rfl).mpr fun content _ readable c last => ?_
    have same : unended.readFile (Access.resolve keyed.root "two".text) =
        .ok (Utf8.encode "2\n".text) := by decide
    cases same.symm.trans readable
    cases last
    exact .inl rfl
  refine ⟨newline, asks, two_ends, printed, (lines.mpr ?_).trans (by decide)⟩
  intro before text behind split
  cases before with
  | nil =>
    cases split
    exact .inl ended
  | cons first before =>
    have last : behind = [] := by
      have length := congrArg List.length split
      simp only [List.length_cons, List.length_append, List.length_nil] at length
      exact List.length_eq_zero_iff.mp (by omega)
    exact .inr (by rw [last]; rfl)

/-- Two keys and one line. -/
theorem prints_unapart :
    (Access.readSetting keyed.root .standard one.text unended).out = "one = 1".text ∧
    ¬Newline.Ended (Access.readSetting keyed.root .standard one.text unended).out ∧
    (run "sysctl".text keyed ["one".text, "two".text] unended).out =
      "one = 1two = 2\n".text ∧
    Newline.lines (run "sysctl".text keyed ["one".text, "two".text] unended).out =
      ["one = 1two = 2\n".text] := by
  have printed : (Access.readSetting keyed.root .standard one.text unended).out =
      "one = 1".text := by decide
  refine ⟨printed, ?_, by decide, by decide⟩
  rw [printed]
  intro ended
  exact absurd (ended '1' rfl) (by decide)

end Command

end Tunables
