import Tunables.Proofs.JsonReading
import Tunables.Proofs.Journal

namespace Tunables

theorem Utf8.encode_ofChars_append (early late : Chars) :
    encode (Text.ofChars (early ++ late)) =
      encode (Text.ofChars early) ++ encode (Text.ofChars late) := by
  rw [Text.ofChars, List.map_append, encode, List.flatMap_append]
  rfl

theorem Newline.splitOn_ended {lines : List Chars} (single : ∀ line ∈ lines, '\n' ∉ line) :
    (lines.flatMap fun line => line ++ ['\n']).splitOn '\n' = lines ++ [[]] := by
  induction lines with
  | nil => rfl
  | cons line lines ih =>
    rw [List.forall_mem_cons] at single
    rw [List.flatMap_cons, List.append_assoc, List.singleton_append,
      List.splitOn_append_cons_self_of_not_mem single.1, ih single.2, List.cons_append]

namespace Audit

namespace Stamped

def fields (stamped : Stamped) : Fields :=
  stamped.event.fields ++
    [("event".text, .text stamped.event.name), ("ts".text, .text stamped.stamp),
      ("level".text, .text stamped.event.level.text)]

theorem record_eq (stamped : Stamped) :
    record stamped.stamp stamped.event.level stamped.event.name stamped.event.fields =
      .record stamped.fields := by
  obtain ⟨stamp, event⟩ := stamped
  cases event <;> rfl

theorem nodup_names (stamped : Stamped) : (stamped.fields.map Prod.fst).Nodup := by
  obtain ⟨stamp, event⟩ := stamped
  cases event <;> simp [fields, Event.fields]

def chars (stamped : Stamped) : Chars := (Value.record stamped.fields).render

theorem line_eq (stamped : Stamped) :
    stamped.line = Utf8.encode (Text.ofChars (stamped.chars ++ ['\n'])) := by
  rw [line, record_eq, chars]

theorem not_mem_chars (stamped : Stamped) : '\n' ∉ stamped.chars :=
  fun member => absurd (Json.printable_render _ '\n' member) (by decide)

theorem flatMap_line (records : List Stamped) :
    records.flatMap line =
      Utf8.encode (Text.ofChars (records.flatMap fun stamped => stamped.chars ++ ['\n'])) := by
  induction records with
  | nil => rfl
  | cons stamped records ih =>
    rw [List.flatMap_cons, List.flatMap_cons, ih, line_eq,
      Utf8.encode_ofChars_append (stamped.chars ++ ['\n'])]

end Stamped

def logAll (events : List Event) (system : System) : System :=
  events.foldl (fun system event => (log event system).system) system

variable {system : System} {location : Location}

theorem content_logAll (logging : system.Logging location) (events : List Event) :
    (logAll events system).files.content location = system.files.content location ++
      (stamped system.clock events).flatMap Stamped.line := by
  induction events generalizing system with
  | nil => exact (List.append_nil _).symm
  | cons event events ih =>
    have still := logging.rewrites (System.rewrites_told logging (some event))
    have appended := System.content_told_log logging (some event)
    have clock := System.clock_told logging (some event)
    calc (logAll events (system.told (some event))).files.content location
        = (system.told (some event)).files.content location ++
            (stamped (system.told (some event)).clock events).flatMap Stamped.line := ih still
      _ = system.files.content location ++
            (stamped system.clock (event :: events)).flatMap Stamped.line := by
          rw [appended, clock, List.append_assoc, ← List.flatMap_append]
          rfl

/-- Events of the program's own, whatever stands in their fields, are one line of printable text
each at the end of an open log. Read as JSON, the lines are what was logged, in order and in full,
each with the time at which it was logged. -/
theorem logAll_reads_back (logging : system.Logging location) (events : List Event) :
    ∃ chars lines,
      (logAll events system).files.content location =
        system.files.content location ++ Utf8.encode (Text.ofChars chars) ∧
      chars.splitOn '\n' = lines ++ [[]] ∧ lines.length = events.length ∧
      lines.map Json.read? =
        (stamped system.clock events).map (fun told => some (.record told.fields)) ∧
      (∀ line ∈ lines, Json.Printable line) ∧
      ∀ told ∈ stamped system.clock events, (told.fields.map Prod.fst).Nodup := by
  have appended := content_logAll logging events
  rw [Stamped.flatMap_line] at appended
  refine ⟨_, (stamped system.clock events).map Stamped.chars, appended, ?_, ?_, ?_, ?_,
    fun told _ => told.nodup_names⟩
  · have single : ∀ line ∈ (stamped system.clock events).map Stamped.chars, '\n' ∉ line :=
      List.forall_mem_map.mpr fun told _ => told.not_mem_chars
    rw [← Newline.splitOn_ended single, List.flatMap_map]
  · rw [List.length_map, length_stamped]
  · rw [List.map_map]
    exact List.map_congr_left fun told _ => Json.read?_render _
  · exact List.forall_mem_map.mpr fun told _ => Json.printable_render _

end Audit

namespace Sample

/-- Text that ends a record and begins one of its own, if it is taken as it is. -/
def forgery : Text := "\"\x7d\n\x7b\"event\": \"write_ok\"\x7d\\".text

def forged : List Audit.Event :=
  [.writeFailed forgery "no\r".text,
    .preloadBadLine ['😀', '\x00'] 1000000000000000000000000000000]

end Sample

namespace Audit

open Sample

theorem logAll_reads_back_forged : audited.Logging [audit] ∧
    ∃ chars lines,
      (logAll forged audited).files.content [audit] = Utf8.encode (Text.ofChars chars) ∧
      chars.splitOn '\n' = lines ++ [[]] ∧
      lines.map Json.read? =
        [some (.record [("setting".text, .text forgery), ("error".text, .text "no\r".text),
            ("event".text, .text "write_failed".text), ("ts".text, .text "noon".text),
            ("level".text, .text "warning".text)]),
          some (.record [("source".text, .text ['😀', '\x00']),
            ("lineno".text, .number 1000000000000000000000000000000),
            ("event".text, .text "preload_bad_line".text), ("ts".text, .text "later".text),
            ("level".text, .text "warning".text)])] := by
  have logging : audited.Logging [audit] := ⟨⟨_, rfl, rfl, by decide⟩, _, rfl⟩
  obtain ⟨chars, lines, appended, split, -, reads, -⟩ := logAll_reads_back logging forged
  exact ⟨logging, chars, lines, appended, split, reads⟩

end Audit

end Tunables
