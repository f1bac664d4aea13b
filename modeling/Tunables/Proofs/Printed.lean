import Tunables.Proofs.Deeds
import Tunables.Proofs.Spelling
import Tunables.Proofs.Strays

namespace Tunables

namespace Access

variable {root : Path} {system : System}

theorem hasStray_of_opened {key : Text} {target : Target}
    (opened : system.openExisting (resolve root key) = .ok target) : key.hasStray = false := by
  have led := System.place_of_openExisting opened
  rw [Text.hasStray_eq_false_iff]
  intro symbol member
  cases symbol with
  | char c => rfl
  | stray n =>
    have inside : .stray n ∈ Key.toPath key := (Key.mem_toPath rfl).mpr member
    obtain ⟨part, within, here⟩ := Path.exists_part_of_mem inside nofun nofun
    have whole := (Place.walkable_of_ofPath led part within).hasStray
    exact Text.hasStray_eq_false_iff.mp whole _ here

theorem hasStray_of_values {key : Text} {lines : List Text} (display : Display)
    (read : readValues root key system = .ok lines) :
    (display.format (Key.ofPath key) lines).hasStray = false := by
  obtain ⟨-, content, readable, rfl⟩ := readValues_eq_ok_iff.mp read
  obtain ⟨target, opened, -⟩ := System.readFile_eq_ok_iff.mp readable
  exact display.hasStray_format (Key.hasStray_ofPath (hasStray_of_opened opened))
    fun line => hasStray_of_line

theorem hasStray_readSetting (display : Display) (key : Text) (system : System) :
    (readSetting root display key system).out.hasStray = false := by
  rw [readSetting_outcome]
  rcases read : readValues root key system with (failure | reason) | lines
  · rfl
  · rfl
  · exact hasStray_of_values display read

theorem hasStray_writeSetting (display : Display) (text : Text) (system : System) :
    (writeSetting root display text system).out.hasStray = false := by
  rw [writeSetting_outcome]
  cases Setting.parse text with
  | error failure => rfl
  | ok setting =>
    have shown : (system.writeFile (resolve root setting.name) setting.line).1 = .ok () →
        (display.format (Key.ofPath setting.name) [setting.line]).hasStray = false := by
      intro wrote
      obtain ⟨target, opened, finished⟩ := System.writeFile_eq_ok_iff.mp wrote
      exact display.hasStray_format (Key.hasStray_ofPath (hasStray_of_opened opened))
        (List.forall_mem_singleton.mpr (System.whole_of_finished finished).1)
    dsimp only [writeValue]
    revert shown
    rcases system.writeFile (resolve root setting.name) setting.line with
      ⟨(reason | errno) | _, after⟩ <;> intro shown
    · rfl
    · rfl
    · exact shown rfl

end Access

theorem Action.hasStray_all {actions : List (Action Status)}
    (each : ∀ action ∈ actions, ∀ system, (action system).out.hasStray = false)
    (system : System) : (all actions system).out.hasStray = false := by
  induction actions generalizing system with
  | nil => rfl
  | cons action actions ih =>
    rw [List.forall_mem_cons] at each
    have first := each.1 system
    rw [all]
    rcases ran : action system with ⟨reason | status, out, err, after⟩ <;> rw [ran] at first
    · rw [also_of_error ran]
      exact first
    · rw [also_of_ok ran, Text.hasStray_append, first, ih each.2]
      rfl

theorem Deed.hasStray_act (root : Path) (display : Display) {deed : Deed}
    (usage : ∀ text complaint, deed = .usage text complaint → text.hasStray = false)
    (system : System) : (deed.act root display system).out.hasStray = false := by
  cases deed with
  | read key => exact Access.hasStray_readSetting display key system
  | write text => exact Access.hasStray_writeSetting display text system
  | usage text complaint => exact usage text complaint rfl
  | _ => rfl

namespace Command

variable {program : Text} {config : Config}

theorem usage_not_mem_preload (source root : Path) (display : Display) (system : System)
    {text complaint : Text} :
    .usage text complaint ∉ Preload.deeds source root display system := by
  unfold Preload.deeds Preload.deedsFrom
  rcases system.openExisting source with (reason | errno) | target
  · simp
  · simp
  · simp only [List.mem_map, not_exists, not_and]
    rintro ⟨number, _ | setting⟩ - <;> nofun

theorem usage_not_mem_listing (root : Path) (system : System) {text complaint : Text} :
    .usage text complaint ∉ Listing.deeds root system := by
  unfold Listing.deeds
  split
  · simp
  · simp only [List.mem_map, not_exists, not_and]
    rintro (path | ⟨path, errno⟩ | ⟨path, errno⟩) - <;> nofun

theorem usage_of_mem_deeds {arguments : List Text} {system : System} {text complaint : Text}
    (member : .usage text complaint ∈ deeds program config arguments system) :
    text = usageText program := by
  unfold deeds at member
  split at member
  · cases List.mem_singleton.mp member
    rfl
  cases request : asked arguments with
  | nil => simp [request, requestDeeds] at member
  | cons first later =>
    rw [request, requestDeeds] at member
    split at member
    · simp at member
    split at member
    · exact absurd member (usage_not_mem_preload _ _ _ _)
    split at member
    · exact absurd member (usage_not_mem_listing _ _)
    split at member
    · cases List.mem_singleton.mp member
      rfl
    split at member
    · cases List.mem_singleton.mp member
      rfl
    · simp at member

theorem hasStray_usageText (named : program.hasStray = false) :
    (usageText program).hasStray = false := by
  simp [usageText, Text.hasStray_append, named, String.text, Text.hasStray_ofChars]

/-- Whatever a run finds in the files, and whatever bytes its arguments have, what it prints can be
encoded, provided that the name can be that it goes by. -/
theorem hasStray_run (named : program.hasStray = false) (config : Config) (arguments : List Text)
    (system : System) : (run program config arguments system).out.hasStray = false := by
  have work := work_run program config arguments system
  simp only [Outcome.work, Prod.mk.injEq] at work
  rw [work.1]
  apply Action.hasStray_all
  intro action member
  obtain ⟨deed, wanted, rfl⟩ := List.mem_map.mp member
  apply Deed.hasStray_act
  rintro text complaint rfl
  rw [usage_of_mem_deeds wanted]
  exact hasStray_usageText named

end Command

end Tunables
