import Tunables.Preload.Apply
import Tunables.Proofs.Lines
import Tunables.Proofs.Outcomes
import Tunables.Proofs.PreloadLines
import Tunables.Proofs.SingleKey

namespace Tunables

namespace Preload

def applyEach (source : Text) (root : Path) (display : Display) : Nat → List Text → Action Status
  | _, [] => Action.pure .success
  | number, raw :: rest =>
    (applyLine source root display number raw).also
      (applyEach source root display (number + 1) rest)

theorem applyLines_succ {source : Path} {system : System}
    (readable : system.fault? .reading source = none) (target : Target) (root : Path)
    (display : Display) (steps number : Nat) (reader : Reader) :
    applyLines source target root display (steps + 1) number reader system =
      match reader.next? (system.content target) with
      | none => Action.pure .success system
      | some (raw, reader) =>
        (applyLine source.render root display number raw).also
          (applyLines source target root display steps (number + 1) reader) system := by
  rw [applyLines, Action.get_bind, readable]
  cases reader.takeLine? <;> cases reader.next? (system.content target) <;> rfl

theorem applyLines_eq_applyEach {source root : Path} {display : Display} {target : Target}
    {content : Bytes} {steady : System → Prop}
    (reads : ∀ system, steady system →
      system.content target = content ∧ system.fault? .reading source = none)
    {lines : List Text}
    (keeps : ∀ raw ∈ lines, ∀ number system, steady system →
      steady (applyLine source.render root display number raw system).system)
    {steps number : Nat} {reader : Reader}
    (ahead : Newline.lines (reader.remaining content) = lines) (enough : lines.length < steps)
    {system : System} (holds : steady system) :
    applyLines source target root display steps number reader system =
      applyEach source.render root display number lines system := by
  -- Every step but the last one takes a line. What is read of the file stays the same as long as
  -- the lines applied keep `steady`.
  induction steps generalizing lines number reader system with
  | zero => exact absurd enough (Nat.not_lt_zero _)
  | succ steps ih =>
    obtain ⟨same, readable⟩ := reads system holds
    rw [applyLines_succ readable, same]
    have handed := reader.handsOut_next content
    cases next : reader.next? content with
    | none =>
      rw [next] at handed
      have nothing : reader.remaining content = [] := handed
      have ended : lines = [] := by
        rw [← ahead, nothing]
        rfl
      rw [ended]
      rfl
    | some taken =>
      obtain ⟨raw, after⟩ := taken
      rw [next] at handed
      have split : lines = raw :: Newline.lines (after.remaining content) :=
        ahead.symm.trans handed
      subst split
      refine Action.also_congr (ih ?_ rfl ?_ ?_)
      · exact fun other member => keeps other (List.mem_cons_of_mem raw member)
      · exact Nat.lt_of_succ_lt_succ enough
      · exact keeps raw List.mem_cons_self number system holds

theorem steady_applyEach {source : Text} {root : Path} {display : Display}
    {steady : System → Prop} {lines : List Text}
    (keeps : ∀ raw ∈ lines, ∀ number system, steady system →
      steady (applyLine source root display number raw system).system)
    {number : Nat} {system : System} (holds : steady system) :
    steady (applyEach source root display number lines system).system := by
  induction lines generalizing number system with
  | nil => exact holds
  | cons raw rest ih =>
    have first := keeps raw List.mem_cons_self number system holds
    rw [applyEach]
    rcases ran : applyLine source root display number raw system with
      ⟨reason | status, out, err, after⟩
    · rw [ran] at first
      rw [Action.also_of_error ran]
      exact first
    · rw [ran] at first
      rw [Action.also_of_ok ran]
      exact ih (fun other member => keeps other (List.mem_cons_of_mem raw member)) first

/-- What a system still has of the one that a preload file was opened in. -/
structure Intact (before : System) (target : Target) (system : System) : Prop where
  continues : System.Continues before system
  content : system.content target = before.content target

theorem applyLine_of_setting (source : Text) (root : Path) (display : Display) (number : Nat)
    {raw : Text} {setting : Setting} (read : readLine raw = .setting setting) :
    applyLine source root display number raw =
      Access.writeSetting root display setting.render := by
  simp only [applyLine, read]

theorem applyLine_of_malformed (source : Text) (root : Path) (display : Display) (number : Nat)
    {raw : Text} (read : readLine raw = .malformed) (system : System) :
    applyLine source root display number raw system =
      ⟨.ok .success, [], badLine source number ++ [.char '\n'],
        system.recorded (.preloadBadLine source number)⟩ := by
  simp only [applyLine, read]
  rw [Action.bind_of_ok (Access.log_eq _ system), Action.warn_pure]
  rfl

theorem applyLine_of_ignored (source : Text) (root : Path) (display : Display) (number : Nat)
    {raw : Text} (read : readLine raw = .ignored) (system : System) :
    applyLine source root display number raw system = ⟨.ok .success, [], [], system⟩ := by
  simp only [applyLine, read]
  rfl

theorem intact_applyLine {before : System} {target : Target} {source : Text} {root : Path}
    {display : Display} {raw : Text} (unlogged : target ∉ before.log.map (·.target))
    (untouched : ∀ setting, readLine raw = .setting setting →
      before.openExisting (Access.resolve root setting.name) ≠ .ok target)
    (number : Nat) {system : System} (intact : Intact before target system) :
    Intact before target (applyLine source root display number raw system).system := by
  have elsewhere : target ∉ system.log.map (·.target) := intact.continues.log ▸ unlogged
  cases read : readLine raw with
  | ignored =>
    rw [applyLine_of_ignored source root display number read]
    exact intact
  | malformed =>
    rw [applyLine_of_malformed source root display number read]
    obtain ⟨continues, kept⟩ := system.recorded_keeps (.preloadBadLine source number)
    exact ⟨intact.continues.trans continues, (kept target elsewhere).trans intact.content⟩
  | setting setting =>
    rw [applyLine_of_setting source root display number read]
    obtain ⟨continues, kept⟩ :=
      Access.writeSetting_keeps root display setting.render system
    refine ⟨intact.continues.trans continues, ?_⟩
    rw [kept target elsewhere ?_, intact.content]
    intro parsed same
    rw [parse_of_readLine read] at same
    cases same
    rw [← intact.continues.similar.openExisting]
    exact untouched setting read

theorem intact_applyEach {before : System} {target : Target} {source : Text} {root : Path}
    {display : Display} {lines : List Text} (unlogged : target ∉ before.log.map (·.target))
    (untouched : ∀ raw ∈ lines, ∀ setting, readLine raw = .setting setting →
      before.openExisting (Access.resolve root setting.name) ≠ .ok target) (number : Nat) :
    Intact before target (applyEach source root display number lines before).system := by
  apply steady_applyEach
  · intro raw member number after kept
    exact intact_applyLine unlogged (untouched raw member) number kept
  · exact ⟨.refl before, rfl⟩

/-- A preload file that can be opened, read and closed and that neither its settings nor the log
write to. -/
theorem apply_of_opened {source root : Path} (display : Display) {target : Target}
    {system : System} (unlogged : target ∉ system.log.map (·.target))
    (opened : system.openExisting source = .ok target)
    (readable : system.fault? .reading source = none)
    (closable : system.fault? .closing source = none)
    (untouched : ∀ raw ∈ Newline.lines (Access.decode (system.content target)),
      ∀ setting, readLine raw = .setting setting →
        system.openExisting (Access.resolve root setting.name) ≠ .ok target) :
    apply source root display system =
      applyEach source.render root display 1
        (Newline.lines (Access.decode (system.content target))) system := by
  have keeps : ∀ raw ∈ Newline.lines (Access.decode (system.content target)),
      ∀ number after, Intact system target after →
        Intact system target (applyLine source.render root display number raw after).system := by
    intro raw member number after kept
    exact intact_applyLine unlogged (untouched raw member) number kept
  have enough : (Newline.lines (Access.decode (system.content target))).length <
      stepLimit (system.content target) := by
    have bounded := Access.length_lines_decode (system.content target)
    unfold stepLimit
    omega
  have ran : applyLines source target root display (stepLimit (system.content target)) 1
      Reader.start system = applyEach source.render root display 1
        (Newline.lines (Access.decode (system.content target))) system := by
    refine applyLines_eq_applyEach (fun after kept => ⟨kept.content, ?_⟩) keeps ?_ enough
      ⟨.refl system, rfl⟩
    · rw [← kept.continues.similar.fault?, readable]
    · rw [Reader.remaining_start]
  have kept : Intact system target (applyEach source.render root display 1
      (Newline.lines (Access.decode (system.content target))) system).system :=
    intact_applyEach unlogged untouched 1
  simp only [apply]
  rw [Action.get_bind, opened]
  simp only [closing, ran, ← kept.continues.similar.fault?, closable]

theorem apply_eq_applyEach {source root : Path} (display : Display) {target : Target}
    {system : System} (unlogged : system.log = none)
    (opened : system.openExisting source = .ok target)
    (readable : system.fault? .reading source = none)
    (closable : system.fault? .closing source = none)
    (untouched : ∀ raw ∈ Newline.lines (Access.decode (system.content target)),
      ∀ setting, readLine raw = .setting setting →
        system.openExisting (Access.resolve root setting.name) ≠ .ok target) :
    apply source root display system =
      applyEach source.render root display 1
        (Newline.lines (Access.decode (system.content target))) system := by
  refine apply_of_opened display ?_ opened readable closable untouched
  simp [unlogged]

end Preload

end Tunables
