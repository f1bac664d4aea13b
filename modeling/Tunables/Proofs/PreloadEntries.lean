import Tunables.Proofs.Statuses

namespace Tunables

def Action.Unmalformed (action : Action Status) : Prop :=
  ∀ system status, (action system).result = .ok status → status ≠ .malformed

theorem Status.combine_ne_malformed {first second : Status} (one : first ≠ .malformed)
    (other : second ≠ .malformed) : first.combine second ≠ .malformed := by
  cases first
  · exact other
  · nofun
  · exact absurd rfl one

theorem Action.Unmalformed.also {first second : Action Status} (one : first.Unmalformed)
    (other : second.Unmalformed) : (first.also second).Unmalformed := by
  intro system status ended
  rw [Action.also, bind_eq_ok_iff] at ended
  obtain ⟨before, ran, mapped⟩ := ended
  rw [map_eq_bind, bind_eq_ok_iff] at mapped
  obtain ⟨behind, later, combined⟩ := mapped
  rw [← Except.ok.inj combined]
  exact Status.combine_ne_malformed (one system before ran) (other _ behind later)

namespace Preload

variable {raw : Text} {lines : List Text} {number : Nat}

def Line.listed? : Line → Option (Option Setting)
  | ignored => none
  | malformed => some none
  | setting found => some (some found)

def numbered (line : Text × Nat) : Option (Nat × Option Setting) :=
  (readLine line.1).listed?.map fun entry => (line.2, entry)

theorem parseFrom_eq_filterMap (number : Nat) (lines : List Text) :
    parseFrom number lines = (lines.zipIdx number).filterMap numbered := by
  induction lines generalizing number with
  | nil => rfl
  | cons raw rest ih =>
    rw [parseFrom, List.zipIdx_cons, List.filterMap_cons, numbered, ih]
    cases readLine raw <;> rfl

theorem mem_parse {entry : Option Setting} :
    (number, entry) ∈ parse lines ↔
      ∃ index raw, number = index + 1 ∧ lines[index]? = some raw ∧
        (readLine raw).listed? = some entry := by
  rw [parse, parseFrom_eq_filterMap, List.mem_filterMap]
  constructor
  · rintro ⟨⟨raw, position⟩, member, kept⟩
    obtain ⟨found, read, same⟩ := Option.map_eq_some_iff.mp kept
    cases same
    obtain ⟨first, here⟩ := List.mk_mem_zipIdx_iff_le_and_getElem?_sub.mp member
    exact ⟨position - 1, raw, (Nat.sub_add_cancel first).symm, here, read⟩
  · rintro ⟨index, raw, rfl, found, read⟩
    refine ⟨(raw, index + 1), ?_, by rw [numbered, read]; rfl⟩
    rw [Nat.add_comm]
    exact List.mk_add_mem_zipIdx_iff_getElem?.mpr found

theorem increasing_parse (lines : List Text) :
    ((parse lines).map Prod.fst).Pairwise (· < ·) := by
  have positions : (lines.zipIdx 1).Pairwise fun early late => early.2 < late.2 := by
    rw [← List.pairwise_map, List.zipIdx_map_snd]
    exact List.pairwise_lt_range' 1
  rw [List.pairwise_map, parse, parseFrom_eq_filterMap]
  refine positions.filterMap numbered ?_
  intro early late before one first other second
  obtain ⟨entry, -, rfl⟩ := Option.map_eq_some_iff.mp first
  obtain ⟨further, -, rfl⟩ := Option.map_eq_some_iff.mp second
  exact before

/-- A line that is neither too short nor a comment. -/
def Counts (raw : Text) : Prop :=
  2 ≤ (Text.trim isMargin raw).length ∧
    ∀ c, (Text.trim isMargin raw).head? = some c → c ≠ '#' ∧ c ≠ ';'

theorem isComment_iff {line : Text} :
    isComment line = true ↔ ¬∀ c, line.head? = some c → c ≠ '#' ∧ c ≠ ';' := by
  cases line with
  | nil => simp [isComment]
  | cons c rest => simp [isComment, imp_iff_not_or]

theorem counts_iff : Counts raw ↔ ∃ entry, (readLine raw).listed? = some entry := by
  unfold readLine
  dsimp only
  by_cases ignored : (Text.trim isMargin raw).length < 2 ∨ isComment (Text.trim isMargin raw) = true
  · rw [if_pos ignored]
    refine iff_of_false ?_ nofun
    intro counts
    rcases ignored with short | comment
    · have long := counts.1
      omega
    · exact isComment_iff.mp comment counts.2
  · rw [if_neg ignored]
    rw [not_or, isComment_iff, not_not, Nat.not_lt] at ignored
    refine iff_of_true ignored ?_
    split
    · exact ⟨none, rfl⟩
    · exact ⟨_, rfl⟩

theorem listed?_eq_setting_iff {setting : Setting} :
    (readLine raw).listed? = some (some setting) ↔ Canonical setting ∧ Spells raw setting := by
  have read : (readLine raw).listed? = some (some setting) ↔ readLine raw = .setting setting := by
    cases readLine raw <;> simp [Line.listed?]
  rw [read]
  constructor
  · exact spells_of_readLine
  · intro spelled
    exact readLine_of_spells spelled.1 spelled.2

theorem Canonical.parse_render {setting : Setting} (canonical : Canonical setting) :
    parse [setting.render ++ [.char '\n']] = [(1, some setting)] := by
  have spelled : Spells (setting.render ++ [.char '\n']) setting :=
    ⟨[], [], [], ['\n'], by simp [spaced, Setting.render], nofun, nofun, nofun,
      List.all_eq_true.mp rfl⟩
  rw [parse, parseFrom, readLine_of_spells canonical spelled]
  rfl

theorem unmalformed_writeSetting {text : Text} {setting : Setting} (root : Path)
    (display : Display) (parsed : Setting.parse text = .ok setting) :
    (Access.writeSetting root display text).Unmalformed := by
  intro system status answered malformed
  rw [Access.share_of_result answered, Access.share_eq_malformed_iff, Setting.lacksSide_iff,
    parsed] at malformed
  obtain ⟨failure, refused, -⟩ := malformed
  cases refused

theorem unmalformed_applyLine (source : Text) (root : Path) (display : Display) (number : Nat)
    (raw : Text) : (applyLine source root display number raw).Unmalformed := by
  cases read : readLine raw with
  | ignored =>
    intro system status ended
    rw [applyLine_of_ignored source root display number read] at ended
    cases ended
    nofun
  | malformed =>
    intro system status ended
    rw [applyLine_of_malformed source root display number read] at ended
    cases ended
    nofun
  | setting setting =>
    rw [applyLine_of_setting source root display number read]
    exact unmalformed_writeSetting root display (parse_of_readLine read)

theorem eq_success_of_taken {source : Path} {target : Target} {reader : Reader} {system : System}
    {status : Status} (ended : taken source target reader system = .error (.ok status)) :
    status = .success := by
  unfold taken at ended
  split at ended
  · cases ended
  · split at ended
    · cases ended
      rfl
    · cases ended

theorem unmalformed_applyLines (source : Path) (target : Target) (root : Path) (display : Display)
    (steps number : Nat) (reader : Reader) :
    (applyLines source target root display steps number reader).Unmalformed := by
  -- The induction is on the steps, so that it holds of a file that its own settings write to.
  induction steps generalizing number reader with
  | zero => nofun
  | succ steps ih =>
    intro system status ended
    rw [applyLines_of_taken] at ended
    cases next : taken source target reader system with
    | error result =>
      rw [next] at ended
      cases (ended : result = .ok status)
      rw [eq_success_of_taken next]
      nofun
    | ok line =>
      rw [next] at ended
      have first := unmalformed_applyLine source.render root display number line.1
      exact first.also (ih (number + 1) line.2) system status ended

theorem unmalformed_closing {action : Action Status} (path : Path)
    (unmalformed : action.Unmalformed) : (closing path action).Unmalformed := by
  intro system status ended
  unfold closing at ended
  dsimp only at ended
  split at ended
  · exact unmalformed system status ended
  · cases ended

theorem unmalformed_apply (source root : Path) (display : Display) :
    (apply source root display).Unmalformed := by
  intro system status ended
  rw [apply, Action.get_bind] at ended
  rcases opened : system.openExisting source with (_ | errno) | target <;> rw [opened] at ended
  · cases ended
  · obtain ⟨told, -, reported⟩ := Action.bind_eq_ok_iff.mp ended
    rw [Access.report_eq] at reported
    cases reported
    exact fun malformed => Status.noConfusion malformed
  · have lines := unmalformed_applyLines source target root display
      (stepLimit (system.content target)) 1 Reader.start
    exact unmalformed_closing source lines system status ended

/-- The lines that count are the entries, one by one and in order. A setting is an entry where a
line spells it, and such a setting is read back from what it is rendered to. So a file that is
applied is answered with success or failure. -/
theorem parse_canonical (lines : List Text) :
    ((parse lines).map Prod.fst).Pairwise (· < ·) ∧
    (∀ number, number ∈ (parse lines).map Prod.fst ↔
      ∃ index raw, number = index + 1 ∧ lines[index]? = some raw ∧ Counts raw) ∧
    (∀ number setting, (number, some setting) ∈ parse lines ↔
      ∃ index raw, number = index + 1 ∧ lines[index]? = some raw ∧
        Canonical setting ∧ Spells raw setting) ∧
    (∀ setting, Canonical setting →
      Setting.parse setting.render = .ok setting ∧
      parse [setting.render ++ [.char '\n']] = [(1, some setting)]) ∧
    ∀ source root display system status,
      (apply source root display system).result = .ok status → status.code ∈ [0, -1] := by
  refine ⟨increasing_parse lines, ?_, ?_, ?_, ?_⟩
  · intro number
    rw [List.mem_map]
    constructor
    · rintro ⟨⟨position, entry⟩, member, rfl⟩
      obtain ⟨index, raw, same, found, read⟩ := mem_parse.mp member
      exact ⟨index, raw, same, found, counts_iff.mpr ⟨entry, read⟩⟩
    · rintro ⟨index, raw, same, found, counts⟩
      obtain ⟨entry, read⟩ := counts_iff.mp counts
      exact ⟨(number, entry), mem_parse.mpr ⟨index, raw, same, found, read⟩, rfl⟩
  · intro number setting
    simp only [mem_parse, listed?_eq_setting_iff]
  · intro setting canonical
    exact ⟨Setting.parse_render canonical.plain canonical.named canonical.valued,
      canonical.parse_render⟩
  · intro source root display system status ended
    have plain := unmalformed_apply source root display system status ended
    cases status
    · decide
    · decide
    · exact absurd rfl plain

example : parse ["#a=1".text, "\t\n".text, " a\r = b ;\r\n".text] =
    [(3, some ⟨"a\r".text, "b ;".text⟩)] := by decide

end Preload

end Tunables
