import Tunables.Display
import Tunables.Preload
import Tunables.Proofs.Spelling

namespace Tunables

namespace Preload

def spaced (setting : Setting) (gap space : Text) : Text :=
  setting.name ++ gap ++ .char '=' :: (space ++ setting.value)

/-- A setting as a line can give it: blanks that a line may have around the name, the value or all
of it are no part of either. -/
structure Canonical (setting : Setting) : Prop where
  named : setting.name ≠ []
  plain : .char '=' ∉ setting.name
  nameHead : ∀ c, setting.name.head? = some c → isMargin c = false ∧ c ≠ '#' ∧ c ≠ ';'
  nameLast : ∀ c, setting.name.getLast? = some c → isSpace c = false
  valued : setting.value ≠ []
  valueHead : ∀ c, setting.value.head? = some c → isSpace c = false
  valueLast : ∀ c, setting.value.getLast? = some c → isMargin c = false

/-- A line that has nothing but blanks beside the setting. -/
def Spells (raw : Text) (setting : Setting) : Prop :=
  ∃ before gap space behind, raw = before ++ spaced setting gap space ++ behind ∧
    (∀ c ∈ before, isMargin c = true) ∧ (∀ c ∈ gap, isSpace c = true) ∧
    (∀ c ∈ space, isSpace c = true) ∧ ∀ c ∈ behind, isMargin c = true

variable {raw gap : Text} {setting : Setting}

theorem isSpace_of_inner {c : Symbol} (inner : isMargin c = false) : isSpace c = false := by
  simp only [isMargin, Bool.or_eq_false_iff] at inner
  exact inner.1.1

theorem head?_spaced (named : setting.name ≠ []) (gap space : Text) :
    (spaced setting gap space).head? = setting.name.head? := by
  rw [spaced, List.append_assoc, List.head?_append_of_ne_nil _ named]

theorem getLast?_spaced (valued : setting.value ≠ []) (gap space : Text) :
    (spaced setting gap space).getLast? = setting.value.getLast? := by
  rw [spaced, ← List.cons_append, ← List.append_assoc, List.getLast?_append_of_ne_nil _ valued]

theorem sides_spaced (plain : .char '=' ∉ setting.name) (inner : ∀ c ∈ gap, isSpace c = true)
    (space : Text) :
    sides (spaced setting gap space) = (setting.name ++ gap, space ++ setting.value) := by
  have absent : .char '=' ∉ setting.name ++ gap := by
    intro member
    rcases List.mem_append.mp member with inName | inGap
    · exact plain inName
    · exact absurd (inner _ inGap) (by decide)
  rw [sides, spaced, Text.cut?_append _ absent]
  rfl

namespace Canonical

variable (canonical : Canonical setting)
include canonical

theorem bare (gap space : Text) : Text.Bare isMargin (spaced setting gap space) := by
  constructor
  · intro c first
    rw [head?_spaced canonical.named] at first
    exact (canonical.nameHead c first).1
  · intro c last
    rw [getLast?_spaced canonical.valued] at last
    exact canonical.valueLast c last

theorem not_ignored (gap space : Text) :
    ¬((spaced setting gap space).length < 2 ∨ isComment (spaced setting gap space) = true) := by
  rw [not_or]
  constructor
  · have one := List.length_pos_iff.mpr canonical.named
    simp only [spaced, List.length_append, List.length_cons]
    omega
  · intro comment
    rw [isComment, head?_spaced canonical.named, Bool.or_eq_true, decide_eq_true_eq,
      decide_eq_true_eq] at comment
    rcases comment with hash | semicolon
    · exact (canonical.nameHead _ hash).2.1 rfl
    · exact (canonical.nameHead _ semicolon).2.2 rfl

theorem trim_name (inner : ∀ c ∈ gap, isSpace c = true) :
    Text.trim isSpace (setting.name ++ gap) = setting.name := by
  apply Text.trim_eq_iff.mpr
  refine ⟨⟨?_, canonical.nameLast⟩, [], gap, rfl, nofun, inner⟩
  intro c first
  exact isSpace_of_inner (canonical.nameHead c first).1

end Canonical

theorem readLine_of_spells (canonical : Canonical setting) (spelled : Spells raw setting) :
    readLine raw = .setting setting := by
  obtain ⟨before, gap, space, behind, rfl, leading, inner, outer, trailing⟩ := spelled
  have line : Text.trim isMargin (before ++ spaced setting gap space ++ behind) =
      spaced setting gap space :=
    Text.trim_eq_iff.mpr
      ⟨canonical.bare gap space, before, behind, rfl, leading, trailing⟩
  have value : (space ++ setting.value).dropWhile isSpace = setting.value := by
    rw [List.dropWhile_append_of_pos outer, Text.dropWhile_of_head canonical.valueHead]
  rw [readLine, line]
  dsimp only
  rw [if_neg (canonical.not_ignored gap space), sides_spaced canonical.plain inner,
    canonical.trim_name inner, value, if_neg (by simp [canonical.named, canonical.valued])]

theorem exists_gap {left behind : Text} (bare : Text.Bare isMargin (left ++ behind)) :
    ∃ gap, left = Text.trim isSpace left ++ gap ∧ ∀ c ∈ gap, isSpace c = true := by
  have kept : ∀ c, left.head? = some c → isSpace c = false := by
    intro c first
    apply isSpace_of_inner
    apply bare.head c
    rw [List.head?_append, first]
    rfl
  rw [Text.trim, Text.dropWhile_of_head kept]
  exact Text.exists_dropTrailing isSpace left

theorem canonical_of_bare {space : Text} (named : setting.name ≠ [])
    (plain : .char '=' ∉ setting.name)
    (nameLast : ∀ c, setting.name.getLast? = some c → isSpace c = false)
    (valued : setting.value ≠ [])
    (valueHead : ∀ c, setting.value.head? = some c → isSpace c = false)
    (bare : Text.Bare isMargin (spaced setting gap space))
    (counted : isComment (spaced setting gap space) ≠ true) : Canonical setting where
  named := named
  plain := plain
  nameHead := by
    intro c first
    rw [← head?_spaced named gap space] at first
    refine ⟨bare.head c first, ?_, ?_⟩
    · rintro rfl
      exact counted (by simp [isComment, first])
    · rintro rfl
      exact counted (by simp [isComment, first])
  nameLast := nameLast
  valued := valued
  valueHead := valueHead
  valueLast := by
    intro c last
    rw [← getLast?_spaced valued gap space] at last
    exact bare.last c last

theorem spells_of_readLine (read : readLine raw = .setting setting) :
    Canonical setting ∧ Spells raw setting := by
  obtain ⟨bare, before, behind, split, leading, trailing⟩ :=
    Text.trim_eq_iff.mp (rfl : Text.trim isMargin raw = Text.trim isMargin raw)
  unfold readLine at read
  dsimp only at read
  generalize Text.trim isMargin raw = line at bare split read
  split at read
  · cases read
  rename_i counted
  split at read
  · cases read
  rename_i filled
  cases read
  rw [not_or] at counted filled
  obtain ⟨left, right, cut⟩ : ∃ left right, Text.cut? '=' line = some (left, right) := by
    cases cut : Text.cut? '=' line with
    | none => simp [sides, cut] at filled
    | some parts => exact ⟨parts.1, parts.2, rfl⟩
  have parted : sides line = (left, right) := by rw [sides, cut]; rfl
  rw [parted] at filled ⊢
  obtain ⟨rfl, absent⟩ := Text.eq_of_cut? cut
  obtain ⟨gap, leftSplit, inner⟩ := exists_gap bare
  have shape : left ++ .char '=' :: right = spaced
      ⟨Text.trim isSpace left, right.dropWhile isSpace⟩ gap (right.takeWhile isSpace) := by
    rw [spaced, List.takeWhile_append_dropWhile, ← leftSplit]
  rw [shape] at bare counted split
  constructor
  · refine canonical_of_bare filled.1 ?_ ?_ filled.2 ?_ bare counted.2
    · intro member
      exact absent (leftSplit ▸ List.mem_append_left gap member)
    · exact (Text.bare_trim isSpace left).last
    · exact fun c => Text.head?_dropWhile
  · exact ⟨before, gap, right.takeWhile isSpace, behind, split, leading, inner,
      fun c => List.mem_takeWhile_imp, trailing⟩

theorem parse_of_readLine (read : readLine raw = .setting setting) :
    Setting.parse setting.render = .ok setting := by
  obtain ⟨canonical, -⟩ := spells_of_readLine read
  exact Setting.parse_render canonical.plain canonical.named canonical.valued

structure PlainName (name : Text) : Prop where
  mark : .char '=' ∉ name
  newline : .char '\n' ∉ name
  carriage : .char '\r' ∉ name
  head : ∀ c, name.head? = some c → isSpace c = false ∧ c ≠ '#' ∧ c ≠ ';'
  last : ∀ c, name.getLast? = some c → isSpace c = false

structure PlainValue (value : Text) : Prop where
  filled : value ≠ []
  newline : .char '\n' ∉ value
  carriage : .char '\r' ∉ value
  head : ∀ c, value.head? = some c → isSpace c = false
  last : ∀ c, value.getLast? = some c → isSpace c = false

variable {name value : Text}

theorem plain_of_isDelimiter {c : Symbol} (delimiter : Key.isDelimiter c = true) :
    isSpace c = false ∧ c ≠ '#' ∧ c ≠ ';' := by
  simp only [Key.isDelimiter, Bool.or_eq_true, decide_eq_true_eq] at delimiter
  rcases delimiter with rfl | rfl <;> decide

theorem PlainName.ofPath (plain : PlainName name) : PlainName (Key.ofPath name) where
  mark := fun member => plain.mark ((Key.mem_ofPath rfl).mp member)
  newline := fun member => plain.newline ((Key.mem_ofPath rfl).mp member)
  carriage := fun member => plain.carriage ((Key.mem_ofPath rfl).mp member)
  head := by
    intro c first
    cases delimiter : Key.isDelimiter c with
    | false => exact plain.head c ((Key.head?_ofPath delimiter).mp first)
    | true => exact plain_of_isDelimiter delimiter
  last := by
    intro c last
    cases delimiter : Key.isDelimiter c with
    | false => exact plain.last c ((Key.getLast?_ofPath delimiter).mp last)
    | true => exact (plain_of_isDelimiter delimiter).1

theorem isMargin_of_not_mem {c : Symbol} {text : Text} (newline : .char '\n' ∉ text)
    (carriage : .char '\r' ∉ text) (member : c ∈ text) (space : isSpace c = false) :
    isMargin c = false := by
  have notNewline : c ≠ '\n' := fun same => newline (same ▸ member)
  have notCarriage : c ≠ '\r' := fun same => carriage (same ▸ member)
  simp [isMargin, space, notNewline, notCarriage]

theorem canonical_of_plain (filled : name ≠ []) (named : PlainName name)
    (valued : PlainValue value) : Canonical ⟨name, value⟩ where
  named := filled
  plain := named.mark
  nameHead := by
    intro c first
    have bare := named.head c first
    have member := List.mem_of_head? first
    exact ⟨isMargin_of_not_mem named.newline named.carriage member bare.1, bare.2⟩
  nameLast := named.last
  valued := valued.filled
  valueHead := valued.head
  valueLast := fun c last =>
    isMargin_of_not_mem valued.newline valued.carriage (List.mem_of_getLast? last)
      (valued.last c last)

theorem readLine_standard (filled : name ≠ []) (named : PlainName name)
    (valued : PlainValue value) :
    readLine (name ++ Display.separator ++ (value ++ [.char '\n'])) = .setting ⟨name, value⟩ := by
  apply readLine_of_spells (canonical_of_plain filled named valued)
  exact ⟨[], [' '], [' '], ['\n'], by simp [spaced, Display.separator], nofun,
    List.all_eq_true.mp rfl, List.all_eq_true.mp rfl, List.all_eq_true.mp rfl⟩

end Preload

end Tunables
