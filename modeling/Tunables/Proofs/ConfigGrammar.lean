import Tunables.Proofs.ConfigLines
import Tunables.Proofs.Words

/-!
The grammar of configuration texts. A line asks for nothing or for an item's path, or it has a flaw;
and a text whose paths can be expanded is read as its last requests, or refused for its first flaw.
-/

namespace Tunables

namespace Item

variable {text : Text} {item : Item}

theorem isPlain_text (item : Item) : ∀ c ∈ item.text, Lowercase.isPlain c = true := by
  rw [← List.all_eq_true]
  cases item <;> rfl

theorem ofText?_eq_some_iff : ofText? text = some item ↔ text = item.text := by
  constructor
  · intro found
    have same := List.find?_some found
    exact (of_decide_eq_true same).symm
  · rintro rfl
    cases item <;> rfl

theorem ofText?_lower {word : Text} :
    ofText? (Lowercase.ofText word) = some item ↔ word.map Lowercase.fold = item.text := by
  rw [ofText?_eq_some_iff, Lowercase.ofText_eq_iff (isPlain_text item)]

end Item

namespace Config

open Blank (Holds Leads)

def Spells (word text : Text) : Prop := word.map Lowercase.fold = text

/-- What a line asks for, if it has one of the forms that a line can have. -/
inductive Asks (raw : Text) : Option (Item × Text) → Prop
  | blank (holds : Holds raw []) : Asks raw none
  | comment {rest : Text} (holds : Holds raw ('#' :: rest)) : Asks raw none
  | set {line first rest second path : Text} {item : Item} (holds : Holds raw line)
    (directive : Leads line first rest) (set : Spells first "set".text)
    (name : Leads rest second path) (known : Spells second item.text) (given : path ≠ []) :
    Asks raw (some (item, path))

/-- What is wrong with a line of another form. -/
inductive Flaw (raw : Text) : Defect → Prop
  | unknownDirective {line word rest : Text} (holds : Holds raw line)
    (directive : Leads line word rest) (plain : line.head? ≠ some (.char '#'))
    (unknown : ¬Spells word "set".text) : Flaw raw (.unknownDirective (Lowercase.ofText word))
  | noName {line word : Text} (holds : Holds raw line) (directive : Leads line word [])
    (set : Spells word "set".text) : Flaw raw .noName
  | unknownName {line first rest second path : Text} (holds : Holds raw line)
    (directive : Leads line first rest) (set : Spells first "set".text)
    (name : Leads rest second path) (unknown : ∀ item : Item, ¬Spells second item.text) :
    Flaw raw (.unknownName (Lowercase.ofText second))
  | noPath {line first rest second : Text} {item : Item} (holds : Holds raw line)
    (directive : Leads line first rest) (set : Spells first "set".text)
    (name : Leads rest second []) (known : Spells second item.text) : Flaw raw (.noPath item)

variable {homes : Homes} {text raw line word rest path : Text} {item : Item}
  {asked : Option (Item × Text)}
  {defect : Defect}

theorem asks_or_flaw (raw : Text) : (∃ asked, Asks raw asked) ∨ ∃ defect, Flaw raw defect := by
  have holds : Holds raw (Blank.trim raw) := Blank.trim_eq_iff_holds.mp rfl
  generalize Blank.trim raw = line at holds
  by_cases empty : line = []
  · subst empty
    exact .inl ⟨none, .blank holds⟩
  by_cases hash : line.head? = some (.char '#')
  · obtain ⟨rest, rfl⟩ := List.head?_eq_some_iff.mp hash
    exact .inl ⟨none, .comment holds⟩
  obtain ⟨first, rest, directive⟩ := Blank.exists_leads ⟨empty, holds.1⟩
  by_cases set : Spells first "set".text
  · rcases directive.filled_rest with rfl | filled
    · exact .inr ⟨_, .noName holds directive set⟩
    · obtain ⟨second, path, name⟩ := Blank.exists_leads filled
      by_cases known : ∃ item : Item, Spells second item.text
      · obtain ⟨item, known⟩ := known
        by_cases given : path = []
        · subst given
          exact .inr ⟨_, .noPath holds directive set name known⟩
        · exact .inl ⟨_, .set holds directive set name known given⟩
      · exact .inr ⟨_, .unknownName holds directive set name (not_exists.mp known)⟩
  · exact .inr ⟨_, .unknownDirective holds directive hash set⟩

theorem readLine_of_leads (holds : Holds raw line) (directive : Leads line word rest)
    (plain : line.head? ≠ some (.char '#')) :
    readLine raw =
      if Lowercase.ofText word = "set".text then (readAssignment rest).map some
      else .error (.unknownDirective (Lowercase.ofText word)) := by
  have formed : ¬(line = [] ∨ line.head? = some (.char '#')) :=
    not_or.mpr ⟨directive.ne_nil, plain⟩
  rw [readLine, Blank.trim_eq_iff_holds.mpr holds]
  dsimp only
  rw [if_neg formed, Blank.firstWord_of_leads directive]

theorem lower_eq_set_iff : Lowercase.ofText word = "set".text ↔ Spells word "set".text :=
  Lowercase.ofText_eq_iff (List.all_eq_true.mp rfl)

theorem readLine_of_set (holds : Holds raw line) (directive : Leads line word rest)
    (set : Spells word "set".text) : readLine raw = (readAssignment rest).map some := by
  have plain : line.head? ≠ some (.char '#') := by
    intro hash
    rw [directive.head?] at hash
    have first := congrArg List.head? set
    rw [List.head?_map, hash] at first
    exact absurd first (by decide)
  rw [readLine_of_leads holds directive plain, if_pos (lower_eq_set_iff.mpr set)]

theorem readAssignment_of_known (name : Leads rest word path) (known : Spells word item.text) :
    readAssignment rest = if path = [] then .error (.noPath item) else .ok (item, path) := by
  simp only [readAssignment, if_neg name.ne_nil, Blank.firstWord_of_leads name,
    Item.ofText?_lower.mpr known]

theorem readAssignment_of_unknown (name : Leads rest word path)
    (unknown : ∀ item : Item, ¬Spells word item.text) :
    readAssignment rest = .error (.unknownName (Lowercase.ofText word)) := by
  have none : Item.ofText? (Lowercase.ofText word) = none :=
    Option.eq_none_iff_forall_ne_some.mpr fun item => mt Item.ofText?_lower.mp (unknown item)
  simp only [readAssignment, if_neg name.ne_nil, Blank.firstWord_of_leads name, none]

theorem readLine_of_asks (asks : Asks raw asked) : readLine raw = .ok asked := by
  cases asks with
  | blank holds =>
    rw [readLine, Blank.trim_eq_iff_holds.mpr holds]
    rfl
  | comment holds =>
    rw [readLine, Blank.trim_eq_iff_holds.mpr holds]
    rfl
  | set holds directive set name known given =>
    rw [readLine_of_set holds directive set, readAssignment_of_known name known, if_neg given]
    rfl

theorem readLine_of_flaw (flaw : Flaw raw defect) : readLine raw = .error defect := by
  cases flaw with
  | unknownDirective holds directive plain unknown =>
    rw [readLine_of_leads holds directive plain, if_neg (mt lower_eq_set_iff.mp unknown)]
  | noName holds directive set =>
    rw [readLine_of_set holds directive set]
    rfl
  | unknownName holds directive set name unknown =>
    rw [readLine_of_set holds directive set, readAssignment_of_unknown name unknown]
    rfl
  | noPath holds directive set name known =>
    rw [readLine_of_set holds directive set, readAssignment_of_known name known, if_pos rfl]
    rfl

theorem readLine_eq_ok_iff : readLine raw = .ok asked ↔ Asks raw asked := by
  constructor
  · intro read
    -- The line has a form or a flaw, and whichever it has is what is read.
    rcases asks_or_flaw raw with ⟨other, asks⟩ | ⟨defect, flaw⟩
    · rw [readLine_of_asks asks] at read
      cases read
      exact asks
    · rw [readLine_of_flaw flaw] at read
      cases read
  · exact readLine_of_asks

theorem not_asks_of_flaw (flaw : Flaw raw defect) (asked : Option (Item × Text)) :
    ¬Asks raw asked := by
  intro asks
  have read := readLine_of_asks asks
  rw [readLine_of_flaw flaw] at read
  cases read

/-- Every line asks for something in order, or one of them is the first with a flaw. -/
theorem asks_or_first_flaw (lines : List Text) :
    (∀ line ∈ lines, ∃ asked, Asks line asked) ∨
      ∃ before raw behind defect, lines = before ++ raw :: behind ∧
        (∀ line ∈ before, ∃ asked, Asks line asked) ∧ Flaw raw defect := by
  induction lines with
  | nil => exact .inl nofun
  | cons line rest ih =>
    rcases asks_or_flaw line with asks | ⟨defect, flaw⟩
    · rcases ih with all | ⟨before, raw, behind, defect, rfl, good, flaw⟩
      · exact .inl (List.forall_mem_cons.mpr ⟨asks, all⟩)
      · exact .inr ⟨line :: before, raw, behind, defect, rfl,
          List.forall_mem_cons.mpr ⟨asks, good⟩, flaw⟩
    · exact .inr ⟨[], line, rest, defect, rfl, nofun, flaw⟩

/-- If a line asks for a path, its home directory, if it needs one, is known. -/
def Resolves (homes : Homes) (raw : Text) : Prop :=
  ∀ item path, Asks raw (some (item, path)) →
    ∃ expanded, (Path.ofText path).expandHome homes = .ok expanded

def LastAsked (lines : List Text) (item : Item) (path : Text) : Prop :=
  ∃ before raw behind, lines = before ++ raw :: behind ∧ Asks raw (some (item, path)) ∧
    ∀ line ∈ behind, ∀ later, ¬Asks line (some (item, later))

theorem lastAsked_or_unasked (lines : List Text) (item : Item) :
    (∃ path, LastAsked lines item path) ∨
      ∀ line ∈ lines, ∀ path, ¬Asks line (some (item, path)) := by
  induction lines with
  | nil => exact .inr nofun
  | cons line rest ih =>
    rcases ih with ⟨path, before, raw, behind, rfl, asks, last⟩ | unasked
    · exact .inl ⟨path, line :: before, raw, behind, rfl, asks, last⟩
    · by_cases asks : ∃ path, Asks line (some (item, path))
      · obtain ⟨path, asks⟩ := asks
        exact .inl ⟨path, [], line, rest, rfl, asks, unasked⟩
      · exact .inr (List.forall_mem_cons.mpr ⟨not_exists.mp asks, unasked⟩)

theorem ofLine_of_flaw (homes : Homes) (flaw : Flaw raw defect) :
    Reading.ofLine homes raw = .faulty defect := by
  rw [Reading.ofLine, readLine_of_flaw flaw]

theorem ofLine_of_asks {expanded : Path} (asks : Asks raw (some (item, path)))
    (expands : (Path.ofText path).expandHome homes = .ok expanded) :
    Reading.ofLine homes raw = .sets item expanded := by
  rw [Reading.ofLine, readLine_of_asks asks]
  dsimp only
  rw [expands]

theorem isGood_iff :
    (Reading.ofLine homes raw).isGood = true ↔ (∃ asked, Asks raw asked) ∧ Resolves homes raw := by
  constructor
  · intro good
    constructor
    · refine (asks_or_flaw raw).resolve_right ?_
      rintro ⟨defect, flaw⟩
      rw [ofLine_of_flaw homes flaw] at good
      cases good
    · intro item path asks
      cases expands : (Path.ofText path).expandHome homes with
      | ok expanded => exact ⟨expanded, rfl⟩
      | error failure =>
        rw [Reading.ofLine, readLine_of_asks asks] at good
        dsimp only at good
        rw [expands] at good
        cases failure <;> cases good
  · rintro ⟨⟨asked, asks⟩, resolves⟩
    cases asked with
    | none =>
      rw [Reading.ofLine, readLine_of_asks asks]
      rfl
    | some request =>
      obtain ⟨item, path⟩ := request
      obtain ⟨expanded, expands⟩ := resolves item path asks
      rw [ofLine_of_asks asks expands]
      rfl

theorem asks_of_set? {expanded : Path}
    (sets : (Reading.ofLine homes raw).set? = some (item, expanded)) :
    ∃ path, Asks raw (some (item, path)) := by
  unfold Reading.ofLine at sets
  split at sets
  · cases sets
  · cases sets
  · rename_i other path read
    split at sets
    · cases sets
    · cases sets
    · cases sets
      exact ⟨path, readLine_eq_ok_iff.mp read⟩

theorem parse_of_flaw {before behind : List Text}
    (resolves : ∀ line ∈ Blank.lines text, Resolves homes line)
    (split : Blank.lines text = before ++ raw :: behind)
    (good : ∀ line ∈ before, ∃ asked, Asks line asked) (flaw : Flaw raw defect) :
    parse homes text = .error (.line (before.length + 1) defect) := by
  apply parse_of_faulty split _ (ofLine_of_flaw homes flaw)
  intro line member
  have inside : line ∈ Blank.lines text := split ▸ List.mem_append_left _ member
  exact isGood_iff.mpr ⟨good line member, resolves line inside⟩

theorem parse_of_asks (resolves : ∀ line ∈ Blank.lines text, Resolves homes line)
    (asks : ∀ line ∈ Blank.lines text, ∃ asked, Asks line asked) :
    parse homes text = .ok (assign (assignments homes (Blank.lines text)) standard) := by
  apply parse_of_good
  intro line member
  exact isGood_iff.mpr ⟨asks line member, resolves line member⟩

theorem not_mem_assignments {lines : List Text}
    (unasked : ∀ line ∈ lines, ∀ path, ¬Asks line (some (item, path))) (expanded : Path) :
    (item, expanded) ∉ assignments homes lines := by
  intro member
  obtain ⟨raw, inside, sets⟩ := List.mem_filterMap.mp member
  obtain ⟨path, asks⟩ := asks_of_set? sets
  exact unasked raw inside path asks

theorem lastOf_eq_none {lines : List Text}
    (unasked : ∀ line ∈ lines, ∀ path, ¬Asks line (some (item, path))) :
    lastOf item (assignments homes lines) = none := by
  rw [← Option.not_isSome_iff_eq_none, isSome_lastOf, not_exists]
  exact not_mem_assignments unasked

theorem lastOf_of_lastAsked {lines : List Text} {expanded : Path}
    (last : LastAsked lines item path)
    (expands : (Path.ofText path).expandHome homes = .ok expanded) :
    lastOf item (assignments homes lines) = some expanded := by
  obtain ⟨before, raw, behind, rfl, asks, later⟩ := last
  have sets : (Reading.ofLine homes raw).set? = some (item, expanded) := by
    rw [ofLine_of_asks asks expands]
    rfl
  have split : assignments homes (before ++ raw :: behind) =
      assignments homes before ++ (item, expanded) :: assignments homes behind := by
    simp only [assignments, List.filterMap_append, List.filterMap_cons, sets]
  rw [split, lastOf_append, lastOf_cons, lastOf_eq_none later, if_pos rfl]
  rfl

theorem assign_of_lastAsked {lines : List Text} {expanded : Path}
    (last : LastAsked lines item path)
    (expands : (Path.ofText path).expandHome homes = .ok expanded) :
    (assign (assignments homes lines) standard).given.contains item = true ∧
      (assign (assignments homes lines) standard).path? item = some expanded := by
  have found := lastOf_of_lastAsked last expands
  constructor
  · rw [contains_assign, ← isSome_lastOf, found]
    exact .inl rfl
  · rw [path?_assign, found]
    rfl

theorem assign_of_unasked {lines : List Text}
    (unasked : ∀ line ∈ lines, ∀ path, ¬Asks line (some (item, path))) :
    (assign (assignments homes lines) standard).given.contains item = false ∧
      (assign (assignments homes lines) standard).path? item = standard.path? item := by
  have missing : lastOf item (assignments homes lines) = none := lastOf_eq_none unasked
  constructor
  · rw [← Bool.not_eq_true, contains_assign, ← isSome_lastOf, missing, contains_standard]
    decide
  · rw [path?_assign, missing]
    rfl

/-- A text whose paths can be expanded is read if each of its lines has one of the forms of the
grammar. Then each item has the path of the last line that asks for it and counts as given, or it is
as it is by default. Else the first line of another form is reported, under its number. -/
theorem parse_grammar (resolves : ∀ line ∈ Blank.lines text, Resolves homes line) :
    ((∃ config, parse homes text = .ok config) ↔
      ∀ line ∈ Blank.lines text, ∃ asked, Asks line asked) ∧
    (∀ config, parse homes text = .ok config → ∀ item,
      (∃ path expanded, LastAsked (Blank.lines text) item path ∧
        (Path.ofText path).expandHome homes = .ok expanded ∧
        config.given.contains item = true ∧ config.path? item = some expanded) ∨
      (∀ line ∈ Blank.lines text, ∀ path, ¬Asks line (some (item, path))) ∧
        config.given.contains item = false ∧ config.path? item = standard.path? item) ∧
    ∀ problem, parse homes text = .error problem → ∃ before raw behind defect,
      Blank.lines text = before ++ raw :: behind ∧
      (∀ line ∈ before, ∃ asked, Asks line asked) ∧ (∀ asked, ¬Asks raw asked) ∧
      Flaw raw defect ∧ problem = .line (before.length + 1) defect ∧
      problem.message = "line ".text ++ Text.ofNat (before.length + 1) ++ ": ".text ++
        defect.message := by
  rcases asks_or_first_flaw (Blank.lines text) with
    asks | ⟨before, raw, behind, defect, split, good, flaw⟩
  · rw [parse_of_asks resolves asks]
    refine ⟨iff_of_true ⟨_, rfl⟩ asks, ?_, nofun⟩
    intro config read item
    cases read
    rcases lastAsked_or_unasked (Blank.lines text) item with ⟨path, last⟩ | unasked
    · obtain ⟨before, raw, behind, split, asks, -⟩ := id last
      have member : raw ∈ Blank.lines text := split ▸ by simp
      obtain ⟨expanded, expands⟩ := resolves raw member item path asks
      exact .inl ⟨path, expanded, last, expands, assign_of_lastAsked last expands⟩
    · exact .inr ⟨unasked, assign_of_unasked unasked⟩
  · have bad := not_asks_of_flaw flaw
    rw [parse_of_flaw resolves split good flaw]
    refine ⟨iff_of_false nofun ?_, nofun, ?_⟩
    · intro asks
      obtain ⟨asked, asks⟩ := asks raw (split ▸ by simp)
      exact bad asked asks
    · intro problem refused
      cases refused
      exact ⟨before, raw, behind, defect, split, good, bad, flaw, rfl, rfl⟩

/-- Words in any letter case, all kinds of blanks and line breaks, `#` inside a path, two homes. -/
theorem parse_grammar_of_breaks :
    let homes : Homes := ⟨"/h".text, [("ann".text, "/home/ann/".text)]⟩
    let text :=
      "#a\u2028 SeT\u00A0LOG\u3000 ~/b # c\x1C\nset preload ~ann/k\nset root /x\r\nset Root\t/y".text
    (∀ line ∈ Blank.lines text, Resolves homes line) ∧ ∃ config, parse homes text = .ok config := by
  intro homes text
  have good : ∀ line ∈ Blank.lines text, (Reading.ofLine homes line).isGood = true := by
    decide
  have resolves := fun line member => (isGood_iff.mp (good line member)).2
  have asks := fun line member => (isGood_iff.mp (good line member)).1
  exact ⟨resolves, (parse_grammar resolves).1.mpr asks⟩

/-- Blank lines and comments count. -/
example :
    parse ⟨[], []⟩ "\n#\nSET KROOT x".text = .error (.line 3 (.unknownName "kroot".text)) := by
  decide

end Config

end Tunables
