import Tunables.Proofs.ConfigLines

namespace Tunables

namespace Blank

variable {c : Symbol} {rest line : Text} {more : List Text}

theorem lines_ne_nil {text : Text} (filled : text ≠ []) : lines text ≠ [] := by
  unfold lines
  split
  · exact absurd rfl filled
  · exact List.cons_ne_nil _ _
  · split
    · exact List.cons_ne_nil _ _
    · split <;> exact List.cons_ne_nil _ _

theorem lines_of_break (breaks : isBreak c = true)
    (whole : ∀ behind, c = '\r' → rest = .char '\n' :: behind → False)
    (apart : ¬(c = '\r' ∧ rest = [])) (second : Text) :
    lines (c :: rest ++ .char '\n' :: second) = [] :: lines (rest ++ .char '\n' :: second) := by
  rw [List.cons_append, lines, if_pos breaks]
  intro behind carriage feed
  cases rest with
  | nil => exact apart ⟨carriage, rfl⟩
  | cons d rest => exact whole rest carriage (congrArg (· :: rest) (List.cons.inj feed).1)

theorem lines_of_plain (plain : ¬isBreak c = true) (ahead : lines rest = line :: more) :
    lines (c :: rest) = (c :: line) :: more := by
  rw [lines, if_neg plain, ahead]
  rintro behind rfl feed
  exact plain (by decide)

theorem lines_join (first second : Text) :
    lines (first ++ .char '\n' :: second) = lines (first ++ [.char '\n']) ++ lines second := by
  -- A character that breaks no line is put in front of a line that the first text has in any case.
  have plainly : ∀ {c rest}, ¬isBreak c = true →
      lines (rest ++ .char '\n' :: second) = lines (rest ++ [.char '\n']) ++ lines second →
      lines (c :: rest ++ .char '\n' :: second) =
        lines (c :: rest ++ [.char '\n']) ++ lines second := by
    intro c rest plain split
    have filled : rest ++ [.char '\n'] ≠ [] := List.append_ne_nil_of_right_ne_nil rest (by decide)
    obtain ⟨line, more, ahead⟩ := List.exists_cons_of_ne_nil (lines_ne_nil filled)
    rw [ahead] at split
    rw [List.cons_append, List.cons_append, lines_of_plain plain split, lines_of_plain plain ahead]
    rfl
  fun_induction lines first with
  | case1 => rfl
  | case2 rest ih => exact congrArg ([] :: ·) ih
  | case3 c rest whole breaks ih =>
    -- A CR at the end of the first text and the LF behind it are one break.
    by_cases seam : c = '\r' ∧ rest = []
    · rw [seam.1, seam.2]
      rfl
    · rw [lines_of_break breaks whole seam, lines_of_break breaks whole seam]
      exact congrArg ([] :: ·) ih
  | case4 c rest whole plain ended ih => exact plainly plain ih
  | case5 c rest whole plain line more ahead ih => exact plainly plain ih

/-- A CR and the LF behind it are one break, also where the two texts meet. -/
example : lines ("a\r".text ++ .char '\n' :: "b".text) = ["a".text, "b".text] := by decide

theorem lines_append_newline (text : Text) :
    lines (text ++ [.char '\n']) = lines text ∨
      lines (text ++ [.char '\n']) = lines text ++ [[]] := by
  fun_induction lines text with
  | case1 => exact .inr rfl
  | case2 rest ih => exact ih.imp (congrArg ([] :: ·)) (congrArg ([] :: ·))
  | case3 c rest whole breaks ih =>
    by_cases seam : c = '\r' ∧ rest = []
    · rw [seam.1, seam.2]
      exact .inl rfl
    · rw [lines_of_break breaks whole seam]
      exact ih.imp (congrArg ([] :: ·)) (congrArg ([] :: ·))
  | case4 c rest whole plain ended ih =>
    have nothing : rest = [] := Decidable.byContradiction fun filled => lines_ne_nil filled ended
    rw [nothing]
    exact .inl (lines_of_plain plain rfl)
  | case5 c rest whole plain line more ahead ih =>
    rw [ahead] at ih
    exact ih.imp (lines_of_plain plain) (lines_of_plain plain)

end Blank

theorem Items.union_insert (first second : Items) (item : Item) :
    first.union (second.insert item) = (first.union second).insert item := by
  cases item <;> simp [union, insert]

namespace Config

def Problem.later (before : Nat) : Problem → Problem
  | line number defect => line (before + number) defect
  | homeUnknown => homeUnknown

theorem merge_of_empty {overlay : Config} (nothing : overlay.given = .empty) (base : Config) :
    base.merge overlay = base := by
  simp [merge, nothing, Items.union, Items.empty]

theorem merge_standard (base : Config) : base.merge standard = base := merge_of_empty rfl base

theorem set_merge (base overlay : Config) (item : Item) (path : Path) :
    (base.merge overlay).set item path = base.merge (overlay.set item path) := by
  cases item <;> simp only [merge, set, Items.union_insert] <;> rfl

theorem parseLines_bind (homes : Homes) (number : Nat) (config : Config) (early late : List Text) :
    parseLines homes number config (early ++ late) =
      parseLines homes number config early >>= fun config =>
        parseLines homes (number + early.length) config late := by
  induction early generalizing number config with
  | nil => rfl
  | cons raw rest ih =>
    rw [List.cons_append, parseLines_cons, parseLines_cons, List.length_cons,
      Nat.add_comm rest.length, ← Nat.add_assoc]
    cases Reading.ofLine homes raw with
    | nothing => exact ih (number + 1) config
    | sets item path => exact ih (number + 1) (config.set item path)
    | faulty defect => rfl
    | homeless => rfl

/-- Lines that are read on top of a configuration give what they would give by themselves, merged on
top of it. -/
theorem parseLines_merge (homes : Homes) (before number : Nat) (base overlay : Config)
    (lines : List Text) :
    parseLines homes (before + number) (base.merge overlay) lines =
      ((parseLines homes number overlay lines).map base.merge).mapError (Problem.later before) := by
  induction lines generalizing number overlay with
  | nil => rfl
  | cons raw rest ih =>
    rw [parseLines_cons, parseLines_cons]
    cases Reading.ofLine homes raw with
    | nothing => exact ih (number + 1) overlay
    | sets item path =>
      dsimp only
      rw [set_merge]
      exact ih (number + 1) (overlay.set item path)
    | faulty defect => rfl
    | homeless => rfl

theorem parse_append_newline (homes : Homes) (text : Text) :
    parse homes (text ++ [.char '\n']) = parse homes text := by
  rw [parse, parse]
  rcases Blank.lines_append_newline text with same | further
  · rw [same]
  · rw [further, parseLines_bind]
    cases parseLines homes 1 standard (Blank.lines text) <;> rfl

/-- Two texts with a line break between them: the first one's problem counts before the second
one's, whose lines are counted on, and without any the second one is merged on top of the first. -/
theorem parse_join (homes : Homes) (first second : Text) :
    parse homes (first ++ .char '\n' :: second) =
      match parse homes first, parse homes second with
      | .error problem, _ => .error problem
      | .ok _, .error problem => .error (problem.later (Blank.lines (first ++ [.char '\n'])).length)
      | .ok below, .ok above => .ok (below.merge above) := by
  rw [parse, Blank.lines_join, parseLines_bind, ← parse, parse_append_newline]
  cases parse homes first with
  | error problem => rfl
  | ok below =>
    have merged :=
      parseLines_merge homes (Blank.lines (first ++ [.char '\n'])).length 1 below standard
      (Blank.lines second)
    rw [merge_standard, ← parse, Nat.add_comm] at merged
    refine merged.trans ?_
    cases parse homes second <;> rfl

end Config

end Tunables
