import Mathlib.Data.Int.Bitwise
import Mathlib.Data.List.Perm.Basic
import Tunables.Proofs.Deeds
import Tunables.Proofs.Interchange
import Tunables.Proofs.Modes

namespace Tunables

namespace Status

variable {statuses : List Status}

def all (statuses : List Status) : Status := statuses.foldr combine .success

theorem all_cons (status : Status) (statuses : List Status) :
    all (status :: statuses) = status.combine (all statuses) := rfl

theorem code_combine (first second : Status) :
    (first.combine second).code = Int.lor first.code second.code := by
  cases first <;> cases second <;> decide +kernel

theorem code_combine_all (status : Status) (statuses : List Status) :
    (status.combine (all statuses)).code = (statuses.map code).foldl Int.lor status.code := by
  induction statuses generalizing status with
  | nil => exact congrArg code status.combine_success
  | cons next rest ih =>
    rw [all_cons, ← combine_assoc, ih, List.map_cons, List.foldl_cons, code_combine]

/-- The codes are collected from the first to the last, bit by bit. -/
theorem code_all (statuses : List Status) :
    (all statuses).code = (statuses.map code).foldl Int.lor 0 := code_combine_all .success statuses

theorem all_eq_success_iff : all statuses = .success ↔ ∀ status ∈ statuses, status = .success := by
  induction statuses with
  | nil => exact iff_of_true rfl nofun
  | cons status rest ih => rw [all_cons, combine_eq_success_iff, ih, List.forall_mem_cons]

theorem all_eq_failure_iff : all statuses = .failure ↔ .failure ∈ statuses := by
  induction statuses with
  | nil => exact iff_of_false nofun nofun
  | cons status rest ih =>
    rw [all_cons, List.mem_cons, ← ih]
    cases status <;> cases all rest <;> decide

theorem all_eq_malformed_iff :
    all statuses = .malformed ↔
      (∃ status ∈ statuses, status ≠ .success) ∧
        ∀ status ∈ statuses, status ≠ .success → status = .malformed := by
  have other : ∀ status : Status, status = .malformed ↔ status ≠ .success ∧ status ≠ .failure := by
    intro status
    cases status <;> decide
  have failing : .failure ∉ statuses ↔
      ∀ status ∈ statuses, status ≠ .success → status = .malformed := by
    constructor
    · intro absent status member failed
      exact (other status).mpr ⟨failed, fun same => absent (same ▸ member)⟩
    · intro malformed member
      exact absurd (malformed .failure member nofun) nofun
  rw [other, Ne, Ne, all_eq_success_iff, all_eq_failure_iff, failing]
  simp only [not_forall, exists_prop, ne_eq]

theorem all_perm {first second : List Status} (perm : first.Perm second) :
    all first = all second := by
  have commutes : LeftCommutative combine :=
    ⟨fun one other rest => by rw [← combine_assoc, combine_comm one, combine_assoc]⟩
  exact perm.foldr_eq Status.success

theorem code_eq_zero_iff {status : Status} : status.code = 0 ↔ status = .success := by
  cases status <;> decide

theorem code_eq_neg_one_iff {status : Status} : status.code = -1 ↔ status = .failure := by
  cases status <;> decide

theorem code_eq_neg_two_iff {status : Status} : status.code = -2 ↔ status = .malformed := by
  cases status <;> decide

theorem code_mem (status : Status) : status.code ∈ [0, -1, -2] := by
  cases status <;> decide

theorem exitCode_mem (status : Status) : status.exitCode ∈ [0, 254, 255] := by
  cases status <;> decide

theorem exitCode_eq_land (status : Status) :
    (status.exitCode : Int) = Int.land status.code 255 := by
  cases status <;> decide +kernel

theorem ite_eq_success_iff {failed : Bool} :
    (if failed then failure else success) = success ↔ failed = false := by
  cases failed <;> decide

theorem ite_eq_failure_iff {failed : Bool} :
    (if failed then failure else success) = failure ↔ failed = true := by
  cases failed <;> decide

theorem exitCode_eq_zero_iff {status : Status} : status.exitCode = 0 ↔ status = .success := by
  cases status <;> decide

theorem exitCode_eq_failure_iff {status : Status} :
    status.exitCode = 255 ↔ status = .failure := by
  cases status <;> decide

end Status

namespace Action

variable {α : Type} {act : α → Action Status} {items : List α} {system : System}

/-- The items that are acted on, each with the system that it meets. The one that breaks off is the
last. -/
def met (act : α → Action Status) : List α → System → List (α × System)
  | [], _ => []
  | item :: rest, system => (item, system) :: (act item system).behind (met act rest)

/-- What comes to an end has acted on every item, and has their statuses together. -/
theorem result_all {status : Status} (ended : (all (items.map act) system).result = .ok status) :
    (met act items system).map (·.1) = items ∧
      ∃ statuses, (met act items system).map (fun step => (act step.1 step.2).result) =
          statuses.map .ok ∧
        status = Status.all statuses := by
  induction items generalizing system status with
  | nil => exact ⟨rfl, [], rfl, (Except.ok.inj ended).symm⟩
  | cons item rest ih =>
    rw [List.map_cons, all] at ended
    rw [met]
    rcases ran : act item system with ⟨reason | one, out, err, after⟩
    · rw [also_of_error ran] at ended
      cases ended
    · rw [also_of_ok ran] at ended
      dsimp only at ended
      cases later : (all (rest.map act) after).result with
      | error reason =>
        rw [later] at ended
        cases ended
      | ok others =>
        rw [later] at ended
        obtain ⟨whole, statuses, results, rfl⟩ := ih later
        refine ⟨congrArg (item :: ·) whole, one :: statuses, ?_, (Except.ok.inj ended).symm⟩
        rw [List.map_cons, List.map_cons, ran]
        exact congrArg (Except.ok one :: ·) results

theorem result_all_of_share (share : α → System → Status) {status : Status}
    (shares : ∀ item state answer, (act item state).result = .ok answer → answer = share item state)
    (ended : (all (items.map act) system).result = .ok status) :
    (met act items system).map (·.1) = items ∧
      (∀ step ∈ met act items system, (act step.1 step.2).result = .ok (share step.1 step.2)) ∧
      status = Status.all ((met act items system).map fun step => share step.1 step.2) := by
  obtain ⟨whole, statuses, results, rfl⟩ := result_all ended
  have each : ∀ step ∈ met act items system,
      (act step.1 step.2).result = .ok (share step.1 step.2) := by
    intro step member
    have answered : (act step.1 step.2).result ∈ statuses.map .ok :=
      results ▸ List.mem_map_of_mem member
    obtain ⟨answer, -, same⟩ := List.mem_map.mp answered
    rw [← same, ← shares step.1 step.2 answer same.symm]
  refine ⟨whole, each, congrArg Status.all ?_⟩
  rw [List.map_congr_left each, ← Function.comp_def, ← List.map_map] at results
  exact ((List.map_inj_right fun _ _ => Except.ok.inj).mp results).symm

end Action

namespace Setting

/-- A text with an `=`, but nothing before the first one or nothing behind it. -/
def LacksSide (text : Text) : Prop :=
  ∃ name value, text = name ++ .char '=' :: value ∧ .char '=' ∉ name ∧ (name = [] ∨ value = [])

theorem parse_eq_error_iff {text : Text} {failure : Failure} :
    parse text = .error failure ↔
      .char '=' ∉ text ∧ failure = .noEquals text ∨
        LacksSide text ∧ failure = .malformedSetting text [] := by
  unfold parse
  cases cut : Text.cut? '=' text with
  | none =>
    have absent : .char '=' ∉ text := Text.cut?_eq_none_iff.mp cut
    constructor
    · intro refused
      cases refused
      exact .inl ⟨absent, rfl⟩
    · intro wrong
      rcases wrong with ⟨-, rfl⟩ | ⟨⟨name, value, rfl, -⟩, -⟩
      · rfl
      · exact absurd (List.mem_append_right name List.mem_cons_self) absent
  | some sides =>
    obtain ⟨name, value⟩ := sides
    obtain ⟨parts, plain⟩ := Text.eq_of_cut? cut
    have present : .char '=' ∈ text := parts ▸ List.mem_append_right name List.mem_cons_self
    dsimp only
    by_cases lacking : name = [] ∨ value = []
    · rw [if_pos lacking]
      constructor
      · intro refused
        cases refused
        exact .inr ⟨⟨name, value, parts, plain, lacking⟩, rfl⟩
      · intro wrong
        rcases wrong with ⟨absent, -⟩ | ⟨-, rfl⟩
        · exact absurd present absent
        · rfl
    · rw [if_neg lacking]
      refine iff_of_false nofun fun wrong => ?_
      rcases wrong with ⟨absent, -⟩ | ⟨⟨other, rest, same, whole, empty⟩, -⟩
      · exact absent present
      · rw [same, Text.cut?_append rest whole] at cut
        cases cut
        exact lacking empty

theorem lacksSide_iff {text : Text} :
    LacksSide text ↔ ∃ failure, parse text = .error failure ∧ failure.status = .malformed := by
  simp only [parse_eq_error_iff]
  constructor
  · intro lacking
    exact ⟨_, .inr ⟨lacking, rfl⟩, rfl⟩
  · intro refused
    obtain ⟨failure, ⟨-, rfl⟩ | ⟨lacking, -⟩, status⟩ := refused
    · cases status
    · exact lacking

end Setting

theorem Failure.status_of_key? {failure : Failure} {key : Text} (named : failure.key? = some key) :
    failure.status = .failure := by
  cases failure <;> first | rfl | cases named

namespace Access

variable {root : Path} {system : System} {text : Text} {first second : System}

/-- The text is a setting, and its value can be written to what its name leads to. -/
def Writes (root : Path) (system : System) (text : Text) : Prop :=
  ∃ setting, Setting.parse text = .ok setting ∧ (writeValue root setting system).1 = .ok ()

def share (root : Path) (text : Text) (system : System) : Status :=
  match Setting.parse text with
  | .error failure => failure.status
  | .ok setting =>
    match (writeValue root setting system).1 with
    | .error _ => .failure
    | .ok () => .success

theorem share_of_result {display : Display} {status : Status}
    (answered : (writeSetting root display text system).result = .ok status) :
    status = share root text system := by
  rw [writeSetting_outcome] at answered
  rw [share]
  cases parsed : Setting.parse text with
  | error failure =>
    rw [parsed] at answered
    exact (Except.ok.inj answered).symm
  | ok setting =>
    rw [parsed] at answered
    dsimp only at answered ⊢
    rcases wrote : writeValue root setting system with ⟨(failure | reason) | _, after⟩ <;>
      rw [wrote] at answered
    · have named := key?_of_writeValue (congrArg Prod.fst wrote)
      exact (Except.ok.inj answered).symm.trans (Failure.status_of_key? named)
    · cases answered
    · exact (Except.ok.inj answered).symm

def fails (root : Path) (key : Text) (system : System) : Bool := !(readValues root key system).isOk

theorem status_of_read {display : Display} {key : Text} {status : Status}
    (answered : (readSetting root display key system).result = .ok status) :
    status = if fails root key system then .failure else .success := by
  rw [readSetting_outcome] at answered
  rw [fails]
  rcases values : readValues root key system with (failure | reason) | lines <;>
    rw [values] at answered
  · have named := key?_of_readValues values
    exact (Except.ok.inj answered).symm.trans (Failure.status_of_key? named)
  · cases answered
  · exact (Except.ok.inj answered).symm

theorem share_eq_success_iff : share root text system = .success ↔ Writes root system text := by
  unfold share Writes
  cases Setting.parse text with
  | error failure =>
    refine iff_of_false failure.status_ne_success ?_
    rintro ⟨setting, ⟨⟩, -⟩
  | ok setting =>
    simp only [Except.ok.injEq, exists_eq_left']
    rcases (writeValue root setting system).1 with halt | _
    · exact iff_of_false nofun nofun
    · exact iff_of_true rfl rfl

theorem share_eq_malformed_iff :
    share root text system = .malformed ↔ Setting.LacksSide text := by
  rw [Setting.lacksSide_iff, share]
  cases Setting.parse text with
  | error failure => simp only [Except.error.injEq, exists_eq_left']
  | ok setting =>
    refine iff_of_false ?_ ?_
    · dsimp only
      rcases (writeValue root setting system).1 with halt | _ <;> nofun
    · rintro ⟨failure, ⟨⟩, -⟩

theorem writeValue_of_similar (similar : System.Similar first second) (setting : Setting) :
    (writeValue root setting first).1 = (writeValue root setting second).1 := by
  have same := similar.writeFile (resolve root setting.name) setting.line
  unfold writeValue
  revert same
  rcases first.writeFile _ _ with ⟨trouble | _, after⟩ <;>
    rcases second.writeFile _ _ with ⟨other | _, later⟩ <;> rintro ⟨⟩ <;> rfl

theorem share_of_similar (similar : System.Similar first second) (text : Text) :
    share root text first = share root text second := by
  unfold share
  cases Setting.parse text with
  | error failure => rfl
  | ok setting => simp only [writeValue_of_similar similar setting]

theorem share_eq_failure_iff :
    share root text system = .failure ↔ ¬Writes root system text ∧ ¬Setting.LacksSide text := by
  rw [← share_eq_success_iff, ← share_eq_malformed_iff]
  cases share root text system <;> decide

theorem result_all_writeSetting (proper : root.hasNul = false) (display : Display)
    {texts : List Text}
    (plain : ∀ text ∈ texts, ∀ setting, Setting.parse text = .ok setting →
      .char '\x00' ∉ setting.name)
    (system : System) (whole : ∀ text ∈ texts, ¬BreaksOff root system text) :
    (Action.all (texts.map (writeSetting root display)) system).result =
      .ok (Status.all (texts.map fun text => share root text system)) := by
  -- A setting leaves the next one a system that decides alike.
  induction texts generalizing system with
  | nil => rfl
  | cons text rest ih =>
    rw [List.forall_mem_cons] at plain whole
    have led : ∀ setting, Setting.parse text = .ok setting →
        (resolve root setting.name).hasNul = false :=
      fun setting parsed => hasNul_resolve proper (plain.1 setting parsed)
    obtain ⟨status, answered⟩ := (writeSetting_answered_iff led display system).mpr whole.1
    have similar := (writeSetting_keeps root display text system).1.similar
    have share_eq := share_of_result answered
    rcases ran : writeSetting root display text system with ⟨result, out, err, after⟩
    rw [ran] at answered similar
    cases answered
    have same : (rest.map fun other => share root other after) =
        rest.map fun other => share root other system :=
      List.map_congr_left fun other _ => (share_of_similar similar other).symm
    have behind : ∀ other ∈ rest, ¬BreaksOff root after other := fun other member breaks =>
      whole.2 other member ((breaksOff_of_similar similar).mpr breaks)
    rw [List.map_cons, Action.all, Action.also_of_ok ran, ih plain.2 after behind, same, share_eq]
    rfl

theorem not_breaksOff_of_result {display : Display} {texts : List Text} {status : Status}
    (ended : (Action.all (texts.map (writeSetting root display)) system).result = .ok status) :
    ∀ text ∈ texts, ¬BreaksOff root system text := by
  induction texts generalizing system status with
  | nil => nofun
  | cons text rest ih =>
    have similar := (writeSetting_keeps root display text system).1.similar
    rw [List.map_cons, Action.all] at ended
    rcases ran : writeSetting root display text system with ⟨reason | one, out, err, after⟩
    · rw [Action.also_of_error ran] at ended
      cases ended
    · rw [ran] at similar
      rw [Action.also_of_ok ran] at ended
      dsimp only at ended
      cases later : (Action.all (rest.map (writeSetting root display)) after).result with
      | error reason =>
        rw [later] at ended
        cases ended
      | ok others =>
        refine List.forall_mem_cons.mpr ⟨?_, fun other member breaks => ?_⟩
        · rintro ⟨setting, target, parsed, opened, stray, closes⟩
          obtain ⟨bad, -, broken⟩ := writeSetting_of_breaksOff parsed opened stray closes display
          cases ran.symm.trans broken
        · exact ih later other member ((breaksOff_of_similar similar).mp breaks)

theorem result_all_iff (proper : root.hasNul = false) (display : Display) {texts : List Text}
    (plain : ∀ text ∈ texts, ∀ setting, Setting.parse text = .ok setting →
      .char '\x00' ∉ setting.name)
    (system : System) :
    (∃ status, (Action.all (texts.map (writeSetting root display)) system).result = .ok status) ↔
      ∀ text ∈ texts, ¬BreaksOff root system text :=
  ⟨fun ⟨_, ended⟩ => not_breaksOff_of_result ended,
    fun whole => ⟨_, result_all_writeSetting proper display plain system whole⟩⟩

end Access

namespace Command

variable {arguments texts : List Text}

theorem run_of_write (program : Text) (config : Config) (writes : mode arguments = .write texts) :
    run program config arguments =
      Action.all (texts.map (Access.writeSetting config.root (shown arguments))) := by
  rw [run_eq_act, writes, Mode.act]

/-- Every setting behind `-w` is written, whatever became of those before it, unless one of them
breaks the run off. The status is the bitwise or of theirs, in which no failure is hidden, whatever
their order. -/
theorem run_status (program : Text) (config : Config) (system : System) :
    (∀ arguments texts, mode arguments = .write texts → config.root.hasNul = false →
      (∀ text ∈ texts, ∀ setting, Setting.parse text = .ok setting → .char '\x00' ∉ setting.name) →
      let write := Access.writeSetting config.root (shown arguments)
      let steps := Action.met write texts system
      ((∃ status, (run program config arguments system).result = .ok status) ↔
        ∀ text ∈ texts, ¬Access.BreaksOff config.root system text) ∧
      ∀ status, (run program config arguments system).result = .ok status →
        steps.map (·.1) = texts ∧
        (∃ statuses : List Status,
          (steps.map fun step => (write step.1 step.2).result) = statuses.map .ok ∧
          status.code = (statuses.map Status.code).foldl Int.lor 0) ∧
        (status.code = 0 ↔ ∀ step ∈ steps, Access.Writes config.root step.2 step.1) ∧
        (status.code = -2 ↔ (∃ step ∈ steps, ¬Access.Writes config.root step.2 step.1) ∧
          ∀ step ∈ steps, ¬Access.Writes config.root step.2 step.1 → Setting.LacksSide step.1) ∧
        (status.code = -1 ↔ ∃ step ∈ steps,
          ¬Access.Writes config.root step.2 step.1 ∧ ¬Setting.LacksSide step.1) ∧
        ∀ others texts', mode others = .write texts' → texts.Perm texts' →
          (run program config others system).result = .ok status) ∧
    ∀ arguments status, (run program config arguments system).result = .ok status →
      status.code ∈ [0, -1, -2] ∧ (status.exitCode : Int) = Int.land status.code 255 ∧
        (status.exitCode = 0 ↔ status.code = 0) := by
  refine ⟨fun arguments texts asks proper plain => ?_, fun arguments status _ => ?_⟩
  · intro write steps
    rw [run_of_write program config asks]
    refine ⟨Access.result_all_iff proper (shown arguments) plain system, fun status ended => ?_⟩
    have unbroken := Access.not_breaksOff_of_result ended
    obtain ⟨whole, each, shares⟩ := Action.result_all_of_share (Access.share config.root)
      (fun _ _ _ => Access.share_of_result) ended
    refine ⟨whole, ⟨_, ?_, (congrArg _ shares).trans (Status.code_all _)⟩, ?_, ?_, ?_,
      fun others texts' asks' perm => ?_⟩
    · rw [List.map_map]
      exact List.map_congr_left each
    · rw [Status.code_eq_zero_iff, shares, Status.all_eq_success_iff, List.forall_mem_map]
      simp only [Access.share_eq_success_iff, steps, write]
    · rw [Status.code_eq_neg_two_iff, shares, Status.all_eq_malformed_iff, List.forall_mem_map]
      simp only [List.mem_map, exists_exists_and_eq_and, ne_eq, Access.share_eq_success_iff,
        Access.share_eq_malformed_iff, steps, write]
    · rw [Status.code_eq_neg_one_iff, shares, Status.all_eq_failure_iff, List.mem_map]
      simp only [Access.share_eq_failure_iff, steps, write]
    · have answered := Access.result_all_writeSetting proper (shown arguments) plain system unbroken
      have answered' := Access.result_all_writeSetting proper (shown others)
        (fun text member => plain text (perm.mem_iff.mpr member)) system
        (fun text member => unbroken text (perm.mem_iff.mpr member))
      rw [run_of_write program config asks', answered', ← Status.all_perm (perm.map _), ← answered,
        ended]
  · exact ⟨status.code_mem, status.exitCode_eq_land,
      Status.exitCode_eq_zero_iff.trans Status.code_eq_zero_iff.symm⟩

end Command

def Sample.unencodable : Text := "one=".text ++ [.stray 127]

namespace Command

open Sample in
/-- No value, an unknown key and a success. -/
theorem run_status_mixed :
    mode ["-w".text, "a=".text, "two=2".text, "one=1".text] =
      .write ["a=".text, "two=2".text, "one=1".text] ∧
    keyed.root.hasNul = false ∧
    (∀ text ∈ ["a=".text, "two=2".text, "one=1".text], ∀ setting,
      Setting.parse text = .ok setting → .char '\x00' ∉ setting.name) ∧
    ∃ status, (run "sysctl".text keyed
        ["-w".text, "a=".text, "two=2".text, "one=1".text] preloaded).result = .ok status ∧
      status.code = -1 ∧ (status.exitCode : Int) = Int.land (-1) 255 ∧
      (run "sysctl".text keyed
        ["-n".text, "-w".text, "one=1".text, "two=2".text, "a=".text] preloaded).result =
          .ok status := by
  have asks : mode ["-w".text, "a=".text, "two=2".text, "one=1".text] =
      .write ["a=".text, "two=2".text, "one=1".text] := by decide
  have proper : keyed.root.hasNul = false := by decide
  have plain : ∀ text ∈ ["a=".text, "two=2".text, "one=1".text], ∀ setting,
      Setting.parse text = .ok setting → .char '\x00' ∉ setting.name := by
    intro text member setting parsed inside
    have whole := (Setting.eq_render_of_parse parsed).1
    have without : ∀ text ∈ ["a=".text, "two=2".text, "one=1".text], .char '\x00' ∉ text := by
      decide
    exact without text member (whole ▸ List.mem_append_left _ inside)
  obtain ⟨writing, always⟩ := run_status "sysctl".text keyed preloaded
  obtain ⟨-, every⟩ := writing _ _ asks proper plain
  have failed : (run "sysctl".text keyed
      ["-w".text, "a=".text, "two=2".text, "one=1".text] preloaded).result =
        .ok .failure := by decide
  obtain ⟨-, -, -, -, -, reordered⟩ := every .failure failed
  exact ⟨asks, proper, plain, _, failed, rfl, (always _ _ failed).2.1,
    reordered _ ["one=1".text, "two=2".text, "a=".text] (by decide) (by decide)⟩

open Sample in
/-- A value with a stray byte for a key that is there. No status comes of it. -/
theorem run_status_unencodable :
    mode ["-w".text, unencodable] = .write [unencodable] ∧ keyed.root.hasNul = false ∧
    .char '\x00' ∉ unencodable ∧
    ¬∃ status,
      (run "sysctl".text keyed ["-w".text, unencodable] preloaded).result = .ok status := by
  have broken : (run "sysctl".text keyed ["-w".text, unencodable] preloaded).result =
      .error (.unencodable ⟨.stray 127, 0, 0⟩) := by decide
  refine ⟨by decide, by decide, by decide, ?_⟩
  rw [broken]
  nofun

end Command

end Tunables
