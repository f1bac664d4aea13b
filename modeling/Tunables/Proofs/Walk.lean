import Mathlib.Data.List.Basic
import Tunables.Listing
import Tunables.Proofs.Outcomes
import Tunables.Proofs.SingleKey
import Tunables.Proofs.Spelling

namespace Tunables

theorem Path.child_append (path : Path) (name : Text) (parts : List Text) :
    (path.child name).append parts = path.append (name :: parts) := by
  simp [Path.child, Path.append]

theorem Path.below?_append (root : Path) (parts : List Text) :
    Path.below? root (root.append parts) = some parts := by
  simp only [Path.below?, Path.append, if_true]
  exact List.isPrefixOf?_eq_some_iff_append_eq.mpr rfl

theorem Name.isComponent (name : Name) : Path.IsComponent name.text := by
  have valid := name.valid
  simp only [isName, Bool.and_eq_true, Bool.not_eq_true', decide_eq_true_eq,
    List.contains_eq_mem, decide_eq_false_iff_not] at valid
  refine ⟨?_, fun slash => valid.1.2 (Text.mem_ofChars.mp slash)⟩
  simp only [Path.isPart, Bool.and_eq_true, decide_eq_true_eq]
  exact ⟨fun empty => valid.1.1.1.1 (List.map_eq_nil_iff.mp empty), name.ne_dots.1⟩

theorem Name.forall_mem {property : Text → Prop} (holds : ∀ name : Name, property name.text)
    (first : Name) (rest : List Name) :
    ∀ part ∈ first.text :: rest.map Name.text, property part := by
  rw [List.forall_mem_cons, List.forall_mem_map]
  exact ⟨holds first, fun name _ => holds name⟩

namespace Survey

variable {system : System} {levels : Nat} {path : Path} {visit : Visit}

/-- What the survey of a directory finds: the directory cannot be listed, or one of its entries
cannot be inspected, is a directory in which it goes on, or is a key. -/
theorem mem_within : visit ∈ within system (levels + 1) path ↔
    (∃ errno, system.list path = .error errno ∧ visit = .unlisted path errno) ∨
    ∃ names, system.list path = .ok names ∧ ∃ name ∈ names,
      (∃ errno, system.inspect (path.child name.text) = .error errno ∧
        visit = .uninspected (path.child name.text) errno) ∨
      (system.inspect (path.child name.text) = .ok true ∧
        visit ∈ within system levels (path.child name.text)) ∨
      (system.inspect (path.child name.text) = .ok false ∧
        visit = .key (path.child name.text)) := by
  rw [within]
  cases system.list path with
  | error errno => simp
  | ok names =>
    simp only [List.mem_flatMap, reduceCtorEq, false_and, exists_false, false_or,
      Except.ok.injEq, exists_eq_left']
    refine exists_congr fun name => and_congr_right fun _ => ?_
    rcases system.inspect (path.child name.text) with errno | _ | _ <;> simp

theorem key_of_mem_within {entry : Path} (member : .key entry ∈ within system levels path) :
    system.inspect entry = .ok false ∧
      ∃ (first : Name) (rest : List Name),
        entry = path.append (first.text :: rest.map Name.text) := by
  induction levels generalizing path with
  | zero => simp [within] at member
  | succ levels ih =>
    rcases mem_within.mp member with ⟨_, _, same⟩ | ⟨names, _, name, _, found⟩
    · cases same
    rcases found with ⟨_, _, same⟩ | ⟨_, inside⟩ | ⟨inspected, same⟩
    · cases same
    · obtain ⟨inspected, first, rest, rfl⟩ := ih inside
      refine ⟨inspected, name, first :: rest, ?_⟩
      rw [Path.child_append, List.map_cons]
    · cases same
      exact ⟨inspected, name, [], rfl⟩

theorem hasNul_of_key {root entry : Path} (member : .key entry ∈ below system root) :
    root.hasNul = false := by
  obtain ⟨inspected, first, rest, rfl⟩ := key_of_mem_within member
  obtain ⟨place, looked⟩ := System.look_of_inspect inspected
  have led := System.ofPath_of_look looked
  have plain := Path.hasNul_eq_false.mp (Place.hasNul_of_ofPath led)
  exact Path.hasNul_eq_false.mpr fun part above => plain part (List.mem_append_left _ above)

end Survey

namespace Listing

variable {root : Path} {system : System}

theorem visit_key (root : Path) (display : Display) (parts : List Text) :
    visit root display (.key (root.append parts)) =
      Access.readSetting root display (Path.render ⟨.relative, parts⟩) := by
  simp only [visit, Path.below?_append]

theorem visit_unlisted (display : Display) (path : Path) (errno : Errno) (system : System) :
    visit root display (.unlisted path errno) system =
      Access.reported (.directory path.render)
        (system.recorded (.directoryFailed path.render (errno.report path))) := by
  simp only [visit]
  rw [Action.bind_of_ok (Access.log_eq _ system), Access.report_eq]
  rfl

theorem visit_uninspected (display : Display) (path : Path) (errno : Errno) (system : System) :
    visit root display (.uninspected path errno) system =
      ⟨.ok .success, [], path.render ++ ": ".text ++ errno.text ++ [.char '\n'],
        system.recorded (.entryFailed path.render (errno.report path))⟩ := by
  simp only [visit]
  rw [Action.bind_of_ok (Access.log_eq _ system), Action.warn_pure]
  rfl

theorem hasNul_resolve_names (proper : root.hasNul = false) (first : Name) (rest : List Name) :
    (Access.resolve root
      (Path.render ⟨.relative, first.text :: rest.map Name.text⟩)).hasNul = false :=
  Access.hasNul_resolve proper (Path.hasNul_render_relative (List.cons_ne_nil _ _)
    (Name.forall_mem Name.plain first rest))

theorem steady_visit (display : Display) (unlogged : system.log = none)
    (proper : root.hasNul = false) {found : Visit} (member : found ∈ Survey.below system root) :
    Action.Steady system (visit root display found) := by
  cases found with
  | unlisted path errno =>
    rw [Action.Steady, visit_unlisted, System.recorded_of_unlogged _ unlogged]
    exact ⟨_, _, _, rfl⟩
  | uninspected path errno =>
    rw [Action.Steady, visit_uninspected, System.recorded_of_unlogged _ unlogged]
    exact ⟨_, _, _, rfl⟩
  | key entry =>
    obtain ⟨-, first, rest, rfl⟩ := Survey.key_of_mem_within member
    rw [visit_key, Action.Steady]
    rcases Access.readSetting_of_plain (hasNul_resolve_names proper first rest) display system with
      ⟨lines, -, ran⟩ | ⟨failure, -, ran⟩
    · exact ⟨_, _, _, ran⟩
    · rw [ran, System.recorded_of_unlogged _ unlogged]
      exact ⟨_, _, _, rfl⟩

theorem displayAll_of_proper (proper : root.hasNul = false) (display : Display) (system : System) :
    displayAll root display root system =
      Action.all ((Survey.below system root).map (visit root display)) system := by
  simp only [displayAll, proper, Bool.false_eq_true, if_false]
  rw [Action.get_bind]

theorem displayAll_eq (display : Display) (unlogged : system.log = none)
    (proper : root.hasNul = false) :
    ∃ status, displayAll root display root system =
        ⟨.ok status,
          (Survey.below system root).flatMap fun found => (visit root display found system).out,
          (Survey.below system root).flatMap fun found => (visit root display found system).err,
          system⟩ ∧
      (status = .success ↔
        ∀ found ∈ Survey.below system root,
          (visit root display found system).result = .ok .success) := by
  have steady : ∀ action ∈ (Survey.below system root).map (visit root display),
      Action.Steady system action := by
    intro action member
    obtain ⟨found, inside, rfl⟩ := List.mem_map.mp member
    exact steady_visit display unlogged proper inside
  obtain ⟨status, ran, success⟩ := Action.all_of_steady steady
  refine ⟨status, ?_, ?_⟩
  · rw [displayAll_of_proper proper, ran, List.flatMap_map, List.flatMap_map]
  · simpa using success

/-- A key that is reached is read by the names that lead to it. What is opened is the key itself
exactly if the first name holds no dot, and then its content is what is printed for it. -/
theorem displayAll_reads_itself_iff (display : Display) {entry : Path}
    (reached : .key entry ∈ Survey.below system root) :
    ∃ (first : Name) (rest : List Name) (key : Text),
      entry = root.append (first.text :: rest.map Name.text) ∧
      key = Path.render ⟨.relative, first.text :: rest.map Name.text⟩ ∧
      visit root display (.key entry) = Access.readSetting root display key ∧
      (Access.resolve root key = entry ↔ .char '.' ∉ first.text) ∧
      (system.log = none → ∃ before behind warnedBefore warnedBehind,
        (displayAll root display root system).out =
          before ++ (Access.readSetting root display key system).out ++ behind ∧
        (displayAll root display root system).err =
          warnedBefore ++ (Access.readSetting root display key system).err ++ warnedBehind) ∧
      (system.faults = [] → .char '.' ∉ first.text →
        ∃ target, system.openExisting entry = .ok target ∧
          Access.readSetting root display key system =
            ⟨.ok .success, display.format (Key.ofPath key)
              (Newline.lines (Access.decode (system.content target))), [], system⟩) := by
  obtain ⟨inspected, first, rest, located⟩ := Survey.key_of_mem_within reached
  have components : ∀ part ∈ first.text :: rest.map Name.text, Path.IsComponent part :=
    Name.forall_mem Name.isComponent first rest
  have readBy : visit root display (.key entry) =
      Access.readSetting root display
        (Path.render ⟨.relative, first.text :: rest.map Name.text⟩) := by
    rw [located, visit_key]
  have opened : Access.resolve root
      (Path.render ⟨.relative, first.text :: rest.map Name.text⟩) = entry ↔
        .char '.' ∉ first.text :=
    located ▸ Access.resolve_render_iff components
  refine ⟨first, rest, _, located, rfl, readBy, opened, ?_, ?_⟩
  · intro unlogged
    obtain ⟨status, ran, -⟩ := displayAll_eq display unlogged (Survey.hasNul_of_key reached)
    obtain ⟨earlier, later, split⟩ := List.append_of_mem reached
    simp only [ran, split, List.flatMap_append, List.flatMap_cons, readBy]
    exact ⟨_, _, _, _, (List.append_assoc _ _ _).symm, (List.append_assoc _ _ _).symm⟩
  · intro faultless dotless
    obtain ⟨target, found⟩ := System.openExisting_of_inspect faultless inspected
    have filled : Path.render ⟨.relative, first.text :: rest.map Name.text⟩ ≠ [] := by
      obtain ⟨behind, split, -⟩ := Access.exists_render first.text (rest.map Name.text)
      rw [split]
      exact List.append_ne_nil_of_left_ne_nil
        (Path.isComponent_ne_nil first.isComponent) behind
    refine ⟨target, found, Access.readSetting_of_ok display ?_⟩
    exact Access.readValues_of_faultless faultless filled (opened.mpr dotless ▸ found)

end Listing

namespace Sample

def sys : Name := ⟨"sys".toList, by decide⟩

def net : Name := ⟨"net".toList, by decide⟩

def interface : Name := ⟨"eth0.1".toList, by decide⟩

def oneKey (directories : List Location) (key : Location) : System :=
  ⟨⟨directories.map (·, .directory) ++ [(key, .file (Utf8.encode ['1', '\n']))], []⟩, [], none,
    ⟨[], []⟩⟩

def inner : System := oneKey [[sys], [sys, net]] [sys, net, interface]

def outer : System := oneKey [[sys]] [sys, interface]

end Sample

namespace Listing

open Sample

theorem displayAll_reads_inner_interface :
    .key ⟨.relative, [sys.text, net.text, interface.text]⟩ ∈
      Survey.below inner ⟨.relative, [sys.text]⟩ ∧
    inner.faults = [] ∧ .char '.' ∉ net.text ∧
    ∃ key target,
      inner.openExisting ⟨.relative, [sys.text, net.text, interface.text]⟩ = .ok target ∧
      Access.readSetting ⟨.relative, [sys.text]⟩ .standard key inner =
        ⟨.ok .success, Display.standard.format (Key.ofPath key)
          (Newline.lines (Access.decode (inner.content target))), [], inner⟩ := by
  refine ⟨by decide, rfl, by decide, ?_⟩
  obtain ⟨first, rest, key, located, -, -, -, -, printed⟩ :=
    displayAll_reads_itself_iff .standard (show Visit.key ⟨.relative, [sys.text, net.text,
      interface.text]⟩ ∈ Survey.below inner ⟨.relative, [sys.text]⟩ by decide)
  have named : net.text = first.text := by
    simp only [Path.append, Path.mk.injEq, List.cons_append, List.nil_append, List.cons.injEq,
      true_and] at located
    exact located.1
  obtain ⟨target, opened, read⟩ := printed rfl (named ▸ by decide)
  exact ⟨key, target, opened, read⟩

/-- A key right below the root with a dot in its name is there and can be opened, but another path
is tried for it. -/
theorem displayAll_misses_outer_interface :
    .key ⟨.relative, [sys.text, interface.text]⟩ ∈ Survey.below outer ⟨.relative, [sys.text]⟩ ∧
    outer.openExisting ⟨.relative, [sys.text, interface.text]⟩ =
      .ok (.file [sys, interface]) ∧
    Access.resolve ⟨.relative, [sys.text]⟩ interface.text =
      ⟨.relative, [sys.text, "eth0".text, "1".text]⟩ ∧
    Listing.displayAll ⟨.relative, [sys.text]⟩ .standard ⟨.relative, [sys.text]⟩ outer =
      ⟨.ok .failure, [], "error: 'eth0.1' is an unknown key\n".text, outer⟩ := by
  decide

end Listing

end Tunables
