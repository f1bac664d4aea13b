import Tunables.Proofs.Applying
import Tunables.Proofs.Dump
import Tunables.Proofs.Strays

/-!
A listing is a preload file: applied to the same tree with any other contents, it brings back the
contents that were listed.
-/

namespace Tunables

theorem Path.hasStray_spelling (below : List Name) : (spelling below).hasStray = false := by
  unfold spelling render
  split
  · rfl
  · apply hasStray_intercalate
    intro part member
    obtain ⟨name, -, rfl⟩ := List.mem_map.mp member
    exact name.hasStray_text

namespace Preload

variable {value : Text}

/-- A file below the root that its line in a listing says everything about. -/
structure Restorable (below : List Name) (content : Bytes) : Prop where
  dotless : ∀ first ∈ below.head?, .char '.' ∉ first.text
  name : PlainName (Path.spelling below)
  content : ∃ value, PlainValue value ∧ value.hasStray = false ∧
    content = Utf8.encode (value ++ [.char '\n'])

theorem entryText_standard (below : List Name) (valued : PlainValue value)
    (whole : value.hasStray = false) :
    Listing.entryText .standard below (Utf8.encode (value ++ [.char '\n'])) =
      Key.ofPath (Path.spelling below) ++ Display.separator ++ (value ++ [.char '\n']) := by
  have plain : .char '\r' ∉ value ++ [.char '\n'] := by simp [valued.carriage]
  have line : Newline.lines (value ++ [.char '\n']) = [value ++ [.char '\n']] :=
    Newline.lines_append_newline valued.newline []
  have ended : Text.hasStray (value ++ [.char '\n']) = false := by
    rw [Text.hasStray_append, whole]
    rfl
  rw [Listing.entryText, Access.decode_encode ended plain, line]
  exact List.append_nil _

theorem Restorable.entryText {below : List Name} {content : Bytes}
    (restorable : Restorable below content) :
    ∃ text, Listing.entryText .standard below content = text ++ [.char '\n'] ∧ .char '\n' ∉ text ∧
      .char '\r' ∉ text := by
  obtain ⟨value, valued, whole, rfl⟩ := restorable.content
  have named := restorable.name.ofPath
  refine ⟨Key.ofPath (Path.spelling below) ++ Display.separator ++ value, ?_, ?_, ?_⟩
  · rw [entryText_standard below valued whole]
    exact (List.append_assoc _ _ _).symm
  · simp [named.newline, valued.newline, Display.separator]
  · simp [named.carriage, valued.carriage, Display.separator]

theorem Restorable.readLine {below : List Name} {content : Bytes}
    (restorable : Restorable below content) (filled : below ≠ []) :
    ∃ value, content = Utf8.encode (value ++ [.char '\n']) ∧ value.hasStray = false ∧
      PlainValue value ∧ readLine (Listing.entryText .standard below content) =
        .setting ⟨Key.ofPath (Path.spelling below), value⟩ := by
  obtain ⟨value, valued, whole, rfl⟩ := restorable.content
  have named : Key.ofPath (Path.spelling below) ≠ [] :=
    Key.ofPath_ne_nil (Path.spelling_ne_nil filled)
  refine ⟨value, rfl, whole, valued, ?_⟩
  rw [entryText_standard below valued whole]
  exact readLine_standard named restorable.name.ofPath valued

end Preload

theorem Access.resolve_dotted (root : Path) {below : List Name} (filled : below ≠ [])
    (dotless : ∀ first ∈ below.head?, .char '.' ∉ first.text) :
    resolve root (Key.ofPath (Path.spelling below)) = root.under below := by
  have slashed : Key.firstDelimiter? (Path.spelling below) ≠ some (.char '.') := by
    cases below with
    | nil => exact absurd rfl filled
    | cons first rest =>
      intro dot
      exact dotless first rfl ((firstDelimiter?_render first.isComponent.2).mp dot)
  have back : Key.toPath (Key.ofPath (Path.spelling below)) = Key.toPath (Path.spelling below) := by
    rw [Key.toPath_ofPath slashed]
    exact (if_neg slashed).symm
  calc resolve root (Key.ofPath (Path.spelling below))
      = resolve root (Path.spelling below) := congrArg root.join back
    _ = root.under below := resolve_spelling root filled dotless

namespace System

def rewrite (there : Location) (wanted : List Name → Bytes) (keys : List (List Name))
    (system : System) : System :=
  keys.foldl (fun system below => system.replace (.file (there ++ below)) (wanted below)) system

variable {there : Location} {wanted : List Name → Bytes} {system : System}

theorem similar_rewrite (there : Location) (wanted : List Name → Bytes) (keys : List (List Name))
    (system : System) : Similar system (system.rewrite there wanted keys) := by
  induction keys generalizing system with
  | nil => exact .refl system
  | cons below keys ih => exact (similar_replace system _ _).trans (ih _)

theorem log_rewrite (there : Location) (wanted : List Name → Bytes) (keys : List (List Name))
    (system : System) : (system.rewrite there wanted keys).log = system.log := by
  induction keys generalizing system with
  | nil => rfl
  | cons below keys ih => exact (ih _).trans (log_replace system _ _)

theorem content_rewrite {keys : List (List Name)} {below : List Name} {before : Bytes}
    (file : system.files.find? (there ++ below) = some (.file before))
    (known : below ∈ keys ∨ system.files.content (there ++ below) = wanted below) :
    (system.rewrite there wanted keys).files.content (there ++ below) = wanted below := by
  induction keys generalizing system before with
  | nil => exact known.resolve_left (List.not_mem_nil)
  | cons other keys ih =>
    obtain ⟨after, still⟩ : ∃ after,
        (system.replace (.file (there ++ other)) (wanted other)).files.find? (there ++ below) =
          some (.file after) := by
      rw [System.replace, FileSystem.find?_write, file]
      exact ⟨_, rfl⟩
    refine ih still ?_
    by_cases same : below = other
    · subst same
      exact .inr (FileSystem.content_write_self (wanted below) file)
    · have apart : there ++ below ≠ there ++ other := fun equal =>
        same (List.append_cancel_left equal)
      refine known.imp (fun member => (List.mem_cons.mp member).resolve_left same) fun wanted' => ?_
      exact (FileSystem.content_write_of_ne system.files _ apart).trans wanted'

theorem Rooted.similar {root : Path} {after : System} (tree : system.Rooted root there)
    (similar : Similar system after) (unlogged : after.log = none) : after.Rooted root there where
  faultless := similar.faults ▸ tree.faultless
  unlogged := unlogged
  ordinary := FileSystem.SameTree.ordinary (fun below => similar.files.entries (there ++ below))
    tree.ordinary
  led := by rw [← Place.ofPath_eq_of_sameShape similar.files, tree.led]

theorem led_of_similar {root : Path} {after : System} (similar : Similar system after)
    {below : List Name}
    (led : Place.ofPath system.files (root.under below) = .ok (.file (there ++ below))) :
    Place.ofPath after.files (root.under below) = .ok (.file (there ++ below)) := by
  rw [← Place.ofPath_eq_of_sameShape similar.files, led]

/-- Where the trees are the same and every file of the one is written to the other, the paths below
the root lead to the same contents. -/
theorem fileAt?_rewrite {root : Path} {saved : System} {here : Location} {keys : List (List Name)}
    (original : saved.Rooted root here) (copy : system.Rooted root there)
    (same : FileSystem.SameTree saved.files system.files here there)
    (complete : ∀ below, below ∈ keys ↔
      ∃ content, saved.fileAt? (root.under below) = some content)
    (written : ∀ below ∈ keys, wanted below = saved.files.content (here ++ below))
    (below : List Name) :
    (system.rewrite there wanted keys).fileAt? (root.under below) =
      saved.fileAt? (root.under below) := by
  have similar := similar_rewrite there wanted keys system
  have after : (system.rewrite there wanted keys).Rooted root there :=
    copy.similar similar ((log_rewrite there wanted keys system).trans copy.unlogged)
  have sameAfter := same.of_sameShape similar.files
  have content : ∀ location, Place.ofPath saved.files (root.under below) = .ok (.file location) →
      (system.rewrite there wanted keys).files.content (there ++ below) =
        saved.files.content (here ++ below) := by
    intro location led
    obtain ⟨rfl, -⟩ := original.location_of_led led
    have member := (complete below).mpr ⟨_, original.file_iff.mpr ⟨led, rfl⟩⟩
    obtain ⟨-, before, file⟩ := copy.location_of_led (original.led_of_sameTree copy same led)
    rw [content_rewrite file (.inl member), written below member]
  refine Option.ext fun bytes => ?_
  rw [after.file_iff, original.file_iff]
  constructor
  · rintro ⟨led, rfl⟩
    have back := after.led_of_sameTree original sameAfter.symm led
    exact ⟨back, (content _ back).symm⟩
  · rintro ⟨led, rfl⟩
    exact ⟨original.led_of_sameTree after sameAfter led, content _ led⟩

end System

namespace Preload

variable (source : Text) {root : Path} {there : Location} {system : System}

theorem applyLine_entryText (tree : system.Rooted root there) {below : List Name}
    {content : Bytes} (restorable : Restorable below content)
    (led : Place.ofPath system.files (root.under below) = .ok (.file (there ++ below)))
    (number : Nat) :
    applyLine source root .standard number (Listing.entryText .standard below content) system =
      ⟨.ok .success, Listing.entryText .standard below content, [],
        system.replace (.file (there ++ below)) content⟩ := by
  have filled : below ≠ [] := tree.below_ne_nil led
  obtain ⟨value, rfl, whole, valued, read⟩ := restorable.readLine filled
  have opened : system.openExisting
      (Access.resolve root (Key.ofPath (Path.spelling below))) = .ok (.file (there ++ below)) := by
    rw [Access.resolve_dotted root filled restorable.dotless, tree.openExisting led]
  have written := Access.writeSetting_of_opened .standard tree.faultless tree.unlogged
    (parse_of_readLine read) whole opened
  have printed : Display.standard.format (Key.ofPath (Key.ofPath (Path.spelling below)))
      [value ++ [.char '\n']] =
        Listing.entryText .standard below (Utf8.encode (value ++ [.char '\n'])) := by
    rw [Key.ofPath_ofPath, entryText_standard below valued whole]
    exact List.append_nil _
  rw [applyLine_of_setting source root .standard number read, written]
  exact congrArg (fun out => Outcome.mk _ out _ _) printed

theorem applyEach_entryTexts {wanted : List Name → Bytes} {keys : List (List Name)}
    (tree : system.Rooted root there)
    (restorable : ∀ below ∈ keys, Restorable below (wanted below))
    (led : ∀ below ∈ keys,
      Place.ofPath system.files (root.under below) = .ok (.file (there ++ below)))
    (number : Nat) :
    applyEach source root .standard number (Listing.entryTexts .standard wanted keys) system =
      ⟨.ok .success, (Listing.entryTexts .standard wanted keys).flatten, [],
        system.rewrite there wanted keys⟩ := by
  -- The tree stays, so each line finds its file.
  induction keys generalizing system number with
  | nil => rfl
  | cons below keys ih =>
    have similar := System.similar_replace system (.file (there ++ below)) (wanted below)
    have unlogged : (system.replace (.file (there ++ below)) (wanted below)).log = none := by
      rw [System.log_replace, tree.unlogged]
    have first := applyLine_entryText source tree (restorable below List.mem_cons_self)
      (led below List.mem_cons_self) number
    have later := ih (tree.similar similar unlogged)
      (fun other member => restorable other (List.mem_cons_of_mem below member))
      (fun other member =>
        System.led_of_similar similar (led other (List.mem_cons_of_mem below member)))
      (number + 1)
    rw [Listing.entryTexts, List.map_cons, applyEach, Action.also_of_ok first]
    rw [Listing.entryTexts] at later
    rw [later]
    rfl

theorem hasStray_entryTexts (wanted : List Name → Bytes) (keys : List (List Name)) :
    Text.hasStray (Listing.entryTexts .standard wanted keys).flatten = false := by
  apply Text.hasStray_flatten
  intro line printed
  obtain ⟨below, -, rfl⟩ := List.mem_map.mp printed
  exact Display.hasStray_format _ (Key.hasStray_ofPath (Path.hasStray_spelling below))
    fun line => Access.hasStray_of_line

theorem lines_entryTexts {wanted : List Name → Bytes} {keys : List (List Name)}
    (restorable : ∀ below ∈ keys, Restorable below (wanted below)) :
    Newline.lines (Access.decode (Utf8.encode
      (Listing.entryTexts .standard wanted keys).flatten)) =
        Listing.entryTexts .standard wanted keys := by
  have ended : ∀ line ∈ Listing.entryTexts .standard wanted keys,
      ∃ text, line = text ++ [.char '\n'] ∧ .char '\n' ∉ text ∧ .char '\r' ∉ text := by
    intro line printed
    obtain ⟨below, member, rfl⟩ := List.mem_map.mp printed
    exact (restorable below member).entryText
  have carriage : .char '\r' ∉ (Listing.entryTexts .standard wanted keys).flatten := by
    intro member
    obtain ⟨line, printed, inside⟩ := List.mem_flatten.mp member
    obtain ⟨text, rfl, -, absent⟩ := ended line printed
    simp [absent] at inside
  rw [Access.decode_encode (hasStray_entryTexts wanted keys) carriage]
  apply Newline.lines_flatten
  intro line printed
  obtain ⟨text, rfl, absent, -⟩ := ended line printed
  exact ⟨text, rfl, absent⟩

/-- A listing of files below the root, applied from outside the root. -/
theorem apply_entryTexts {source : Path} {target : Target} {wanted : List Name → Bytes}
    {keys : List (List Name)} (tree : system.Rooted root there)
    (restorable : ∀ below ∈ keys, Restorable below (wanted below))
    (led : ∀ below ∈ keys,
      Place.ofPath system.files (root.under below) = .ok (.file (there ++ below)))
    (opened : system.openExisting source = .ok target)
    (elsewhere : ∀ below, target ≠ .file (there ++ below))
    (holds : system.content target =
      Utf8.encode (Listing.entryTexts .standard wanted keys).flatten) :
    apply source root .standard system =
      ⟨.ok .success, (Listing.entryTexts .standard wanted keys).flatten, [],
        system.rewrite there wanted keys⟩ := by
  have lines := lines_entryTexts restorable
  rw [← holds] at lines
  have untouched : ∀ raw ∈ Newline.lines (Access.decode (system.content target)),
      ∀ setting, readLine raw = .setting setting →
        system.openExisting (Access.resolve root setting.name) ≠ .ok target := by
    intro raw listed setting read same
    rw [lines] at listed
    obtain ⟨below, member, rfl⟩ := List.mem_map.mp listed
    have filled : below ≠ [] := tree.below_ne_nil (led below member)
    obtain ⟨value, -, -, -, named⟩ := (restorable below member).readLine filled
    rw [read] at named
    cases named
    rw [Access.resolve_dotted root filled (restorable below member).dotless,
      tree.openExisting (led below member)] at same
    exact elsewhere below (Except.ok.inj same).symm
  have readable := System.fault?_of_faultless tree.faultless .reading source
  have closable := System.fault?_of_faultless tree.faultless .closing source
  rw [apply_eq_applyEach .standard tree.unlogged opened readable closable untouched, lines]
  exact applyEach_entryTexts source.render tree restorable led 1

/-- What was listed of one system is restored in any other one with the same tree. -/
theorem apply_displayAll {source : Path} {saved current : System} {here : Location}
    {target : Target} (original : saved.Rooted root here) (copy : current.Rooted root there)
    (same : FileSystem.SameTree saved.files current.files here there)
    (restorable : ∀ below content, saved.fileAt? (root.under below) = some content →
      Restorable below content)
    (quiet : (Listing.displayAll root .standard root saved).err = [])
    (opened : current.openExisting source = .ok target)
    (elsewhere : ∀ below, target ≠ .file (there ++ below))
    (holds : current.content target =
      Utf8.encode (Listing.displayAll root .standard root saved).out) :
    ∃ restored,
      apply source root .standard current =
        ⟨.ok .success, (Listing.displayAll root .standard root saved).out, [], restored⟩ ∧
      ∀ below, restored.fileAt? (root.under below) = saved.fileAt? (root.under below) := by
  obtain ⟨keys, out, complete⟩ := Listing.displayAll_complete original .standard
    (fun below content file => (restorable below content file).dotless) quiet
  have files : ∀ below ∈ keys, saved.fileAt? (root.under below) =
      some (saved.files.content (here ++ below)) := by
    intro below member
    obtain ⟨content, file⟩ := (complete below).mp member
    rw [file, (original.file_iff.mp file).2]
  have plain : ∀ below ∈ keys, Restorable below (saved.files.content (here ++ below)) := by
    intro below member
    exact restorable below _ (files below member)
  have led : ∀ below ∈ keys,
      Place.ofPath current.files (root.under below) = .ok (.file (there ++ below)) := by
    intro below member
    have found := (original.file_iff.mp (files below member)).1
    exact original.led_of_sameTree copy same found
  rw [out] at holds ⊢
  exact ⟨_, apply_entryTexts copy plain led opened elsewhere holds,
    System.fileAt?_rewrite original copy same complete fun _ _ => rfl⟩

end Preload

namespace Sample

def backup : Name := ⟨"backup".toList, by decide⟩

def listed : System := { inner with files := inner.files.add [backup] (.file []) }

def listing : Text :=
  (Listing.displayAll ⟨.relative, [sys.text]⟩ .standard ⟨.relative, [sys.text]⟩ listed).out

def changed : System :=
  (listed.replace (.file [sys, net, interface]) []).replace (.file [backup]) (Utf8.encode listing)

theorem rooted_listed : listed.Rooted ⟨.relative, [sys.text]⟩ [sys] where
  faultless := rfl
  unlogged := rfl
  ordinary := by
    intro below entry found
    have member := FileSystem.mem_entries (List.cons_ne_nil _ _) found
    simp only [listed, inner, oneKey, FileSystem.add, List.map_cons, List.map_nil,
      List.cons_append, List.nil_append, List.mem_cons, List.not_mem_nil, or_false,
      Prod.mk.injEq] at member
    rcases member with ⟨-, rfl⟩ | ⟨-, rfl⟩ | ⟨-, rfl⟩ | ⟨-, rfl⟩ <;> rfl
  led := by decide

theorem plainValue_one : Preload.PlainValue ['1'] where
  filled := by decide
  newline := by decide
  carriage := by decide
  head := by
    intro c first
    cases first
    decide
  last := by
    intro c last
    cases last
    decide

theorem plainName_interface : Preload.PlainName (Path.spelling [net, interface]) where
  mark := by decide
  newline := by decide
  carriage := by decide
  head := by
    intro c first
    have letter : 'n' = c := Option.some.inj first
    subst letter
    decide
  last := by
    intro c last
    have digit : '1' = c := Option.some.inj last
    subst digit
    decide

theorem restorable_listed (below : List Name) (content : Bytes)
    (file : listed.fileAt? ((⟨.relative, [sys.text]⟩ : Path).under below) = some content) :
    Preload.Restorable below content := by
  obtain ⟨led, rfl⟩ := rooted_listed.file_iff.mp file
  obtain ⟨-, before, found⟩ := rooted_listed.location_of_led led
  have member := FileSystem.mem_entries (List.cons_ne_nil _ _) found
  have beside : sys ≠ backup := by decide
  simp only [listed, inner, oneKey, FileSystem.add, List.map_cons, List.map_nil, List.cons_append,
    List.nil_append, List.mem_cons, Prod.mk.injEq, List.cons.injEq, true_and, reduceCtorEq,
    and_false, beside, false_and, List.not_mem_nil, or_false, false_or] at member
  obtain ⟨rfl, -⟩ := member
  have dotless : ∀ first ∈ [net, interface].head?, .char '.' ∉ first.text := by
    intro first here
    cases here
    decide
  exact ⟨dotless, plainName_interface, ['1'], plainValue_one, rfl, rfl⟩

end Sample

namespace Preload

open Sample

theorem apply_listing :
    listed.Rooted ⟨.relative, [sys.text]⟩ [sys] ∧ changed.Rooted ⟨.relative, [sys.text]⟩ [sys] ∧
    changed.fileAt? ⟨.relative, [sys.text, net.text, interface.text]⟩ = some [] ∧
    ∃ restored,
      apply ⟨.relative, [backup.text]⟩ ⟨.relative, [sys.text]⟩ .standard changed =
        ⟨.ok .success, "net.eth0/1 = 1\n".text, [], restored⟩ ∧
      restored.fileAt? ⟨.relative, [sys.text, net.text, interface.text]⟩ =
        some (Utf8.encode "1\n".text) := by
  have similar : System.Similar listed changed :=
    (System.similar_replace listed _ _).trans (System.similar_replace _ _ _)
  have copy : changed.Rooted ⟨.relative, [sys.text]⟩ [sys] := rooted_listed.similar similar rfl
  have printed : listing = "net.eth0/1 = 1\n".text := by decide
  have quiet : (Listing.displayAll ⟨.relative, [sys.text]⟩ .standard ⟨.relative, [sys.text]⟩
      listed).err = [] := by decide
  have opened : changed.openExisting ⟨.relative, [backup.text]⟩ = .ok (.file [backup]) := by decide
  have elsewhere : ∀ below, Target.file [backup] ≠ .file ([sys] ++ below) := by
    intro below same
    have beside : backup = sys := (List.cons.inj (Target.file.inj same)).1
    exact absurd beside (by decide)
  have holds : changed.content (.file [backup]) = Utf8.encode listing := by decide
  obtain ⟨restored, applied, contents⟩ := apply_displayAll rooted_listed copy
    (fun below => similar.files.entries ([sys] ++ below)) restorable_listed quiet opened elsewhere
    holds
  refine ⟨rooted_listed, copy, by decide, restored, printed ▸ applied, ?_⟩
  exact (contents [net, interface]).trans (by decide)

end Preload

end Tunables
