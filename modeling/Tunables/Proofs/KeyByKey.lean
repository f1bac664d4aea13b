import Tunables.Proofs.Listed
import Tunables.Proofs.Statuses
import Tunables.Proofs.Unseen

namespace Tunables

namespace Survey

variable {system : System} {root : Path}

/-- Below a root, every directory can be listed and every entry inspected. -/
structure Complete (system : System) (root : Path) : Prop where
  listed : ∀ trail, Reaches system root trail →
    trail = [] ∨ system.inspect (root.under trail) = .ok true →
    ∃ names, system.list (root.under trail) = .ok names
  inspected : ∀ trail, Reaches system root trail → trail ≠ [] →
    ∃ kind, system.inspect (root.under trail) = .ok kind

theorem complete_iff :
    Complete system root ↔ ∀ found ∈ below system root, isKey found = true := by
  constructor
  · intro complete found member
    obtain ⟨trail, reaches, finds⟩ := (mem_below_iff root).mp member
    cases found with
    | key path => rfl
    | unlisted path errno =>
      obtain ⟨rfl, passed, refused⟩ := finds
      obtain ⟨names, listed⟩ := complete.listed trail reaches passed
      cases refused.symm.trans listed
    | uninspected path errno =>
      obtain ⟨rfl, filled, refused⟩ := finds
      obtain ⟨kind, inspected⟩ := complete.inspected trail reaches filled
      cases refused.symm.trans inspected
  · intro keys
    have met : ∀ trail found, Reaches system root trail → Finds system root trail found →
        isKey found = true :=
      fun trail found reaches finds => keys found ((mem_below_iff root).mpr ⟨trail, reaches, finds⟩)
    constructor
    · intro trail reaches passed
      cases refused : system.list (root.under trail) with
      | ok names => exact ⟨names, rfl⟩
      | error errno => cases met trail (.unlisted _ errno) reaches ⟨rfl, passed, refused⟩
    · intro trail reaches filled
      cases refused : system.inspect (root.under trail) with
      | ok kind => exact ⟨kind, rfl⟩
      | error errno => cases met trail (.uninspected _ errno) reaches ⟨rfl, filled, refused⟩

end Survey

variable {hidden : Location → Prop} {root : Path} {display : Display} {first second : System}

namespace Access

theorem agree_readSetting (twins : System.Twins hidden first second) {key other : Text}
    (same : Key.Same key other) (apart : key ≠ [] → first.Apart hidden (resolve root key)) :
    (readSetting root display key first).Agree hidden
      (readSetting root display other second) := by
  have values : readValues root key first = readValues root other second :=
    (readValues_of_twins twins apart).trans (readValues_of_same same)
  have name : Key.ofPath key = Key.ofPath other := same
  rw [readSetting_outcome, readSetting_outcome, values, name]
  rcases readValues root other second with (failure | reason) | lines
  · have told := ((twins.told (some (.readFailed key failure.message))).symm.told
      (some (.readFailed other failure.message))).symm
    exact ⟨rfl, rfl, rfl, told⟩
  · exact ⟨rfl, rfl, rfl, twins⟩
  · exact ⟨rfl, rfl, rfl, twins⟩

theorem agree_reads (twins : System.Twins hidden first second) {keys : List Text}
    (apart : ∀ key ∈ keys, first.Apart hidden (resolve root key)) :
    (Action.all (keys.map (readSetting root display)) first).Agree hidden
      (Action.all ((keys.map Key.ofPath).map (readSetting root display)) second) := by
  induction keys generalizing first second with
  | nil => exact ⟨rfl, rfl, rfl, twins⟩
  | cons key rest ih =>
    rw [List.forall_mem_cons] at apart
    have agree : (readSetting root display key first).Agree hidden
        (readSetting root display (Key.ofPath key) second) :=
      agree_readSetting twins (Key.same_ofPath key).symm fun _ => apart.1
    apply Action.agree_also agree
    intro status ended
    apply ih agree.system
    intro other member
    exact (Deed.continues_act root display (.read key) first).similar.apart (apart.2 other member)

theorem status_of_reads {system : System} {keys : List Text} {status : Status}
    (ended : (Action.all (keys.map (readSetting root display)) system).result = .ok status) :
    (Action.met (readSetting root display) keys system).map (·.1) = keys ∧
      (status.code ≠ 0 ↔ ∃ read ∈ Action.met (readSetting root display) keys system,
        fails root read.1 read.2 = true) := by
  obtain ⟨whole, -, shares⟩ := Action.result_all_of_share _ (fun _ _ _ => status_of_read) ended
  refine ⟨whole, ?_⟩
  rw [Ne, Status.code_eq_zero_iff, shares, Status.all_eq_success_iff, List.forall_mem_map]
  simp only [Status.ite_eq_success_iff, not_forall, exists_prop, Bool.not_eq_false]

end Access

namespace Listing

variable {system : System} {trails : List (List Name)}

theorem displayAll_eq_reads (proper : root.hasNul = false) (display : Display)
    (walked : Survey.below system root = trails.map fun trail => .key (root.under trail)) :
    displayAll root display root system =
      Action.all ((trails.map Path.spelling).map (Access.readSetting root display)) system := by
  have acts : (Survey.below system root).map (visit root display) =
      (trails.map Path.spelling).map (Access.readSetting root display) := by
    rw [walked, List.map_map, List.map_map]
    apply List.map_congr_left
    intro trail _
    exact visit_of_key? (key?_under root trail) display
  rw [displayAll_of_proper proper, acts]

theorem agree_displayAll_reads (proper : root.hasNul = false) (display : Display)
    (walked : Survey.below system root = trails.map fun trail => .key (root.under trail))
    (apart : ∀ path ∈ trails.map Path.spelling,
      system.Apart (LogStream.IsOn system.log) (Access.resolve root path)) :
    (displayAll root display root system).Agree (LogStream.IsOn system.log)
      (Action.all (((trails.map Path.spelling).map Key.ofPath).map
        (Access.readSetting root display)) system) := by
  have twins : System.Twins (LogStream.IsOn system.log) system system :=
    ⟨.refl _ system.files, rfl, fun _ => id, fun _ => id⟩
  rw [displayAll_eq_reads proper display walked]
  exact Access.agree_reads twins apart

end Listing

namespace Command

variable {program : Text} {config : Config} {flags : List Text} {system : System}

theorem isSwitch_of_head? {argument : Text} (plain : argument.head? ≠ some (.char '-'))
    (letter : Char) : isSwitch letter argument = false := by
  cases argument with
  | nil => rfl
  | cons c letters => exact isSwitch_of_ne (fun dash => plain (congrArg some dash)) letter letters

theorem run_keys (program : Text) (config : Config)
    (displayed : ∀ flag ∈ flags, isDisplaySwitch flag = true) {key : Text} {keys : List Text}
    (plain : key.head? ≠ some (.char '-')) (filled : ∀ argument ∈ key :: keys, argument ≠ []) :
    run program config (flags ++ key :: keys) =
      (Action.all ((key :: keys).map (Access.readSetting config.root (displayOf flags)))).map
        fun _ => .success := by
  have switch := isSwitch_of_head? plain
  have other : isDisplaySwitch key = false := by rw [isDisplaySwitch, switch, switch]; rfl
  have asks : modeOf (key :: keys) = .read (key :: keys) := by
    simp only [modeOf, switch, plain, Bool.or_self, Bool.false_eq_true, if_false]
  rw [run_eq_act, mode_flags displayed other filled, shown_flags displayed other filled, asks]
  rfl

theorem run_list (program : Text) (config : Config)
    (displayed : ∀ flag ∈ flags, isDisplaySwitch flag = true) :
    run program config (flags ++ ["-a".text]) =
      Listing.displayAll config.root (displayOf flags) config.root := by
  have other : isDisplaySwitch "-a".text = false := by decide
  have filled : ∀ argument ∈ ["-a".text], argument ≠ [] := by decide
  have asks : modeOf ["-a".text] = .list := by decide
  rw [run_eq_act, mode_flags displayed other filled, shown_flags displayed other filled, asks]
  rfl

/-- Where everything below the root can be listed and inspected, a listing prints and reports what
its keys do when they are asked for one by one, in the order of the walk. The log is told of other
spellings, so no key may be the file that it is kept in. -/
theorem run_list_eq_run_keys (program : Text) (config : Config)
    (displayed : ∀ flag ∈ flags, isDisplaySwitch flag = true)
    (complete : Survey.Complete system config.root) :
    ∃ trails : List (List Name),
      (Survey.below system config.root).filterMap (Listing.key? config.root) =
        trails.map Path.spelling ∧
      (trails.Pairwise fun first second => first.map Name.text < second.map Name.text) ∧
      (∀ trail, trail ∈ trails ↔ Survey.Reaches system config.root trail ∧ trail ≠ [] ∧
        system.inspect (config.root.under trail) = .ok false) ∧
      let paths := trails.map Path.spelling
      let keys := paths.map Key.ofPath
      let listed := run program config (flags ++ ["-a".text]) system
      let asked := run program config (flags ++ keys) system
      let reads := Action.met (Access.readSetting config.root (displayOf flags)) keys system
      (∀ path ∈ paths, system.Apart (LogStream.IsOn system.log)
        (Access.resolve config.root path)) →
      (∃ key later, keys = key :: later ∧ key.head? ≠ some (.char '-')) →
      listed.out = asked.out ∧ listed.err = asked.err ∧ asked.result = .ok .success ∧
        reads.map (·.1) = keys ∧
        ∃ status, listed.result = .ok status ∧
          (status.code ≠ 0 ↔ ∃ read ∈ reads, Access.fails config.root read.1 read.2 = true) := by
  obtain ⟨trails, same, ordered, member⟩ := Survey.exists_keys_below system config.root
  have walked : Survey.below system config.root =
      trails.map fun trail => .key (config.root.under trail) :=
    (List.filter_eq_self.mpr (Survey.complete_iff.mp complete)).symm.trans same
  refine ⟨trails, Listing.filterMap_key? same, ordered, member, ?_⟩
  intro paths keys listed asked reads apart ⟨key, later, split, plain⟩
  have filled : ∀ argument ∈ keys, argument ≠ [] := by
    intro argument inside
    obtain ⟨path, spelled, rfl⟩ := List.mem_map.mp inside
    obtain ⟨trail, entry, rfl⟩ := List.mem_map.mp spelled
    exact Key.ofPath_ne_nil (Path.spelling_ne_nil ((member trail).mp entry).2.1)
  have proper : config.root.hasNul = false := by
    cases trails with
    | nil => exact absurd split.symm (List.cons_ne_nil key later)
    | cons trail rest =>
      apply Survey.hasNul_of_key
      rw [walked]
      exact List.mem_cons_self
  have listing : listed = Listing.displayAll config.root (displayOf flags) config.root system :=
    congrFun (run_list program config displayed) system
  have asking : asked = ((Action.all
      (keys.map (Access.readSetting config.root (displayOf flags)))).map fun _ => .success)
        system := by
    rw [split] at filled
    simp only [asked, split]
    exact congrFun (run_keys program config displayed plain filled) system
  obtain ⟨result, out, err, -⟩ :=
    Listing.agree_displayAll_reads proper (displayOf flags) walked apart
  obtain ⟨status, returned⟩ := Listing.displayAll_returns proper (displayOf flags) system
  have ended := result.symm.trans returned
  obtain ⟨whole, counted⟩ := Access.status_of_reads ended
  rw [listing, asking]
  refine ⟨out, err, ?_, whole, status, returned, counted⟩
  rw [Action.map, ended]
  rfl

end Command

namespace Sample

def withheld : System where
  files := ⟨[([sys], .directory), ([sys, net], .directory),
    ([sys, net, interface], .file (Utf8.encode "1\n".text)), ([sys, one], .file [])], []⟩
  faults := [⟨"sys/one".text, .reading, .accessDenied⟩]
  log := none
  clock := ⟨[], []⟩

def inSys : Config := { Config.standard with root := ⟨.relative, [sys.text]⟩ }

end Sample

namespace Command

open Sample

theorem run_list_withheld :
    (∀ flag ∈ ["-n".text], isDisplaySwitch flag = true) ∧
    Survey.Complete withheld inSys.root ∧
    (Survey.below withheld inSys.root).filterMap (Listing.key? inSys.root) =
      ["net/eth0.1".text, "one".text] ∧
    (∀ path ∈ ["net/eth0.1".text, "one".text], withheld.Apart (LogStream.IsOn withheld.log)
      (Access.resolve inSys.root path)) ∧
    "net.eth0/1".text.head? ≠ some (.char '-') ∧
    (run "sysctl".text inSys ["-n".text, "-a".text] withheld).out =
      (run "sysctl".text inSys ["-n".text, "net.eth0/1".text, "one".text] withheld).out ∧
    (run "sysctl".text inSys ["-n".text, "-a".text] withheld).err =
      (run "sysctl".text inSys ["-n".text, "net.eth0/1".text, "one".text] withheld).err ∧
    ∃ status, (run "sysctl".text inSys ["-n".text, "-a".text] withheld).result = .ok status ∧
      status.code ≠ 0 := by
  have displayed : ∀ flag ∈ ["-n".text], isDisplaySwitch flag = true := by decide
  have complete : Survey.Complete withheld inSys.root := Survey.complete_iff.mpr (by decide)
  have paths : (Survey.below withheld inSys.root).filterMap (Listing.key? inSys.root) =
      ["net/eth0.1".text, "one".text] := by decide
  have apart : ∀ path ∈ ["net/eth0.1".text, "one".text],
      withheld.Apart (LogStream.IsOn withheld.log) (Access.resolve inSys.root path) := by
    intro path _ location _ on
    cases on
  have plain : "net.eth0/1".text.head? ≠ some (.char '-') := by decide
  obtain ⟨trails, walked, -, -, agree⟩ :=
    run_list_eq_run_keys "sysctl".text inSys displayed complete
  have shown : ["net/eth0.1".text, "one".text].map Key.ofPath =
      ["net.eth0/1".text, "one".text] := by decide
  simp only [walked.symm.trans paths, shown] at agree
  obtain ⟨out, err, -, -, status, listed, counted⟩ := agree apart ⟨_, _, rfl, plain⟩
  exact ⟨displayed, complete, paths, apart, plain, out, err, status, listed,
    counted.mpr (by decide)⟩

end Command

end Tunables
