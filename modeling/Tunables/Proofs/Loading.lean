import Tunables.Proofs.Layers

/-!
When loading a configuration comes to an end. What a file holds can stop it in one way: the first
line that is not in order needs a home directory that is not known. Whatever else is wrong with a
file is warned of, and the file counts for nothing.
-/

namespace Tunables

def Environment.files (environment : Environment) (source : Option Path) : List Path :=
  environment.personal :: source.toList

namespace Config

variable {environment : Environment} {source : Option Path} {homes : Homes} {system : System}
  {path : Path} {standing : Standing}

theorem loadIfFile_of_halts (halts : Halts homes system path) (config : Config) :
    loadIfFile homes config path system = ⟨.error .homeUnknown, [], [], system⟩ := by
  obtain ⟨present, text, read, homeless⟩ := halts
  unfold loadIfFile
  rw [Action.get_bind, present]
  simp only [loadFile]
  rw [Action.get_bind, read]
  dsimp only
  rw [parse_of_homeless homeless]
  rfl

theorem loadIfFile_of_unseen {reason : Abort} (unseen : isFile system path = .error reason)
    (config : Config) : loadIfFile homes config path system = ⟨.error reason, [], [], system⟩ := by
  unfold loadIfFile
  rw [Action.get_bind, unseen]
  rfl

theorem loadIfFile_returns_iff (homes : Homes) (config : Config) (system : System) (path : Path) :
    (∃ after, (loadIfFile homes config path system).result = .ok after) ↔
      (∃ present, isFile system path = .ok present) ∧ ¬Halts homes system path := by
  constructor
  · rintro ⟨after, ran⟩
    have looked : ∃ present, isFile system path = .ok present := by
      cases seen : isFile system path with
      | ok present => exact ⟨present, rfl⟩
      | error reason =>
        rw [loadIfFile_of_unseen seen] at ran
        cases ran
    refine ⟨looked, fun halts => ?_⟩
    rw [loadIfFile_of_halts halts] at ran
    cases ran
  · rintro ⟨⟨present, looked⟩, passes⟩
    obtain ⟨standing, stands⟩ := (stands_or_halts homes looked).resolve_right passes
    obtain ⟨after, ran, -⟩ := loadIfFile_of_stands stands config
    exact ⟨after, congrArg Outcome.result ran⟩

theorem loadSource_returns_iff (homes : Homes) (source : Option Path) (config : Config)
    (system : System) :
    (∃ after, (loadSource homes source config system).result = .ok after) ↔
      ∀ path ∈ source, (∃ present, isFile system path = .ok present) ∧
        ¬Halts homes system path := by
  cases source with
  | none => exact iff_of_true ⟨config, rfl⟩ nofun
  | some path =>
    simp only [Option.mem_some_iff, forall_eq']
    exact loadIfFile_returns_iff homes config system path

theorem load_of_unknown_source {failure : Path.HomeFailure}
    (unknown : environment.source = .error failure) (system : System) (config : Config) :
    (load environment system).result ≠ .ok config := by
  unfold Environment.source at unknown
  unfold load
  simp only [Bind.bind, Action.bind]
  rcases (loadIfFile environment.homes standard environment.personal system).result with
    reason | below
  · intro same
    cases same
  cases named : environment.named with
  | none =>
    rw [named] at unknown
    cases unknown
  | some text =>
    rw [named] at unknown
    cases text with
    | nil => cases unknown
    | cons c rest =>
      dsimp only at unknown ⊢
      rcases led : (Path.ofText (c :: rest)).expandHome environment.homes with (_ | _) | path
      · intro same
        cases same
      · intro same
        cases same
      · rw [led] at unknown
        cases unknown

/-- A file that does not stop loading leaves a layer, and one warning if something is wrong with
it. -/
theorem exists_stands_of_returns {config after : Config}
    (returned : (loadIfFile homes config path system).result = .ok after) :
    ∃ standing, Stands homes system path standing ∧
      loadIfFile homes config path system = ⟨.ok after, [], standing.warning path, system⟩ ∧
      Layered config standing.sets after := by
  obtain ⟨⟨present, looked⟩, passes⟩ :=
    (loadIfFile_returns_iff homes config system path).mp ⟨after, returned⟩
  obtain ⟨standing, stands⟩ := (stands_or_halts homes looked).resolve_right passes
  obtain ⟨layered, ran, above⟩ := loadIfFile_of_stands stands config
  rw [ran] at returned
  cases returned
  exact ⟨standing, stands, ran, above⟩

theorem exists_standsAt_of_returns {config after : Config}
    (returned : (loadSource homes source config system).result = .ok after) :
    ∃ standing, StandsAt homes system source standing ∧
      loadSource homes source config system =
        ⟨.ok after, [], source.elim [] fun path => standing.warning path, system⟩ ∧
      Layered config standing.sets after := by
  cases source with
  | none =>
    cases returned
    exact ⟨.absent, rfl, rfl, .refl config⟩
  | some path => exact exists_stands_of_returns returned

theorem load_of_returns {below : Config} {err : Text} (expanded : environment.source = .ok source)
    (ran : loadIfFile environment.homes standard environment.personal system =
      ⟨.ok below, [], err, system⟩) :
    load environment system =
      { loadSource environment.homes source below system with
        err := err ++ (loadSource environment.homes source below system).err } := by
  rw [load_eq expanded, Action.bind_of_ok ran]
  rfl

theorem load_returns_of_source (expanded : environment.source = .ok source) (system : System) :
    (∃ config, (load environment system).result = .ok config) ↔
      ∀ path ∈ environment.files source,
        (∃ present, isFile system path = .ok present) ∧ ¬Halts environment.homes system path := by
  rw [Environment.files, List.forall_mem_cons, ← loadIfFile_returns_iff _ standard]
  simp only [Option.mem_toList]
  constructor
  · rintro ⟨config, ran⟩
    cases first : (loadIfFile environment.homes standard environment.personal system).result with
    | error reason =>
      rw [load_eq expanded] at ran
      simp only [Bind.bind, Action.bind, first] at ran
      cases ran
    | ok below =>
      obtain ⟨standing, -, loaded, -⟩ := exists_stands_of_returns first
      rw [load_of_returns expanded loaded] at ran
      exact ⟨⟨below, rfl⟩, (loadSource_returns_iff _ source below system).mp ⟨config, ran⟩⟩
  · rintro ⟨⟨below, first⟩, others⟩
    obtain ⟨standing, -, loaded, -⟩ := exists_stands_of_returns first
    rw [load_of_returns expanded loaded]
    exact (loadSource_returns_iff _ source below system).mpr others

theorem load_of_halts (expanded : environment.source = .ok source)
    (looked : ∀ path ∈ environment.files source, ∃ present, isFile system path = .ok present)
    (halts : ∃ path ∈ environment.files source, Halts environment.homes system path) :
    (load environment system).result = .error .homeUnknown := by
  rw [Environment.files] at looked halts
  rw [List.forall_mem_cons] at looked
  by_cases first : Halts environment.homes system environment.personal
  · rw [load_eq expanded, Action.bind_of_error (loadIfFile_of_halts first standard)]
  · obtain ⟨below, ran⟩ :=
      (loadIfFile_returns_iff _ standard system environment.personal).mpr ⟨looked.1, first⟩
    obtain ⟨standing, -, loaded, -⟩ := exists_stands_of_returns ran
    obtain ⟨path, member, later⟩ := halts
    rcases List.mem_cons.mp member with rfl | behind
    · exact absurd later first
    · obtain rfl : source = some path := Option.mem_toList.mp behind
      rw [load_of_returns expanded loaded, loadSource, loadIfFile_of_halts later]

/-- Loading comes to an end with a configuration unless a path cannot be looked at or a file needs a
home directory that is not known. Then every file that something else is wrong with has one warning,
and the files that are in order are the layers. -/
theorem load_returns_iff (environment : Environment) (system : System) :
    ((∃ config, (load environment system).result = .ok config) ↔
      ∃ source, environment.source = .ok source ∧
        ∀ path ∈ environment.files source,
          (∃ present, isFile system path = .ok present) ∧
            ¬Halts environment.homes system path) ∧
    (∀ config, (load environment system).result = .ok config →
      ∃ source user named, environment.source = .ok source ∧
        Stands environment.homes system environment.personal user ∧
        StandsAt environment.homes system source named ∧
        load environment system =
          ⟨.ok config, [], user.warning environment.personal ++
            source.elim [] fun path => named.warning path, system⟩ ∧
        Layered standard (user.sets ++ named.sets) config) ∧
    ∀ source, environment.source = .ok source →
      (∀ path ∈ environment.files source, ∃ present, isFile system path = .ok present) →
      (∃ path ∈ environment.files source, Halts environment.homes system path) →
        (load environment system).result = .error .homeUnknown := by
  cases expanded : environment.source with
  | error failure =>
    have fatal := load_of_unknown_source expanded system
    refine ⟨iff_of_false ?_ ?_, fun config ran => absurd ran (fatal config), nofun⟩
    · rintro ⟨config, ran⟩
      exact fatal config ran
    · rintro ⟨source, same, -⟩
      cases same
  | ok source =>
    simp only [Except.ok.injEq, exists_eq_left', forall_eq']
    refine ⟨load_returns_of_source expanded system, fun config ran => ?_, load_of_halts expanded⟩
    obtain ⟨first, -⟩ := List.forall_mem_cons.mp
      ((load_returns_of_source expanded system).mp ⟨config, ran⟩)
    obtain ⟨below, returned⟩ := (loadIfFile_returns_iff _ standard system _).mpr first
    obtain ⟨user, stands, loaded, under⟩ := exists_stands_of_returns returned
    rw [load_of_returns expanded loaded] at ran
    obtain ⟨named, chosen, above, upon⟩ := exists_standsAt_of_returns ran
    refine ⟨source, user, named, rfl, stands, chosen, ?_, under.trans upon⟩
    rw [load_of_returns expanded loaded, above]

end Config

namespace Sample

def homeless : System where
  files := ⟨[([keys], .file (Utf8.encode "set root ~nosuchuser/x\n".text))], []⟩
  faults := []
  log := none
  clock := ⟨[], []⟩

end Sample

namespace Config

open Sample

/-- One line of the user's file, well formed and readable, leaves no configuration at all. -/
theorem load_homeless :
    isFile homeless layered.personal = .ok true ∧
    readText homeless layered.personal = .ok "set root ~nosuchuser/x\n".text ∧
    load layered homeless = ⟨.error .homeUnknown, [], [], homeless⟩ := by
  decide

end Config

end Tunables
