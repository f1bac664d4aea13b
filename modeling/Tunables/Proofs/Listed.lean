import Tunables.Proofs.Batch
import Tunables.Proofs.Reach

namespace Tunables

/-- All that happened to a system is that its log was written to. -/
structure System.Logged (before after : System) : Prop where
  continues : System.Continues before after
  content : ∀ other : Target, other ∉ before.log.map (·.target) →
    after.content other = before.content other

namespace System.Logged

variable {first second third : System}

theorem refl (system : System) : System.Logged system system := ⟨.refl system, fun _ _ => rfl⟩

theorem trans (before : System.Logged first second) (behind : System.Logged second third) :
    System.Logged first third where
  continues := before.continues.trans behind.continues
  content := fun other elsewhere =>
    (behind.content other (before.continues.log ▸ elsewhere)).trans (before.content other elsewhere)

theorem recorded (system : System) (event : Audit.Event) :
    System.Logged system (system.recorded event) :=
  ⟨(system.recorded_keeps event).1, (system.recorded_keeps event).2⟩

end System.Logged

namespace Listing

variable {root : Path} {system state : System} {found : Visit}

def steps (root : Path) (display : Display) : List Visit → System → List (Visit × System)
  | [], _ => []
  | found :: rest, system =>
    (found, system) :: steps root display rest (visit root display found system).system

def key? (root : Path) : Visit → Option Text
  | .key path => (Path.below? root path).map fun parts => Path.render ⟨.relative, parts⟩
  | _ => none

def read? (root : Path) (step : Visit × System) : Option (Text × System) :=
  (key? root step.1).map (·, step.2)

def complaint (root : Path) (step : Visit × System) : Text :=
  match step.1, read? root step with
  | .unlisted path _, _ => (Failure.directory path.render).message ++ [.char '\n']
  | .uninspected path errno, _ => path.render ++ ": ".text ++ errno.text ++ [.char '\n']
  | .key _, none => []
  | .key _, some (key, system) =>
    match Access.readValues root key system with
    | .error (.failure failure) => failure.message ++ [.char '\n']
    | _ => []

def printed (root : Path) (display : Display) (step : Visit × System) : Text :=
  match read? root step with
  | none => []
  | some (key, system) => (Access.readSetting root display key system).out

theorem visit_of_key? {key : Text} (named : key? root found = some key) (display : Display) :
    visit root display found = Access.readSetting root display key := by
  cases found with
  | key path =>
    obtain ⟨parts, below, rfl⟩ := Option.map_eq_some_iff.mp named
    simp only [visit, below]
  | unlisted path errno => cases named
  | uninspected path errno => cases named

theorem key?_under (root : Path) (trail : List Name) :
    key? root (.key (root.under trail)) = some (Path.spelling trail) := by
  simp only [key?, Path.under, Path.below?_append, Option.map_some, Path.spelling]

theorem hasNul_resolve_spelling (proper : root.hasNul = false) {trail : List Name}
    (filled : trail ≠ []) : (Access.resolve root (Path.spelling trail)).hasNul = false := by
  cases trail with
  | nil => exact absurd rfl filled
  | cons first rest => exact hasNul_resolve_names proper first rest

theorem visit_outcome (proper : root.hasNul = false) (display : Display)
    (member : found ∈ Survey.below system root) (state : System) :
    ∃ status after, visit root display found state =
        ⟨.ok status, printed root display (found, state), complaint root (found, state), after⟩ ∧
      System.Logged state after := by
  cases found with
  | unlisted path errno =>
    exact ⟨_, _, visit_unlisted display path errno state, .recorded state _⟩
  | uninspected path errno =>
    exact ⟨_, _, visit_uninspected display path errno state, .recorded state _⟩
  | key entry =>
    obtain ⟨trail, -, rfl, filled, -⟩ := (Survey.mem_below_iff root).mp member
    rw [visit_of_key? (key?_under root trail)]
    simp only [printed, complaint, read?, key?_under, Option.map_some]
    rcases Access.readSetting_of_plain (hasNul_resolve_spelling proper filled) display state with
      ⟨lines, values, ran⟩ | ⟨failure, values, ran⟩
    · rw [values, ran]
      exact ⟨_, _, rfl, .refl state⟩
    · rw [values, ran]
      exact ⟨_, _, rfl, .recorded state _⟩

theorem all_visits (proper : root.hasNul = false) (display : Display) (visits : List Visit)
    (met : ∀ found ∈ visits, found ∈ Survey.below system root) (state : System) :
    ∃ status after, Action.all (visits.map (visit root display)) state =
        ⟨.ok status, (steps root display visits state).flatMap (printed root display),
          (steps root display visits state).flatMap (complaint root), after⟩ ∧
      ∀ step ∈ steps root display visits state, System.Logged state step.2 := by
  -- A visit leaves to the next one the system as it was, but for the log.
  induction visits generalizing state with
  | nil => exact ⟨.success, state, rfl, nofun⟩
  | cons found rest ih =>
    obtain ⟨status, after, ran, logged⟩ :=
      visit_outcome proper display (met found List.mem_cons_self) state
    obtain ⟨others, final, rest_ran, later⟩ :=
      ih (fun other member => met other (List.mem_cons_of_mem found member)) after
    refine ⟨status.combine others, final, ?_, ?_⟩
    · rw [List.map_cons, Action.all, Action.also_of_ok ran, rest_ran, steps, ran]
      rfl
    · rw [steps, ran, List.forall_mem_cons]
      exact ⟨.refl state, fun step member => logged.trans (later step member)⟩

theorem displayAll_returns (proper : root.hasNul = false) (display : Display) (system : System) :
    ∃ status, (displayAll root display root system).result = .ok status := by
  obtain ⟨status, after, ran, -⟩ :=
    all_visits proper display (Survey.below system root) (fun _ => id) system
  exact ⟨status, by rw [displayAll_of_proper proper, ran]⟩

theorem flatMap_printed (root : Path) (display : Display) (taken : List (Visit × System)) :
    taken.flatMap (printed root display) =
      (taken.filterMap (read? root)).flatMap fun (key, state) =>
        (Access.readSetting root display key state).out := by
  induction taken with
  | nil => rfl
  | cons step taken ih =>
    rw [List.flatMap_cons, ih, List.filterMap_cons, printed]
    cases read? root step <;> rfl

theorem keys_steps (root : Path) (display : Display) (visits : List Visit) (state : System) :
    ((steps root display visits state).filterMap (read? root)).map (·.1) =
      visits.filterMap (key? root) := by
  induction visits generalizing state with
  | nil => rfl
  | cons found rest ih =>
    rw [steps, List.filterMap_cons, List.filterMap_cons, read?]
    cases key? root found with
    | none => exact ih _
    | some key => exact congrArg (key :: ·) (ih _)

theorem filterMap_key? {visits : List Visit} {keys : List (List Name)}
    (same : visits.filter Survey.isKey = keys.map fun trail => .key (root.under trail)) :
    visits.filterMap (key? root) = keys.map Path.spelling := by
  have skipped : visits.filterMap (key? root) =
      (visits.filter Survey.isKey).filterMap (key? root) := by
    rw [List.filterMap_filter]
    refine congrArg (visits.filterMap ·) (funext fun found => ?_)
    cases found <;> rfl
  rw [skipped, same, List.filterMap_map, ← List.filterMap_eq_map]
  exact congrArg (keys.filterMap ·) (funext (key?_under root))

end Listing

namespace Sample

end Sample

namespace Listing

open Sample

end Listing

end Tunables
