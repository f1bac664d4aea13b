import Tunables.Action

namespace Tunables.Action

variable {system after : System} {out err : Text}

theorem bind_of_ok {α β : Type} {action : Action α} {next : α → Action β} {value : α}
    (ran : action system = ⟨.ok value, out, err, after⟩) :
    (action >>= next) system =
      ⟨(next value after).result, out ++ (next value after).out, err ++ (next value after).err,
        (next value after).system⟩ := by
  simp only [Bind.bind, bind, ran]

theorem bind_of_error {α β : Type} {action : Action α} {next : α → Action β} {reason : Abort}
    (ran : action system = ⟨.error reason, out, err, after⟩) :
    (action >>= next) system = ⟨.error reason, out, err, after⟩ := by
  simp only [Bind.bind, bind, ran]

theorem bind_eq_ok_iff {α β : Type} {action : Action α} {next : α → Action β} {value : β} :
    ((action >>= next) system).result = .ok value ↔
      ∃ before, (action system).result = .ok before ∧
        (next before (action system).system).result = .ok value := by
  rcases ran : action system with ⟨reason | before, out, err, after⟩
  · rw [bind_of_error ran]
    simp
  · rw [bind_of_ok ran]
    simp

theorem get_bind {α : Type} (next : System → Action α) (system : System) :
    (get >>= next) system = next system system := rfl

theorem warn_pure {α : Type} (line : Text) (value : α) (system : System) :
    (warn line >>= fun _ => pure value) system = ⟨.ok value, [], line ++ [.char '\n'], system⟩ := by
  simp [Bind.bind, bind, warn, pure]

theorem also_of_ok {first second : Action Status} {status : Status}
    (ran : first system = ⟨.ok status, out, err, after⟩) :
    first.also second system =
      ⟨(second after).result.map status.combine, out ++ (second after).out,
        err ++ (second after).err, (second after).system⟩ :=
  bind_of_ok ran

theorem also_of_error {first second : Action Status} {reason : Abort}
    (ran : first system = ⟨.error reason, out, err, after⟩) :
    first.also second system = ⟨.error reason, out, err, after⟩ :=
  bind_of_error ran

theorem also_congr {first second other : Action Status}
    (same : second (first system).system = other (first system).system) :
    first.also second system = first.also other system := by
  simp only [also, Bind.bind, bind, map, same]

theorem map_eq_bind {α β : Type} (change : α → β) (action : Action α) :
    action.map change = action >>= fun value => pure (change value) := by
  funext system
  simp only [map, Bind.bind, bind]
  rcases action system with ⟨reason | value, out, err, after⟩
  · rfl
  · simp [Except.map, pure]

theorem map_also {α : Type} (value : α) (first second : Action Status) :
    (first.also second).map (fun _ => value) =
      first >>= fun _ => second.map fun _ => value := by
  funext system
  simp only [map, also, Bind.bind, bind]
  rcases first system with ⟨reason | status, out, err, after⟩
  · rfl
  · rcases second after with ⟨reason | status, out, err, after⟩ <;> rfl

/-- An action that comes to an end and leaves the system as it is. -/
def Steady (system : System) (action : Action Status) : Prop :=
  ∃ status out err, action system = ⟨.ok status, out, err, system⟩

theorem all_of_steady {actions : List (Action Status)}
    (steady : ∀ action ∈ actions, Steady system action) :
    ∃ status, all actions system =
        ⟨.ok status, actions.flatMap fun action => (action system).out,
          actions.flatMap fun action => (action system).err, system⟩ ∧
      (status = .success ↔ ∀ action ∈ actions, (action system).result = .ok .success) := by
  induction actions with
  | nil => exact ⟨.success, rfl, by simp⟩
  | cons action actions ih =>
    obtain ⟨status, out, err, ran⟩ := steady action List.mem_cons_self
    obtain ⟨rest, others, all⟩ := ih fun other member =>
      steady other (List.mem_cons_of_mem _ member)
    refine ⟨status.combine rest, ?_, ?_⟩
    · rw [Action.all, also_of_ok ran, others]
      simp only [List.flatMap_cons, ran]
      rfl
    · rw [Status.combine_eq_success_iff, all, List.forall_mem_cons, ran, Except.ok.injEq]

end Tunables.Action
