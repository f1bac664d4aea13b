import Tunables.Status
import Tunables.System

/-!
Actions on the system. An action leaves the system changed, text on both streams, and either a value
or the reason why it was broken off; what it did before it was broken off stays done.
-/

namespace Tunables

instance (priority := high) decidableEqResult {ε α : Type} [DecidableEq ε] [DecidableEq α] :
    DecidableEq (Except ε α)
  | .error first, .error second =>
    decidable_of_iff (first = second) ⟨congrArg Except.error, Except.error.inj⟩
  | .ok first, .ok second =>
    decidable_of_iff (first = second) ⟨congrArg Except.ok, Except.ok.inj⟩
  | .error _, .ok _ => .isFalse nofun
  | .ok _, .error _ => .isFalse nofun

structure Outcome (α : Type) where
  result : Except Abort α
  out : Text
  err : Text
  system : System
  deriving DecidableEq

def Action (α : Type) : Type := System → Outcome α

namespace Action

def pure {α : Type} (value : α) : Action α := fun system => ⟨.ok value, [], [], system⟩

def bind {α β : Type} (action : Action α) (next : α → Action β) : Action β := fun system =>
  let before := action system
  match before.result with
  | .error abort => ⟨.error abort, before.out, before.err, before.system⟩
  | .ok value =>
    let after := next value before.system
    ⟨after.result, before.out ++ after.out, before.err ++ after.err, after.system⟩

instance : Monad Action where
  pure := pure
  bind := bind

def abort {α : Type} (reason : Abort) : Action α := fun system => ⟨.error reason, [], [], system⟩

def write (text : Text) : Action Unit := fun system => ⟨.ok (), text, [], system⟩

def warn (line : Text) : Action Unit := fun system => ⟨.ok (), [], line ++ [.char '\n'], system⟩

def get : Action System := fun system => ⟨.ok system, [], [], system⟩

def set (system : System) : Action Unit := fun _ => ⟨.ok (), [], [], system⟩

def modify (change : System → System) : Action Unit := fun system =>
  ⟨.ok (), [], [], change system⟩

def map {α β : Type} (change : α → β) (action : Action α) : Action β := fun system =>
  let outcome := action system
  ⟨outcome.result.map change, outcome.out, outcome.err, outcome.system⟩

def also (first second : Action Status) : Action Status := do
  let status ← first
  second.map status.combine

def all : List (Action Status) → Action Status
  | [] => pure .success
  | action :: actions => action.also (all actions)

theorem pure_bind {α β : Type} (value : α) (next : α → Action β) :
    bind (pure value) next = next value := rfl

theorem bind_assoc {α β γ : Type} (first : Action α) (second : α → Action β)
    (third : β → Action γ) :
    bind (bind first second) third = bind first fun value => bind (second value) third := by
  funext system
  simp only [bind]
  cases first system with
  | mk result out err changed =>
    cases result with
    | error abort => rfl
    | ok value =>
      simp only
      cases second value changed with
      | mk later out err changed => cases later <;> simp

end Action

end Tunables
