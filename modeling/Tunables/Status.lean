namespace Tunables

inductive Status
  | success
  | failure
  | malformed
  deriving DecidableEq, Repr

namespace Status

def code : Status → Int
  | success => 0
  | failure => -1
  | malformed => -2

/-- Two statuses together are the bitwise or of their codes: −1 has every bit, −2 all but the last.
-/
def combine : Status → Status → Status
  | success, other => other
  | failure, _ => failure
  | malformed, failure => failure
  | malformed, _ => malformed

/-- The operating system keeps the last eight bits. -/
def exitCode (status : Status) : Nat := (status.code % 256).toNat

theorem combine_success (status : Status) : status.combine success = status := by
  cases status <;> rfl

theorem combine_assoc (first second third : Status) :
    (first.combine second).combine third = first.combine (second.combine third) := by
  cases first <;> cases second <;> cases third <;> rfl

theorem combine_comm (first second : Status) : first.combine second = second.combine first := by
  cases first <;> cases second <;> rfl

theorem combine_eq_success_iff {first second : Status} :
    first.combine second = success ↔ first = success ∧ second = success := by
  cases first <;> cases second <;> decide

end Status

end Tunables
