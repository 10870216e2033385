import Mathlib.Data.Option.Basic

/-! Chains of checks: a list of conditions of which the first that applies decides
the error, and `do` blocks of `Option` read backwards from their result.
-/
namespace P2pstream.Library.Checks

variable {α β ε : Type}

theorem refuse_eq_none {refused : Prop} [Decidable refused] {error : ε} {rest : Option ε} :
    (if refused then some error else rest) = none ↔ ¬ refused ∧ rest = none := by
  by_cases applies : refused <;> simp [applies]

theorem absent {found : Option α} {a : α} {p : Prop} (some : found = some a) (none : found = none) : p :=
  nomatch some.symm.trans none

theorem bind_some {first : Option α} {rest : α → Option β} {b : β} :
    first >>= rest = some b ↔ ∃ a, first = some a ∧ rest a = some b :=
  Option.bind_eq_some_iff

theorem guard_some {checked : Prop} [Decidable checked] {rest : Prop} :
    (∃ passed : Unit, guard checked = some passed ∧ rest) ↔ checked ∧ rest := by
  simp

theorem pure_some {a b : α} : (pure a : Option α) = some b ↔ a = b := Option.some_inj

theorem pure_pair {a a' : α} {b b' : β} : (pure (a,b) : Option (α × β)) = some (a',b') ↔ a = a' ∧ b = b' := by
  simp

end P2pstream.Library.Checks
