import DataAccess.Error

-- Steps that may fail, one after the other.
namespace DataAccess.Failure

theorem bind_eq_ok {first : Except Error α} {next : α → Except Error β} {b : β} :
    (first >>= next) = .ok b ↔ ∃ a, first = .ok a ∧ next a = .ok b := by
  cases first <;> simp [Bind.bind,Except.bind]

theorem bind_eq_error {first : Except Error α} {next : α → Except Error β} {e : Error} :
    (first >>= next) = .error e ↔ first = .error e ∨ ∃ a, first = .ok a ∧ next a = .error e := by
  cases first <;> simp [Bind.bind,Except.bind]

end DataAccess.Failure
