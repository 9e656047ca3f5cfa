import ClusterRegister.Register.Tables

/-!
# Transactions

A transaction changes a copy of the contents of a store step by step, and may be given up after any
step. Its changes count only when it has come to its end.
-/

namespace ClusterRegister.Register

/-- Steps on a copy of the contents. -/
abbrev Transaction (ε : Type) := ExceptT ε (StateM Tables)

/-- What a transaction comes to, with the contents that it commits. What one that is given up has
changed is dropped. -/
def Tables.transact {ε α : Type} (t : Tables) (act : Transaction ε α) : Except ε (α × Tables) :=
  match act.run.run t with
  | (.ok a, changed) => .ok (a, changed)
  | (.error e, _) => .error e

end ClusterRegister.Register
