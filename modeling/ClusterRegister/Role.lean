import ClusterRegister.Text.Blank

/-!
# Replication roles
-/

namespace ClusterRegister

open ClusterRegister.Text

/-- The replication role of a database instance. -/
inductive Role
  | master
  | slave
deriving DecidableEq, Repr

instance : Inhabited Role := ⟨.slave⟩

def Role.name : Role → String
  | .master => "master"
  | .slave => "slave"

def Role.ofName? (s : String) : Option Role :=
  if s = Role.master.name then some .master
  else if s = Role.slave.name then some .slave
  else none

/-- The role that an operator names, in any ASCII case; otherwise the name in lower case. -/
def Role.ofText (s : String) : Except String Role :=
  match Role.ofName? (asciiLower s) with
  | some role => .ok role
  | none => .error (asciiLower s)

/-- What is wrong with a name that is no role. -/
def Role.unknownMessage (name : String) : String := "unknown role '" ++ name ++ "'"

theorem Role.ofName?_name (r : Role) : Role.ofName? r.name = some r := by cases r <;> decide

theorem Role.ofName?_eq_some_iff {s : String} {r : Role} : Role.ofName? s = some r ↔ s = r.name := by
  constructor
  · intro named
    rw [Role.ofName?] at named
    by_cases master : s = Role.master.name
    · rw [if_pos master] at named
      cases named
      exact master
    · rw [if_neg master] at named
      by_cases slave : s = Role.slave.name
      · rw [if_pos slave] at named
        cases named
        exact slave
      · rw [if_neg slave] at named
        cases named
  · rintro rfl
    exact Role.ofName?_name r

end ClusterRegister
