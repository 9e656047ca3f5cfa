import ClusterRegister.Files.Tree

/-!
# Store files

Opening a store makes the directories above it and the file itself, if they are missing. An empty file
opens as an empty store. While a store is open, its tables are with whoever opened it; they go back when
it is closed.
-/

namespace ClusterRegister.Files

open ClusterRegister.Register

/-- Why a store does not open. -/
inductive OpenError
  | directory (path : String) (error : OsError)
  | os (error : OsError)
  | notStore
  | alreadyOpen
deriving DecidableEq, Repr

/-- Why a store does not open, in words. -/
def OpenError.message : OpenError → String
  | .directory path error => "failed to create store directory " ++ path ++ ": " ++ error.message
  | .os error => "open store: I/O error: " ++ error.message
  | .notStore => "open store: I/O error: invalid data"
  | .alreadyOpen => "open store: Database already open. Cannot acquire lock."

/-- The stable code of failures to open a store. -/
def OpenError.code : OpenError → String := fun _ => "GMHA_TOPOLOGY_PERSISTENCE"

/-- The tables of the store at a place where a file may be made. -/
def Tree.storeAt (t : Tree) (place : Place) : Except OpenError Tables :=
  match t.entry? place with
  | none => .ok .empty
  | some .directory => .error (.os .isDirectory)
  | some (.file []) => .ok .empty
  | some (.file (_ :: _)) => .error .notStore
  | some (.store tables) => if t.held.contains place then .error .alreadyOpen else .ok tables

/-- The place of the file that a path names or would name. A path that ends in a slash names none, whatever
its last name is. -/
def Tree.filePlace (t : Tree) (path : String) : Except OsError Place :=
  if Path.endsInSlash path then do
    let _ ← t.locateAbove path
    throw .isDirectory
  else t.locate path

/-- Takes hold of the store that a path names, in a tree where the directories above it exist. -/
def Tree.holdStore (t : Tree) (path : String) : Except OpenError (Place × Tables) × Tree :=
  match t.filePlace path with
  | .error e => (.error (.os e), t)
  | .ok place =>
    match t.storeAt place with
    | .error e => (.error e, t)
    | .ok tables =>
      let t := t.set place (.store tables)
      (.ok (place, tables), { t with held := place :: t.held })

def Tree.openStore (t : Tree) (path : String) : Except OpenError (Place × Tables) × Tree :=
  match Path.parent? path with
  | none => t.holdStore path
  | some above =>
    if above = "" || t.pathExists above then t.holdStore path
    else
      match t.makeDirectories (path.length + 1) above with
      | (.error e, t) => (.error (.directory above e), t)
      | (.ok (), t) => t.holdStore path

/-- Closes a store: its tables go back to their place. -/
def Tree.closeStore (t : Tree) (place : Place) (tables : Tables) : Tree :=
  let t := t.set place (.store tables)
  { t with held := t.held.filter (· ≠ place) }

/-- The tables of a store that a path names and that can be opened without making anything. -/
def Tree.storedTables? (t : Tree) (path : String) : Option Tables :=
  match t.find path with
  | .ok (.store tables) => some tables
  | _ => none

end ClusterRegister.Files
