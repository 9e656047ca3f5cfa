import ClusterRegister.Files.OsError
import ClusterRegister.Files.Path
import ClusterRegister.Register.Tables

/-!
# File trees

Directories and files as a program sees them from its working directory. A file has bytes, or it is a
store with tables. A store that is open is held, and cannot be opened again.
-/

namespace ClusterRegister.Files

open ClusterRegister.Register

/-- A place in a tree: the names from the root. -/
abbrev Place := List String

/-- What is at a place. -/
inductive Entry
  | directory
  | file (bytes : Bytes)
  | store (tables : Tables)

/-- A file tree: what is at the places below the root, the working directory, and the stores that are
open. -/
structure Tree where
  entries : List (Place × Entry)
  working : Place
  held : List Place

namespace Tree

/-- A tree with nothing but an empty working directory. -/
def fresh : Tree := ⟨[(["work"], .directory)], ["work"], []⟩

def entry? (t : Tree) (place : Place) : Option Entry :=
  if place = [] then some .directory else t.entries.lookup place

/-- The tree with an entry at a place, instead of what was there. -/
def set (t : Tree) (place : Place) (e : Entry) : Tree :=
  { t with entries := (place, e) :: t.entries.filter (·.1 ≠ place) }

def step (place : Place) (name : String) : Place :=
  if name = "." then place else if name = ".." then place.dropLast else place ++ [name]

/-- Follows names from a place. Every name has to be looked up in a directory; the place that the last one
leads to may be empty. -/
def follow (t : Tree) (place : Place) : List String → Except OsError Place
  | [] => .ok place
  | name :: rest =>
    match t.entry? place with
    | none => .error .notFound
    | some .directory =>
      if (Utf8.bytes name).length ≤ 255 then follow t (step place name) rest else .error .nameTooLong
    | some _ => .error .notDirectory

/-- The place that names lead to from where a path starts; a path that nothing can have leads nowhere. -/
def locateAlong (t : Tree) (path : String) (names : List String) : Except OsError Place :=
  if path.toList.contains '\x00' then .error .nulInPath
  else if path = "" then .error .notFound
  else if 4096 ≤ (Utf8.bytes path).length then .error .nameTooLong
  else t.follow (if Path.isAbsolute path then [] else t.working) names

/-- The place that a path names, which may be empty. -/
def locate (t : Tree) (path : String) : Except OsError Place := t.locateAlong path (Path.names path)

/-- The directory in which the last name of a path is looked up. -/
def locateAbove (t : Tree) (path : String) : Except OsError Place :=
  t.locateAlong path ((Path.names path).dropLast ++ ["."])

def find (t : Tree) (path : String) : Except OsError Entry := do
  let place ← t.locate path
  match t.entry? place with
  | none => throw .notFound
  | some .directory => pure .directory
  | some e => if Path.endsInSlash path then throw .notDirectory else pure e

def pathExists (t : Tree) (path : String) : Bool := (t.find path).isOk

def isDirectory (t : Tree) (path : String) : Bool :=
  match t.find path with
  | .ok .directory => true
  | _ => false

def makeDirectory (t : Tree) (path : String) : Except OsError Tree := do
  let place ← t.locate path
  match t.entry? place with
  | some _ => throw .alreadyExists
  | none => pure (t.set place .directory)

/-- Makes a directory and those above it that are missing, at most `fuel` of them; directories made
before a failure stay. -/
def makeDirectories : Nat → String → Tree → Except OsError Unit × Tree
  | 0, _, t => (.ok (), t)
  | fuel + 1, path, t =>
    if path = "" then (.ok (), t)
    else
      match t.makeDirectory path with
      | .ok t => (.ok (), t)
      | .error .notFound =>
        match Path.parent? path with
        | none => (.error .notFound, t)
        | some above =>
          match makeDirectories fuel above t with
          | (.error e, t) => (.error e, t)
          | (.ok (), t) => orThere path t (t.makeDirectory path)
      | .error e => orThere path t (.error e)
where
  /-- A directory that is there already is as good as a new one. -/
  orThere (path : String) (t : Tree) : Except OsError Tree → Except OsError Unit × Tree
    | .ok t => (.ok (), t)
    | .error e => if t.isDirectory path then (.ok (), t) else (.error e, t)

end Tree

/-- Why a file cannot be read as text. -/
inductive ReadError
  | os (error : OsError)
  | notUtf8
deriving DecidableEq, Repr

/-- Why a file cannot be read as text, in words. -/
def ReadError.message : ReadError → String
  | .os error => error.message
  | .notUtf8 => "stream did not contain valid UTF-8"

/-- The bytes of the file that a path names, if they are UTF-8; those of a store are not. -/
def Tree.readText (t : Tree) (path : String) : Except ReadError Bytes :=
  match t.find path with
  | .error e => .error (.os e)
  | .ok .directory => .error (.os .isDirectory)
  | .ok (.store _) => .error .notUtf8
  | .ok (.file bytes) => if (Utf8.decode? bytes).isSome then .ok bytes else .error .notUtf8

end ClusterRegister.Files
