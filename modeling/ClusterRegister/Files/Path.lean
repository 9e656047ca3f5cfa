/-!
# Paths

Paths are texts: names with slashes between them. Names are followed one by one, where `.` stays and
`..` goes up; the parent of a path is found in its text.
-/

namespace ClusterRegister.Files.Path

/-- The texts between the slashes of a path. -/
def segments : List Char → List (List Char)
  | [] => [[]]
  | c :: cs =>
    if c = '/' then [] :: segments cs
    else
      match segments cs with
      | [] => [[c]]
      | name :: rest => (c :: name) :: rest

def names (path : String) : List String :=
  ((segments path.toList).filter (· ≠ [])).map String.ofList

def isAbsolute (path : String) : Bool := path.toList.head? = some '/'

/-- A path that can only name a directory. -/
def endsInSlash (path : String) : Bool := path.toList.getLast? = some '/'

/-- A reversed path without trailing slashes and trailing names `.`, which do not change what it names. -/
def dropNeutral : List Char → List Char
  | [] => []
  | c :: r =>
    if c = '/' then dropNeutral r
    else if c = '.' then
      match r with
      | [] => []
      | d :: r' => if d = '/' then dropNeutral r' else c :: d :: r'
    else c :: r

/-- The part of a path that its parent keeps, the root or a leading `.`, and the rest. -/
def lead (cs : List Char) : List Char × List Char :=
  match cs with
  | '/' :: rest => (['/'], rest)
  | ['.'] => (['.'], [])
  | '.' :: '/' :: rest => (['.'], '/' :: rest)
  | _ => ([], cs)

/-- The path of the directory that holds what a path names: the path without its last name. Neither the
root nor the empty path has one. -/
def parent? (path : String) : Option String :=
  let (front, body) := lead path.toList
  match dropNeutral body.reverse with
  | [] => if front = ['.'] then some "" else none
  | rev =>
    some (String.ofList (front ++ (dropNeutral (rev.dropWhile (· ≠ '/'))).reverse))

end ClusterRegister.Files.Path
