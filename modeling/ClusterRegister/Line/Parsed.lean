import ClusterRegister.Line.Flags
import ClusterRegister.Line.Token
import ClusterRegister.Text.Blank

/-!
# Parsed lines

The grammar of operator lines:

    line  := exit | quit | help | cluster rest
    rest  := add flags | list | show id | id scope
    scope := host verb | instance verb
    verb  := add flags | list

Keywords match in any ASCII case. The second token of a `cluster` line is read as `add`, `list` or
`show` before it is read as an id. Every line has a shape: incomplete and unknown ones have their own.
-/

namespace ClusterRegister.Line

open ClusterRegister.Text

/-- The shapes of lines. -/
inductive Shape
  /-- no token -/
  | blank
  | exit
  | help
  /-- `cluster` alone -/
  | clusterAlone
  /-- another first token -/
  | unknown
  | clusterAdd
  | clusterList
  | clusterShow
  /-- `cluster show` without an id -/
  | clusterShowNoId
  /-- `cluster id` alone -/
  | clusterNoScope
  | hostAdd
  | hostList
  /-- `cluster id host` without a verb -/
  | hostNoVerb
  | instanceAdd
  | instanceList
  /-- `cluster id instance` without a verb -/
  | instanceNoVerb
  /-- `cluster id` with another scope -/
  | unknownScope
deriving DecidableEq, Repr

def Shape.all : List Shape :=
  [.blank, .exit, .help, .clusterAlone, .unknown, .clusterAdd, .clusterList, .clusterShow,
    .clusterShowNoId, .clusterNoScope, .hostAdd, .hostList, .hostNoVerb, .instanceAdd, .instanceList,
    .instanceNoVerb, .unknownScope]

def Shape.code : Shape → String
  | .blank => ""
  | .exit => "exit"
  | .help => "help"
  | .clusterAlone => "cluster_help"
  | .unknown => "unknown"
  | .clusterAdd => "cluster_add"
  | .clusterList => "cluster_list"
  | .clusterShow => "cluster_show"
  | .clusterShowNoId => "cluster_show_need_id"
  | .clusterNoScope => "cluster_sub_need_cmd"
  | .hostAdd => "host_add"
  | .hostList => "host_list"
  | .hostNoVerb => "host_need_add_list"
  | .instanceAdd => "instance_add"
  | .instanceList => "instance_list"
  | .instanceNoVerb => "instance_need_add_list"
  | .unknownScope => "unknown_sub"

def Shape.ofCode? (code : String) : Option Shape := Shape.all.find? (·.code = code)

/-- A line as it was understood: its shape, the id of the cluster that it addresses (empty if it
addresses none) and its flags. -/
structure Parsed where
  shape : Shape
  clusterId : String
  flags : Flags

namespace Parsed

/-- A line that addresses no cluster and has no flags. -/
def bare (shape : Shape) : Parsed := ⟨shape, "", .empty⟩

/-- A line that addresses a cluster and has no flags. -/
def addressed (shape : Shape) (id : String) : Parsed := ⟨shape, id, .empty⟩

/-- The value of a flag; an empty value counts as absent. -/
def flag (p : Parsed) (key : String) : Option String :=
  match p.flags.get? key with
  | some value => if value = "" then none else some value
  | none => none

/-- The verb after a scope: `add` with flags, `list`, or none of them. -/
def ofVerb (add list noVerb : Shape) (id : String) : List String → Parsed
  | [] => addressed noVerb id
  | verb :: rest =>
    if asciiLower verb = "add" then ⟨add, id, Line.flags rest⟩
    else if asciiLower verb = "list" then addressed list id
    else addressed noVerb id

/-- What follows the id of a cluster. -/
def ofScope (id : String) : List String → Parsed
  | [] => addressed .clusterNoScope id
  | scope :: rest =>
    if asciiLower scope = "host" then ofVerb .hostAdd .hostList .hostNoVerb id rest
    else if asciiLower scope = "instance" then
      ofVerb .instanceAdd .instanceList .instanceNoVerb id rest
    else addressed .unknownScope id

/-- What follows the word `cluster`. -/
def ofClusterWords : List String → Parsed
  | [] => bare .clusterAlone
  | word :: rest =>
    if asciiLower word = "add" then ⟨.clusterAdd, "", Line.flags rest⟩
    else if asciiLower word = "list" then bare .clusterList
    else if asciiLower word = "show" then
      match rest with
      | [] => bare .clusterShowNoId
      | id :: _ => addressed .clusterShow id
    else ofScope word rest

def ofTokens : List String → Parsed
  | [] => bare .blank
  | word :: rest =>
    if asciiLower word = "exit" then bare .exit
    else if asciiLower word = "quit" then bare .exit
    else if asciiLower word = "help" then bare .help
    else if asciiLower word = "cluster" then ofClusterWords rest
    else bare .unknown

/-- The line of a text, without regard to blanks around it. -/
def ofLine (line : String) : Parsed := ofTokens (tokens (String.ofList (trim line.toList)))

/-- The line of separate words: they are joined with single spaces. -/
def ofWords (words : List String) : Parsed := ofLine (" ".intercalate words)

end Parsed

end ClusterRegister.Line
