/-!
# Arguments

The words after the name of the program: first options, then the words of a command. The command begins
with the first word that is neither an option nor the value of one; from there on every word belongs to
it as it is. A word `--` before that only ends the options.
-/

namespace ClusterRegister.Program

/-- What the words ask for. Without words of a command the session is interactive. -/
structure Arguments where
  config : Option String
  store : Option String
  logLevel : Option String
  command : List String
deriving DecidableEq, Repr

def Arguments.isInteractive (a : Arguments) : Bool := a.command.isEmpty

/-- Why the words start nothing: they ask for the help or the version, or an option is misused. -/
inductive Stop
  | help
  | version
  | badValue
  | repeated
  | valueNotTaken
deriving DecidableEq, Repr

def Stop.status : Stop → Nat
  | .help => 0
  | .version => 0
  | .badValue => 2
  | .repeated => 2
  | .valueNotTaken => 2

/-- The options that take a value. -/
inductive Opt
  | config
  | store
  | logLevel
deriving DecidableEq, Repr

/-- The options by their names after two dashes. -/
def Opt.ofName? (name : String) : Option Opt :=
  if name = "config" then some .config
  else if name = "store" then some .store
  else if name = "log-level" then some .logLevel
  else none

/-- What is settled so far, and an option that waits for its value or to be settled with it. -/
structure Progress where
  settled : Arguments
  waiting : Option (Opt × Option String)
deriving DecidableEq, Repr

def Progress.initial : Progress := ⟨⟨none, none, none, []⟩, none⟩

def Arguments.value (a : Arguments) : Opt → Option String
  | .config => a.config
  | .store => a.store
  | .logLevel => a.logLevel

/-- The arguments with a value for an option. -/
def Arguments.withValue (a : Arguments) (opt : Opt) (value : String) : Arguments :=
  match opt with
  | .config => { a with config := some value }
  | .store => { a with store := some value }
  | .logLevel => { a with logLevel := some value }

/-- Settles an option: it needs a value, must not repeat, and a path must not be empty. -/
def Arguments.settle (a : Arguments) (opt : Opt) : Option String → Except Stop Arguments
  | none => .error .badValue
  | some value =>
    if (a.value opt).isSome then .error .repeated
    else if value = "" ∧ opt ≠ .logLevel then .error .badValue
    else .ok (a.withValue opt value)

/-- The arguments once the waiting option is settled. -/
def Progress.finish (p : Progress) : Except Stop Arguments :=
  match p.waiting with
  | none => .ok p.settled
  | some (opt, value) => p.settled.settle opt value

/-- What a single word is. -/
inductive Word
  /-- the end of the options -/
  | divider
  /-- a known option, with a value attached to it if it has an equals sign -/
  | option (opt : Opt) (attached : Option String)
  /-- a request for help or version -/
  | question (answer : Stop)
  /-- a request for help or version with a value -/
  | questionWithValue
  /-- anything else -/
  | plain
deriving DecidableEq, Repr

/-- The parts of a text before and after its first equals sign, if it has one. -/
def splitValue : List Char → List Char × Option (List Char)
  | [] => ([], none)
  | c :: cs =>
    if c = '=' then ([], some cs)
    else
      let (name, value) := splitValue cs
      (c :: name, value)

/-- The answer to a single letter after a dash. -/
def shortAnswer? (c : Char) : Option Stop :=
  if c = 'h' then some .help else if c = 'V' then some .version else none

def Word.ofLong (cs : List Char) : Word :=
  let (name, value) := splitValue cs
  let name := String.ofList name
  let question (answer : Stop) : Word := if value.isSome then .questionWithValue else .question answer
  if name = "help" then question .help
  else if name = "version" then question .version
  else
    match Opt.ofName? name with
    | some opt => .option opt (value.map String.ofList)
    | none => .plain

/-- What a text after one dash is: letters all of which ask something, or a plain word. -/
def Word.ofShort (cs : List Char) : Word :=
  match cs with
  | [] => .plain
  | c :: _ =>
    if cs.all (fun c => (shortAnswer? c).isSome) then
      match shortAnswer? c with
      | some answer => .question answer
      | none => .plain
    else .plain

def Word.of (word : String) : Word :=
  match word.toList with
  | ['-', '-'] => .divider
  | '-' :: '-' :: long => .ofLong long
  | '-' :: short => .ofShort short
  | _ => .plain

def readWords : Progress → List String → Except Stop Arguments
  | p, [] => p.finish
  | p, word :: rest =>
    match Word.of word with
    | .divider => do pure { ← p.finish with command := rest }
    | .option opt (some value) => do
      let settled ← p.finish
      let settled ← settled.settle opt (some value)
      readWords ⟨settled, none⟩ rest
    | .option opt none => do
      let settled ← p.finish
      readWords ⟨settled, some (opt, none)⟩ rest
    | .question answer => do
      let _ ← p.finish
      throw answer
    | .questionWithValue => .error .valueNotTaken
    | .plain =>
      match p.waiting with
      | some (opt, none) => readWords ⟨p.settled, some (opt, some word)⟩ rest
      | _ => do pure { ← p.finish with command := word :: rest }

def Arguments.ofWords (words : List String) : Except Stop Arguments := readWords .initial words

def helpText : String :=
  "A cluster-topology register for database high-availability clusters\n\n" ++
  "Usage: gmha [OPTIONS] [COMMAND]...\n\n" ++
  "Arguments:\n" ++
  "  [COMMAND]...  Command to run once, e.g. `cluster demo host list`. " ++
  "Starts an interactive session when omitted\n\n" ++
  "Options:\n" ++
  "      --config <CONFIG>        Path to configuration file [default: ./gmha.json if present]\n" ++
  "      --store <STORE>          Store file, overrides `store_path` from the configuration\n" ++
  "      --log-level <LOG_LEVEL>  Log filter (e.g. \"info\", \"gmha=debug\"), overrides RUST_LOG\n" ++
  "  -h, --help                   Print help\n" ++
  "  -V, --version                Print version\n"

def versionText : String := "gmha 0.1.0\n"

def Stop.output : Stop → String
  | .help => helpText
  | .version => versionText
  | _ => ""

/-- What is wrong with the options, in words. -/
def Stop.complaint : Stop → String
  | .badValue => "an option lacks a value that it can take\n"
  | .repeated => "an option is given twice\n"
  | .valueNotTaken => "an option is given a value that it does not take\n"
  | _ => ""

end ClusterRegister.Program
