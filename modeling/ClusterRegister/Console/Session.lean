import ClusterRegister.Console.Execute

/-!
# Sessions

A session takes its commands from the lines of its input, or one command from words. Input is bytes:
it is cut after each line feed, and what is not UTF-8 in a line is replaced.
-/

namespace ClusterRegister.Console

open ClusterRegister.Line

/-- What comes after the last byte of an input. -/
inductive InputEnd
  | closed
  | broken
deriving DecidableEq, Repr

/-- An input: its bytes and its end. -/
structure Input where
  bytes : Bytes
  ending : InputEnd
deriving DecidableEq, Repr

/-- Puts a byte at the head of the first piece; a line feed ends a piece of its own. -/
def consPiece (b : UInt8) : List Bytes → List Bytes
  | [] => [[b]]
  | piece :: rest => if b = 0x0A then [b] :: piece :: rest else (b :: piece) :: rest

/-- Bytes cut after each line feed; a last piece may lack it. -/
def pieces : Bytes → List Bytes
  | [] => []
  | b :: bs => consPiece b (pieces bs)

/-- The lines that can be read from an input. A last line that is not ended is lost when the input
breaks off. -/
def Input.lines (input : Input) : List Bytes :=
  match input.ending with
  | .closed => pieces input.bytes
  | .broken => (pieces input.bytes).filter (fun piece => piece.getLast? = some 0x0A)

def lineText (bs : Bytes) : String := String.ofList (Utf8.decodeLossy bs)

def banner : List String :=
  ["gmha - cluster topology register for database HA clusters",
    "type help for commands, exit to quit", ""]

def ask (prompt : String) : Shell Unit := do
  say prompt
  flush

/-- Executes a line, and takes leave if the session is to end. -/
def answer (env : Surroundings) (line : Bytes) : Shell Flow := do
  match ← executeLine env (lineText line) with
  | .leave => do sayLine "  bye"; pure .leave
  | .goOn => pure .goOn

/-- The surroundings of the lines after the first one. Each line has its own, as time passes between them. -/
def afterFirst (env : Nat → Surroundings) : Nat → Surroundings := fun n => env (n + 1)

/-- Prompts for each line and answers it in its surroundings, until a line leaves the session or the input ends. -/
def readLoop (env : Nat → Surroundings) (prompt : String) (ending : InputEnd) : List Bytes → Shell Unit
  | [] => do
    ask prompt
    match ending with
    | .closed => sayLine ""
    | .broken => throw (.stream .readFailed)
  | line :: lines => do
    ask prompt
    match ← answer (env 0) line with
    | .leave => pure ()
    | .goOn => readLoop (afterFirst env) prompt ending lines

def interactive (env : Nat → Surroundings) (prompt : String) (input : Input) : Shell Unit := do
  sayLines banner
  readLoop env prompt input.ending input.lines
  flush

def oneShot (env : Surroundings) (words : List String) : Shell Unit := do
  let _ ← execute env (.ofWords words)
  flush

end ClusterRegister.Console
