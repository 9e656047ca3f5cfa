import ClusterRegister.Files.Image
import ClusterRegister.Program.Run
import Std.Time.DateTime.Timestamp

/-!
# The command line

Looks at the files that a run needs, runs the program on them, and writes back what has changed. A session is run
anew on the input so far whenever a line is read, so what it prints and stores is that of `Program.run`.
-/

namespace ClusterRegister.Program

open ClusterRegister.Calendar ClusterRegister.Console ClusterRegister.Files ClusterRegister.Register

/-- The path of a place from the root. -/
def placePath (place : Place) : String := "/" ++ "/".intercalate place

/-- What the file system has at a path whose parent is a directory. -/
def entryAt (path : String) : IO (Option Entry) := do
  match ← (IO.FS.readBinFile path).toBaseIO with
  | .ok contents =>
    let bytes := contents.data.toList
    match ofImage? bytes with
    | some tables => pure (some (.store tables))
    | none => pure (some (.file bytes))
  | .error (.noFileOrDirectory ..) => pure none
  | .error (.inappropriateType ..) => pure (some .directory)
  | .error e => throw e

/-- Takes into a tree what names lead to from a place. -/
def lookAlong (tree : Tree) (place : Place) : List String → IO Tree
  | [] => pure tree
  | name :: names => do
    let place := Tree.step place name
    match tree.entry? place with
    | some .directory => lookAlong tree place names
    | some _ => pure tree
    | none =>
      match ← entryAt (placePath place) with
      | none => pure tree
      | some e => lookAlong (tree.set place e) place names

/-- Takes into a tree what a path leads to. -/
def lookAt (tree : Tree) (path : String) : IO Tree :=
  lookAlong tree (if Path.isAbsolute path then [] else tree.working) (Path.names path)

def workingTree : IO Tree := do
  let names := Path.names (← IO.currentDir).toString
  let above := (List.range (names.length + 1)).map fun n => (names.take n, Entry.directory)
  pure ⟨above, names, []⟩

/-- Writes the tables of a store to its file. -/
def save (place : Place) (tables : Tables) : IO Unit :=
  IO.FS.writeBinFile (placePath place) ⟨(image tables).toArray⟩

/-- The bytes of the store at a place. -/
def imageAt? (tree : Tree) (place : Place) : Option Bytes :=
  match tree.entry? place with
  | some (.store tables) => some (image tables)
  | _ => none

/-- Makes the directories of a tree, and saves the stores that are not as they were. -/
def makeReal (before tree : Tree) : IO Unit :=
  for (place, e) in tree.entries.reverse do
    match e with
    | .directory => IO.FS.createDirAll (placePath place)
    | .store tables => unless imageAt? before place = some (image tables) do save place tables
    | .file _ => pure ()

/-- The time, to the nanosecond. -/
def currentInstant : IO Instant := do
  let t ← Std.Time.Timestamp.now
  let nanos := t.toNanosecondsSinceUnixEpoch.val
  pure ((Instant.ofParts? (nanos / 1000000000) (nanos % 1000000000).toNat).getD .epoch)

/-- Reads bytes up to a line feed or the end. -/
partial def readLine (stdin : IO.FS.Stream) (line : Array UInt8) : IO Bytes := do
  let chunk ← stdin.read 1
  match chunk.data[0]? with
  | none => pure line.toList
  | some b => if b = 0x0A then pure (line.push b).toList else readLine stdin (line.push b)

/-- The tree of the files that a run needs, and the settings under which it opens its store. -/
def surveyed (words : List String) (fallback : Option String) : IO (Tree × Option Settings) := do
  let tree ← workingTree
  match Arguments.ofWords words with
  | .error _ => pure (tree, none)
  | .ok a =>
    let tree ← lookAt tree (a.config.getD usualFile)
    match prepare tree a fallback with
    | .error _ => pure (tree, none)
    | .ok s => pure (← lookAt tree s.storePath, some s)

/-- Locks the store that a run is to open, if it opens. The tables are read again, as they may have changed before that;
a store that another program has locked is held. -/
def lock (tree : Tree) (s : Settings) : IO (Tree × Option IO.FS.Handle) := do
  match openStore tree s with
  | (.error _, _) => pure (tree, none)
  | (.ok (place, tables), opened) =>
    makeReal opened opened
    let handle ← IO.FS.Handle.mk (placePath place) .append
    if ← handle.tryLock then
      let tables := match ← entryAt (placePath place) with
        | some (.store latest) => latest
        | _ => tables
      save place tables
      pure (opened.closeStore place tables, some handle)
    else pure (opened, none)

/-- A run under way: what it started with, the input that it read so far and the times of its lines, and what has come
of it. -/
structure Course where
  words : List String
  fallback : Option String
  start : Tree
  began : Instant
  heard : Bytes
  times : Array Instant
  printed : Nat
  tree : Tree

/-- Runs the program on the input so far, from the start, and brings out what is new. -/
def Course.advance (c : Course) (ending : InputEnd) : IO (Program.Ending × Course) := do
  let (outcome, tree) := run c.start (fun n => c.times.getD n c.began) c.fallback c.words ⟨c.heard, ending⟩
  makeReal c.tree tree
  let stdout ← IO.getStdout
  stdout.write ⟨(outcome.stdout.drop c.printed).toArray⟩
  stdout.flush
  pure (outcome.ending, { c with printed := outcome.stdout.length, tree })

/-- Reads line after line, as long as what the run lacks is more input. -/
partial def Course.follow (c : Course) : IO Program.Ending := do
  match ← c.advance .broken with
  | (.failed (.stream .readFailed), c) =>
    let line ← readLine (← IO.getStdin) #[]
    let c := { c with heard := c.heard ++ line, times := c.times.push (← currentInstant) }
    if line.getLast? = some 0x0A then c.follow else pure (← c.advance .closed).1
  | (ending, _) => pure ending

/-- Runs the program with the words of a command line. -/
def start (words : List String) : IO Program.Ending := do
  let fallback ← IO.getEnv "RUST_LOG"
  let (tree, settings) ← surveyed words fallback
  let (tree, handle) ← match settings with
    | some s => lock tree s
    | none => pure (tree, none)
  let ending ← Course.follow ⟨words, fallback, tree, ← currentInstant, [], #[], 0, tree⟩
  if let some handle := handle then handle.unlock
  pure ending

end ClusterRegister.Program

open ClusterRegister.Program in
def main (words : List String) : IO UInt32 := do
  let ending ← start words
  match ending with
  | .stopped stop => IO.eprint stop.complaint
  | .failed failure => IO.eprintln failure.report
  | .aborted cut => IO.eprintln cut.message
  | .orderExhausted => IO.eprintln "cluster order exhausted"
  | .finished => pure ()
  pure ending.status.toUInt32
