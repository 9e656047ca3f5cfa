import ClusterRegister.Text.Utf8

/-!
# Sinks

Where output goes: a sink takes bytes until its room is used up, and can be flushed until its flushes
are used up; then it fails. What it took before a failure stays written. As nothing is written after a
failure, every way in which output can fail comes to such limits.
-/

namespace ClusterRegister.Console

/-- Why reading or writing fails. -/
inductive StreamFailure
  | pipeClosed
  | flushFailed
  | readFailed
deriving DecidableEq, Repr

/-- Why reading or writing fails, in words. -/
def StreamFailure.message : StreamFailure → String
  | .pipeClosed => "pipe closed"
  | .flushFailed => "flush failed"
  | .readFailed => "read failed"

/-- A sink: what it took so far, how many bytes it still takes, and how many more times it can be flushed
(`none`: any number). -/
structure Sink where
  written : Array UInt8
  room : Option Nat
  flushes : Option Nat
deriving DecidableEq, Repr

namespace Sink

/-- A sink that never fails. -/
def unlimited : Sink := ⟨#[], none, none⟩

/-- A new sink that takes so many bytes, and that can always or never be flushed. -/
def limited (room : Option Nat) (flushes : Bool) : Sink := ⟨#[], room, if flushes then none else some 0⟩

/-- The sink after bytes are written to it, and whether it took them all. Without bytes nothing can
fail. -/
def write (s : Sink) (bs : Bytes) : Bool × Sink :=
  match s.room with
  | none => (true, { s with written := s.written ++ bs })
  | some n =>
    if bs.length ≤ n then (true, { s with written := s.written ++ bs, room := some (n - bs.length) })
    else (false, { s with written := s.written ++ bs.take n, room := some 0 })

/-- The sink after it is flushed, and whether it could be. -/
def flush (s : Sink) : Bool × Sink :=
  match s.flushes with
  | none => (true, s)
  | some 0 => (false, s)
  | some (n + 1) => (true, { s with flushes := some n })

end Sink

end ClusterRegister.Console
